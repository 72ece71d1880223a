import PortableSearch.Reply.Decode
import PortableSearch.Transport.Address

/-! Transports carry requests to an engine and its replies back. A transport is given by what it
answers in a state and the state it is left in; failures are passed on as they are. -/
namespace PortableSearch

/-- How a transport fails. -/
inductive TransportFault where
  | connection (message : String)
  | timeout (message : String)
deriving DecidableEq, Repr

/-- An initial search. -/
structure SearchCall where
  index : String
  documentType : Option String
  body : Value
  /-- How long a cursor is to be kept alive, if one is wanted. -/
  keepAlive : Option String

/-- A request for the next page of a cursor. -/
structure Continuation where
  keepAlive : String
  token : String
deriving DecidableEq, Repr

/-- What comes back from a transport. -/
abbrev Reaction := Except TransportFault Reply.Raw

structure Transport (σ : Type) where
  search : SearchCall → σ → Reaction × σ
  resume : Continuation → σ → Reaction × σ

/-- A client of the engine takes the arguments of a call by name. -/
structure Client (σ : Type) where
  search : Members → σ → Reaction × σ
  scroll : Members → σ → Reaction × σ

/-- The arguments of a client for a search: document types are not sent, and a keep-alive only if
it is not empty. -/
def SearchCall.arguments (c : SearchCall) : Members :=
  [("index", .str c.index), ("body", c.body)] ++
    match c.keepAlive with
    | some s => if s.isEmpty then [] else [("scroll", .str s)]
    | none => []

/-- The arguments of a client for a continuation. -/
def Continuation.arguments (c : Continuation) : Members :=
  [("scroll_id", .str c.token), ("scroll", .str c.keepAlive)]

/-- The transport over a client. -/
def Client.transport {σ : Type} (client : Client σ) : Transport σ where
  search c := client.search c.arguments
  resume c := client.scroll c.arguments

/-- Why a client cannot be made. -/
inductive ClientFault where
  | noHost
  | unreadableHost
deriving DecidableEq, Repr

/-- What is said about a client that is to be made without an address. -/
def ClientFault.message? : ClientFault → Option String
  | noHost => some "es_host is required when no client is provided"
  | unreadableHost => none

/-- The address for a new client, as it is written; an empty one does not count. -/
def Client.address (host : Option String) : Except ClientFault String :=
  match host.filter fun h => !h.isEmpty with
  | none => .error .noHost
  | some h => if (Address.ofText? h).isSome then .ok h else .error .unreadableHost

end PortableSearch
