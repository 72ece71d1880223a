/-! Connection settings and defaults for compiling. -/
namespace PortableSearch

structure Settings where
  host : String
  index : Option String
  documentType : String
  keepAlive : String
  timeZone : String
  pageSize : Int
  /-- In seconds. -/
  requestTimeout : Float
  verifyCerts : Bool

end PortableSearch
