import PortableSearch.Context
import PortableSearch.Request.Kinds

/-! The context that the parameters of a request ask for. -/
namespace PortableSearch.Context
open PortableSearch.Shape

/-- The first of two parameters and a default that is not missing. -/
def firstZone (params : Members) (fallback : Option String) : Value :=
  let camel := params.get "timeZone"
  let snake := params.get "time_zone"
  if !camel.isMissing then camel
  else if !snake.isMissing then snake
  else Value.ofOption .str fallback

def ofFields (fields : Members) : Context :=
  ⟨fields.text? "time_zone", (fields.get "now").moment?⟩

/-- The context of parameters: the time zone they name, or the default. -/
def ofParams (params : Members) (fallback : Option String) (now : Value) : Checked Context :=
  let members : Members := [("time_zone", firstZone params fallback), ("now", now)]
  (readRecordFields .data Request.contextType members).map ofFields

end PortableSearch.Context
