import PayloadGen.Json.Writer
import PayloadGen.Yaml.Value.Basic

/-!
# Values as JSON

A value as JSON, if it can be: keys must be texts and numbers finite.
-/

namespace PayloadGen

namespace Yaml.Value

mutual

/-- The value as JSON. -/
def toJson? : Value → Option Json
  | .null => some (.atom "null".toList)
  | .bool b => some (.atom (if b then "true" else "false").toList)
  | .int n => some (.atom (Text.ofInt n).toList)
  | .float x =>
    match x with
    | .finite .. => some (.atom (x.render .json).toList)
    | .infinite _ | .nan => none
  | .time t => if t.isStandard then some (.atom (Json.quoted t.render)) else none
  | .text s => some (.atom (Json.quoted s))
  | .list items => (itemsToJson? items).map .array
  | .dict entries => (entriesToJson? entries).map .object
  | .table _ => none

/-- The items of a list as JSON. -/
def itemsToJson? : List Value → Option (List Json)
  | [] => some []
  | v :: r => do
    let v ← v.toJson?
    let r ← itemsToJson? r
    return v :: r

/-- The entries of a dictionary as JSON. -/
def entriesToJson? : List (String × Value) → Option (List (List Char × List Char × Json))
  | [] => some []
  | (k, v) :: r => do
    let v ← v.toJson?
    let r ← entriesToJson? r
    return Json.member k v :: r

end

end Yaml.Value

end PayloadGen
