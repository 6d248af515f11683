import PayloadGen.Dict
import PayloadGen.Number.Layout
import PayloadGen.Text.Quoted
import PayloadGen.Yaml.Value.Timestamp

/-!
# Values of YAML nodes

What a node stands for when nothing is known about the place it is read into. A mapping whose keys
are texts is a dictionary; any other is a table.
-/

namespace PayloadGen.Yaml

open Text

/-- A value. -/
inductive Value where
  | null
  | bool (b : Bool)
  | int (n : Int)
  | float (x : Binary64)
  | time (t : Timestamp)
  | text (s : String)
  | list (items : List Value)
  /-- A mapping with text keys, in ascending order. -/
  | dict (entries : List (String × Value))
  /-- A mapping with other keys. -/
  | table (entries : List (Value × Value))

namespace Value

/-- The tag of a scalar value. -/
def tag : Value → String
  | null => "!!null"
  | bool _ => "!!bool"
  | int _ => "!!int"
  | float _ => "!!float"
  | time _ => "!!timestamp"
  | text _ => "!!str"
  | list _ => "!!seq"
  | dict _ | table _ => "!!map"

/-- Are the two values the same key of a mapping? -/
def sameKey : Value → Value → Bool
  | null, null => true
  | bool a, bool b => a == b
  | int a, int b => a == b
  | float a, float b => a == b && a != .nan
  | text a, text b => a == b
  | time a, time b => a.render == b.render
  | _, _ => false

/-- Is the value a collection? -/
def isCollection : Value → Bool
  | list _ | dict _ | table _ => true
  | _ => false

mutual

/-- How a value is shown in messages about keys. -/
def shown : Value → String
  | null => "interface \x7b\x7d(nil)"
  | bool b => if b then "true" else "false"
  | int n => ofInt n
  | float x => x.render .json
  | time t => t.render
  | text s => quote s
  | list items => "[]interface \x7b\x7d\x7b" ++ shownItems items ++ "\x7d"
  | dict entries => "map[string]interface \x7b\x7d\x7b" ++ shownEntries entries ++ "\x7d"
  | table entries => "map[interface \x7b\x7d]interface \x7b\x7d\x7b" ++ shownPairs entries ++ "\x7d"

/-- The items of a list, separated by commas. -/
def shownItems : List Value → String
  | [] => ""
  | [v] => v.shown
  | v :: r => v.shown ++ ", " ++ shownItems r

/-- The entries of a dictionary, separated by commas. -/
def shownEntries : List (String × Value) → String
  | [] => ""
  | [(k, v)] => quote k ++ ":" ++ v.shown
  | (k, v) :: r => quote k ++ ":" ++ v.shown ++ ", " ++ shownEntries r

/-- The entries of a table, separated by commas. -/
def shownPairs : List (Value × Value) → String
  | [] => ""
  | [(k, v)] => k.shown ++ ":" ++ v.shown
  | (k, v) :: r => k.shown ++ ":" ++ v.shown ++ ", " ++ shownPairs r

end

end Value

end PayloadGen.Yaml
