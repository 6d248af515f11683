import PayloadGen.Json.Structure

/-!
# Writing JSON

The text of a JSON value without blanks, and its layout with one item or member per line, two blanks
per level. There atoms stand as they are written, but for the characters that strings escape for web
pages.
-/

namespace PayloadGen.Json

/-- A string as the value of a tree. -/
def ofString (s : String) : Json :=
  .atom (quoted s)

/-- An object with the given members. -/
def ofMembers (members : List (String × Json)) : Json :=
  .object (members.map fun (name, v) => (quoted name, [], v))

/-! ## Without blanks -/

mutual

/-- The text of a value without blanks. -/
def compact : Json → List Char
  | .atom literal => literal
  | .array items => '[' :: compactItems items ++ [']']
  | .object members => '{' :: compactMembers members ++ ['}']

/-- The items of an array, separated by commas. -/
def compactItems : List Json → List Char
  | [] => []
  | [v] => v.compact
  | v :: r => v.compact ++ ',' :: compactItems r

/-- The members of an object, separated by commas. -/
def compactMembers : List (List Char × List Char × Json) → List Char
  | [] => []
  | [(name, _, v)] => name ++ ':' :: v.compact
  | (name, _, v) :: r => name ++ ':' :: v.compact ++ ',' :: compactMembers r

end

/-- A member whose value is written without blanks. -/
def member (name : String) (v : Json) : List Char × List Char × Json :=
  (quoted name, v.compact, v)

/-! ## Over several lines -/

/-- A character of an atom. -/
def safeChar (c : Char) : List Char :=
  if isMarkup c then escapedChar c else [c]

/-- A new line at a depth of nesting. -/
def newline (depth : Nat) : List Char :=
  '\n' :: List.replicate (2 * depth) ' '

mutual

/-- The value over several lines; `depth` is the level of the line it starts on. -/
def indented (depth : Nat) : Json → List Char
  | .atom literal => literal.flatMap safeChar
  | .array [] => ['[', ']']
  | .object [] => ['{', '}']
  | .array items =>
    '[' :: newline (depth + 1) ++ indentedItems (depth + 1) items ++ newline depth ++ [']']
  | .object members =>
    '{' :: newline (depth + 1) ++ indentedMembers (depth + 1) members ++ newline depth ++ ['}']

/-- The items of an array, each on a line of its own. -/
def indentedItems (depth : Nat) : List Json → List Char
  | [] => []
  | [v] => v.indented depth
  | v :: r => v.indented depth ++ ',' :: newline depth ++ indentedItems depth r

/-- The members of an object, each on a line of its own. -/
def indentedMembers (depth : Nat) : List (List Char × List Char × Json) → List Char
  | [] => []
  | [(name, _, v)] => name.flatMap safeChar ++ [':', ' '] ++ v.indented depth
  | (name, _, v) :: r =>
    name.flatMap safeChar ++ [':', ' '] ++ v.indented depth ++ ',' :: newline depth ++
      indentedMembers depth r

end

end PayloadGen.Json
