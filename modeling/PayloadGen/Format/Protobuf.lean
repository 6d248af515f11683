import PayloadGen.Format.Sheet

/-!
# Protocol buffer messages

A `proto3` file with one message per class. Fields are numbered in order, from one. The format has
no sequences of sequences.
-/

namespace PayloadGen.Format.Protobuf

open Text

/-- The package of a file that is given none. -/
def defaultPackage : String := "payloads"

/-- What a field comment says: the description on one line, and the values that the field is limited
to. -/
def note (f : FieldRow) : String :=
  let d := trim f.description
  let description := if d = "" then [] else [replace d "\n" " "]
  let values := if f.literals.isEmpty then [] else ["one of: " ++ ", ".intercalate f.literals]
  "; ".intercalate (description ++ values)

/-- The spelling of types in a file. -/
def dialect : Dialect where
  scalar
    | .integer => "int64"
    | .number => "double"
    | .boolean => "bool"
    | .string => "string"
  literal _ := "string"
  list e := "repeated " ++ e
  tuple e _ := .ok ("repeated " ++ e)
  classRef c := c
  typeName c := c
  callbackName c := c
  finish f :=
    { f with
      name := Name.snake f.name
      type := if f.nullable && !startsWith f.type "repeated " then "optional " ++ f.type else f.type
      description := note f }

/-- The first field whose type is a sequence of sequences. -/
def nestedArray? (types : List TypeRow) : Option (String × String) :=
  types.findSome? fun t =>
    (t.fields.find? fun f => occursIn "repeated repeated".toList f.type.toList).map fun f =>
      (t.name, f.name)

/-- The lines of a field with its number, each after a line break. -/
def fieldLines (f : FieldRow) (number : Nat) : String :=
  let comment := if f.description = "" then "" else "\n  // " ++ f.description
  comment ++ "\n  " ++ f.type ++ " " ++ f.name ++ " = " ++ ofInt number ++ ";"

/-- A message. -/
def message (t : TypeRow) : String :=
  "\nmessage " ++ t.name ++ " \x7b" ++ String.join (t.fields.mapIdx fun i f =>
    fieldLines f (i + 1)) ++ "\n\x7d\n"

/-- What stands before the messages of a file: its package, and the class of each topic in a
comment. -/
def header (package : String) (topics : Pairs String) : String :=
  let name := Name.snake (if package = "" then defaultPackage else package)
  let lines := if topics.isEmpty then "" else
    "\n\n// Topics:" ++ String.join (topics.map fun (t, c) => "\n//   " ++ t ++ " -> " ++ c)
  "// Code generated by asyncgen. DO NOT EDIT.\n\nsyntax = \"proto3\";\n\npackage " ++
    name ++ ";" ++ lines ++ "\n"

/-- The file of a unit. -/
def render (package : String) (u : CompiledUnit) : Except Error String := do
  let s ← dialect.sheet u
  match nestedArray? s.types with
  | some (c, f) => .error (.nestedArrays c f)
  | none => return header package s.topics ++ String.join (s.types.map message)

end PayloadGen.Format.Protobuf
