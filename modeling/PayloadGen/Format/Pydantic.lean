import PayloadGen.Format.Sheet

/-!
# Pydantic models

A Python module with one model per class and one protocol per callback.
-/

namespace PayloadGen.Format.Pydantic

open Text

/-- The Python spelling of a JSON constant. -/
def constant : String → String
  | "true" => "True"
  | "false" => "False"
  | "null" => "None"
  | v => v

/-- The call that annotates a constrained field; a field without a default is marked as
mandatory. -/
def fieldCall (c : Constraint) : String :=
  let first := match c.default? with
    | some d => "default=" ++ constant d
    | none => "..."
  "Field(" ++ ", ".intercalate (first :: bounds "ge=" "le=" "min_items=" "max_items=" c) ++ ")"

/-- The quotes of a docstring. -/
def triple : List Char := ['"', '"', '"']

/-- A text with triple quotes escaped. -/
def escape (s : List Char) : List Char :=
  replaceAll triple ['\\', '"', '\\', '"', '\\', '"'] s

/-- A text with its lines after the first indented. -/
def indent (s : List Char) : List Char :=
  replaceAll ['\n'] ['\n', '\t'] s

/-- A description as the inside of a docstring. -/
def docstring (s : String) : String :=
  String.ofList (indent (trimWhere isSpace (escape s.toList)))

/-- The spelling of types in Python. -/
def dialect : Dialect where
  scalar
    | .integer => "int"
    | .number => "float"
    | .boolean => "bool"
    | .string => "str"
  literal ls := "Literal[" ++ ", ".intercalate (ls.map quote) ++ "]"
  list e := "List[" ++ e ++ "]"
  tuple e n :=
    if n < 0 then .error .negativeLength
    else if n = 0 then .ok "Tuple[()]"
    else .ok ("Tuple[" ++ ", ".intercalate (List.replicate n.toNat e) ++ "]")
  classRef c := c
  typeName c := c
  callbackName := Name.callback
  finish f :=
    { f with
      type := if f.nullable then "Optional[" ++ f.type ++ "]" else f.type
      tag := match f.constraint with
        | some c => " = " ++ fieldCall c
        | none => ""
      description := if f.description = "" then "" else docstring f.description }

/-- The lines of a field, each after a line break. -/
def fieldLines (f : FieldRow) : String :=
  let doc := if f.description = "" then "" else "\n\t\"\"\"\n\t" ++ f.description ++ "\n\t\"\"\""
  "\n\t" ++ f.name ++ ": " ++ f.type ++ f.tag ++ doc

/-- A model. -/
def model (t : TypeRow) : String :=
  "\nclass " ++ t.name ++ "(BaseModel):\n\tclass Config:\n\t\textra = Extra.forbid\n" ++
    String.join (t.fields.map fieldLines) ++ "\n\n"

/-- The protocol of a callback. -/
def protocol (c : Callback) : String :=
  "\nclass " ++ c.name ++
    "(Protocol):\n\t\"\"\"\n\tClass used only for type-hinting MQTT callbacks.\n\t\"\"\"\n" ++
    "\tdef __call__(self, payload: " ++ c.payload ++ ") -> Any:\n\t\t...\n\n"

/-- What stands at the top of a module. -/
def header : String :=
  "# This file is automatically @generated. DO NOT EDIT!\n# fmt: off\n\n" ++
    "from __future__ import annotations\n\n" ++
    "from typing import Any, List, Literal, Optional, Protocol, Tuple\n\n" ++
    "from pydantic import BaseModel, Extra, Field\n\n"

/-- The module of a unit. -/
def render (u : CompiledUnit) : Except Error String := do
  let s ← dialect.sheet u
  return header ++ String.join (s.types.map model) ++ String.join (s.callbacks.map protocol)

end PayloadGen.Format.Pydantic
