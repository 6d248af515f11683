import PayloadGen.Format.Sheet

/-!
# Markdown reference

A page with tables of topics, of the fields of each type, and of callbacks.
-/

namespace PayloadGen.Format.Markdown

open Text

/-- The link target of a heading. -/
def anchor (name : String) : String :=
  String.ofList (name.toList.map lower)

/-- A text as the content of a table cell: on one line, with bars escaped. -/
def cell (s : String) : String :=
  replace (replace (trim s) "\n" " ") "|" "\\|"

/-- A text in code style. -/
def code (s : String) : String :=
  "`" ++ s ++ "`"

/-- A link to the section of a type. -/
def link (name : String) : String :=
  "[" ++ name ++ "](#" ++ anchor name ++ ")"

/-- The spelling of types on the page. -/
def dialect : Dialect where
  scalar
    | .integer => "integer"
    | .number => "number"
    | .boolean => "boolean"
    | .string => "string"
  literal _ := "enum"
  list e := "array(" ++ e ++ ")"
  tuple e n := .ok ("array(" ++ e ++ ")[" ++ ofInt n ++ "]")
  classRef := link
  typeName c := c
  callbackName := Name.callback
  finish f := { f with description := cell f.description }

/-- What limits the values of a field. -/
def constraints (f : FieldRow) : String :=
  let values := if f.literals.isEmpty then []
    else ["enum: " ++ ", ".intercalate (f.literals.map code)]
  let limits := match f.constraint with
    | some c => present "default: " (c.default?.map code) ++
      bounds "minimum: " "maximum: " "minItems: " "maxItems: " c
    | none => []
  ", ".intercalate (values ++ limits)

/-- A row of a table, after a line break. -/
def tableRow (cells : List String) : String :=
  "\n| " ++ " | ".intercalate cells ++ " |"

/-- A table. -/
def table (head : List String) (rows : List (List String)) : String :=
  "\n" ++ tableRow head ++ tableRow (head.map fun _ => "---") ++ String.join (rows.map tableRow)

/-- The row of a field. -/
def fieldRow (f : FieldRow) : List String :=
  [code f.name, f.type, if f.nullable then "No" else "Yes", constraints f, f.description]

/-- The section of a type. -/
def typeSection (t : TypeRow) : String :=
  "\n\n### " ++ t.name ++ table ["Field", "Type", "Required", "Constraints", "Description"]
    (t.fields.map fieldRow)

/-- The page of a unit. -/
def render (u : CompiledUnit) : Except Error String := do
  let s ← dialect.sheet u
  let version := if s.version = "" then "" else "\n\nVersion: " ++ s.version
  let topics := if s.topics.isEmpty then "" else
    "\n\n## Topics" ++ table ["Topic", "Payload"] (s.topics.map fun (t, c) => [code t, link c])
  let callbacks := if s.callbacks.isEmpty then "" else
    "\n\n## Callbacks" ++
      table ["Callback", "Payload"] (s.callbacks.map fun c => [code c.name, link c.payload])
  return "# " ++ (if s.title = "" then "Payloads" else s.title) ++ version ++ topics ++
    "\n\n## Types" ++ String.join (s.types.map typeSection) ++ callbacks ++ "\n"

end PayloadGen.Format.Markdown
