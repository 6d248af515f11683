import PayloadGen.Terminal.Box

/-!
# Reports of success

A report has an empty line, a line with a check mark for each of its fields, and the message under
an empty line.
-/

namespace PayloadGen.Terminal

/-- A field of a report. -/
structure ResultField where
  label : String
  value : String

/-- A report. -/
def report (fields : List ResultField) (message : String) : String :=
  let line (f : ResultField) : String :=
    "✓ " ++ stack (box (f.label ++ ":")) ++ " " ++ f.value ++ "\n"
  "\n" ++ String.join (fields.map line) ++
    (if message = "" then "" else stack (box ("\n" ++ message)) ++ "\n")

end PayloadGen.Terminal
