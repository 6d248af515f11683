import PayloadGen.Prompt.Identifier
import PayloadGen.Text.Basic

/-!
# Forms that ask line by line

A form asks one question after the other. A question is repeated until a line passes its check or
there are no more lines; then the last line counts, whether it passes or not. A blank line keeps the
value that the field has.
-/

namespace PayloadGen.Prompt

open Text

/-- How a dialogue stands: the lines that are still to come, and what was written. -/
structure Dialogue where
  lines : List String
  written : String

/-- The answer to a choice is none of the choices. -/
structure NoSuchChoice where

/-- A question is asked until a line passes the check: what is written, the line that counts, and
the lines that are left. -/
def ask (question : String) (check : String → Except String Unit) (last : String) :
    List String → String × String × List String
  | [] => (question ++ "\n", last, [])
  | line :: rest =>
    match check line with
    | .ok _ => (question, line, rest)
    | .error reason =>
      let (written, answer, left) := ask question check line rest
      (question ++ reason ++ "\n" ++ written, answer, left)

/-- A question is asked, and its trimmed answer or the value that the field has is given back. -/
def Dialogue.question (d : Dialogue) (prompt value : String) (check : String → Except String Unit) :
    Dialogue × String :=
  let lines := d.lines.map fun l =>
    String.ofList (if endsWith l "\r" then l.toList.dropLast else l.toList)
  let (written, answer, left) := ask prompt check "" lines
  let answer := trim answer
  (⟨left, d.written ++ written⟩, if answer = "" then value else answer)

/-- The field is over. -/
def Dialogue.endField (d : Dialogue) : Dialogue :=
  { d with written := d.written ++ "\n" }

/-- A field for a text. -/
def Dialogue.text (d : Dialogue) (title value : String) (check : String → Except String Unit) :
    Dialogue × String :=
  let (d, answer) := d.question (title ++ " ") value check
  (d.endField, answer)

/-- A whole number in decimal digits with an optional sign. -/
def decimal? (s : String) : Option Int :=
  let digits? (ds : List Char) : Option Int :=
    if ds.isEmpty || !ds.all isAsciiDigit then none else some (decimalValue ds)
  match s.toList with
  | '-' :: r => (digits? r).map fun n => -n
  | '+' :: r => digits? r
  | r => digits? r

/-- The check of a number among so many. A blank line passes. -/
def checkChoice (count : Nat) (line : String) : Except String Unit :=
  let refuse : Except String Unit := .error ("Invalid: must be between 1 and " ++ ofInt count)
  if trim line = "" then .ok ()
  else match decimal? line with
    | some n => if 1 ≤ n && n ≤ count then .ok () else refuse
    | none => refuse

/-- A field for one of several choices. If the value is none of them the first stands for it. -/
def Dialogue.choice (d : Dialogue) (title value : String) (choices : List String) :
    Except NoSuchChoice (Dialogue × String) :=
  let list := (List.range choices.length).map fun (i : Nat) =>
    ofInt (i + 1) ++ ". " ++ choices.getD i "" ++ "\n"
  let d := { d with written := d.written ++ title ++ " \n" ++ String.join list }
  let standard := (choices.findIdx? (· == value)).getD 0 + 1
  let (d, answer) :=
    d.question ("Input a number between 1 and " ++ ofInt choices.length ++ ": ") (ofInt standard)
      (checkChoice choices.length)
  match (decimal? answer).getD 0 with
  | .ofNat (n + 1) =>
    match choices[n]? with
    | some c => .ok (d.endField, c)
    | none => .error ⟨⟩
  | _ => .error ⟨⟩

/-- A text must not be empty. -/
def required (field : String) (line : String) : Except String Unit :=
  if line = "" then .error (field ++ " is required") else .ok ()

/-- A text must be a name for a package, or empty. -/
def optionalIdentifier (line : String) : Except String Unit :=
  if line = "" then .ok () else (checkIdentifier line).mapError (·.message)

/-- The answers to the questions on a new project. -/
structure ProjectAnswers where
  spec : String
  output : String
  format : String
  package : String

/-- The questions on a new project. -/
def askProject (d : Dialogue) (formats : List String) (a : ProjectAnswers) :
    Except NoSuchChoice (Dialogue × ProjectAnswers) := do
  let (d, spec) := d.text "Path to AsyncAPI document" a.spec (required "spec path")
  let (d, format) ← d.choice "Output format" a.format formats
  let (d, output) := d.text "Output file" a.output (required "output file")
  let (d, package) := d.text "Package name" a.package optionalIdentifier
  return (d, ⟨spec, output, format, package⟩)

/-- The questions on what to generate: the format if none is given, and the file if asked for. -/
def askGenerate (d : Dialogue) (formats : List String) (format output : String) (askOutput : Bool) :
    Except NoSuchChoice (Dialogue × String × String) := do
  let (d, format) ← if format = "" then d.choice "Output format" format formats else .ok (d, format)
  let (d, output) := if askOutput then d.text "Output file" output (required "output file")
    else (d, output)
  return (d, format, output)

end PayloadGen.Prompt
