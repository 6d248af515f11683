import PayloadGen.Text.Letter
import PayloadGen.Text.Digit

/-!
# Names that a user chooses

A package or namespace begins with a letter or an underscore and goes on with letters, digits and
underscores.
-/

namespace PayloadGen

open Text

/-- Why a name cannot be taken. -/
inductive IdentifierError where
  | empty
  | start
  | character

/-- The wording of the error. -/
def IdentifierError.message : IdentifierError → String
  | empty => "name is required"
  | start => "must start with letter or underscore"
  | character => "must contain only letters, numbers, underscores"

/-- A name must be one that a package can have. -/
def checkIdentifier (name : String) : Except IdentifierError Unit :=
  match name.toList with
  | [] => .error .empty
  | c :: r =>
    if !isLetter c && c != '_' then .error .start
    else if r.all fun d => isLetter d || isDigit d || d == '_' then .ok ()
    else .error .character

end PayloadGen
