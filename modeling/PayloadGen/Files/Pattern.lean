/-!
# Patterns of file names

In a pattern `*` stands for any characters but a slash, `?` for one such character, brackets for one
of a set, and a backslash takes the meaning from what follows it. `Pattern.read?` refuses a
malformed pattern.
-/

namespace PayloadGen

/-- A part of a pattern. -/
inductive PatternPart where
  | star
  | any
  | char (c : Char)
  /-- A character inside one of the ranges, or outside all of them. -/
  | set (negated : Bool) (ranges : List (Char × Char))

/-- A pattern of file names. -/
abbrev Pattern := List PatternPart

namespace Pattern

/-- Does a text hold characters that mean something in a pattern? -/
def isPattern (s : String) : Bool :=
  s.toList.any fun c => c == '*' || c == '?' || c == '[' || c == '\\'

/-- A character of a set, which is never the last of the pattern. -/
def setChar? : List Char → Option (Char × List Char)
  | '-' :: _ | ']' :: _ | [] => none
  | '\\' :: c :: d :: r => some (c, d :: r)
  | c :: d :: r => if c == '\\' then none else some (c, d :: r)
  | [_] => none

/-- The ranges of a set up to its closing bracket; there is at least one. -/
def ranges? :
    (fuel : Nat) → List (Char × Char) → List Char → Option (List (Char × Char) × List Char)
  | 0, _, _ => none
  | fuel + 1, found, s =>
    match found, s with
    | _ :: _, ']' :: r => some (found.reverse, r)
    | _, s => do
      let (lo, r) ← setChar? s
      match r with
      | '-' :: r =>
        let (hi, r) ← setChar? r
        ranges? fuel ((lo, hi) :: found) r
      | r => ranges? fuel ((lo, lo) :: found) r

/-- The parts of a pattern. -/
def parts? : (fuel : Nat) → List Char → Option Pattern
  | _, [] => some []
  | 0, _ => none
  | fuel + 1, '*' :: r => (parts? fuel r).map (.star :: ·)
  | fuel + 1, '?' :: r => (parts? fuel r).map (.any :: ·)
  | _, ['\\'] => none
  | fuel + 1, '\\' :: c :: r => (parts? fuel r).map (.char c :: ·)
  | fuel + 1, '[' :: r => do
    let (negated, r) := match r with
      | '^' :: r => (true, r)
      | r => (false, r)
    let (found, r) ← ranges? (r.length + 1) [] r
    return .set negated found :: (← parts? fuel r)
  | fuel + 1, c :: r => (parts? fuel r).map (.char c :: ·)

/-- The pattern that a text denotes. -/
def read? (s : String) : Option Pattern :=
  parts? s.length s.toList

/-- Does a character fit a part that stands for one character? -/
def fits (c : Char) : PatternPart → Bool
  | .star => false
  | .any => c != '/'
  | .char d => c == d
  | .set negated ranges => negated != ranges.any fun r => r.1 ≤ c && c ≤ r.2

/-- Does the pattern match a name? -/
def isMatch : Pattern → List Char → Bool
  | [], s => s.isEmpty
  | .star :: p, s => starMatch (isMatch p) s
  | part :: p, c :: s => fits c part && isMatch p s
  | _ :: _, [] => false
where
  /-- Does something match the rest of a name after any number of its characters? -/
  starMatch (rest : List Char → Bool) : List Char → Bool
    | [] => rest []
    | c :: s => rest (c :: s) || (c != '/' && starMatch rest s)

end Pattern

end PayloadGen
