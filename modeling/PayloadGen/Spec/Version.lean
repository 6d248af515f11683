import PayloadGen.Spec.Basic
import PayloadGen.Text.Quoted

/-!
# The version of a document

Documents say which version of the format they follow. Only the second one has channels with
operations in two directions, so others are refused. Missing numbers of a version count as zero.
-/

namespace PayloadGen

open Text

/-- A semantic version. -/
structure Version where
  major : Nat
  minor : Nat
  patch : Nat
  prerelease : String
  build : String

/-- Why a document's version is refused. -/
inductive VersionError where
  | missing
  | malformed (text : String)
  /-- A number of more than 64 bits. -/
  | tooLarge (text number : String)
  /-- A numeric part of the prerelease with a leading zero. -/
  | leadingZero (text : String)
  | unsupported (version : Version)

namespace Version

/-- The versions that are read. -/
def supported : String := ">= 2.0.0, < 3.0.0"

/-- The text of a version. -/
def render (v : Version) : String :=
  ofInt v.major ++ "." ++ ofInt v.minor ++ "." ++ ofInt v.patch ++
    (if v.prerelease = "" then "" else "-" ++ v.prerelease) ++
    (if v.build = "" then "" else "+" ++ v.build)

/-- A character of a prerelease or build part. -/
def isPartChar (c : Char) : Bool :=
  isAsciiLetter c || isAsciiDigit c || c == '-'

/-- The digits after a dot, if they stand here, and the rest. -/
def dotted (s : List Char) : List Char × List Char :=
  match s with
  | '.' :: r =>
    let digits := r.takeWhile isAsciiDigit
    if digits.isEmpty then ([], s) else (digits, r.drop digits.length)
  | _ => ([], s)

/-- The dot-separated parts after a mark, if they stand here, and the rest. -/
def marked? (mark : Char) (s : List Char) : Option (List Char × List Char) :=
  match s with
  | c :: r =>
    if c == mark then
      let body := r.takeWhile fun c => isPartChar c || c == '.'
      if (List.splitOn '.' body).all (!·.isEmpty) then some (body, r.drop body.length) else none
    else some ([], s)
  | [] => some ([], [])

/-- A numeric part of a prerelease that begins with a zero without being one. -/
def hasLeadingZero (part : List Char) : Bool :=
  part.all isAsciiDigit && 1 < part.length && part.head? == some '0'

/-- The version that a text denotes. -/
def read (text : String) : Except VersionError Version := do
  let body := match text.toList with
    | 'v' :: r => r
    | r => r
  let major := body.takeWhile isAsciiDigit
  if major.isEmpty then throw (.malformed text)
  let (minor, r) := dotted (body.drop major.length)
  let (patch, r) := if minor.isEmpty then ([], r) else dotted r
  match marked? '-' r with
  | none => throw (.malformed text)
  | some (pre, r) =>
    match marked? '+' r with
    | some (build, []) =>
      for number in [major, minor, patch] do
        if 0x10000000000000000 ≤ decimalValue number then
          throw (.tooLarge text (String.ofList number))
      if (List.splitOn '.' pre).any hasLeadingZero then throw (.leadingZero text)
      return ⟨decimalValue major, decimalValue minor, decimalValue patch, String.ofList pre,
        String.ofList build⟩
    | _ => throw (.malformed text)

/-- Is the version one that is read? Prereleases are not. -/
def isSupported (v : Version) : Bool :=
  v.major = 2 && v.prerelease = ""

end Version

namespace VersionError

/-- The wording of the error. -/
def message (e : VersionError) : String :=
  "unsupported asyncapi version: " ++ match e with
    | missing => "asyncapi field is missing"
    | malformed text => quote text ++ ": invalid semantic version"
    | tooLarge text number =>
      quote text ++ ": error parsing version segment: strconv.ParseUint: parsing " ++
        quote number ++ ": value out of range"
    | leadingZero text => quote text ++ ": version segment starts with 0"
    | unsupported v => v.render ++ " (want " ++ Version.supported ++ ")"

end VersionError

/-- The version of a document must be one that is read. -/
def Spec.checkVersion (asyncapi : String) : Except VersionError Unit := do
  if asyncapi = "" then throw .missing
  let v ← Version.read asyncapi
  if v.isSupported then return () else throw (.unsupported v)

end PayloadGen
