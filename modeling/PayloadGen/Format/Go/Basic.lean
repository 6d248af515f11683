import PayloadGen.Format.Go.Columns
import PayloadGen.Format.Go.Declaration
import PayloadGen.Format.Sheet

/-!
# Go types

A Go file with one struct per class, one function type per callback and a map from topics to
payloads, laid out as the formatter of the language lays it out. A unit whose names make no Go is
refused.
-/

namespace PayloadGen.Format.Go

open Text

/-- The package of a file that is given none. -/
def defaultPackage : String := "payloads"

/-- Words that are written in capitals only. -/
def acronyms : List String :=
  ["id", "url", "http", "api", "json", "xml", "sql", "html", "ip", "tcp", "udp", "cpu", "uri",
    "rgb", "led", "pcm", "avr"]

/-- A word of an exported name: an acronym in capitals, or a capitalized word. -/
def exportedWord (w : List Char) : Bytes :=
  if acronyms.contains (String.ofList (w.map lower)) then
    utf8 (String.ofList (w.map fun c => upper (lower c)))
  else Name.capitalized w

/-- The characters between the words of an exported name. -/
def isSeparator (c : Char) : Bool :=
  c == '_' || c == '-'

/-- The bytes of the exported name for a name: the words between underscores and hyphens, joined. -/
def exportedBytes (s : String) : Bytes :=
  (runs isSeparator s.toList).flatMap exportedWord

/-- The exported name for a name. Bytes that make no character are replaced, so that the name is no
identifier. -/
def exported (s : String) : String :=
  lossy (exportedBytes s)

/-- The rules about the size of a value. -/
def limits (f : FieldRow) : List String :=
  match f.constraint with
  | some c => bounds "gte=" "lte=" "min=" "max=" c
  | none => []

/-- The rules that a validator checks on a field. -/
def validation (f : FieldRow) : List String :=
  let values := if f.literals.isEmpty then [] else ["oneof=" ++ " ".intercalate f.literals]
  let rules := limits f ++ values
  if f.nullable && !rules.isEmpty then "omitempty" :: rules else rules

/-- The tag of a field. -/
def tag (f : FieldRow) : String :=
  let rules := validation f
  let parts := ["json:\"" ++ f.name ++ (if f.nullable then ",omitempty" else "") ++ "\""] ++
    (if rules.isEmpty then [] else ["validate:\"" ++ ",".intercalate rules ++ "\""]) ++
    (match f.constraint.bind (·.default?) with
      | some d => ["default:\"" ++ replace d "\"" "'" ++ "\""]
      | none => [])
  " ".intercalate parts

/-- The spelling of types in Go. -/
def dialect : Dialect where
  scalar
    | .integer => "int64"
    | .number => "float64"
    | .boolean => "bool"
    | .string => "string"
  literal _ := "string"
  list e := "[]" ++ e
  tuple e n := .ok ("[" ++ ofInt n ++ "]" ++ e)
  classRef := exported
  typeName := exported
  callbackName c := exported c ++ "Handler"
  finish f :=
    { f with
      name := exported f.name
      type := if f.nullable && !startsWith f.type "[]" then "*" ++ f.type else f.type
      tag := tag f }

/-- A comment as it is laid out: without carriage returns and without white space at its end. -/
def comment (text : String) : String :=
  String.ofList (trimRightWhere isSpace (text.toList.filter (· != '\r')))

/-- A line of a struct. -/
inductive Line where
  | comment (text : String)
  | blank
  /-- A row of the columns; after a row over several lines the columns begin anew. -/
  | row (r : Row) (several : Bool)

/-- The row of a declaration with its tag, if it has one. In a struct of one field there are no
columns. -/
def declarationRow (only : Bool) (d : Declaration) (tag : Option String) : Row :=
  let parts := (if d.names.isEmpty then [] else [", ".intercalate d.names]) ++ [d.type] ++
    tag.toList.map fun t => "`" ++ t ++ "`"
  if only then ⟨[], " ".intercalate parts⟩ else ⟨parts.dropLast, parts.getLastD ""⟩

/-- A text as a block of comment lines after an indentation. -/
def commentBlock (indent text : String) : String :=
  "\n".intercalate ((List.splitOn '\n' (trim text).toList).map fun l =>
    String.ofList (trimRightWhere (· == ' ') (indent ++ "// " ++ String.ofList l).toList))

/-- The lines of a description as they are laid out. -/
def descriptionTexts (description : String) : List String :=
  (List.splitOn '\n' (commentBlock "\t" description).toList).map fun l =>
    comment (String.ofList (l.dropWhile isBlank))

/-- The comment lines of a description: those of its block, as they are laid out inside a struct. -/
def descriptionLines (description : String) : List Line :=
  if description = "" then [] else (descriptionTexts description).map .comment

/-- The declarations that the name and type of a field amount to; only the last one has the tag. -/
def fieldDeclarations? (f : FieldRow) : Option (List (Nat × Declaration × Option String)) := do
  let ds ← declarations? (f.name ++ " " ++ f.type)
  if f.tag.toList.contains '`' then none
  else
    let tag := String.ofList (f.tag.toList.filter (· != '\r'))
    some (ds.mapIdx fun i (n, d) => (n, d, if i + 1 = ds.length then some tag else none))

/-- The lines of a field. -/
def fieldLines (only : Bool) (f : FieldRow) (ds : List (Nat × Declaration × Option String)) :
    List Line :=
  descriptionLines f.description ++ ds.flatMap fun (n, d, t) =>
    (if 1 < n then [.blank] else []) ++
      [.row (declarationRow only d t) ((t.getD "").toList.contains '\n')]

/-- The rows collected so far, laid out in columns; they are collected in reverse. -/
def flush (rows : List Row) : List String :=
  aligned [] rows.reverse

/-- The text of the lines of a struct; `rows` are the rows whose columns are still open, in
reverse. -/
def layLines (rows : List Row) : List Line → List String
  | [] => flush rows
  | .comment t :: r => flush rows ++ t :: layLines [] r
  | .blank :: r => flush rows ++ "" :: layLines [] r
  | .row w several :: r =>
    if several then flush (w :: rows) ++ layLines [] r else layLines (w :: rows) r

/-- A line in the body of a struct: after a tab, unless it is blank. -/
def bodyLine (l : String) : String :=
  if l = "" then "\n" else "\t" ++ l ++ "\n"

/-- The declaration of a struct. -/
def struct? (t : TypeRow) : Option String := do
  let name ← identifier? t.name
  let fields ← t.fields.mapM fun f => (fieldDeclarations? f).map (f, ·)
  let count := (fields.flatMap (·.2)).length
  let body := layLines [] (fields.flatMap fun (f, ds) => fieldLines (count == 1) f ds)
  some ("\ntype " ++ name ++ " struct \x7b\n" ++ String.join (body.map bodyLine) ++ "\x7d\n")

/-- The declaration of a handler type. A payload without a name leaves a parameter type. -/
def handler? (c : Callback) : Option String := do
  let name ← identifier? c.name
  let parameter ← if (trimWhere isBlank c.payload.toList).isEmpty then some "payload"
    else (type? c.payload).map ("payload " ++ ·)
  some ("\n// " ++ c.name ++ " handles " ++ c.payload ++ " payloads.\ntype " ++ name ++ " func(" ++
    parameter ++ ") error\n")

/-- The rows of the topic map in columns. The columns begin anew at a key whose size differs too
much from the mean size of the keys above it: where both it and the key above are short (forty
bytes) they never do, else where the ratio to the geometric mean is two and a half or more.
`product` and `count` are of the sizes above, in the same columns, and `previous` is the size of the
last key. -/
def topicSections (rows : List Row) (product count previous : Nat) :
    List (Row × Nat) → List (List Row)
  | [] => if rows.isEmpty then [] else [rows.reverse]
  | (r, size) :: rest =>
    let fits := previous = 0 || count = 0 || (previous ≤ 40 && size ≤ 40) ||
      !(Nat.pow (5 * size) count ≤ Nat.pow 2 count * product ||
        Nat.pow 5 count * product ≤ Nat.pow (2 * size) count)
    if fits then topicSections (r :: rows) (product * size) (count + 1) size rest
    else rows.reverse :: topicSections [r] size 1 size rest

/-- The map from topics to payloads. -/
def topicMap? (topics : List (String × String)) : Option String := do
  let rows ← topics.mapM fun (t, c) => do
    let type ← if (trimWhere isBlank c.toList).isEmpty then some "" else type? c
    let key := quote t
    some (Row.mk [key ++ ":"] (type ++ "\x7b\x7d,"), key.utf8ByteSize)
  let lines := (topicSections [] 1 0 0 rows).flatMap (aligned [])
  let open_ := "\n// TopicPayloads maps each topic to the zero value of its payload type.\n" ++
    "var TopicPayloads = map[string]any\x7b"
  some (if lines.isEmpty then open_ ++ "\x7d\n"
    else open_ ++ "\n" ++ String.join (lines.map fun l => "\t" ++ l ++ "\n") ++ "\x7d\n")

/-- The lines of a title after its first: they must be blank or comments. Several blank lines make
one. -/
def titleLines? : (afterBlank : Bool) → List (List Char) → Option (List String)
  | _, [] => some []
  | afterBlank, l :: r =>
    match l.dropWhile isBlank with
    | [] => if afterBlank then titleLines? true r else (titleLines? true r).map ("" :: ·)
    | '/' :: '/' :: t => (titleLines? false r).map (comment (String.ofList ('/' :: '/' :: t)) :: ·)
    | _ => none

/-- The comment that names the source. -/
def sourceComment? (title version : String) : Option (List String) :=
  if title = "" then some []
  else
    let text := title ++ (if version = "" then "" else " " ++ version)
    match List.splitOn '\n' text.toList with
    | [] => some []
    | l :: r => (titleLines? false r).map (comment ("// Source: " ++ String.ofList l) :: ·)

/-- The lines above the package clause, with one blank line at the end. -/
def header? (title version : String) : Option String := do
  let ls ← sourceComment? title version
  let ls := "// Code generated by asyncgen. DO NOT EDIT." :: ls
  let ls := if ls.getLastD "" = "" then ls else ls ++ [""]
  some (String.join (ls.map (· ++ "\n")))

/-- Two characters are refused wherever they stand in a file. -/
def isAdmitted (text : String) : Bool :=
  !text.toList.any fun c => c == '\x00' || c == '\ufeff'

/-- The file of a sheet, if it is Go. -/
def file? (package : String) (s : Sheet) : Option String := do
  let header ← header? s.title s.version
  let name ← packageName? (if package = "" then defaultPackage else package)
  let structs ← s.types.mapM struct?
  let handlers ← s.callbacks.mapM handler?
  let topics ← topicMap? s.topics
  let text :=
    header ++ "package " ++ name ++ "\n" ++ String.join structs ++ String.join handlers ++ topics
  if isAdmitted text then some text else none

/-- The file of a unit. -/
def render (package : String) (u : CompiledUnit) : Except Error String := do
  let s ← dialect.sheet u
  match file? package s with
  | some text => .ok text
  | none => .error .malformedSource

end PayloadGen.Format.Go
