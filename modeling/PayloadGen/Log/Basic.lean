import PayloadGen.Text.Basic

/-!
# Log entries and their lines

An entry has a level, a message and named values. It is written as a line for people
(`Entry.consoleLine`) or as a JSON object (`Entry.jsonLine`). How often the `-v` flag is given
decides the least level that is written.
-/

namespace PayloadGen.Log

/-- The severity of an entry. -/
inductive Level where
  | debug
  | info
  | warn
  | error

/-- The rank of a level; entries below the least rank are dropped. -/
def Level.rank : Level → Nat
  | debug => 0
  | info => 1
  | warn => 2
  | error => 3

/-- The name of a level in JSON lines. -/
def Level.name : Level → String
  | debug => "debug"
  | info => "info"
  | warn => "warn"
  | error => "error"

/-- The name of a level in console lines. -/
def Level.capital : Level → String
  | debug => "DEBUG"
  | info => "INFO"
  | warn => "WARN"
  | error => "ERROR"

/-- The least level that is written at a verbosity. -/
def levelOf (verbosity : Int) : Level :=
  if verbosity ≤ 0 then .warn else if verbosity = 1 then .info else .debug

/-- A value of an entry. -/
inductive Value where
  | text (s : String)
  | int (n : Int)

/-- A log entry. -/
structure Entry where
  level : Level
  message : String
  fields : List (String × Value)

/-- A character inside a quoted text of a log line. -/
def escapedChar (c : Char) : List Char :=
  if c = '"' || c = '\\' then ['\\', c]
  else if c = '\n' then ['\\', 'n']
  else if c = '\r' then ['\\', 'r']
  else if c = '\t' then ['\\', 't']
  else if c.toNat < 0x20 then ['\\', 'u', '0', '0'] ++ Text.hex 2 c.toNat
  else [c]

/-- A text between quotes. -/
def quoted (s : String) : String :=
  String.ofList ('"' :: s.toList.flatMap escapedChar ++ ['"'])

/-- The text of a value. -/
def Value.render : Value → String
  | text s => quoted s
  | int n => Text.ofInt n

/-- The named values of an entry between braces, with blanks after colons and commas. -/
def spacedFields (fields : List (String × Value)) : String :=
  "\x7b" ++ ", ".intercalate (fields.map fun f => quoted f.1 ++ ": " ++ f.2.render) ++ "\x7d"

/-- The line of an entry for people: level, message and, if there are any, the named values. -/
def Entry.consoleLine (e : Entry) : String :=
  let values := if e.fields.isEmpty then "" else "\t" ++ spacedFields e.fields
  e.level.capital ++ "\t" ++ e.message ++ values ++ "\n"

/-- The line of an entry as a JSON object. The time stamp is `ts`. -/
def Entry.jsonLine (ts : String) (e : Entry) : String :=
  let head :=
    "\x7b\"level\":" ++ quoted e.level.name ++ ",\"ts\":" ++ ts ++ ",\"msg\":" ++ quoted e.message
  head ++ String.join (e.fields.map fun f => "," ++ quoted f.1 ++ ":" ++ f.2.render) ++ "\x7d\n"

/-- How entries are written. -/
structure Style where
  verbosity : Int
  json : Bool

/-- Is the entry's level written in this style? -/
def Style.shows (style : Style) (level : Level) : Bool :=
  (levelOf style.verbosity).rank ≤ level.rank

/-- The line of an entry in a style. -/
def Style.line (style : Style) (e : Entry) : String :=
  if style.json then e.jsonLine "0" else e.consoleLine

/-- The lines of the entries that reach the least level. -/
def render (style : Style) (entries : List Entry) : String :=
  String.join ((entries.filter (style.shows ·.level)).map style.line)

/-- The message that reports a name that came without a value. -/
def danglingMessage : String := "Ignored key without a value."

/-- A list of alternating names and values as named values; a name at the end without a value is
given apart. -/
def pairs : List String → List (String × Value) × Option String
  | [] => ([], none)
  | [k] => ([], some k)
  | k :: v :: r =>
    let (fields, rest) := pairs r
    ((k, .text v) :: fields, rest)

/-- The entries of a message with an alternating list of names and values. A name without a value is
reported by an entry of its own, in front, if the message itself is written. -/
def entriesOf (style : Style) (level : Level) (message : String) (names : List String) :
    List Entry :=
  let (fields, rest) := pairs names
  let report := match rest with
    | some k =>
      if style.shows level then [⟨.error, danglingMessage, [("ignored", .text k)]⟩] else []
    | none => []
  report ++ [⟨level, message, fields⟩]

end PayloadGen.Log
