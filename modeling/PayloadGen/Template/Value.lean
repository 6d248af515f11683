import PayloadGen.Number.Layout
import PayloadGen.Payload.Type
import PayloadGen.Text.Quoted
import PayloadGen.Text.Utf8

/-!
# Values in templates

What templates compute with: the data of a compiled unit and what functions make of it. Texts are
byte sequences, because they can be cut anywhere.
-/

namespace PayloadGen.Template

open Text

/-- A value. -/
inductive Value where
  /-- No value, such as that of a key that a map does not have. -/
  | missing
  | bool (b : Bool)
  | int (n : Int)
  | byte (b : UInt8)
  | float (x : Binary64)
  | text (s : Bytes)
  /-- A list, with the name of the type of its items. -/
  | list (item : String) (items : List Value)
  /-- A map from texts to texts, in ascending order of its keys. -/
  | map (entries : List (Bytes × Bytes))
  /-- A record, with the name of its type. -/
  | record (type : String) (fields : List (String × Value))

namespace Value

/-- The name of the type of a value. -/
def typeName : Value → String
  | missing => "<nil>"
  | bool _ => "bool"
  | int _ => "int"
  | byte _ => "uint8"
  | float _ => "float64"
  | text _ => "string"
  | list item _ => "[]" ++ item
  | map _ => "map[string]string"
  | record type _ => type

/-- Texts as a value. -/
def ofTexts (ts : List String) : Value :=
  .list "string" (ts.map fun t => .text (utf8 t))

/-- A callback as a value. -/
def ofCallback (c : Callback) : Value :=
  .record "compile.Callback" [("Name", .text (utf8 c.name)), ("Payload", .text (utf8 c.payload))]

/-- The data that every template gets. -/
def ofUnit (u : CompiledUnit) : Value :=
  .record "templates.Data"
    [("Title", .text (utf8 u.title)), ("Version", .text (utf8 u.version)),
      ("Topics", .map (u.topics.entries.map fun e => (utf8 e.1, utf8 e.2))),
      ("Classes", ofTexts (u.classes.map (·.name))),
      ("Callbacks", .list "compile.Callback" (u.callbacks.map ofCallback))]

/-- Does the value count as true? Empty texts and collections, zero, `false` and no value do not. -/
def isTrue : Value → Bool
  | missing => false
  | bool b => b
  | int n => n ≠ 0
  | byte b => b ≠ 0
  | float x =>
    match x with
    | .finite _ m .. => m ≠ 0
    | _ => true
  | text s => !s.isEmpty
  | list _ items => !items.isEmpty
  | map entries => !entries.isEmpty
  | record .. => true

/-- How a value is shown inside another: with the names of fields or in the form of source text. -/
inductive Detail where
  | plain
  | named
  | source
  deriving DecidableEq

mutual

/-- The text of a value. -/
def shown (d : Detail) : Value → Bytes
  | missing => utf8 "<nil>"
  | bool b => utf8 (if b then "true" else "false")
  | int n => utf8 (ofInt n)
  | byte b =>
    utf8 (if d = .source then "0x" ++ String.ofList (Nat.toDigits 16 b.toNat) else ofInt b.toNat)
  | float x => utf8 (x.render .general)
  | text s => if d = .source then utf8 (quoteBytes s) else s
  | list item items =>
    if d = .source then
      utf8 ("[]" ++ item ++ "\x7b") ++ shownItems d (utf8 ", ") items ++ utf8 "\x7d"
    else utf8 "[" ++ shownItems d (utf8 " ") items ++ utf8 "]"
  | map entries =>
    if d = .source then
      utf8 "map[string]string\x7b" ++ [0x2C, 0x20].intercalate
        (entries.map fun e => utf8 (quoteBytes e.1) ++ [0x3A] ++ utf8 (quoteBytes e.2)) ++
          utf8 "\x7d"
    else utf8 "map[" ++ [0x20].intercalate (entries.map fun e => e.1 ++ [0x3A] ++ e.2) ++ utf8 "]"
  | record type fields =>
    if d = .source then utf8 (type ++ "\x7b") ++ shownFields d (utf8 ", ") fields ++ utf8 "\x7d"
    else utf8 "\x7b" ++ shownFields d (utf8 " ") fields ++ utf8 "\x7d"

/-- The items of a list with something between them. -/
def shownItems (d : Detail) (between : Bytes) : List Value → Bytes
  | [] => []
  | [v] => v.shown d
  | v :: r => v.shown d ++ between ++ shownItems d between r

/-- The fields of a record with something between them. -/
def shownFields (d : Detail) (between : Bytes) : List (String × Value) → Bytes
  | [] => []
  | [(k, v)] => (if d = .plain then [] else utf8 (k ++ ":")) ++ v.shown d
  | (k, v) :: r =>
    (if d = .plain then [] else utf8 (k ++ ":")) ++ v.shown d ++ between ++ shownFields d between r

end

/-- The text of a value where it stands in a template. -/
def printed : Value → Bytes
  | missing => utf8 "<no value>"
  | v => v.shown .plain

/-- Is the value a text? -/
def isText : Value → Bool
  | text _ => true
  | _ => false

/-- Values one after the other, with a blank between two that are no texts. -/
def joined : List Value → Bytes
  | [] => []
  | [v] => v.shown .plain
  | v :: w :: r =>
    v.shown .plain ++ (if v.isText || w.isText then [] else [0x20]) ++ joined (w :: r)

/-- Values on a line. -/
def line (vs : List Value) : Bytes :=
  [0x20].intercalate (vs.map (·.shown .plain)) ++ [0x0A]

end Value

end PayloadGen.Template
