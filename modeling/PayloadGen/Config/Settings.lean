import PayloadGen.Config.Basic
import PayloadGen.Text.CaseMap
import PayloadGen.Yaml.Value.Basic

/-!
# Settings from several layers

A setting has a key of words joined by dots. Its value comes from the environment, else from the
file, else from what is standard. The case of keys in the file does not matter, and a key of the
file may itself hold dots.
-/

namespace PayloadGen

open Text

/-- Variables of the environment. -/
abbrev Environment := Pairs String

/-- The variable that overrides a setting. -/
def Environment.variableOf (key : String) : String :=
  "ASYNCGEN_" ++ String.ofList (key.toList.map fun c => if c == '.' then '_' else upper c)

/-- The value that the environment gives to a setting; an empty one does not count. -/
def Environment.setting? (env : Environment) (key : String) : Option String :=
  (env.find? (variableOf key)).filter (· ≠ "")

/-- Settings by name, those with a common first word as a dictionary under it. -/
abbrev Settings := Pairs Yaml.Value

namespace Settings

/-- A text in lower case. -/
def lowerText (s : String) : String :=
  String.ofList (s.toList.map lower)

/-- A key that is no text, as a text. -/
def keyText : Yaml.Value → String
  | .null => ""
  | .bool b => if b then "true" else "false"
  | .int n => ofInt n
  | .float x => x.render .positionalOnly
  | .time t => t.render
  | .text s => s
  | _ => ""

/-- Entries under their keys in lower case. A key that was not in lower case before wins. -/
def settle (entries : List (String × Yaml.Value)) : Settings :=
  let (low, other) := entries.partition fun e => lowerText e.1 == e.1
  Pairs.ofList (low ++ other.map fun e => (lowerText e.1, e.2))

mutual

/-- A value with all keys in lower case. -/
def lowered : Yaml.Value → Yaml.Value
  | .dict entries => .dict (settle (loweredEntries entries))
  | .table entries => .dict (settle (loweredPairs entries))
  | v => v

/-- Entries with lowered values. -/
def loweredEntries : List (String × Yaml.Value) → List (String × Yaml.Value)
  | [] => []
  | (k, v) :: r => (k, lowered v) :: loweredEntries r

/-- Entries with lowered values, under keys that are texts. -/
def loweredPairs : List (Yaml.Value × Yaml.Value) → List (String × Yaml.Value)
  | [] => []
  | (k, v) :: r => (keyText k, lowered v) :: loweredPairs r

end

mutual

/-- The keys of the values below a key that are no dictionaries. -/
def leavesOf (key : String) : Yaml.Value → List String
  | .dict entries => leavesUnder (key ++ ".") entries
  | _ => [key]

/-- The keys of the entries of a dictionary. -/
def leavesUnder (front : String) : List (String × Yaml.Value) → List String
  | [] => []
  | (k, v) :: r => leavesOf (front ++ k) v ++ leavesUnder front r

end

/-- The words of a key. -/
def wordsOf (key : String) : List String :=
  (List.splitOn '.' key.toList).map String.ofList

/-- The first words of a key, in all lengths shorter than the key. -/
def fronts (words : List String) : List (List String) :=
  (List.range (words.length - 1)).map fun i => words.take (i + 1)

/-- What a value gives for the words that are left, if a dictionary is searched on. -/
def below? (search : List String → Settings → Option Yaml.Value) :
    Option Yaml.Value → List String → Option Yaml.Value
  | none, _ | some .null, _ => none
  | some v, [] => some v
  | some (.dict e), rest => search rest e
  | some _, _ => none

/-- The value of a key in a dictionary whose own keys may hold dots; of several ways to read the
key, the one that takes most words at once wins. -/
def search? : (fuel : Nat) → List String → Settings → Option Yaml.Value
  | 0, _, _ => none
  | fuel + 1, words, d =>
    (List.range words.length).reverse.findSome? fun i =>
      below? (search? fuel) (d.find? (".".intercalate (words.take (i + 1)))) (words.drop (i + 1))

/-- The value of a key, one word at a time. -/
def descend? : List String → Yaml.Value → Option Yaml.Value
  | [], .null => none
  | [], v => some v
  | w :: r, .dict d => (Pairs.find? w d).bind (descend? r)
  | _ :: _, _ => none

/-- What holds where nothing is set. -/
def standard : Settings :=
  let c := Config.standard
  [("docs", .dict [("command", .text c.docs.command), ("output", .text c.docs.output),
      ("pyproject", .text c.docs.pyproject), ("template", .text c.docs.template)]),
    ("format", .text c.format), ("output", .text c.output), ("package", .text c.package),
    ("spec", .text c.spec), ("templates", .text c.templates), ("version", .int c.version),
    ("workers", .int c.workers)]

/-- Does a key of the file that is no dictionary stand where the words lead through? -/
def isBlocked (file : Settings) (words : List String) : Bool :=
  (fronts words).any fun f =>
    match descend? f (.dict file) with
    | some (.dict _) | none => false
    | some _ => true

/-- The value of a setting. A variable for a group of settings hides the settings of the group. -/
def value? (env : Environment) (file : Settings) (key : String) : Option Yaml.Value :=
  let words := wordsOf key
  match env.setting? key with
  | some v => some (.text v)
  | none =>
    if (fronts words).any fun f => (env.setting? (".".intercalate f)).isSome then none
    else match search? words.length words file with
      | some v => some v
      | none => if isBlocked file words then none else descend? words (.dict standard)

/-- All keys that have a value somewhere. A standard value does not count if the file sets its group
to something that is no dictionary. -/
def allKeys (file : Settings) : List String :=
  let own := leavesUnder "" file
  let others := (leavesUnder "" standard).filter fun k =>
    !(fronts (wordsOf k)).any fun f => own.contains (".".intercalate f)
  sortTexts (distinct (own ++ others))

/-- The entries of the dictionary under a first word; without one there are none. -/
def inner (w : String) (d : Settings) : Settings :=
  match d.find? w with
  | some (.dict e) => e
  | _ => []

/-- A value put under a key. -/
def put : (words : List String) → Yaml.Value → Settings → Settings
  | [], _, d => d
  | [w], v, d => d.insert w v
  | w :: r, v, d => d.insert w (.dict (put r v (inner w d)))

/-- The value of a setting put under its key, if it has one. -/
def putValue (env : Environment) (file d : Settings) (key : String) : Settings :=
  match value? env file key with
  | some v => put (wordsOf key) v d
  | none => d

/-- The settings of all layers together. -/
def merged (env : Environment) (file : Settings) : Settings :=
  (allKeys file).foldl (putValue env file) []

end Settings

end PayloadGen
