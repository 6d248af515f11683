import PayloadGen.Number.Literal
import PayloadGen.Text.Quoted

/-!
# Flags of a command line

A flag has a long name, and may have a short one. `readFlags` sorts a command line into the values
of flags and the other arguments. Short names may stand together after one dash, and a value may
follow directly or after `=`.
-/

namespace PayloadGen.Command

open Text

/-- What kind of value a flag has. -/
inductive FlagKind where
  /-- On or off. -/
  | switch
  /-- How often the flag is given. -/
  | count
  | number
  | text
  deriving DecidableEq

/-- A flag. -/
structure Flag where
  name : String
  short : Option Char
  kind : FlagKind
  /-- The value of a flag that is not given, as it is written. -/
  standard : String
  usage : String

/-- The value of a flag. -/
inductive FlagValue where
  | switch (on : Bool)
  | number (n : Int)
  | text (s : String)

/-- Why a text is not the value that a flag needs. -/
inductive ValueFault where
  | notBool (s : String)
  | notNumber (s : String)
  | outOfRange (s : String)

/-- The wording of a fault. -/
def ValueFault.message : ValueFault → String
  | notBool s => "strconv.ParseBool: parsing " ++ quote s ++ ": invalid syntax"
  | notNumber s => "strconv.ParseInt: parsing " ++ quote s ++ ": invalid syntax"
  | outOfRange s => "strconv.ParseInt: parsing " ++ quote s ++ ": value out of range"

/-- Why a command line cannot be read. -/
inductive FlagError where
  | malformed (argument : String)
  | unknown (name : String)
  | unknownShort (c : Char) (group : String)
  | needsValue (name : String)
  | needsValueShort (c : Char) (group : String)
  | invalid (flag : Flag) (value : String) (cause : ValueFault)

/-- A character between single quotes. A character of several bytes shows its first byte only. -/
def quoteChar (c : Char) : String :=
  let body := if c = '\'' then "\\'" else if c = '"' then "\"" else
    if c.toNat < 0x80 then String.ofList (quotedChar c) else "Ã"
  "'" ++ body ++ "'"

/-- The wording of an error. -/
def FlagError.message : FlagError → String
  | malformed argument => "bad flag syntax: " ++ argument
  | unknown name => "unknown flag: --" ++ name
  | unknownShort c group => "unknown shorthand flag: " ++ quoteChar c ++ " in -" ++ group
  | needsValue name => "flag needs an argument: --" ++ name
  | needsValueShort c group => "flag needs an argument: " ++ quoteChar c ++ " in -" ++ group
  | invalid flag value cause =>
    let name := match flag.short with
      | some c => "-" ++ String.singleton c ++ ", --" ++ flag.name
      | none => "--" ++ flag.name
    "invalid argument " ++ quote value ++ " for " ++ quote name ++ " flag: " ++ cause.message

/-- The value that a flag has if none is given with it. -/
def Flag.implied? (f : Flag) : Option String :=
  match f.kind with
  | .switch => some "true"
  | .count => some "+1"
  | _ => none

/-- The flags that were given, with their values. -/
abbrev Given := List (String × FlagValue)

namespace Given

/-- The value of a flag, if it was given. -/
def find? (s : Given) (name : String) : Option FlagValue :=
  (List.find? (·.1 == name) s).map (·.2)

/-- A flag with its latest value. -/
def put (s : Given) (name : String) (v : FlagValue) : Given :=
  (name, v) :: s.filter (·.1 != name)

/-- Is a switch on? -/
def isOn (s : Given) (name : String) : Bool :=
  match s.find? name with
  | some (.switch on) => on
  | _ => false

/-- The number of a flag, or the one that stands for it. -/
def number (s : Given) (name : String) (standard : Int) : Int :=
  match s.find? name with
  | some (.number n) => n
  | _ => standard

/-- The text of a flag, or the one that stands for it. -/
def text (s : Given) (name standard : String) : String :=
  match s.find? name with
  | some (.text t) => t
  | _ => standard

/-- Was the flag given? -/
def has (s : Given) (name : String) : Bool :=
  (s.find? name).isSome

end Given

/-- A truth value as it is written. -/
def truth? (s : String) : Option Bool :=
  if ["1", "t", "T", "true", "TRUE", "True"].contains s then some true
  else if ["0", "f", "F", "false", "FALSE", "False"].contains s then some false
  else none

/-- A whole number of 64 bits as it is written. -/
def numberOf (s : String) : Except ValueFault Int :=
  match wholeNumber? s.toList with
  | none => .error (.notNumber s)
  | some n => if fits64 n then .ok n else .error (.outOfRange s)

/-- A flag is set to a value as it is written. -/
def Flag.set (f : Flag) (s : Given) (value : String) : Except FlagError Given :=
  let refuse (c : ValueFault) : FlagError := .invalid f value c
  match f.kind with
  | .text => .ok (s.put f.name (.text value))
  | .number => do return s.put f.name (.number (← (numberOf value).mapError refuse))
  | .count =>
    if value = "+1" then .ok (s.put f.name (.number (s.number f.name 0 + 1)))
    else do return s.put f.name (.number (← (numberOf value).mapError refuse))
  | .switch =>
    match truth? value with
    | some on => .ok (s.put f.name (.switch on))
    | none => .error (refuse (.notBool value))

/-- The flag of a long name. -/
def flagOf? (flags : List Flag) (name : String) : Option Flag :=
  flags.find? (·.name == name)

/-- The flag of a short name. -/
def shortFlag? (flags : List Flag) (c : Char) : Option Flag :=
  flags.find? (·.short == some c)

/-- An argument that begins with two dashes, and the arguments after it. -/
def readLong (flags : List Flag) (s : Given) (argument : String) (rest : List String) :
    Except FlagError (Given × List String) :=
  let body := argument.toList.drop 2
  if body.head? == some '-' || body.head? == some '=' then .error (.malformed argument)
  else
    let name := String.ofList (body.takeWhile (· != '='))
    match flagOf? flags name with
    | none => .error (.unknown name)
    | some f => do
      if body.contains '=' then
        return (← f.set s (String.ofList ((body.dropWhile (· != '=')).drop 1)), rest)
      match f.implied?, rest with
      | some value, _ => return (← f.set s value, rest)
      | none, value :: rest => return (← f.set s value, rest)
      | none, [] => throw (.needsValue name)

/-- Short names that stand together, and the arguments after them. -/
def readShorts (flags : List Flag) (rest : List String) :
    Given → List Char → Except FlagError (Given × List String)
  | s, [] => .ok (s, rest)
  | s, c :: r =>
    match shortFlag? flags c with
    | none => .error (.unknownShort c (String.ofList (c :: r)))
    | some f => do
      match r, f.implied?, rest with
      | '=' :: d :: more, _, _ => return (← f.set s (String.ofList (d :: more)), rest)
      | r, some value, _ => readShorts flags rest (← f.set s value) r
      | d :: more, none, _ => return (← f.set s (String.ofList (d :: more)), rest)
      | [], none, value :: rest => return (← f.set s value, rest)
      | [], none, [] => throw (.needsValueShort c (String.ofList [c]))

/-- A command line, argument by argument: the values of its flags and the other arguments. -/
def readFrom (flags : List Flag) : (fuel : Nat) → Given → List String → List String →
    Except FlagError (Given × List String)
  | 0, s, others, _ => .ok (s, others)
  | _, s, others, [] => .ok (s, others)
  | fuel + 1, s, others, argument :: rest =>
    match argument.toList with
    | ['-', '-'] => .ok (s, others ++ rest)
    | '-' :: '-' :: _ => do
      let (s, rest) ← readLong flags s argument rest
      readFrom flags fuel s others rest
    | '-' :: c :: r => do
      if startsWith argument "-test." then readFrom flags fuel s others rest
      else
        let (s, rest) ← readShorts flags rest s (c :: r)
        readFrom flags fuel s others rest
    | _ => readFrom flags fuel s (others ++ [argument]) rest

/-- The values of the flags of a command line, and the other arguments. -/
def readFlags (flags : List Flag) (arguments : List String) :
    Except FlagError (Given × List String) :=
  readFrom flags (arguments.length + 1) [] [] arguments

end PayloadGen.Command
