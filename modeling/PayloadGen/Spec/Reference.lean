import PayloadGen.Files.Basic
import PayloadGen.Yaml.Node.Reader

/-!
# References between documents

A mapping with an entry `$ref` stands for another node: one of the same document (`#/a/b`), or of
another file (`other.yml#/a/b`), which is found relative to the document. `References.resolve`
replaces references by what they stand for, together with aliases. A chain of references that comes
back to itself is an error.

Documents are read once and kept, so that a second reference to a file finds it in the library. They
stay there when a replacement fails later on.

An anchor may contain an alias to itself, and then replacing does not end. So `References.resolve`
is the least solution of its equation, with `none` for what does not end.
-/

namespace PayloadGen

open Text Yaml

/-- Why a reference leads nowhere. -/
inductive LookupError where
  | noFiles (file : String)
  | file (e : FileError)
  | malformed (file : String) (e : Yaml.Error)
  | emptyDocument (file : String)
  /-- A percent sign without two hexadecimal digits after it. -/
  | badEscape (shown : Bytes)
  | badPointer (pointer : String)
  | noKey (pointer : String) (key : Bytes)
  | badIndex (pointer : String) (index : Bytes)
  | intoScalar (pointer : String) (key : Bytes)

/-- The wording of the error. -/
def LookupError.message : LookupError → Bytes
  | noFiles f => utf8 ("external reference to " ++ quote f ++ " needs a filesystem")
  | file e => utf8 e.message
  | malformed f e => utf8 ("parsing " ++ f ++ ": ") ++ e.message
  | emptyDocument f => utf8 (f ++ ": empty document")
  | badEscape shown => utf8 ("invalid URL escape " ++ quoteBytes shown)
  | badPointer p => utf8 ("invalid JSON pointer " ++ quote p)
  | noKey p key => utf8 ("pointer " ++ quote p ++ ": key " ++ quoteBytes key ++ " not found")
  | badIndex p index => utf8 ("pointer " ++ quote p ++ ": bad index " ++ quoteBytes index)
  | intoScalar p key =>
    utf8 ("pointer " ++ quote p ++ ": cannot descend into scalar at " ++ quoteBytes key)

/-- Why references cannot be replaced. -/
inductive ReferenceError where
  | lookup (reference : String) (cause : LookupError)
  /-- The references followed, the last of which is there before. -/
  | circular (chain : List String)
  /-- Replacing does not end. No run gives this: it stands for the missing result. -/
  | unending

/-- The wording of the error. -/
def ReferenceError.message : ReferenceError → Bytes
  | lookup r cause => utf8 ("$ref " ++ quote r ++ ": ") ++ cause.message
  | circular chain => utf8 ("circular $ref: " ++ " -> ".intercalate chain)
  | unending => utf8 "an anchor contains an alias to itself"

/-! ## Pointers -/

namespace Pointer

/-- The bytes of a text in which `%` and two hexadecimal digits stand for a byte. -/
def unescape? : Bytes → Except LookupError Bytes
  | [] => .ok []
  | b :: r =>
    if b == 0x25 then
      match r with
      | x :: y :: rest =>
        match hexValue? (Char.ofNat x.toNat), hexValue? (Char.ofNat y.toNat) with
        | some x, some y => (unescape? rest).map (UInt8.ofNat (16 * x + y) :: ·)
        | _, _ => .error (.badEscape ((b :: r).take 3))
      | _ => .error (.badEscape ((b :: r).take 3))
    else (unescape? r).map (b :: ·)

/-- Every `~` followed by the digit `d` replaced by a character. -/
def untilde (d by_ : UInt8) : Bytes → Bytes
  | [] => []
  | [b] => [b]
  | a :: b :: r =>
    if a == 0x7E && b == d then by_ :: untilde d by_ r else a :: untilde d by_ (b :: r)

/-- The key or index that a part of a pointer stands for. -/
def token (part : List Char) : Except LookupError Bytes :=
  (unescape? (utf8 (String.ofList part))).map fun t => untilde 0x30 0x7E (untilde 0x31 0x2F t)

/-- An index: a decimal number, perhaps with a sign. -/
def index? (token : Bytes) : Option Nat :=
  let chars := token.map fun b => Char.ofNat b.toNat
  let (negative, digits) := match chars with
    | '-' :: r => (true, r)
    | '+' :: r => (false, r)
    | r => (false, r)
  if digits.isEmpty || !digits.all isAsciiDigit then none
  else if negative && decimalValue digits ≠ 0 then none
  else some (decimalValue digits)

/-- An alias is followed to its node. -/
def follow (anchored? : Anchor → Option Node) : Node → Node
  | .aliasOf line column name target => (anchored? target).getD (.aliasOf line column name target)
  | n => n

/-- The node one step further. -/
def descend (anchored? : Anchor → Option Node) (pointer : String) (n : Node) (part : List Char) :
    Except LookupError Node := do
  let t ← token part
  match follow anchored? n with
  | .mapping _ _ entries =>
    match entries.find? fun e => utf8 e.1.label == t with
    | some (_, v) => return v
    | none => throw (.noKey pointer t)
  | .sequence _ _ items =>
    match (index? t).bind (items[·]?) with
    | some v => return v
    | none => throw (.badIndex pointer t)
  | _ => throw (.intoScalar pointer t)

/-- The node of a document that a pointer leads to. -/
def walk (anchored? : Anchor → Option Node) (root : Node) (pointer : String) :
    Except LookupError Node :=
  match pointer.toList with
  | [] => .ok root
  | ['/'] => .ok root
  | '/' :: r => (List.splitOn '/' r).foldlM (descend anchored? pointer) root
  | _ => .error (.badPointer pointer)

end Pointer

/-! ## Replacing references -/

namespace References

/-- The reference that a node is. Its other entries do not count. -/
def refOf? (n : Node) : Option String :=
  match n.entryAt? "$ref" with
  | some (.scalar _ _ text _) => some text
  | _ => none

/-- The file and the pointer of a reference. -/
def parts (ref : String) : String × String :=
  match cut? '#' ref.toList with
  | some (file, pointer) => (String.ofList file, String.ofList pointer)
  | none => (ref, "")

/-- The file that a reference leads to from a file. -/
def targetFile (file ref : String) : String :=
  if (parts ref).1 = "" then file else Path.join [Path.dir file, (parts ref).1]

/-- What identifies the target of a reference. -/
def key (file ref : String) : String :=
  targetFile file ref ++ "#" ++ (parts ref).2

/-- A document that is read from a file. -/
def load (files : Option FileSource) (file : String) : Except LookupError Document := do
  match files with
  | none => throw (.noFiles file)
  | some source =>
    let text ← (source.read file).mapError .file
    match ← (Document.read file text).mapError (.malformed file) with
    | some d => return d
    | none => throw (.emptyDocument file)

/-- A document of the library, or else one that is read and added to it. -/
def document (files : Option FileSource) (l : Library) (file : String) :
    Except LookupError (Document × Library) :=
  match Pairs.find? file l with
  | some d => .ok (d, l)
  | none => (load files file).map fun d => (d, Pairs.insert file d l)

/-- The node with an anchor. Its document is in the library once a node of it has been met there;
that of any other anchor is taken from its file. -/
def anchored? (files : Option FileSource) (l : Library) (a : Anchor) : Option Node := do
  let (d, _) ← (document files l a.document).toOption
  d.anchors[a.number]?

/-- The target of a reference, and the library after its document has been found. -/
def lookup (files : Option FileSource) (file ref : String) (l : Library) :
    Except LookupError Node × Library :=
  match document files l (targetFile file ref) with
  | .error e => (.error e, l)
  | .ok (d, l) => (Pointer.walk (anchored? files l) d.root (parts ref).2, l)

/-- How a replacement ends, and the documents read so far. A failure keeps them too. -/
abbrev Outcome (α : Type) := Except ReferenceError α × Library

/-- Where a node is met: the file that it belongs to, and the references that led there. -/
structure Place where
  file : String
  stack : List String

/-- The place of the target of a reference. -/
def Place.next (p : Place) (ref : String) : Place :=
  ⟨targetFile p.file ref, p.stack ++ [key p.file ref]⟩

mutual

/-- The node without aliases and references in the place of values. -/
def Place.resolve (files : Option FileSource) (p : Place) (n : Node) (l : Library) :
    Option (Outcome Node) :=
  match n with
  | .aliasOf _ _ _ target =>
    match anchored? files l target with
    | some t => p |>.resolve files t l
    | none => some (.ok n, l)
  | _ =>
    match refOf? n with
    | none => do
      let (cs, l) ← p |>.resolveAll files n.children l
      return (cs.map n.withChildren, l)
    | some ref =>
      match lookup files p.file ref l with
      | (.error e, l) => some (.error (.lookup ref e), l)
      | (.ok target, l) =>
        if p.stack.contains (key p.file ref) then some (.error (.circular (p.next ref).stack), l)
        else p.next ref |>.resolve files target l
partial_fixpoint

/-- Nodes of one place, one after the other. -/
def Place.resolveAll (files : Option FileSource) (p : Place) (ns : List Node) (l : Library) :
    Option (Outcome (List Node)) :=
  match ns with
  | [] => some (.ok [], l)
  | n :: r => do
    match ← p |>.resolve files n l with
    | (.error e, l) => return (.error e, l)
    | (.ok n, l) =>
      let (r, l) ← p |>.resolveAll files r l
      return (r.map (n :: ·), l)
partial_fixpoint

end

/-- The node of a file without aliases and references in the place of values. The stack holds the
references that led here. -/
def resolve (files : Option FileSource) (file : String) (stack : List String) (n : Node)
    (l : Library) : Option (Outcome Node) :=
  Place.resolve files ⟨file, stack⟩ n l

/-- Nodes of one file, one after the other. -/
def resolveAll (files : Option FileSource) (file : String) (stack : List String) (ns : List Node)
    (l : Library) : Option (Outcome (List Node)) :=
  Place.resolveAll files ⟨file, stack⟩ ns l

/-- The node with its references replaced, and the documents read so far. -/
def replace (files : Option FileSource) (file : String) (n : Node) (l : Library) : Outcome Node :=
  (resolve files file [] n l).getD (.error .unending, l)

mutual

/-- The node without aliases in the place of values, references being left as they are. -/
def expandWith (l : Library) : (fuel : Nat) → Node → Option Node
  | 0, _ => none
  | fuel + 1, n =>
    match n with
    | .scalar .. => some n
    | .aliasOf _ _ _ target => (l.node? target).bind (expandWith l fuel)
    | .sequence line tag items => (expandItems l fuel items).map (.sequence line tag)
    | .mapping line tag entries => (expandEntries l fuel entries).map (.mapping line tag)
termination_by structural fuel => fuel

/-- The items of a sequence without aliases. -/
def expandItems (l : Library) : (fuel : Nat) → List Node → Option (List Node)
  | 0, _ => none
  | _, [] => some []
  | fuel + 1, n :: r => do
    let n ← expandWith l fuel n
    let r ← expandItems l fuel r
    return n :: r
termination_by structural fuel => fuel

/-- The entries of a mapping, their values without aliases. -/
def expandEntries (l : Library) : (fuel : Nat) → List (Node × Node) → Option (List (Node × Node))
  | 0, _ => none
  | _, [] => some []
  | fuel + 1, (k, v) :: r => do
    let v ← expandWith l fuel v
    let r ← expandEntries l fuel r
    return (k, v) :: r
termination_by structural fuel => fuel

end

/-- The node without aliases in the place of values, unless an anchor contains an alias to
itself. -/
def expand (l : Library) (n : Node) : Option Node :=
  expandWith l (2 * l.reach) n

end References

end PayloadGen
