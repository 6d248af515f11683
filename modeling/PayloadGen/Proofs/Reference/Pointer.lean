import PayloadGen.Spec.Reference
import PayloadGen.Proofs.Files.Path
import PayloadGen.Proofs.Number.ReadBack
import PayloadGen.Proofs.Text.Utf8
import PayloadGen.Proofs.Yaml.Inlined

/-!
# Pointers find the node they were written for

A way through a document is a list of keys and indices (`Pointer.Leads`). `Pointer.write` writes it
as a pointer: each step after a slash, with `~`, `/` and `%` escaped in the keys. Reading a part of
the pointer undoes the escapes one after the other, first `%25`, then `~1`, then `~0`, and each
stage leaves what the later ones need (`token_flatMap_escapeChar`). So following the pointer is
going the way (`walk_write`). The one exception is the way of a single empty key, whose pointer `/`
stands for the whole document.
-/

namespace PayloadGen.Pointer

open Text Yaml

/-! ## Ways through a document -/

/-- A step from a collection to what it holds. -/
inductive Step where
  | key (text : String)
  | index (number : Nat)
  deriving DecidableEq

variable {anchored? : Anchor → Option Node}

/-- What a node is once aliases are followed. -/
inductive Denotes (anchored? : Anchor → Option Node) : Node → Node → Prop
  | self {n : Node} (h : n.isAlias = false) : Denotes anchored? n n
  | target {line column : Nat} {name : String} {a : Anchor} {t n : Node} (ht : anchored? a = some t)
      (h : Denotes anchored? t n) : Denotes anchored? (.aliasOf line column name a) n

/-- The steps lead from a node to another one. A key leads to the value of the only entry with that
key, an index to an item. Aliases on the way are followed; the last node is taken as it is. -/
inductive Leads (anchored? : Anchor → Option Node) : Node → List Step → Node → Prop
  | here (n : Node) : Leads anchored? n [] n
  | key {n k v m : Node} {line : Nat} {tag : Option String} {entries : List (Node × Node)}
      {steps : List Step} (hn : Denotes anchored? n (.mapping line tag entries))
      (hv : (k, v) ∈ entries)
      (honly : ∀ e ∈ entries, e.1.label = k.label → e = (k, v)) (h : Leads anchored? v steps m) :
      Leads anchored? n (.key k.label :: steps) m
  | index {n v m : Node} {line : Nat} {tag : Option String} {items : List Node} {i : Nat}
      {steps : List Step} (hn : Denotes anchored? n (.sequence line tag items))
      (hv : items[i]? = some v) (h : Leads anchored? v steps m) :
      Leads anchored? n (.index i :: steps) m

/-- A character of a key as it is written in a pointer. -/
def escapeChar (c : Char) : List Char :=
  if c = '~' then ['~', '0'] else if c = '/' then ['~', '1']
  else if c = '%' then ['%', '2', '5'] else [c]

/-- A step as it is written in a pointer; indices are in decimal. -/
def Step.write : Step → List Char
  | .key text => text.toList.flatMap escapeChar
  | .index i => Nat.toDigits 10 i

/-- The pointer of a list of steps: each after a slash. -/
def write (steps : List Step) : String :=
  String.ofList (steps.flatMap fun s => '/' :: s.write)

/-! ## Escapes -/

/-- The bytes of a key that are left after percent signs have been read. -/
def escapeTilde (b : UInt8) : Bytes :=
  if b = 0x7E then [0x7E, 0x30] else if b = 0x2F then [0x7E, 0x31] else [b]

/-- A byte of a key as it is written in a pointer. -/
def escapeByte (b : UInt8) : Bytes :=
  if b = 0x25 then [0x25, 0x32, 0x35] else escapeTilde b

theorem flatMap_escapeChar (c : Char) :
    (escapeChar c).flatMap String.utf8EncodeChar =
      (String.utf8EncodeChar c).flatMap escapeByte := by
  rw [escapeChar]
  split
  · rename_i h
    rw [h]
    decide
  split
  · rename_i h
    rw [h]
    decide
  split
  · rename_i h
    rw [h]
    decide
  · rename_i htilde hslash hpercent
    have hne {d : Char} {n : UInt8} (h : ¬c = d) (hn : n.toNat = d.toNat) (hd : d.toNat < 0x80) :
        ∀ b ∈ String.utf8EncodeChar c, b ≠ n := by
      rintro _ hb rfl
      exact h (Char.toNat_inj.1 ((toNat_eq_of_mem_utf8EncodeChar hb (hn ▸ hd)).symm.trans hn))
    have hbytes : ∀ b ∈ String.utf8EncodeChar c, escapeByte b = [b] := by
      intro b hb
      rw [escapeByte, if_neg (hne hpercent rfl (by decide) b hb), escapeTilde,
        if_neg (hne htilde rfl (by decide) b hb), if_neg (hne hslash rfl (by decide) b hb)]
    rw [List.flatMap_singleton, List.flatMap_congr hbytes, List.flatMap_singleton']

theorem utf8_flatMap_escapeChar (s : List Char) :
    utf8 (String.ofList (s.flatMap escapeChar)) = (utf8 (String.ofList s)).flatMap escapeByte := by
  simp only [utf8_eq_flatMap, String.toList_ofList, List.flatMap_assoc, flatMap_escapeChar]

theorem unescape?_cons_of_ne {b : UInt8} (h : b ≠ 0x25) (r : Bytes) :
    unescape? (b :: r) = (unescape? r).map (b :: ·) := by
  rw [unescape?.eq_def]
  exact if_neg (by simpa using h)

theorem unescape?_escapeByte (b : UInt8) (r : Bytes) :
    unescape? (escapeByte b ++ r) = (unescape? r).map (escapeTilde b ++ ·) := by
  rw [escapeByte]
  split
  · rename_i h
    rw [h]
    rfl
  · rename_i h
    have htwo (d : UInt8) (hd : d ≠ 0x25) : unescape? (0x7E :: d :: r) =
        (unescape? r).map ([0x7E, d] ++ ·) := by
      rw [unescape?_cons_of_ne (by decide), unescape?_cons_of_ne hd]
      cases unescape? r <;> rfl
    rw [escapeTilde]
    split
    · exact htwo 0x30 (by decide)
    split
    · exact htwo 0x31 (by decide)
    · exact unescape?_cons_of_ne h r

theorem unescape?_flatMap_escapeByte (s : Bytes) :
    unescape? (s.flatMap escapeByte) = .ok (s.flatMap escapeTilde) := by
  induction s with
  | nil => rfl
  | cons b s ih =>
    rw [List.flatMap_cons, unescape?_escapeByte, ih, List.flatMap_cons]
    rfl

theorem untilde_cons_of_ne {a : UInt8} (h : a ≠ 0x7E) (d by_ : UInt8) (r : Bytes) :
    untilde d by_ (a :: r) = a :: untilde d by_ r := by
  cases r with
  | nil => rfl
  | cons b r => simp [untilde, h]

theorem untilde_slash (s : Bytes) :
    untilde 0x31 0x2F (s.flatMap escapeTilde) = s.flatMap fun b => if b = 0x7E then [0x7E, 0x30]
      else [b] := by
  induction s with
  | nil => rfl
  | cons b s ih =>
    rw [List.flatMap_cons, List.flatMap_cons, ← ih, escapeTilde]
    split
    · -- the digit stands after a tilde, but it is the other one
      exact congrArg (List.cons 0x7E) (untilde_cons_of_ne (by decide) _ _ _)
    split
    · rename_i h
      rw [h]
      rfl
    · rename_i h _
      exact untilde_cons_of_ne h _ _ _

theorem untilde_tilde (s : Bytes) :
    untilde 0x30 0x7E (s.flatMap fun b => if b = 0x7E then [0x7E, 0x30] else [b]) = s := by
  induction s with
  | nil => rfl
  | cons b s ih =>
    rw [List.flatMap_cons]
    split
    · rename_i h
      rw [h]
      exact congrArg (List.cons 0x7E) ih
    · rename_i h
      exact (untilde_cons_of_ne h _ _ _).trans (congrArg (List.cons b) ih)

/-- A key is read as it was before it was escaped. -/
theorem token_flatMap_escapeChar (s : List Char) :
    token (s.flatMap escapeChar) = .ok (utf8 (String.ofList s)) := by
  rw [token, utf8_flatMap_escapeChar, unescape?_flatMap_escapeByte]
  exact congrArg Except.ok ((congrArg _ (untilde_slash _)).trans (untilde_tilde _))

/-! ## Indices -/

theorem isAsciiDigit_of_mem_toDigits {i : Nat} {d : Char} (h : d ∈ Nat.toDigits 10 i) :
    isAsciiDigit d = true :=
  Nat.isDigit_of_mem_toDigits (by decide) le_rfl h

theorem map_ofNat_utf8 {ds : List Char} (h : ∀ d ∈ ds, d.toNat < 0x80) :
    ((utf8 (String.ofList ds)).map fun b => Char.ofNat b.toNat) = ds := by
  rw [utf8_eq_flatMap, String.toList_ofList, List.map_flatMap]
  have hchar : ∀ d ∈ ds, (String.utf8EncodeChar d).map (fun b => Char.ofNat b.toNat) = [d] := by
    intro d hd
    have hbyte := toNat_byte (show d.toNat < 256 by have := h d hd; omega)
    rw [utf8EncodeChar_of_ascii (h d hd), List.map_singleton, hbyte, Char.ofNat_toNat]
  rw [List.flatMap_congr hchar, List.flatMap_singleton']

theorem flatMap_escapeChar_of_isAsciiDigit {ds : List Char} (h : ∀ d ∈ ds, isAsciiDigit d = true) :
    ds.flatMap escapeChar = ds := by
  have hdigit : ∀ d ∈ ds, escapeChar d = [d] := by
    intro d hd
    have hne {c : Char} (hc : isAsciiDigit c = false) : d ≠ c :=
      fun heq => by simp [← heq, h d hd] at hc
    rw [escapeChar, if_neg (hne rfl), if_neg (hne rfl), if_neg (hne rfl)]
  rw [List.flatMap_congr hdigit, List.flatMap_singleton']

theorem token_toDigits (i : Nat) :
    token (Nat.toDigits 10 i) = .ok (utf8 (String.ofList (Nat.toDigits 10 i))) := by
  rw [← token_flatMap_escapeChar, flatMap_escapeChar_of_isAsciiDigit fun d hd =>
    isAsciiDigit_of_mem_toDigits hd]

theorem index?_of_digits {t : Bytes} {ds : List Char}
    (ht : (t.map fun b => Char.ofNat b.toNat) = ds) (hne : ds ≠ [])
    (hds : ∀ d ∈ ds, isAsciiDigit d = true) : index? t = some (decimalValue ds) := by
  have hall : ds.all isAsciiDigit = true := List.all_eq_true.2 hds
  unfold index?
  simp only [ht]
  split
  · cases hds '-' List.mem_cons_self
  · cases hds '+' List.mem_cons_self
  · simp [hne, hall]

theorem index?_toDigits (i : Nat) : index? (utf8 (String.ofList (Nat.toDigits 10 i))) = some i := by
  have hvalue : decimalValue (Nat.toDigits 10 i) = i := by
    rw [decimalValue_eq_ofDigitChars, Nat.ofDigitChars_ten_toDigits]
  have hascii : ∀ d ∈ Nat.toDigits 10 i, d.toNat < 0x80 := by
    intro d hd
    have hdigit := isAsciiDigit_of_mem_toDigits hd
    simp only [isAsciiDigit, Bool.and_eq_true, decide_eq_true_eq] at hdigit
    exact Nat.lt_of_le_of_lt (Char.le_def.1 hdigit.2) (by decide)
  rw [index?_of_digits (map_ofNat_utf8 hascii) Nat.toDigits_ne_nil fun d hd =>
    isAsciiDigit_of_mem_toDigits hd, hvalue]

/-! ## Following a pointer -/

theorem follow_of_denotes (hchains : ∀ a t, anchored? a = some t → t.isAlias = false) {n m : Node}
    (h : Denotes anchored? n m) : follow anchored? n = m := by
  cases h with
  | self h =>
    cases n with
    | aliasOf line column name a => cases h
    | _ => rfl
  | target ht h =>
    cases h with
    | self h => rw [follow, ht, Option.getD_some]
    | target _ _ => cases hchains _ _ ht

theorem find?_label {entries : List (Node × Node)} {k v : Node} (hv : (k, v) ∈ entries)
    (honly : ∀ e ∈ entries, e.1.label = k.label → e = (k, v)) :
    entries.find? (fun e => utf8 e.1.label == utf8 k.label) = some (k, v) := by
  cases hfind : entries.find? (fun e => utf8 e.1.label == utf8 k.label) with
  | none => simpa using List.find?_eq_none.1 hfind _ hv
  | some e =>
    have hlabel : e.1.label = k.label := utf8_inj.1 (by simpa using List.find?_some hfind)
    rw [honly e (List.mem_of_find?_eq_some hfind) hlabel]

section Steps

variable (hchains : ∀ a t, anchored? a = some t → t.isAlias = false) (pointer : String) {n : Node}
  {line : Nat} {tag : Option String}

include hchains

theorem descend_key {entries : List (Node × Node)} {k v : Node}
    (hn : Denotes anchored? n (.mapping line tag entries)) (hv : (k, v) ∈ entries)
    (honly : ∀ e ∈ entries, e.1.label = k.label → e = (k, v)) :
    descend anchored? pointer n (Step.key k.label).write = .ok v := by
  rw [descend, Step.write, token_flatMap_escapeChar, String.ofList_toList,
    follow_of_denotes hchains hn]
  simp only [bind, Except.bind, find?_label hv honly]
  rfl

theorem descend_index {items : List Node} {i : Nat} {v : Node}
    (hn : Denotes anchored? n (.sequence line tag items)) (hv : items[i]? = some v) :
    descend anchored? pointer n (Step.index i).write = .ok v := by
  rw [descend, Step.write, token_toDigits, follow_of_denotes hchains hn]
  simp only [bind, Except.bind, index?_toDigits, Option.bind, hv]
  rfl

/-- The parts of a pointer are taken one after the other. -/
theorem foldlM_descend_write {m : Node} {steps : List Step} (h : Leads anchored? n steps m) :
    (steps.map Step.write).foldlM (descend anchored? pointer) n = .ok m := by
  induction h with
  | here n => rfl
  | key hn hv honly _ ih =>
    rw [List.map_cons, List.foldlM_cons, descend_key hchains pointer hn hv honly]
    exact ih
  | index hn hv _ ih =>
    rw [List.map_cons, List.foldlM_cons, descend_index hchains pointer hn hv]
    exact ih

end Steps

theorem slash_not_mem_write (s : Step) : '/' ∉ s.write := by
  cases s with
  | key text =>
    rw [Step.write, List.mem_flatMap]
    rintro ⟨c, -, hc⟩
    rw [escapeChar] at hc
    split at hc
    · simp at hc
    split at hc
    · simp at hc
    split at hc
    · simp at hc
    · rename_i hslash _
      exact hslash (List.mem_singleton.1 hc).symm
  | index i =>
    intro h
    cases isAsciiDigit_of_mem_toDigits h

/-- A pointer is cut into the steps it was written from. -/
theorem splitOn_write (s : Step) (steps : List Step) :
    List.splitOn '/' (s.write ++ steps.flatMap fun s => '/' :: s.write) =
      (s :: steps).map Step.write := by
  induction steps generalizing s with
  | nil => simpa using List.splitOn_eq_singleton (slash_not_mem_write s)
  | cons s' steps ih =>
    rw [List.flatMap_cons, List.cons_append, List.splitOn_append_cons_self,
      List.splitOn_eq_singleton (slash_not_mem_write s), ih]
    rfl

theorem escapeChar_ne_nil (c : Char) : escapeChar c ≠ [] := by
  unfold escapeChar
  repeat' split
  all_goals simp

theorem write_eq_nil {s : Step} (h : s.write = []) : s = .key "" := by
  cases s with
  | key text =>
    have hchars := List.flatMap_eq_nil_iff.1 h
    have hnil : text.toList = [] := List.eq_nil_iff_forall_not_mem.2 fun c hc =>
      escapeChar_ne_nil c (hchars c hc)
    rw [String.toList_eq_nil_iff.1 hnil]
  | index i => exact absurd h Nat.toDigits_ne_nil

theorem walk_slash (root : Node) {r : List Char} (hr : r ≠ []) :
    walk anchored? root (String.ofList ('/' :: r)) =
      (List.splitOn '/' r).foldlM (descend anchored? (String.ofList ('/' :: r))) root := by
  obtain _ | ⟨c, r⟩ := r
  · exact absurd rfl hr
  · rw [walk, String.toList_ofList]
    rfl

/-- **A pointer finds the node that it was written for.** Take a document in which no anchor is on
an alias, and steps that lead from its root to a node: each to the only entry of a mapping with that
key, or to an item of a sequence, where aliases on the way are followed. The pointer of the steps,
in which keys have `~`, `/` and `%` escaped, leads to that very node, unless the steps are the empty
key alone. -/
theorem walk_write (hchains : ∀ a t, anchored? a = some t → t.isAlias = false) {root node : Node}
    {steps : List Step} (h : Leads anchored? root steps node) (hsteps : steps ≠ [.key ""]) :
    walk anchored? root (write steps) = .ok node := by
  obtain _ | ⟨s, steps⟩ := steps
  · cases h
    rfl
  · -- the pointer `/` would be read as the whole document
    have hne : s.write ++ steps.flatMap (fun s => '/' :: s.write) ≠ [] := by
      intro hnil
      obtain ⟨hs, hrest⟩ := List.append_eq_nil_iff.1 hnil
      obtain _ | ⟨s', steps⟩ := steps
      · exact hsteps (by rw [write_eq_nil hs])
      · cases hrest
    rw [write, List.flatMap_cons, List.cons_append, walk_slash root hne, splitOn_write]
    exact foldlM_descend_write hchains _ h

/-- The items of a sequence behind an alias. -/
def coilItems : List Node :=
  [.scalar 2 none "0" true, .mapping 3 none
    [(.scalar 3 none "a" true, .scalar 3 none "1" true),
      (.scalar 4 none "" false, .scalar 4 none "2" true)]]

/-- A document with the sequence, and the alias under a key that is full of escapes. -/
def coilDocument : Document where
  root := .mapping 1 none [(.scalar 1 none "coil" true, .sequence 1 none coilItems),
    (.scalar 5 none "~1/%7E" false, .aliasOf 5 10 "c" ⟨"", 0⟩)]
  anchors := [.sequence 1 none coilItems]

theorem walk_write_coilDocument :
    (Document.read "" "coil: &c\n- 0\n- a: 1\n  '': 2\n'~1/%7E': *c\n").toOption =
      some (some coilDocument) ∧
      write [.key "~1/%7E", .index 1, .key ""] = "/~01~1%257E/1/" ∧
      walk (fun a => coilDocument.anchors[a.number]?) coilDocument.root
        (write [.key "~1/%7E", .index 1, .key ""]) =
        .ok (.scalar 4 none "2" true) := by
  have hchains : ∀ (a : Anchor) (t : Node), coilDocument.anchors[a.number]? = some t →
      t.isAlias = false := by
    intro a t ht
    obtain rfl := List.mem_singleton.1 (List.mem_of_getElem? ht)
    rfl
  have hitem : Leads (fun a => coilDocument.anchors[a.number]?) coilItems[1] [.key ""]
      (.scalar 4 none "2" true) :=
    .key (k := .scalar 4 none "" false) (.self rfl) (by decide) (by decide) (.here _)
  have halias : Leads (fun a => coilDocument.anchors[a.number]?) (.aliasOf 5 10 "c" ⟨"", 0⟩)
      [.index 1, .key ""]
      (.scalar 4 none "2" true) :=
    .index (.target (t := .sequence 1 none coilItems) rfl (.self rfl)) rfl hitem
  refine ⟨by decide +kernel, by decide, walk_write hchains ?_ (by decide)⟩
  exact .key (k := .scalar 5 none "~1/%7E" false) (.self rfl) (by decide) (by decide) halias

end PayloadGen.Pointer
