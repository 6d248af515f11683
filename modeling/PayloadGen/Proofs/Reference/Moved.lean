import PayloadGen.Proofs.Files.Path
import PayloadGen.Proofs.Reference.Transparency
import PayloadGen.Proofs.Yaml.Documents

/-!
# References between files that are moved together

When all files are moved into a folder, references between them still lead to the same places, since
a reference names its file relative to the file that it stands in. So every lookup that succeeds
also succeeds in the folder (`lookup_moved`), and so does every replacement (`resolve_moved`).
Documents, aliases and the references that have been followed change by the name of the folder only.
-/

namespace PayloadGen

open Text Yaml

/-- The files of the first source are those that the second one has in a folder. -/
def FileSource.MovedTo (folder : String) (source moved : FileSource) : Prop :=
  ∀ name text, moved.read (Path.under folder name) = .ok text ↔ source.read name = .ok text

/-- Files that can be moved have a proper path, and so has the folder. -/
theorem FileSource.MovedTo.proper {folder : String} {source moved : FileSource}
    (h : source.MovedTo folder moved) {name text : String} (hread : source.read name = .ok text) :
    Path.Proper folder ∧ Path.Proper name :=
  Path.isInner_under.1 (moved.isInner_of_read _ _ ((h name text).2 hread))

/-- The files of a dictionary moved to a folder. -/
theorem FileSource.movedTo_ofDict {folder : String} (hfolder : Path.Proper folder)
    {files : Pairs String} (hroot : files.find? "." = none) :
    (ofDict files).MovedTo folder (ofDict (files.map (Prod.map (Path.under folder) id))) := by
  intro name text
  have hfind : Pairs.find? (Path.under folder name) (files.map (Prod.map (Path.under folder) id)) =
      files.find? name := by
    rw [Pairs.find?_map (Path.strictMono_under folder).injective, Option.map_id]
    rfl
  show readDict _ _ = _ ↔ readDict _ _ = _
  rw [readDict_eq_ok, readDict_eq_ok, hfind, Path.isInner_under]
  refine and_congr_left fun htext => ?_
  have hname : name ≠ "." := by
    rintro rfl
    cases hroot.symm.trans htext
  rw [Path.proper_iff (p := name)]
  exact ⟨fun h => h.2.1, fun h => ⟨hfolder, h, hname⟩⟩

/-! ## Pointers -/

namespace Pointer

variable {f : String → String} {anchored? anchored?' : Anchor → Option Node}

/-- Anchors lead to the same nodes under the new names. -/
def SameAnchors (f : String → String) (anchored?' anchored? : Anchor → Option Node) : Prop :=
  ∀ a, anchored?' ⟨f a.document, a.number⟩ = (anchored? a).map (Node.mapDocuments f)

theorem follow_mapDocuments (h : SameAnchors f anchored?' anchored?) (n : Node) :
    follow anchored?' (n.mapDocuments f) = (follow anchored? n).mapDocuments f := by
  cases n with
  | aliasOf line column name target =>
    rw [Node.mapDocuments, follow, h target]
    cases ha : anchored? target with
    | none => simp [follow, ha, Node.mapDocuments]
    | some t => simp [follow, ha]
  | _ => rfl

theorem descend_mapDocuments (h : SameAnchors f anchored?' anchored?) (pointer : String) (n : Node)
    (part : List Char) :
    descend anchored?' pointer (n.mapDocuments f) part =
      (descend anchored? pointer n part).map (Node.mapDocuments f) := by
  unfold descend
  rw [follow_mapDocuments h]
  cases token part with
  | error e => rfl
  | ok t =>
    cases follow anchored? n with
    | scalar line tag text isPlain => rfl
    | aliasOf line column name target => rfl
    | sequence line tag items =>
      simp only [Node.mapDocuments, mapItems_eq, bind, Except.bind, List.getElem?_map]
      cases index? t with
      | none => rfl
      | some i =>
        simp only [Option.bind_some]
        cases items[i]? <;> rfl
    | mapping line tag entries =>
      simp only [Node.mapDocuments, mapEntries_eq, bind, Except.bind, List.find?_map,
        Function.comp_def, Prod.map_fst, Node.label_mapDocuments]
      cases entries.find? fun e => utf8 e.1.label == t <;> rfl

theorem foldlM_descend_mapDocuments (h : SameAnchors f anchored?' anchored?) (pointer : String)
    (parts : List (List Char)) (root : Node) :
    parts.foldlM (descend anchored?' pointer) (root.mapDocuments f) =
      (parts.foldlM (descend anchored? pointer) root).map (Node.mapDocuments f) := by
  induction parts generalizing root with
  | nil => rfl
  | cons part parts ih =>
    rw [List.foldlM_cons, List.foldlM_cons, descend_mapDocuments h]
    cases descend anchored? pointer root part with
    | error e => rfl
    | ok n => exact ih n

theorem walk_mapDocuments (h : SameAnchors f anchored?' anchored?) (root : Node)
    (pointer : String) :
    walk anchored?' (root.mapDocuments f) pointer =
      (walk anchored? root pointer).map (Node.mapDocuments f) := by
  unfold walk
  split
  · rfl
  · rfl
  · exact foldlM_descend_mapDocuments h pointer _ root
  · rfl

end Pointer

namespace References

variable {folder file ref name : String} {stack : List String} {source moved : FileSource}
  {n t : Node} {l l' : Library}

theorem refOf?_mapDocuments (f : String → String) (n : Node) :
    refOf? (n.mapDocuments f) = refOf? n := by
  rw [refOf?, Node.entryAt?_mapDocuments, refOf?]
  cases n.entryAt? "$ref" with
  | none => rfl
  | some v => cases v <;> rfl

theorem load_moved (h : source.MovedTo folder moved) (name : String) :
    (load (some moved) (Path.under folder name)).toOption =
      (load (some source) name).toOption.map (Document.mapDocuments (Path.under folder)) := by
  ext d
  simp only [Option.map_eq_some_iff, Except.toOption_eq_some_iff, load_eq_ok, Option.some.injEq]
  constructor
  · rintro ⟨_, text, parsed, rfl, hread, hparse, rfl⟩
    exact ⟨_, ⟨source, text, parsed, rfl, (h name text).1 hread, hparse, rfl⟩,
      parsed.mapDocuments_const _ name⟩
  · rintro ⟨_, ⟨_, text, parsed, rfl, hread, hparse, rfl⟩, rfl⟩
    exact ⟨moved, text, parsed, rfl, (h name text).2 hread, hparse,
      parsed.mapDocuments_const _ name⟩

theorem documentOf_moved (h : source.MovedTo folder moved) (l : Library) (name : String) :
    (documentOf (some moved) (l.mapDocuments (Path.under folder))
      (Path.under folder name)).toOption =
      (documentOf (some source) l name).toOption.map
        (Document.mapDocuments (Path.under folder)) := by
  have hinjective := (Path.strictMono_under folder).injective
  rw [documentOf_eq, documentOf_eq, Library.find?_mapDocuments hinjective]
  cases Pairs.find? name l with
  | some d => rfl
  | none => exact load_moved h name

theorem sameAnchors_moved (h : source.MovedTo folder moved) (l : Library) :
    Pointer.SameAnchors (Path.under folder)
      (anchored? (some moved) (l.mapDocuments (Path.under folder)))
        (anchored? (some source) l) := by
  intro a
  rw [anchored?_eq, anchored?_eq, documentOf_moved h]
  cases (documentOf (some source) l a.document).toOption with
  | none => rfl
  | some d => simp [Document.mapDocuments, mapItems_eq]

theorem target?_moved (h : source.MovedTo folder moved) (l : Library) (n : Node) :
    target? (some moved) (l.mapDocuments (Path.under folder)) (n.mapDocuments (Path.under folder)) =
      (target? (some source) l n).map (Node.mapDocuments (Path.under folder)) := by
  cases n with
  | aliasOf line column name a => exact sameAnchors_moved h l a
  | _ => rfl

/-! ## Lookups -/

theorem targetFile_under (hfolder : Path.Proper folder) (hfile : Path.Proper file)
    (htarget : Path.Proper (targetFile file ref)) :
    targetFile (Path.under folder file) ref = Path.under folder (targetFile file ref) := by
  unfold targetFile at htarget ⊢
  split
  · rfl
  · rename_i hpath
    rw [if_neg hpath] at htarget
    exact Path.join_dir_under hfolder hfile hpath htarget

theorem key_under (hfolder : Path.Proper folder) (hfile : Path.Proper file)
    (htarget : Path.Proper (targetFile file ref)) :
    key (Path.under folder file) ref = Path.under folder (key file ref) := by
  rw [key, targetFile_under hfolder hfile htarget, key]
  simp only [Path.under, String.append_assoc]

/-- The documents of a library have proper names. -/
def ProperNames (l : Library) : Prop :=
  ∀ name d, Pairs.find? name l = some d → Path.Proper name

theorem document_moved (h : source.MovedTo folder moved) (hl : ProperNames l) {d : Document}
    (hd : document (some source) l name = .ok (d, l')) :
    document (some moved) (l.mapDocuments (Path.under folder)) (Path.under folder name) =
        .ok (d.mapDocuments (Path.under folder), l'.mapDocuments (Path.under folder)) ∧
      ProperNames l' ∧ Path.Proper name := by
  have hmono := Path.strictMono_under folder
  unfold document at hd ⊢
  rw [Library.find?_mapDocuments hmono.injective]
  cases hfind : Pairs.find? name l with
  | some d' =>
    rw [hfind] at hd
    cases hd
    exact ⟨rfl, hl, hl name d hfind⟩
  | none =>
    rw [hfind] at hd
    obtain ⟨d', hload, hpair⟩ := Except.map_eq_ok_iff.1 hd
    cases hpair
    obtain ⟨_, text, parsed, hsource, hread, -, -⟩ := load_eq_ok.1 hload
    cases hsource
    -- A file that has been read has a name, which is what keeps later ways inside the folder.
    have hname := (h.proper hread).2
    have hmoved : load (some moved) (Path.under folder name) =
        .ok (d.mapDocuments (Path.under folder)) := by
      rw [← Except.toOption_eq_some_iff, load_moved h, hload]
      rfl
    refine ⟨?_, fun other d' hother => ?_, hname⟩
    · rw [← Library.insert_mapDocuments hmono, Option.map_none]
      simp only [hmoved, Except.map]
    · rw [Pairs.find?_insert] at hother
      split at hother
      · rename_i heq
        exact heq ▸ hname
      · exact hl other d' hother

/-- A reference leads to the same place in the folder. -/
theorem lookup_moved (h : source.MovedTo folder moved) (hfolder : Path.Proper folder)
    (hfile : Path.Proper file) (hl : ProperNames l)
    (hlookup : lookup (some source) file ref l = (.ok t, l')) :
    lookup (some moved) (Path.under folder file) ref (l.mapDocuments (Path.under folder)) =
        (.ok (t.mapDocuments (Path.under folder)), l'.mapDocuments (Path.under folder)) ∧
      ProperNames l' ∧ Path.Proper (targetFile file ref) := by
  unfold lookup at hlookup
  split at hlookup
  · cases hlookup
  · rename_i d l₁ hd
    obtain ⟨hwalk, rfl⟩ := Prod.mk.inj hlookup
    obtain ⟨hmoved, hl₁, htarget⟩ := document_moved h hl hd
    refine ⟨?_, hl₁, htarget⟩
    rw [lookup, targetFile_under hfolder hfile htarget, hmoved]
    simp only [Document.mapDocuments, Pointer.walk_mapDocuments (sameAnchors_moved h l₁),
      hwalk, Except.map]

/-! ## Runs -/

/-- A run that succeeds does so in the folder. Failures do not count: a way that leads out of the
files at first may well lead to a file once they are in a folder. -/
def Moves (folder : String) {α : Type} (map : α → α) (run : Library → Option (Outcome α))
    (l : Library) (o : Outcome α) : Prop :=
  ProperNames l → ∀ a, o.1 = .ok a →
    ProperNames o.2 ∧
      run (l.mapDocuments (Path.under folder)) =
        some (.ok (map a), o.2.mapDocuments (Path.under folder))

theorem runInduction_moves (h : source.MovedTo folder moved) (hfolder : Path.Proper folder) :
    RunInduction (some source)
      (fun file stack n l o => Path.Proper file →
        Moves folder (Node.mapDocuments (Path.under folder))
        (resolve (some moved) (Path.under folder file) (stack.map (Path.under folder))
          (n.mapDocuments (Path.under folder))) l o)
      (fun file stack ns l o => Path.Proper file →
        Moves folder (List.map (Node.mapDocuments (Path.under folder)))
        (resolveAll (some moved) (Path.under folder file) (stack.map (Path.under folder))
          (ns.map (Node.mapDocuments (Path.under folder)))) l o) where
  follow {file stack n t l o} htarget _ ih := by
    intro hfile hl m hm
    obtain ⟨hl', hrun⟩ := ih hfile hl m hm
    refine ⟨hl', ?_⟩
    rw [resolve_follow ((target?_moved h l n).trans (by rw [htarget]; rfl)), hrun]
  lost {file stack n ref l e l'} _ _ := by
    intro _ _ _ hm
    cases hm
  circular {file stack n ref l t l'} _ _ _ := by
    intro _ _ _ hm
    cases hm
  reference {file stack n ref l t l' o} href hlookup hkey _ ih := by
    intro hfile hl m hm
    obtain ⟨hmoved, hl', htarget⟩ := lookup_moved h hfolder hfile hl hlookup
    obtain ⟨hl'', hrun⟩ := ih htarget hl' m hm
    -- The keys on the stack are moved too, so none of them has become that of this reference.
    have hkey' : key (Path.under folder file) ref ∉ stack.map (Path.under folder) := by
      rw [key_under hfolder hfile htarget,
        List.mem_map_of_injective (Path.strictMono_under folder).injective]
      exact hkey
    refine ⟨hl'', ?_⟩
    rw [resolve_reference ((refOf?_mapDocuments _ n).trans href) hmoved hkey',
      targetFile_under hfolder hfile htarget, key_under hfolder hfile htarget, ← hrun,
      List.map_append]
    rfl
  parts {file stack n l r l'} htarget href _ ih := by
    intro hfile hl m hm
    obtain ⟨cs, rfl, rfl⟩ := Except.map_eq_ok_iff.1 hm
    obtain ⟨hl', hrun⟩ := ih hfile hl cs rfl
    refine ⟨hl', ?_⟩
    rw [resolve_parts ((target?_moved h l n).trans (by rw [htarget]; rfl))
      ((refOf?_mapDocuments _ n).trans href), Node.children_mapDocuments, hrun]
    simp [Except.map]
  nil {file stack l} := by
    intro _ hl ms hms
    cases hms
    exact ⟨hl, resolveAll_nil⟩
  fail {file stack n ns l e l'} _ _ := by
    intro _ _ _ hms
    cases hms
  cons {file stack n m ns l l₁ r l'} _ ihNode _ ihNodes := by
    intro hfile hl ms hms
    obtain ⟨ms', rfl, rfl⟩ := Except.map_eq_ok_iff.1 hms
    obtain ⟨hl₁, hnode⟩ := ihNode hfile hl m rfl
    obtain ⟨hl', hnodes⟩ := ihNodes hfile hl₁ ms' rfl
    refine ⟨hl', ?_⟩
    rw [List.map_cons, resolveAll_cons_ok hnode, hnodes]
    rfl

/-- What can be replaced can be replaced in the folder, with the same result. -/
theorem resolve_moved (h : source.MovedTo folder moved) (hfolder : Path.Proper folder)
    (hfile : Path.Proper file) (hl : ProperNames l) {m : Node}
    (hrun : resolve (some source) file stack n l = some (.ok m, l')) :
    ProperNames l' ∧
      resolve (some moved) (Path.under folder file) (stack.map (Path.under folder))
          (n.mapDocuments (Path.under folder)) (l.mapDocuments (Path.under folder)) =
        some (.ok (m.mapDocuments (Path.under folder)), l'.mapDocuments (Path.under folder)) :=
  (runInduction_moves h hfolder).resolve hrun hfile hl m rfl

end References

end PayloadGen
