import Mathlib.Logic.Relation
import PayloadGen.Proofs.Watch.Tree
import PayloadGen.Watch.Loop

/-!
# Runs of a watched disk

A `System` is a disk, the loop that watches it and the events that were told and not yet handled.
Three things can happen (`Happens`): somebody edits the disk, the loop handles the next event, or it
gets another signal. An edit comes with a mark that says who is behind it, and its events keep the
mark.

What an edit can do is said once (`Edit.Effect`), and likewise what a signal can do to the loop
(`grows_step`, `heed_cases`). From this follow the invariants of runs: a place with a registered
path is watched as long as no edit takes its watch away (`held_of_runsWithout_ends`), and what is
told leads to where it happened as long as no edit carries a watch along
(`told_of_runsWithout_carries`).
-/

namespace PayloadGen.Watch

open PayloadGen Text Relation

variable {α : Type} {w : Watcher} {may : α → Edit → Prop} {d d' : Disk} {r r' : Registry}
  {l : Loop} {e : Event} {place q : Place}

/-! ## Edits -/

/-- What an edit does: the disk and the registry afterwards, and what is told. Only of a file that
is written does it matter what is told. -/
inductive Edit.Effect (d : Disk) (r : Registry) : Edit → Disk × Registry × List Event → Prop
  | nothing {edit : Edit} {events : List Event} :
    (∀ path content, edit = .write path content → events = []) →
    Effect d r edit (d, r, events)
  | write {path : String} {content : Bytes} {place : Place} {d' : Disk} {events : List Event} :
    d.locate path = .ok place → d.write path content = .ok d' →
    (∀ e ∈ events, e ∈ r.told place .create ∨ e ∈ r.told place .write) →
    Effect d r (.write path content) (d', r, events)
  | makeFolder {path : String} {d' : Disk} (events : List Event) : d.makeFolder path = .ok d' →
    Effect d r (.makeFolder path) (d', r, events)
  | remove (path : String) (stays : Place × String → Bool) (events : List Event) :
    Effect d r (.remove path) (d.remove path, { r with watches := r.watches.filter stays }, events)
  | rename {path target : String} {d' : Disk} (watches : List (Place × String))
    (events : List Event) :
    d.rename path target = .ok d' →
      Effect d r (.rename path target) (d', { r with watches }, events)

theorem effect_apply (d : Disk) (r : Registry) (edit : Edit) :
    Edit.Effect d r edit (edit.apply d r) := by
  have hnothing :
      ∀ {edit : Edit} (_ : ∀ path content, edit ≠ .write path content) (events : List Event),
      Edit.Effect d r edit (d, r, events) := fun hedit _ => .nothing fun path content h =>
        absurd h (hedit path content)
  cases edit with
  | write path content =>
    rw [Edit.apply]
    split
    · rename_i place after hplace hwrite
      refine .write hplace hwrite fun e he => ?_
      split at he
      · exact .inr he
      · rcases List.mem_append.1 he with he | he
        · exact .inl he
        · split at he
          · cases he
          · exact .inr he
    · exact .nothing fun _ _ _ => rfl
  | makeFolder path =>
    rw [Edit.apply]
    split
    · rename_i hmake
      exact .makeFolder _ hmake
    · exact hnothing (by simp) _
  | remove path =>
    rw [Edit.apply]
    split
    · split
      · exact hnothing (by simp) _
      · exact .remove path _ _
    · exact hnothing (by simp) _
  | rename path target =>
    rw [Edit.apply]
    split
    · rename_i hrename
      split
      · exact hnothing (by simp) _
      · exact .rename _ _ hrename
    · exact hnothing (by simp) _
  | chmod path =>
    rw [Edit.apply]
    split <;> exact hnothing (by simp) _

namespace Edit

/-- An edit that removes or renames. -/
def Takes : Edit → Prop
  | remove _ | rename _ _ => True
  | write _ _ | makeFolder _ | chmod _ => False

namespace Effect

variable {edit : Edit} {x : Disk × Registry × List Event}

theorem here (h : Effect d r edit x) : x.1.here = d.here := by
  cases h with
  | nothing _ => rfl
  | write _ hwrite _ =>
    obtain ⟨p, -, hp, rfl⟩ := Disk.exists_place_of_write hwrite
    rfl
  | makeFolder _ hmake => exact (Disk.addsFolders_of_makeFolder hmake).here
  | remove path => exact Disk.here_remove d path
  | rename _ _ hrename =>
    obtain ⟨p, q, hmove, -, -, rfl⟩ := Disk.exists_move_of_rename hrename
    rfl

theorem seen (h : Effect d r edit x) : x.2.1.seen = r.seen := by
  cases h <;> rfl

/-- Only a renaming makes other watches. -/
theorem watches_subset (h : Effect d r edit x)
    (hrename : ∀ path target, edit ≠ .rename path target) : x.2.1.watches ⊆ r.watches := by
  cases h with
  | remove path stays events => exact List.filter_subset_self r.watches
  | @rename path target => exact absurd rfl (hrename path target)
  | _ => exact List.Subset.refl _

/-- Only a removal or a renaming changes the registry. -/
theorem registry_eq (h : Effect d r edit x) (hedit : ¬ edit.Takes) : x.2.1 = r := by
  cases h with
  | remove | rename => exact absurd trivial hedit
  | _ => rfl

end Effect

end Edit

/-! ## What is told -/

theorem exists_of_mem_told {what : Happening} (h : e ∈ r.told place what) :
    ∃ name folder, place.getLast? = some name ∧ (place.dropLast, folder) ∈ r.watches ∧
      e = ⟨folder ++ "/" ++ name, what⟩ := by
  unfold Registry.told at h
  split at h
  · rename_i name folder hname hfolder
    obtain ⟨x, hx, rfl⟩ := Option.map_eq_some_iff.1 hfolder
    have hplace : x.1 = place.dropLast := by simpa using List.find?_some hx
    exact ⟨name, x.2, hname, hplace ▸ List.mem_of_find?_eq_some hx, List.mem_singleton.1 h⟩
  · cases h

/-- An honest registry tells of a place under a path that leads to it. -/
theorem placeOf_of_mem_told (hr : r.Honest d) (hplace : ∀ n ∈ place, IsFileName n)
    {what : Happening} (h : e ∈ r.told place what) : d.placeOf e.path = place ∧ e.what = what := by
  obtain ⟨name, folder, hname, hfolder, rfl⟩ := exists_of_mem_told h
  obtain ⟨hne, hleads⟩ := hr _ hfolder
  have hlast := List.getLast?_eq_some_iff.1 hname
  obtain ⟨front, rfl⟩ := hlast
  have hfile : IsFileName name := hplace name (by simp)
  refine ⟨?_, rfl⟩
  rw [Disk.placeOf_append_name hne hfile, hleads, List.dropLast_concat]

/-! ## The loop -/

theorem heeds_congr (h : d'.here = d.here) : w.heeds d' e = w.heeds d e := by
  simp only [Watcher.heeds, Disk.absolutePath, Disk.workingPath, h]

theorem heeds_iff :
    w.heeds d e = true ↔ e.what.counts = true ∧ Disk.pathOf (d.placeOf e.path) ∉ w.ignored ∧
      isRelevant (Disk.pathOf (d.placeOf e.path)) = true := by
  simp [Watcher.heeds, Disk.absolutePath_eq, and_assoc]

/-- Signals only ever add to the registry. -/
theorem grows_step (d : Disk) (w : Watcher) (l : Loop) (signal : Signal) :
    Registry.Grows d l.registry (l.step w d signal).1.registry := by
  cases signal with
  | event e =>
    show Registry.Grows d l.registry (l.heed w d e).1.registry
    unfold Loop.heed
    split
    · unfold Loop.enter
      split
      · exact .refl d _
      · split
        · rename_i htree
          exact Registry.grows_addTree htree
        · exact .refl d _
    · split <;> exact .refl d _
  | expiry timer =>
    unfold Loop.step
    dsimp only
    split <;> exact .refl d _
  | obstacle | cancel => exact .refl d _

theorem heedAll_fst (w : Watcher) (d : Disk) (l : Loop) (events : List Event) :
    (l.heedAll w d events).1 = events.foldl (fun l e => (l.heed w d e).1) l :=
  congrArg Prod.fst (foldl_notes (Loop.heed w d) events l [])

/-- Is a timer started for the event? It is if the event is heeded and brings no folder. -/
def Watcher.starts (w : Watcher) (d : Disk) (e : Event) : Bool :=
  w.heeds d e && (e.newFolder? d).isNone

theorem heed_of_starts (h : w.starts d e = true) :
    (l.heed w d e).1 = { l with timers := l.timers + 1, armed := some l.timers } := by
  obtain ⟨hheeds, hfolder⟩ := Bool.and_eq_true_iff.1 h
  simp [Loop.heed, Option.isNone_iff_eq_none.1 hfolder, hheeds]

theorem heed_of_not_starts (h : w.starts d e = false) :
    ∃ registry, (l.heed w d e).1 = { l with registry } := by
  unfold Loop.heed
  cases hfolder : e.newFolder? d with
  | none =>
    have hheeds : w.heeds d e = false := by simpa [Watcher.starts, hfolder] using h
    exact ⟨l.registry, by simp [hheeds]⟩
  | some folder =>
    dsimp only [Loop.enter]
    split
    · exact ⟨l.registry, rfl⟩
    · split
      · exact ⟨_, rfl⟩
      · exact ⟨l.registry, rfl⟩

/-- A timer is started for an event that is heeded, and for nothing else. -/
theorem heed_cases (w : Watcher) (d : Disk) (l : Loop) (e : Event) :
    (l.heed w d e).1.timers = l.timers ∧ (l.heed w d e).1.armed = l.armed ∨
      w.heeds d e = true ∧ (l.heed w d e).1.timers = l.timers + 1 := by
  cases hstarts : w.starts d e with
  | false =>
    obtain ⟨registry, hloop⟩ := heed_of_not_starts (l := l) hstarts
    exact .inl ⟨by rw [hloop], by rw [hloop]⟩
  | true => exact .inr ⟨(Bool.and_eq_true_iff.1 hstarts).1, by rw [heed_of_starts hstarts]⟩

/-! ## Systems -/

/-- A watched disk, with marks that say who is behind what happens. -/
structure System (α : Type) where
  disk : Disk
  loop : Loop
  /-- What was told and not yet handled. -/
  pending : List (α × Event)
  /-- Who is behind the event for which the last timer was started. -/
  cause : Option α

namespace System

/-- The disk is edited. -/
def edit (s : System α) (mark : α) (edit : Edit) : System α where
  disk := (edit.apply s.disk s.loop.registry).1
  loop := { s.loop with registry := (edit.apply s.disk s.loop.registry).2.1 }
  pending := s.pending ++ (edit.apply s.disk s.loop.registry).2.2.map (mark, ·)
  cause := s.cause

/-- The disk is edited several times. -/
def edits (s : System α) (es : List (α × Edit)) : System α :=
  es.foldl (fun s x => s.edit x.1 x.2) s

/-- The loop gets a signal. -/
def signal (w : Watcher) (s : System α) (signal : Signal) : System α :=
  { s with loop := (s.loop.step w s.disk signal).1 }

/-- The loop handles the next event. -/
def handle (w : Watcher) (s : System α) (mark : α) (e : Event) : System α :=
  { s.signal w (.event e) with
    pending := s.pending.tail
    cause := if (s.signal w (.event e)).loop.timers = s.loop.timers then s.cause else some mark }

/-- The place is watched, and what happens there is told under a path that leads to it. -/
def Watches (s : System α) (q : Place) : Prop :=
  s.loop.registry.Watches s.disk q

end System

/-- What can happen next, if it is laid down who may edit what. -/
inductive Happens (w : Watcher) (may : α → Edit → Prop) : System α → System α → Prop
  | edit (s : System α) {mark : α} {edit : Edit} : may mark edit →
      Happens w may s (s.edit mark edit)
  | handle {s : System α} {mark : α} {e : Event} {rest : List (α × Event)} :
    s.pending = (mark, e) :: rest → Happens w may s (s.handle w mark e)
  | signal (s : System α) {signal : Signal} : (∀ e, signal ≠ .event e) →
      Happens w may s (s.signal w signal)

/-- There is a run from one state of the system to another. -/
abbrev Runs (w : Watcher) (may : α → Edit → Prop) : System α → System α → Prop :=
  ReflTransGen (Happens w may)

/-- Watching begins: the trees are registered, and nothing has happened. -/
structure Begins (w : Watcher) (s : System α) : Prop where
  loop : s.loop = .start (Registry.empty.addTrees s.disk w.folders).1
  pending : s.pending = []
  cause : s.cause = none

variable {start s s' : System α}

theorem here_edit (s : System α) (mark : α) (edit : Edit) :
    (s.edit mark edit).disk.here = s.disk.here :=
  (effect_apply s.disk s.loop.registry edit).here

theorem loop_edits (s : System α) {es : List (α × Edit)} (h : ∀ x ∈ es, ¬ x.2.Takes) :
    (s.edits es).loop = s.loop := by
  induction es generalizing s with
  | nil => rfl
  | cons x es ih =>
    obtain ⟨hx, hes⟩ := List.forall_mem_cons.1 h
    have hloop : (s.edit x.1 x.2).loop = s.loop := by
      simp only [System.edit, (effect_apply s.disk s.loop.registry x.2).registry_eq hx]
    exact (ih _ hes).trans hloop

theorem Happens.here (h : Happens w may s s') : s'.disk.here = s.disk.here := by
  cases h with
  | edit _ => exact here_edit s _ _
  | handle | signal => rfl

theorem Runs.here (h : Runs w may start s) : s.disk.here = start.disk.here := by
  induction h with
  | refl => rfl
  | tail _ hstep ih => exact hstep.here.trans ih

/-- There is a run in which a certain thing never happens. -/
abbrev RunsWithout (w : Watcher) (may : α → Edit → Prop) (bad : System α → System α → Prop) :
    System α → System α → Prop :=
  ReflTransGen fun s s' => Happens w may s s' ∧ ¬ bad s s'

theorem RunsWithout.runs {bad : System α → System α → Prop} (h : RunsWithout w may bad start s) :
    Runs w may start s :=
  ReflTransGen.mono (fun _ _ hstep => hstep.1) _ _ h

/-! ## Watches that are kept -/

/-- An edit that removes or renames ends the watch of a place. -/
def Ends (q : Place) (s s' : System α) : Prop :=
  ∃ mark edit, edit.Takes ∧ s' = s.edit mark edit ∧ s.Watches q ∧ ¬ s'.Watches q

/-- If a path of the place is registered, the place is watched. -/
def Held (q : Place) (s : System α) : Prop :=
  ∀ p ∈ s.loop.registry.seen, s.disk.placeOf p = q → s.Watches q

theorem Held.signal (h : Held q s) {signal : Signal} (hdisk : s'.disk = s.disk)
    (hregistry : s'.loop.registry = (s.signal w signal).loop.registry) : Held q s' := by
  intro p hp hplace
  have hgrows := grows_step s.disk w s.loop signal
  unfold System.Watches
  rw [hregistry] at hp ⊢
  rw [hdisk] at hplace ⊢
  rcases hgrows.seen p hp with hp | hp
  · exact hgrows.watches q (h p hp hplace)
  · exact hplace ▸ hp

theorem Held.edit (h : Held q s) {mark : α} {edit : Edit} (hends : ¬ Ends q s (s.edit mark edit)) :
    Held q (s.edit mark edit) := by
  intro p hp hplace
  have heffect := effect_apply s.disk s.loop.registry edit
  have hp : p ∈ s.loop.registry.seen := heffect.seen ▸ hp
  rw [Disk.placeOf_congr (here_edit s mark edit)] at hplace
  obtain ⟨path, hpath, hleads⟩ := h p hp hplace
  by_contra hafter
  refine hends ⟨mark, edit, ?_, rfl, ⟨path, hpath, hleads⟩, hafter⟩
  by_contra htakes
  refine hafter ⟨path, ?_, (Disk.placeOf_congr (here_edit s mark edit)).trans hleads⟩
  show (edit.apply s.disk s.loop.registry).2.1.watch? q = some path
  rw [heffect.registry_eq htakes, hpath]

/-- In a run in which no edit ends the watch of a place, the place is watched once a path of it is
registered. -/
theorem held_of_runsWithout_ends (hstart : Begins w start)
    (hrun : RunsWithout w may (Ends q) start s) : Held q s := by
  induction hrun with
  | refl =>
    intro p hp hplace
    have hgrows := Registry.grows_addTrees start.disk .empty w.folders
    unfold System.Watches
    rw [hstart.loop] at hp ⊢
    exact hplace ▸ (hgrows.seen p hp).resolve_left List.not_mem_nil
  | @tail s s' hrun hstep ih =>
    obtain ⟨hstep, hends⟩ := hstep
    cases hstep with
    | edit hmay => exact ih.edit hends
    | handle hpending => exact ih.signal rfl rfl
    | signal hsignal => exact ih.signal rfl rfl

/-! ## What is told and what is heeded -/

/-- A renaming carries a watch along: there is another watch afterwards, which tells what happens
under the old path. -/
def Carries (s s' : System α) : Prop :=
  ∃ mark path target, s' = s.edit mark (.rename path target) ∧
    ∃ x ∈ s'.loop.registry.watches, x ∉ s.loop.registry.watches

theorem not_carries (h : s'.loop.registry.watches = s.loop.registry.watches) : ¬ Carries s s' := by
  rintro ⟨mark, path, target, -, x, hx, hnew⟩
  exact hnew (h ▸ hx)

theorem not_carries_edit {mark : α} {edit : Edit} (h : ¬ edit.Takes) :
    ¬ Carries s (s.edit mark edit) :=
  not_carries (congrArg Registry.watches ((effect_apply s.disk s.loop.registry edit).registry_eq h))

/-- What is told of a file that is written: that there is news where it is. -/
def Edit.Tells (d : Disk) : Edit → Event → Prop
  | .write path _, e => d.placeOf e.path = d.placeOf path ∧ e.what.counts = true
  | _, _ => True

theorem Edit.tells_congr (h : d'.here = d.here) {edit : Edit} :
    edit.Tells d' e ↔ edit.Tells d e := by
  cases edit with
  | write path content => simp only [Edit.Tells, Disk.placeOf_congr h]
  | _ => exact Iff.rfl

theorem Edit.Effect.tells {edit : Edit} {x : Disk × Registry × List Event}
    (h : Edit.Effect d r edit x) (hr : r.Honest d) (he : e ∈ x.2.2) : edit.Tells d e := by
  cases h with
  | @nothing _ events hedit =>
    cases edit with
    | write path content =>
      rw [show events = [] from hedit path content rfl] at he
      cases he
    | _ => trivial
  | write hplace _ hevents =>
    have hnames := Disk.isFileName_of_locate hplace
    rcases hevents e he with he | he
    all_goals
      obtain ⟨hleads, hwhat⟩ := placeOf_of_mem_told hr hnames he
      exact ⟨hleads.trans (Disk.eq_placeOf_of_locate hplace), by rw [hwhat]; rfl⟩
  | _ => trivial

/-- What happens is told under paths that lead there, every event that waits is of an edit that its
mark may make, and so was the event for which the last timer was started. -/
structure Told (w : Watcher) (may : α → Edit → Prop) (s : System α) : Prop where
  honest : s.loop.registry.Honest s.disk
  pending : ∀ x ∈ s.pending, ∃ edit, may x.1 edit ∧ edit.Tells s.disk x.2
  cause : ∀ mark, s.cause = some mark →
    ∃ e edit, w.heeds s.disk e = true ∧ may mark edit ∧ edit.Tells s.disk e

theorem Begins.told (h : Begins w start) : Told w may start where
  honest := by
    have hgrows := Registry.grows_addTrees start.disk .empty w.folders
    rw [h.loop]
    refine hgrows.honest fun x hx => ?_
    cases hx
  pending x hx := by
    rw [h.pending] at hx
    cases hx
  cause mark hcause := by
    rw [h.cause] at hcause
    cases hcause

theorem Told.edit (h : Told w may s) {mark : α} {edit : Edit} (hmay : may mark edit)
    (hwatches : (s.edit mark edit).loop.registry.watches ⊆ s.loop.registry.watches) :
    Told w may (s.edit mark edit) where
  honest x hx := by
    rw [Disk.placeOf_congr (here_edit s mark edit)]
    exact h.honest x (hwatches hx)
  pending x hx := by
    simp only [Edit.tells_congr (here_edit s mark edit)]
    rcases List.mem_append.1 hx with hx | hx
    · exact h.pending x hx
    · obtain ⟨e, he, rfl⟩ := List.mem_map.1 hx
      exact ⟨edit, hmay, (effect_apply s.disk s.loop.registry edit).tells h.honest he⟩
  cause mark' hcause := by
    simp only [Edit.tells_congr (here_edit s mark edit), heeds_congr (here_edit s mark edit)]
    exact h.cause mark' hcause

theorem Told.handle (h : Told w may s) {mark : α} {e : Event} {rest : List (α × Event)}
    (hpending : s.pending = (mark, e) :: rest) : Told w may (s.handle w mark e) where
  honest := (grows_step s.disk w s.loop (.event e)).honest h.honest
  pending x hx := h.pending x (List.mem_of_mem_tail hx)
  cause mark' hcause := by
    simp only [System.handle] at hcause
    split at hcause
    · exact h.cause mark' hcause
    · rename_i htimers
      cases hcause
      obtain ⟨edit, hmay, htells⟩ := h.pending (mark, e) (hpending ▸ List.mem_cons_self)
      rcases heed_cases w s.disk s.loop e with ⟨hsame, -⟩ | ⟨hheeds, -⟩
      · exact absurd hsame htimers
      · exact ⟨e, edit, hheeds, hmay, htells⟩

theorem watches_subset_of_not_carries {mark : α} {edit : Edit}
    (h : ¬ Carries s (s.edit mark edit)) :
    (s.edit mark edit).loop.registry.watches ⊆ s.loop.registry.watches := by
  cases edit with
  | rename path target =>
    intro x hx
    by_contra hnew
    exact h ⟨mark, path, target, rfl, x, hx, hnew⟩
  | _ => exact (effect_apply s.disk s.loop.registry _).watches_subset (by simp)

/-- In a run in which no watch is carried along, what is told leads to where it happened. -/
theorem told_of_runsWithout_carries (hstart : Begins w start)
    (hrun : RunsWithout w may Carries start s) : Told w may s := by
  induction hrun with
  | refl => exact hstart.told
  | @tail s s' hrun hstep ih =>
    obtain ⟨hstep, hcarries⟩ := hstep
    cases hstep with
    | edit hmay => exact ih.edit hmay (watches_subset_of_not_carries hcarries)
    | handle hpending => exact ih.handle hpending
    | signal => exact ⟨(grows_step s.disk w s.loop _).honest ih.honest, ih.pending, ih.cause⟩

/-- If a timer runs, it is known for what. -/
theorem cause_of_armed (hstart : Begins w start) (hrun : Runs w may start s)
    (harmed : s.loop.armed.isSome) : s.cause.isSome := by
  induction hrun with
  | refl =>
    rw [hstart.loop] at harmed
    cases harmed
  | @tail s s' _ hstep ih =>
    cases hstep with
    | edit => exact ih harmed
    | @handle mark e rest =>
      simp only [System.handle]
      split
      · rename_i htimers
        rcases heed_cases w s.disk s.loop e with ⟨-, hsame⟩ | ⟨-, hnext⟩
        · exact ih (hsame ▸ harmed)
        · exact absurd (htimers.symm.trans hnext) (by simp)
      · rfl
    | @signal signal hsignal =>
      refine ih ?_
      cases signal with
      | event e => exact absurd rfl (hsignal e)
      | expiry timer =>
        simp only [System.signal, Loop.step] at harmed
        split at harmed
        · cases harmed
        · exact harmed
      | obstacle | cancel => exact harmed

end PayloadGen.Watch
