import Mathlib.Logic.Relation
import Mathlib.Order.Nat
import PayloadGen.Proofs.Payload.Resolve

/-!
# Messages compiled side by side

A pool of workers compiles the messages of a specification: they are handed out in order, at most
`workers` of them are in hand at a time, and they are finished in any order. A worker writes what it
found into the slot of its message and then reports whether it failed; the pool remembers the report
that came first, which is not always that of the first message.

* `Pool.Step` is one step of the pool, and `Pool.Invariant` what every schedule preserves
  (`Pool.Invariant.step`).
* `Pool.Invariant.slots_of_finished`: after every complete schedule each slot holds the result of
  its message.
* `workers_eq_inTurn`: the pool therefore returns what compiling the messages in turn returns.
-/

namespace PayloadGen

/-- What a call returns to its caller: classes, and an error. -/
abbrev Returned := List ClassDef × Option CompileError

/-- A result as it is returned: no class comes with an error. -/
def returned : Except CompileError (List ClassDef) → Returned
  | .ok defs => (defs, none)
  | .error e => ([], some e)

/-- The state of a pool of workers. -/
structure Pool where
  /-- How many messages were handed out. -/
  started : Nat
  /-- The messages that are being compiled. -/
  running : List Nat
  /-- The messages whose slot is written but whose worker has not reported yet. -/
  returning : List Nat
  /-- For each message the slot of its classes. -/
  results : List (List ClassDef)
  /-- For each message the slot of its error. -/
  errors : List (Option CompileError)
  /-- The failure that was reported first. -/
  failure : Option CompileError

namespace Pool

/-- The pool before the first message is handed out. -/
def initial (messages : List Message) : Pool :=
  ⟨0, [], [], List.replicate messages.length [], List.replicate messages.length none, none⟩

/-- The pool after the next message is handed out. -/
def start (p : Pool) : Pool :=
  { p with started := p.started + 1, running := p.started :: p.running }

/-- The pool after the worker of a message has written its slot. -/
def write (p : Pool) (i : Nat) (result : Except CompileError (List ClassDef)) : Pool :=
  let p := { p with running := p.running.erase i, returning := i :: p.returning }
  match result with
  | .ok defs => { p with results := p.results.set i defs }
  | .error e => { p with errors := p.errors.set i (some e) }

/-- The pool after the worker of a message has reported. Only the first failure is kept. -/
def report (p : Pool) (i : Nat) : Pool :=
  { p with
    returning := p.returning.erase i
    failure := p.failure.or (p.errors[i]?.getD none) }

/-- One step of the pool. -/
inductive Step (messages : List Message) (workers : Int) : Pool → Pool → Prop
  /-- The next message is handed out to a free worker. -/
  | start {p : Pool} (hnext : p.started < messages.length)
      (hfree : (p.running.length + p.returning.length : Int) < workers) :
      Step messages workers p p.start
  /-- A worker ends its compilation and writes the slot of its message. -/
  | write {p : Pool} {i : Nat} {m : Message} (hrunning : i ∈ p.running)
      (hm : messages[i]? = some m) : Step messages workers p (p.write i m.classes)
  /-- A worker reports and becomes free. -/
  | report {p : Pool} {i : Nat} (hreturning : i ∈ p.returning) :
      Step messages workers p (p.report i)

/-- The states of a pool that some schedule leads to. -/
def Reachable (messages : List Message) (workers : Int) (p : Pool) : Prop :=
  Relation.ReflTransGen (Step messages workers) (initial messages) p

/-- Every message was handed out and every worker has reported. -/
def Finished (messages : List Message) (p : Pool) : Prop :=
  p.started = messages.length ∧ p.running = [] ∧ p.returning = []

/-- Classes are returned if no two have one name. -/
def returnDistinct (defs : List ClassDef) : Returned :=
  match firstRepeated? [] (defs.map (·.name)) with
  | some n => ([], some (.nameCollision n))
  | none => (defs, none)

/-- What is returned once the pool is finished: if any worker failed, the first error among the
slots. -/
def outcome (p : Pool) : Returned :=
  match p.failure, p.errors.findSome? id with
  | some _, some e => ([], some e)
  | _, _ => returnDistinct p.results.flatten

/-! ## What every schedule preserves -/

/-- What the slot of classes holds after a result. -/
def classSlot : Except CompileError (List ClassDef) → List ClassDef
  | .ok defs => defs
  | .error _ => []

/-- What the slot of the error holds after a result. -/
def errorSlot : Except CompileError (List ClassDef) → Option CompileError
  | .ok _ => none
  | .error e => some e

/-- The invariant of a pool: the messages in hand are distinct, were handed out and are no more than
the workers; a slot is empty until its message is compiled and holds the result afterwards; and a
failure is remembered exactly when a worker with a filled error slot has reported. -/
structure Invariant (messages : List Message) (workers : Int) (p : Pool) : Prop where
  started_le : p.started ≤ messages.length
  length_results : p.results.length = messages.length
  length_errors : p.errors.length = messages.length
  nodup : (p.running ++ p.returning).Nodup
  lt_started : ∀ i ∈ p.running ++ p.returning, i < p.started
  busy_le : (p.running.length + p.returning.length : Int) ≤ workers
  unwritten : ∀ i < messages.length, p.started ≤ i ∨ i ∈ p.running →
    p.results[i]? = some [] ∧ p.errors[i]? = some none
  written : ∀ i m, messages[i]? = some m → i < p.started → i ∉ p.running →
    p.results[i]? = some (classSlot m.classes) ∧ p.errors[i]? = some (errorSlot m.classes)
  failure_mem : ∀ e, p.failure = some e → some e ∈ p.errors
  reported : ∀ i < p.started, i ∉ p.running → i ∉ p.returning → ∀ e, p.errors[i]? = some (some e) →
    p.failure.isSome = true

section Write

variable (p : Pool) (i : Nat) (result : Except CompileError (List ClassDef))

@[simp] theorem started_write : (p.write i result).started = p.started := by
  cases result <;> rfl

@[simp] theorem running_write : (p.write i result).running = p.running.erase i := by
  cases result <;> rfl

@[simp] theorem returning_write : (p.write i result).returning = i :: p.returning := by
  cases result <;> rfl

@[simp] theorem failure_write : (p.write i result).failure = p.failure := by
  cases result <;> rfl

@[simp] theorem length_results_write : (p.write i result).results.length = p.results.length := by
  cases result <;> simp [write]

@[simp] theorem length_errors_write : (p.write i result).errors.length = p.errors.length := by
  cases result <;> simp [write]

/-- A worker touches no slot but its own. -/
theorem write_of_ne {j : Nat} (hj : i ≠ j) :
    (p.write i result).results[j]? = p.results[j]? ∧
      (p.write i result).errors[j]? = p.errors[j]? := by
  cases result <;> simp [write, List.getElem?_set_ne hj]

/-- A slot that was empty holds the result. -/
theorem write_self (hresults : p.results[i]? = some []) (herrors : p.errors[i]? = some none) :
    (p.write i result).results[i]? = some (classSlot result) ∧
      (p.write i result).errors[i]? = some (errorSlot result) := by
  have hi : i < p.results.length := (List.getElem?_eq_some_iff.1 hresults).1
  have hi' : i < p.errors.length := (List.getElem?_eq_some_iff.1 herrors).1
  cases result with
  | ok defs => exact ⟨by simp [write, classSlot, hi], herrors⟩
  | error e => exact ⟨hresults, by simp [write, errorSlot, hi']⟩

end Write

namespace Invariant

variable {messages : List Message} {workers : Int} {p : Pool}

theorem initial (hworkers : 0 ≤ workers) : Invariant messages workers (Pool.initial messages) where
  started_le := Nat.zero_le _
  length_results := by simp [Pool.initial]
  length_errors := by simp [Pool.initial]
  nodup := List.nodup_nil
  lt_started := by simp [Pool.initial]
  busy_le := by simpa [Pool.initial] using hworkers
  unwritten := fun i hi _ => by simp [Pool.initial, hi]
  written := fun i m _ hi => absurd hi (Nat.not_lt_zero i)
  failure_mem := by simp [Pool.initial]
  reported := fun i hi => absurd hi (Nat.not_lt_zero i)

theorem start (h : Invariant messages workers p) (hnext : p.started < messages.length)
    (hfree : (p.running.length + p.returning.length : Int) < workers) :
    Invariant messages workers p.start where
  started_le := hnext
  length_results := h.length_results
  length_errors := h.length_errors
  nodup := List.nodup_cons.2 ⟨fun hmem => absurd (h.lt_started _ hmem) (lt_irrefl _), h.nodup⟩
  lt_started := by
    intro i hi
    rcases List.mem_cons.1 hi with rfl | hi
    · exact Nat.lt_succ_self _
    · exact Nat.lt_succ_of_lt (h.lt_started i hi)
  busy_le := by
    simp only [Pool.start, List.length_cons]
    omega
  unwritten := by
    intro i hi hfresh
    refine h.unwritten i hi ?_
    rcases hfresh with hge | hmem
    · exact .inl (Nat.le_of_succ_le hge)
    · rcases List.mem_cons.1 hmem with rfl | hmem
      · exact .inl (le_refl _)
      · exact .inr hmem
  written := by
    intro i m hm hlt hrunning
    obtain ⟨hne, hrunning⟩ := not_or.1 (mt List.mem_cons.2 hrunning)
    exact h.written i m hm (lt_of_le_of_ne (Nat.lt_succ_iff.1 hlt) hne) hrunning
  failure_mem := h.failure_mem
  reported := by
    intro i hlt hrunning
    obtain ⟨hne, hrunning⟩ := not_or.1 (mt List.mem_cons.2 hrunning)
    exact h.reported i (lt_of_le_of_ne (Nat.lt_succ_iff.1 hlt) hne) hrunning

/-- The slot of a message that is being compiled is empty. -/
theorem empty_of_mem_running (h : Invariant messages workers p) {i : Nat} (hi : i ∈ p.running) :
    p.results[i]? = some [] ∧ p.errors[i]? = some none :=
  h.unwritten i ((h.lt_started i (List.mem_append_left _ hi)).trans_le h.started_le) (.inr hi)

theorem write (h : Invariant messages workers p) {i : Nat} {m : Message} (hi : i ∈ p.running)
    (hm : messages[i]? = some m) : Invariant messages workers (p.write i m.classes) := by
  obtain ⟨hresults, herrors⟩ := h.empty_of_mem_running hi
  have hnodup := List.nodup_append.1 h.nodup
  have hreturning : i ∉ p.returning := fun hmem => hnodup.2.2 i hi i hmem rfl
  have hlen : p.running.length = (p.running.erase i).length + 1 := by
    rw [List.length_erase_of_mem hi]
    have := List.length_pos_of_mem hi
    omega
  refine ⟨by simpa using h.started_le, by simpa using h.length_results,
    by simpa using h.length_errors, ?_, ?_, ?_, ?_, ?_, ?_, ?_⟩
  · rw [running_write, returning_write]
    refine List.nodup_append.2 ⟨hnodup.1.erase i, List.nodup_cons.2 ⟨hreturning, hnodup.2.1⟩, ?_⟩
    intro a ha b hb
    rcases List.mem_cons.1 hb with rfl | hb
    · exact ((hnodup.1.mem_erase_iff).1 ha).1
    · exact hnodup.2.2 a (List.mem_of_mem_erase ha) b hb
  · intro j hj
    rw [started_write]
    simp only [running_write, returning_write, List.mem_append, List.mem_cons] at hj
    apply h.lt_started
    rw [List.mem_append]
    rcases hj with hj | rfl | hj
    · exact .inl (List.mem_of_mem_erase hj)
    · exact .inl hi
    · exact .inr hj
  · have := h.busy_le
    simp only [running_write, returning_write, List.length_cons]
    omega
  · intro j hj hfresh
    rw [started_write, running_write] at hfresh
    have hne : i ≠ j := by
      rintro rfl
      rcases hfresh with hge | hmem
      · exact absurd (h.lt_started i (List.mem_append_left _ hi)) (not_lt.2 hge)
      · exact ((hnodup.1.mem_erase_iff).1 hmem).1 rfl
    rw [(write_of_ne p i _ hne).1, (write_of_ne p i _ hne).2]
    exact h.unwritten j hj (hfresh.imp_right List.mem_of_mem_erase)
  · intro j m' hm' hlt hrunning
    rw [started_write] at hlt
    rw [running_write] at hrunning
    by_cases hne : i = j
    · subst hne
      obtain rfl : m = m' := Option.some.inj (hm.symm.trans hm')
      exact write_self p i _ hresults herrors
    · rw [(write_of_ne p i _ hne).1, (write_of_ne p i _ hne).2]
      refine h.written j m' hm' hlt fun hmem => hrunning ?_
      exact (List.mem_erase_of_ne (Ne.symm hne)).2 hmem
  · intro e he
    rw [failure_write] at he
    obtain ⟨j, hj⟩ := List.getElem?_of_mem (h.failure_mem e he)
    have hne : i ≠ j := by
      rintro rfl
      simp [herrors] at hj
    rw [← (write_of_ne p i m.classes hne).2] at hj
    exact List.mem_of_getElem? hj
  · intro j hlt hrunning hreturn e he
    rw [running_write] at hrunning
    rw [returning_write] at hreturn
    obtain ⟨hne, hreturn⟩ := not_or.1 (mt List.mem_cons.2 hreturn)
    rw [(write_of_ne p i _ (Ne.symm hne)).2] at he
    rw [failure_write]
    exact h.reported j (by simpa using hlt)
      (fun hmem => hrunning ((List.mem_erase_of_ne hne).2 hmem)) hreturn e he

theorem report (h : Invariant messages workers p) {i : Nat} (hi : i ∈ p.returning) :
    Invariant messages workers (p.report i) := by
  have hnodup := List.nodup_append.1 h.nodup
  have hsub : ∀ j ∈ p.returning.erase i, j ∈ p.returning := fun j => List.mem_of_mem_erase
  refine ⟨h.started_le, h.length_results, h.length_errors, ?_, ?_, ?_, h.unwritten,
    h.written, ?_, ?_⟩
  · exact List.nodup_append.2 ⟨hnodup.1, hnodup.2.1.erase i, fun a ha b hb =>
      hnodup.2.2 a ha b (hsub b hb)⟩
  · intro j hj
    apply h.lt_started
    rw [List.mem_append] at hj ⊢
    exact hj.imp_right (hsub j)
  · have := h.busy_le
    have := List.length_erase_le (a := i) (l := p.returning)
    simp only [Pool.report]
    omega
  · intro e he
    simp only [Pool.report, Option.or_eq_some_iff] at he
    rcases he with he | ⟨-, he⟩
    · exact h.failure_mem e he
    · cases hslot : p.errors[i]? with
      | none => simp [hslot] at he
      | some slot => exact List.mem_of_getElem? (hslot.trans (by simpa [hslot] using he))
  · intro j hlt hrunning hreturn e he
    by_cases hne : j = i
    · subst hne
      simp [Pool.report, show p.errors[j]? = some (some e) from he]
    · have := h.reported j hlt hrunning
        (fun hmem => hreturn ((List.mem_erase_of_ne hne).2 hmem)) e he
      simp [Pool.report, this]

theorem step {q : Pool} (h : Invariant messages workers p) (hstep : Step messages workers p q) :
    Invariant messages workers q := by
  cases hstep with
  | start hnext hfree => exact h.start hnext hfree
  | write hrunning hm => exact h.write hrunning hm
  | report hreturning => exact h.report hreturning

theorem of_reachable (hworkers : 0 ≤ workers) (h : Reachable messages workers p) :
    Invariant messages workers p := by
  induction h with
  | refl => exact initial hworkers
  | tail _ hstep ih => exact ih.step hstep

/-! ## Complete schedules -/

/-- After a complete schedule every slot holds the result of its message. -/
theorem slots_of_finished (h : Invariant messages workers p) (hfin : p.Finished messages) :
    p.results = messages.map (fun m => classSlot m.classes) ∧
      p.errors = messages.map (fun m => errorSlot m.classes) := by
  obtain ⟨hstarted, hrunning, -⟩ := hfin
  have hslot : ∀ (i : Nat) (m : Message), messages[i]? = some m →
      p.results[i]? = some (classSlot m.classes) ∧ p.errors[i]? = some (errorSlot m.classes) := by
    intro i m hm
    exact h.written i m hm (hstarted ▸ (List.getElem?_eq_some_iff.1 hm).1) (by simp [hrunning])
  constructor
  · apply List.ext_getElem?
    intro i
    rw [List.getElem?_map]
    cases hm : messages[i]? with
    | none => simpa [h.length_results] using hm
    | some m => exact (hslot i m hm).1
  · apply List.ext_getElem?
    intro i
    rw [List.getElem?_map]
    cases hm : messages[i]? with
    | none => simpa [h.length_errors] using hm
    | some m => exact (hslot i m hm).2

/-- After a complete schedule a failure is remembered exactly when some error slot is filled. -/
theorem failure_eq_none_iff (h : Invariant messages workers p) (hfin : p.Finished messages) :
    p.failure = none ↔ p.errors.findSome? id = none := by
  obtain ⟨hstarted, hrunning, hreturning⟩ := hfin
  rw [List.findSome?_eq_none_iff]
  constructor
  · intro hnone slot hslot
    obtain ⟨i, hi⟩ := List.getElem?_of_mem hslot
    cases slot with
    | none => rfl
    | some e =>
      have hlt : i < p.started := by
        rw [hstarted, ← h.length_errors]
        exact (List.getElem?_eq_some_iff.1 hi).1
      have := h.reported i hlt (by simp [hrunning]) (by simp [hreturning]) e hi
      simp [hnone] at this
  · intro hslots
    cases hfail : p.failure with
    | none => rfl
    | some e => exact hslots _ (h.failure_mem e hfail)

end Invariant

/-- The error slots of all messages decide how compiling them ends. -/
theorem mapM_classes_eq (messages : List Message) :
    messages.mapM Message.classes =
      match (messages.map fun m => errorSlot m.classes).findSome? id with
      | some e => .error e
      | none => .ok (messages.map fun m => classSlot m.classes) := by
  induction messages with
  | nil => rfl
  | cons m messages ih =>
    rw [List.mapM_cons, List.map_cons, List.findSome?_cons, List.map_cons]
    cases m.classes with
    | error e => rfl
    | ok defs =>
      rw [ih]
      cases (messages.map fun m => errorSlot m.classes).findSome? id <;> rfl

theorem returned_distinctClasses (defs : List ClassDef) :
    returned (distinctClasses defs) = returnDistinct defs := by
  unfold distinctClasses returnDistinct
  cases firstRepeated? [] (defs.map (·.name)) <;> rfl

/-- What a finished pool returns, said by the error slots alone. -/
theorem outcome_of_finished {messages : List Message} {workers : Int} {p : Pool}
    (h : Invariant messages workers p) (hfin : p.Finished messages) :
    p.outcome =
      returned (((messages.mapM Message.classes).map List.flatten).bind distinctClasses) := by
  obtain ⟨hresults, herrors⟩ := h.slots_of_finished hfin
  have hfail := h.failure_eq_none_iff hfin
  rw [mapM_classes_eq, ← hresults, ← herrors, outcome]
  cases hfirst : p.errors.findSome? id with
  | none =>
    rw [hfail.2 hfirst]
    exact (returned_distinctClasses _).symm
  | some e =>
    cases hfailure : p.failure with
    | none => simp [hfail.1 hfailure] at hfirst
    | some _ => rfl

/-! ## Progress -/

/-- The work that is left: a message that was not handed out has three steps to go, one that is
being compiled two, and one that is to be reported one. -/
def remaining (messages : List Message) (p : Pool) : Nat :=
  3 * (messages.length - p.started) + 2 * p.running.length + p.returning.length

theorem remaining_lt_of_step {messages : List Message} {workers : Int} {p q : Pool}
    (hstep : Step messages workers p q) : remaining messages q < remaining messages p := by
  cases hstep with
  | start hnext hfree =>
    simp only [remaining, start, List.length_cons]
    omega
  | write hrunning hm =>
    have := List.length_pos_of_mem hrunning
    simp only [remaining, started_write, running_write, returning_write, List.length_cons,
      List.length_erase_of_mem hrunning]
    omega
  | report hreturning =>
    have := List.length_pos_of_mem hreturning
    simp only [remaining, report, List.length_erase_of_mem hreturning]
    omega

/-- A pool with a worker is never stuck before it is finished. -/
theorem exists_step {messages : List Message} {workers : Int} (hworkers : 0 < workers) {p : Pool}
    (h : Invariant messages workers p) (hfin : ¬p.Finished messages) :
    ∃ q, Step messages workers p q := by
  cases hreturning : p.returning with
  | cons i _ => exact ⟨_, .report (i := i) (by simp [hreturning])⟩
  | nil =>
    cases hrunning : p.running with
    | cons i _ =>
      have hi : i ∈ p.running := by simp [hrunning]
      have hlt : i < messages.length :=
        (h.lt_started i (List.mem_append_left _ hi)).trans_le h.started_le
      exact ⟨_, .write hi (List.getElem?_eq_getElem hlt)⟩
    | nil =>
      have hne : p.started ≠ messages.length := fun heq => hfin ⟨heq, hrunning, hreturning⟩
      exact ⟨_, .start (lt_of_le_of_ne h.started_le hne) (by simpa [hrunning, hreturning])⟩

/-- Every schedule can be completed. -/
theorem exists_finished {messages : List Message} {workers : Int}
    (hworkers : 0 < workers) {p : Pool} (h : Invariant messages workers p) :
    ∃ q, Relation.ReflTransGen (Step messages workers) p q ∧ q.Finished messages := by
  -- each step leaves less to do, so a pool that is never stuck ends finished
  induction hrem : remaining messages p using Nat.strong_induction_on generalizing p with
  | _ n ih =>
    by_cases hfin : p.Finished messages
    · exact ⟨p, .refl, hfin⟩
    · obtain ⟨q, hstep⟩ := exists_step hworkers h hfin
      obtain ⟨r, hrun, hr⟩ := ih _ (hrem ▸ remaining_lt_of_step hstep) (h.step hstep) rfl
      exact ⟨r, .head hstep hrun, hr⟩

end Pool

/-- **Side by side is in turn**: with two workers or more, every complete schedule of the pool
returns what compiling the messages with any other number `n` of workers returns, in particular one
after the other (`n < 2`); classes never come with an error; and every schedule can be completed. -/
theorem workers_eq_inTurn (messages : List Message) {workers : Int}
    (hworkers : 2 ≤ workers) (n : Int) (canceled : Bool) :
    (compileMessages ⟨workers, canceled⟩ messages).2 = (compileMessages ⟨n, canceled⟩ messages).2 ∧
      ∀ p, Pool.Reachable messages workers p →
        (p.Finished messages →
          p.outcome = returned (compileMessages ⟨n, false⟩ messages).2 ∧
            (p.outcome.2 ≠ none → p.outcome.1 = [])) ∧
        ∃ q, Relation.ReflTransGen (Pool.Step messages workers) p q ∧ q.Finished messages := by
  refine ⟨by rw [compileMessages_snd, compileMessages_snd], fun p hp => ?_⟩
  have hinv := Pool.Invariant.of_reachable (by omega) hp
  refine ⟨fun hfin => ?_, Pool.exists_finished (by omega) hinv⟩
  have hout := Pool.outcome_of_finished hinv hfin
  rw [compileMessages_snd, hout]
  refine ⟨rfl, fun herror => ?_⟩
  cases h : ((messages.mapM Message.classes).map List.flatten).bind distinctClasses with
  | ok defs => exact absurd (by rw [h]; rfl) herror
  | error e => rfl

/-- Two messages, neither of which is an object. -/
def twoFaults : List Message :=
  [⟨"A", "", "", .boolean ""⟩, ⟨"B", "", "", .string "" []⟩]

/-- The pool of two workers in which the second message fails before the first. -/
def lateFirst : Pool :=
  ((((((Pool.initial twoFaults).start).start).write 1 (.error (.inMessage "B"
    (.notAnObject "B" "*schema.String")))).report 1).write 0 (.error (.inMessage "A"
      (.notAnObject "A" "*schema.Boolean")))).report 0

theorem workers_eq_inTurn_lateFirst :
    Pool.Reachable twoFaults 2 lateFirst ∧ lateFirst.Finished twoFaults ∧
      lateFirst.failure = some (.inMessage "B" (.notAnObject "B" "*schema.String")) ∧
      lateFirst.outcome = ([], some (.inMessage "A" (.notAnObject "A" "*schema.Boolean"))) := by
  have hreach : Pool.Reachable twoFaults 2 lateFirst :=
    ((((((Relation.ReflTransGen.refl.tail (.start (by decide) (by decide))).tail
      (.start (by decide) (by decide))).tail
      (.write (i := 1) (m := ⟨"B", "", "", .string "" []⟩) (by decide) rfl)).tail
      (.report (i := 1) (by decide))).tail
      (.write (i := 0) (m := ⟨"A", "", "", .boolean ""⟩) (by decide) rfl)).tail
      (.report (i := 0) (by decide)))
  have hfin : lateFirst.Finished twoFaults := ⟨rfl, rfl, rfl⟩
  refine ⟨hreach, hfin, rfl, ?_⟩
  exact (((workers_eq_inTurn twoFaults (Int.le_refl 2) 1 false).2 lateFirst hreach).1 hfin).1

end PayloadGen
