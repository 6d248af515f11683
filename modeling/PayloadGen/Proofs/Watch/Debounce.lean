import Mathlib.Data.List.DropRight
import Mathlib.Logic.Function.Basic
import PayloadGen.Proofs.Watch.Run

/-!
# A burst of events leads to one rebuild

For every event that matters the loop starts a timer in place of the one that runs, and it rebuilds
when that timer runs out. A timer that is replaced is stopped, but it may have run out by then, and
its value stays in its channel. Here the loop runs together with its timers (`Timed`), one step
after the other and in any order of events, expiries, obstacles and the end (`Step`).

What one step does is put together in `Debounced.step`, and a run keeps it (`debounced_of_run`): the
loop waits for a timer exactly if an event that matters was handled since the last rebuild, the
timer is that of the latest such event, and it is not lost. What comes of a rebuild makes no
difference to the loop (`exists_run_reply`). An edit that is followed by a quiet period is such a
run (`exists_run_afterEdit`).
-/

namespace PayloadGen.Watch

open PayloadGen

/-! ## A loop and its timers -/

/-- What a timer does. -/
inductive Clock where
  /-- It was not started, or it was stopped in time, or its value was taken. -/
  | idle
  | running
  /-- It has run out, and its value is in its channel. -/
  | delivered
  deriving DecidableEq

/-- A loop with its timers, and what has been told. -/
structure Timed where
  loop : Loop
  clock : Nat → Clock
  told : List Note

/-- What can happen to a loop and its timers. -/
inductive Act where
  /-- Others change the disk, and with it what is watched. -/
  | rewatch (registry : Registry)
  /-- A timer runs out and puts its value into its channel. -/
  | elapse (timer : Nat)
  /-- The loop handles an event, with the disk as it is then. -/
  | event (d : Disk) (e : Event)
  /-- The loop takes the value of a timer and rebuilds, with this outcome. -/
  | rebuild (timer : Nat) (outcome : Except String Unit)
  /-- The value of a timer is taken, and the loop does nothing. -/
  | stale (timer : Nat)
  | obstacle (reason : String)
  /-- The end. -/
  | cancel

namespace Act

/-- Does the act start a timer? -/
def starts (w : Watcher) : Act → Bool
  | event d e => w.starts d e
  | _ => false

/-- Is the act a rebuild? -/
def isRebuild : Act → Bool
  | rebuild _ _ => true
  | _ => false

/-- The act with another outcome, if it is a rebuild. -/
def reply (outcomes : Nat → Except String Unit) : Act → Act
  | rebuild timer _ => rebuild timer (outcomes timer)
  | act => act

end Act

/-- What happened since the last rebuild, or since the start. -/
def sinceRebuild (acts : List Act) : List Act :=
  acts.rtakeWhile (!·.isRebuild)

namespace Timed

/-- The loop before its first signal, and no timers. -/
def start (registry : Registry) : Timed := ⟨.start registry, fun _ => .idle, []⟩

/-- The timer is stopped, unless it has run out. -/
def stop (clock : Nat → Clock) (timer : Nat) : Nat → Clock :=
  if clock timer = .running then Function.update clock timer .idle else clock

/-- The timers after a signal to the loop. A timer that is started takes the place of the one that
was started last, and that one is stopped. -/
def clockAfter (s : Timed) (after : Loop) : Signal → Nat → Clock
  | .event _ =>
    if after.timers = s.loop.timers then s.clock
    else Function.update (stop s.clock (s.loop.timers - 1)) s.loop.timers .running
  | .expiry timer => Function.update s.clock timer .idle
  | .obstacle _ => s.clock
  | .cancel => stop s.clock (s.loop.timers - 1)

/-- The loop gets a signal. -/
def signal (w : Watcher) (d : Disk) (s : Timed) (signal : Signal) : Timed where
  loop := (s.loop.step w d signal).1
  clock := s.clockAfter (s.loop.step w d signal).1 signal
  told := s.told ++ (s.loop.step w d signal).2.1

/-- The outcome of a rebuild is told if it failed. -/
def report (s : Timed) : Except String Unit → Timed
  | .ok _ => s
  | .error reason => { s with told := s.told ++ [.failed reason] }

/-- One step. Until it ends, the loop gets events, values of timers that have run out, and other
signals. Whether it rebuilds when it gets a value is up to the loop. -/
inductive Step (w : Watcher) : Timed → Act → Timed → Prop
  | rewatch (s : Timed) (registry : Registry) :
    Step w s (.rewatch registry) { s with loop := { s.loop with registry } }
  | elapse {s : Timed} {timer : Nat} (hclock : s.clock timer = .running) :
    Step w s (.elapse timer) { s with clock := Function.update s.clock timer .delivered }
  | event {s : Timed} (hended : s.loop.ended = false) (d : Disk) (e : Event) :
    Step w s (.event d e) (s.signal w d (.event e))
  | rebuild {s : Timed} {timer : Nat} {d : Disk} (hended : s.loop.ended = false)
    (hclock : s.clock timer = .delivered) (hagain : (s.loop.step w d (.expiry timer)).2.2 = true)
    (outcome : Except String Unit) :
    Step w s (.rebuild timer outcome) ((s.signal w d (.expiry timer)).report outcome)
  | stale {s : Timed} {timer : Nat} {d : Disk} (hended : s.loop.ended = false)
    (hclock : s.clock timer = .delivered) (hagain : (s.loop.step w d (.expiry timer)).2.2 = false) :
    Step w s (.stale timer) (s.signal w d (.expiry timer))
  | obstacle {s : Timed} {d : Disk} (hended : s.loop.ended = false) (reason : String) :
    Step w s (.obstacle reason) (s.signal w d (.obstacle reason))
  | cancel {s : Timed} {d : Disk} (hended : s.loop.ended = false) :
    Step w s .cancel (s.signal w d .cancel)

/-- The acts lead from one state to another, step by step. -/
inductive Run (w : Watcher) (start : Timed) : List Act → Timed → Prop
  | nil : Run w start [] start
  | snoc {acts : List Act} {s s' : Timed} {act : Act} (hrun : Run w start acts s)
    (hstep : Step w s act s') :
    Run w start (acts ++ [act]) s'

end Timed

variable {w : Watcher} {d : Disk} {e : Event} {acts between : List Act} {act : Act} {timer : Nat}
  {s s' : Timed}

/-! ## Timers -/

/-- The loop rebuilds when the timer that it waits for has run out, and then it waits for none.
Other timers do nothing. -/
theorem step_expiry (w : Watcher) (d : Disk) (l : Loop) (timer : Nat) :
    ((l.step w d (.expiry timer)).2.2 = true ↔ l.armed = some timer) ∧
      (l.step w d (.expiry timer)).1 =
        { l with armed := if l.armed = some timer then none else l.armed } := by
  simp only [Loop.step]
  split <;> simp_all

@[simp] theorem Timed.report_loop (s : Timed) (outcome : Except String Unit) :
    (s.report outcome).loop = s.loop := by
  cases outcome <;> rfl

@[simp] theorem Timed.report_clock (s : Timed) (outcome : Except String Unit) :
    (s.report outcome).clock = s.clock := by
  cases outcome <;> rfl

theorem loop_rebuild (harmed : s.loop.armed = some timer) (outcome : Except String Unit) :
    ((s.signal w d (.expiry timer)).report outcome).loop = { s.loop with armed := none } := by
  rw [Timed.report_loop, Timed.signal, (step_expiry w d s.loop timer).2, if_pos harmed]

theorem stop_apply (clock : Nat → Clock) (timer t : Nat) :
    Timed.stop clock timer t = clock t ∨ Timed.stop clock timer t = .idle := by
  unfold Timed.stop
  split
  · by_cases ht : t = timer
    · exact .inr (ht ▸ Function.update_self ..)
    · exact .inl (Function.update_of_ne ht ..)
  · exact .inl rfl

theorem stop_of_idle {clock : Nat → Clock} {t : Nat} (h : clock t = .idle) (timer : Nat) :
    Timed.stop clock timer t = .idle := by
  rcases stop_apply clock timer t with hstop | hstop
  · exact hstop.trans h
  · exact hstop

/-! ## What a run keeps -/

/-- The timer was started for the latest event that matters, and since then the loop did not
rebuild. These acts came after the event. Timers are numbered in the order in which they start. -/
def Latest (w : Watcher) (acts : List Act) (timer : Nat) (between : List Act) : Prop :=
  ∃ earlier d e, acts = earlier ++ .event d e :: between ∧ w.starts d e = true ∧
    timer = earlier.countP (·.starts w) ∧ ∀ act ∈ between, act.starts w = false ∧
    act.isRebuild = false

theorem Latest.snoc (h : Latest w acts timer between) (hstarts : act.starts w = false)
    (hrebuild : act.isRebuild = false) : Latest w (acts ++ [act]) timer (between ++ [act]) := by
  obtain ⟨earlier, d, e, rfl, hstart, htimer, hbetween⟩ := h
  refine ⟨earlier, d, e, by simp, hstart, htimer, ?_⟩
  simpa [or_imp, forall_and, hstarts, hrebuild] using hbetween

theorem sinceRebuild_append {after : List Act} (h : ∀ act ∈ after, act.isRebuild = false) :
    sinceRebuild (acts ++ after) = sinceRebuild acts ++ after := by
  induction after using List.reverseRecOn with
  | nil => simp
  | append_singleton after act ih =>
    obtain ⟨hafter, hact⟩ := List.forall_mem_append.1 h
    rw [← List.append_assoc, sinceRebuild,
      List.rtakeWhile_concat_pos _ _ _ (by simpa using hact), ← sinceRebuild, ih hafter,
      List.append_assoc]

theorem Latest.exists_mem_sinceRebuild (h : Latest w acts timer between) :
    ∃ act ∈ sinceRebuild acts, act.starts w = true := by
  obtain ⟨earlier, d, e, rfl, hstart, -, hbetween⟩ := h
  refine ⟨.event d e, ?_, hstart⟩
  rw [sinceRebuild_append (List.forall_mem_cons.2 ⟨rfl, fun act hact => (hbetween act hact).2⟩)]
  exact List.mem_append_right _ List.mem_cons_self

/-- How the loop and its timers stand after some acts. The loop waits for the timer of the latest
event that matters, if there was one since the last rebuild. The timer that it waits for runs or has
run out since it was started. -/
structure Debounced (w : Watcher) (acts : List Act) (s : Timed) : Prop where
  timers : s.loop.timers = acts.countP (·.starts w)
  fresh : ∀ timer, s.loop.timers ≤ timer → s.clock timer = .idle
  unarmed : s.loop.armed = none → ∀ act ∈ sinceRebuild acts, act.starts w = false
  armed : ∀ timer, s.loop.armed = some timer → ∃ between, Latest w acts timer between ∧
    (s.clock timer = .delivered → .elapse timer ∈ between) ∧
    (s.loop.ended = false → s.clock timer ≠ .idle)

/-- Nothing changes by an act that neither starts a timer nor rebuilds, and that does not take away
the value of the timer for which the loop waits. -/
theorem Debounced.quiet (h : Debounced w acts s) (hstarts : act.starts w = false)
    (hrebuild : act.isRebuild = false) (htimers : s'.loop.timers = s.loop.timers)
    (harmed : s'.loop.armed = s.loop.armed)
    (hidle : ∀ timer, s.clock timer = .idle → s'.clock timer = .idle)
    (hdelivered : ∀ timer, s'.clock timer = .delivered → s.clock timer = .delivered ∨
      act = .elapse timer)
    (hkept : s'.loop.ended = false → s.loop.ended = false ∧
      ∀ timer, s.loop.armed = some timer → s'.clock timer = .idle → s.clock timer = .idle) :
    Debounced w (acts ++ [act]) s' where
  timers := by
    rw [htimers, h.timers, List.countP_append]
    simp [hstarts]
  fresh timer htimer := hidle timer (h.fresh timer (htimers ▸ htimer))
  unarmed hnone := by
    rw [sinceRebuild_append (by simpa using hrebuild)]
    exact List.forall_mem_append.2 ⟨h.unarmed (harmed ▸ hnone), by simpa using hstarts⟩
  armed timer htimer := by
    obtain ⟨between, hlatest, helapsed, halive⟩ := h.armed timer (harmed ▸ htimer)
    refine ⟨between ++ [act], hlatest.snoc hstarts hrebuild, fun hclock => ?_,
      fun hended hclock => ?_⟩
    · rcases hdelivered timer hclock with hclock | rfl
      · exact List.mem_append_left _ (helapsed hclock)
      · exact List.mem_append_right _ List.mem_cons_self
    · obtain ⟨hended, hidle⟩ := hkept hended
      exact halive hended (hidle timer (harmed ▸ htimer) hclock)

/-- An event that matters starts a timer, and the loop waits for it. -/
theorem Debounced.event (h : Debounced w acts s) (hstarts : w.starts d e = true) :
    Debounced w (acts ++ [.event d e]) (s.signal w d (.event e)) := by
  have hloop : (s.signal w d (.event e)).loop =
      { s.loop with timers := s.loop.timers + 1, armed := some s.loop.timers } :=
    heed_of_starts hstarts
  have hne : (s.signal w d (.event e)).loop.timers ≠ s.loop.timers := by
    rw [hloop]
    exact Nat.succ_ne_self _
  have hclock : (s.signal w d (.event e)).clock =
      Function.update (Timed.stop s.clock (s.loop.timers - 1)) s.loop.timers .running := if_neg hne
  constructor
  case timers =>
    rw [hloop, List.countP_append, ← h.timers]
    simp [Act.starts, hstarts]
  case fresh =>
    intro timer htimer
    rw [hloop] at htimer
    rw [hclock, Function.update_of_ne (Nat.ne_of_gt htimer)]
    exact stop_of_idle (h.fresh timer (Nat.le_of_succ_le htimer)) _
  case unarmed =>
    intro hnone
    rw [hloop] at hnone
    cases hnone
  case armed =>
    intro timer htimer
    rw [hloop] at htimer
    cases htimer
    refine ⟨[], ⟨acts, d, e, rfl, hstarts, h.timers, by simp⟩, ?_⟩
    rw [hclock, Function.update_self]
    exact ⟨by simp, by simp⟩

/-- After a rebuild the loop waits for no timer. -/
theorem Debounced.rebuild (h : Debounced w acts s) (harmed : s.loop.armed = some timer)
    (outcome : Except String Unit) :
    Debounced w (acts ++ [.rebuild timer outcome])
      ((s.signal w d (.expiry timer)).report outcome) := by
  have hloop := loop_rebuild (w := w) (d := d) harmed outcome
  constructor
  case timers =>
    rw [hloop, List.countP_append, ← h.timers]
    simp [Act.starts]
  case fresh =>
    intro t ht
    rw [hloop] at ht
    rw [Timed.report_clock]
    by_cases heq : t = timer
    · rw [heq]
      exact Function.update_self ..
    · exact (Function.update_of_ne heq ..).trans (h.fresh t ht)
  case unarmed =>
    intro _ act hact
    rw [sinceRebuild, List.rtakeWhile_concat_neg _ _ _ (by simp [Act.isRebuild])] at hact
    cases hact
  case armed =>
    intro t ht
    rw [hloop] at ht
    cases ht

/-- What one step does. -/
theorem Debounced.step (h : Debounced w acts s) (hstep : Timed.Step w s act s') :
    Debounced w (acts ++ [act]) s' := by
  cases hstep with
  | rewatch registry =>
    exact h.quiet rfl rfl rfl rfl (fun _ => id) (fun _ => .inl) fun hended =>
      ⟨hended, fun _ _ => id⟩
  | @elapse timer hclock =>
    -- Only a timer that runs can run out, so no idle one changes.
    refine h.quiet rfl rfl rfl rfl (fun t ht => ?_) (fun t ht => ?_) fun hended =>
      ⟨hended, fun t _ ht => ?_⟩
    · have hne : t ≠ timer := fun heq => by simp [heq, hclock] at ht
      exact (Function.update_of_ne hne ..).trans ht
    · by_cases heq : t = timer
      · exact .inr (heq ▸ rfl)
      · exact .inl ((Function.update_of_ne heq ..).symm.trans ht)
    · have hne : t ≠ timer := fun heq => by simp [heq] at ht
      exact (Function.update_of_ne hne ..).symm.trans ht
  | event hended d e =>
    cases hstarts : w.starts d e with
    | true => exact h.event hstarts
    | false =>
      obtain ⟨registry, hloop⟩ : ∃ registry, (s.signal w d (.event e)).loop =
        { s.loop with registry } :=
        heed_of_not_starts hstarts
      have hclock : (s.signal w d (.event e)).clock = s.clock := if_pos (congrArg Loop.timers hloop)
      refine h.quiet hstarts rfl (by rw [hloop]) (by rw [hloop]) (fun t ht => ?_) (fun t ht => ?_)
        fun hended => ?_
      · rwa [hclock]
      · rw [hclock] at ht
        exact .inl ht
      · rw [hloop] at hended
        exact ⟨hended, fun t _ ht => hclock ▸ ht⟩
  | @rebuild timer d hended hclock hagain outcome =>
    exact h.rebuild ((step_expiry w d s.loop timer).1.1 hagain) outcome
  | @stale timer d hended hclock hagain =>
    -- The value that is taken is not that of the timer the loop waits for, so that one is not lost.
    have hne : s.loop.armed ≠ some timer := fun harmed => by
      rw [(step_expiry w d s.loop timer).1.2 harmed] at hagain
      cases hagain
    have hloop : (s.signal w d (.expiry timer)).loop = s.loop := by
      rw [Timed.signal, (step_expiry w d s.loop timer).2, if_neg hne]
    refine h.quiet rfl rfl (congrArg Loop.timers hloop) (congrArg Loop.armed hloop) (fun t ht => ?_)
      (fun t ht => ?_)
      fun hended => ⟨(congrArg Loop.ended hloop).symm.trans hended, fun t harmed ht => ?_⟩
    · by_cases heq : t = timer
      · exact heq ▸ Function.update_self ..
      · exact (Function.update_of_ne heq ..).trans ht
    · have hneq : t ≠ timer := fun heq => by simp [heq, Timed.signal, Timed.clockAfter] at ht
      exact .inl ((Function.update_of_ne hneq ..).symm.trans ht)
    · have hneq : t ≠ timer := fun heq => hne (heq ▸ harmed)
      exact (Function.update_of_ne hneq ..).symm.trans ht
  | obstacle hended reason =>
    exact h.quiet rfl rfl rfl rfl (fun _ => id) (fun _ => .inl) fun hended =>
      ⟨hended, fun _ _ => id⟩
  | @cancel d hended =>
    -- The timer is stopped, and nothing more is asked of it.
    refine h.quiet rfl rfl rfl rfl (fun t ht => stop_of_idle ht _) (fun t ht => ?_) fun hended => by
      cases hended
    rcases stop_apply s.clock (s.loop.timers - 1) t with hstop | hstop
    · exact .inl (hstop.symm.trans ht)
    · cases hstop.symm.trans ht

/-- What a whole run does. -/
theorem debounced_of_run {registry : Registry} (h : Timed.Run w (.start registry) acts s) :
    Debounced w acts s := by
  induction h with
  | nil =>
    constructor
    case timers => rfl
    case fresh => exact fun _ _ => rfl
    case unarmed => exact fun _ act hact => absurd hact (by simp [sinceRebuild])
    case armed => exact fun timer htimer => by cases htimer
  | snoc _ hstep ih => exact ih.step hstep

/-! ## The outcomes of rebuilds -/

/-- A step leads to the same loop and the same timers with another outcome, and whatever was told
before. -/
theorem Timed.Step.reply (h : Timed.Step w s act s') (outcomes : Nat → Except String Unit)
    (told : List Note) :
    ∃ t, Timed.Step w { s with told } (act.reply outcomes) t ∧ t.loop = s'.loop ∧
      t.clock = s'.clock := by
  cases h with
  | rewatch registry => exact ⟨_, .rewatch _ registry, rfl, rfl⟩
  | elapse hclock => exact ⟨_, .elapse hclock, rfl, rfl⟩
  | event hended d e => exact ⟨_, @Step.event w { s with told } hended d e, rfl, rfl⟩
  | rebuild hended hclock hagain outcome =>
    refine ⟨_, @Step.rebuild w { s with told } _ _ hended hclock hagain (outcomes _), ?_, ?_⟩
    · rw [report_loop, report_loop]
      rfl
    · rw [report_clock, report_clock]
      rfl
  | stale hended hclock hagain =>
    exact ⟨_, @Step.stale w { s with told } _ _ hended hclock hagain, rfl, rfl⟩
  | obstacle hended reason => exact ⟨_, @Step.obstacle w { s with told } _ hended reason, rfl, rfl⟩
  | cancel hended => exact ⟨_, @Step.cancel w { s with told } _ hended, rfl, rfl⟩

/-- What comes of the rebuilds makes no difference to the loop and its timers. -/
theorem exists_run_reply {start : Timed} (h : Timed.Run w start acts s)
    (outcomes : Nat → Except String Unit) :
    ∃ t, Timed.Run w start (acts.map (·.reply outcomes)) t ∧ t.loop = s.loop ∧
      t.clock = s.clock := by
  induction h with
  | nil => exact ⟨start, .nil, rfl, rfl⟩
  | @snoc acts s s' act _ hstep ih =>
    obtain ⟨t, hrun, hloop, hclock⟩ := ih
    have ht : t = { s with told := t.told } := by rw [← hloop, ← hclock]
    obtain ⟨t', hreply, hsame⟩ := hstep.reply outcomes t.told
    rw [← ht] at hreply
    rw [List.map_append]
    exact ⟨t', hrun.snoc hreply, hsame⟩

/-! ## Rebuilds -/

/-- The loop rebuilds when the timer that it waits for has run out, and then it waits for none. -/
theorem Timed.Step.rebuild_cases {outcome : Except String Unit}
    (h : Timed.Step w s (.rebuild timer outcome) s') :
    s.loop.armed = some timer ∧ s.clock timer = .delivered ∧
      s'.loop = { s.loop with armed := none } := by
  cases h with
  | @rebuild _ d hended hclock hagain =>
    have harmed := (step_expiry w d s.loop timer).1.1 hagain
    exact ⟨harmed, hclock, loop_rebuild harmed outcome⟩

theorem exists_step_rebuild (hended : s.loop.ended = false) (harmed : s.loop.armed = some timer)
    (hclock : s.clock timer = .delivered) (outcome : Except String Unit) :
    ∃ s', Timed.Step w s (.rebuild timer outcome) s' ∧ s'.loop = { s.loop with armed := none } := by
  have hstep :=
    Timed.Step.rebuild hended hclock ((step_expiry w (.blank []) s.loop timer).1.2 harmed) outcome
  exact ⟨_, hstep, hstep.rebuild_cases.2.2⟩

/-- The timer that the loop waits for leads to a rebuild, at once if it has run out and else when it
does. -/
theorem Debounced.exists_run_rebuild (h : Debounced w acts s) (hended : s.loop.ended = false)
    (harmed : s.loop.armed = some timer) (outcome : Except String Unit) :
    ∃ waited s', (waited = [] ∨ waited = [.elapse timer]) ∧
      Timed.Run w s (waited ++ [.rebuild timer outcome]) s' ∧
      s'.loop = { s.loop with armed := none } := by
  obtain ⟨-, -, -, halive⟩ := h.armed timer harmed
  cases hclock : s.clock timer with
  | idle => exact absurd hclock (halive hended)
  | running =>
    have helapse := Timed.Step.elapse (w := w) hclock
    obtain ⟨s', hrebuild, hloop⟩ := @exists_step_rebuild w _
      { s with clock := Function.update s.clock timer .delivered } hended harmed
        (Function.update_self ..) outcome
    exact ⟨[.elapse timer], s', .inr rfl, (Timed.Run.nil.snoc helapse).snoc hrebuild, hloop⟩
  | delivered =>
    obtain ⟨s', hrebuild, hloop⟩ := exists_step_rebuild hended harmed hclock outcome
    exact ⟨[], s', .inl rfl, Timed.Run.nil.snoc hrebuild, hloop⟩

/-! ## Edits -/

theorem Timed.Run.append {start : Timed} {after : List Act} (h : Timed.Run w start acts s)
    (hafter : Timed.Run w s after s') : Timed.Run w start (acts ++ after) s' := by
  induction hafter with
  | nil => rwa [List.append_nil]
  | snoc _ hstep ih =>
    rw [← List.append_assoc]
    exact ih.snoc hstep

theorem ended_heed (w : Watcher) (d : Disk) (l : Loop) (e : Event) :
    (l.heed w d e).1.ended = l.ended := by
  cases hstarts : w.starts d e with
  | true => rw [heed_of_starts hstarts]
  | false =>
    obtain ⟨registry, hloop⟩ := heed_of_not_starts (l := l) hstarts
    rw [hloop]

theorem exists_run_heedAll (hended : s.loop.ended = false) (d : Disk) (events : List Event) :
    ∃ s', Timed.Run w s (events.map (.event d)) s' ∧ s'.loop = (s.loop.heedAll w d events).1 ∧
      s'.loop.ended = false := by
  rw [heedAll_fst]
  induction events generalizing s with
  | nil => exact ⟨s, .nil, rfl, hended⟩
  | cons e events ih =>
    obtain ⟨s', hrun, hloop⟩ :=
      ih (s := s.signal w d (.event e)) ((ended_heed w d s.loop e).trans hended)
    exact ⟨s', (Timed.Run.nil.snoc (.event hended d e)).append hrun, hloop⟩

/-- An edit and the quiet period that follows it are a run. There is a rebuild in it exactly if one
is asked for. -/
theorem exists_run_afterEdit {registry : Registry} (h : Timed.Run w (.start registry) acts s)
    (hended : s.loop.ended = false) (d : Disk) (edit : Edit) (outcome : Except String Unit) :
    ∃ more s', Timed.Run w (.start registry) (acts ++ more) s' ∧
      s'.loop = (s.loop.afterEdit w d edit).2.1 ∧
      ((s.loop.afterEdit w d edit).2.2.2 = true ↔ ∃ act ∈ more, act.isRebuild = true) := by
  obtain ⟨s₁, hevents, hloop, hended⟩ := exists_run_heedAll hended (w := w)
    (s := { s with loop := { s.loop with registry := (edit.apply d s.loop.registry).2.1 } })
    (edit.apply d s.loop.registry).1 (edit.apply d s.loop.registry).2.2
  have hrun := (h.snoc (.rewatch s _)).append hevents
  rw [List.append_assoc] at hrun
  simp only [Loop.afterEdit]
  rw [← hloop]
  cases harmed : s₁.loop.armed with
  | none => exact ⟨_, s₁, hrun, rfl, by simp [Act.isRebuild]⟩
  | some timer =>
    obtain ⟨waited, s', -, hrebuild, hloop'⟩ :=
      (debounced_of_run hrun).exists_run_rebuild hended harmed outcome
    have hall := hrun.append hrebuild
    rw [List.append_assoc] at hall
    obtain ⟨hagain, hstep⟩ := step_expiry w (edit.apply d s.loop.registry).1 s₁.loop timer
    refine ⟨_, s', hall, ?_, ?_⟩
    · rw [hstep, if_pos harmed, hloop']
    · exact iff_of_true (hagain.2 harmed) ⟨.rebuild timer outcome, by simp, rfl⟩

/-- **A burst of events leads to one rebuild, and none is lost.** The loop waits for a timer exactly
if an event that matters was handled since the last rebuild. A rebuild can only come from the timer
of the latest such event, after that has run out, and until the end it can always come from it. A
run with other outcomes of the rebuilds leads to the same loop and timers. -/
theorem rebuilds_debounced {registry : Registry} (h : Timed.Run w (.start registry) acts s) :
    (s.loop.armed.isSome = true ↔ ∃ act ∈ sinceRebuild acts, act.starts w = true) ∧
      (∀ timer outcome s', Timed.Step w s (.rebuild timer outcome) s' →
        ∃ between, Latest w acts timer between ∧ .elapse timer ∈ between) ∧
      (∀ timer outcome, s.loop.ended = false → s.loop.armed = some timer →
        ∃ waited s', (waited = [] ∨ waited = [.elapse timer]) ∧
          Timed.Run w s (waited ++ [.rebuild timer outcome]) s' ∧
          s'.loop = { s.loop with armed := none }) ∧
      ∀ outcomes, ∃ t, Timed.Run w (.start registry) (acts.map (·.reply outcomes)) t ∧
        t.loop = s.loop ∧ t.clock = s.clock := by
  have hinv := debounced_of_run h
  refine ⟨⟨fun hsome => ?_, fun ⟨act, hact, hstarts⟩ => ?_⟩, fun timer outcome s' hstep => ?_, ?_,
    exists_run_reply h⟩
  · obtain ⟨timer, harmed⟩ := Option.isSome_iff_exists.1 hsome
    obtain ⟨between, hlatest, -⟩ := hinv.armed timer harmed
    exact hlatest.exists_mem_sinceRebuild
  · rw [Option.isSome_iff_ne_none]
    intro hnone
    rw [hinv.unarmed hnone act hact] at hstarts
    cases hstarts
  · obtain ⟨harmed, hclock, -⟩ := hstep.rebuild_cases
    obtain ⟨between, hlatest, helapsed, -⟩ := hinv.armed timer harmed
    exact ⟨between, hlatest, helapsed hclock⟩
  · exact fun timer outcome hended harmed => hinv.exists_run_rebuild hended harmed outcome

/-! ## An example -/

/-- A watcher of one folder. -/
def lampWatcher : Watcher := ⟨["api"], []⟩

/-- The folder, with a document and a folder that is named like one. -/
def lampDisk : Disk :=
  .ofListing
    [(["p"], .folder), (["p", "api"], .folder), (["p", "api", "lamp.yaml"], .file []),
      (["p", "api", "sheet.yaml"], .folder)]
    ["p"] rfl

/-- The document is written. -/
def lampWritten : Act := .event lampDisk ⟨"api/lamp.yaml", .write⟩

/-- The timer of the first write has run out when the second one is handled. The rebuild fails, and
the document is written again. -/
def lampActs : List Act :=
  [lampWritten, .elapse 0, lampWritten, .elapse 1, .rebuild 1 (.error "rebuild error"), lampWritten]

/-- The value of the first timer is left in its channel, and the next rebuild comes from the third.
Had the rebuild gone well, all would be the same. -/
theorem rebuilds_debounced_lampActs :
    ∃ s, Timed.Run lampWatcher (.start .empty) lampActs s ∧ s.clock 0 = .delivered ∧
      s.loop.armed = some 2 ∧
      (∃ act ∈ sinceRebuild lampActs, act.starts lampWatcher = true) ∧
      (∀ timer outcome s', Timed.Step lampWatcher s (.rebuild timer outcome) s' →
        ∃ between, Latest lampWatcher lampActs timer between ∧ .elapse timer ∈ between) ∧
      (∃ waited s', (waited = [] ∨ waited = [.elapse 2]) ∧
        Timed.Run lampWatcher s (waited ++ [.rebuild 2 (.ok ())]) s' ∧
        s'.loop = { s.loop with armed := none }) ∧
      ∃ t, Timed.Run lampWatcher (.start .empty)
          [lampWritten, .elapse 0, lampWritten, .elapse 1, .rebuild 1 (.ok ()), lampWritten] t ∧
        t.loop = s.loop ∧ t.clock = s.clock := by
  have hfirst :=
    (@Timed.Run.nil lampWatcher (.start .empty)).snoc
      (.event rfl lampDisk ⟨"api/lamp.yaml", .write⟩)
  have hlate := hfirst.snoc (@Timed.Step.elapse _ _ 0 (by decide +kernel))
  have hsecond := hlate.snoc (.event (by decide +kernel) lampDisk ⟨"api/lamp.yaml", .write⟩)
  have hquiet := hsecond.snoc (@Timed.Step.elapse _ _ 1 (by decide +kernel))
  have hfailed :=
    hquiet.snoc (@Timed.Step.rebuild _ _ 1 lampDisk (by decide +kernel) (by decide +kernel)
      (by decide +kernel) (.error "rebuild error"))
  have hthird := hfailed.snoc (.event (by decide +kernel) lampDisk ⟨"api/lamp.yaml", .write⟩)
  obtain ⟨harmed, hcause, hnext, hreply⟩ := rebuilds_debounced hthird
  refine ⟨_, hthird, by decide +kernel, by decide +kernel, harmed.1 (by decide +kernel),
    hcause, ?_, ?_⟩
  · exact hnext 2 (.ok ()) (by decide +kernel) (by decide +kernel)
  · exact hreply fun _ => .ok ()

/-- A folder is made whose name is that of a document. The event is heeded, and the loop registers
the folder and waits for no timer. -/
theorem folder_starts_no_timer :
    ∃ s, Timed.Run lampWatcher (.start .empty) [.event lampDisk ⟨"api/sheet.yaml", .create⟩] s ∧
      lampWatcher.heeds lampDisk ⟨"api/sheet.yaml", .create⟩ = true ∧ s.loop.ended = false ∧
      s.loop.armed = none := by
  refine ⟨_, Timed.Run.nil.snoc (.event rfl _ _), by decide +kernel, by decide +kernel,
    by decide +kernel⟩

end PayloadGen.Watch
