import PayloadGen.Watch.Edit

/-!
# The loop of a watcher

A watcher waits for signals: events of files, the expiry of a timer, and the end. An event that
matters starts a timer in place of the one that runs, and the expiry of the timer that runs asks for
a rebuild, so that a burst of events leads to one rebuild after a quiet period. A new folder is
registered with all that is in it.
-/

namespace PayloadGen.Watch

open PayloadGen

/-- What a watcher is told to do. -/
structure Watcher where
  /-- The trees that are watched. -/
  folders : List String
  /-- Paths from the root that never matter. -/
  ignored : List String

/-- What a watcher waits for. -/
inductive Signal where
  | event (e : Event)
  /-- A timer has run out. Timers are numbered in the order in which they start. -/
  | expiry (timer : Nat)
  /-- Watching meets an obstacle. -/
  | obstacle (reason : String)
  /-- The end. -/
  | cancel

/-- The state of the loop. -/
structure Loop where
  registry : Registry
  /-- How many timers were started. -/
  timers : Nat
  /-- The timer that leads to the next rebuild. -/
  armed : Option Nat
  /-- Has the loop ended? -/
  ended : Bool

/-- The loop before its first signal. -/
def Loop.start (registry : Registry) : Loop := ⟨registry, 0, none, false⟩

/-- Does an event ask for a rebuild? -/
def Watcher.heeds (w : Watcher) (d : Disk) (e : Event) : Bool :=
  let path := d.absolutePath e.path
  e.what.counts && !w.ignored.contains path && isRelevant path

/-- The folder that an event brings, if it brings one. -/
def Event.newFolder? (d : Disk) (e : Event) : Option String :=
  match e.what, d.find e.path with
  | .create, .ok .folder => some e.path
  | _, _ => none

/-- The loop after a new folder was registered. -/
def Loop.enter (l : Loop) (d : Disk) (folder : String) : Loop × List Note :=
  if passedOver.contains (Path.base folder) then (l, [])
  else
    match l.registry.addTree d folder with
    | .ok (registry, notes) => ({ l with registry }, notes)
    | .error e => (l, [.trouble e.message])

/-- The loop after an event. -/
def Loop.heed (w : Watcher) (d : Disk) (l : Loop) (e : Event) : Loop × List Note :=
  match e.newFolder? d with
  | some folder => l.enter d folder
  | none =>
    if w.heeds d e then ({ l with timers := l.timers + 1, armed := some l.timers }, [.change e])
    else (l, [])

/-- The loop after a signal, what is told, and whether a rebuild is asked for. Only the timer that
was started last has a say. -/
def Loop.step (w : Watcher) (d : Disk) (l : Loop) : Signal → Loop × List Note × Bool
  | .event e =>
    let (l, notes) := l.heed w d e
    (l, notes, false)
  | .expiry timer =>
    if l.armed = some timer then ({ l with armed := none }, [], true) else (l, [], false)
  | .obstacle reason => (l, [.trouble reason], false)
  | .cancel => ({ l with ended := true }, [], false)

/-- The loop after several events. -/
def Loop.heedAll (w : Watcher) (d : Disk) (l : Loop) (events : List Event) : Loop × List Note :=
  events.foldl (fun (l, notes) e =>
    let (l, more) := l.heed w d e
    (l, notes ++ more)) (l, [])

/-- The loop after an edit and the quiet period that follows it. -/
def Loop.afterEdit (w : Watcher) (d : Disk) (l : Loop) (edit : Edit) :
    Disk × Loop × List Note × Bool :=
  let (d, registry, events) := edit.apply d l.registry
  let (l, notes) := { l with registry }.heedAll w d events
  match l.armed with
  | none => (d, l, notes, false)
  | some timer =>
    let (l, more, rebuild) := l.step w d (.expiry timer)
    (d, l, notes ++ more, rebuild)

end PayloadGen.Watch
