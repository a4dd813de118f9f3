import PnpBus.Script.Command

/-!
# Running scripts

A step is a command with further steps to run while it waits. Each turn of a
wait does one thing: the next of those steps if one is left, else the oldest
job, else nothing is left to wait for. A step that stops for good stops every
step around it, and no later step runs.
-/

namespace PnpBus

inductive Step where
  | mk (command : Command) (onYield : List Step)

/-- What a step answered and what happened in it, the steps inside it left out. -/
structure Report where
  result : Except Halt Reply
  nested : List Report
  /-- Steps for a wait that found no turn. -/
  unused : Nat
  notices : List Notice
  diverted : List Shown
  runs : List UInt32
  /-- The devices, if they look different from when they were last shown. -/
  states : Option (List String)

structure Session where
  world : World := {}
  /-- The devices as they were last shown. -/
  lastShown : List String := []

/-- A step that is ready to run. -/
abbrev Runner := Session → Session × Report

/-- A step under way: the runners it has left for its waits and the reports of those that ran. -/
structure Frame where
  session : Session
  waiting : List Runner
  nested : List Report := []

namespace Frame

def world (f : Frame) : World := f.session.world

def setWorld (f : Frame) (w : World) : Frame := { f with session := { f.session with world := w } }

end Frame

/-! ## Waiting -/

/-- Runs jobs, oldest first, until the signal is up. Jobs bring no new jobs. -/
def runJobs (on : Signal) : List Job → World → World × Option Halt
  | [], w => (w, some .deadlock)
  | j :: js, w =>
    match j.run { w with jobs := js } with
    | (some why, w) => (w, some why)
    | (none, w) => if w.isSet on then (w, none) else runJobs on js w

/-- Takes turns until the signal is up, or tells why it never will be. -/
def waitFor (on : Signal) : List Runner → Frame → Frame × Option Halt
  | [], f =>
    let (w, stopped) := runJobs on f.world.jobs f.world
    ({ f.setWorld w with waiting := [] }, stopped)
  | r :: rs, f =>
    let (session, report) := r f.session
    let f := { session, waiting := rs, nested := f.nested ++ [report] }
    match report.result with
    | .error why => (f, some why)
    | .ok _ => if session.world.isSet on then (f, none) else waitFor on rs f

def drive {α : Type} : Run α → Frame → Frame × Except Halt α
  | .done w a, f => (f.setWorld w, .ok a)
  | .halt w why, f => (f.setWorld w, .error why)
  | .via _ rest, f => drive rest f
  | .wait w on resume, f =>
    match waitFor on f.waiting (f.setWorld w) with
    | (f, none) => drive (resume f.world) f
    | (f, some why) => (f, .error why)

/-! ## Steps -/

/-- What is still in hand after a step: what was before, or nothing if every call has stopped for good. -/
def handAfter (outer : World) : Except Halt Reply → List DeviceId
  | .ok _ => outer.inHand
  | .error _ => []

/-- Runs a command with a journal of its own and its operands in hand. -/
def conduct (c : Command) (onYield : List Runner) : Runner := fun s =>
  let outer := s.world
  let start := { outer with journal := {}, inHand := c.operands ++ outer.inHand }
  let (f, result) := drive (perform c start) { session := { s with world := start }, waiting := onYield }
  let w := { f.world with journal := outer.journal, inHand := handAfter outer result }
  let states := w.snapshot
  let report := {
    result
    nested := f.nested
    unused := f.waiting.length
    notices := f.world.journal.notices
    diverted := f.world.journal.diverted.map w.shown
    runs := f.world.journal.runs
    states := if states = f.session.lastShown then none else some states }
  ({ world := w, lastShown := states }, report)

mutual

def Step.runner : Step → Runner
  | .mk c onYield => conduct c (runners onYield)

def runners : List Step → List Runner
  | [] => []
  | s :: ss => s.runner :: runners ss

end

/-! ## Scripts -/

def runAll : List Runner → Session → List Report
  | [], _ => []
  | r :: rs, s =>
    let (s, report) := r s
    match report.result with
    | .error _ => [report]
    | .ok _ => report :: runAll rs s

def runScript (steps : List Step) : List Report := runAll (runners steps) {}

/-- The notices that are grave enough for `limit`, as lines. -/
def logLines (limit : Option Level) (notices : List Notice) : List String :=
  match limit with
  | none => []
  | some limit => (notices.filter (·.level.rank ≤ limit.rank)).map fun n => n.level.name ++ ": " ++ n.text

end PnpBus
