import PnpBus.Script.Reference
import PnpBus.Script.Reply

/-!
# Commands about single objects

Lifecycles and events that stand by themselves, and remove locks and gates
that do or that belong to a device. Locks are worked directly here, without a
token that would see to the release.
-/

namespace PnpBus

inductive BenchCommand where
  | newLifecycle
  | move (n : Nat) (target : PnpState)
  | restore (n : Nat)
  | newEvent
  | setEvent (n : Nat)
  | resetEvent (n : Nat)
  | waitEvent (n : Nat)
  | newLock
  | acquire (l : LockRef)
  | release (l : LockRef)
  | drain (l : LockRef)
  | viewLock (l : LockRef)
  | newGate (s : FilterState)
  | requestGate (g : GateRef) (wanted : FilterState)
  | issue (g : GateRef)
  | viewGate (g : GateRef)
  | dropTicket (n : Nat)

/-! ## Lifecycles and events -/

def viewLifecycle (n : Nat) (r : Except Status Unit) : Act Reply := do
  return .lifecycle r ((← get).bench.lifecycles.get n)

/-- Settles a move of a lifecycle that stands by itself. -/
def settleFree (n : Nat) (moved : Lifecycle → Except IllegalMove Lifecycle) : Call Reply := do
  let lifecycles := (← get).bench.lifecycles
  ensure (n < lifecycles.size)
  match ← (settleMove (moved (lifecycles.get n))).run with
  | .ok m =>
    modify (·.updateBench fun b => { b with lifecycles := b.lifecycles.modify n fun _ => m })
    viewLifecycle n (.ok ())
  | .error e => viewLifecycle n (.error e)

def needEvent (n : Nat) : Call Unit := do ensure (n < (← get).bench.events.size)

def viewEvent (n : Nat) : Act Reply := return .flag ((← get).bench.events.get n)

def putEvent (n : Nat) (up : Bool) : Act Unit :=
  modify (·.updateBench fun b => { b with events := b.events.modify n fun _ => up })

/-! ## Locks and gates -/

def viewLock (l : LockRef) (r : Except Status Unit) : Act Reply := return .lock r ((← get).lock l)

def viewGate (g : GateRef) (r : Except Status Unit) : Act Reply := return .gate r ((← get).gate g)

def addTicket (g : GateRef) : Act Nat :=
  modifyGet fun w =>
    (w.clients.tickets.size, w.updateClients fun c => { c with tickets := c.tickets.push (some g) })

/-- Gives a ticket back, unless that was done before. -/
def dropTicket (n : Nat) : Act Bool := do
  match (← get).clients.tickets.get n with
  | none => return false
  | some g =>
    modify (·.updateClients fun c => { c with tickets := c.tickets.modify n fun _ => none })
    redeemTicket g
    return true

def performBench : BenchCommand → Call Reply
  | .newLifecycle => do
    let n := (← get).bench.lifecycles.size
    modify (·.updateBench fun b => { b with lifecycles := b.lifecycles.push {} })
    viewLifecycle n (.ok ())
  | .move n target => settleFree n (·.move target)
  | .restore n => settleFree n (·.restore)
  | .newEvent => do
    let n := (← get).bench.events.size
    modify (·.updateBench fun b => { b with events := b.events.push false })
    return .number n
  | .setEvent n => do
    needEvent n
    putEvent n true
    viewEvent n
  | .resetEvent n => do
    needEvent n
    putEvent n false
    viewEvent n
  | .waitEvent n => do
    needEvent n
    Call.await (.raised n)
    viewEvent n
  | .newLock => do
    let n := (← get).bench.locks.size
    modify (·.updateBench fun b => { b with locks := b.locks.push {} })
    return .number n
  | .acquire l => do
    needLock l
    viewLock l (← (acquireLock l).run)
  | .release l => do
    needLock l
    releaseLock l
    viewLock l (.ok ())
  | .drain l => do
    needLock l
    drain l
    viewLock l (.ok ())
  | .viewLock l => do
    needLock l
    viewLock l (.ok ())
  | .newGate s => do
    let n := (← get).bench.gates.size
    modify (·.updateBench fun b => { b with gates := b.gates.push (.ofState s) })
    viewGate (.free n) (.ok ())
  | .requestGate g wanted => do
    needGate g
    viewGate g (← (requestGate g wanted).run)
  | .issue g => do
    needGate g
    let number ← if ← issueTicket g then some <$> (addTicket g : Call Nat) else pure none
    return .ticket number ((← get).gate g)
  | .viewGate g => do
    needGate g
    viewGate g (.ok ())
  | .dropTicket n => do
    ensure (n < (← get).clients.tickets.size)
    return .flag (← dropTicket n)

end PnpBus
