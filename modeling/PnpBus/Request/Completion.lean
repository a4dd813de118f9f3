import PnpBus.Device.Actions

/-!
# Requests from creation to completion

The first completion records the status, gives back every ticket and every
reference that the request holds and then signals it; later completions change
nothing.
-/

namespace PnpBus

def request (r : RequestId) : Act Request := return (← get).request r

/-- The identity under which clients know a request; the first is one. -/
def RequestId.serial (r : RequestId) : Nat := r + 1

def newRequest (kind : Kind) : Act RequestId :=
  modifyGet fun w => (w.requests.size, { w with requests := w.requests.push { kind } })

def inform (r : RequestId) (information : Information) : Act Unit :=
  modify (·.updateRequest r fun q => { q with information })

/-! ## What a request holds -/

def holdLock (r : RequestId) (d : DeviceId) : Act Unit :=
  modify (·.updateRequest r fun q => { q with locks := d :: q.locks })

def holdTicket (r : RequestId) (g : GateRef) : Act Unit :=
  modify (·.updateRequest r fun q => { q with tickets := g :: q.tickets })

/-- Gives one reference on `d` back before the request is complete, if it holds any. -/
def giveBack (r : RequestId) (d : DeviceId) : Act Unit := do
  if d ∈ (← request r).locks then
    modify (·.updateRequest r fun q => { q with locks := q.locks.erase d })
    releaseLock (.device d)

/-- Gives back all that a request holds, which is also what becomes of a request that nobody wants any more. -/
def relinquish (r : RequestId) : Act Unit := do
  let q ← request r
  modify (·.updateRequest r fun q => { q with locks := [], tickets := [] })
  q.tickets.forM redeemTicket
  q.locks.forM fun d => releaseLock (.device d)

/-! ## Completion -/

def complete (r : RequestId) (s : Status) : Act Unit := do
  unless (← request r).completed do
    modify (·.updateRequest r fun q => { q with completed := true, status := s })
    relinquish r
    modify (·.updateRequest r fun q => { q with signaled := true })

def waitForCompletion (r : RequestId) : Call Status := do
  Call.await (.completed r)
  return (← request r).status

end PnpBus
