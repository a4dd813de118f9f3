import PnpBus.Script.Reference
import PnpBus.Script.Reply

/-!
# Commands about requests

A request takes its number before it is dispatched, so that whatever runs in
the dispatch's waits can already name it.
-/

namespace PnpBus

inductive RequestCommand where
  | send (d : DeviceId) (k : Kind) (b : Option DriverId)
  | resend (n : Nat) (d : DeviceId) (b : Option DriverId)
  | complete (n : Nat) (s : Status)
  | wait (n : Nat)
  | view (n : Nat)

/-- Request `r`, which clients know as `n`. -/
def viewRequest (n : Nat) (r : RequestId) : Act RequestView := do
  let w ← get
  let q := w.request r
  return {
    number := n
    serial := r.serial
    status := q.status
    completed := q.completed
    signaled := q.signaled
    held := q.locks.length
    information := q.information
    related := q.information.devices.map w.shown }

def dispatchNumbered (b : DriverId) (d : DeviceId) (n : Nat) (r : RequestId) : Call Reply := do
  let status ← dispatch b d r
  return .answered status (← viewRequest n r)

def performRequest : RequestCommand → Call Reply
  | .send d k b => do
    needDevice d
    let b ← chooseDriver b
    let r ← newRequest k
    let n := (← get).clients.requests.length
    modify (·.updateClients fun c => { c with requests := c.requests ++ [r] })
    dispatchNumbered b d n r
  | .resend n d b => do
    let r ← needRequest n
    needDevice d
    dispatchNumbered (← chooseDriver b) d n r
  | .complete n s => do
    let r ← needRequest n
    complete r s
    return .request (← viewRequest n r)
  | .wait n => do
    let r ← needRequest n
    let status ← waitForCompletion r
    return .answered status (← viewRequest n r)
  | .view n => do return .request (← viewRequest n (← needRequest n))

end PnpBus
