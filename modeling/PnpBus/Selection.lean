import PnpBus.Dispatch

/-!
# Which device the driver is active on

The configuration may name one device. `arbitrate` compares that name with
what a device says of itself, asking only if there is a name to compare with;
`queryId` asks the way any other client would, with a request to the device's
stack.
-/

namespace PnpBus

structure Selection where
  deviceId : String
  instanceId : String
  deriving DecidableEq

/-- A text value, or none if it is not there; a value of another kind is an error. -/
def readText (path name : String) : ExceptT Status Act (Option String) := do
  match (← get).store.getValue path name with
  | .ok (.str s) => return some s
  | .ok found =>
    notify (.notAString name found)
    throw .badFormat
  | .error .valueNotFound => return none
  | .error e => throw e.status

/-- The configured device. With either half missing there is none. -/
def readSelection (path : String) : ExceptT Status Act (Option Selection) := do
  match ← readText path activeDeviceId with
  | none =>
    notify .deviceIdNotSet
    return none
  | some deviceId =>
    match ← readText path activeInstanceId with
    | none =>
      notify .instanceIdNotSet
      return none
    | some instanceId =>
      notify (.deviceIdSet deviceId)
      notify (.instanceIdSet instanceId)
      return some ⟨deviceId, instanceId⟩

/-- What an identity query that ended with `status` has found out, taken from the request. -/
def takeId (r : RequestId) (status : Status) : ExceptT Status Act String := do
  unless status.isSuccess do throw status
  let information := (← request r).information
  inform r .none
  match information with
  | .id s => return s
  | _ => throw .notSupported

def queryId (b : DriverId) (d : DeviceId) (t : IdType) : ExceptT Status Call String := do
  let r ← newRequest (.pnp (.queryId t))
  let answered ← dispatch b d r
  let status ← if answered = .pending then waitForCompletion r else pure answered
  takeId r status

/-- Whether the device that `query` asks is the selected one, the case of ASCII letters aside. -/
def arbitrate {m : Type → Type} [Monad m] (selection : Option Selection)
    (query : IdType → ExceptT Status m String) : ExceptT Status m Bool := do
  match selection with
  | none => return false
  | some s =>
    let deviceId ← query .deviceId
    let instanceId ← query .instanceId
    return Text.sameIgnoringCase deviceId s.deviceId && Text.sameIgnoringCase instanceId s.instanceId

end PnpBus
