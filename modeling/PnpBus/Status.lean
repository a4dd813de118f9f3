/-!
# Status codes and store errors

`Status` is the outcome of every bus operation: a 32-bit code whose top bit
marks failure. `StoreError` is what the configuration store answers when it
refuses; every store error has a status of its own (`StoreError.status`).
-/

namespace PnpBus

inductive Status where
  | success
  | pending
  | unsuccessful
  | invalidParameter
  | noSuchDevice
  | notFound
  | alreadyExists
  | insufficientResources
  | notSupported
  | busy
  | deletePending
  | invalidState
  | badFormat
  | incompatibleVersion
  deriving DecidableEq, Inhabited

namespace Status

def all : List Status :=
  [.success, .pending, .unsuccessful, .invalidParameter, .noSuchDevice, .notFound, .alreadyExists,
    .insufficientResources, .notSupported, .busy, .deletePending, .invalidState, .badFormat,
    .incompatibleVersion]

def name : Status → String
  | success => "Success"
  | pending => "Pending"
  | unsuccessful => "Unsuccessful"
  | invalidParameter => "InvalidParameter"
  | noSuchDevice => "NoSuchDevice"
  | notFound => "NotFound"
  | alreadyExists => "AlreadyExists"
  | insufficientResources => "InsufficientResources"
  | notSupported => "NotSupported"
  | busy => "Busy"
  | deletePending => "DeletePending"
  | invalidState => "InvalidState"
  | badFormat => "BadFormat"
  | incompatibleVersion => "IncompatibleVersion"

def code : Status → UInt32
  | success => 0x00000000
  | pending => 0x00000103
  | unsuccessful => 0xC0000001
  | invalidParameter => 0xC000000D
  | noSuchDevice => 0xC000000E
  | notFound => 0xC0000034
  | alreadyExists => 0xC0000035
  | insufficientResources => 0xC000009A
  | notSupported => 0xC00000BB
  | busy => 0xC00000BF
  | deletePending => 0xC0000056
  | invalidState => 0xC0000184
  | badFormat => 0xC000007B
  | incompatibleVersion => 0xC000036B

/-- Neither done nor pending means failed: the top bit of the code is set. -/
def isSuccess (s : Status) : Bool := s.code < 0x80000000

def result (s : Status) : Except Status Unit := if s.isSuccess then .ok () else .error s

/-- The status under which an operation without a value is reported. -/
def ofResult : Except Status Unit → Status
  | .ok () => success
  | .error s => s

@[simp] theorem ofResult_ok : ofResult (.ok ()) = success := rfl

@[simp] theorem ofResult_error (s : Status) : ofResult (.error s) = s := rfl

theorem mem_all (s : Status) : s ∈ all := by cases s <;> decide

theorem isSuccess_iff (s : Status) : s.isSuccess = true ↔ s = success ∨ s = pending := by
  cases s <;> decide

end Status

inductive StoreError where
  | keyAlreadyExists
  | keyNotFound
  | valueNotFound
  | badType
  | persistenceFailed
  deriving DecidableEq, Inhabited

namespace StoreError

def all : List StoreError := [.keyAlreadyExists, .keyNotFound, .valueNotFound, .badType, .persistenceFailed]

def name : StoreError → String
  | keyAlreadyExists => "KeyAlreadyExists"
  | keyNotFound => "KeyNotFound"
  | valueNotFound => "ValueNotFound"
  | badType => "BadType"
  | persistenceFailed => "PersistenceFailed"

def status : StoreError → Status
  | keyAlreadyExists => .alreadyExists
  | keyNotFound | valueNotFound => .notFound
  | badType => .badFormat
  | persistenceFailed => .unsuccessful

theorem mem_all (e : StoreError) : e ∈ all := by cases e <;> decide

end StoreError

end PnpBus
