import PnpBus.Config.Key

/-!
# The configuration store

A store is a key tree behind a layer of injected failures: a call whose value
name or path is listed there answers the listed error and does not touch the
tree. The names of the keys that a service owns are fixed here too.
-/

namespace PnpBus

/-! ## Keys of a service -/

def servicesRoot : String := "SYSTEM/CurrentControlSet/Services"

def serviceKey (service : String) : String := servicesRoot ++ "/" ++ service

def parametersKey (service : String) : String := serviceKey service ++ "/Parameters"

def statusKey (service : String) : String := serviceKey service ++ "/Status"

/-! ## Names of values -/

def needReboot : String := "NeedReboot"

def activeDeviceId : String := "ActiveDeviceID"

def activeInstanceId : String := "ActiveInstanceID"

/-! ## Stores with injected failures -/

/-- Reads and writes fail by value name, creation by path as it is spelled. -/
structure Faults where
  reads : Entries StoreError := []
  writes : Entries StoreError := []
  creates : Entries StoreError := []

structure Store where
  tree : KeyTree := {}
  faults : Faults := {}

namespace Store

def getValue (s : Store) (path name : String) : Except StoreError Data :=
  match s.faults.reads.get? name with
  | some e => .error e
  | none => s.tree.getValue path name

def setValue (s : Store) (path name : String) (d : Data) : Except StoreError Store :=
  match s.faults.writes.get? name with
  | some e => .error e
  | none => do return { s with tree := ← s.tree.setValue path name d }

def createKey (s : Store) (path : String) : Except StoreError Store :=
  match s.faults.creates.get? path with
  | some e => .error e
  | none => do return { s with tree := ← s.tree.createKey path }

def keyExists (s : Store) (path : String) : Bool := s.tree.keyExists path

/-- Whether the reboot flag under that key holds a number other than zero. -/
def needsReboot (s : Store) (path : String) : Bool :=
  match s.getValue path needReboot >>= Data.asU32 with
  | .ok n => n != 0
  | .error _ => false

end Store

end PnpBus
