import PnpBus.Config.Data
import PnpBus.Device.Identity
import PnpBus.FilterGate
import PnpBus.Lifecycle
import PnpBus.Processor.Topology
import PnpBus.Request.Kind
import PnpBus.Version

/-!
# What the bus reports while it works

Each notice is an event of its own with what belongs to it; `Notice.level`
says how grave it is and `Notice.text` how it reads.
-/

namespace PnpBus

inductive Level where
  | error
  | warn
  | info
  | debug
  | trace
  deriving DecidableEq

namespace Level

def all : List Level := [.error, .warn, .info, .debug, .trace]

def name : Level → String
  | error => "ERROR"
  | warn => "WARN"
  | info => "INFO"
  | debug => "DEBUG"
  | trace => "TRACE"

/-- The graver the level, the lower its rank. -/
def rank : Level → Nat
  | error => 0
  | warn => 1
  | info => 2
  | debug => 3
  | trace => 4

end Level

/-- The mode in which a driver came up. -/
inductive Mode where
  | operational
  | degraded
  | safeBoot
  deriving DecidableEq, Inhabited

def Mode.name : Mode → String
  | operational => "Operational"
  | degraded => "Degraded"
  | safeBoot => "SafeBoot"

inductive Notice where
  -- single objects
  | illegalMove (m : IllegalMove)
  | surplusRelease
  | surplusTicket
  | pendingRequested
  | gateSettled (s : FilterState)
  -- configuration
  | incompatible (module : String) (peer : Version)
  | rebootNotFlagged (key : String) (e : StoreError)
  | notAString (name : String) (found : Data)
  | deviceIdNotSet
  | instanceIdNotSet
  | deviceIdSet (id : String)
  | instanceIdSet (id : String)
  -- the life of a driver
  | entered
  | left
  | safeBoot (service : String)
  | starting (service : String)
  | missingKey (service key : String)
  | runningDegraded (service : String) (s : Status)
  | notAttaching (service : String) (m : Mode) (device : String)
  | alreadyActive (device : String)
  | attached (id : Identity) (active : Bool)
  | devicesPresent (service : String) (n : Nat)
  -- records
  | registered (r : Role) (id : Identity)
  | unregisterHeld (device : String)
  | notUnregistered (device : String) (s : Status)
  | recordDeleted (r : Role) (device : String)
  -- requests
  | sentToDeleted (k : Kind) (device : String)
  | physicalAsked (device : String) (m : Minor)
  | physicalRefused (device : String) (m : Minor) (s : Status)
  | functionalAsked (device : String) (m : Minor)
  | lowerRefused (device : String) (s : Status) (state : PnpState)
  | childrenListed (n : Nat)
  | childNotTornDown (device : String) (s : Status)
  | lowerRefusedRemoval (s : Status)
  | functionalRemoved (device : String)
  | queryAbandoned (device : String) (state : PnpState)
  -- processors
  | processorsDescribed (n : Nat)
  | changeEntered (index : UInt32) (c : ProcessorChange)
  | changeLeft (index : UInt32) (c : ProcessorChange)
  | processorFailed (index : UInt32)
  | completeWithoutStart (index : UInt32)
  | probeEntered (processor : UInt32)
  | probeLeft (processor : UInt32)
  | apicUnknown (apicId : UInt32)
  | vendorRead (manufacturer : String)
  | apicRead (apicId : UInt32)
  | processorIdRead (processorId : UInt32)
  deriving DecidableEq

namespace Notice

def level : Notice → Level
  | illegalMove _ | surplusRelease | surplusTicket | rebootNotFlagged _ _ | notAString _ _ | missingKey _ _
  | devicesPresent _ _ | unregisterHeld _ | notUnregistered _ _ | childNotTornDown _ _ | completeWithoutStart _
  | apicUnknown _ => .error
  | pendingRequested | runningDegraded _ _ | alreadyActive _ | lowerRefused _ _ _ | lowerRefusedRemoval _
  | queryAbandoned _ _ | processorFailed _ => .warn
  | gateSettled _ | incompatible _ _ | safeBoot _ | starting _ | notAttaching _ _ _ | attached _ _
  | recordDeleted _ _ | physicalRefused _ _ _ | functionalRemoved _ | probeEntered _ | probeLeft _ | vendorRead _
  | apicRead _ | processorIdRead _ => .info
  | deviceIdNotSet | instanceIdNotSet | deviceIdSet _ | instanceIdSet _ | entered | left | registered _ _
  | sentToDeleted _ _ | physicalAsked _ _ | functionalAsked _ _ | childrenListed _ | processorsDescribed _
  | changeEntered _ _ | changeLeft _ _ => .trace

def changeText (index : UInt32) (c : ProcessorChange) : String :=
  "(" ++ toString index.toNat ++ ":" ++ c.name ++ ")"

def text : Notice → String
  | illegalMove m => "illegal PnP transition " ++ m.source.name ++ " -> " ++ m.target.name
  | surplusRelease => "remove lock released more times than acquired"
  | surplusTicket => "filter: ticket released with nothing in flight"
  | pendingRequested => "filter: Pending cannot be requested directly"
  | gateSettled s => "filter: " ++ s.name
  | incompatible module peer =>
    "MODULE '" ++ module ++ "' (" ++ peer.text ++ ") NOT COMPATIBLE WITH " ++ Version.current.text
      ++ " (REBOOT REQUIRED)"
  | rebootNotFlagged key e => "failed to flag reboot under " ++ key ++ ": " ++ e.name
  | notAString name found => name ++ ": expected string, found " ++ found.text
  | deviceIdNotSet => "DeviceID = NOT SET"
  | instanceIdNotSet => "InstanceID = NOT SET"
  | deviceIdSet id => "DeviceID = " ++ id
  | instanceIdSet id => "InstanceID = " ++ id
  | entered => "====>"
  | left => "<===="
  | safeBoot service => service ++ ": safe boot, not initializing"
  | starting service => service ++ " " ++ Version.current.text
  | missingKey service key => service ++ ": missing " ++ key
  | runningDegraded service s => service ++ ": running degraded (" ++ s.name ++ ")"
  | notAttaching service m device => service ++ ": " ++ m.name ++ ", ignoring " ++ device
  | alreadyActive device => device ++ " matches the active selection but an active FDO already exists"
  | attached id active =>
    id.deviceId ++ "\\" ++ id.instanceId ++ ": " ++ (if active then "ACTIVE" else "INACTIVE") ++ " FDO"
  | devicesPresent service n => service ++ ": " ++ toString n ++ " device(s) still present"
  | registered r id => "registered " ++ r.name ++ " " ++ id.deviceId ++ "\\" ++ id.instanceId
  | unregisterHeld device => "unregister of " ++ device ++ " while references are outstanding"
  | notUnregistered device s => "failed to unregister " ++ device ++ ": " ++ s.name
  | recordDeleted r device => r.name ++ " " ++ device ++ " deleted"
  | sentToDeleted k device => k.text ++ " to deleted " ++ device
  | physicalAsked device m => "PDO " ++ device ++ " " ++ m.name
  | physicalRefused device m s => "PDO " ++ device ++ " " ++ m.name ++ " failed: " ++ s.name
  | functionalAsked device m => "FDO " ++ device ++ " " ++ m.name
  | lowerRefused device s state =>
    "FDO " ++ device ++ ": lower refused (" ++ s.name ++ "), rolling back from " ++ state.name
  | childrenListed n => "BusRelations: " ++ toString n ++ " child(ren)"
  | childNotTornDown device s => "child " ++ device ++ " teardown failed: " ++ s.name
  | lowerRefusedRemoval s => "lower PDO failed remove: " ++ s.name
  | functionalRemoved device => "FDO " ++ device ++ " removed"
  | queryAbandoned device state => device ++ " abandoned " ++ state.name
  | processorsDescribed n => toString n ++ " processor(s) described by firmware"
  | changeEntered index c => "====> " ++ changeText index c
  | changeLeft index c => "<==== " ++ changeText index c
  | processorFailed index => "processor " ++ toString index.toNat ++ " failed to come online"
  | completeWithoutStart index => "add-complete for " ++ toString index.toNat ++ " without add-start"
  | probeEntered processor => "====> (" ++ toString processor.toNat ++ ")"
  | probeLeft processor => "<==== (" ++ toString processor.toNat ++ ")"
  | apicUnknown apicId => "APIC ID " ++ Text.hex apicId.toNat ++ " not described by the MADT"
  | vendorRead manufacturer => "Manufacturer: " ++ manufacturer
  | apicRead apicId => "APIC ID: " ++ Text.hex apicId.toNat
  | processorIdRead processorId => "PROCESSOR ID: " ++ Text.hex processorId.toNat

end Notice

end PnpBus
