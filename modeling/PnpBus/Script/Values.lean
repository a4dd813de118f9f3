import PnpBus.Script.Reply

/-!
# Commands about plain values

They look at one value and touch nothing.
-/

namespace PnpBus

inductive ValueCommand where
  | status (s : Status)
  | storeError (e : StoreError)
  | data (d : Data)
  /-- Our own version if none is given. -/
  | version (v : Option Version)
  | state (s : PnpState)
  | minor (m : Minor)
  | identity (deviceId instanceId : String)
  | serviceKeys (service : String)
  | table (entries : ProcessorTable) (find : List UInt32)

def performValue : ValueCommand → Act Reply
  | .status s => return .statusFacts s
  | .storeError e => return .name e.status.name
  | .data d => return .dataFacts d.asString d.asU32 d.text
  | .version v =>
    let v := v.getD Version.current
    return .versionFacts v.text (v = Version.current)
  | .state s => return .stateFacts s (Role.all.map fun r => Route.of r s)
  | .minor m => return .minorFacts m
  | .identity deviceId instanceId => return .identity (Identity.make deviceId instanceId)
  | .serviceKeys service => return .names [serviceKey service, parametersKey service, statusKey service]
  | .table entries find => do
    describeProcessors entries
    return .table entries (find.map fun apic => ProcessorTable.uidOfApic entries apic)

end PnpBus
