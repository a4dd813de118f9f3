import PnpBus.Script.Bench
import PnpBus.Script.Configuration
import PnpBus.Script.Devices
import PnpBus.Script.Drivers
import PnpBus.Script.Processors
import PnpBus.Script.Requests
import PnpBus.Script.Values

/-! # Commands of every kind -/

namespace PnpBus

inductive Command where
  | value (c : ValueCommand)
  | config (c : ConfigCommand)
  | bench (c : BenchCommand)
  | processor (c : ProcessorCommand)
  | driver (c : DriverCommand)
  | device (c : DeviceCommand)
  | request (c : RequestCommand)

def perform : Command → Call Reply
  | .value c => performValue c
  | .config c => performConfig c
  | .bench c => performBench c
  | .processor c => performProcessor c
  | .driver c => performDriver c
  | .device c => performDevice c
  | .request c => performRequest c

/-- Devices that a command holds on to while it waits. -/
def Command.operands : Command → List DeviceId
  | .bench (.drain (.device d)) => [d]
  | .request (.send d _ _) => [d]
  | .request (.resend _ d _) => [d]
  | _ => []

end PnpBus
