import PnpBus.Script.Reference
import PnpBus.Script.Reply

/-! # Commands about processors and topologies -/

namespace PnpBus

inductive ProcessorCommand where
  | configure (p : Platform)
  | identify (processor : UInt32)
  | newTopology (entries : ProcessorTable)
  | change (t : Nat) (index : UInt32) (c : ProcessorChange)
  | register (t : Nat) (count : UInt32)
  | view (t : Nat)
  | slot (t : Nat) (index : UInt32)

def viewChange (t : TopologyId) (r : Except Status Unit) : Act Reply :=
  return .topologyChange r (some (← topology t))

def performProcessor : ProcessorCommand → Call Reply
  | .configure platform => do
    modify fun w => { w with platform }
    return .done
  | .identify processor => do
    match (← get).platform.identify processor with
    | .ok who => return .cpu (.ok who)
    | .error (.refused s) => return .cpu (.error s)
    | .error .undecodable => Call.halt .undecodable
  | .newTopology entries => do
    describeProcessors entries
    let t ← newTopology entries
    let n := (← get).clients.topologies.length
    modify (·.updateClients fun c => { c with topologies := c.topologies ++ [t] })
    return .number n
  | .change t index c => do
    let t ← needTopology t
    viewChange t (← (changeProcessor t index c).run)
  | .register t count => do
    let t ← needTopology t
    viewChange t (← (registerExisting t count).run)
  | .view t => do return .topology (← topology (← needTopology t))
  | .slot t index => do
    let v ← topology (← needTopology t)
    return .slot (v.processor? index).isSome (v.processorId? index)

end PnpBus
