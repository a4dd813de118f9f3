import PnpBus.Call

/-!
# Probing a processor

A probe runs on the processor that it is about: it reads who the processor is,
finds it in the firmware's list and fills its slot. The caller that sent the
probe waits for its outcome and gets no other.
-/

namespace PnpBus

def topology (t : TopologyId) : Act Topology := return (← get).topologies.get t

/-- What a job does when its turn comes. -/
def probeProcessor (t : TopologyId) (processor : UInt32) : ExceptT CpuFault Act Unit := do
  notify (.probeEntered processor)
  let who ← (← get).platform.identify processor
  match (← topology t).firmware.uidOfApic who.apicId with
  | .error e =>
    notify (.apicUnknown who.apicId)
    throw (.refused e)
  | .ok processorId =>
    notify (.vendorRead who.manufacturer)
    notify (.apicRead who.apicId)
    notify (.processorIdRead processorId)
    unless processor.toNat < (← topology t).count do throw (.refused .invalidParameter)
    modify (·.updateTopology t fun v => v.fill processor ⟨who.manufacturer, who.apicId, processorId⟩)
    notify (.probeLeft processor)

def resolveProbe (p : ProbeId) (outcome : Except Status Unit) : Act Unit :=
  modify fun w => { w with probes := w.probes.modify p fun _ => some outcome }

/-- Runs a job. Nothing is left to run if the processor cannot be decoded. -/
def Job.run (j : Job) : Act (Option Halt) := do
  match ← (probeProcessor j.topology j.processor).run with
  | .ok () =>
    resolveProbe j.probe (.ok ())
    return none
  | .error (.refused s) =>
    resolveProbe j.probe (.error s)
    return none
  | .error .undecodable => return some .undecodable

/-! ## Sending a probe and waiting for it -/

def newProbe : Act ProbeId :=
  modifyGet fun w => (w.probes.size, { w with probes := w.probes.push none })

/-- Aims a job at a processor; the platform decides what becomes of it. -/
def sendJob (processor : UInt32) (t : TopologyId) (p : ProbeId) : ExceptT Status Act Unit := do
  noteRun processor
  match (← get).platform.place processor with
  | .refused s => throw s
  | .lost => pure ()
  | .on landing => modify fun w => { w with jobs := w.jobs ++ [⟨landing, t, p⟩] }

def awaitProbe (p : ProbeId) : ExceptT Status Call Unit := ExceptT.mk do
  Call.await (.probed p)
  return ((← get).probes.get p).getD (.error .unsuccessful)

def populate (t : TopologyId) (index : UInt32) : ExceptT Status Call Unit := do
  unless index.toNat < (← topology t).count do
    notify (.completeWithoutStart index)
    throw .invalidParameter
  let p ← newProbe
  sendJob index t p
  awaitProbe p

end PnpBus
