import PnpBus.Proofs.Sections

/-!
# Operations and their locks

What clients ask a driver, a device, a topology or a lock to do, and the jobs
that probes send. All of it is tidy except what concerns the slot for the
topology of a driver: that is looked at, emptied and filled under its own lock,
and an attachment has this lock in hand while it waits for its probes.
-/

namespace PnpBus

variable {α : Type}

namespace Tidy

/-! ## Which device the driver is active on -/

def reading (l : InnerLock) : Tidy World := under l get

def readText (path name : String) : ExceptT Status Tidy (Option String) := do
  match (← reading .config).store.getValue path name with
  | .ok (.str s) => return some s
  | .ok found =>
    notify (.notAString name found)
    throw .badFormat
  | .error .valueNotFound => return none
  | .error e => throw e.status

def readSelection (path : String) : ExceptT Status Tidy (Option Selection) := do
  match ← readText path activeDeviceId with
  | none =>
    notify .deviceIdNotSet
    return none
  | some deviceId =>
    match ← readText path activeInstanceId with
    | none =>
      notify .instanceIdNotSet
      return none
    | some instanceId =>
      notify (.deviceIdSet deviceId)
      notify (.instanceIdSet instanceId)
      return some ⟨deviceId, instanceId⟩

def information (r : RequestId) : Act Information := do
  let information := (← request r).information
  PnpBus.inform r .none
  return information

def takeInformation (r : RequestId) : Tidy Information := under (.request r) (information r)

def takeId (r : RequestId) (status : Status) : ExceptT Status Tidy String := do
  unless status.isSuccess do throw status
  match ← takeInformation r with
  | .id s => return s
  | _ => throw .notSupported

def queryId (b : DriverId) (d : DeviceId) (t : IdType) : ExceptT Status Tidy String := do
  let r ← newRequest (.pnp (.queryId t))
  let answered ← dispatch b d r
  let status ← if answered = .pending then waitForCompletion r else pure answered
  takeId r status

namespace Is

theorem readText (path name : String) :
    (Tidy.readText path name).run.Is (liftM (PnpBus.readText path name).run) := by
  refine act_look _ get fun w => ?_
  cases w.store.getValue path name with
  | ok found =>
    cases found with
    | str s => exact act_ok _
    | _ => exact act_do (notify _) fun _ => act_error _
  | error e =>
    cases e with
    | valueNotFound => exact act_ok _
    | _ => exact act_error _

theorem readSelection (path : String) :
    (Tidy.readSelection path).run.Is (liftM (PnpBus.readSelection path).run) := by
  refine act_run_bind (readText _ _) fun deviceId => ?_
  cases deviceId with
  | none => exact act_do (notify _) fun _ => act_ok _
  | some deviceId =>
    refine act_run_bind (readText _ _) fun instanceId => ?_
    cases instanceId with
    | none => exact act_do (notify _) fun _ => act_ok _
    | some instanceId =>
      exact act_do (notify _) fun _ => act_do (notify _) fun _ => act_ok _

theorem takeId (r : RequestId) (s : Status) : (Tidy.takeId r s).run.Is (liftM (PnpBus.takeId r s).run) := by
  have answer : (do match ← Tidy.takeInformation r with
      | .id s => return s
      | _ => throw .notSupported : ExceptT Status Tidy String).run.Is (liftM (do match ← information r with
      | .id s => return s
      | _ => throw .notSupported : ExceptT Status Act String).run) := by
    refine act_look _ _ fun i => ?_
    cases i with
    | id s => exact act_ok s
    | _ => exact act_error _
  unfold Tidy.takeId PnpBus.takeId
  split
  · exact answer
  · exact act_error s

theorem queryId (b : DriverId) (d : DeviceId) (t : IdType) :
    (Tidy.queryId b d t).run.Is (PnpBus.queryId b d t).run := by
  refine run_bind (lift_act (newRequest _)) fun r => run_bind (lift (dispatch b d r)) fun answered => ?_
  split
  · exact run_bind (lift (waitForCompletion r)) fun s => takeId r s
  · exact run_bind (ok _) fun s => takeId r s

theorem arbitrate (selection : Option Selection) (b : DriverId) (d : DeviceId) :
    (PnpBus.arbitrate selection (Tidy.queryId b d)).run.Is
    (PnpBus.arbitrate selection (PnpBus.queryId b d)).run := by
  cases selection with
  | none => exact ok _
  | some s => exact run_bind (queryId b d _) fun _ => run_bind (queryId b d _) fun _ => ok _

end Is

/-! ## Attaching devices -/

def createPhysical (b : DriverId) (identity : Identity) : ExceptT Status Tidy DeviceId := do
  let d ← register b identity (.physical none)
  finishCreation d
  return d

def registerOver (b : DriverId) (identity : Identity) (lower : DeviceId) (active : Bool) :
    ExceptT Status Tidy DeviceId := do
  register b identity (.functional { lower := (← get).stack lower, active })

def attachOver (b : DriverId) (identity : Identity) (d : DeviceId) (matched : Bool) :
    ExceptT Status Tidy DeviceId := do
  let active ← claimActive b identity matched
  let f ←
    try registerOver b identity d active
    catch e =>
      if active then setClaim b false
      throw e
  finishCreation f
  notify (.attached identity active)
  return f

def attachDevice (b : DriverId) (d : DeviceId) : ExceptT Status Tidy (Option DeviceId) := do
  notify .entered
  let v ← device d
  let owner ← driver b
  unless owner.mode = .operational do
    notify (.notAttaching owner.service owner.mode v.identity.deviceId)
    return none
  unless v.role = .physical do throw .invalidParameter
  let selection ← readSelection (parametersKey owner.service)
  let matched ← arbitrate selection (queryId b d)
  let f ← attachOver b v.identity d matched
  notify .left
  return some f

def enlist (f d : DeviceId) : Tidy Unit :=
  under (.children f) (modify (·.updateDevice f fun v =>
    v.updateLayer fun layer => { layer with children := layer.children ++ [d] }))

def addChild (b : DriverId) (f : DeviceId) (identity : Identity) : ExceptT Status Tidy DeviceId := do
  match (← device f).layer? with
  | none => throw .invalidParameter
  | some layer =>
    unless layer.active do throw .notSupported
    let d ← register b identity (.physical (some f))
    finishCreation d
    enlist f d
    return d

namespace Is

theorem createPhysical (b : DriverId) (identity : Identity) :
    (Tidy.createPhysical b identity).run.Is (liftM (PnpBus.createPhysical b identity).run) :=
  act_run_bind (underE _ _) fun d => act_do (finishCreation d) fun _ => act_ok d

theorem attachOver (b : DriverId) (identity : Identity) (d : DeviceId) (matched : Bool) :
    (Tidy.attachOver b identity d matched).run.Is (liftM (PnpBus.attachOver b identity d matched).run) := by
  refine act_do (claimActive b identity matched) fun active => ?_
  refine act_run_bind (act_run_tryCatch ?_ fun e => ?_) fun f => ?_
  · exact act_do get fun w => underE _ _
  · split
    · exact act_do (setClaim b false) fun _ => act_error e
    · exact act_error e
  · refine act_do (finishCreation f) fun _ => ?_
    exact act_do (notify _) fun _ => act_ok f

theorem attachDevice (b : DriverId) (d : DeviceId) :
    (Tidy.attachDevice b d).run.Is (PnpBus.attachDevice b d).run := by
  refine run_bind (lift_act (notify _)) fun _ => run_bind (lift_act (device d)) fun v => ?_
  refine run_bind (lift_act (driver b)) fun owner => ?_
  split
  · split
    · refine run_bind (readSelection _) fun selection => run_bind (arbitrate selection b d) fun matched => ?_
      exact run_bind (attachOver b _ d matched) fun f => run_bind (lift_act (notify _)) fun _ => ok _
    · exact error _
  · exact run_bind (lift_act (notify _)) fun _ => ok _

theorem addChild (b : DriverId) (f : DeviceId) (identity : Identity) :
    (Tidy.addChild b f identity).run.Is (liftM (PnpBus.addChild b f identity).run) := by
  refine act_do (device f) fun v => ?_
  cases v.layer? with
  | none => exact act_error _
  | some layer =>
    dsimp only
    split
    · refine act_run_bind (underE _ _) fun d => act_do (finishCreation d) fun _ => ?_
      exact act_look _ _ fun _ => act_ok d
    · exact act_error _

end Is

/-! ## Processors -/

def awaitProbe (p : ProbeId) : ExceptT Status Tidy Unit := ExceptT.mk do
  await (.probed p)
  return ((← reading (.outcome p)).probes.get p).getD (.error .unsuccessful)

def topologyOf (t : TopologyId) : Tidy Topology := under (.processors t) (topology t)

def populate (t : TopologyId) (index : UInt32) : ExceptT Status Tidy Unit := do
  unless index.toNat < (← topologyOf t).count do
    notify (.completeWithoutStart index)
    throw .invalidParameter
  let p ← newProbe
  sendJob index t p
  awaitProbe p

def grow (t : TopologyId) (index : UInt32) : Tidy Unit :=
  under (.processors t) (modify (·.updateTopology t fun v => v.grow index))

def applyChange (t : TopologyId) (index : UInt32) : ProcessorChange → ExceptT Status Tidy Unit
  | .addStart => grow t index
  | .addComplete => populate t index
  | .addFailed => notify (.processorFailed index)

def changeProcessor (t : TopologyId) (index : UInt32) (c : ProcessorChange) : ExceptT Status Tidy Unit :=
  ExceptT.mk do
    notify (.changeEntered index c)
    let outcome ← (applyChange t index c).run
    notify (.changeLeft index c)
    return outcome

def registerFrom (t : TopologyId) (index : UInt32) : Nat → ExceptT Status Tidy Unit
  | 0 => pure ()
  | n + 1 => do
    changeProcessor t index .addStart
    changeProcessor t index .addComplete
    registerFrom t (index + 1) n

def fillEntry (t : TopologyId) (processor : UInt32) (x : ProcessorRecord) : ExceptT CpuFault Act Unit := do
  unless processor.toNat < (← topology t).count do throw (.refused .invalidParameter)
  modify (·.updateTopology t fun v => v.fill processor x)
  notify (.probeLeft processor)

def probeProcessor (t : TopologyId) (processor : UInt32) : ExceptT CpuFault Tidy Unit := do
  notify (.probeEntered processor)
  let who ← (← (get : Act World)).platform.identify processor
  match (← topology t).firmware.uidOfApic who.apicId with
  | .error e =>
    notify (.apicUnknown who.apicId)
    throw (.refused e)
  | .ok processorId =>
    notify (.vendorRead who.manufacturer)
    notify (.apicRead who.apicId)
    notify (.processorIdRead processorId)
    ExceptT.mk (under (.processors t) (fillEntry t processor ⟨who.manufacturer, who.apicId, processorId⟩).run)

def runJob (j : Job) : Tidy (Option Halt) := do
  match ← (probeProcessor j.topology j.processor).run with
  | .ok () =>
    under (.outcome j.probe) (resolveProbe j.probe (.ok ()))
    return none
  | .error (.refused s) =>
    under (.outcome j.probe) (resolveProbe j.probe (.error s))
    return none
  | .error .undecodable => return some .undecodable

namespace Is

theorem populate (t : TopologyId) (index : UInt32) :
    (Tidy.populate t index).run.Is (PnpBus.populate t index).run := by
  refine run_bind (lift (under _ (topology t))) fun v => ?_
  split
  · refine run_bind (lift_act newProbe) fun p => run_bind (lift_except (sendJob index t p)) fun _ => ?_
    exact bind (await _) fun _ => bind (under _ get) fun w => pure _
  · exact run_bind (lift_act (notify _)) fun _ => error _

theorem changeProcessor (t : TopologyId) (index : UInt32) (c : ProcessorChange) :
    (Tidy.changeProcessor t index c).run.Is (PnpBus.changeProcessor t index c).run := by
  have apply : (Tidy.applyChange t index c).run.Is (PnpBus.applyChange t index c).run := by
    cases c with
    | addStart => exact lift (under _ _)
    | addComplete => exact populate t index
    | addFailed => exact lift_act (notify _)
  exact bind (act (notify _)) fun _ => bind apply fun _ => bind (act (notify _)) fun _ => pure _

theorem registerFrom (t : TopologyId) : ∀ (n : Nat) (index : UInt32),
    (Tidy.registerFrom t index n).run.Is (PnpBus.registerFrom t index n).run
  | 0, _ => ok _
  | n + 1, index => run_bind (changeProcessor t index .addStart) fun _ =>
    run_bind (changeProcessor t index .addComplete) fun _ => registerFrom t n (index + 1)

theorem probeProcessor (t : TopologyId) (processor : UInt32) :
    (Tidy.probeProcessor t processor).run.Is (liftM (PnpBus.probeProcessor t processor).run) := by
  refine act_do (notify _) fun _ => act_do get fun w => ?_
  refine act_run_bind (e := liftM (w.platform.identify processor)) rfl fun who => ?_
  refine act_do (topology t) fun v => ?_
  cases v.firmware.uidOfApic who.apicId with
  | error e => exact act_do (notify _) fun _ => rfl
  | ok processorId =>
    refine act_do (notify _) fun _ => act_do (notify _) fun _ => ?_
    exact act_do (notify _) fun _ => under _ _

theorem runJob (j : Job) : (Tidy.runJob j).Is (liftM j.run) := by
  refine act_bind (probeProcessor j.topology j.processor) fun outcome => ?_
  cases outcome with
  | ok _ => exact act_bind (under _ (resolveProbe j.probe (.ok ()))) fun _ => act (Pure.pure none)
  | error e =>
    cases e with
    | refused s => exact act_bind (under _ (resolveProbe j.probe (.error s))) fun _ => act (Pure.pure none)
    | undecodable => exact act (Pure.pure (some Halt.undecodable))

end Is

/-! ## Topologies of drivers -/

def registryOf (b : DriverId) : Tidy Driver := under (.registry b) (driver b)

def fillSlot (b : DriverId) (firmware : ProcessorTable) (online : UInt32) (installed : Option TopologyId) :
    ExceptT Status Tidy TopologyId := do
  if installed.isSome then throw .alreadyExists
  let t ← newTopology firmware
  setSlot b { held := true }
  try registerFrom t 0 online.toNat
  catch e =>
    setSlot b {}
    throw e
  setSlot b { installed := some t }
  return t

theorem Is.fillSlot (b : DriverId) (firmware : ProcessorTable) (online : UInt32) (installed : Option TopologyId) :
    (Tidy.fillSlot b firmware online installed).run.Is (do
      if installed.isSome then throw .alreadyExists
      let t ← newTopology firmware
      setSlot b { held := true }
      try registerExisting t online
      catch e =>
        setSlot b {}
        throw e
      setSlot b { installed := some t }
      return t : ExceptT Status Call TopologyId).run := by
  unfold Tidy.fillSlot
  split
  · exact .error _
  · refine .run_bind (.lift_act (newTopology firmware)) fun t => .run_bind (.lift_act (setSlot b _)) fun _ => ?_
    refine .run_bind (.run_tryCatch (.registerFrom t _ 0) fun e => ?_) fun _ => ?_
    · exact .run_bind (.lift_act (setSlot b {})) fun _ => .error e
    · exact .run_bind (.lift_act (setSlot b _)) fun _ => .ok t

end Tidy

theorem Call.run_call_bind {β : Type} (c : Call α) (f : α → ExceptT Status Call β) :
    (liftM c >>= f : ExceptT Status Call β).run = c >>= fun a => (f a).run := by
  funext w
  rw [Call.run_bind, Call.run_call, Run.bind_assoc]
  rfl

namespace Guarded

instance : MonadLift Tidy Guarded := ⟨Tidy.guarded⟩

instance : MonadLift (ExceptT Status Tidy) (ExceptT Status Guarded) := ⟨fun t => ExceptT.mk t.run.guarded⟩

def atSlot (b : DriverId) (f : Option TopologyId → Guarded α) : Guarded α := fun w =>
  if (w.driver b).slot.held then .halt w .deadlock else locked (.slot b) (f (w.driver b).slot.installed) w

def openSlot (b : DriverId) : Guarded (Option TopologyId) := atSlot b pure

def driverProcessorChange (b : DriverId) (index : UInt32) (c : ProcessorChange) : ExceptT Status Guarded Unit := do
  match ← openSlot b with
  | some t => Tidy.changeProcessor t index c
  | none => throw .invalidState

def emptySlot (b : DriverId) : Guarded Unit := atSlot b fun _ => ofAct (setSlot b {})

def unload (b : DriverId) : ExceptT Status Guarded Unit := do
  notify .entered
  let v ← Tidy.registryOf b
  unless v.registry.isEmpty do
    Tidy.glance (.registry b)
    notify (.devicesPresent v.service v.registry.size)
    throw .busy
  emptySlot b
  notify .left

def attachTopology (b : DriverId) (firmware : ProcessorTable) (online : UInt32) :
    ExceptT Status Guarded TopologyId := do
  if (← driver b).mode = .safeBoot then throw .notSupported
  ExceptT.mk (atSlot b fun installed => (Tidy.fillSlot b firmware online installed).run)

namespace Is

theorem atSlot (b : DriverId) {f : Option TopologyId → Guarded α} {k : Option TopologyId → Call α}
    (h : ∀ o, (f o).Is (k o)) : (Guarded.atSlot b f).Is (PnpBus.openSlot b >>= k) := by
  funext w
  have ho := openSlot_apply b w
  rw [Call.bind_apply, ho]
  show Span.plain (if _ then _ else _) = _
  split
  · rfl
  · exact congrFun (locked _ (h _)) w

theorem openSlot (b : DriverId) : (Guarded.openSlot b).Is (PnpBus.openSlot b) := by
  have h := atSlot b (f := Pure.pure) (k := Pure.pure) fun o => pure o
  rwa [bind_pure] at h

theorem driverProcessorChange (b : DriverId) (index : UInt32) (c : ProcessorChange) :
    (Guarded.driverProcessorChange b index c).run.Is (PnpBus.driverProcessorChange b index c).run := by
  refine run_bind (lift (openSlot b)) fun o => ?_
  cases o with
  | some t => exact Tidy.Is.changeProcessor t index c
  | none => rfl

theorem emptySlot (b : DriverId) : (Guarded.emptySlot b).Is (do
    let _ ← PnpBus.openSlot b
    setSlot b {}) := atSlot b fun _ => act _

theorem unload (b : DriverId) : (Guarded.unload b).run.Is (PnpBus.unload b).run := by
  have leave : (do
      Guarded.emptySlot b
      notify .left : ExceptT Status Guarded Unit).run.Is (do
      let _ ← PnpBus.openSlot b
      setSlot b {}
      notify .left : ExceptT Status Call Unit).run := by
    refine .trans (run_bind (lift (emptySlot b)) fun _ => lift (act (notify .left))) ?_
    simp only [Call.run_call_bind, bind_assoc]
    rfl
  refine run_bind (lift (act (notify _))) fun _ => run_bind (lift (Tidy.Is.under _ (driver b))) fun v => ?_
  split
  · exact leave
  · have refuse := run_bind (lift (act (notify (.devicesPresent v.service v.registry.size)))) fun _ =>
      (rfl : (throw .busy : ExceptT Status Guarded Unit).run.Is (throw .busy : ExceptT Status Call Unit).run)
    exact run_bind (c := Pure.pure ()) (lift (Tidy.Is.under (.registry b) (Pure.pure ()))) fun _ => refuse

theorem attachTopology (b : DriverId) (firmware : ProcessorTable) (online : UInt32) :
    (Guarded.attachTopology b firmware online).run.Is (PnpBus.attachTopology b firmware online).run := by
  refine run_bind (lift (act (driver b))) fun v => ?_
  split
  · rfl
  · rw [Call.run_call_bind]
    have fill := atSlot b fun installed => Tidy.Is.fillSlot b firmware online installed
    exact fill

end Is

theorem rests_bind {β : Type} {g : Guarded α} {f : α → ExceptT Status Guarded β} {L : Licence}
    {kept base hand : List SpinLock} {w : World} (hi : ∀ l, l.IsInner → L.takes l)
    (hg : (g w).Rests kept base L hand) (hf : ∀ a w, ((f a).run w).Rests kept base .inner base) :
    ((liftM g >>= f : ExceptT Status Guarded β).run w).Rests kept base L hand := by
  have hr : ((liftM g : ExceptT Status Guarded α).run w).Rests kept base L hand := hg.bind hi fun _ _ => rfl
  refine hr.bind hi fun r w => ?_
  cases r with
  | ok a => exact hf a w
  | error e => rfl

section
variable {b : DriverId} {L : Licence} {w : World}

theorem rests_atSlot_brief {kept : List SpinLock} {f : Option TopologyId → Guarded α}
    (ht : (w.driver b).slot.held = false → L.takes (.slot b)) (hs : (w.driver b).slot.held = true → L.stops)
    (hf : ∀ o v, ∃ v' a, f o v = .done v' a) : (atSlot b f w).Rests kept [] L [] := by
  unfold atSlot
  split
  next h => exact ⟨hs h, rfl⟩
  next h =>
    refine ⟨ht (eq_false_of_ne_true h), List.not_mem_nil, ?_⟩
    obtain ⟨v, a, he⟩ := hf (w.driver b).slot.installed w
    rw [he]
    exact ⟨[], rfl, rfl⟩

variable (hi : ∀ l, l.IsInner → L.takes l) (ht : (w.driver b).slot.held = false → L.takes (.slot b))
  (hs : (w.driver b).slot.held = true → L.stops)
include hi ht hs

/-- Waits in the middle of it are made with the slot in hand. -/
theorem rests_atSlot {f : Option TopologyId → Guarded α} (hf : ∀ o, (f o).IsTidy) :
    (atSlot b f w).Rests [.slot b] [] L [] := by
  unfold atSlot
  split
  next h => exact ⟨hs h, rfl⟩
  next h => exact (hf _).locked hi (ht (eq_false_of_ne_true h)) id w

theorem rests_driverProcessorChange (index : UInt32) (c : ProcessorChange) :
    ((driverProcessorChange b index c).run w).Rests [] [] L [] := by
  have opened : (openSlot b w).Rests [] [] L [] := rests_atSlot_brief ht hs fun o v => ⟨v, o, rfl⟩
  refine rests_bind hi opened fun o w => ?_
  cases o with
  | some t => exact (Tidy.changeProcessor t index c).run.tidy [] nofun w
  | none => rfl

theorem rests_unload : ((unload b).run w).Rests [] [] L [] := by
  refine ⟨hi _ trivial, List.not_mem_nil, [], rfl, ?_⟩
  show Span.Rests [] [] L []
    ((if (w.driver b).registry.isEmpty = true then _ else _ : ExceptT Status Guarded Unit).run (w.note .entered))
  split
  · have emptied : (emptySlot b (w.note .entered)).Rests [] [] L [] :=
      rests_atSlot_brief ht hs fun _ v => ⟨v.after (setSlot b {}), (), rfl⟩
    exact rests_bind hi emptied fun _ _ => rfl
  · exact ⟨hi _ trivial, List.not_mem_nil, [], rfl, rfl⟩

theorem rests_attachTopology (firmware : ProcessorTable) (online : UInt32) :
    ((attachTopology b firmware online).run w).Rests [.slot b] [] L [] := by
  show Span.Rests [.slot b] [] L []
    ((if (w.driver b).mode = .safeBoot then _ else _ : ExceptT Status Guarded TopologyId).run w)
  split
  · rfl
  · exact rests_atSlot hi ht hs fun o => (Tidy.fillSlot b firmware online o).run.tidy

end

end Guarded

/-! ## All operations -/

/-- Operations, by what they answer. -/
inductive Operation : Type → Type 1 where
  /-- A look at one place or a change there that slots have no part in. -/
  | access {α : Type} (l : InnerLock) (a : Act α)
      (h : ∀ (w : World) b, ((w.after a).driver b).slot = (w.driver b).slot) : Operation α
  | changePower (d : DeviceId) (c : PowerChange) : Operation (Except Status Unit)
  | dispatch (b : DriverId) (d : DeviceId) (r : RequestId) : Operation Status
  | complete (r : RequestId) (s : Status) : Operation Unit
  | waitForCompletion (r : RequestId) : Operation Status
  | queryId (b : DriverId) (d : DeviceId) (t : IdType) : Operation (Except Status String)
  | createPhysical (b : DriverId) (identity : Identity) : Operation (Except Status DeviceId)
  | attachDevice (b : DriverId) (d : DeviceId) : Operation (Except Status (Option DeviceId))
  | addChild (b : DriverId) (f : DeviceId) (identity : Identity) : Operation (Except Status DeviceId)
  | drain (l : LockRef) : Operation Unit
  | changeProcessor (t : TopologyId) (index : UInt32) (c : ProcessorChange) : Operation (Except Status Unit)
  | registerExisting (t : TopologyId) (count : UInt32) : Operation (Except Status Unit)
  | job (j : Job) : Operation (Option Halt)
  | openSlot (b : DriverId) : Operation (Option TopologyId)
  | driverProcessorChange (b : DriverId) (index : UInt32) (c : ProcessorChange) : Operation (Except Status Unit)
  | unload (b : DriverId) : Operation (Except Status Unit)
  | attachTopology (b : DriverId) (firmware : ProcessorTable) (online : UInt32) :
      Operation (Except Status TopologyId)

namespace Operation

def call : Operation α → Call α
  | access _ a _ => a
  | changePower d c => (PnpBus.changePower d c).run
  | dispatch b d r => PnpBus.dispatch b d r
  | complete r s => PnpBus.complete r s
  | waitForCompletion r => PnpBus.waitForCompletion r
  | queryId b d t => (PnpBus.queryId b d t).run
  | createPhysical b identity => (PnpBus.createPhysical b identity).run
  | attachDevice b d => (PnpBus.attachDevice b d).run
  | addChild b f identity => (PnpBus.addChild b f identity).run
  | drain l => PnpBus.drain l
  | changeProcessor t index c => (PnpBus.changeProcessor t index c).run
  | registerExisting t count => (PnpBus.registerExisting t count).run
  | job j => j.run
  | openSlot b => PnpBus.openSlot b
  | driverProcessorChange b index c => (PnpBus.driverProcessorChange b index c).run
  | unload b => (PnpBus.unload b).run
  | attachTopology b firmware online => (PnpBus.attachTopology b firmware online).run

/-- The same, with its locks. -/
def guarded : Operation α → Guarded α
  | access l a _ => Tidy.under l a
  | changePower d c => (Tidy.changePower d c).run
  | dispatch b d r => Tidy.dispatch b d r
  | complete r s => Tidy.complete r s
  | waitForCompletion r => Tidy.waitForCompletion r
  | queryId b d t => (Tidy.queryId b d t).run
  | createPhysical b identity => (Tidy.createPhysical b identity).run
  | attachDevice b d => (Tidy.attachDevice b d).run
  | addChild b f identity => (Tidy.addChild b f identity).run
  | drain l => Tidy.drain l
  | changeProcessor t index c => (Tidy.changeProcessor t index c).run
  | registerExisting t count => (Tidy.registerFrom t 0 count.toNat).run
  | job j => Tidy.runJob j
  | openSlot b => Guarded.openSlot b
  | driverProcessorChange b index c => Guarded.driverProcessorChange b index c
  | unload b => Guarded.unload b
  | attachTopology b firmware online => Guarded.attachTopology b firmware online

/-- The driver whose slot the operation looks at. -/
def slot? : Operation α → Option DriverId
  | openSlot b | driverProcessorChange b _ _ | unload b | attachTopology b _ _ => some b
  | _ => none

/-- The driver whose slot the operation has in hand when it waits. -/
def kept? : Operation α → Option DriverId
  | attachTopology b _ _ => some b
  | _ => none

def kept (o : Operation α) : List SpinLock := o.kept?.toList.map .slot

theorem plain_guarded (o : Operation α) : o.guarded.plain = o.call := by
  cases o with
  | access l a h => exact Tidy.Is.under l a
  | changePower d c => exact Tidy.Is.changePower d c
  | dispatch b d r => exact Tidy.Is.dispatch b d r
  | complete r s => exact Tidy.Is.complete r s
  | waitForCompletion r => exact Tidy.Is.waitForCompletion r
  | queryId b d t => exact Tidy.Is.queryId b d t
  | createPhysical b identity => exact Tidy.Is.createPhysical b identity
  | attachDevice b d => exact Tidy.Is.attachDevice b d
  | addChild b f identity => exact Tidy.Is.addChild b f identity
  | drain l => exact Tidy.Is.drain l
  | changeProcessor t index c => exact Tidy.Is.changeProcessor t index c
  | registerExisting t count => exact Tidy.Is.registerFrom t _ _
  | job j => exact Tidy.Is.runJob j
  | openSlot b => exact Guarded.Is.openSlot b
  | driverProcessorChange b index c => exact Guarded.Is.driverProcessorChange b index c
  | unload b => exact Guarded.Is.unload b
  | attachTopology b firmware online => exact Guarded.Is.attachTopology b firmware online

def licence (o : Operation α) (w : World) : Licence where
  takes l := l.IsInner ∨ ∃ b, o.slot? = some b ∧ l = .slot b ∧ (w.driver b).slot.held = false
  stops := ∃ b, o.slot? = some b ∧ (w.driver b).slot.held = true

theorem rests (o : Operation α) (w : World) : (o.guarded w).Rests o.kept [] (o.licence w) [] := by
  have hi (l : SpinLock) (hl : l.IsInner) : (o.licence w).takes l := .inl hl
  have tidy {β : Type} (t : Tidy β) : (t.guarded w).Rests [] [] (o.licence w) [] := (t.tidy [] nofun w).mono hi
  have ht {b : DriverId} (hb : o.slot? = some b) (hh : (w.driver b).slot.held = false) :
    (o.licence w).takes (.slot b) := .inr ⟨b, hb, rfl, hh⟩
  have hs {b : DriverId} (hb : o.slot? = some b) (hh : (w.driver b).slot.held = true) : (o.licence w).stops :=
    ⟨b, hb, hh⟩
  cases o with
  | openSlot b => exact Guarded.rests_atSlot_brief (ht rfl) (hs rfl) fun o v => ⟨v, o, rfl⟩
  | driverProcessorChange b index c => exact Guarded.rests_driverProcessorChange hi (ht rfl) (hs rfl) index c
  | unload b => exact Guarded.rests_unload hi (ht rfl) (hs rfl)
  | attachTopology b firmware online => exact Guarded.rests_attachTopology hi (ht rfl) (hs rfl) firmware online
  | _ => exact tidy _

end Operation

end PnpBus
