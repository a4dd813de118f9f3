import PnpBus.Proofs.SpinLocks

/-!
# Critical sections of a dispatch

What the operations on devices and requests do under which lock. Each section
is a single access, or a few that nobody else may see halfway, and none of
them waits. Without the locks they are the operations that run.
-/

namespace PnpBus

namespace Tidy

variable {b : DriverId} {d : DeviceId} {r : RequestId} {below : Tidy Status}

/-! ## Devices -/

def stateOf (d : DeviceId) : Tidy Device := under (.pnp d) (device d)

def moveDevice (d : DeviceId) (target : PnpState) : ExceptT Status Tidy Unit :=
  underE (.pnp d) (PnpBus.moveDevice d target)

def restoreDevice (d : DeviceId) : ExceptT Status Tidy Unit := underE (.pnp d) (PnpBus.restoreDevice d)

def setPower (d : DeviceId) (c : PowerChange) : Act Unit :=
  modify (·.updateDevice d fun v => { v with power := v.power.apply c })

def changePower (d : DeviceId) (c : PowerChange) : ExceptT Status Tidy Unit := ExceptT.mk {
  guarded := .locked (.inner (.pnp d)) fun w =>
    if (w.device d).state = .deleted then .done w (.error .invalidState)
    else (Guarded.locked (.inner (.power d)) (.ofAct (setPower d c)) w).bind fun _ w => .done w (.ok ())
  tidy := by
    intro base hb w
    have hn (l : InnerLock) : .inner l ∉ base := fun hl => hb _ hl trivial
    refine ⟨trivial, hn _, ?_⟩
    dsimp only
    split
    · exact ⟨base, rfl, rfl⟩
    · refine ⟨trivial, fun hl => ?_, .inner (.pnp d) :: base, rfl, base, rfl, rfl⟩
      rcases List.mem_cons.mp hl with he | hl
      · cases he
      · exact hn _ hl }

def register (b : DriverId) (identity : Identity) (extension : Extension) : ExceptT Status Tidy DeviceId :=
  underE (.registry b) (PnpBus.register b identity extension)

def unregister (b : DriverId) (d : DeviceId) : ExceptT Status Tidy Unit := do
  let v ← device d
  unless v.lock.isDrained do
    notify (.unregisterHeld v.identity.deviceId)
    throw .busy
  underE (.registry b) do
    if (← driver b).registry.findRole? v.identity v.role = some d then
      modify (·.updateDriver b fun v' => { v' with registry := v'.registry.erase v.key })
    else throw .notFound

namespace Is

theorem changePower (d : DeviceId) (c : PowerChange) :
    (Tidy.changePower d c).run.Is (liftM (PnpBus.changePower d c).run) := by
  refine .locked _ ?_
  funext w
  show Span.plain (if _ then _ else _) =
    Run.done ((PnpBus.changePower d c).run w).2 ((PnpBus.changePower d c).run w).1
  by_cases hd : (w.device d).state = .deleted
  · rw [if_pos hd, changePower_error c hd]
    rfl
  · rw [if_neg hd, changePower_ok c hd]
    rfl

theorem unregister (b : DriverId) (d : DeviceId) :
    (Tidy.unregister b d).run.Is (liftM (PnpBus.unregister b d).run) := by
  refine act_do (device d) fun v => ?_
  split
  · exact underE _ _
  · exact act_do (notify _) fun _ => act_error _

end Is

/-! ## Removal -/

def enterRemoval (d : DeviceId) : ExceptT Status Tidy Unit := do
  match (← stateOf d).state with
  | .removePending | .surpriseRemovePending => pure ()
  | _ => moveDevice d .removePending

def leaveParent (d : DeviceId) : Tidy Unit := do
  match (← device d).parent? with
  | some p =>
    under (.children p) (modify (·.updateDevice p fun v =>
      v.updateLayer fun layer => { layer with children := layer.children.filter (· ≠ d) }))
  | none => pure ()

def finishRemoval (b : DriverId) (d : DeviceId) : ExceptT Status Tidy Unit := do
  if (← stateOf d).state = .removePending then moveDevice d .removed
  moveDevice d .deleted
  leaveParent d
  let v ← device d
  try unregister b d
  catch e =>
    notify (.notUnregistered v.identity.deviceId e)
    throw e
  notify (.recordDeleted v.role v.identity.deviceId)

def drain (l : LockRef) : Tidy Unit := do
  closeLock l
  await (.drained l)

def drainAndDelete (b : DriverId) (d : DeviceId) : ExceptT Status Tidy Unit := do
  drain (.device d)
  finishRemoval b d

def abandonQuery (d : DeviceId) : ExceptT Status Tidy Unit := do
  let v ← stateOf d
  match v.state with
  | .startPending | .stopPending =>
    notify (.queryAbandoned v.identity.deviceId v.state)
    restoreDevice d
  | _ => pure ()

def tearDown (b : DriverId) (d : DeviceId) : ExceptT Status Tidy Unit := do
  abandonQuery d
  enterRemoval d
  drainAndDelete b d

def tearDownChild (b : DriverId) (d : DeviceId) : Tidy Unit := do
  match ← (tearDown b d).run with
  | .ok () => pure ()
  | .error e => notify (.childNotTornDown (← device d).identity.deviceId e)
  letGo d

def takeChildren (d : DeviceId) : Tidy (List DeviceId) := under (.children d) (PnpBus.takeChildren d)

namespace Is

theorem enterRemoval (d : DeviceId) : (Tidy.enterRemoval d).run.Is (liftM (PnpBus.enterRemoval d).run) := by
  refine act_look _ (device d) fun v => ?_
  cases v.state with
  | removePending | surpriseRemovePending => exact act_ok _
  | _ => exact underE _ _

theorem leaveParent (d : DeviceId) : (Tidy.leaveParent d).Is (liftM (PnpBus.leaveParent d)) := by
  refine act_bind (act (device d)) fun v => ?_
  cases v.parent? with
  | some p => exact under _ _
  | none => exact act (Pure.pure ())

theorem finishRemoval (b : DriverId) (d : DeviceId) :
    (Tidy.finishRemoval b d).run.Is (liftM (PnpBus.finishRemoval b d).run) := by
  have report (v : Device) := act_run_tryCatch (unregister b d) fun e =>
    act_do (notify (.notUnregistered v.identity.deviceId e)) fun _ => act_error e
  have delete := act_run_bind (underE (.pnp d) (PnpBus.moveDevice d .deleted)) fun _ =>
    act_run_bind (act_lift (leaveParent d)) fun _ => act_do (device d) fun v =>
      act_run_bind (report v) fun _ => act_lift (act (notify (.recordDeleted v.role v.identity.deviceId)))
  refine act_look _ (device d) fun v => ?_
  split
  · exact act_run_bind (underE _ _) fun _ => delete
  · exact delete

theorem drain (l : LockRef) : (Tidy.drain l).Is (PnpBus.drain l) := bind (act (closeLock l)) fun _ => await _

theorem drainAndDelete (b : DriverId) (d : DeviceId) :
    (Tidy.drainAndDelete b d).run.Is (PnpBus.drainAndDelete b d).run :=
  run_bind (lift (drain _)) fun _ => finishRemoval b d

theorem abandonQuery (d : DeviceId) : (Tidy.abandonQuery d).run.Is (liftM (PnpBus.abandonQuery d).run) := by
  refine act_look _ (device d) fun v => ?_
  cases v.state with
  | startPending | stopPending => exact act_do (notify _) fun _ => underE _ _
  | _ => exact act_ok _

theorem tearDownChild (b : DriverId) (d : DeviceId) : (Tidy.tearDownChild b d).Is (PnpBus.tearDownChild b d) := by
  have tear : (Tidy.tearDown b d).run.Is (PnpBus.tearDown b d).run :=
    run_bind (abandonQuery d) fun _ => run_bind (enterRemoval d) fun _ => drainAndDelete b d
  refine bind tear fun outcome => ?_
  cases outcome with
  | ok _ => exact act (letGo d)
  | error e => exact bind (act (device d)) fun v => bind (act (notify _)) fun _ => act (letGo d)

end Is

/-! ## Requests -/

def glance (l : InnerLock) : Tidy Unit := under l (pure ())

def inform (r : RequestId) (information : Information) : Tidy Unit :=
  under (.request r) (PnpBus.inform r information)

def holdLock (r : RequestId) (d : DeviceId) : Tidy Unit := under (.request r) (PnpBus.holdLock r d)

def holdTicket (r : RequestId) (g : GateRef) : Tidy Unit := under (.request r) (PnpBus.holdTicket r g)

def giveBack (r : RequestId) (d : DeviceId) : Tidy Unit := under (.request r) (PnpBus.giveBack r d)

def settleHeld (r : RequestId) (s : Status) : Act (Option Request) := do
  if (← request r).completed then return none
  modify (·.updateRequest r fun q => { q with completed := true, status := s })
  let q ← request r
  modify (·.updateRequest r fun q => { q with locks := [], tickets := [] })
  return some q

def complete (r : RequestId) (s : Status) : Tidy Unit := do
  match ← under (.request r) (settleHeld r s) with
  | none => pure ()
  | some q =>
    q.tickets.forM fun g => redeemTicket g
    q.locks.forM fun d => releaseLock (.device d)
    modify (·.updateRequest r fun q => { q with signaled := true })

def waitForCompletion (r : RequestId) : Tidy Status := do
  glance (.request r)
  await (.completed r)
  return (← under (.request r) (request r)).status

def settle (r : RequestId) (s : Status) : Tidy Status := do
  unless s = .pending do complete r s
  return s

theorem complete_eq (r : RequestId) (s : Status) : PnpBus.complete r s = (do
    match ← settleHeld r s with
    | none => pure ()
    | some q =>
      q.tickets.forM redeemTicket
      q.locks.forM fun d => releaseLock (.device d)
      modify (·.updateRequest r fun q => { q with signaled := true }) : Act Unit) := by
  funext w
  have hr : request r w = (w.request r, w) := rfl
  simp only [PnpBus.complete, settleHeld, Act.bind_apply, hr]
  by_cases hc : (w.request r).completed = true
  · simp only [if_pos hc]
    rfl
  · simp only [if_neg hc]
    rfl

namespace Is

theorem glance {t : Tidy α} {c : Call α} (l : InnerLock) (ht : t.Is c) : (do Tidy.glance l; t).Is c :=
  bind (c := Pure.pure ()) (under l (Pure.pure ())) fun _ => ht

theorem complete (r : RequestId) (s : Status) : (Tidy.complete r s).Is (liftM (PnpBus.complete r s)) := by
  rw [complete_eq]
  refine act_bind (under _ _) fun o => ?_
  cases o with
  | none => exact act (Pure.pure ())
  | some q =>
    refine act_bind (act_forM (fun g => act (redeemTicket g)) _) fun _ => ?_
    exact act_bind (act_forM (fun d => act (releaseLock (.device d))) _) fun _ => act (modify _)

theorem waitForCompletion (r : RequestId) : (Tidy.waitForCompletion r).Is (PnpBus.waitForCompletion r) :=
  glance _ (bind (await _) fun _ => bind (under _ (request r)) fun _ => pure _)

theorem settle (r : RequestId) (s : Status) : (Tidy.settle r s).Is (liftM (PnpBus.settle r s)) := by
  unfold Tidy.settle PnpBus.settle
  split
  · exact act (Pure.pure s)
  · exact act_bind (complete r s) fun _ => act (Pure.pure s)

end Is

/-! ## Routing -/

def enter (d : DeviceId) (r : RequestId) (k : Kind) : ExceptT Status Tidy Unit := do
  let v ← stateOf d
  if v.route = .refuse then
    notify (.sentToDeleted k v.identity.deviceId)
    throw .noSuchDevice
  try acquireLock (.device d) catch _ => throw .noSuchDevice
  holdLock r d

def admitted (d : DeviceId) (r : RequestId) (k : Kind) (handler : Tidy Status) : Tidy Status := do
  glance (.request r)
  match ← (enter d r k).run with
  | .ok () =>
    checkpoint
    glance (.request r)
    handler
  | .error e => return e

def cancel (d : DeviceId) (queried : PnpState) : ExceptT Status Tidy Unit := do
  if (← stateOf d).state = queried then restoreDevice d

namespace Is

theorem enter (d : DeviceId) (r : RequestId) (k : Kind) :
    (Tidy.enter d r k).run.Is (liftM (PnpBus.enter d r k).run) := by
  have hold :=
    act_run_bind (act_run_tryCatch (act_access (acquireLock (.device d))) fun _ => act_error .noSuchDevice)
    fun _ => act_lift (under (.request r) (PnpBus.holdLock r d))
  refine act_look _ (device d) fun v => ?_
  split
  · exact act_do (notify _) fun _ => act_error _
  · exact hold

theorem admitted {k : Kind} {handler : Tidy Status} {c : Call Status} (h : handler.Is c) :
    (Tidy.admitted d r k handler).Is (PnpBus.admitted d r k c) := by
  refine glance _ (bind (enter d r k) fun entered => ?_)
  cases entered with
  | ok _ => exact bind checkpoint fun _ => glance _ h
  | error e => exact pure e

theorem cancel (d : DeviceId) (t : PnpState) : (Tidy.cancel d t).run.Is (liftM (PnpBus.cancel d t).run) := by
  refine act_look _ (device d) fun v => ?_
  split
  · exact underE _ _
  · exact act_ok _

end Is

/-! ## Physical devices -/

def physicalMinor (b : DriverId) (d : DeviceId) (r : RequestId) : Minor → ExceptT Status Tidy Unit
  | .startDevice => do
    moveDevice d .startPending
    moveDevice d .started
  | .queryStopDevice => moveDevice d .stopPending
  | .cancelStopDevice => cancel d .stopPending
  | .stopDevice => moveDevice d .stopped
  | .queryRemoveDevice => moveDevice d .removePending
  | .cancelRemoveDevice => cancel d .removePending
  | .surpriseRemoval => moveDevice d .surpriseRemovePending
  | .removeDevice => do
    giveBack r d
    enterRemoval d
    drainAndDelete b d
  | .queryId t => do inform r (answerId (← device d).identity t)
  | .queryRelations .target => inform r (.relations [d])
  | .queryRelations t => throw (Minor.queryRelations t).unhandled

def physical (b : DriverId) (d : DeviceId) (r : RequestId) : Kind → Tidy Status
  | .pnp m => do
    let deviceId := (← device d).identity.deviceId
    notify (.physicalAsked deviceId m)
    let outcome ← (physicalMinor b d r m).run
    match outcome with
    | .ok () => pure ()
    | .error e => notify (.physicalRefused deviceId m e)
    return .ofResult outcome
  | .power c => return .ofResult (← (changePower d c).run)
  | _ => return .notSupported

namespace Is

theorem physicalMinor (b : DriverId) (d : DeviceId) (r : RequestId) (m : Minor) :
    (Tidy.physicalMinor b d r m).run.Is (PnpBus.physicalMinor b d r m).run := by
  cases m with
  | startDevice => exact run_bind (underE _ _) fun _ => underE _ _
  | cancelStopDevice | cancelRemoveDevice => exact cancel d _
  | removeDevice =>
    refine run_bind (lift (under _ (PnpBus.giveBack r d))) fun _ => ?_
    exact run_bind (enterRemoval d) fun _ => drainAndDelete b d
  | queryId t => exact run_bind (lift_act (device d)) fun v => lift (under _ _)
  | queryRelations t =>
    cases t with
    | target => exact lift (under _ _)
    | _ => exact error _
  | _ => exact underE _ _

theorem physical (b : DriverId) (d : DeviceId) (r : RequestId) (k : Kind) :
    (Tidy.physical b d r k).Is (PnpBus.physical b d r k) := by
  cases k with
  | pnp m =>
    refine bind (act (device d)) fun v => bind (act (notify _)) fun _ =>
      bind (physicalMinor b d r m) fun outcome => ?_
    cases outcome with
    | ok _ => exact pure _
    | error e => exact bind (act (notify _)) fun _ => pure _
  | power c => exact bind (changePower d c) fun _ => pure _
  | _ => exact pure _

end Is

/-! ## Functional devices -/

def forwardOrRollBack (d : DeviceId) (below : Tidy Status) : Tidy Status := do
  let status ← below
  unless status.isSuccess do
    let v ← stateOf d
    notify (.lowerRefused v.identity.deviceId status v.state)
    let _ ← (restoreDevice d).run
  return status

def moveThen (d : DeviceId) (target : PnpState) (next : Tidy Status) : Tidy Status := do
  match ← (moveDevice d target).run with
  | .ok () => next
  | .error e => return e

def forwardThenCancel (d : DeviceId) (queried : PnpState) (below : Tidy Status) : Tidy Status := do
  let status ← below
  match ← (cancel d queried).run with
  | .ok () => return status
  | .error e => return e

def removeFunctional (b : DriverId) (d : DeviceId) (r : RequestId) (below : Tidy Status) : Tidy Status := do
  match ← (enterRemoval d).run with
  | .error e => return e
  | .ok () =>
    (← takeChildren d).forM (tearDownChild b)
    giveBack r d
    drain (.device d)
    let status ← below
    unless status.isSuccess do notify (.lowerRefusedRemoval status)
    match ← (finishRemoval b d).run with
    | .error e => return e
    | .ok () =>
      notify (.functionalRemoved (← device d).identity.deviceId)
      return .success

def childrenOf (d : DeviceId) : Tidy (List DeviceId) := do
  let v ← device d
  if v.layer?.any (·.active) then return (← under (.children d) (device d)).children else return []

def functionalMinor (b : DriverId) (d : DeviceId) (r : RequestId) (below : Tidy Status) : Minor → Tidy Status
  | .startDevice => moveThen d .startPending do
    let status ← forwardOrRollBack d below
    if status = .success then return .ofResult (← (moveDevice d .started).run) else return status
  | .queryStopDevice => moveThen d .stopPending (forwardOrRollBack d below)
  | .cancelStopDevice => forwardThenCancel d .stopPending below
  | .stopDevice => moveThen d .stopped below
  | .queryRemoveDevice => moveThen d .removePending (forwardOrRollBack d below)
  | .cancelRemoveDevice => forwardThenCancel d .removePending below
  | .surpriseRemoval => moveThen d .surpriseRemovePending below
  | .removeDevice => removeFunctional b d r below
  | .queryRelations .bus => do
    let children ← childrenOf d
    notify (.childrenListed children.length)
    inform r (.relations children)
    return .success
  | _ => below

def divert (i : Interceptor) (d : DeviceId) (r : RequestId) (below : Tidy Status) : Tidy Status := do
  noteDiverted d
  match i.bytes with
  | some n => inform r (.bytes n)
  | none => pure ()
  match i.diversion with
  | .park => return .pending
  | .answer s => return s
  | .complete s returned => do
    complete r s
    return returned
  | .forward => do settle r (← below)

def transfer (b : DriverId) (d : DeviceId) (r : RequestId) (below : Tidy Status) : Tidy Status := do
  match (← driver b).interceptor with
  | none => below
  | some i =>
    if ← issueTicket (.device d) then
      holdTicket r (.device d)
      divert i d r below
    else below

def functional (b : DriverId) (d : DeviceId) (r : RequestId) (below : Tidy Status) : Kind → Tidy Status
  | .pnp m => do
    notify (.functionalAsked (← device d).identity.deviceId m)
    functionalMinor b d r below m
  | .power c => do
    match ← (changePower d c).run with
    | .ok () => below
    | .error e => return e
  | _ => transfer b d r below

namespace Is

variable {c : Call Status}

theorem moveThen (t : PnpState) (h : below.Is c) : (Tidy.moveThen d t below).Is (PnpBus.moveThen d t c) := by
  refine bind (underE _ _) fun outcome => ?_
  cases outcome with
  | ok _ => exact h
  | error e => exact pure e

theorem forwardOrRollBack (h : below.Is c) :
    (Tidy.forwardOrRollBack d below).Is (PnpBus.forwardOrRollBack d c) := by
  refine bind h fun status => ?_
  split
  · exact pure _
  · refine bind (under _ (device d)) fun v => bind (act (notify _)) fun _ => ?_
    exact bind (underE _ _) fun _ => pure _

theorem forwardThenCancel (t : PnpState) (h : below.Is c) :
    (Tidy.forwardThenCancel d t below).Is (PnpBus.forwardThenCancel d t c) := by
  refine bind h fun status => bind (cancel d t) fun outcome => ?_
  cases outcome <;> exact pure _

theorem removeFunctional (b : DriverId) (r : RequestId) (h : below.Is c) :
    (Tidy.removeFunctional b d r below).Is (PnpBus.removeFunctional b d r c) := by
  refine bind (enterRemoval d) fun entered => ?_
  cases entered with
  | error e => exact pure e
  | ok _ =>
    have finish : (do
        match ← (Tidy.finishRemoval b d).run with
        | .error e => return e
        | .ok () =>
          notify (.functionalRemoved (← device d).identity.deviceId)
          return .success : Tidy Status).Is (do
        match ← (PnpBus.finishRemoval b d).run with
        | .error e => return e
        | .ok () =>
          notify (.functionalRemoved (← device d).identity.deviceId)
          return .success) := by
      refine bind (finishRemoval b d) fun outcome => ?_
      cases outcome with
      | error e => exact pure e
      | ok _ => exact bind (act (device d)) fun v => bind (act (notify _)) fun _ => pure _
    refine bind (under _ _) fun children => bind (forM (tearDownChild b) children) fun _ => ?_
    refine bind (under _ _) fun _ => bind (drain _) fun _ => bind h fun status => ?_
    split
    · exact finish
    · exact bind (act (notify _)) fun _ => finish

theorem childrenOf (d : DeviceId) : (Tidy.childrenOf d).Is (liftM (do
    let v ← device d
    return if v.layer?.any (·.active) then v.children else [] : Act (List DeviceId))) := by
  funext w
  show Span.plain ((if (w.device d).layer?.any (·.active) = true then _ else _ : Tidy (List DeviceId)).guarded w) =
    Run.done w (if (w.device d).layer?.any (·.active) = true then (w.device d).children else [])
  split <;> rfl

theorem functionalMinor (b : DriverId) (r : RequestId) (h : below.Is c) (m : Minor) :
    (Tidy.functionalMinor b d r below m).Is (PnpBus.functionalMinor b d r c m) := by
  cases m with
  | startDevice =>
    refine moveThen _ (bind (forwardOrRollBack h) fun status => ?_)
    split
    · exact bind (underE _ _) fun _ => pure _
    · exact pure _
  | queryStopDevice | queryRemoveDevice => exact moveThen _ (forwardOrRollBack h)
  | cancelStopDevice | cancelRemoveDevice => exact forwardThenCancel _ h
  | stopDevice | surpriseRemoval => exact moveThen _ h
  | removeDevice => exact removeFunctional b r h
  | queryId t => exact h
  | queryRelations t =>
    cases t with
    | bus =>
      exact bind (childrenOf d) fun children => bind (act (notify _)) fun _ => bind (under _ _) fun _ => pure _
    | _ => exact h

theorem divert (i : Interceptor) (h : below.Is c) : (Tidy.divert i d r below).Is (PnpBus.divert i d r c) := by
  have answer : (match i.diversion with
    | .park => return .pending
    | .answer s => return s
    | .complete s returned => do
      Tidy.complete r s
      return returned
    | .forward => do Tidy.settle r (← below) : Tidy Status).Is (match i.diversion with
    | .park => return .pending
    | .answer s => return s
    | .complete s returned => do
      PnpBus.complete r s
      return returned
    | .forward => do PnpBus.settle r (← c)) := by
    cases i.diversion with
    | park | answer => exact pure _
    | complete s returned => exact bind (complete r s) fun _ => pure _
    | forward => exact bind h fun s => settle r s
  refine bind (act (noteDiverted d)) fun _ => ?_
  cases i.bytes with
  | some n => exact bind (under _ _) fun _ => answer
  | none => exact answer

theorem transfer (b : DriverId) (r : RequestId) (h : below.Is c) :
    (Tidy.transfer b d r below).Is (PnpBus.transfer b d r c) := by
  refine bind (act (driver b)) fun v => ?_
  cases v.interceptor with
  | none => exact h
  | some i =>
    refine bind (act (issueTicket (.device d))) fun issued => ?_
    split
    · exact bind (under _ _) fun _ => divert i h
    · exact h

theorem functional (b : DriverId) (r : RequestId) (h : below.Is c) (k : Kind) :
    (Tidy.functional b d r below k).Is (PnpBus.functional b d r c k) := by
  cases k with
  | pnp m => exact bind (act (device d)) fun v => bind (act (notify _)) fun _ => functionalMinor b r h m
  | power p =>
    refine bind (changePower d p) fun outcome => ?_
    cases outcome with
    | ok _ => exact h
    | error e => exact pure e
  | _ => exact transfer b r h

end Is

/-! ## The whole stack -/

def deliver (b : DriverId) (r : RequestId) (k : Kind) : Stack → Tidy Status
  | .physical d => admitted d r k (physical b d r k)
  | .functional d lower => admitted d r k (functional b d r (deliver b r k lower) k)

def dispatch (b : DriverId) (d : DeviceId) (r : RequestId) : Tidy Status := do
  let status ← deliver b r (← request r).kind ((← get).stack d)
  settle r status

namespace Is

theorem deliver (b : DriverId) (r : RequestId) (k : Kind) :
    ∀ s : Stack, (Tidy.deliver b r k s).Is (PnpBus.deliver b r k s)
  | .physical d => admitted (physical b d r k)
  | .functional _ lower => admitted (functional b r (deliver b r k lower) k)

theorem dispatch (b : DriverId) (d : DeviceId) (r : RequestId) :
    (Tidy.dispatch b d r).Is (PnpBus.dispatch b d r) := by
  refine bind (act (request r)) fun q => bind (act get) fun w => ?_
  exact bind (deliver b r q.kind (w.stack d)) fun status => settle r status

end Is

end Tidy

end PnpBus
