import PnpBus.Dispatch

/-!
# What single acts make of a world

`w.after a` is the world that the act `a` leaves behind. The equations below
evaluate acts step by step; an act that can be refused has one equation for
each outcome.
-/

namespace PnpBus

variable {α β : Type}

namespace World

def after (w : World) (a : Act α) : World := (a w).2

def note (w : World) (n : Notice) : World := w.updateJournal fun j => { j with notices := j.notices ++ [n] }

def setLifecycle (w : World) (d : DeviceId) (m : Lifecycle) : World :=
  w.updateDevice d fun v => { v with lifecycle := m }

theorem lifecycle_of_ne (w : World) {d : DeviceId} (m : Lifecycle) {x : DeviceId} (hx : x ≠ d) :
    ((w.setLifecycle d m).device x).lifecycle = (w.device x).lifecycle := by
  rw [setLifecycle, device_updateDevice, if_neg fun e => hx e.1]

theorem state_setLifecycle {w : World} {d : DeviceId} (hd : d < w.devices.size) (m : Lifecycle) :
    ((w.setLifecycle d m).device d).state = m.current := by
  rw [setLifecycle, device_updateDevice, if_pos ⟨rfl, hd⟩]; rfl

def take (w : World) (d : DeviceId) (r : RequestId) : World :=
  (w.setLock (.device d) { (w.device d).lock with count := (w.device d).lock.count + 1 }).updateRequest r fun q =>
    { q with locks := d :: q.locks }

end World

/-! ## Sequences -/

namespace Act

theorem bind_apply (a : Act α) (f : α → Act β) (w : World) : (a >>= f) w = f (a w).1 (a w).2 := rfl

theorem get_apply (w : World) : (get : Act World) w = (w, w) := rfl

theorem notify_apply (n : Notice) (w : World) : notify n w = ((), w.note n) := rfl

theorem device_apply (d : DeviceId) (w : World) : device d w = (w.device d, w) := rfl

theorem driver_apply (b : DriverId) (w : World) : driver b w = (w.driver b, w) := rfl

theorem forM_cons (x : α) (xs : List α) (f : α → Act Unit) (w : World) :
    ((x :: xs).forM f : Act Unit) w = (xs.forM f : Act Unit) (w.after (f x)) := rfl

/-! Acts that can be refused. -/

theorem run_bind {ε : Type} (x : ExceptT ε Act α) (f : α → ExceptT ε Act β) (w : World) :
    (x >>= f).run w = match x.run w with
      | (.ok a, w') => (f a).run w'
      | (.error e, w') => (.error e, w') := by
  rw [ExceptT.run_bind, bind_apply]
  rcases x.run w with ⟨_ | _, _⟩ <;> rfl

theorem run_lift (a : Act α) (w : World) : (liftM a : ExceptT Status Act α).run w = (.ok (a w).1, (a w).2) := rfl

theorem run_get (w : World) : (get : ExceptT Status Act World).run w = (.ok w, w) := rfl

theorem run_throw (e : Status) (w : World) : (throw e : ExceptT Status Act α).run w = (.error e, w) := rfl

theorem run_tryCatch (x : ExceptT Status Act α) (f : Status → ExceptT Status Act α) (w : World) :
    (tryCatch x f).run w = match x.run w with
      | (.ok a, w') => (.ok a, w')
      | (.error e, w') => (f e).run w' := by
  rw [ExceptT.run_tryCatch, bind_apply]
  rcases x.run w with ⟨_ | _, _⟩ <;> rfl

end Act

/-! ## Locks and gates -/

namespace World

variable (w : World)

theorem after_releaseLock (l : LockRef) :
    w.after (releaseLock l) = match (w.lock l).release? with
      | some lock => w.setLock l lock
      | none => w.note .surplusRelease := by
  simp only [after, releaseLock, Act.bind_apply, Act.get_apply]
  cases (w.lock l).release? <;> rfl

theorem after_closeLock (l : LockRef) :
    w.after (closeLock l) =
      if (w.lock l).draining then w else (w.setLock l (w.lock l).close).after (releaseLock l) := by
  show ((if (w.lock l).draining = true then (pure () : Act Unit) else _) w).2 = _
  split <;> rfl

theorem after_redeemTicket (g : GateRef) :
    w.after (redeemTicket g) = match (w.gate g).redeem? with
      | some gate => w.setGate g gate
      | none => w.note .surplusTicket := by
  simp only [after, redeemTicket, Act.bind_apply, Act.get_apply]
  cases (w.gate g).redeem? <;> rfl

theorem after_relinquish (r : RequestId) :
    w.after (relinquish r) =
      ((w.updateRequest r fun q => { q with locks := [], tickets := [] }).after
        ((w.request r).tickets.forM redeemTicket)).after
        ((w.request r).locks.forM fun d => releaseLock (.device d)) := rfl

theorem after_complete (r : RequestId) (s : Status) :
    w.after (complete r s) =
      if (w.request r).completed then w
      else ((w.updateRequest r fun q => { q with completed := true, status := s }).after
        (relinquish r)).updateRequest r
        fun q => { q with signaled := true } := by
  show ((if (w.request r).completed = true then (pure () : Act Unit) else _) w).2 = _
  split <;> rfl

theorem after_leaveParent (d : DeviceId) :
    w.after (leaveParent d) = match (w.device d).parent? with
      | some p => w.updateDevice p fun v =>
          v.updateLayer fun layer => { layer with children := layer.children.filter (· ≠ d) }
      | none => w := by
  simp only [after, leaveParent, Act.bind_apply, Act.device_apply]
  cases (w.device d).parent? <;> rfl

end World

/-! ## Devices -/

section
variable {w : World} {d : DeviceId} {t : PnpState}

theorem acquireLock_open (h : (w.device d).lock.draining ≠ true) :
    (acquireLock (.device d)).run w =
      (.ok (), w.setLock (.device d) { (w.device d).lock with count := (w.device d).lock.count + 1 }) := by
  have ha : (w.lock (.device d)).acquire? = some { (w.device d).lock with count := (w.device d).lock.count + 1 } :=
    if_neg h
  simp only [acquireLock, Act.run_bind, Act.run_get, ha]
  rfl

theorem acquireLock_closed (h : (w.device d).lock.draining = true) :
    (acquireLock (.device d)).run w = (.error .deletePending, w) := by
  have ha : (w.lock (.device d)).acquire? = none := if_pos h
  simp only [acquireLock, Act.run_bind, Act.run_get, ha]
  rfl

theorem issueTicket_ok {g : GateRef} {gate : FilterGate} (h : (w.gate g).issue? = some gate) :
    issueTicket g w = (true, w.setGate g gate) := by
  simp only [issueTicket, Act.bind_apply, Act.get_apply, h]
  rfl

theorem issueTicket_none {g : GateRef} (h : (w.gate g).issue? = none) : issueTicket g w = (false, w) := by
  simp only [issueTicket, Act.bind_apply, Act.get_apply, h]
  rfl

theorem moveDevice_ok (h : (w.device d).state.canBecome t = true) :
    (moveDevice d t).run w = (.ok (), w.setLifecycle d ⟨t, (w.device d).state⟩) := by
  have hm : (w.device d).lifecycle.move t = .ok ⟨t, (w.device d).state⟩ := if_pos h
  simp only [moveDevice, Act.run_bind, Act.run_lift, Act.device_apply, hm]
  rfl

theorem moveDevice_error (h : ¬(w.device d).state.canBecome t = true) :
    (moveDevice d t).run w = (.error .invalidState, w.note (.illegalMove ⟨(w.device d).state, t⟩)) := by
  have hm : (w.device d).lifecycle.move t = .error ⟨(w.device d).state, t⟩ := if_neg h
  simp only [moveDevice, Act.run_bind, Act.run_lift, Act.device_apply, hm]
  rfl

theorem restoreDevice_ok (h : (w.device d).state.isRevocable = true) :
    (restoreDevice d).run w =
      (.ok (), w.setLifecycle d ⟨(w.device d).lifecycle.previous, (w.device d).lifecycle.previous⟩) := by
  have hm : (w.device d).lifecycle.restore =
      .ok ⟨(w.device d).lifecycle.previous, (w.device d).lifecycle.previous⟩ := if_pos h
  simp only [restoreDevice, Act.run_bind, Act.run_lift, Act.device_apply, hm]
  rfl

theorem restoreDevice_error (h : ¬(w.device d).state.isRevocable = true) :
    (restoreDevice d).run w =
      (.error .invalidState, w.note (.illegalMove ⟨(w.device d).state, (w.device d).lifecycle.previous⟩)) := by
  have hm : (w.device d).lifecycle.restore = .error ⟨(w.device d).state, (w.device d).lifecycle.previous⟩ :=
    if_neg h
  simp only [restoreDevice, Act.run_bind, Act.run_lift, Act.device_apply, hm]
  rfl

theorem changePower_ok (c : PowerChange) (h : (w.device d).state ≠ .deleted) :
    (changePower d c).run w = (.ok (), w.updateDevice d fun v => { v with power := v.power.apply c }) := by
  simp only [changePower, Act.run_bind, Act.run_lift, Act.device_apply, if_neg h]
  rfl

theorem changePower_error (c : PowerChange) (h : (w.device d).state = .deleted) :
    (changePower d c).run w = (.error .invalidState, w) := by
  simp only [changePower, Act.run_bind, Act.run_lift, Act.device_apply, if_pos h]
  rfl

theorem cancel_of_ne (h : (w.device d).state ≠ t) : (cancel d t).run w = (.ok (), w) := by
  simp only [cancel, Act.run_bind, Act.run_lift, Act.device_apply, if_neg h]
  rfl

theorem cancel_of_eq (h : (w.device d).state = t) : (cancel d t).run w = (restoreDevice d).run w := by
  simp only [cancel, Act.run_bind, Act.run_lift, Act.device_apply, if_pos h]

end

/-! ## Calls -/

namespace Call

theorem lift_apply (a : Act α) (w : World) : (liftM a : Call α) w = .done (w.after a) (a w).1 := rfl

theorem run_bind (x : ExceptT Status Call α) (f : α → ExceptT Status Call β) (w : World) :
    (x >>= f).run w = (x.run w).bind fun a w => match a with
      | .ok a => (f a).run w
      | .error e => .done w (.error e) := by
  rw [ExceptT.run_bind, Call.bind_apply]
  congr 1
  funext a w
  cases a <;> rfl

theorem run_lift (x : ExceptT Status Act α) (w : World) :
    (liftM x : ExceptT Status Call α).run w = .done (w.after x.run) (x.run w).1 := rfl

theorem run_act (a : Act α) (w : World) :
    (liftM a : ExceptT Status Call α).run w = .done (w.after a) (.ok (a w).1) := rfl

theorem run_call (c : Call α) (w : World) :
    (liftM c : ExceptT Status Call α).run w = (c w).bind fun a w => .done w (.ok a) := rfl

theorem run_tryCatch (x : ExceptT Status Call α) (f : Status → ExceptT Status Call α) (w : World) :
    (tryCatch x f).run w = (x.run w).bind fun a w => match a with
      | .ok a => .done w (.ok a)
      | .error e => (f e).run w := by
  rw [ExceptT.run_tryCatch, Call.bind_apply]
  congr 1
  funext a w
  cases a <;> rfl

end Call

theorem drain_apply (l : LockRef) (w : World) :
    drain l w = if ((w.after (closeLock l)).lock l).latch then .done (w.after (closeLock l)) ()
      else .wait (w.after (closeLock l)) (.drained l) fun w' => .done w' () := rfl

/-! ## Entering a device -/

theorem Device.route_eq_refuse (v : Device) : v.route = .refuse ↔ v.state = .deleted := by
  unfold Device.route Route.of
  cases v.state <;> cases v.role <;> simp

section
variable {w : World} {d : DeviceId} (r : RequestId) (k : Kind)

theorem enter_gone (h : (w.device d).state = .deleted) :
    (enter d r k).run w = (.error .noSuchDevice, w.note (.sentToDeleted k (w.device d).identity.deviceId)) := by
  simp only [enter, Act.run_bind, Act.run_lift, Act.device_apply, if_pos ((Device.route_eq_refuse _).mpr h)]
  rfl

theorem enter_closed (h : (w.device d).state ≠ .deleted) (hd : (w.device d).lock.draining = true) :
    (enter d r k).run w = (.error .noSuchDevice, w) := by
  simp only [enter, Act.run_bind, Act.run_lift, Act.device_apply, if_neg (mt (Device.route_eq_refuse _).mp h),
    Act.run_tryCatch, acquireLock_closed hd]
  rfl

theorem enter_open (h : (w.device d).state ≠ .deleted) (hd : (w.device d).lock.draining ≠ true) :
    (enter d r k).run w = (.ok (), w.take d r) := by
  simp only [enter, Act.run_bind, Act.run_lift, Act.device_apply, if_neg (mt (Device.route_eq_refuse _).mp h),
    Act.run_tryCatch, acquireLock_open hd]
  rfl

variable {r k} {handler : Call Status}

theorem admitted_ok {w' : World} (h : (enter d r k).run w = (.ok (), w')) :
    admitted d r k handler w = .via w' (handler w') := by
  simp only [admitted, Call.bind_apply, Call.lift_apply, World.after]
  rw [h]
  rfl

theorem admitted_error {w' : World} {e : Status} (h : (enter d r k).run w = (.error e, w')) :
    admitted d r k handler w = .done w' e := by
  simp only [admitted, Call.bind_apply, Call.lift_apply, World.after]
  rw [h]
  rfl

end

/-! ## Handlers -/

section
variable (b : DriverId) (d : DeviceId) (r : RequestId) (w : World) (below : Call Status)

theorem physical_pnp (m : Minor) :
    physical b d r (.pnp m) w =
      ((physicalMinor b d r m).run (w.note (.physicalAsked (w.device d).identity.deviceId m))).bind fun a w' =>
        match a with
        | .ok _ => .done w' .success
        | .error e => .done (w'.note (.physicalRefused (w.device d).identity.deviceId m e)) e := by
  simp only [physical, Call.bind_apply, Call.lift_apply, Run.bind]
  congr 1
  funext a w'
  cases a <;> rfl

theorem physical_power (c : PowerChange) :
    physical b d r (.power c) w = .done (w.after (changePower d c).run)
    (.ofResult ((changePower d c).run w).1) := rfl

theorem forwardOrRollBack_apply :
    forwardOrRollBack d below w = (below w).bind fun s w' =>
      if s.isSuccess then .done w' s
      else .done ((w'.note (.lowerRefused (w'.device d).identity.deviceId s (w'.device d).state)).after
        (restoreDevice d).run) s := by
  simp only [forwardOrRollBack, Call.bind_apply]
  congr 1
  funext s w'
  by_cases h : s.isSuccess = true
  · simp only [if_pos h]; rfl
  · simp only [if_neg h]; rfl

theorem moveThen_ok {t : PnpState} (next : Call Status) (h : (w.device d).state.canBecome t = true) :
    moveThen d t next w = next (w.setLifecycle d ⟨t, (w.device d).state⟩) := by
  simp only [moveThen, Call.bind_apply, Call.lift_apply, World.after, moveDevice_ok h]
  rfl

theorem moveThen_error {t : PnpState} (next : Call Status) (h : ¬(w.device d).state.canBecome t = true) :
    moveThen d t next w = .done (w.note (.illegalMove ⟨(w.device d).state, t⟩)) .invalidState := by
  simp only [moveThen, Call.bind_apply, Call.lift_apply, World.after, moveDevice_error h]
  rfl

theorem forwardThenCancel_apply (t : PnpState) :
    forwardThenCancel d t below w = (below w).bind fun s w' =>
      .done (w'.after (cancel d t).run) (match ((cancel d t).run w').1 with | .ok _ => s | .error e => e) := by
  simp only [forwardThenCancel, Call.bind_apply]
  congr 1
  funext s w'
  simp only [Call.bind_apply, Call.lift_apply]
  rcases h : (cancel d t).run w' with ⟨_ | _, _⟩ <;> simp only [World.after, Run.bind, h] <;> rfl

theorem functional_pnp (m : Minor) :
    functional b d r below (.pnp m) w =
      functionalMinor b d r below m (w.note (.functionalAsked (w.device d).identity.deviceId m)) := rfl

theorem functional_power (c : PowerChange) :
    functional b d r below (.power c) w = match ((changePower d c).run w).1 with
      | .ok _ => below (w.after (changePower d c).run)
      | .error e => .done (w.after (changePower d c).run) e := by
  simp only [functional, Call.bind_apply, Call.lift_apply]
  rcases h : (changePower d c).run w with ⟨_ | _, _⟩
  · simp only [World.after, Run.bind, h]; rfl
  · simp only [World.after, Run.bind, h]

theorem functionalMinor_startDevice :
    functionalMinor b d r below .startDevice w =
      moveThen d .startPending (fun w => (forwardOrRollBack d below w).bind fun s w' =>
        if s = .success then
          .done (w'.after (moveDevice d .started).run) (.ofResult ((moveDevice d .started).run w').1)
        else .done w' s) w := by
  simp only [functionalMinor]
  congr 1
  funext w
  simp only [Call.bind_apply]
  congr 1
  funext s w'
  by_cases h : s = .success
  · simp only [if_pos h]; rfl
  · simp only [if_neg h]; rfl

end
end PnpBus
