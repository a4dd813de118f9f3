import PnpBus.Proofs.Deliveries
import PnpBus.Proofs.Mirrors

/-!
# A request stays with the devices that it passes

Every act of a dispatch looks at one of the devices that the request passes or
at the request itself, and changes nothing else but the list that names such a
device as a child. So the whole dispatch is mirrored wherever these devices
are alike, waits included.
-/

namespace PnpBus

open World (Twins)

variable {b : DriverId} {ds : List DeviceId} {r : RequestId} {d : DeviceId} {v₀ w₀ : World} {below : Call Status}

/-! ## Single acts -/

theorem notify_mirrors (n : Notice) : (notify n).Mirrors (Twins b ds r v₀ w₀) := fun _ _ h => ⟨rfl, h.note n n⟩

theorem letGo_mirrors (d : DeviceId) : (letGo d).Mirrors (Twins b ds r v₀ w₀) := fun _ _ h =>
  ⟨rfl, h.of_eq rfl rfl rfl rfl rfl rfl⟩

theorem request_mirrors : (request r).Mirrors (Twins b ds r v₀ w₀) := fun _ _ h => ⟨h.alike.request, h⟩

theorem updateRequest_mirrors {f : Request → Request}
    (hl : ∀ q, (∀ x ∈ q.locks, x ∈ ds) → ∀ x ∈ (f q).locks, x ∈ ds)
    (ht : ∀ q, (∀ g ∈ q.tickets, ∃ x ∈ ds, g = GateRef.device x) → ∀ g ∈ (f q).tickets, ∃ x ∈ ds, g = .device x) :
    (modify (·.updateRequest r f) : Act Unit).Mirrors (Twins b ds r v₀ w₀) := fun _ _ h =>
  ⟨rfl, h.updateRequest (hl _ h.alike.locks) (ht _ h.alike.tickets)⟩

theorem inform_mirrors (information : Information) : (inform r information).Mirrors (Twins b ds r v₀ w₀) :=
  updateRequest_mirrors (fun _ => id) fun _ => id

section
variable (hd : d ∈ ds)
include hd

theorem device_mirrors : (device d).Mirrors (Twins b ds r v₀ w₀) := fun _ _ h => ⟨h.alike.device d hd, h⟩

theorem setLock_mirrors {v w : World} (h : Twins b ds r v₀ w₀ v w) (lock : RemoveLock) :
    Twins b ds r v₀ w₀ (v.setLock (.device d) lock) (w.setLock (.device d) lock) :=
  h.updateDevice hd (.refl _) id

theorem lock_mirrors {v w : World} (h : Twins b ds r v₀ w₀ v w) : w.lock (.device d) = v.lock (.device d) :=
  congrArg Device.lock (h.alike.device d hd)

theorem acquireLock_mirrors : (acquireLock (.device d)).run.Mirrors (Twins b ds r v₀ w₀) := by
  intro v w h
  have he := h.alike.device d hd
  unfold Act.MirrorsAt World.after
  by_cases hc : (v.device d).lock.draining = true
  · rw [acquireLock_closed hc, acquireLock_closed (by rw [he]; exact hc)]
    exact ⟨rfl, h⟩
  · rw [acquireLock_open hc, acquireLock_open (by rw [he]; exact hc), he]
    exact ⟨rfl, setLock_mirrors hd h _⟩

theorem releaseLock_mirrors : (releaseLock (.device d)).Mirrors (Twins b ds r v₀ w₀) := by
  intro v w h
  refine .of_unit ?_
  rw [World.after_releaseLock, World.after_releaseLock, lock_mirrors hd h]
  split
  · exact setLock_mirrors hd h _
  · exact h.note _ _

theorem closeLock_mirrors : (closeLock (.device d)).Mirrors (Twins b ds r v₀ w₀) := by
  intro v w h
  refine .of_unit ?_
  rw [World.after_closeLock, World.after_closeLock, lock_mirrors hd h]
  split
  · exact h
  · exact (releaseLock_mirrors hd _ _ (setLock_mirrors hd h _)).2

theorem drain_mirrors : (drain (.device d)).Mirrors (Twins b ds r v₀ w₀) := by
  refine .bind (.of_act (closeLock_mirrors hd)) fun _ => ?_
  intro v w h
  have hs {v w : World} (h : Twins b ds r v₀ w₀ v w) :
      w.isSet (.drained (.device d)) = v.isSet (.drained (.device d)) :=
        congrArg RemoveLock.latch (lock_mirrors hd h)
  unfold Call.await
  rw [hs h]
  split
  · exact .done h ()
  · exact .wait h fun v' w' h' => .done h' ()

theorem setGate_mirrors {v w : World} (h : Twins b ds r v₀ w₀ v w) (gate : FilterGate) :
    Twins b ds r v₀ w₀ (v.setGate (.device d) gate) (w.setGate (.device d) gate) := by
  have hk := Device.sameStanding_setGate (v.device d) gate
  exact h.updateDevice hd (hk.children ▸ .refl _) hk.state.trans

theorem gate_mirrors {v w : World} (h : Twins b ds r v₀ w₀ v w) : w.gate (.device d) = v.gate (.device d) := by
  rw [World.gate, World.gate, h.alike.device d hd]

theorem redeemTicket_mirrors : (redeemTicket (.device d)).Mirrors (Twins b ds r v₀ w₀) := by
  intro v w h
  refine .of_unit ?_
  rw [World.after_redeemTicket, World.after_redeemTicket, gate_mirrors hd h]
  split
  · exact setGate_mirrors hd h _
  · exact h.note _ _

theorem setLifecycle_mirrors {v w : World} (h : Twins b ds r v₀ w₀ v w) (hg : (v.device d).state ≠ .deleted)
    (m : Lifecycle) : Twins b ds r v₀ w₀ (v.setLifecycle d m) (w.setLifecycle d m) :=
  h.updateDevice hd (.refl _) fun e => absurd e hg

theorem moveDevice_mirrors (t : PnpState) : (moveDevice d t).run.Mirrors (Twins b ds r v₀ w₀) := by
  intro v w h
  have he := h.alike.device d hd
  unfold Act.MirrorsAt World.after
  by_cases hc : (v.device d).state.canBecome t = true
  · rw [moveDevice_ok hc, moveDevice_ok (by rw [he]; exact hc), he]
    exact ⟨rfl, setLifecycle_mirrors hd h (PnpState.ne_deleted_of_canBecome hc) _⟩
  · rw [moveDevice_error hc, moveDevice_error (by rw [he]; exact hc)]
    exact ⟨rfl, h.note _ _⟩

theorem restoreDevice_mirrors : (restoreDevice d).run.Mirrors (Twins b ds r v₀ w₀) := by
  intro v w h
  have he := h.alike.device d hd
  unfold Act.MirrorsAt World.after
  by_cases hc : (v.device d).state.isRevocable = true
  · rw [restoreDevice_ok hc, restoreDevice_ok (by rw [he]; exact hc), he]
    exact ⟨rfl, setLifecycle_mirrors hd h (fun e => by rw [e] at hc; cases hc) _⟩
  · rw [restoreDevice_error hc, restoreDevice_error (by rw [he]; exact hc)]
    exact ⟨rfl, h.note _ _⟩

theorem changePower_mirrors (c : PowerChange) : (changePower d c).run.Mirrors (Twins b ds r v₀ w₀) := by
  intro v w h
  have he := h.alike.device d hd
  unfold Act.MirrorsAt World.after
  by_cases hg : (v.device d).state = .deleted
  · rw [changePower_error c hg, changePower_error c (by rw [he]; exact hg)]
    exact ⟨rfl, h⟩
  · rw [changePower_ok c hg, changePower_ok c (by rw [he]; exact hg)]
    exact ⟨rfl, h.updateDevice hd (.refl _) id⟩

theorem cancel_mirrors (t : PnpState) : (cancel d t).run.Mirrors (Twins b ds r v₀ w₀) := by
  refine .run_bind (x := liftM (device d)) (.lift (device_mirrors hd)) fun v => ?_
  split
  · exact restoreDevice_mirrors hd
  · exact .ok _

/-! ## What the request holds -/

theorem holdLock_mirrors : (holdLock r d).Mirrors (Twins b ds r v₀ w₀) :=
  updateRequest_mirrors (fun _ hl x hx => (List.mem_cons.mp hx).elim (fun e => e ▸ hd) (hl x)) fun _ => id

theorem giveBack_mirrors : (giveBack r d).Mirrors (Twins b ds r v₀ w₀) := by
  refine .bind request_mirrors fun q => ?_
  split
  · refine .bind (updateRequest_mirrors (fun _ hl x hx => hl x (List.mem_of_mem_erase hx)) fun _ => id) fun _ => ?_
    exact releaseLock_mirrors hd
  · exact .pure _

theorem enter_mirrors (k : Kind) : (enter d r k).run.Mirrors (Twins b ds r v₀ w₀) := by
  have acquire : (do
      try acquireLock (.device d) catch _ => throw .noSuchDevice
      holdLock r d : ExceptT Status Act Unit).run.Mirrors (Twins b ds r v₀ w₀) :=
    .run_bind (.run_tryCatch (acquireLock_mirrors hd) fun _ => .throw _) fun _ => .lift (holdLock_mirrors hd)
  refine .run_bind (x := liftM (device d)) (.lift (device_mirrors hd)) fun v => ?_
  split
  · exact .run_bind (x := liftM (notify _)) (.lift (notify_mirrors _)) fun _ => .throw _
  · exact acquire

end

theorem relinquish_mirrors : (relinquish r).Mirrors (Twins b ds r v₀ w₀) := by
  refine request_mirrors.bind_of (p := fun q => (∀ x ∈ q.locks, x ∈ ds) ∧ ∀ g ∈ q.tickets, ∃ x ∈ ds, g = .device x)
    (fun _ _ h => ⟨h.alike.locks, h.alike.tickets⟩) fun q ⟨hl, ht⟩ => ?_
  refine .bind (updateRequest_mirrors (fun _ _ x hx => absurd hx List.not_mem_nil) fun _ _ g hg =>
    absurd hg List.not_mem_nil) fun _ => ?_
  refine .bind (.forM fun g hg => ?_) fun _ => .forM fun x hx => releaseLock_mirrors (hl x hx)
  obtain ⟨x, hx, rfl⟩ := ht g hg
  exact redeemTicket_mirrors hx

theorem complete_mirrors (s : Status) : (complete r s).Mirrors (Twins b ds r v₀ w₀) := by
  refine .bind request_mirrors fun q => ?_
  split
  · exact .pure _
  · refine .bind (updateRequest_mirrors (fun _ => id) fun _ => id) fun _ => ?_
    exact .bind relinquish_mirrors fun _ => updateRequest_mirrors (fun _ => id) fun _ => id

theorem settle_mirrors (s : Status) : (settle r s).Mirrors (Twins b ds r v₀ w₀) := by
  unfold settle
  split
  · exact .pure _
  · exact .bind (complete_mirrors s) fun _ => .pure _

/-! ## Removals of single devices -/

section
variable (hd : d ∈ ds)
include hd

theorem enterRemoval_mirrors : (enterRemoval d).run.Mirrors (Twins b ds r v₀ w₀) := by
  refine .run_bind (x := liftM (device d)) (.lift (device_mirrors hd)) fun v => ?_
  split
  · exact .ok _
  · exact .ok _
  · exact moveDevice_mirrors hd _

theorem abandonQuery_mirrors : (abandonQuery d).run.Mirrors (Twins b ds r v₀ w₀) := by
  refine .run_bind (x := liftM (device d)) (.lift (device_mirrors hd)) fun v => ?_
  have restore (n : Notice) :
      (do notify n; restoreDevice d : ExceptT Status Act Unit).run.Mirrors (Twins b ds r v₀ w₀) :=
    .run_bind (x := liftM (notify n)) (.lift (notify_mirrors n)) fun _ => restoreDevice_mirrors hd
  split
  · exact restore _
  · exact restore _
  · exact .ok _

theorem unregister_mirrors : (unregister b d).run.Mirrors (Twins b ds r v₀ w₀) := by
  refine .run_bind (x := liftM (device d)) (.lift (device_mirrors hd)) fun u => ?_
  have erase : (do
      if (← driver b).registry.findRole? u.identity u.role = some d then
        modify (·.updateDriver b fun v' => { v' with registry := v'.registry.erase u.key })
      else throw .notFound : ExceptT Status Act Unit).run.Mirrors (Twins b ds r v₀ w₀) := by
    intro v w h
    -- the registries differ, but not in where the devices stand
    have hf : (w.driver b).registry.findRole? u.identity u.role = some d ↔
        (v.driver b).registry.findRole? u.identity u.role = some d := h.alike.found d hd ⟨u.identity, u.role⟩
    unfold Act.MirrorsAt World.after
    by_cases hc : (v.driver b).registry.findRole? u.identity u.role = some d
    · simp only [Act.run_bind, Act.run_lift, Act.driver_apply, if_pos hc, if_pos (hf.mpr hc)]
      exact ⟨rfl, h.erase _⟩
    · simp only [Act.run_bind, Act.run_lift, Act.driver_apply, if_neg hc, if_neg (mt hf.mp hc)]
      exact ⟨rfl, h⟩
  split
  · exact erase
  · exact .run_bind (x := liftM (notify _)) (.lift (notify_mirrors _)) fun _ => .throw _

theorem finishRemoval_mirrors : (finishRemoval b d).run.Mirrors (Twins b ds r v₀ w₀) := by
  have delete : (do
      moveDevice d .deleted
      leaveParent d
      let v ← device d
      try unregister b d
      catch e =>
        notify (.notUnregistered v.identity.deviceId e)
        throw e
      notify (.recordDeleted v.role v.identity.deviceId) : ExceptT Status Act Unit).run.Mirrors
        (Twins b ds r v₀ w₀) := by
    intro v w h
    refine (moveDevice_mirrors hd _ v w h).run_bind fun _ v w hv h => ?_
    -- by now the device is deleted
    have leave : (liftM (leaveParent d) : ExceptT Status Act Unit).run.MirrorsAt (Twins b ds r v₀ w₀) v w :=
      ⟨rfl, h.leaveParent hd (gone_of_moveDevice hv)⟩
    refine leave.run_bind fun _ v w _ => ?_
    refine Act.Mirrors.run_bind (x := liftM (device d)) (.lift (device_mirrors hd)) (fun u => ?_) v w
    refine .run_bind (.run_tryCatch (unregister_mirrors hd) fun e => ?_) fun _ => .lift (notify_mirrors _)
    exact .run_bind (x := liftM (notify _)) (.lift (notify_mirrors _)) fun _ => .throw _
  refine .run_bind (x := liftM (device d)) (.lift (device_mirrors hd)) fun v => ?_
  split
  · exact .run_bind (moveDevice_mirrors hd _) fun _ => delete
  · exact delete

theorem drainAndDelete_mirrors : (drainAndDelete b d).run.Mirrors (Twins b ds r v₀ w₀) :=
  .run_bind (.lift_call (drain_mirrors hd)) fun _ => .lift_except (finishRemoval_mirrors hd)

theorem tearDownChild_mirrors : (tearDownChild b d).Mirrors (Twins b ds r v₀ w₀) := by
  have tear : (tearDown b d).run.Mirrors (Twins b ds r v₀ w₀) :=
    .run_bind (.lift_except (abandonQuery_mirrors hd)) fun _ =>
      .run_bind (.lift_except (enterRemoval_mirrors hd)) fun _ => drainAndDelete_mirrors hd
  refine .bind tear fun outcome => ?_
  cases outcome with
  | ok _ => exact .of_act (letGo_mirrors d)
  | error e =>
    exact .bind (.of_act (device_mirrors hd)) fun _ => .bind (.of_act (notify_mirrors _)) fun _ =>
      .of_act (letGo_mirrors d)

theorem finishFunctional_mirrors (s : Status) {v w : World} (h : Twins b ds r v₀ w₀ v w) :
    (finishFunctional b d s v).Mirrors (Twins b ds r v₀ w₀) (finishFunctional b d s w) := by
  have hn : Twins b ds r v₀ w₀ (if s.isSuccess then v else v.note (.lowerRefusedRemoval s))
      (if s.isSuccess then w else w.note (.lowerRefusedRemoval s)) := by
    split
    · exact h
    · exact h.note _ _
  unfold finishFunctional
  generalize (if s.isSuccess then v else v.note (.lowerRefusedRemoval s)) = v at hn
  generalize (if s.isSuccess then w else w.note (.lowerRefusedRemoval s)) = w at hn
  obtain ⟨he, hf⟩ := finishRemoval_mirrors hd v w hn
  unfold World.after at hf
  rcases hv : (finishRemoval b d).run v with ⟨e | _, v'⟩ <;>
    rcases hw : (finishRemoval b d).run w with ⟨e' | _, w'⟩ <;>
    rw [hv, hw] at he hf <;> cases he
  · exact .done hf e
  · exact .done (hf.note _ _) Status.success

theorem removeFunctional_mirrors (hb : below.Mirrors (Twins b ds r v₀ w₀)) :
    (removeFunctional b d r below).Mirrors (Twins b ds r v₀ w₀) := by
  intro v w h
  obtain ⟨he, hf⟩ := enterRemoval_mirrors hd v w h
  unfold World.after at hf
  rcases hv : (enterRemoval d).run v with ⟨e | _, v'⟩ <;> rcases hw : (enterRemoval d).run w with ⟨e' | _, w'⟩ <;>
    rw [hv, hw] at he hf <;> cases he
  · rw [removeFunctional_error b d r below hv, removeFunctional_error b d r below hw]
    exact .done hf e
  rw [removeFunctional_ok b d r below hv, removeFunctional_ok b d r below hw, hf.alike.device d hd]
  -- the children in the list are among the devices that it passes
  have children : ((v'.device d).children.forM (tearDownChild b) : Call Unit).Mirrors (Twins b ds r v₀ w₀) :=
    .forM fun c hc => tearDownChild_mirrors (hf.alike.children d hd c hc)
  refine (children _ _ (hf.takeChildren hd)).bind fun _ v w h => ?_
  refine (drain_mirrors hd _ _ (giveBack_mirrors hd v w h).2).bind fun _ v w h => ?_
  exact (hb v w h).bind fun s v w h => finishFunctional_mirrors hd s h

end

/-! ## Handlers -/

section
variable (hd : d ∈ ds)
include hd

theorem physicalMinor_mirrors (m : Minor) :
    (physicalMinor b d r m).run.Mirrors (Twins b ds r v₀ w₀) := by
  have move (t : PnpState) : (liftM (moveDevice d t) : ExceptT Status Call Unit).run.Mirrors (Twins b ds r v₀ w₀) :=
    .lift_except (moveDevice_mirrors hd t)
  cases m with
  | startDevice => exact .run_bind (move _) fun _ => move _
  | queryStopDevice => exact move _
  | cancelStopDevice => exact .lift_except (cancel_mirrors hd _)
  | stopDevice => exact move _
  | queryRemoveDevice => exact move _
  | cancelRemoveDevice => exact .lift_except (cancel_mirrors hd _)
  | removeDevice =>
    exact .run_bind (.lift (giveBack_mirrors hd)) fun _ =>
      .run_bind (.lift_except (enterRemoval_mirrors hd)) fun _ =>
      drainAndDelete_mirrors hd
  | surpriseRemoval => exact move _
  | queryId t => exact .run_bind (.lift (device_mirrors hd)) fun v => .lift (inform_mirrors _)
  | queryRelations t =>
    cases t with
    | target => exact .lift (inform_mirrors _)
    | _ => exact .throw _

theorem physical_mirrors (k : Kind) : (physical b d r k).Mirrors (Twins b ds r v₀ w₀) := by
  cases k with
  | pnp m =>
    refine .bind (.of_act (device_mirrors hd)) fun v => .bind (.of_act (notify_mirrors _)) fun _ => ?_
    refine .bind (physicalMinor_mirrors hd m) fun outcome => ?_
    cases outcome with
    | ok _ => exact .pure _
    | error e => exact .bind (.of_act (notify_mirrors _)) fun _ => .pure _
  | power c => exact .bind (.of_act (changePower_mirrors hd c)) fun _ => .pure _
  | _ => exact .pure _

theorem admitted_mirrors {handler : Call Status} (hh : handler.Mirrors (Twins b ds r v₀ w₀)) (k : Kind) :
    (admitted d r k handler).Mirrors (Twins b ds r v₀ w₀) := by
  refine .bind (.of_act (enter_mirrors hd k)) fun outcome => ?_
  cases outcome with
  | ok _ => exact .bind (fun v w h => .via h (.done h ())) fun _ => hh
  | error e => exact .pure e

theorem moveThen_mirrors {next : Call Status} (hn : next.Mirrors (Twins b ds r v₀ w₀)) (t : PnpState) :
    (moveThen d t next).Mirrors (Twins b ds r v₀ w₀) := by
  refine .bind (.of_act (moveDevice_mirrors hd t)) fun outcome => ?_
  cases outcome with
  | ok _ => exact hn
  | error e => exact .pure e

section
variable (hb : below.Mirrors (Twins b ds r v₀ w₀))
include hb

theorem forwardOrRollBack_mirrors : (forwardOrRollBack d below).Mirrors (Twins b ds r v₀ w₀) := by
  refine .bind hb fun s => ?_
  split
  · exact .pure s
  · refine .bind (.of_act (device_mirrors hd)) fun v => .bind (.of_act (notify_mirrors _)) fun _ => ?_
    exact .bind (.of_act (restoreDevice_mirrors hd)) fun _ => .pure s

theorem forwardThenCancel_mirrors (t : PnpState) : (forwardThenCancel d t below).Mirrors (Twins b ds r v₀ w₀) := by
  refine .bind hb fun s => .bind (.of_act (cancel_mirrors hd t)) fun outcome => ?_
  cases outcome with
  | ok _ => exact .pure s
  | error e => exact .pure e

omit hd in
theorem divert_mirrors (i : Interceptor) : (divert i d r below).Mirrors (Twins b ds r v₀ w₀) := by
  intro v w h
  have h' : Twins b ds r v₀ w₀ (v.divert i d r) (w.divert i d r) := by
    have hn : Twins b ds r v₀ w₀ (v.after (noteDiverted d)) (w.after (noteDiverted d)) :=
      h.of_eq rfl rfl rfl rfl rfl rfl
    unfold World.divert
    split
    · exact (inform_mirrors _ _ _ hn).2
    · exact hn
  rw [divert_apply, divert_apply]
  split
  · exact .done h' _
  · exact .done h' _
  · exact .done (complete_mirrors _ _ _ h').2 _
  · exact (hb _ _ h').bind fun s v w h => .done (settle_mirrors s v w h).2 s

theorem transfer_mirrors : (transfer b d r below).Mirrors (Twins b ds r v₀ w₀) := by
  intro v w h
  rw [transfer_apply, transfer_apply, h.alike.interceptor, gate_mirrors hd h]
  split
  · exact hb v w h
  next i _ =>
    split
    · exact hb v w h
    next gate _ =>
      refine divert_mirrors hb i _ _ ((setGate_mirrors hd h gate).updateRequest h.alike.locks fun g hg => ?_)
      exact (List.mem_cons.mp hg).elim (fun e => ⟨d, hd, e⟩) (h.alike.tickets g)

theorem functionalMinor_mirrors (m : Minor) : (functionalMinor b d r below m).Mirrors (Twins b ds r v₀ w₀) := by
  have hr := forwardOrRollBack_mirrors hd hb
  cases m with
  | startDevice =>
    refine moveThen_mirrors hd (.bind hr fun s => ?_) _
    split
    · exact .bind (.of_act (moveDevice_mirrors hd _)) fun _ => .pure _
    · exact .pure _
  | queryStopDevice => exact moveThen_mirrors hd hr _
  | cancelStopDevice => exact forwardThenCancel_mirrors hd hb _
  | stopDevice => exact moveThen_mirrors hd hb _
  | queryRemoveDevice => exact moveThen_mirrors hd hr _
  | cancelRemoveDevice => exact forwardThenCancel_mirrors hd hb _
  | removeDevice => exact removeFunctional_mirrors hd hb
  | surpriseRemoval => exact moveThen_mirrors hd hb _
  | queryId t => exact hb
  | queryRelations t =>
    cases t with
    | bus =>
      refine .bind (.of_act (device_mirrors hd)) fun v => .bind (.of_act (notify_mirrors _)) fun _ => ?_
      exact .bind (.of_act (inform_mirrors _)) fun _ => .pure _
    | _ => exact hb

theorem functional_mirrors (k : Kind) : (functional b d r below k).Mirrors (Twins b ds r v₀ w₀) := by
  cases k with
  | pnp m =>
    refine .bind (.of_act (device_mirrors hd)) fun v => .bind (.of_act (notify_mirrors _)) fun _ => ?_
    exact functionalMinor_mirrors hd hb m
  | power c =>
    refine .bind (.of_act (changePower_mirrors hd c)) fun outcome => ?_
    cases outcome with
    | ok _ => exact hb
    | error e => exact .pure e
  | _ => exact transfer_mirrors hd hb

end

end

/-! ## The whole stack -/

theorem deliver_mirrors (k : Kind) : ∀ {t : Stack}, (∀ x ∈ t.members, x ∈ ds) →
    (deliver b r k t).Mirrors (Twins b ds r v₀ w₀)
  | .physical d, ht => by
    have hd := ht d List.mem_cons_self
    exact admitted_mirrors hd (physical_mirrors hd k) k
  | .functional d lower, ht => by
    have hd := ht d List.mem_cons_self
    have hb : (deliver b r k lower).Mirrors (Twins b ds r v₀ w₀) :=
      deliver_mirrors k fun x hx => ht x (List.mem_cons_of_mem d hx)
    exact admitted_mirrors hd (functional_mirrors hd hb k) k

/-- A dispatch does the same in all worlds that are alike where it goes, and changes nothing elsewhere but the lists
that name what it deletes as a child. -/
theorem dispatch_mirrors {v w : World} (h : v.Alike b ds r w) (hd : d ∈ ds)
    (ht : ∀ x ∈ (v.stack d).members, x ∈ ds) :
    (dispatch b d r v).Mirrors (Twins b ds r v w) (dispatch b d r w) := by
  have hs : w.stack d = v.stack d := by
    unfold World.stack
    rw [h.device d hd]
  rw [dispatch_apply, dispatch_apply, h.request, hs]
  refine (deliver_mirrors _ ht v w ⟨h, .refl v, .refl w⟩).bind fun s v' w' h' => ?_
  exact .done (settle_mirrors s v' w' h').2 s

end PnpBus
