import PnpBus.Proofs.Commands

/-!
# What requests do on their way

Whatever a request does to the world, it does in a few kinds of steps at each
device that it comes to. A removal, besides, closes the lock of the device,
takes it off the list of its parent and off the registry, and does the same
with each child that it finds. What holds of the single steps holds of the way
through a whole stack, as long as all devices on the way admit them.
-/

namespace PnpBus

variable {S Q : World → World → Prop} {I : World → Prop} {α : Type} {b : DriverId} {d : DeviceId} {r : RequestId}
  {k : Kind} {u v w : World} {below : Call Status}

/-! ## What a request gives back -/

theorem Act.Goes.releaseLock {l : LockRef} (hn : ∀ (w : World) n, S w (w.note n))
    (hl : ∀ (w : World) m, S w (w.setLock l m)) : (releaseLock l).Goes S := .step fun w => by
  rw [World.after_releaseLock]
  split
  · exact hl w _
  · exact hn w _

structure Completable (S : World → World → Prop) : Prop where
  note : ∀ (w : World) n, S w (w.note n)
  request : ∀ (w : World) r f, S w (w.updateRequest r f)
  gate : ∀ (w : World) g gate, S w (w.setGate g gate)
  release : ∀ d, (releaseLock (.device d)).Goes S

namespace Completable

variable (h : Completable S)
include h

theorem issueTicket (g : GateRef) : (issueTicket g).Goes S := fun w => by
  rw [World.after]
  cases hg : (w.gate g).issue? with
  | none => rw [issueTicket_none hg]
  | some gate => rw [issueTicket_ok hg]; exact .single (h.gate w g gate)

theorem redeemTicket (g : GateRef) : (redeemTicket g).Goes S := .step fun w => by
  rw [World.after_redeemTicket]
  split
  · exact h.gate w g _
  · exact h.note w _

theorem requestGate (g : GateRef) (wanted : FilterState) : (requestGate g wanted).run.Goes S := by
  have note (n : Notice) : (notify n).Goes S := .step fun w => h.note w n
  refine .run_bind (x := get) (fun _ => .refl) fun w => ?_
  split
  · exact .run_bind (x := modify _) (.step fun w => h.gate w g _) fun _ => note _
  · exact .run_bind (x := liftM (notify _)) (note _) fun _ => .throw _

theorem inform (r : RequestId) (information : Information) : (inform r information).Goes S :=
  .step fun w => h.request w r _

theorem giveBack (r : RequestId) (d : DeviceId) : (giveBack r d).Goes S := by
  refine .bind (a := PnpBus.request r) (fun _ => .refl) fun q => ?_
  split
  · exact .bind (.step fun w => h.request w r _) fun _ => h.release d
  · exact .pure _

theorem relinquish (r : RequestId) : (relinquish r).Goes S := by
  refine .bind (a := PnpBus.request r) (fun _ => .refl) fun q => .bind (.step fun w => h.request w r _) fun _ => ?_
  exact .bind (.forM h.redeemTicket _) fun _ => .forM h.release _

theorem complete (r : RequestId) (s : Status) : (complete r s).Goes S := by
  refine .bind (a := PnpBus.request r) (fun _ => .refl) fun q => ?_
  split
  · exact .pure _
  · exact .bind (.step fun w => h.request w r _) fun _ => .bind (h.relinquish r) fun _ => .step fun w =>
      h.request w r _

end Completable

/-! ## Requests that remove nothing -/

theorem Run.Along.admitted {handler : Call Status} {p : World → Status → Prop} (hp : ∀ w, p w .noSuchDevice)
    (hn : ∀ n, S v (v.note n)) (ht : S v (v.take d r)) (hh : (handler (v.take d r)).Along S Q p (v.take d r)) :
    (admitted d r k handler v).Along S Q p v := by
  by_cases hg : (v.device d).state = .deleted
  · rw [admitted_error (enter_gone r k hg)]
    exact .step (hn _) (hp _)
  by_cases hc : (v.device d).lock.draining = true
  · rw [admitted_error (enter_closed r k hg hc)]
    exact .same (hp _)
  rw [admitted_ok (enter_open r k hg hc)]
  exact hh.from (.single ht)

theorem settle_along {s : Status} (h : (complete r s).Goes S) : (settle r s).Goes S := by
  intro w
  unfold World.after
  by_cases hs : s = .pending
  · rw [hs]; exact .refl
  · rw [settle_of_ne r hs]; exact h w

def Kind.isStill : Kind → Bool
  | pnp (.queryId _) | pnp (.queryRelations _) => true
  | pnp _ => false
  | _ => true

structure Answerable (S : World → World → Prop) (k : Kind) (r : RequestId) (d : DeviceId) : Prop where
  note : ∀ (w : World) n, S w (w.note n)
  inform : ∀ information, (inform r information).Goes S
  move : k.isStill = false → ∀ t, (moveDevice d t).run.Goes S
  restore : k.isStill = false → (restoreDevice d).run.Goes S
  power : ∀ c, (changePower d c).run.Goes S

namespace Answerable

variable (h : Answerable S k r d)
include h

theorem notify (n : Notice) : (notify n).Goes S := .step fun w => h.note w n

theorem cancel (hk : k.isStill = false) (t : PnpState) : (cancel d t).run.Goes S := by
  refine .run_bind (x := liftM (device d)) (fun _ => .refl) fun v => ?_
  split
  · exact h.restore hk
  · exact .ok _

theorem physical (b : DriverId) (hk : k ≠ .pnp .removeDevice) : (physical b d r k).Goes S Q := by
  cases k with
  | pnp m =>
    have answer : (physicalMinor b d r m).run.Goes S Q := by
      cases m with
      | startDevice => exact .run_bind (.lift_except (h.move rfl _)) fun _ => .lift_except (h.move rfl _)
      | queryStopDevice => exact .lift_except (h.move rfl _)
      | cancelStopDevice => exact .lift_except (h.cancel rfl _)
      | stopDevice => exact .lift_except (h.move rfl _)
      | queryRemoveDevice => exact .lift_except (h.move rfl _)
      | cancelRemoveDevice => exact .lift_except (h.cancel rfl _)
      | removeDevice => exact absurd rfl hk
      | surpriseRemoval => exact .lift_except (h.move rfl _)
      | queryId t => exact .run_bind (.lift (a := device d) fun _ => .refl) fun v => .lift (h.inform _)
      | queryRelations t =>
        cases t with
        | target => exact .lift (h.inform _)
        | _ => exact .throw _
    refine .bind (.of_act (a := device d) fun _ => .refl) fun v => .bind (.of_act (h.notify _)) fun _ => ?_
    refine .bind answer fun outcome => ?_
    cases outcome with
    | ok _ => exact .pure _
    | error e => exact .bind (.of_act (h.notify _)) fun _ => .pure _
  | power c => exact .bind (.of_act (h.power c)) fun _ => .pure _
  | _ => exact .pure _

section
variable (hb : below.Goes S Q)
include hb

theorem moveThen (hk : k.isStill = false) (t : PnpState) : (moveThen d t below).Goes S Q := by
  refine .bind (.of_act (h.move hk t)) fun outcome => ?_
  cases outcome with
  | ok _ => exact hb
  | error e => exact .pure _

theorem forwardOrRollBack (hk : k.isStill = false) : (forwardOrRollBack d below).Goes S Q := by
  intro v
  rw [forwardOrRollBack_apply]
  refine (hb v).bind fun w s _ => ?_
  split
  · exact .same trivial
  · exact ⟨(h.restore hk _).head (h.note w _), trivial⟩

theorem forwardThenCancel (hk : k.isStill = false) (t : PnpState) : (forwardThenCancel d t below).Goes S Q := by
  intro v
  rw [forwardThenCancel_apply]
  exact (hb v).bind fun w s _ => ⟨h.cancel hk t w, trivial⟩

end

end Answerable

structure Servable (S : World → World → Prop) (k : Kind) (r : RequestId) (d : DeviceId) : Prop
    extends Answerable S k r d where
  take : ∀ w, S w (w.take d r)
  letPass : ∀ w gate, S w (w.letPass (.device d) r gate)
  divert : ∀ w i, S w (w.divert i d r)
  complete : ∀ s, (complete r s).Goes S

namespace Servable

variable (h : Servable S k r d) (hb : below.Goes S Q)
include h hb

theorem transfer (b : DriverId) : (transfer b d r below).Goes S Q := by
  intro v
  rw [transfer_apply]
  split
  · exact hb v
  next i _ =>
    split
    · exact hb v
    next gate _ =>
      have hv : Relation.ReflTransGen S v ((v.letPass (.device d) r gate).divert i d r) :=
        .tail (.single (h.letPass v gate)) (h.divert _ i)
      rw [divert_apply]
      split
      · exact ⟨hv, trivial⟩
      · exact ⟨hv, trivial⟩
      · exact ⟨hv.trans (h.complete _ _), trivial⟩
      · exact Run.Along.from hv ((hb _).bind fun w s _ => ⟨settle_along (h.complete s) w, trivial⟩)

theorem functional (b : DriverId) (hk : k ≠ .pnp .removeDevice) : (functional b d r below k).Goes S Q := by
  cases k with
  | pnp m =>
    refine .bind (.of_act (a := device d) fun _ => .refl) fun v => .bind (.of_act (h.notify _)) fun _ => ?_
    cases m with
    | startDevice =>
      intro w
      rw [functionalMinor_startDevice]
      refine h.toAnswerable.moveThen (.bind (h.forwardOrRollBack hb rfl) fun s => ?_) rfl _ w
      split
      · exact .bind (.of_act (h.move rfl _)) fun _ => .pure _
      · exact .pure _
    | queryStopDevice => exact h.moveThen (h.forwardOrRollBack hb rfl) rfl _
    | cancelStopDevice => exact h.forwardThenCancel hb rfl _
    | stopDevice => exact h.moveThen hb rfl _
    | queryRemoveDevice => exact h.moveThen (h.forwardOrRollBack hb rfl) rfl _
    | cancelRemoveDevice => exact h.forwardThenCancel hb rfl _
    | removeDevice => exact absurd rfl hk
    | surpriseRemoval => exact h.moveThen hb rfl _
    | queryId t => exact hb
    | queryRelations t =>
      cases t with
      | bus =>
        refine .bind (.of_act (a := device d) fun _ => .refl) fun v => .bind (.of_act (h.notify _)) fun _ => ?_
        exact .bind (.of_act (h.inform _)) fun _ => .pure _
      | _ => exact hb
  | power c =>
    refine .bind (.of_act (h.power c)) fun outcome => ?_
    cases outcome with
    | ok _ => exact hb
    | error e => exact .pure _
  | _ => exact h.transfer hb b

end Servable

theorem deliver_along (b : DriverId) (hk : k ≠ .pnp .removeDevice) :
    ∀ {t : Stack}, (∀ x ∈ t.members, Servable S k r x) → (deliver b r k t).Goes S Q
  | .physical d, h, v => by
    have h := h d List.mem_cons_self
    exact .admitted (fun _ => trivial) (h.note v) (h.take v) (h.physical b hk _)
  | .functional d lower, h, v => by
    have hb : (deliver b r k lower).Goes S Q := deliver_along b hk fun x hx => h x (List.mem_cons_of_mem d hx)
    have h := h d List.mem_cons_self
    exact .admitted (fun _ => trivial) (h.note v) (h.take v) (h.functional hb b hk _)

/-! ## The last step of a removal -/

theorem Act.Goes.run_bind_at {β : Type} {x : ExceptT Status Act α} {f : α → ExceptT Status Act β}
    (hx : Relation.ReflTransGen S w (w.after x.run))
    (hf : ∀ a v, x.run w = (.ok a, v) → Relation.ReflTransGen S v (v.after (f a).run)) :
    Relation.ReflTransGen S w (w.after (x >>= f).run) := by
  rw [World.after, Act.run_bind]
  rw [World.after] at hx
  rcases h : x.run w with ⟨_ | a, v⟩ <;> rw [h] at hx
  · exact hx
  · exact hx.trans (hf a v h)

theorem gone_of_moveDevice (h : (moveDevice d .deleted).run w = (.ok (), v)) : v.IsGone d := by
  by_cases hc : (w.device d).state.canBecome .deleted = true
  · have hd : d < w.devices.size := by
      refine Nat.lt_of_not_le fun hd => ?_
      rw [World.device_of_size_le hd] at hc
      cases hc
    rw [moveDevice_ok hc] at h
    cases h
    exact World.state_setLifecycle hd _
  · rw [moveDevice_error hc] at h
    cases h

/-! ## Removals of single devices -/

structure Deletable (S : World → World → Prop) (b : DriverId) (d : DeviceId) : Prop where
  note : ∀ (w : World) n, S w (w.note n)
  move : ∀ t, (moveDevice d t).run.Goes S
  restore : (restoreDevice d).run.Goes S
  close : (closeLock (.device d)).Goes S
  /-- Only a device that is deleted leaves its parent. -/
  leave : ∀ w : World, w.IsGone d → Relation.ReflTransGen S w (w.after (leaveParent d))
  erase : ∀ key, (modify (·.updateDriver b fun v => { v with registry := v.registry.erase key }) : Act Unit).Goes S
  letGo : (letGo d).Goes S

namespace Deletable

variable (h : Deletable S b d)
include h

theorem notify (n : Notice) : (notify n).Goes S := .step fun w => h.note w n

theorem enterRemoval : (enterRemoval d).run.Goes S := by
  refine .run_bind (x := liftM (device d)) (fun _ => .refl) fun v => ?_
  split
  · exact .ok _
  · exact .ok _
  · exact h.move _

theorem abandonQuery : (abandonQuery d).run.Goes S := by
  refine .run_bind (x := liftM (device d)) (fun _ => .refl) fun v => ?_
  split
  · exact .run_bind (x := liftM (PnpBus.notify _)) (h.notify _) fun _ => h.restore
  · exact .run_bind (x := liftM (PnpBus.notify _)) (h.notify _) fun _ => h.restore
  · exact .ok _

theorem unregister : (unregister b d).run.Goes S := by
  refine .run_bind (x := liftM (device d)) (fun _ => .refl) fun v => ?_
  have erase : (do
      if (← driver b).registry.findRole? v.identity v.role = some d then
        modify (·.updateDriver b fun v' => { v' with registry := v'.registry.erase v.key })
      else throw .notFound : ExceptT Status Act Unit).run.Goes S := by
    refine .run_bind (x := liftM (driver b)) (fun _ => .refl) fun owner => ?_
    split
    · exact h.erase _
    · exact .throw _
  split
  · exact erase
  · exact .run_bind (x := liftM (PnpBus.notify _)) (h.notify _) fun _ => .throw _

theorem finishRemoval : (finishRemoval b d).run.Goes S := by
  have delete : (do
      moveDevice d .deleted
      leaveParent d
      let v ← device d
      try PnpBus.unregister b d
      catch e =>
        PnpBus.notify (.notUnregistered v.identity.deviceId e)
        throw e
      PnpBus.notify (.recordDeleted v.role v.identity.deviceId) : ExceptT Status Act Unit).run.Goes S := by
    intro w
    refine Act.Goes.run_bind_at (h.move _ w) fun _ v hv => ?_
    refine Act.Goes.run_bind_at (x := liftM (leaveParent d)) (h.leave v (gone_of_moveDevice hv)) fun _ v' _ => ?_
    refine Act.Goes.run_bind (x := liftM (device d)) (fun _ => .refl) (fun v => ?_) v'
    refine .run_bind (.run_tryCatch h.unregister fun e => ?_) fun _ => h.notify _
    exact .run_bind (x := liftM (PnpBus.notify _)) (h.notify _) fun _ => .throw _
  refine .run_bind (x := liftM (device d)) (fun _ => .refl) fun v => ?_
  split
  · exact .run_bind (h.move _) fun _ => delete
  · exact delete

theorem drain : (drain (.device d)).Goes S Q := .bind (.of_act h.close) fun _ => .await _

theorem drainAndDelete : (drainAndDelete b d).run.Goes S Q :=
  .run_bind (.lift_call h.drain) fun _ => .lift_except h.finishRemoval

theorem tearDownChild : (tearDownChild b d).Goes S Q := by
  have tear : (tearDown b d).run.Goes S Q :=
    .run_bind (.lift_except h.abandonQuery) fun _ => .run_bind (.lift_except h.enterRemoval) fun _ =>
      h.drainAndDelete
  refine .bind tear fun outcome => ?_
  cases outcome with
  | ok _ => exact .of_act (a := PnpBus.letGo d) h.letGo
  | error e =>
    exact .bind (.of_act (a := device d) fun _ => .refl) fun _ => .bind (.of_act (h.notify _)) fun _ =>
      .of_act (a := PnpBus.letGo d) h.letGo

theorem finishFunctional (s : Status) (w : World) : (finishFunctional b d s w).Along S Q (fun _ _ => True) w := by
  have hn : Relation.ReflTransGen S w (if s.isSuccess then w else w.note (.lowerRefusedRemoval s)) := by
    split
    · exact .refl
    · exact .single (h.note w _)
  rw [PnpBus.finishFunctional]
  generalize (if s.isSuccess then w else w.note (.lowerRefusedRemoval s)) = w₁ at hn ⊢
  have hf := h.finishRemoval w₁
  rw [World.after] at hf
  rcases he : (PnpBus.finishRemoval b d).run w₁ with ⟨_ | _, w₂⟩ <;> rw [he] at hf
  · exact ⟨hn.trans hf, trivial⟩
  · exact ⟨(hn.trans hf).tail (h.note w₂ _), trivial⟩

theorem physical (hg : (giveBack r d).Goes S) : (physical b d r (.pnp .removeDevice)).Goes S Q := by
  have answer : (physicalMinor b d r .removeDevice).run.Goes S Q :=
    .run_bind (.lift hg) fun _ => .run_bind (.lift_except h.enterRemoval) fun _ => h.drainAndDelete
  refine .bind (.of_act (a := device d) fun _ => .refl) fun v => .bind (.of_act (h.notify _)) fun _ => ?_
  refine .bind answer fun outcome => ?_
  cases outcome with
  | ok _ => exact .pure _
  | error e => exact .bind (.of_act (h.notify _)) fun _ => .pure _

theorem mono {S' : World → World → Prop} (hS : ∀ v w, S v w → S' v w) : Deletable S' b d where
  note w n := hS _ _ (h.note w n)
  move t := (h.move t).mono hS
  restore := h.restore.mono hS
  close := h.close.mono hS
  leave w hg := Relation.ReflTransGen.mono hS _ _ (h.leave w hg)
  erase key := (h.erase key).mono hS
  letGo := h.letGo.mono hS

end Deletable

theorem tearDownAll_goes : ∀ {ds : List DeviceId}, (∀ d ∈ ds, Deletable S b d) →
    (ds.forM (tearDownChild b) : Call Unit).Goes S Q
  | [], _ => .pure _
  | _ :: _, h => .bind (h _ List.mem_cons_self).tearDownChild fun _ =>
    tearDownAll_goes fun d hd => h d (List.mem_cons_of_mem _ hd)

structure Removable (S : World → World → Prop) (b : DriverId) (d : DeviceId) : Prop extends Deletable S b d where
  take : ∀ w r, S w (w.take d r)
  giveBack : ∀ r, (giveBack r d).Goes S
  takeChildren : (takeChildren d).Goes S

/-! ## Removals of whole stacks

What is listed as a child may change while a removal waits, so an invariant `I` has to say which devices can be. -/

theorem Call.Goes.keep {c : Call α} (hS : ∀ v w, S v w → I v → I w) (hQ : ∀ v w, Q v w → I v → I w) (h : c.Goes S Q)
    (hv : I v) : (c v).Along S Q (fun w _ => I w) v :=
  ((h v).keep hS hQ hv).imp fun _ _ => And.right

section
variable (hS : ∀ v w, S v w → I v → I w) (hQ : ∀ v w, Q v w → I v → I w)
  (hI : ∀ w, I w → ∀ d, ∀ c ∈ (w.device d).children, Deletable S b c)
include hS hQ hI

theorem Removable.functional (h : Removable S b d) (hv : I v)
    (hb : ∀ w, I w → (below w).Along S Q (fun _ _ => True) w) :
    (removeFunctional b d r below v).Along S Q (fun _ _ => True) v := by
  have he := h.enterRemoval v
  rw [World.after] at he
  rcases hx : (PnpBus.enterRemoval d).run v with ⟨e | _, w⟩ <;> rw [hx] at he
  · rw [removeFunctional_error b d r below hx]
    exact ⟨he, trivial⟩
  have hw := World.keep_steps hS he hv
  have ht := h.takeChildren w
  have hc : ((w.device d).children.forM (PnpBus.tearDownChild b) : Call Unit).Goes S Q :=
    tearDownAll_goes (hI w hw d)
  rw [removeFunctional_ok b d r below hx]
  refine Run.Along.from (he.trans ht) ?_
  refine (hc.keep hS hQ (World.keep_steps hS ht hw)).bind fun w _ hw => Run.Along.from (h.giveBack r w) ?_
  refine (h.drain.keep hS hQ (World.keep_steps hS (h.giveBack r w) hw)).bind fun w _ hw => ?_
  exact (hb w hw).bind fun w s _ => h.finishFunctional s w

theorem deliver_removal : ∀ {s : Stack} {v : World}, (∀ x ∈ s.members, Removable S b x) → I v →
    (deliver b r (.pnp .removeDevice) s v).Along S Q (fun _ _ => True) v
  | .physical d, v, hs, _ => by
    have h := hs d List.mem_cons_self
    exact .admitted (fun _ => trivial) (h.note v) (h.take v r) (h.physical (h.giveBack r) _)
  | .functional d lower, v, hs, hv => by
    have h := hs d List.mem_cons_self
    refine .admitted (fun _ => trivial) (h.note v) (h.take v r) ?_
    rw [functional_pnp]
    refine Run.Along.from (.single (h.note _ _)) (h.functional hS hQ hI ?_ fun u hu => ?_)
    · exact hS _ _ (h.note _ _) (hS _ _ (h.take v r) hv)
    · exact deliver_removal (fun x hx => hs x (List.mem_cons_of_mem d hx)) hu

end

/-- Whatever is sent, and to whichever stack. -/
theorem Call.Goes.dispatch (hs : ∀ k x, Servable S k r x) (hr : ∀ x, Removable S b x) :
    (dispatch b d r).Goes S Q := by
  intro v
  have hd : (deliver b r (v.request r).kind (v.stack d) v).Along S Q (fun _ _ => True) v := by
    by_cases hk : (v.request r).kind = .pnp .removeDevice
    · rw [hk]
      refine deliver_removal (I := fun _ => True) (fun _ _ _ => id) (fun _ _ _ => id) ?_ ?_ trivial
      · exact fun _ _ _ c _ => (hr c).toDeletable
      · exact fun x _ => hr x
    · exact deliver_along b hk (fun x _ => hs _ x) v
  rw [dispatch_apply]
  exact hd.bind fun w s _ => ⟨settle_along ((hs (v.request r).kind d).complete s) w, trivial⟩

end PnpBus
