import PnpBus.Proofs.Families
import PnpBus.Proofs.Grants

/-!
# A removal that ends has not been refused

A device that is on its way out refuses no removal. Whatever the removal tears
down before, it bypasses the device itself, which stays on its way out until
it is deleted. So the removal waits for good, or it succeeds.
-/

namespace PnpBus

variable {α : Type} {Q : World → World → Prop} {b : DriverId} {d f : DeviceId} {r : RequestId}
  {s : Status} {t : Stack} {u v w : World}

/-! ## What is not on the way -/

namespace World

structure Bypasses (f : DeviceId) (v w : World) : Prop where
  lifecycle : (w.device f).lifecycle = (v.device f).lifecycle
  children : ∀ x, (w.device x).children ⊆ (v.device x).children

namespace Bypasses

theorem trans (h : Bypasses f u v) (h' : Bypasses f v w) : Bypasses f u w where
  lifecycle := h'.lifecycle.trans h.lifecycle
  children x := List.Subset.trans (h'.children x) (h.children x)

theorem of_sameStanding (h : v.SameStanding w) : Bypasses f v w where
  lifecycle := (h.device f).lifecycle
  children x := by rw [(h.device x).children]; exact fun _ => id

instance : Std.Refl (Bypasses f) := ⟨fun w => .of_sameStanding (.refl w)⟩

instance : IsTrans World (Bypasses f) := ⟨fun _ _ _ => trans⟩

theorem setLifecycle (w : World) (hd : f ≠ d) (m : Lifecycle) : Bypasses f w (w.setLifecycle d m) where
  lifecycle := w.lifecycle_of_ne m hd
  children x := by rw [(w.relatives_setLifecycle d m x).1]; exact fun _ => id

theorem takeChildren (w : World) (d : DeviceId) : Bypasses f w (w.after (takeChildren d)) := by
  constructor
  · rw [device_takeChildren, setChildren, device_updateDevice]
    split
    next e => rw [e.1]; exact Device.lifecycle_updateLayer ..
    next => rfl
  · intro x
    rw [device_takeChildren, setChildren, device_updateDevice]
    split
    next e =>
      rw [Device.children_updateLayer]
      cases (w.device d).layer? <;> exact List.nil_subset _
    next => exact fun _ => id

theorem leaveParent (w : World) (d : DeviceId) : Bypasses f w (w.after (leaveParent d)) := by
  refine ⟨(w.device_leaveParent d f).2.1, fun x => ?_⟩
  rw [(w.device_leaveParent d x).2.2]
  split
  · exact fun _ hx => (List.mem_filter.mp hx).1
  · exact fun _ => id

theorem closeLock (w : World) (d : DeviceId) : Bypasses f w (w.after (closeLock (.device d))) where
  lifecycle := w.lifecycle_closeLock d f
  children x := by rw [(w.relatives_closeLock d x).1]; exact fun _ => id

theorem unlisted (h : Bypasses f v w) (hv : v.Unlisted (· = f)) : w.Unlisted (· = f) :=
  fun x hx d hm => hv x hx d (h.children d hm)

end Bypasses

end World

open World (Bypasses SameStanding)

theorem moveDevice_bypasses (hd : f ≠ d) (t : PnpState) : (moveDevice d t).run.Goes (Bypasses f) := by
  intro w
  unfold World.after
  by_cases h : (w.device d).state.canBecome t = true
  · rw [moveDevice_ok h]; exact .single (.setLifecycle w hd _)
  · rw [moveDevice_error h]; exact .single (.of_sameStanding (.note w _))

theorem restoreDevice_bypasses (hd : f ≠ d) : (restoreDevice d).run.Goes (Bypasses f) := by
  intro w
  unfold World.after
  by_cases h : (w.device d).state.isRevocable = true
  · rw [restoreDevice_ok h]; exact .single (.setLifecycle w hd _)
  · rw [restoreDevice_error h]; exact .single (.of_sameStanding (.note w _))

theorem removable_bypasses (b : DriverId) (hd : f ≠ d) : Removable (Bypasses f) b d where
  note w n := .of_sameStanding (.note w n)
  move := moveDevice_bypasses hd
  restore := restoreDevice_bypasses hd
  close := .step fun w => .closeLock w d
  leave w _ := .single (.leaveParent w d)
  erase _ := .step fun _ => .of_sameStanding (.of_devices rfl)
  letGo := .step fun _ => .of_sameStanding (.of_devices rfl)
  take w r := .of_sameStanding (.take w d r)
  giveBack r := .step fun w => .of_sameStanding (giveBack_sameStanding w r d)
  takeChildren := .step fun w => .takeChildren w d

/-! ## What is left to do -/

abbrev Terms.removal (b : DriverId) : Terms := ⟨.free b, True, fun _ => False, fun _ => False⟩

theorem drain_ends {p : World → α → Prop} {k : Unit → World → Run α} (he : ((drain (.device d) v).bind k).Ends p) :
    ((v.after (closeLock (.device d))).device d).lock.latch = true ∧
      (drain (.device d) v).bind k = k () (v.after (closeLock (.device d))) := by
  have hk :
      (drain (.device d) v).bind k = Run.bind (if (v.after (closeLock (.device d))).isSet (.drained (.device d))
      then .done _ () else .wait _ (.drained (.device d)) fun w => .done w ()) k := rfl
  rw [hk] at he ⊢
  by_cases h : (v.after (closeLock (.device d))).isSet (.drained (.device d)) = true
  · exact ⟨h, by rw [if_pos h]; rfl⟩
  · rw [if_neg h] at he
    exact he.elim

theorem finishRemoval_leaving (hs : w.Sane (.free b)) (hc : w.IsClosed d) (hl : (w.device d).lock.latch = true)
    (hx : w.IsLeaving d) : ((finishRemoval b d).run w).1 = .ok () := by
  have hdrained : (w.device d).lock.isDrained = true := Bool.and_eq_true _ _ ▸ ⟨hc, hl⟩
  obtain ⟨-, n, -, he⟩ | ⟨hn, -⟩ := finishRemoval_cases (b := b) (hs.registered d hc.size).mpr hdrained hc.size
  · rw [he]
  · exact absurd hx hn

theorem World.leaving_of_lifecycle (hx : v.IsLeaving d) (h : (w.device d).lifecycle = (v.device d).lifecycle) :
    w.IsLeaving d := by
  unfold IsLeaving Device.state
  rw [h]
  exact hx

theorem closeLock_leaving (hs : v.Sane (.free b)) (hd : d < v.devices.size) (hx : v.IsLeaving d) :
    (v.after (closeLock (.device d))).Sane (.free b) ∧ (v.after (closeLock (.device d))).IsClosed d ∧
      (v.after (closeLock (.device d))).IsLeaving d := by
  have ho := closeLock_own (T := .removal b) trivial hd fun _ => .inl hx
  exact ⟨ho.1.sane hs, World.closed_closeLock hd, World.leaving_of_lifecycle hx (v.lifecycle_closeLock d d)⟩

theorem drainAndDelete_leaving {p : World → Except Status Unit → Prop} (hs : v.Sane (.free b))
    (hd : d < v.devices.size) (hx : v.IsLeaving d) (he : ((drainAndDelete b d).run v).Ends p) :
    ((drainAndDelete b d).run v).Ends fun _ a => a = .ok () := by
  rw [drainAndDelete, Call.run_bind, Call.run_call, Run.bind_assoc] at he ⊢
  obtain ⟨hl, hk⟩ := drain_ends he
  obtain ⟨hs, hc, hx⟩ := closeLock_leaving hs hd hx
  rw [hk]
  exact finishRemoval_leaving hs hc hl hx

theorem finishFunctional_leaving (hs : w.Sane (.free b)) (hc : w.IsClosed d) (hl : (w.device d).lock.latch = true)
    (hx : w.IsLeaving d) (s : Status) : (finishFunctional b d s w).Ends fun _ s' => s' = .success := by
  have hfinish :
      ((finishRemoval b d).run (if s.isSuccess then w else w.note (.lowerRefusedRemoval s))).1 = .ok () := by
    split
    · exact finishRemoval_leaving hs hc hl hx
    · exact finishRemoval_leaving (w := w.note _) ((Evolves.note (p := True) w rfl).sane hs) hc hl hx
  unfold finishFunctional
  rcases h : (finishRemoval b d).run (if s.isSuccess then w else w.note (.lowerRefusedRemoval s)) with ⟨e | _, w'⟩
  · rw [h] at hfinish; cases hfinish
  · exact rfl

/-! ## Whole removals -/

theorem removePhysical_leaving {p : World → Except Status Unit → Prop} (hs : v.Sane (.free b))
    (hd : d < v.devices.size) (hx : v.IsLeaving d) (he : ((physicalMinor b d r .removeDevice).run v).Ends p) :
    ((physicalMinor b d r .removeDevice).run v).Ends fun _ a => a = .ok () := by
  have hk := giveBack_sameStanding v r d
  have hs' := (giveBack_keeps v r d (R := .free b) (p := False) (P := fun _ => False)).1.sane hs
  generalize hv : v.after (giveBack r d) = v₁ at hk hs'
  have hx' := World.leaving_of_lifecycle hx (hk.device d).lifecycle
  have heq : (physicalMinor b d r .removeDevice).run v = (drainAndDelete b d).run v₁ := by
    rw [physicalMinor, Call.run_bind, Call.run_act, hv]
    show (do enterRemoval d; drainAndDelete b d : ExceptT Status Call Unit).run v₁ = _
    rw [Call.run_bind, Call.run_lift, World.after, enterRemoval_leaving hx']
    rfl
  rw [heq] at he ⊢
  exact drainAndDelete_leaving hs' (hk.size ▸ hd) hx' he

theorem removeFunctional_leaving {below : Call Status} {p : World → Status → Prop} (hs : v.Sane (.free b))
    (hd : d < v.devices.size) (hf : (v.device d).role = .functional) (hx : v.IsLeaving d)
    (hb : ∀ w, w.Sane (.free b) → v.Later w → (below w).Keeps (.removal b) (fun _ _ => True) w ∧
      (below w).Along (Bypasses d) Q (fun _ _ => True) w)
    (he : (removeFunctional b d r below v).Ends p) :
    (removeFunctional b d r below v).Ends fun _ s => s = .success := by
  have hT : (Terms.removal b).removing := trivial
  have ht := takeChildren_own hT v d
  have hchild (c : DeviceId) (hc : c ∈ (v.device d).children) :
      c < (v.after (takeChildren d)).devices.size ∧ ((v.after (takeChildren d)).device c).role = .physical :=
    have hc := hs.children d c hc
    ⟨Nat.lt_of_lt_of_le hc.size ht.1.later.devices, (ht.1.later.device c hc.size).role.trans hc.physical⟩
  have hkeep := tearDownAll_keeps hT (ht.1.sane hs) hchild
  have hun : v.Unlisted (· = d) := hs.unlisted (by rintro _ rfl _; exact hf)
  have hgoes : ((v.device d).children.forM (tearDownChild b) : Call Unit).Goes (Bypasses d) Q :=
    tearDownAll_goes fun c hc => (removable_bypasses b (by rintro rfl; exact hun _ rfl _ hc)).toDeletable
  rw [removeFunctional_ok b d r below (enterRemoval_leaving hx)] at he ⊢
  refine (hkeep.ends id ((hgoes _).ends he.of_bind)).bind fun w _ ⟨hown, _, hsteps, he⟩ => ?_
  have hl₁ : v.Later w := ht.1.later.trans hown.1.later
  have hx₁ := World.leaving_of_lifecycle hx
    ((World.of_steps hsteps).lifecycle.trans (Bypasses.takeChildren (f := d) v d).lifecycle)
  have hg := (giveBack_keeps w r d (R := .free b) (p := False) (P := fun _ => False)).1
  have hx₂ := World.leaving_of_lifecycle hx₁ ((giveBack_sameStanding w r d).device d).lifecycle
  have hs₂ := hg.sane (hown.1.sane (ht.1.sane hs))
  have hl₂ := hl₁.trans hg.later
  generalize w.after (giveBack r d) = w₂ at he hx₂ hs₂ hl₂
  have hd₂ : d < w₂.devices.size := Nat.lt_of_lt_of_le hd hl₂.devices
  obtain ⟨hlatch, hk⟩ := drain_ends he
  obtain ⟨hs₃, hc₃, hx₃⟩ := closeLock_leaving hs₂ hd₂ hx₂
  have hl₃ := hl₂.trans (w₂.later_close d)
  rw [hk] at he ⊢
  generalize w₂.after (closeLock (.device d)) = w₃ at he hs₃ hc₃ hx₃ hl₃ hlatch
  obtain ⟨hkeep', hgoes'⟩ := hb w₃ hs₃ hl₃
  refine (hkeep'.ends id (hgoes'.ends he.of_bind)).bind fun w₄ s ⟨hown', _, hsteps', _⟩ => ?_
  have hx₄ := World.leaving_of_lifecycle hx₃ (World.of_steps hsteps').lifecycle
  have hl₄ := hown'.1.later
  exact finishFunctional_leaving (hown'.1.sane hs₃) (hl₄.closed hc₃) ((hl₄.device d hc₃.size).latch hlatch) hx₄ s

theorem admitted_leaving {k : Kind} {handler : Call Status} {p : World → Status → Prop} (hr : v.Knows r)
    (hd : d < v.devices.size) (ho : ¬v.IsClosed d) (hx : v.IsLeaving d)
    (hh : ∀ w, Evolves (.free b) False v w → w.IsLeaving d → (handler w).Ends p →
      (handler w).Ends fun _ s => s = .success)
    (he : (admitted d r k handler v).Ends p) : (admitted d r k handler v).Ends fun _ s => s = .success := by
  have hg : (v.device d).state ≠ .deleted := fun e => World.IsGone.not_leaving e hx
  rw [admitted_ok (enter_open r k hg ho)] at he ⊢
  refine hh (v.take d r) ?_ ?_ he
  · exact .of_move (.transfer (.take d r hd hr ho False.elim))
  · exact World.leaving_of_lifecycle hx ((SameStanding.take v d r).device d).lifecycle

/-- A removal of a stack whose top is on its way out succeeds if it does not have to wait. -/
theorem deliver_leaving {p : World → Status → Prop} (hs : v.Sane (.free b)) (hr : v.Knows r) (hl : v.Linked t)
    (ho : ¬v.IsClosed t.top) (hx : v.IsLeaving t.top) (he : (deliver b r (.pnp .removeDevice) t v).Ends p) :
    (deliver b r (.pnp .removeDevice) t v).Ends fun _ s => s = .success := by
  cases t with
  | physical d =>
    refine admitted_leaving (b := b) hr hl.1 ho hx (fun w hw hx he => ?_) he
    rw [physical_pnp] at he ⊢
    generalize hv : w.note _ = v₁ at he ⊢
    have hv₁ : Evolves (.free b) False v v₁ := hv ▸ hw.trans (.note w rfl)
    have hd := Nat.lt_of_lt_of_le hl.1 hv₁.later.devices
    refine (removePhysical_leaving (hv₁.sane hs) hd (hv ▸ hx) he.of_bind).bind fun u a ha => ?_
    rw [ha]
    exact rfl
  | functional d lower =>
    refine admitted_leaving (b := b) hr hl.1 ho hx (fun w hw hx he => ?_) he
    rw [functional_pnp] at he ⊢
    generalize hv : w.note _ = v₁ at he ⊢
    have hv₁ : Evolves (.free b) False v v₁ := hv ▸ hw.trans (.note w rfl)
    have hd := Nat.lt_of_lt_of_le hl.1 hv₁.later.devices
    have hf : (v₁.device d).role = .functional := (hv₁.later.device d hl.1).role.trans hl.2.1
    refine removeFunctional_leaving (Q := World.StaysUnlisted (· = d)) (hv₁.sane hs) hd hf (hv ▸ hx)
      (fun u hu hlater => ?_) he
    have hfu : (u.device d).role = .functional := (hlater.device d hd).role.trans hf
    constructor
    · refine (deliver_keeps (T := .removal b) trivial hu ?_ ?_ False.elim).imp fun _ _ _ _ => trivial
      · exact (hv₁.later.trans hlater).knows hr
      · exact (hv₁.later.trans hlater).linked hl.2.2.2
    · refine deliver_removal (I := World.Unlisted (· = d)) (fun _ _ => Bypasses.unlisted) (fun _ _ h _ => h)
        (fun u' hu' x c hc => ?_) (fun x hx => removable_bypasses b ?_) (hu.unlisted ?_)
      · exact (removable_bypasses b (by rintro rfl; exact hu' _ rfl x hc)).toDeletable
      · exact fun e => absurd (hl.2.2.2.le_top x hx) (e ▸ Nat.not_le_of_lt hl.2.2.1)
      · rintro _ rfl _
        exact hfu

end PnpBus
