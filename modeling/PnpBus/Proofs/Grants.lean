import PnpBus.Proofs.Births
import PnpBus.Proofs.Transparency

/-!
# What a stack grants and what it refuses

The devices of a stack may be in different states. If each of them would grant
a PnP request, the stack grants it, and every device takes the step that it
would take alone. If the top device refuses, no device moves. A question, a
power request or plain I/O moves nothing, whoever answers.
-/

namespace PnpBus

variable {b : DriverId} {r : RequestId} {d x : DeviceId} {ds : List DeviceId} {m : Minor}
  {t : PnpState} {s : Status} {k : Kind} {Q : World → World → Prop} {u v w : World}

/-! ## Requests that move nothing -/

namespace World.SameStanding

theorem note (w : World) (n : Notice) : w.SameStanding (w.note n) := of_devices rfl

theorem updateRequest (w : World) (r : RequestId) (f : Request → Request) : w.SameStanding (w.updateRequest r f) :=
  of_devices rfl

theorem take (w : World) (d : DeviceId) (r : RequestId) : w.SameStanding (w.take d r) := by
  have hlock :
      w.SameStanding (w.setLock (.device d) { (w.device d).lock with count := (w.device d).lock.count + 1 }) :=
    setLock w d rfl id
  exact hlock.trans (updateRequest _ r _)

instance : Std.Refl SameStanding := ⟨refl⟩

instance : IsTrans World SameStanding := ⟨fun _ _ _ => trans⟩

theorem complete (w : World) (r : RequestId) (s : Status) : w.SameStanding (w.after (complete r s)) :=
  (Passing.complete (b := 0) w r s).sameStanding

theorem settle (w : World) (r : RequestId) (s : Status) : w.SameStanding (w.after (settle r s)) :=
  of_steps (settle_along (.step fun w => .complete w r s) w)

end World.SameStanding

open World (SameStanding)

theorem changePower_sameStanding (d : DeviceId) (c : PowerChange) : (changePower d c).run.Goes SameStanding := by
  intro w
  unfold World.after
  by_cases h : (w.device d).state = .deleted
  · rw [changePower_error c h]
  · rw [changePower_ok c h]
    exact .single (.updateDevice w d ⟨rfl, rfl, rfl, rfl, rfl, id⟩)

theorem servable_sameStanding (hk : k.isStill = true) (r : RequestId) (d : DeviceId) :
    Servable SameStanding k r d where
  note := .note
  take w := .take w d r
  inform _ := .step fun w => .updateRequest w r _
  move h := by rw [hk] at h; cases h
  restore h := by rw [hk] at h; cases h
  power := changePower_sameStanding d
  letPass w gate := (SameStanding.setGate w _ gate).trans (.updateRequest _ r _)
  divert w i := by
    unfold World.divert
    split <;> exact .of_devices rfl
  complete s := .step fun w => .complete w r s

theorem deliver_still (hk : k.isStill = true) (b : DriverId) (r : RequestId) (t : Stack) :
    (deliver b r k t).Goes SameStanding Q := by
  refine deliver_along b ?_ fun x _ => servable_sameStanding hk r x
  rintro rfl
  cases hk

/-! ## Requests that the top device refuses -/

namespace Lifecycle

variable {l : Lifecycle}

theorem attempt_granted (h : (l.attempt t).1 = .success) : l.current.canBecome t = true ∧
    (l.attempt t).2 = ⟨t, l.current⟩ := by
  unfold attempt at h ⊢
  by_cases hc : l.current.canBecome t = true
  · rw [if_pos hc]; exact ⟨hc, rfl⟩
  · rw [if_neg hc] at h; cases h

theorem attempt_refused (h : (l.attempt t).1 = .invalidState) : ¬l.current.canBecome t = true := by
  intro hc
  unfold attempt at h
  rw [if_pos hc] at h
  cases h

theorem start_refused (h : (Minor.startDevice.answer l).1 = .invalidState) :
    ¬l.current.canBecome .startPending = true := by
  intro hc
  rw [Minor.answer, if_pos hc] at h
  cases h

theorem remove_refused (h : (Minor.removeDevice.answer l).1 = .invalidState) : l.leave? = none := by
  simp only [Minor.answer] at h
  split at h
  · cases h
  · assumption

end Lifecycle

theorem enterRemoval_unable (h : (w.device d).lifecycle.leave? = none) :
    ∃ n, (enterRemoval d).run w = (.error .invalidState, w.note n) := by
  unfold Lifecycle.leave? at h
  split at h
  · cases h
  next hl =>
    split at h
    · cases h
    next hc => exact ⟨_, (enterRemoval_staying hl).trans (moveDevice_error hc)⟩

theorem giveBack_sameStanding (w : World) (r : RequestId) (d : DeviceId) :
    w.SameStanding (w.after (giveBack r d)) := by
  rw [World.after_giveBack]
  split
  · exact (SameStanding.updateRequest w r _).trans (World.OnlyReleases.releaseLock _ d).sameStanding
  · exact .refl w

/-- What a device refuses to do for itself, its handler refuses before anything has moved. -/
theorem physicalMinor_refused (hm : (m.answer (v.device d).lifecycle).1 = .invalidState) :
    ((physicalMinor b d r m).run v).Along SameStanding Q (fun _ _ => True) v := by
  have move {t : PnpState} (h : ((v.device d).lifecycle.attempt t).1 = .invalidState) :
      ((liftM (moveDevice d t) : ExceptT Status Call Unit).run v).Along SameStanding Q (fun _ _ => True) v := by
    rw [Call.run_lift, World.after, moveDevice_error (Lifecycle.attempt_refused h)]
    exact .step (.note v _) trivial
  cases m with
  | startDevice =>
    have hc : ¬(v.device d).state.canBecome .startPending = true := Lifecycle.start_refused hm
    rw [physicalMinor, Call.run_bind, Call.run_lift, World.after, moveDevice_error hc]
    exact .step (.note v _) trivial
  | queryStopDevice => exact move hm
  | stopDevice => exact move hm
  | queryRemoveDevice => exact move hm
  | surpriseRemoval => exact move hm
  | removeDevice =>
    have hk := giveBack_sameStanding v r d
    have hl : ((v.after (giveBack r d)).device d).lifecycle.leave? = none := by
      rw [(hk.device d).lifecycle]
      exact Lifecycle.remove_refused hm
    obtain ⟨n, hn⟩ := enterRemoval_unable hl
    generalize hv : v.after (giveBack r d) = v₁ at hk hn
    rw [physicalMinor, Call.run_bind, Call.run_act, hv]
    show Run.Along _ _ _ _ ((do enterRemoval d; drainAndDelete b d : ExceptT Status Call Unit).run v₁)
    rw [Call.run_bind, Call.run_lift, World.after, hn]
    exact Run.Along.from (.single hk) (.step (.note v₁ n) trivial)
  | queryRelations t => cases t <;> cases hm
  | _ => cases hm

theorem functionalMinor_refused (hm : (m.answer (v.device d).lifecycle).1 = .invalidState) (below : Call Status) :
    (functionalMinor b d r below m v).Along SameStanding Q (fun _ _ => True) v := by
  have move {t : PnpState} (next : Call Status) (h : ((v.device d).lifecycle.attempt t).1 = .invalidState) :
      (moveThen d t next v).Along SameStanding Q (fun _ _ => True) v := by
    rw [moveThen_error d v next (Lifecycle.attempt_refused h)]
    exact .step (.note v _) trivial
  cases m with
  | startDevice =>
    have hc : ¬(v.device d).state.canBecome .startPending = true := Lifecycle.start_refused hm
    show (moveThen d .startPending _ v).Along _ _ _ _
    rw [moveThen_error d v _ hc]
    exact .step (.note v _) trivial
  | queryStopDevice => exact move _ hm
  | stopDevice => exact move _ hm
  | queryRemoveDevice => exact move _ hm
  | surpriseRemoval => exact move _ hm
  | removeDevice =>
    obtain ⟨n, hn⟩ := enterRemoval_unable (Lifecycle.remove_refused hm)
    show (removeFunctional b d r below v).Along _ _ _ _
    rw [removeFunctional_error b d r below hn]
    exact .step (.note v n) trivial
  | queryRelations t => cases t <;> cases hm
  | _ => cases hm

theorem deliver_refused {t : Stack} (hm : (m.answer (v.device t.top).lifecycle).1 = .invalidState) :
    (deliver b r (.pnp m) t v).Along SameStanding Q (fun _ _ => True) v := by
  have refused {w : World} {d : DeviceId} (hk : v.SameStanding w)
      (hd : (m.answer (v.device d).lifecycle).1 = .invalidState) :
      (m.answer (w.device d).lifecycle).1 = .invalidState := by
    rw [(hk.device d).lifecycle]
    exact hd
  cases t with
  | physical d =>
    have hk :=
      (SameStanding.take v d r).trans (.note _ (.physicalAsked ((v.take d r).device d).identity.deviceId m))
    refine .admitted (fun _ => trivial) (.note v) (.take v d r) ?_
    rw [physical_pnp]
    refine Run.Along.from (.single (.note _ _)) ((physicalMinor_refused (refused hk hm)).bind fun u a _ => ?_)
    cases a with
    | ok _ => exact .same trivial
    | error e => exact .step (.note u _) trivial
  | functional d lower =>
    have hk :=
      (SameStanding.take v d r).trans (.note _ (.functionalAsked ((v.take d r).device d).identity.deviceId m))
    refine .admitted (fun _ => trivial) (.note v) (.take v d r) ?_
    rw [functional_pnp]
    exact (functionalMinor_refused (refused hk hm) _).from (.single (.note _ _))

/-! ## Requests that every device grants -/

namespace World

structure Beside (d : DeviceId) (v w : World) : Prop where
  size : w.devices.size = v.devices.size
  requests : w.requests.size = v.requests.size
  role : (w.device d).role = (v.device d).role
  draining : (w.device d).lock.draining = (v.device d).lock.draining
  device : ∀ x ≠ d, w.device x = v.device x

namespace Beside

theorem refl (w : World) : Beside d w w := ⟨rfl, rfl, rfl, rfl, fun _ _ => rfl⟩

theorem trans (h : Beside d u v) (h' : Beside d v w) : Beside d u w where
  size := h'.size.trans h.size
  requests := h'.requests.trans h.requests
  role := h'.role.trans h.role
  draining := h'.draining.trans h.draining
  device x hx := (h'.device x hx).trans (h.device x hx)

theorem note (w : World) (n : Notice) : Beside d w (w.note n) := ⟨rfl, rfl, rfl, rfl, fun _ _ => rfl⟩

theorem updateDevice (w : World) {f : Device → Device} (hr : (f (w.device d)).role = (w.device d).role)
    (hl : (f (w.device d)).lock.draining = (w.device d).lock.draining) : Beside d w (w.updateDevice d f) := by
  refine ⟨w.size_updateDevice d f, rfl, ?_, ?_, fun x hx => ?_⟩
  · rw [device_updateDevice]
    split
    · exact hr
    · rfl
  · rw [device_updateDevice]
    split
    · exact hl
    · rfl
  · rw [device_updateDevice, if_neg fun e => hx e.1]

theorem setLifecycle (w : World) (d : DeviceId) (l : Lifecycle) : Beside d w (w.setLifecycle d l) :=
  updateDevice w rfl rfl

theorem take (w : World) (d : DeviceId) (r : RequestId) : Beside d w (w.take d r) := by
  have h : Beside d w (w.setLock (.device d) { (w.device d).lock with count := (w.device d).lock.count + 1 }) :=
    updateDevice w rfl rfl
  exact ⟨h.size, (requests_size_updateRequest ..).trans h.requests, h.role, h.draining, h.device⟩

theorem knows (h : Beside d v w) (hr : v.Knows r) : w.Knows r := by
  unfold Knows
  rw [h.requests]
  exact hr

theorem linked (h : Beside d v w) {t : Stack} : v.Linked t → w.Linked t := by
  refine Linked.mono (Nat.le_of_eq h.size.symm) fun x _ => ?_
  by_cases hx : x = d
  · rw [hx]; exact h.role
  · rw [h.device x hx]

theorem closed (h : Beside d v w) (x : DeviceId) : (w.device x).lock.draining = (v.device x).lock.draining := by
  by_cases hx : x = d
  · rw [hx]; exact h.draining
  · rw [h.device x hx]

end Beside

structure Grants (m : Minor) (w : World) (d : DeviceId) : Prop where
  present : (w.device d).state ≠ .deleted
  opened : (w.device d).lock.draining ≠ true
  success : (m.answer (w.device d).lifecycle).1 = .success

theorem Beside.grants (h : Beside d v w) (hx : x ≠ d) (hg : v.Grants m x) : w.Grants m x := by
  have he := h.device x hx
  exact ⟨by rw [he]; exact hg.present, by rw [he]; exact hg.opened, by rw [he]; exact hg.success⟩

structure Granted (m : Minor) (ds : List DeviceId) (v w : World) (s : Status) : Prop where
  status : s = .success
  size : w.devices.size = v.devices.size
  draining : ∀ x, (w.device x).lock.draining = (v.device x).lock.draining
  taken : ∀ x ∈ ds, (w.device x).lifecycle = (m.answer (v.device x).lifecycle).2
  others : ∀ x ∉ ds, (w.device x).lifecycle = (v.device x).lifecycle

namespace Granted

theorem of_sameStanding (hk : u.SameStanding v) (h : Granted m ds v w s) : Granted m ds u w s where
  status := h.status
  size := h.size.trans hk.size
  draining x := (h.draining x).trans (hk.device x).draining
  taken x hx := by rw [h.taken x hx, (hk.device x).lifecycle]
  others x hx := (h.others x hx).trans (hk.device x).lifecycle

theorem then_sameStanding (h : Granted m ds u v s) (hk : v.SameStanding w) : Granted m ds u w s where
  status := h.status
  size := hk.size.trans h.size
  draining x := (hk.device x).draining.trans (h.draining x)
  taken x hx := (hk.device x).lifecycle.trans (h.taken x hx)
  others x hx := (hk.device x).lifecycle.trans (h.others x hx)

/-- The device `d` takes its step before or after the devices `ds`, or both. -/
theorem extend {v' w' : World} (hd : d ∉ ds) (hv : Beside d v v') (h : Granted m ds v' w' s) (hw : Beside d w' w)
    (hl : (w.device d).lifecycle = (m.answer (v.device d).lifecycle).2) : Granted m (d :: ds) v w s where
  status := h.status
  size := (hw.size.trans h.size).trans hv.size
  draining x := (hw.closed x).trans ((h.draining x).trans (hv.closed x))
  taken x hx := by
    rcases List.mem_cons.mp hx with rfl | hx
    · exact hl
    · have hxd : x ≠ d := fun e => hd (e ▸ hx)
      rw [hw.device x hxd, h.taken x hx, hv.device x hxd]
  others x hx := by
    obtain ⟨hxd, hx⟩ := not_or.mp fun e => hx (List.mem_cons.mpr e)
    rw [hw.device x hxd, h.others x hx, hv.device x hxd]

theorem single (hw : Beside d v w) (hl : (w.device d).lifecycle = (m.answer (v.device d).lifecycle).2) :
    Granted m [d] v w .success :=
  have nothing : Granted m [] v v .success := ⟨rfl, rfl, fun _ => rfl, nofun, fun _ _ => rfl⟩
  nothing.extend List.not_mem_nil (.refl v) hw hl

end Granted

theorem lifecycle_setLifecycle (hd : d < w.devices.size) (l : Lifecycle) :
    ((w.setLifecycle d l).device d).lifecycle = l := by
  unfold setLifecycle
  rw [device_updateDevice, if_pos ⟨rfl, hd⟩]

/-- A cancel succeeds, and takes back just what was asked for with the query. -/
theorem cancel_takesBack (hd : d < w.devices.size) (ht : t.isRevocable = true) :
    ∃ w', (cancel d t).run w = (.ok (), w') ∧ Beside d w w' ∧
      (w'.device d).lifecycle = (w.device d).lifecycle.takeBack t := by
  unfold Lifecycle.takeBack
  by_cases hc : (w.device d).lifecycle.current = t
  · have hr : (w.device d).state.isRevocable = true := by
      unfold Device.state
      rw [hc]
      exact ht
    rw [cancel_of_eq hc, restoreDevice_ok hr, if_pos hc]
    exact ⟨_, rfl, .setLifecycle w d _, lifecycle_setLifecycle hd _⟩
  · rw [cancel_of_ne hc, if_neg hc]
    exact ⟨w, rfl, .refl w, rfl⟩

end World

open World (Beside Granted)

section
variable (hs : m ≠ .startDevice) (hr : m ≠ .removeDevice)
include hs hr

theorem physicalMinor_granted (hd : d < v.devices.size) (hm : (m.answer (v.device d).lifecycle).1 = .success) :
    ((physicalMinor b d r m).run v).Ends fun w a => v.Granted m [d] w (.ofResult a) := by
  have move {t : PnpState} (he : m.answer (v.device d).lifecycle = (v.device d).lifecycle.attempt t) :
      ((liftM (moveDevice d t) : ExceptT Status Call Unit).run v).Ends fun w a =>
        v.Granted m [d] w (.ofResult a) := by
    rw [he] at hm
    obtain ⟨hc, hl⟩ := Lifecycle.attempt_granted hm
    rw [Call.run_lift, World.after, moveDevice_ok hc]
    exact .single (.setLifecycle v d _) (by rw [World.lifecycle_setLifecycle hd, he, hl]; rfl)
  have back {t : PnpState} (ht : t.isRevocable = true)
      (he : m.answer (v.device d).lifecycle = (.success, (v.device d).lifecycle.takeBack t)) :
      ((liftM (cancel d t) : ExceptT Status Call Unit).run v).Ends fun w a => v.Granted m [d] w (.ofResult a) := by
    obtain ⟨w, hw, hb, hl⟩ := World.cancel_takesBack hd ht
    rw [Call.run_lift, World.after, hw]
    exact .single hb (by rw [hl, he])
  cases m with
  | startDevice => exact absurd rfl hs
  | removeDevice => exact absurd rfl hr
  | queryStopDevice => exact move rfl
  | cancelStopDevice => exact back rfl rfl
  | stopDevice => exact move rfl
  | queryRemoveDevice => exact move rfl
  | cancelRemoveDevice => exact back rfl rfl
  | surpriseRemoval => exact move rfl
  | queryId t => exact Granted.single (.refl v) rfl |>.then_sameStanding (.updateRequest v r _)
  | queryRelations t =>
    cases t with
    | target => exact Granted.single (.refl v) rfl |>.then_sameStanding (.updateRequest v r _)
    | _ => cases hm

theorem functionalMinor_granted {below : Call Status} (hd : d < v.devices.size) (hn : d ∉ ds)
    (hm : (m.answer (v.device d).lifecycle).1 = .success)
    (hb : ∀ w, Beside d v w → (below w).Ends (w.Granted m ds)) :
    (functionalMinor b d r below m v).Ends (v.Granted m (d :: ds)) := by
  have move {t : PnpState} (next : Call Status)
      (he : m.answer (v.device d).lifecycle = (v.device d).lifecycle.attempt t)
      (hnext : ∀ w, Beside d v w → (next w).Ends (w.Granted m ds)) :
      (moveThen d t next v).Ends (v.Granted m (d :: ds)) := by
    rw [he] at hm
    obtain ⟨hc, hl⟩ := Lifecycle.attempt_granted hm
    rw [moveThen_ok d v next hc]
    refine (hnext _ (.setLifecycle v d _)).imp fun w s hw => hw.extend hn (.setLifecycle v d _) (.refl w) ?_
    rw [hw.others d hn, World.lifecycle_setLifecycle hd, he, hl]
    rfl
  have ask (w : World) (hw : Beside d v w) : (forwardOrRollBack d below w).Ends (w.Granted m ds) := by
    rw [forwardOrRollBack_apply]
    refine (hb w hw).bind fun u s hu => ?_
    rw [if_pos (by rw [hu.status]; rfl)]
    exact hu
  have back {t : PnpState} (ht : t.isRevocable = true)
      (he : m.answer (v.device d).lifecycle = (.success, (v.device d).lifecycle.takeBack t)) :
      (forwardThenCancel d t below v).Ends (v.Granted m (d :: ds)) := by
    rw [forwardThenCancel_apply]
    refine (hb v (.refl v)).bind fun w s hw => ?_
    obtain ⟨w', hw', hbeside, hl⟩ := World.cancel_takesBack (hw.size ▸ hd) ht
    rw [World.after, hw']
    exact hw.extend hn (.refl v) hbeside (by rw [hl, hw.others d hn, he])
  have pass (he : (m.answer (v.device d).lifecycle).2 = (v.device d).lifecycle) :
      (below v).Ends (v.Granted m (d :: ds)) :=
    (hb v (.refl v)).imp fun w s hw => hw.extend hn (.refl v) (.refl w) (by rw [hw.others d hn, he])
  cases m with
  | startDevice => exact absurd rfl hs
  | removeDevice => exact absurd rfl hr
  | queryStopDevice => exact move _ rfl ask
  | cancelStopDevice => exact back rfl rfl
  | stopDevice => exact move _ rfl hb
  | queryRemoveDevice => exact move _ rfl ask
  | cancelRemoveDevice => exact back rfl rfl
  | surpriseRemoval => exact move _ rfl hb
  | queryId t => exact pass rfl
  | queryRelations t =>
    cases t with
    | target => exact pass rfl
    | _ => cases hm

/-- What every device of a stack grants, the stack grants. -/
theorem deliver_granted : ∀ {t : Stack} {v : World}, v.Linked t → v.Knows r → (∀ x ∈ t.members, v.Grants m x) →
    (deliver b r (.pnp m) t v).Ends (v.Granted m t.members)
  | .physical d, v, hl, _, hg => by
    have hd := hg d List.mem_cons_self
    rw [deliver, admitted_ok (enter_open r _ hd.present hd.opened)]
    show (physical b d r (.pnp m) (v.take d r)).Ends _
    rw [physical_pnp]
    generalize hv : (v.take d r).note _ = v₁
    have hk : v.SameStanding v₁ := hv ▸ (SameStanding.take v d r).trans (.note _ _)
    have hm : (m.answer (v₁.device d).lifecycle).1 = .success := by
      rw [(hk.device d).lifecycle]
      exact hd.success
    refine (physicalMinor_granted (b := b) (r := r) hs hr (hk.size ▸ hl.1) hm).bind fun w a hw => ?_
    cases a with
    | ok _ => exact hw.of_sameStanding hk
    | error e => exact (hw.of_sameStanding hk).then_sameStanding (.note w _)
  | .functional d lower, v, ⟨hsize, _, hlt, hl⟩, hknown, hg => by
    have hd := hg d List.mem_cons_self
    have hn : d ∉ lower.members := fun hx => absurd (hl.le_top d hx) (Nat.not_le_of_lt hlt)
    rw [deliver, admitted_ok (enter_open r _ hd.present hd.opened)]
    show (functional b d r _ (.pnp m) (v.take d r)).Ends _
    rw [functional_pnp]
    generalize hv : (v.take d r).note _ = v₁
    have hk : v.SameStanding v₁ := hv ▸ (SameStanding.take v d r).trans (.note _ _)
    have hbeside : Beside d v v₁ := hv ▸ (Beside.take v d r).trans (.note _ _)
    have hm : (m.answer (v₁.device d).lifecycle).1 = .success := by
      rw [(hk.device d).lifecycle]
      exact hd.success
    refine (functionalMinor_granted (b := b) (r := r) hs hr (hk.size ▸ hsize) hn hm fun w hw => ?_).imp
      fun _ _ hw => hw.of_sameStanding hk
    have hw := hbeside.trans hw
    refine deliver_granted (hw.linked hl) (hw.knows hknown) fun x hx => ?_
    exact hw.grants (fun e => hn (e ▸ hx)) (hg x (List.mem_cons_of_mem d hx))

end

end PnpBus
