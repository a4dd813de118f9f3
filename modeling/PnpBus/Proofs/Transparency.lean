import PnpBus.Proofs.Footprints

/-!
# Stacks answer like their physical device

`Kind.answer` is what a device without children makes of a request. A stack
whose devices all have the same posture, and lend nothing, makes the same of
it: every device moves from the one posture to the next, the request does not
wait, and its status is that of the physical device alone.
-/

namespace PnpBus

variable {α β : Type} {b : DriverId} {r : RequestId} {d x : DeviceId} {ds : List DeviceId} {k : Kind} {p : Posture}
  {n : Nat} {s : Status} {u v w : World}

/-! ## Answers of a single device -/

namespace Lifecycle

def attempt (m : Lifecycle) (t : PnpState) : Status × Lifecycle :=
  if m.current.canBecome t then (.success, ⟨t, m.current⟩) else (.invalidState, m)

def takeBack (m : Lifecycle) (queried : PnpState) : Lifecycle :=
  if m.current = queried then ⟨m.previous, m.previous⟩ else m

def leave? (m : Lifecycle) : Option Lifecycle :=
  if m.current.isLeaving then some m
  else if m.current.canBecome .removePending then some ⟨.removePending, m.current⟩
  else none

theorem ne_deleted_of_leave? {l m : Lifecycle} (h : l.leave? = some m) : l.current ≠ .deleted := by
  intro e
  rw [leave?, e] at h
  cases h

theorem IsOrderly.exists_leave {l : Lifecycle} (h : l.IsOrderly) (hs : l.current ≠ .startPending)
    (hp : l.current ≠ .stopPending) (hg : l.current ≠ .deleted) : ∃ m, l.leave? = some m := by
  have hr := h.current
  rw [leave?]
  cases hc : l.current <;> first | exact ⟨_, rfl⟩ | contradiction

end Lifecycle

def Minor.answer : Minor → Lifecycle → Status × Lifecycle
  | .startDevice, m =>
    if m.current.canBecome .startPending then (.success, ⟨.started, .startPending⟩) else (.invalidState, m)
  | .queryStopDevice, m => m.attempt .stopPending
  | .cancelStopDevice, m => (.success, m.takeBack .stopPending)
  | .stopDevice, m => m.attempt .stopped
  | .queryRemoveDevice, m => m.attempt .removePending
  | .cancelRemoveDevice, m => (.success, m.takeBack .removePending)
  | .removeDevice, m =>
    match m.leave? with
    | some m' => (.success, ⟨.deleted, m'.current.beforeDeletion⟩)
    | none => (.invalidState, m)
  | .surpriseRemoval, m => m.attempt .surpriseRemovePending
  | .queryId _, m => (.success, m)
  | .queryRelations .target, m => (.success, m)
  | .queryRelations _, m => (.notSupported, m)

namespace Kind

/-- What a device that is not deleted answers, and the posture it is in afterwards. -/
def answer : Kind → Posture → Status × Posture
  | pnp m, p => ((m.answer p.lifecycle).1, ⟨(m.answer p.lifecycle).2, p.power⟩)
  | power c, p => (.success, ⟨p.lifecycle, p.power.apply c⟩)
  | _, p => (.notSupported, p)

def reply (k : Kind) (p : Posture) : Status × Posture :=
  if p.lifecycle.current = .deleted then (.noSuchDevice, p) else k.answer p

/-- PnP and power requests, but for the one that a functional device answers from its own list. -/
def isPassedOn : Kind → Bool
  | pnp (.queryRelations .bus) => false
  | pnp _ => true
  | power _ => true
  | _ => false

end Kind

theorem Minor.answer_ne_pending (m : Minor) (l : Lifecycle) : (m.answer l).1 ≠ .pending := by
  have ha (t : PnpState) : (l.attempt t).1 ≠ .pending := by
    rw [Lifecycle.attempt]; split <;> exact nofun
  cases m with
  | startDevice => rw [answer]; split <;> exact nofun
  | queryStopDevice => exact ha _
  | stopDevice => exact ha _
  | queryRemoveDevice => exact ha _
  | surpriseRemoval => exact ha _
  | removeDevice => rw [answer]; split <;> exact nofun
  | queryRelations t => cases t <;> exact nofun
  | _ => exact nofun

theorem Kind.answer_ne_pending (k : Kind) (p : Posture) : (k.answer p).1 ≠ .pending := by
  cases k with
  | pnp m => exact m.answer_ne_pending p.lifecycle
  | _ => exact nofun

/-! ## Single steps -/

namespace World.Stands

theorem move_ok {t : PnpState} (h : v.Stands b r p n d) (ht : p.lifecycle.current.canBecome t = true) :
    ∃ w, (moveDevice d t).run v = (.ok (), w) ∧ Spares b r [d] v w ∧
      w.Stands b r ⟨⟨t, p.lifecycle.current⟩, p.power⟩ n d ∧ (w.device d).lock = (v.device d).lock := by
  have ⟨hs, hst⟩ := h.setLifecycle (PnpState.ne_deleted_of_canBecome ht) ⟨t, p.lifecycle.current⟩
  rw [moveDevice_ok (by rw [h.state]; exact ht), h.state]
  refine ⟨_, rfl, hs, hst, ?_⟩
  rw [World.setLifecycle, device_updateDevice, if_pos ⟨rfl, h.size⟩]

theorem move_error {t : PnpState} (h : v.Stands b r p n d) (ht : ¬p.lifecycle.current.canBecome t = true) :
    ∃ w, (moveDevice d t).run v = (.error .invalidState, w) ∧ Spares b r [] v w := by
  rw [moveDevice_error (by rw [h.state]; exact ht)]
  exact ⟨_, rfl, .note v _⟩

theorem cancel (h : v.Stands b r p n d) (hp : p.lifecycle.current ≠ .deleted) {t : PnpState}
    (ht : t.isRevocable = true) :
    ∃ w, (cancel d t).run v = (.ok (), w) ∧ Spares b r [d] v w ∧
      w.Stands b r ⟨p.lifecycle.takeBack t, p.power⟩ n d := by
  rw [Lifecycle.takeBack]
  by_cases hc : p.lifecycle.current = t
  · have hr : (v.device d).state.isRevocable = true := by rw [h.state, hc]; exact ht
    have ⟨hs, hst⟩ := h.setLifecycle hp ⟨p.lifecycle.previous, p.lifecycle.previous⟩
    rw [cancel_of_eq (h.state.trans hc), restoreDevice_ok hr, h.lifecycle, if_pos hc]
    exact ⟨_, rfl, hs, hst⟩
  · rw [cancel_of_ne fun e => hc (h.state.symm.trans e), if_neg hc]
    exact ⟨v, rfl, .refl v, h⟩

theorem enterRemoval_ok {m : Lifecycle} (h : v.Stands b r p n d) (hl : p.lifecycle.leave? = some m) :
    ∃ w, (enterRemoval d).run v = (.ok (), w) ∧ Spares b r [d] v w ∧ w.Stands b r ⟨m, p.power⟩ n d ∧
      (w.device d).lock = (v.device d).lock ∧ m.current.isLeaving = true := by
  unfold Lifecycle.leave? at hl
  split at hl
  next hx =>
    obtain rfl := Option.some.inj hl
    rw [enterRemoval_leaving (by rw [IsLeaving, h.state]; exact hx)]
    exact ⟨v, rfl, .refl v, h, rfl, hx⟩
  next hx =>
    split at hl
    next hc =>
      obtain rfl := Option.some.inj hl
      obtain ⟨w, hw, hs, hst, hlock⟩ := h.move_ok hc
      rw [enterRemoval_staying (by rw [IsLeaving, h.state]; exact hx), hw]
      exact ⟨w, rfl, hs, hst, hlock, rfl⟩
    next => cases hl

theorem enterRemoval_error (h : v.Stands b r p n d) (hl : p.lifecycle.leave? = none) :
    ∃ w, (enterRemoval d).run v = (.error .invalidState, w) ∧ Spares b r [] v w := by
  unfold Lifecycle.leave? at hl
  split at hl
  · cases hl
  next hx =>
    split at hl
    · cases hl
    next hc =>
      rw [enterRemoval_staying (by rw [IsLeaving, h.state]; exact hx)]
      exact h.move_error hc

theorem drain (h : w.Stands b r p 0 d) (hz : (w.device d).lock.count = 0 → (w.device d).lock.latch = true) :
    ∃ w', drain (.device d) w = .done w' () ∧ Spares b r [d] w w' ∧ w'.Drained b p d := by
  have hd := h.closeLock hz
  have hs : (w.after (PnpBus.closeLock (.device d))).isSet (.drained (.device d)) = true := by
    have := hd.drained
    rw [RemoveLock.isDrained, Bool.and_eq_true] at this
    exact this.2
  refine ⟨w.after (PnpBus.closeLock (.device d)), ?_, .closeLock w d, hd⟩
  show (if (w.after (PnpBus.closeLock (.device d))).isSet (.drained (.device d)) then _ else _) = _
  rw [if_pos hs]
  rfl

theorem drainAndDelete (h : v.Stands b r p 0 d) (hz : (v.device d).lock.count = 0 → (v.device d).lock.latch = true)
    (hl : p.lifecycle.current.isLeaving = true) :
    ∃ w, (drainAndDelete b d).run v = .done w (.ok ()) ∧ Spares b r [d] v w ∧
      (w.device d).posture = ⟨⟨.deleted, p.lifecycle.current.beforeDeletion⟩, p.power⟩ := by
  obtain ⟨v₁, hv₁, hs₁, hd⟩ := h.drain hz
  obtain ⟨w, hw, hs, hg⟩ := hd.finishRemoval (r := r) hl
  refine ⟨w, ?_, hs₁.trans hs, hg⟩
  rw [PnpBus.drainAndDelete, Call.run_bind, Call.run_call, hv₁]
  show Run.done ((PnpBus.finishRemoval b d).run v₁).2 ((PnpBus.finishRemoval b d).run v₁).1 = _
  rw [hw]

theorem admitted (h : v.Stands b r p 0 d) (hp : p.lifecycle.current ≠ .deleted) (hr : v.Knows r) (k : Kind)
    (handler : Call Status) :
    ∃ w, admitted d r k handler v = .via w (handler w) ∧ Spares b r [d] v w ∧ w.Stands b r p 1 d :=
  have ⟨hs, hst⟩ := h.take hr (by decide)
  ⟨v.take d r, admitted_ok (enter_open r k (by rw [h.state]; exact hp) h.not_closed), hs, hst⟩

end World.Stands

/-! ## Answers on the way back -/

namespace World

structure Rests (b : DriverId) (r : RequestId) (p : Posture) (w : World) (d : DeviceId) : Prop where
  posture : (w.device d).posture = p
  stands : p.lifecycle.current ≠ .deleted → ∃ n, w.Stands b r p n d

structure Answered (b : DriverId) (r : RequestId) (k : Kind) (p : Posture) (ds : List DeviceId) (v w : World)
    (s : Status) : Prop where
  status : s = (k.answer p).1
  spares : Spares b r ds v w
  rests : ∀ d ∈ ds, w.Rests b r (k.answer p).2 d

theorem Stands.rests (h : w.Stands b r p n d) : w.Rests b r p d := ⟨h.posture, fun _ => ⟨n, h⟩⟩

theorem Spares.rests (h : Spares b r ds v w) (hd : d ∉ ds) (hr : v.Rests b r p d) : w.Rests b r p d where
  posture := (h.posture d hd).trans hr.posture
  stands hg := (hr.stands hg).imp fun _ hs => h.stands hd hs

namespace Answered

theorem of_spares (hs : Spares b r ds u v) (h : Answered b r k p ds v w s) : Answered b r k p ds u w s :=
  ⟨h.status, hs.trans h.spares, h.rests⟩

theorem single (hs : Spares b r [d] v w) (hr : w.Rests b r (k.answer p).2 d) (he : s = (k.answer p).1) :
    Answered b r k p [d] v w s :=
  ⟨he, hs, fun x hx => by rw [List.mem_singleton.mp hx]; exact hr⟩

theorem extend {v₁ w₁ : World} (hd : d ∉ ds) (hv : Spares b r [d] v v₁) (h : Answered b r k p ds v₁ w₁ s)
    (hw : Spares b r [d] w₁ w) (hr : w.Rests b r (k.answer p).2 d) : Answered b r k p (d :: ds) v w s where
  status := h.status
  spares := by
    have hs := h.spares.mono fun x => List.mem_cons_of_mem d
    exact ((hv.of_mem List.mem_cons_self).trans hs).trans (hw.of_mem List.mem_cons_self)
  rests x hx := by
    rcases List.mem_cons.mp hx with rfl | hx
    · exact hr
    · exact hw.rests (fun e => hd (List.mem_singleton.mp e ▸ hx)) (h.rests x hx)

theorem refused (hp : (k.answer p).2 = p) (hs : Spares b r [] v w) (h : ∀ x ∈ ds, ∃ n, v.Stands b r p n x)
    (he : s = (k.answer p).1) : Answered b r k p ds v w s where
  status := he
  spares := hs.of_nil
  rests x hx := by
    obtain ⟨n, hx⟩ := h x hx
    rw [hp]
    exact (hs.stands List.not_mem_nil hx).rests

end Answered

end World

/-! ## Physical devices -/

theorem World.Answered.moved {m : Minor} {l : Lifecycle} (he : m.answer p.lifecycle = (s, l))
    (hs : Spares b r [d] v w) (hst : w.Stands b r ⟨l, p.power⟩ n d) : v.Answered b r (.pnp m) p [d] w s :=
  .single hs (by rw [Kind.answer, he]; exact hst.rests) (by rw [Kind.answer, he])

section
variable {m : Minor} (h : v.Stands b r p 1 d)
include h

theorem answered_same {a : Except Status Unit} (hs : World.Spares b r [] v w)
    (he : m.answer p.lifecycle = (.ofResult a, p.lifecycle)) : v.Answered b r (.pnp m) p [d] w (.ofResult a) := by
  refine .refused (by rw [Kind.answer, he]) hs (fun x hx => ?_) (by rw [Kind.answer, he])
  rw [List.mem_singleton.mp hx]; exact ⟨1, h⟩

theorem moveDevice_ends {t : PnpState} (he : m.answer p.lifecycle = p.lifecycle.attempt t) :
    ((liftM (moveDevice d t) : ExceptT Status Call Unit).run v).Ends fun w a =>
      v.Answered b r (.pnp m) p [d] w (.ofResult a) := by
  rw [Call.run_lift, World.after]
  rw [Lifecycle.attempt] at he
  by_cases ht : p.lifecycle.current.canBecome t = true
  · obtain ⟨w, hw, hs, hst, -⟩ := h.move_ok ht
    rw [if_pos ht] at he
    rw [hw]
    exact .moved he hs hst
  · obtain ⟨w, hw, hs⟩ := h.move_error ht
    rw [if_neg ht] at he
    rw [hw]
    exact answered_same h hs he

theorem cancel_ends (hp : p.lifecycle.current ≠ .deleted) {t : PnpState} (ht : t.isRevocable = true)
    (he : m.answer p.lifecycle = (.success, p.lifecycle.takeBack t)) :
    ((liftM (cancel d t) : ExceptT Status Call Unit).run v).Ends fun w a =>
      v.Answered b r (.pnp m) p [d] w (.ofResult a) := by
  obtain ⟨w, hw, hs, hst⟩ := h.cancel hp ht
  rw [Call.run_lift, World.after, hw]
  exact .moved he hs hst

theorem startPhysical_ends : ((physicalMinor b d r .startDevice).run v).Ends fun w a =>
    v.Answered b r (.pnp .startDevice) p [d] w (.ofResult a) := by
  rw [physicalMinor, Call.run_bind, Call.run_lift, World.after]
  by_cases hc : p.lifecycle.current.canBecome .startPending = true
  · have he : Minor.startDevice.answer p.lifecycle = (.success, ⟨.started, .startPending⟩) := if_pos hc
    obtain ⟨v₁, hv₁, hs, hst, -⟩ := h.move_ok hc
    obtain ⟨w, hw, hs', hst', -⟩ := hst.move_ok (t := .started) rfl
    rw [hv₁]
    show (Run.done ((moveDevice d .started).run v₁).2 ((moveDevice d .started).run v₁).1).Ends _
    rw [hw]
    exact .moved he (hs.trans hs') hst'
  · obtain ⟨w, hw, hs⟩ := h.move_error hc
    rw [hw]
    exact answered_same h hs (if_neg hc)

theorem removePhysical_ends (hr : v.Knows r) : ((physicalMinor b d r .removeDevice).run v).Ends fun w a =>
    v.Answered b r (.pnp .removeDevice) p [d] w (.ofResult a) := by
  -- the request's own reference goes first, so nothing is out when the lock is closed
  obtain ⟨hs₁, hst₁, hz⟩ := h.giveBack hr
  generalize hv₁ : v.after (giveBack r d) = v₁ at hs₁ hst₁ hz
  rw [physicalMinor, Call.run_bind, Call.run_act, hv₁]
  show ((do enterRemoval d; drainAndDelete b d : ExceptT Status Call Unit).run v₁).Ends _
  rw [Call.run_bind, Call.run_lift, World.after]
  cases hl : p.lifecycle.leave? with
  | some m =>
    have he : Minor.removeDevice.answer p.lifecycle = (.success, ⟨.deleted, m.current.beforeDeletion⟩) := by
      rw [Minor.answer, hl]
    obtain ⟨v₂, hv₂, hs₂, hst₂, hlock, hm⟩ := hst₁.enterRemoval_ok hl
    obtain ⟨w, hw, hs, hg⟩ := hst₂.drainAndDelete (by rw [hlock]; exact hz) hm
    rw [hv₂]
    show ((drainAndDelete b d).run v₂).Ends _
    rw [hw]
    refine .single ((hs₁.trans hs₂).trans hs) ?_ (by rw [Kind.answer, he]; rfl)
    rw [Kind.answer, he]
    exact ⟨hg, fun e => absurd rfl e⟩
  | none =>
    obtain ⟨w, hw, hs⟩ := hst₁.enterRemoval_error hl
    have he : Minor.removeDevice.answer p.lifecycle = (.invalidState, p.lifecycle) := by rw [Minor.answer, hl]
    rw [hw]
    exact .moved he (hs₁.trans hs.of_nil) (hs.stands List.not_mem_nil hst₁)

variable (hp : p.lifecycle.current ≠ .deleted) (hr : v.Knows r)
include hp hr

theorem physicalMinor_ends (m : Minor) : ((physicalMinor b d r m).run v).Ends fun w a =>
    v.Answered b r (.pnp m) p [d] w (.ofResult a) := by
  have hinform (i : Information) : World.Spares b r [] v (v.after (inform r i)) :=
    .updateRequest v (fun _ => rfl) (fun _ => rfl) fun _ _ _ => rfl
  cases m with
  | startDevice => exact startPhysical_ends h
  | queryStopDevice => exact moveDevice_ends h rfl
  | cancelStopDevice => exact cancel_ends h hp rfl rfl
  | stopDevice => exact moveDevice_ends h rfl
  | queryRemoveDevice => exact moveDevice_ends h rfl
  | cancelRemoveDevice => exact cancel_ends h hp rfl rfl
  | surpriseRemoval => exact moveDevice_ends h rfl
  | removeDevice => exact removePhysical_ends h hr
  | queryId t => exact answered_same h (hinform _) rfl
  | queryRelations t =>
    cases t with
    | target => exact answered_same h (hinform _) rfl
    | _ => exact answered_same h (.refl v) rfl

theorem physical_ends (k : Kind) : (physical b d r k v).Ends (v.Answered b r k p [d]) := by
  cases k with
  | pnp m =>
    have hn (n : Notice) : World.Spares b r [] v (v.note n) := .note v n
    rw [physical_pnp]
    have hm :=
      physicalMinor_ends ((hn (.physicalAsked (v.device d).identity.deviceId m)).stands List.not_mem_nil h) hp hr m
    refine Run.Ends.bind hm fun w a hw => ?_
    have hw := hw.of_spares (.note v _)
    cases a with
    | ok => exact hw
    | error e =>
      refine ⟨hw.status, hw.spares.trans (.note w _), fun x hx => ?_⟩
      exact (World.Spares.note w _).rests List.not_mem_nil (hw.rests x hx)
  | power c =>
    have ⟨hs, hst⟩ := h.repower (·.apply c)
    rw [physical_power, World.after, changePower_ok c (by rw [h.state]; exact hp)]
    exact .single hs hst.rests rfl
  | _ => exact .single (.refl v) h.rests rfl

end

/-! ## Functional devices -/

section
variable {below : Call Status}

theorem forwardOrRollBack_ends (hb : (below v).Ends (v.Answered b r k p ds)) (he : (k.answer p).1 = .success) :
    (forwardOrRollBack d below v).Ends (v.Answered b r k p ds) := by
  rw [forwardOrRollBack_apply]
  refine Run.Ends.bind hb fun w s hw => ?_
  rw [if_pos (by rw [hw.status, he]; rfl)]
  exact hw

theorem World.Spares.takeChildren (v : World) (d : DeviceId) : Spares b r ds v (v.after (takeChildren d)) := by
  have hc : Spares b r ds v (v.setChildren d []) :=
    .updateLayer v d (fun _ => ⟨rfl, rfl⟩) fun _ => List.nil_sublist _
  exact hc.trans (.agrees ⟨rfl, rfl, rfl, rfl, rfl, rfl, Nat.le_refl _, rfl, id⟩)

/-- A functional device that can leave is deleted, after the children in its list and whatever is below. -/
theorem removeFunctional_clears {es : List DeviceId} {m : Lifecycle} {q : World → World → Status → Prop}
    (h : v.Stands b r p 1 d) (hr : v.Knows r) (hm : p.lifecycle.leave? = some m) (he : d ∉ es) (hd : d ∉ ds)
    (hk : ∀ (w : World) (cs : List DeviceId), cs.Sublist (v.device d).children → World.Spares b r [d] v w →
      ((cs.forM (tearDownChild b) : Call Unit) w).Ends fun w' _ => World.Spares b r es w w')
    (hb : ∀ w, World.Spares b r (d :: es) v w → (below w).Ends fun w' s => World.Spares b r ds w w' ∧ q w w' s) :
    (removeFunctional b d r below v).Ends fun w s => s = .success ∧
      (w.device d).posture = ⟨⟨.deleted, m.current.beforeDeletion⟩, p.power⟩ ∧ (w.device d).children = [] ∧
      ∃ u u' t, World.Spares b r (d :: es) v u ∧ q u u' t ∧ World.Spares b r [d] u' w := by
  have hmine {u w : World} (hu : World.Spares b r [d] u w) : World.Spares b r (d :: es) u w :=
    hu.of_mem List.mem_cons_self
  obtain ⟨v₁, hv₁, hs₁, hst₁, -, hleave⟩ := h.enterRemoval_ok hm
  have hs₂ : World.Spares b r [d] v (v₁.after (takeChildren d)) := hs₁.trans (.takeChildren v₁ d)
  have hst₂ := (World.Spares.takeChildren v₁ d).stands List.not_mem_nil hst₁
  have hc₂ : ((v₁.after (takeChildren d)).device d).children = [] := by
    rw [World.device_takeChildren, World.setChildren, World.device_updateDevice, if_pos ⟨rfl, hst₁.size⟩,
      Device.children, Device.layer?_updateLayer]
    cases (v₁.device d).layer? <;> rfl
  rw [removeFunctional_ok _ _ _ _ hv₁]
  refine (hk _ _ (hs₁.children d) hs₂).bind fun v₃ _ hs₃ => ?_
  have hs := (hmine hs₂).trans (hs₃.mono fun x hx => List.mem_cons_of_mem d hx)
  obtain ⟨hs₄, hst₄, hz⟩ := (hs₃.stands he hst₂).giveBack (hs.later.knows hr)
  obtain ⟨v₅, hv₅, hs₅, hd₅⟩ := hst₄.drain hz
  have hs₅ := hs₄.trans hs₅
  have hs := hs.trans (hmine hs₅)
  rw [hv₅]
  refine (hb v₅ hs).bind fun w s h => ?_
  obtain ⟨hw, hq⟩ := h
  -- everything below has answered, and now the device itself is deleted
  generalize hu : (if s.isSuccess then w else w.note (.lowerRefusedRemoval s)) = u
  have hu' : World.Spares b r [] w u := by
    rw [← hu]
    split
    · exact .refl w
    · exact .note w _
  obtain ⟨w', hw', hs', hg⟩ :=
    ((hu'.drained List.not_mem_nil (hw.drained hd hd₅)).finishRemoval (r := r) hleave)
  rw [finishFunctional, hu, hw']
  have hs' : World.Spares b r [d] w (w'.note (.functionalRemoved (w'.device d).identity.deviceId)) :=
    (hu'.of_nil.trans hs').trans (.note w' _)
  refine ⟨rfl, hg, ?_, v₅, w, s, hs, hq, hs'⟩
  exact hs'.childless (hw.childless (hs₅.childless (hs₃.childless hc₂)))

theorem World.Answered.stay (h : v.Stands b r p 1 d) (hl : ∀ x ∈ ds, v.Stands b r p 0 x) (hk : (k.answer p).2 = p)
    (hs : Spares b r [] v w) (he : s = (k.answer p).1) : v.Answered b r k p (d :: ds) w s := by
  refine .refused hk hs (fun x hx => ?_) he
  rcases List.mem_cons.mp hx with rfl | hx
  · exact ⟨1, h⟩
  · exact ⟨0, hl x hx⟩

theorem moveThen_ends {m : Minor} {t : PnpState} {next : Call Status} (h : v.Stands b r p 1 d)
    (hl : ∀ x ∈ ds, v.Stands b r p 0 x)
    (he : ¬p.lifecycle.current.canBecome t = true → m.answer p.lifecycle = (.invalidState, p.lifecycle))
    (hn : p.lifecycle.current.canBecome t = true → ∀ w, World.Spares b r [d] v w →
      w.Stands b r ⟨⟨t, p.lifecycle.current⟩, p.power⟩ 1 d → (next w).Ends (v.Answered b r (.pnp m) p (d :: ds))) :
    (moveThen d t next v).Ends (v.Answered b r (.pnp m) p (d :: ds)) := by
  by_cases ht : p.lifecycle.current.canBecome t = true
  · have ⟨hs, hst⟩ := h.setLifecycle (PnpState.ne_deleted_of_canBecome ht) ⟨t, p.lifecycle.current⟩
    rw [moveThen_ok d v next (by rw [h.state]; exact ht), h.state]
    exact hn ht _ hs hst
  · rw [moveThen_error d v next (by rw [h.state]; exact ht)]
    exact .stay h hl (by rw [Kind.answer, he ht]) (.note v _) (by rw [Kind.answer, he ht])

section
variable {m : Minor} (h : v.Stands b r p 1 d) (hd : d ∉ ds) (hl : ∀ x ∈ ds, v.Stands b r p 0 x)
include h hd

theorem below_ends (hb : (below v).Ends (v.Answered b r k p ds)) (he : (k.answer p).2 = p) :
    (below v).Ends (v.Answered b r k p (d :: ds)) := by
  refine hb.imp fun w s hw => hw.extend hd (.refl v) (.refl w) ?_
  rw [he]
  exact (hw.spares.stands hd h).rests

theorem forwardThenCancel_ends (hp : p.lifecycle.current ≠ .deleted) {t : PnpState} (ht : t.isRevocable = true)
    (he : m.answer p.lifecycle = (.success, p.lifecycle.takeBack t))
    (hb : (below v).Ends (v.Answered b r (.pnp m) p ds)) :
    (forwardThenCancel d t below v).Ends (v.Answered b r (.pnp m) p (d :: ds)) := by
  rw [forwardThenCancel_apply]
  refine hb.bind fun w s hw => ?_
  obtain ⟨w', hw', hs, hst⟩ := (hw.spares.stands hd h).cancel hp ht
  rw [World.after, hw']
  exact hw.extend hd (.refl v) hs (by rw [Kind.answer, he]; exact hst.rests)

include hl

theorem attempt_ends {t : PnpState} {next : Call Status} (he : m.answer p.lifecycle = p.lifecycle.attempt t)
    (hn : (m.answer p.lifecycle).1 = .success → ∀ w, World.Spares b r [d] v w →
      (next w).Ends (w.Answered b r (.pnp m) p ds)) :
    (moveThen d t next v).Ends (v.Answered b r (.pnp m) p (d :: ds)) := by
  rw [Lifecycle.attempt] at he
  refine moveThen_ends h hl (fun ht => by rw [he, if_neg ht]) fun ht w hs hst => ?_
  rw [if_pos ht] at he
  refine (hn (by rw [he]) w hs).imp fun w' s hw => hw.extend hd hs (.refl w') ?_
  rw [Kind.answer, he]
  exact (hw.spares.stands hd hst).rests

theorem startFunctional_ends
    (hb : ∀ w, World.Spares b r [d] v w → (below w).Ends (w.Answered b r (.pnp .startDevice) p ds)) :
    (functionalMinor b d r below .startDevice v).Ends (v.Answered b r (.pnp .startDevice) p (d :: ds)) := by
  rw [functionalMinor_startDevice]
  refine moveThen_ends h hl (fun ht => if_neg ht) fun ht w hs hst => ?_
  have he : Minor.startDevice.answer p.lifecycle = (.success, ⟨.started, .startPending⟩) := if_pos ht
  refine (forwardOrRollBack_ends (hb w hs) (by rw [Kind.answer, he])).bind fun w₁ s hw => ?_
  -- everything below has started, and now the device itself does
  obtain ⟨w₂, hw₂, hs₂, hst₂, -⟩ := (hw.spares.stands hd hst).move_ok (t := .started) rfl
  have hsucc : s = .success := by rw [hw.status, Kind.answer, he]
  subst hsucc
  rw [if_pos rfl, World.after, hw₂]
  exact hw.extend hd hs hs₂ (by rw [Kind.answer, he]; exact hst₂.rests)

theorem removeFunctional_ends (hr : v.Knows r) (hc : (v.device d).children = [])
    (hb : ∀ w, World.Spares b r [d] v w → (below w).Ends (w.Answered b r (.pnp .removeDevice) p ds)) :
    (removeFunctional b d r below v).Ends (v.Answered b r (.pnp .removeDevice) p (d :: ds)) := by
  cases hm : p.lifecycle.leave? with
  | none =>
    obtain ⟨w, hw, hs⟩ := h.enterRemoval_error hm
    have he : Minor.removeDevice.answer p.lifecycle = (.invalidState, p.lifecycle) := by rw [Minor.answer, hm]
    rw [removeFunctional_error _ _ _ _ hw]
    exact .stay h hl (by rw [Kind.answer, he]) hs (by rw [Kind.answer, he])
  | some m =>
    have he : Minor.removeDevice.answer p.lifecycle = (.success, ⟨.deleted, m.current.beforeDeletion⟩) := by
      rw [Minor.answer, hm]
    refine (removeFunctional_clears h hr hm List.not_mem_nil hd (fun w cs hcs hw => ?_) fun w hw =>
      (hb w hw).imp fun w' s h => ⟨h.spares, h⟩).imp ?_
    · rw [hc, List.sublist_nil] at hcs
      subst hcs
      exact .refl w
    · rintro w s ⟨rfl, hg, -, u, u', t, hs, hw, hs'⟩
      have ht : t = .success := hw.status.trans (by rw [Kind.answer, he])
      subst ht
      refine hw.extend hd hs hs' ?_
      rw [Kind.answer, he]
      exact ⟨hg, fun e => absurd rfl e⟩

theorem functionalMinor_ends (hp : p.lifecycle.current ≠ .deleted) (hr : v.Knows r) (hm : m ≠ .queryRelations .bus)
    (hc : (v.device d).children = [])
    (hb : ∀ w, World.Spares b r [d] v w → (below w).Ends (w.Answered b r (.pnp m) p ds)) :
    (functionalMinor b d r below m v).Ends (v.Answered b r (.pnp m) p (d :: ds)) := by
  have hquery (t : PnpState) (he : m.answer p.lifecycle = p.lifecycle.attempt t) :
      (moveThen d t (forwardOrRollBack d below) v).Ends (v.Answered b r (.pnp m) p (d :: ds)) :=
    attempt_ends h hd hl he fun hs w hw => forwardOrRollBack_ends (hb w hw) hs
  have hv := hb v (.refl v)
  cases m with
  | startDevice => exact startFunctional_ends h hd hl hb
  | queryStopDevice => exact hquery _ rfl
  | cancelStopDevice => exact forwardThenCancel_ends h hd hp rfl rfl hv
  | stopDevice => exact attempt_ends h hd hl rfl fun _ => hb
  | queryRemoveDevice => exact hquery _ rfl
  | cancelRemoveDevice => exact forwardThenCancel_ends h hd hp rfl rfl hv
  | removeDevice => exact removeFunctional_ends h hd hl hr hc hb
  | surpriseRemoval => exact attempt_ends h hd hl rfl fun _ => hb
  | queryId t => exact below_ends h hd hv rfl
  | queryRelations t =>
    cases t with
    | bus => exact absurd rfl hm
    | _ => exact below_ends h hd hv rfl

end

theorem functional_ends (h : v.Stands b r p 1 d) (hd : d ∉ ds) (hl : ∀ x ∈ ds, v.Stands b r p 0 x)
    (hp : p.lifecycle.current ≠ .deleted) (hr : v.Knows r) (hk : k.isPassedOn = true)
    (hc : (v.device d).children = [])
    (hb : ∀ w, World.Spares b r [d] v w → (below w).Ends (w.Answered b r k p ds)) :
    (functional b d r below k v).Ends (v.Answered b r k p (d :: ds)) := by
  cases k with
  | pnp m =>
    have hn (es : List DeviceId) :
      World.Spares b r es v (v.note (.functionalAsked (v.device d).identity.deviceId m)) := .note v _
    rw [functional_pnp]
    refine (functionalMinor_ends ((hn []).stands List.not_mem_nil h) hd
      (fun x hx => (hn []).stands List.not_mem_nil (hl x hx)) hp hr (fun e => ?_) hc fun w hw => ?_).imp
        fun w s hw => ?_
    · rw [e] at hk; cases hk
    · exact hb w ((hn [d]).trans hw)
    · exact hw.of_spares (hn _)
  | power c =>
    have ⟨hs, hst⟩ := h.repower (·.apply c)
    rw [functional_power, World.after, changePower_ok c (by rw [h.state]; exact hp)]
    refine (hb _ hs).imp fun w s hw => hw.extend hd hs (.refl w) ?_
    exact (hw.spares.stands hd hst).rests
  | _ => cases hk

end

/-! ## Whole stacks -/

theorem admitted_ends {handler : Call Status} (h : v.Stands b r p 0 d) (hp : p.lifecycle.current ≠ .deleted)
    (hr : v.Knows r) (hm : d ∈ ds)
    (hh : ∀ w, World.Spares b r [d] v w → w.Stands b r p 1 d → (handler w).Ends (w.Answered b r k p ds)) :
    (admitted d r k handler v).Ends (v.Answered b r k p ds) := by
  obtain ⟨w, hw, hs, hst⟩ := h.admitted hp hr k handler
  rw [hw]
  exact Run.Ends.imp (hh w hs hst) fun w s hw => hw.of_spares (hs.of_mem hm)

/-- All devices of a stack answer a request as its physical device does. -/
theorem deliver_ends (hk : k.isPassedOn = true) (hp : p.lifecycle.current ≠ .deleted) : ∀ {t : Stack} {v : World},
    v.Linked t → v.Knows r → (∀ x ∈ t.members, v.Stands b r p 0 x) → (∀ x ∈ t.members, (v.device x).children = []) →
    (deliver b r k t v).Ends (v.Answered b r k p t.members)
  | .physical d, v, _, hr, hs, _ =>
    admitted_ends (hs d List.mem_cons_self) hp hr List.mem_cons_self fun w hw h =>
      physical_ends h hp (hw.later.knows hr) k
  | .functional d lower, v, ⟨_, _, hlt, hl⟩, hr, hs, hc => by
    have hd : d ∉ lower.members := fun hm => absurd (hl.le_top d hm) (Nat.not_le_of_lt hlt)
    -- until the request gets there, what is below stands as it did
    refine admitted_ends (hs d List.mem_cons_self) hp hr List.mem_cons_self fun w hw h => ?_
    have hlow {u : World} (hu : World.Spares b r [d] v u) (x : DeviceId) (hx : x ∈ lower.members) :
        u.Stands b r p 0 x := by
      refine hu.stands (fun e => ?_) (hs x (List.mem_cons_of_mem d hx))
      rw [List.mem_singleton.mp e] at hx; exact hd hx
    refine functional_ends h hd (hlow hw) hp (hw.later.knows hr) hk (hw.childless (hc d List.mem_cons_self))
      fun u hu => ?_
    have hu := hw.trans hu
    exact deliver_ends hk hp (hu.later.linked hl) (hu.later.knows hr) (hlow hu) fun x hx =>
      hu.childless (hc x (List.mem_cons_of_mem d hx))

theorem deliver_gone (k : Kind) (t : Stack) (h : (v.device t.top).state = .deleted) :
    ∃ n, deliver b r k t v = .done (v.note n) .noSuchDevice := by
  cases t with
  | physical d => exact ⟨_, admitted_error (enter_gone r k h)⟩
  | functional d lower => exact ⟨_, admitted_error (enter_gone r k h)⟩

/-! ## Sequences of requests -/

/-- Makes a new request and sends it to `d`. -/
def send (b : DriverId) (d : DeviceId) (k : Kind) : Call Status := do
  dispatch b d (← newRequest k)

namespace World

structure Aligned (b : DriverId) (t : Stack) (p : Posture) (w : World) : Prop where
  stack : w.stack t.top = t
  linked : w.Linked t
  posture : ∀ x ∈ t.members, (w.device x).posture = p
  childless : ∀ x ∈ t.members, (w.device x).children = []
  present : p.lifecycle.current ≠ .deleted → ∀ x ∈ t.members, w.Present b p 0 x

/-- When a request has come back up and completes, the devices it left are aligned. -/
theorem Aligned.settle {t : Stack} (hv : v.stack t.top = t) (hl : v.Linked t) (hr : v.Knows r)
    (hd : ∀ x ∈ t.members, (v.device x).children = []) (hc : (v.request r).completed = false)
    (ht : (v.request r).tickets = []) (hs : Spares b r t.members v w) (hx : ∀ x ∈ t.members, w.Rests b r p x)
    (he : s ≠ .pending) : (w.after (settle r s)).Aligned b t p := by
  rw [after, settle_of_ne r he]
  have hp : w.Later (w.after (complete r s)) := (Passing.complete (b := b) w r s).later
  have hlater := hs.later.trans hp
  have hc' : (w.request r).completed = false := hs.completed.trans hc
  have ht' : (w.request r).tickets = [] := hs.tickets.trans ht
  refine ⟨?_, hlater.linked hl, fun x hm => ?_, fun x hm => ?_, fun hg x hm => ?_⟩
  · exact (hlater.stack hl.top_lt).trans hv
  · have hd : x < w.devices.size := Nat.lt_of_lt_of_le (hl.size_of_mem x hm) hs.later.devices
    obtain ⟨l, hd, -⟩ := device_complete hd hc' ht' (hs.later.knows hr) s
    rw [hd]; exact (hx x hm).posture
  · rw [((Passing.complete (b := b) w r s).sameStanding.device x).children]
    exact hs.childless (hd x hm)
  · obtain ⟨n, hst⟩ := (hx x hm).stands hg
    exact hst.complete hc' ht' (hs.later.knows hr) s

end World

/-- A new request is answered by all devices of a stack alike. -/
theorem send_ends {t : Stack} (h : w.Aligned b t p) (hk : k.isPassedOn = true) :
    (send b t.top k w).Ends fun w' s => s = (k.reply p).1 ∧ w'.Aligned b t (k.reply p).2 := by
  have hq := request_ask w k
  have hr := knows_ask w k
  have hl : (w.ask k).Linked t := (World.Passing.ask (b := b) w k).later.linked h.linked
  have ht : (w.ask k).stack t.top = t := h.stack
  show (dispatch b t.top w.requests.size (w.ask k)).Ends _
  rw [dispatch_apply, hq, ht, Kind.reply]
  by_cases hp : p.lifecycle.current = .deleted
  · have hg : ((w.ask k).device t.top).state = .deleted := by
      rw [← hp, ← h.posture t.top t.top_mem_members]; rfl
    obtain ⟨n, hn⟩ := deliver_gone (b := b) (r := w.requests.size) k t hg
    rw [hn, if_pos hp]
    refine ⟨rfl, .settle ht hl hr h.childless (by rw [hq]) (by rw [hq]) (.note _ n) (fun x hx => ?_) (by decide)⟩
    exact ⟨h.posture x hx, fun hd => absurd hp hd⟩
  · rw [if_neg hp]
    have hst (x : DeviceId) (hx : x ∈ t.members) : (w.ask k).Stands b w.requests.size p 0 x := by
      have hx := h.present hp x hx
      exact ⟨hx.of_device rfl rfl rfl hx.posture hx.lends, by rw [hq]; rfl⟩
    refine (deliver_ends hk hp hl hr hst h.childless).bind fun w' s hw => ⟨hw.status, ?_⟩
    refine .settle ht hl hr h.childless (by rw [hq]) (by rw [hq]) hw.spares hw.rests ?_
    rw [hw.status]; exact k.answer_ne_pending p

/-! ## Stacks beside a lone physical device -/

namespace World

/-- A stack of devices of driver `b`, all of them in posture `p`, open, without children and with nothing out. -/
structure IsUniform (b : DriverId) (t : Stack) (p : Posture) (w : World) : Prop where
  stack : w.stack t.top = t
  linked : w.Linked t
  registered : ∀ x ∈ t.members, w.lookup b (w.device x).key = some x
  posture : ∀ x ∈ t.members, (w.device x).posture = p
  opened : ∀ x ∈ t.members, (w.device x).lock.draining = false
  unused : ∀ x ∈ t.members, (w.device x).lock.outstanding = 0
  childless : ∀ x ∈ t.members, (w.device x).children = []

theorem IsUniform.aligned {t : Stack} (h : w.IsUniform b t p) : w.Aligned b t p where
  stack := h.stack
  linked := h.linked
  posture := h.posture
  childless := h.childless
  present _ x hx := {
    size := h.linked.size_of_mem x hx
    posture := h.posture x hx
    registered := h.registered x hx
    lends := .of_outstanding (h.opened x hx) (h.unused x hx) }

/-- Requests of the given kinds, sent one after the other to the stack `t` here and to the device `d` in `u`: all of
them end, each with the same status in both, and leave every device of the stack in the posture of `d`. -/
def Echoes (b : DriverId) (t : Stack) (b' : DriverId) (d : DeviceId) : List Kind → World → World → Prop
  | [], _, _ => True
  | k :: ks, w, u => (send b t.top k w).Ends fun w' s => (send b' d k u).Ends fun u' s' =>
      s = s' ∧ (∀ x ∈ t.members, (w'.device x).posture = (u'.device d).posture) ∧ Echoes b t b' d ks w' u'

theorem Aligned.echoes {b' : DriverId} {t : Stack} : ∀ {ks : List Kind} {p : Posture} {w u : World},
    w.Aligned b t p →
    u.Aligned b' (.physical d) p → (∀ k ∈ ks, k.isPassedOn = true) → Echoes b t b' d ks w u
  | [], _, _, _, _, _, _ => trivial
  | k :: ks, p, w, u, hw, hu, hk => by
    have hk₁ := hk k List.mem_cons_self
    refine (send_ends hw hk₁).imp fun w' s ⟨hs, hw'⟩ => (send_ends hu hk₁).imp fun u' s' ⟨hs', hu'⟩ => ?_
    refine ⟨hs.trans hs'.symm, fun x hx => ?_, hw'.echoes hu' fun k hm => hk k (List.mem_cons_of_mem _ hm)⟩
    exact (hw'.posture x hx).trans (hu'.posture d (List.mem_singleton.mpr rfl)).symm

end World

/-- A stack of uniform devices cannot be told from its physical device alone. -/
theorem stack_echoes_physical {b b' : DriverId} {t : Stack} {d : DeviceId} {p : Posture} {w u : World}
    (hw : w.IsUniform b t p) (hu : u.IsUniform b' (.physical d) p) (ks : List Kind)
    (hk : ∀ k ∈ ks, k.isPassedOn = true) : World.Echoes b t b' d ks w u :=
  hw.aligned.echoes hu.aligned hk

def World.lone : World :=
  World.enroll { drivers := Table.push {} { service := "S" } } 0 ⟨"A", ""⟩ (.physical none)

def World.layered : World :=
  (World.lone.enroll 0 ⟨"A", ""⟩ (.functional { lower := .physical 0, active := true })).enroll 0 ⟨"B", ""⟩
    (.functional { lower := .functional 1 (.physical 0), active := false })

theorem World.lone_isUniform : World.lone.IsUniform 0 (.physical 0) {} where
  stack := rfl
  linked := ⟨by decide, rfl⟩
  registered := by decide +kernel
  posture := by decide
  opened := by decide
  unused := by decide
  childless := by decide

theorem World.layered_isUniform : World.layered.IsUniform 0 (.functional 2 (.functional 1 (.physical 0))) {} where
  stack := rfl
  linked := ⟨by decide, rfl, by decide, by decide, rfl, by decide, by decide, rfl⟩
  registered := by decide +kernel
  posture := by decide
  opened := by decide
  unused := by decide
  childless := by decide

/-- Among other things the power of the stack goes down, as it does with the physical device alone. -/
theorem stack_echoes_physical_of_layered :
    World.Echoes 0 (.functional 2 (.functional 1 (.physical 0))) 0 0
      [.pnp .startDevice, .power (.device .d3), .pnp .queryRemoveDevice, .pnp .cancelRemoveDevice, .pnp .stopDevice,
        .pnp .removeDevice, .pnp .startDevice] World.layered World.lone ∧
    (send 0 2 (.power (.device .d3)) World.layered).Ends fun w _ =>
      ∀ x ∈ [2, 1, 0], (w.device x).power = ⟨.working, .d3⟩ := by
  refine ⟨stack_echoes_physical World.layered_isUniform World.lone_isUniform _ (by decide), ?_⟩
  have hlone : (send 0 0 (.power (.device .d3)) World.lone).Ends fun u _ =>
      (u.device 0).power = ⟨.working, .d3⟩ := by
    decide +kernel
  have hboth : World.Echoes 0 (.functional 2 (.functional 1 (.physical 0))) 0 0 [.power (.device .d3)] World.layered
      World.lone := stack_echoes_physical World.layered_isUniform World.lone_isUniform _ (by decide)
  refine hboth.imp fun w s hw => ?_
  obtain ⟨u, _, -, ⟨-, hposture, -⟩, hpower⟩ := (hw.and hlone).exists_endsIn
  exact fun x hx => (congrArg Posture.power (hposture x hx)).trans hpower

end PnpBus
