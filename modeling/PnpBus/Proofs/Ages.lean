import PnpBus.Proofs.Clients

/-!
# How devices age

A device ages by legal moves and by steps back, and once it is deleted neither
its lifecycle nor its power changes any more. Everything that a call does
between its waits lets all devices age, brings none into being and touches no
claim; only the commands that create devices do. A removal, besides, closes
and empties no device but those of its stack and the children that it finds
there.
-/

namespace PnpBus

variable {α : Type} {K : DeviceId → Prop} {Q : World → World → Prop} {u v w : World} {b : DriverId} {d : DeviceId}
  {r : RequestId} {k : Kind}

/-! ## Lifecycles -/

inductive Lifecycle.Step (m : Lifecycle) : Lifecycle → Prop
  | move {t : PnpState} (h : m.current.canBecome t = true) : Step m ⟨t, m.current⟩
  | restore (h : m.current.isRevocable = true) : Step m ⟨m.previous, m.previous⟩

namespace Lifecycle

abbrev Steps : Lifecycle → Lifecycle → Prop := Relation.ReflTransGen Step

variable {m n : Lifecycle}

theorem Step.ne_deleted (h : m.Step n) : m.current ≠ .deleted := by
  intro hd
  cases h with
  | move h => exact PnpState.ne_deleted_of_canBecome h hd
  | restore h => rw [hd] at h; cases h

theorem Steps.of_deleted (h : m.Steps n) (hd : m.current = .deleted) : n = m := by
  induction h with
  | refl => rfl
  | tail _ h ih => subst ih; exact absurd hd h.ne_deleted

/-- A surprise is not taken back. -/
theorem Steps.of_surprise (h : m.Steps n) (hm : m.current = .surpriseRemovePending) :
    n.current = .surpriseRemovePending ∨ n.current = .removed ∨ n.current = .deleted := by
  induction h with
  | refl => exact .inl hm
  | @tail l n _ h ih =>
    cases h with
    | @move t h =>
      show t = _ ∨ t = _ ∨ t = _
      rcases ih with hl | hl | hl <;> rw [hl] at h <;> cases t <;> simp_all [PnpState.canBecome]
    | restore h => rcases ih with hl | hl | hl <;> rw [hl] at h <;> cases h

end Lifecycle

/-! ## Devices -/

structure Device.Ages (v v' : Device) : Prop where
  identity : v'.identity = v.identity
  shape : v'.extension.shape = v.extension.shape
  lifecycle : v.lifecycle.Steps v'.lifecycle
  power : v.state = .deleted → v'.power = v.power

namespace Device.Ages

variable {v v' v'' : Device}

theorem refl (v : Device) : v.Ages v := ⟨rfl, rfl, .refl, fun _ => rfl⟩

theorem trans (h : v.Ages v') (h' : v'.Ages v'') : v.Ages v'' where
  identity := h'.identity.trans h.identity
  shape := h'.shape.trans h.shape
  lifecycle := h.lifecycle.trans h'.lifecycle
  power hd := by
    have hl := h.lifecycle.of_deleted hd
    rw [h'.power (by rw [state, hl]; exact hd), h.power hd]

theorem of_eq (hi : v'.identity = v.identity) (hs : v'.extension.shape = v.extension.shape)
    (hl : v'.lifecycle = v.lifecycle) (hp : v'.power = v.power) : v.Ages v' := ⟨hi, hs, by rw [hl], fun _ => hp⟩

theorem gone (h : v.Ages v') (hd : v.state = .deleted) : v'.state = .deleted := by
  unfold state
  rw [h.lifecycle.of_deleted hd]
  exact hd

theorem updateLayer (v : Device) {f : Layer → Layer}
    (hf : ∀ layer, (f layer).lower = layer.lower ∧ (f layer).active = layer.active) : v.Ages (v.updateLayer f) :=
  of_eq (v.identity_updateLayer f) (v.shape_updateLayer f hf) (v.lifecycle_updateLayer f) (v.power_updateLayer f)

end Device.Ages

@[simp] theorem Device.children_updateLayer (v : Device) (f : Layer → Layer) :
    (v.updateLayer f).children = (v.layer?.map fun layer => (f layer).children).getD [] := by
  unfold children
  rw [layer?_updateLayer, Option.map_map]
  rfl

structure Device.Wears (watched : Prop) (v v' : Device) : Prop extends v.Ages v' where
  children : v'.children ⊆ v.children
  kept : watched → v'.children = v.children ∧ (v'.lock.draining = true → v.lock.draining = true)

/-! ## Worlds -/

namespace World

/-- Devices age, and lose children at most. Those that are in `K` are not closed, and lose only children that are
deleted. There are no new devices. -/
structure Ages (K : DeviceId → Prop) (v w : World) : Prop where
  size : w.devices.size = v.devices.size
  device : ∀ d, (v.device d).Ages (w.device d)
  children : ∀ d, (w.device d).children ⊆ (v.device d).children
  kept : ∀ f, K f → ∀ c ∈ (v.device f).children, c ∈ (w.device f).children ∨ w.IsGone c
  opened : ∀ f, K f → w.IsClosed f → v.IsClosed f
  drivers : w.drivers.size = v.drivers.size
  standing : ∀ b, (w.driver b).mode = (v.driver b).mode ∧ (w.driver b).activeClaimed = (v.driver b).activeClaimed

namespace Ages

theorem mono {K' : DeviceId → Prop} (hK : ∀ d, K' d → K d) (h : v.Ages K w) : v.Ages K' w :=
  ⟨h.size, h.device, h.children, fun f hf => h.kept f (hK f hf), fun f hf => h.opened f (hK f hf), h.drivers,
    h.standing⟩

theorem gone (h : v.Ages K w) (hd : v.IsGone d) : w.IsGone d := (h.device d).gone hd

theorem refl (w : World) : w.Ages K w :=
  ⟨rfl, fun _ => .refl _, fun _ _ => id, fun _ _ _ => .inl, fun _ _ => id, rfl, fun _ => ⟨rfl, rfl⟩⟩

theorem trans (h : u.Ages K v) (h' : v.Ages K w) : u.Ages K w where
  size := h'.size.trans h.size
  device d := (h.device d).trans (h'.device d)
  children d := List.Subset.trans (h'.children d) (h.children d)
  kept f hf c hc := (h.kept f hf c hc).elim (h'.kept f hf c) fun hg => .inr (h'.gone hg)
  opened f hf := h.opened f hf ∘ h'.opened f hf
  drivers := h'.drivers.trans h.drivers
  standing b := ⟨(h'.standing b).1.trans (h.standing b).1, (h'.standing b).2.trans (h.standing b).2⟩

instance : Std.Refl (Ages K) := ⟨refl⟩

instance : IsTrans World (Ages K) := ⟨fun _ _ _ => trans⟩

theorem of_devices (hd : w.devices = v.devices) (hn : w.drivers.size = v.drivers.size)
    (hb : ∀ b, (w.driver b).mode = (v.driver b).mode ∧ (w.driver b).activeClaimed = (v.driver b).activeClaimed) :
    v.Ages K w := by
  have hx (x : DeviceId) : w.device x = v.device x := by rw [World.device, World.device, hd]
  refine ⟨by rw [hd], fun x => ?_, fun x => ?_, fun x _ c hc => ?_, fun x _ => ?_, hn, hb⟩
  · rw [hx]; exact .refl _
  · rw [hx]; exact fun _ => id
  · rw [hx]; exact .inl hc
  · unfold IsClosed; rw [hx]; exact id

theorem aside (h : v.Aside w) : v.Ages K w := of_devices h.devices h.drivers h.standing

theorem note (w : World) (n : Notice) : w.Ages K (w.note n) := of_devices rfl rfl fun _ => ⟨rfl, rfl⟩

theorem updateRequest (w : World) (r : RequestId) (f : Request → Request) : w.Ages K (w.updateRequest r f) :=
  of_devices rfl rfl fun _ => ⟨rfl, rfl⟩

theorem updateDriver (w : World) (b : DriverId) {f : Driver → Driver}
    (hf : ∀ v, (f v).mode = v.mode ∧ (f v).activeClaimed = v.activeClaimed) : w.Ages K (w.updateDriver b f) := by
  refine of_devices rfl (w.size_updateDriver b f) fun x => ?_
  rw [driver_updateDriver]
  split
  next h => rw [h.1]; exact hf _
  next => exact ⟨rfl, rfl⟩

theorem updateDevice (w : World) (d : DeviceId) {f : Device → Device}
    (hf : (w.device d).Wears (K d) (f (w.device d))) : w.Ages K (w.updateDevice d f) := by
  have hx (x : DeviceId) : (w.device x).Wears (K x) ((w.updateDevice d f).device x) := by
    rw [device_updateDevice]
    split
    next h => rw [h.1]; exact hf
    next => exact ⟨.refl _, fun _ => id, fun _ => ⟨rfl, id⟩⟩
  exact {
    size := w.size_updateDevice d f
    device := fun x => (hx x).toAges
    children := fun x => (hx x).children
    kept := fun x hk c hc => .inl (((hx x).kept hk).1 ▸ hc)
    opened := fun x hk => ((hx x).kept hk).2
    drivers := rfl
    standing := fun _ => ⟨rfl, rfl⟩ }

theorem setLifecycle (w : World) (d : DeviceId) {m : Lifecycle} (hm : (w.device d).lifecycle.Step m) :
    w.Ages K (w.setLifecycle d m) :=
  updateDevice w d ⟨⟨rfl, rfl, .single hm, fun hd => absurd hd hm.ne_deleted⟩, fun _ => id, fun _ => ⟨rfl, id⟩⟩

/-- The lock changes, and is no more closed than it was if it is one to keep open. -/
theorem setLock (w : World) (d : DeviceId) {lock : RemoveLock}
    (h : K d → lock.draining = true → (w.device d).lock.draining = true) : w.Ages K (w.setLock (.device d) lock) :=
  updateDevice w d ⟨.of_eq rfl rfl rfl rfl, fun _ => id, fun hk => ⟨rfl, h hk⟩⟩

theorem updateLayer (w : World) (d : DeviceId) {f : Layer → Layer}
    (hf : ∀ layer, (f layer).lower = layer.lower ∧ (f layer).active = layer.active)
    (hc : ∀ layer, (f layer).children ⊆ layer.children) (hk : K d → ∀ layer, (f layer).children = layer.children) :
    w.Ages K (w.updateDevice d fun v => v.updateLayer f) := by
  refine updateDevice w d ⟨.updateLayer _ hf, ?_, fun hd => ⟨?_, ?_⟩⟩
  · rw [Device.children_updateLayer, Device.children]
    cases (w.device d).layer? with
    | none => exact fun _ => id
    | some layer => exact hc layer
  · rw [Device.children_updateLayer, Device.children]
    cases (w.device d).layer? with
    | none => rfl
    | some layer => exact hk hd layer
  · rw [Device.lock_updateLayer]; exact id

theorem setGate (w : World) (g : GateRef) (gate : FilterGate) : w.Ages K (w.setGate g gate) := by
  cases g with
  | device d => exact updateLayer w d (fun _ => ⟨rfl, rfl⟩) (fun _ _ => id) fun _ _ => rfl
  | free n => exact of_devices rfl rfl fun _ => ⟨rfl, rfl⟩

end Ages

end World

open World (Ages)

/-! ## Acts -/

theorem Act.Goes.ages {a : Act α} (h : a.Goes World.Aside) : a.Goes (Ages K) := h.mono fun _ _ => .aside

theorem Call.Goes.ages {c : Call α} (h : c.Goes World.Aside Q) : c.Goes (Ages K) Q := h.mono fun _ _ => .aside

/-! ### Single devices -/

theorem moveDevice_ages (d : DeviceId) (t : PnpState) : (moveDevice d t).run.Goes (Ages K) := by
  intro w
  rw [World.after]
  by_cases h : (w.device d).state.canBecome t = true
  · rw [moveDevice_ok h]; exact .single (.setLifecycle w d (.move h))
  · rw [moveDevice_error h]; exact .single (.note w _)

theorem restoreDevice_ages (d : DeviceId) : (restoreDevice d).run.Goes (Ages K) := by
  intro w
  rw [World.after]
  by_cases h : (w.device d).state.isRevocable = true
  · rw [restoreDevice_ok h]; exact .single (.setLifecycle w d (.restore h))
  · rw [restoreDevice_error h]; exact .single (.note w _)

theorem changePower_ages (d : DeviceId) (c : PowerChange) : (changePower d c).run.Goes (Ages K) := by
  intro w
  rw [World.after]
  by_cases h : (w.device d).state = .deleted
  · rw [changePower_error c h]
  · rw [changePower_ok c h]
    exact .single (.updateDevice w d ⟨⟨rfl, rfl, .refl, fun hd => absurd hd h⟩, fun _ => id, fun _ => ⟨rfl, id⟩⟩)

theorem releaseLock_ages (d : DeviceId) : (releaseLock (.device d)).Goes (Ages K) := by
  apply Act.Goes.step
  intro w
  rw [World.after_releaseLock]
  split
  next lock h =>
    refine .setLock w d fun _ => ?_
    rw [RemoveLock.eq_of_release? h]
    exact id
  next => exact .note w _

theorem completable_ages : Completable (Ages K) where
  note := .note
  request w r f := .updateRequest w r f
  gate := .setGate
  release := releaseLock_ages

/-! ### Removals -/

/-- Only a device that is deleted leaves its parent. -/
theorem leaveParent_ages (h : w.IsGone d) : w.Ages K (w.after (leaveParent d)) := by
  have hl (x : DeviceId) : (w.device x).Ages ((w.after (leaveParent d)).device x) := by
    rw [World.after_leaveParent]
    split
    · rw [World.device_updateDevice]
      split
      next e => rw [e.1]; exact .updateLayer _ fun _ => ⟨rfl, rfl⟩
      next => exact .refl _
    · exact .refl _
  have hc (x : DeviceId) := (World.device_leaveParent w d x).2.2
  refine ⟨?_, hl, fun x => ?_, fun f _ c hm => ?_, fun f _ => ?_, by rw [World.drivers_leaveParent], fun x => ?_⟩
  · rw [World.after_leaveParent]; split <;> simp
  · rw [hc]
    split
    · exact fun _ hm => (List.mem_filter.mp hm).1
    · exact fun _ => id
  · rw [hc]
    by_cases hcd : c = d
    · rw [hcd]; exact .inr ((hl d).gone h)
    · split
      · exact .inl (List.mem_filter.mpr ⟨hm, by simpa using hcd⟩)
      · exact .inl hm
  · unfold World.IsClosed; rw [(World.device_leaveParent w d f).1]; exact id
  · unfold World.driver; rw [World.drivers_leaveParent]; exact ⟨rfl, rfl⟩

theorem deletable_ages (b : DriverId) (hd : ¬K d) : Deletable (Ages K) b d where
  note := .note
  move := moveDevice_ages d
  restore := restoreDevice_ages d
  close w := by
    rw [World.after_closeLock]
    split
    · exact .refl
    · exact (releaseLock_ages d _).head (.setLock w d fun hk => absurd hk hd)
  leave _ h := .single (leaveParent_ages h)
  erase key := .step fun w => .updateDriver w b fun _ => ⟨rfl, rfl⟩
  letGo := .step fun _ => .of_devices rfl rfl fun _ => ⟨rfl, rfl⟩

theorem take_ages (w : World) (d : DeviceId) (r : RequestId) : w.Ages K (w.take d r) := by
  refine Ages.trans (v := w.setLock (.device d) { (w.device d).lock with count := (w.device d).lock.count + 1 })
    ?_ ?_
  · exact .setLock w d fun _ => id
  · exact .updateRequest _ r _

theorem removable_ages (b : DriverId) (hd : ¬K d) : Removable (Ages K) b d where
  toDeletable := deletable_ages b hd
  take w r := take_ages w d r
  giveBack r := completable_ages.giveBack r d
  takeChildren := .step fun w => by
    refine Ages.trans (v := w.setChildren d []) ?_ (.of_devices rfl rfl fun _ => ⟨rfl, rfl⟩)
    exact .updateLayer w d (fun _ => ⟨rfl, rfl⟩) (fun _ => List.nil_subset _) fun hk => absurd hk hd

/-! ## Requests on their way

A request other than a removal does not close anything. -/

theorem servable_ages (k : Kind) (r : RequestId) (d : DeviceId) : Servable (Ages K) k r d where
  note := .note
  take w := take_ages w d r
  inform := completable_ages.inform r
  move _ := moveDevice_ages d
  restore _ := restoreDevice_ages d
  power := changePower_ages d
  letPass w gate := .trans (.setGate w _ gate) (.updateRequest _ r _)
  divert w i := by
    have hn : w.Ages K (w.after (noteDiverted d)) := .of_devices rfl rfl fun _ => ⟨rfl, rfl⟩
    unfold World.divert
    split
    · exact hn.trans (.updateRequest _ r _)
    · exact hn
  complete := completable_ages.complete r

/-! ## Removals on their way

What is to stay open must be neither on the way nor listed as a child anywhere: not now and not after a wait. -/

def World.Unlisted (K : DeviceId → Prop) (w : World) : Prop := ∀ f, K f → ∀ d, f ∉ (w.device d).children

theorem World.unlisted_nothing (w : World) : w.Unlisted fun _ => False := fun _ h => h.elim

/-- Functional devices are nobody's children. -/
theorem World.Sane.unlisted {R : Regime} (h : w.Sane R)
    (hK : ∀ f, K f → f < w.devices.size → (w.device f).role = .functional) : w.Unlisted K := by
  intro f hf d hm
  have hc := h.children d f hm
  have hp := hc.physical
  rw [hK f hf hc.size] at hp
  cases hp

theorem World.Ages.unlisted (h : v.Ages K w) (hv : v.Unlisted K) : w.Unlisted K :=
  fun f hf d hm => hv f hf d (h.children d hm)

abbrev World.StaysUnlisted (K : DeviceId → Prop) (_ w : World) : Prop := w.Unlisted K

theorem deliver_removal_ages (b : DriverId) (r : RequestId) {s : Stack} (hs : ∀ x ∈ s.members, ¬K x)
    (hv : v.Unlisted K) :
    (deliver b r (.pnp .removeDevice) s v).Along (Ages K) (World.StaysUnlisted K) (fun _ _ => True) v :=
  -- the children that are listed are not in `K`, and neither is what will be listed after a wait
  deliver_removal (I := World.Unlisted K) (fun _ _ => Ages.unlisted) (fun _ _ h _ => h)
    (fun _ hw d c hc => deletable_ages b fun hk => hw c hk d hc) (fun x hx => removable_ages b (hs x hx)) hv

theorem dispatch_ages (hk : (v.request r).kind ≠ .pnp .removeDevice) :
    (dispatch b d r v).Along (Ages K) Q (fun _ _ => True) v := by
  rw [dispatch_apply]
  refine (deliver_along b hk (fun x _ => servable_ages _ r x) v).bind fun w s _ => ?_
  exact ⟨settle_along (completable_ages.complete r s) w, trivial⟩

theorem dispatch_removal_ages (hk : (v.request r).kind = .pnp .removeDevice) (hs : ∀ x ∈ (v.stack d).members, ¬K x)
    (hv : v.Unlisted K) : (dispatch b d r v).Along (Ages K) (World.StaysUnlisted K) (fun _ _ => True) v := by
  rw [dispatch_apply, hk]
  refine (deliver_removal_ages b r hs hv).bind fun w s _ => ?_
  exact ⟨settle_along (completable_ages.complete r s) w, trivial⟩

/-! ## Identity queries -/

theorem queryId_ages (b : DriverId) (d : DeviceId) (t : IdType) : (queryId b d t).run.Goes (Ages K) Q := fun v =>
  queryId_along (.of_devices rfl rfl fun _ => ⟨rfl, rfl⟩) (completable_ages.inform · _) <|
    dispatch_ages (by rw [request_ask]; nofun)

end PnpBus
