import PnpBus.Proofs.Removals

/-!
# What a request leaves alone

A request that passes a few devices spares the others: their postures, locks
and places in the registry stay as they are (`World.Spares`). A device that
`Stands` in the way of a request is registered and open, and lends nothing but
what the request holds.
-/

namespace PnpBus

/-! ## Locks that lend to one request -/

structure RemoveLock.Lends (l : RemoveLock) (n : Nat) : Prop where
  opened : l.draining = false
  count : l.count.toNat = n ∨ l.count.toNat = n + 1

namespace RemoveLock.Lends

variable {l : RemoveLock} {n : Nat}

theorem of_outstanding (ho : l.draining = false) (hn : l.outstanding = 0) : l.Lends 0 := by
  refine ⟨ho, ?_⟩
  rw [outstanding, ho, if_neg nofun] at hn
  split at hn
  next h => exact .inl (by rw [h]; rfl)
  next h =>
    have hs := congrArg UInt32.toNat hn
    rw [UInt32.toNat_sub, UInt32.toNat_zero, UInt32.toNat_one] at hs
    have := l.count.toNat_lt
    omega

theorem acquired (h : l.Lends n) (hn : n < 2 ^ 31) : Lends { l with count := l.count + 1 } (n + 1) := by
  refine ⟨h.opened, ?_⟩
  have hc := h.count
  simp only [UInt32.toNat_add, UInt32.toNat_one]
  omega

theorem released (h : l.Lends (n + 1)) : ∃ m, l.release? = some m ∧ m.Lends n ∧ (m.count = 0 → m.latch = true) := by
  have hc := h.count
  have h0 : l.count ≠ 0 := fun e => by rw [e, UInt32.toNat_zero] at hc; omega
  have hs : (l.count - 1).toNat = l.count.toNat - 1 :=
    UInt32.toNat_sub_of_le _ _ (UInt32.le_iff_toNat_le.mpr (by rw [UInt32.toNat_one]; omega))
  refine ⟨_, if_neg h0, ⟨h.opened, ?_⟩, fun hz => ?_⟩
  · rw [hs]; omega
  · have hz := congrArg UInt32.toNat hz
    have h1 : l.count = 1 := by
      rw [← UInt32.toNat_inj, UInt32.toNat_one]
      rw [hs, UInt32.toNat_zero] at hz
      omega
    simp [h1]

theorem closed (h : l.Lends 0) (hz : l.count = 0 → l.latch = true) :
    (l.close.release?.getD l.close).isDrained = true := by
  by_cases h0 : l.count = 0
  · have hr : l.close.release? = none := if_pos h0
    rw [hr, Option.getD_none, isDrained, close, Bool.true_and]
    exact hz h0
  · have hr : l.close.release? = some { l.close with count := l.count - 1, latch := l.latch || l.count = 1 } :=
      if_neg h0
    have h1 : l.count = 1 := by
      have hc := h.count
      rw [← UInt32.toNat_inj] at h0 ⊢
      rw [UInt32.toNat_zero] at h0
      rw [UInt32.toNat_one]
      omega
    rw [hr, Option.getD_some, isDrained, close, h1, Bool.true_and]
    simp

end RemoveLock.Lends

/-! ## Postures -/

/-- What requests change about a device, its references apart. -/
structure Posture where
  lifecycle : Lifecycle := {}
  power : Power := {}
  deriving DecidableEq

def Device.posture (v : Device) : Posture := ⟨v.lifecycle, v.power⟩

namespace World

variable {b : DriverId} {r : RequestId} {d x : DeviceId} {ds es : List DeviceId} {n : Nat} {p : Posture}
  {u v w : World}

/-! ## Sparing -/

structure Spares (b : DriverId) (r : RequestId) (ds : List DeviceId) (v w : World) : Prop where
  later : v.Later w
  devices : w.devices.size = v.devices.size
  completed : (w.request r).completed = (v.request r).completed
  tickets : (w.request r).tickets = (v.request r).tickets
  children : ∀ x, (w.device x).children.Sublist (v.device x).children
  posture : ∀ x ∉ ds, (w.device x).posture = (v.device x).posture
  lock : ∀ x ∉ ds, (w.device x).lock = (v.device x).lock
  held : ∀ x ∉ ds, (w.request r).locks.count x = (v.request r).locks.count x
  registered : ∀ x ∉ ds, ∀ key, v.lookup b key = some x → w.lookup b key = some x

namespace Spares

theorem refl (w : World) : Spares b r ds w w :=
  ⟨.refl w, rfl, rfl, rfl, fun _ => List.Sublist.refl _, fun _ _ => rfl, fun _ _ => rfl, fun _ _ => rfl,
    fun _ _ _ => id⟩

theorem trans (h : Spares b r ds u v) (h' : Spares b r ds v w) : Spares b r ds u w where
  later := h.later.trans h'.later
  devices := h'.devices.trans h.devices
  completed := h'.completed.trans h.completed
  tickets := h'.tickets.trans h.tickets
  children x := (h'.children x).trans (h.children x)
  posture x hx := (h'.posture x hx).trans (h.posture x hx)
  lock x hx := (h'.lock x hx).trans (h.lock x hx)
  held x hx := (h'.held x hx).trans (h.held x hx)
  registered x hx key := h'.registered x hx key ∘ h.registered x hx key

theorem mono (hs : ∀ x ∈ ds, x ∈ es) (h : Spares b r ds v w) : Spares b r es v w where
  later := h.later
  devices := h.devices
  completed := h.completed
  tickets := h.tickets
  children := h.children
  posture x hx := h.posture x fun hd => hx (hs x hd)
  lock x hx := h.lock x fun hd => hx (hs x hd)
  held x hx := h.held x fun hd => hx (hs x hd)
  registered x hx := h.registered x fun hd => hx (hs x hd)

theorem of_nil (h : Spares b r [] v w) : Spares b r ds v w := h.mono fun _ hx => absurd hx List.not_mem_nil

theorem of_mem (hd : d ∈ ds) (h : Spares b r [d] v w) : Spares b r ds v w :=
  h.mono fun x hx => by rw [List.mem_singleton.mp hx]; exact hd

theorem childless (h : Spares b r ds v w) (hx : (v.device x).children = []) : (w.device x).children = [] :=
  List.sublist_nil.mp (hx ▸ h.children x)

theorem agrees (h : v.Agrees b w) : Spares b r ds v w := by
  have hd (x : DeviceId) : w.device x = v.device x := by rw [device, device, h.devices]
  have hr : w.request r = v.request r := by rw [request, request, h.requests]
  refine ⟨(Passing.agrees h).later, by rw [h.devices], by rw [hr], by rw [hr], fun x => (hd x).symm ▸ .refl _,
    fun x _ => by rw [hd], fun x _ => by rw [hd], fun x _ => by rw [hr], fun x _ key => ?_⟩
  rw [lookup, lookup, h.registry]; exact id

theorem note (w : World) (n : Notice) : Spares b r ds w (w.note n) :=
  ⟨(Passing.of_onlyReleases (b := b) (v := w) (w := w.note n) ⟨.of_devices rfl, rfl, rfl, rfl⟩).later,
    rfl, rfl, rfl, fun _ => .refl _, fun _ _ => rfl, fun _ _ => rfl, fun _ _ => rfl, fun _ _ _ => id⟩

theorem updateDevice (w : World) {f : Device → Device} (hl : (w.device d).Later (f (w.device d)))
    (hc : (f (w.device d)).children.Sublist (w.device d).children) :
    Spares b r [d] w (w.updateDevice d f) := by
  have he (x : DeviceId) (hx : x ∉ [d]) : (w.updateDevice d f).device x = w.device x := by
    rw [device_updateDevice, if_neg fun e => hx (List.mem_singleton.mpr e.1)]
  refine ⟨.updateDevice w d hl, w.size_updateDevice d f, rfl, rfl, fun x => ?_, fun x hx => by rw [he x hx],
    fun x hx => by rw [he x hx], fun _ _ => rfl, fun _ _ _ => id⟩
  rw [device_updateDevice]
  split
  next e => rw [e.1]; exact hc
  next => exact List.Sublist.refl _

theorem updateRequest (w : World) {f : Request → Request} (hc : ∀ q, (f q).completed = q.completed)
    (ht : ∀ q, (f q).tickets = q.tickets) (hl : ∀ q, ∀ x ∉ ds, (f q).locks.count x = q.locks.count x) :
    Spares b r ds w (w.updateRequest r f) := by
  refine ⟨(Passing.updateRequest (b := b) w r f).later, rfl, ?_, ?_, fun _ => .refl _, fun _ _ => rfl,
    fun _ _ => rfl, fun x hx => ?_, fun _ _ _ => id⟩ <;> rw [request_updateRequest] <;> split
  · exact hc _
  · rfl
  · exact ht _
  · rfl
  · exact hl _ x hx
  · rfl

theorem updateLayer (w : World) (d : DeviceId) {f : Layer → Layer}
    (hf : ∀ layer, (f layer).lower = layer.lower ∧ (f layer).active = layer.active)
    (hc : ∀ layer, (f layer).children.Sublist layer.children) :
    Spares b r ds w (w.updateDevice d fun v => v.updateLayer f) := by
  refine ⟨later_updateLayer w d hf, w.size_updateDevice d _, rfl, rfl, fun x => ?_, fun x _ => ?_, fun x _ => ?_,
    fun _ _ => rfl, fun _ _ _ => id⟩ <;> rw [device_updateDevice] <;> split
  next e =>
    rw [e.1, Device.children, Device.children, Device.layer?_updateLayer]
    cases (w.device d).layer? with
    | none => exact List.Sublist.refl _
    | some layer => exact hc layer
  next => exact List.Sublist.refl _
  next e => rw [e.1, Device.posture, Device.posture, Device.lifecycle_updateLayer, Device.power_updateLayer]
  next => rfl
  next e => rw [e.1, Device.lock_updateLayer]
  next => rfl

theorem setLock (w : World) (d : DeviceId) {m : RemoveLock}
    (hd : (w.device d).lock.draining = true → m.draining = true)
    (hl : (w.device d).lock.latch = true → m.latch = true) : Spares b r [d] w (w.setLock (.device d) m) :=
  updateDevice w ⟨rfl, rfl, hd, hl, id, fun _ => .inl rfl⟩ (.refl _)

theorem releaseLock (w : World) (d : DeviceId) : Spares b r [d] w (w.after (releaseLock (.device d))) := by
  rw [after_releaseLock]
  split
  next m h =>
    rw [lock_device] at h
    rw [RemoveLock.eq_of_release? h]
    exact setLock w d id fun e => by simp [e]
  next => exact note w _

theorem closeLock (w : World) (d : DeviceId) : Spares b r [d] w (w.after (closeLock (.device d))) := by
  rw [after_closeLock]
  split
  · exact refl w
  · have hc : Spares b r [d] w (w.setLock (.device d) (w.device d).lock.close) := setLock w d (fun _ => rfl) id
    exact hc.trans (releaseLock _ d)

theorem leaveParent (w : World) (d : DeviceId) : Spares b r ds w (w.after (leaveParent d)) := by
  rw [after_leaveParent]
  split
  · exact updateLayer w _ (fun _ => ⟨rfl, rfl⟩) fun _ => List.filter_sublist
  · exact refl w

end Spares

theorem device_closeLock (hd : d < w.devices.size) (ho : ¬w.IsClosed d) :
    (w.after (closeLock (.device d))).device d =
      { w.device d with lock := (w.device d).lock.close.release?.getD (w.device d).lock.close } := by
  have he (m : RemoveLock) : (w.setLock (.device d) m).device d = { w.device d with lock := m } := by
    rw [setLock, device_updateDevice, if_pos ⟨rfl, hd⟩]
  rw [IsClosed] at ho
  rw [after_closeLock, lock_device, if_neg ho, after_releaseLock, lock_device, he]
  cases (w.device d).lock.close.release? with
  | none => exact he _
  | some m =>
    show (((w.setLock (.device d) _).setLock (.device d) m).device d) = _
    rw [setLock, device_updateDevice, if_pos ⟨rfl, by rw [setLock, size_updateDevice]; exact hd⟩, he]
    rfl

theorem drivers_closeLock (w : World) (d : DeviceId) : (w.after (closeLock (.device d))).drivers = w.drivers := by
  rw [after_closeLock]
  split
  · rfl
  · exact (OnlyReleases.releaseLock _ d).drivers

/-! ## Standing in the way of a request -/

structure Present (b : DriverId) (p : Posture) (n : Nat) (w : World) (d : DeviceId) : Prop where
  size : d < w.devices.size
  posture : (w.device d).posture = p
  registered : w.lookup b (w.device d).key = some d
  lends : (w.device d).lock.Lends n

structure Stands (b : DriverId) (r : RequestId) (p : Posture) (n : Nat) (w : World) (d : DeviceId) : Prop extends
    Present b p n w d where
  held : (w.request r).locks.count d = n

structure Drained (b : DriverId) (p : Posture) (w : World) (d : DeviceId) : Prop where
  size : d < w.devices.size
  posture : (w.device d).posture = p
  registered : w.lookup b (w.device d).key = some d
  drained : (w.device d).lock.isDrained = true

theorem Spares.present (h : Spares b r ds v w) (hd : d ∉ ds) (hs : v.Present b p n d) : w.Present b p n d where
  size := Nat.lt_of_lt_of_le hs.size h.later.devices
  posture := (h.posture d hd).trans hs.posture
  registered := by rw [(h.later.device d hs.size).key]; exact h.registered d hd _ hs.registered
  lends := by rw [h.lock d hd]; exact hs.lends

theorem Spares.stands (h : Spares b r ds v w) (hd : d ∉ ds) (hs : v.Stands b r p n d) : w.Stands b r p n d :=
  ⟨h.present hd hs.toPresent, (h.held d hd).trans hs.held⟩

theorem Spares.drained (h : Spares b r ds v w) (hd : d ∉ ds) (hs : v.Drained b p d) : w.Drained b p d where
  size := Nat.lt_of_lt_of_le hs.size h.later.devices
  posture := (h.posture d hd).trans hs.posture
  registered := by rw [(h.later.device d hs.size).key]; exact h.registered d hd _ hs.registered
  drained := by rw [h.lock d hd]; exact hs.drained

namespace Present

theorem state (h : w.Present b p n d) : (w.device d).state = p.lifecycle.current := by rw [← h.posture]; rfl

theorem lifecycle (h : w.Present b p n d) : (w.device d).lifecycle = p.lifecycle := by rw [← h.posture]; rfl

theorem not_closed (h : w.Present b p n d) : ¬w.IsClosed d := fun e => by
  rw [IsClosed, h.lends.opened] at e; cases e

theorem of_device {p' : Posture} {m : Nat} (h : v.Present b p n d) (hs : w.devices.size = v.devices.size)
    (hr : (w.driver b).registry = (v.driver b).registry) (hk : (w.device d).key = (v.device d).key)
    (hp : (w.device d).posture = p') (hl : (w.device d).lock.Lends m) : w.Present b p' m d where
  size := hs ▸ h.size
  posture := hp
  registered := by rw [lookup, hr, hk]; exact h.registered
  lends := hl

end Present

namespace Stands

theorem updateDevice {p' : Posture} {f : Device → Device} (h : w.Stands b r p n d)
    (hk : (f (w.device d)).key = (w.device d).key)
    (hp : (f (w.device d)).posture = p') (hl : (f (w.device d)).lock = (w.device d).lock) :
    (w.updateDevice d f).Stands b r p' n d := by
  have hd : (w.updateDevice d f).device d = f (w.device d) := by rw [device_updateDevice, if_pos ⟨rfl, h.size⟩]
  refine ⟨h.of_device (w.size_updateDevice d f) rfl ?_ ?_ ?_, h.held⟩ <;> rw [hd]
  · exact hk
  · exact hp
  · rw [hl]; exact h.lends

theorem setLifecycle (h : w.Stands b r p n d) (hp : p.lifecycle.current ≠ .deleted) (m : Lifecycle) :
    Spares b r [d] w (w.setLifecycle d m) ∧ (w.setLifecycle d m).Stands b r ⟨m, p.power⟩ n d := by
  refine ⟨.updateDevice w ?_ (.refl _), h.updateDevice rfl (by rw [← h.posture]; rfl) rfl⟩
  exact ⟨rfl, rfl, id, id, fun e => absurd (h.state.symm.trans e) hp, fun e => absurd e h.not_closed⟩

theorem repower (h : w.Stands b r p n d) (f : Power → Power) :
    Spares b r [d] w (w.updateDevice d fun v => { v with power := f v.power }) ∧
      (w.updateDevice d fun v => { v with power := f v.power }).Stands b r ⟨p.lifecycle, f p.power⟩ n d := by
  refine ⟨.updateDevice w ⟨rfl, rfl, id, id, id, fun _ => .inl rfl⟩ (.refl _), h.updateDevice rfl ?_ rfl⟩
  rw [← h.posture]; rfl

theorem take (h : w.Stands b r p n d) (hr : w.Knows r) (hn : n < 2 ^ 31) :
    Spares b r [d] w (w.take d r) ∧ (w.take d r).Stands b r p (n + 1) d := by
  have hd : (w.take d r).device d =
      { w.device d with lock := { (w.device d).lock with count := (w.device d).lock.count + 1 } } := by
    rw [World.take, device_updateRequest, setLock, device_updateDevice, if_pos ⟨rfl, h.size⟩]
  have hq : ((w.take d r).request r).locks = d :: (w.request r).locks := by
    rw [World.take, request_updateRequest, if_pos ⟨rfl, hr⟩]; rfl
  constructor
  · have hl : Spares b r [d] w
        (w.setLock (.device d) { (w.device d).lock with count := (w.device d).lock.count + 1 }) :=
          .setLock w d id id
    refine hl.trans (.updateRequest _ (fun _ => rfl) (fun _ => rfl) fun q x hx => ?_)
    exact List.count_cons_of_ne fun e => hx (List.mem_singleton.mpr e.symm)
  · refine ⟨h.of_device ?_ rfl ?_ ?_ ?_, by rw [hq, List.count_cons_self, h.held]⟩
    · rw [World.take, devices_updateRequest, setLock, size_updateDevice]
    all_goals rw [hd]
    · rfl
    · exact h.posture
    · exact h.lends.acquired hn

theorem giveBack (h : w.Stands b r p (n + 1) d) (hr : w.Knows r) :
    Spares b r [d] w (w.after (PnpBus.giveBack r d)) ∧ (w.after (PnpBus.giveBack r d)).Stands b r p n d ∧
      (((w.after (PnpBus.giveBack r d)).device d).lock.count = 0 →
        ((w.after (PnpBus.giveBack r d)).device d).lock.latch = true) := by
  have hm : d ∈ (w.request r).locks := List.count_pos_iff.mp (by rw [h.held]; exact Nat.succ_pos n)
  obtain ⟨m, hrel, hl, hz⟩ := h.lends.released
  have hw : w.after (PnpBus.giveBack r d) =
      (w.updateRequest r fun q => { q with locks := q.locks.erase d }).setLock (.device d) m := by
    rw [after_giveBack, if_pos hm, World.giveBack, after_releaseLock]
    rw [lock_device, device_updateRequest, hrel]
  have hd : (w.after (PnpBus.giveBack r d)).device d = { w.device d with lock := m } := by
    rw [hw, setLock, device_updateDevice, if_pos ⟨rfl, h.size⟩]; rfl
  have hq : ((w.after (PnpBus.giveBack r d)).request r).locks = (w.request r).locks.erase d := by
    rw [hw, setLock, request_updateDevice, request_updateRequest, if_pos ⟨rfl, hr⟩]
  refine ⟨?_, ⟨h.of_device ?_ ?_ (by rw [hd]; rfl) (by rw [hd]; exact h.posture) (by rw [hd]; exact hl), ?_⟩, ?_⟩
  · have he : Spares b r [d] w (w.updateRequest r fun q => { q with locks := q.locks.erase d }) := by
      refine .updateRequest w (fun _ => rfl) (fun _ => rfl) fun q x hx => ?_
      exact List.count_erase_of_ne fun e => hx (List.mem_singleton.mpr e)
    rw [after_giveBack, if_pos hm]
    exact he.trans (.releaseLock _ d)
  · rw [hw, setLock, size_updateDevice]; rfl
  · rw [hw]; rfl
  · rw [hq, List.count_erase_self, h.held]; rfl
  · rw [hd]; exact hz

theorem closeLock (h : w.Stands b r p 0 d)
    (hz : (w.device d).lock.count = 0 → (w.device d).lock.latch = true) :
    (w.after (PnpBus.closeLock (.device d))).Drained b p d := by
  have hs := Spares.closeLock (b := b) (r := r) w d
  have hd := device_closeLock h.size h.not_closed
  refine ⟨Nat.lt_of_lt_of_le h.size hs.later.devices, by rw [hd]; exact h.posture, ?_, ?_⟩
  · rw [lookup, driver, drivers_closeLock, hd]; exact h.registered
  · rw [hd]; exact h.lends.closed hz

end Stands

/-! ## Deletion -/

theorem size_of_lookup {key : DeviceKey} (h : w.lookup b key = some d) : b < w.drivers.size := by
  refine Nat.lt_of_not_le fun hb => ?_
  rw [lookup, show w.driver b = default from Table.get_of_size_le hb] at h
  cases h

namespace Drained

theorem lifecycle (h : w.Drained b p d) : (w.device d).lifecycle = p.lifecycle := by rw [← h.posture]; rfl

theorem retire (h : w.Drained b p d) :
    Spares b r [d] w (w.retire d b) ∧
      ((w.retire d b).device d).posture = ⟨⟨.deleted, p.lifecycle.current.beforeDeletion⟩, p.power⟩ := by
  have hm : Spares b r [d] w (w.setLifecycle d ⟨.deleted, (w.device d).state.beforeDeletion⟩) :=
    .updateDevice w ⟨rfl, rfl, id, id, fun _ => rfl, fun _ => .inr rfl⟩ (.refl _)
  have hp (ds : List DeviceId) :
      Spares b r ds (w.setLifecycle d ⟨.deleted, (w.device d).state.beforeDeletion⟩) _ := .leaveParent _ d
  have hs := hm.trans (hp [d])
  constructor
  · refine ⟨later_retire w d b, size_retire w d b, hs.completed, hs.tickets, hs.children, hs.posture,
      hs.lock, hs.held, ?_⟩
    intro x hx key hk
    rw [lookup_retire (size_of_lookup h.registered), if_neg fun e => ?_]
    · exact hk
    · -- the key of `d` leads to `d` alone
      rw [e, h.registered] at hk
      exact hx (List.mem_singleton.mpr (Option.some.inj hk).symm)
  · refine ((hp []).posture d List.not_mem_nil).trans ?_
    rw [setLifecycle, device_updateDevice, if_pos ⟨rfl, h.size⟩, Device.state, h.lifecycle, ← h.posture]
    rfl

theorem finishRemoval (h : w.Drained b p d) (hl : p.lifecycle.current.isLeaving = true) :
    ∃ w', (finishRemoval b d).run w = (.ok (), w') ∧ Spares b r [d] w w' ∧
      (w'.device d).posture = ⟨⟨.deleted, p.lifecycle.current.beforeDeletion⟩, p.power⟩ := by
  obtain ⟨-, n, -, e⟩ | ⟨hx, -⟩ := finishRemoval_cases (fun _ => h.registered) h.drained h.size
  · have ⟨hs, hp⟩ := h.retire (r := r)
    exact ⟨_, e, hs.trans (.note _ n), hp⟩
  · rw [IsLeaving, Device.state, h.lifecycle] at hx
    exact absurd hl hx

end Drained

/-! ## Completion -/

theorem device_releaseLock (hx : x < w.devices.size) (d : DeviceId) : ∃ l : RemoveLock,
    (w.after (releaseLock (.device d))).device x = { w.device x with lock := l } ∧
      ∀ n, (w.device x).lock.Lends (n + [d].count x) → l.Lends n := by
  by_cases hd : x = d
  · subst hd
    rw [List.count_singleton_self, after_releaseLock]
    split
    next m h =>
      refine ⟨m, by rw [setLock, device_updateDevice, if_pos ⟨rfl, hx⟩], fun n hl => ?_⟩
      obtain ⟨m', h', hl', -⟩ := hl.released
      rw [lock_device, h'] at h
      exact Option.some.inj h ▸ hl'
    next h =>
      refine ⟨_, rfl, fun n hl => ?_⟩
      obtain ⟨m, h', -⟩ := hl.released
      rw [lock_device, h'] at h
      cases h
  · rw [List.count_singleton, if_neg fun e => hd (eq_of_beq e).symm]
    exact ⟨(w.device x).lock, w.device_releaseLock_of_ne hd, fun _ => id⟩

theorem device_releaseAll : ∀ (ds : List DeviceId) {w : World}, x < w.devices.size → ∃ l : RemoveLock,
    (w.after (ds.forM fun d => releaseLock (.device d))).device x = { w.device x with lock := l } ∧
      ∀ n, (w.device x).lock.Lends (n + ds.count x) → l.Lends n
  | [], w, _ => ⟨_, rfl, fun _ => id⟩
  | d :: ds, w, hx => by
    have ⟨l, hl, hn⟩ := device_releaseLock hx d
    have hs := (OnlyReleases.releaseLock w d).sameStanding.size
    have ⟨m, hm, hn'⟩ := device_releaseAll ds (w := w.after (releaseLock (.device d))) (hs ▸ hx)
    refine ⟨m, ?_, fun n h => hn' n ?_⟩
    · rw [after, Act.forM_cons]
      rw [after] at hm
      rw [hm, hl]
    · rw [hl]
      refine hn _ ?_
      rw [Nat.add_assoc, Nat.add_comm (ds.count x), ← List.count_append]
      exact h

theorem device_releaseAll_of_not_mem : ∀ {ds : List DeviceId} {w : World}, x ∉ ds →
    (w.after (ds.forM fun d => releaseLock (.device d))).device x = w.device x
  | [], _, _ => rfl
  | d :: ds, w, hx => by
    rw [List.mem_cons, not_or] at hx
    obtain ⟨hne, hx⟩ := hx
    rw [after, Act.forM_cons]
    exact (device_releaseAll_of_not_mem hx).trans (w.device_releaseLock_of_ne hne)

/-- Without tickets, all that completion does to devices is to give back what the request holds. -/
theorem exists_complete (hc : (w.request r).completed = false) (ht : (w.request r).tickets = []) (hr : w.Knows r)
    (s : Status) : ∃ u : World, u.devices = w.devices ∧ ∀ x, (w.after (complete r s)).device x =
      (u.after ((w.request r).locks.forM fun d => releaseLock (.device d))).device x := by
  have hq : (w.updateRequest r fun q => { q with completed := true, status := s }).request r =
      { w.request r with completed := true, status := s } := by rw [request_updateRequest, if_pos ⟨rfl, hr⟩]
  rw [after_complete, if_neg (by rw [hc]; exact Bool.noConfusion), after_relinquish, hq]
  simp only [ht]
  exact ⟨(w.updateRequest r fun q => { q with completed := true, status := s }).updateRequest r fun q =>
    { q with locks := [], tickets := [] }, rfl, fun _ => rfl⟩

theorem device_complete (hx : x < w.devices.size) (hc : (w.request r).completed = false)
    (ht : (w.request r).tickets = []) (hr : w.Knows r) (s : Status) : ∃ l : RemoveLock,
    (w.after (complete r s)).device x = { w.device x with lock := l } ∧
      ∀ n, (w.device x).lock.Lends (n + (w.request r).locks.count x) → l.Lends n := by
  obtain ⟨u, hu, he⟩ := exists_complete hc ht hr s
  have hd : u.device x = w.device x := by rw [device, device, hu]
  rw [he, ← hd]
  exact device_releaseAll _ (hu ▸ hx)

theorem device_complete_of_not_mem (hx : x ∉ (w.request r).locks) (hc : (w.request r).completed = false)
    (ht : (w.request r).tickets = []) (hr : w.Knows r) (s : Status) :
    (w.after (complete r s)).device x = w.device x := by
  obtain ⟨u, hu, he⟩ := exists_complete hc ht hr s
  rw [he, device_releaseAll_of_not_mem hx, device, device, hu]

theorem Stands.complete (h : w.Stands b r p n d) (hc : (w.request r).completed = false)
    (ht : (w.request r).tickets = []) (hr : w.Knows r) (s : Status) : (w.after (complete r s)).Present b p 0 d := by
  have ⟨l, hd, hl⟩ := device_complete h.size hc ht hr s
  have hp := Passing.complete (b := b) w r s
  refine h.of_device hp.sameStanding.size hp.registry ?_ ?_ ?_ <;> rw [hd]
  · rfl
  · exact h.posture
  · refine hl 0 ?_
    rw [Nat.zero_add, h.held]; exact h.lends

end World

end PnpBus
