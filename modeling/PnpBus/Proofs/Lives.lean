import PnpBus.Proofs.Standing

/-!
# The lives of devices

What is true of a device now and stays true for good (`Later`), and what is
true of every device at any time (`Sane`): it is registered exactly as long as
it is not deleted, and deleted only once its lock is drained. Every move keeps
both.
-/

namespace PnpBus

/-! ## What stays -/

structure Device.Later (v v' : Device) : Prop where
  identity : v'.identity = v.identity
  shape : v'.extension.shape = v.extension.shape
  closed : v.lock.draining = true → v'.lock.draining = true
  latch : v.lock.latch = true → v'.lock.latch = true
  gone : v.state = .deleted → v'.state = .deleted
  /-- A device that gets no new references can only be deleted. -/
  frozen : v.lock.draining = true → v'.lifecycle = v.lifecycle ∨ v'.state = .deleted

namespace Device.Later

variable {u v w : Device}

theorem refl (v : Device) : v.Later v := ⟨rfl, rfl, id, id, id, fun _ => .inl rfl⟩

theorem trans (h : u.Later v) (h' : v.Later w) : u.Later w where
  identity := h'.identity.trans h.identity
  shape := h'.shape.trans h.shape
  closed := h'.closed ∘ h.closed
  latch := h'.latch ∘ h.latch
  gone := h'.gone ∘ h.gone
  frozen hd := by
    rcases h'.frozen (h.closed hd) with e | e
    · rcases h.frozen hd with e' | e'
      · exact .inl (e.trans e')
      · exact .inr (h'.gone e')
    · exact .inr e

theorem of_sameStanding (h : v.SameStanding w) : v.Later w :=
  ⟨h.identity, h.shape, fun e => h.draining.trans e, h.latch, fun e => h.state.trans e, fun _ => .inl h.lifecycle⟩

theorem role (h : v.Later w) : w.role = v.role := Device.role_eq_of_shape h.shape

theorem parent (h : v.Later w) : w.parent? = v.parent? := Device.parent?_eq_of_shape h.shape

theorem key (h : v.Later w) : w.key = v.key := by rw [Device.key, Device.key, h.identity, h.role]

end Device.Later

theorem Stack.mem_members_of_layers {x : DeviceId} : ∀ {t : Stack}, x ∈ t.layers → x ∈ t.members
  | .functional d _, h => by
    rcases List.mem_cons.mp h with rfl | h
    · exact List.mem_cons_self
    · exact List.mem_cons_of_mem d (mem_members_of_layers h)

theorem Device.later_updateLayer (v : Device) {f : Layer → Layer}
    (hf : ∀ layer, (f layer).lower = layer.lower ∧ (f layer).active = layer.active) :
    v.Later (v.updateLayer f) where
  identity := v.identity_updateLayer f
  shape := v.shape_updateLayer f hf
  closed := by rw [v.lock_updateLayer]; exact id
  latch := by rw [v.lock_updateLayer]; exact id
  gone := by rw [Device.state, Device.state, v.lifecycle_updateLayer]; exact id
  frozen _ := .inl (v.lifecycle_updateLayer f)

namespace World

structure Later (v w : World) : Prop where
  devices : v.devices.size ≤ w.devices.size
  requests : v.requests.size ≤ w.requests.size
  device : ∀ d < v.devices.size, (v.device d).Later (w.device d)

variable {u v w : World} {d : DeviceId}

theorem device_of_size_le (h : w.devices.size ≤ d) : w.device d = default := Table.get_of_size_le h

theorem IsClosed.size (h : w.IsClosed d) : d < w.devices.size := by
  refine Nat.lt_of_not_le fun hs => ?_
  rw [IsClosed, device_of_size_le hs] at h
  cases h

theorem IsGone.size (h : w.IsGone d) : d < w.devices.size := by
  refine Nat.lt_of_not_le fun hs => ?_
  rw [IsGone, device_of_size_le hs] at h
  cases h

theorem IsDeparting.size (h : w.IsDeparting d) : d < w.devices.size := by
  refine Nat.lt_of_not_le fun hs => ?_
  rw [IsDeparting, IsLeaving, IsGone, device_of_size_le hs] at h
  rcases h with h | h <;> cases h

theorem IsChild.size {c : DeviceId} (h : w.IsChild d c) : c < w.devices.size := by
  refine Nat.lt_of_not_le fun hs => ?_
  rw [IsChild, device_of_size_le hs] at h
  cases h.1

theorem IsChild.physical {c : DeviceId} (h : w.IsChild d c) : (w.device c).role = .physical :=
  Device.role_of_parent? h.1

theorem Linked.mono (hs : v.devices.size ≤ w.devices.size)
    (hr : ∀ d < v.devices.size, (w.device d).role = (v.device d).role) : ∀ {s : Stack}, v.Linked s → w.Linked s
  | .physical d, ⟨hd, hp⟩ => ⟨Nat.lt_of_lt_of_le hd hs, (hr d hd).trans hp⟩
  | .functional d _, ⟨hd, hf, ho, hl⟩ => ⟨Nat.lt_of_lt_of_le hd hs, (hr d hd).trans hf, ho, hl.mono hs hr⟩

theorem Linked.top_lt : ∀ {s : Stack}, w.Linked s → s.top < w.devices.size
  | .physical _, h => h.1
  | .functional _ _, h => h.1

theorem Linked.le_top : ∀ {t : Stack}, w.Linked t → ∀ x ∈ t.members, x ≤ t.top
  | .physical _, _, x, hx => Nat.le_of_eq (List.mem_singleton.mp hx)
  | .functional d lower, ⟨_, _, hlt, hl⟩, x, hx => by
    rcases List.mem_cons.mp hx with rfl | hx
    · exact Nat.le_refl _
    · exact Nat.le_trans (hl.le_top x hx) (Nat.le_of_lt hlt)

theorem Linked.size_of_mem {t : Stack} (h : w.Linked t) (x : DeviceId) (hx : x ∈ t.members) :
    x < w.devices.size := Nat.lt_of_le_of_lt (h.le_top x hx) h.top_lt

theorem Linked.mem_layers {x : DeviceId} : ∀ {t : Stack}, w.Linked t → x ∈ t.members →
    (w.device x).role = .functional → x ∈ t.layers
  | .physical d, h, hx, hf => by
    rw [List.mem_singleton.mp hx, h.2] at hf
    cases hf
  | .functional d lower, h, hx, hf => by
    rcases List.mem_cons.mp hx with rfl | hx
    · exact List.mem_cons_self
    · exact List.mem_cons_of_mem d (mem_layers h.2.2.2 hx hf)

theorem top_stack (w : World) (d : DeviceId) : (w.stack d).top = d := by
  unfold stack; split <;> rfl

theorem stack_eq_of_shape (h : (w.device d).extension.shape = (v.device d).extension.shape) :
    w.stack d = v.stack d := by
  unfold World.stack
  cases h₁ : (v.device d).extension <;> cases h₂ : (w.device d).extension <;>
    simp_all [Extension.shape]

namespace Later

theorem refl (w : World) : w.Later w := ⟨Nat.le_refl _, Nat.le_refl _, fun _ _ => .refl _⟩

theorem trans (h : u.Later v) (h' : v.Later w) : u.Later w where
  devices := Nat.le_trans h.devices h'.devices
  requests := Nat.le_trans h.requests h'.requests
  device d hd := (h.device d hd).trans (h'.device d (Nat.lt_of_lt_of_le hd h.devices))

theorem of_sameStanding (h : v.SameStanding w) (hr : v.requests.size ≤ w.requests.size) : v.Later w :=
  ⟨Nat.le_of_eq h.size.symm, hr, fun d _ => .of_sameStanding (h.device d)⟩

theorem updateDevice (w : World) (d : DeviceId) {f : Device → Device} (hf : (w.device d).Later (f (w.device d))) :
    w.Later (w.updateDevice d f) := by
  refine ⟨Nat.le_of_eq (w.size_updateDevice d f).symm, Nat.le_refl _, fun x _ => ?_⟩
  rw [device_updateDevice]
  split
  next h => rw [h.1]; exact hf
  next => exact .refl _

theorem updateDriver (h : v.Later w) (b : DriverId) (f : Driver → Driver) : v.Later (w.updateDriver b f) :=
  ⟨h.devices, h.requests, h.device⟩

theorem closed (h : v.Later w) (hc : v.IsClosed d) : w.IsClosed d := (h.device d hc.size).closed hc

theorem gone (h : v.Later w) (hg : v.IsGone d) : w.IsGone d := (h.device d hg.size).gone hg

theorem frozen (h : v.Later w) (hc : v.IsClosed d) :
    (w.device d).lifecycle = (v.device d).lifecycle ∨ w.IsGone d := (h.device d hc.size).frozen hc

theorem knows (h : v.Later w) {r : RequestId} (hr : v.Knows r) : w.Knows r := Nat.lt_of_lt_of_le hr h.requests

theorem linked (h : v.Later w) {s : Stack} : v.Linked s → w.Linked s :=
  Linked.mono h.devices fun d hd => (h.device d hd).role

theorem stack (h : v.Later w) (hd : d < v.devices.size) : w.stack d = v.stack d :=
  stack_eq_of_shape (h.device d hd).shape

end Later

end World

/-! ## What is always so -/

structure Device.Sound (R : Regime) (v : Device) : Prop where
  orderly : v.lifecycle.IsOrderly
  drained : v.state = .deleted → v.lock.isDrained = true
  closing : R.sparing ∨ v.role = .physical → v.lock.draining = true →
    v.state.isLeaving = true ∨ v.state = .deleted

namespace Device.Sound

variable {R : Regime} {v v' : Device}

theorem congr (h : v.Sound R) (hs : v'.extension.shape = v.extension.shape) (hc : v'.lifecycle = v.lifecycle)
    (hd : v'.lock.draining = v.lock.draining) (hl : v.lock.latch = true → v'.lock.latch = true) : v'.Sound R where
  orderly := by rw [hc]; exact h.orderly
  drained hg := by
    have := h.drained (by rw [Device.state, ← hc]; exact hg)
    simp only [RemoveLock.isDrained, Bool.and_eq_true] at this ⊢
    exact ⟨hd.trans this.1, hl this.2⟩
  closing := by rw [Device.state, hc, Device.role_eq_of_shape hs, hd]; exact h.closing

theorem sameStanding (h : v.Sound R) (hk : v.SameStanding v') : v'.Sound R :=
  h.congr hk.shape hk.lifecycle hk.draining hk.latch

end Device.Sound

namespace World

variable {R : Regime} {p : Prop} {u v w : World} {d : DeviceId}

structure Sane (R : Regime) (w : World) : Prop where
  driver : R.driver < w.drivers.size
  sound : ∀ d, (w.device d).Sound R
  linked : ∀ d < w.devices.size, w.Linked (w.stack d)
  children : ∀ d, ∀ c ∈ (w.device d).children, w.IsChild d c
  sorted : ∀ d, (w.device d).children.Pairwise (· < ·)
  parents : ∀ c d, (w.device c).parent? = some d → d < c
  known : ∀ r ∈ w.clients.requests, w.Knows r
  entries : ∀ key d, w.lookup R.driver key = some d → d < w.devices.size ∧ (w.device d).key = key
  registered : ∀ d < w.devices.size, w.lookup R.driver (w.device d).key = some d ↔ ¬w.IsGone d

theorem Sane.later (h : v.Sane R) (hl : v.Later w) (hd : R.driver < w.drivers.size)
    (hn : w.devices.size = v.devices.size) (hs : ∀ d, (w.device d).Sound R)
    (hc : ∀ d, ∀ c ∈ (w.device d).children, v.IsChild d c) (ho : ∀ d, (w.device d).children.Pairwise (· < ·))
    (hk : ∀ r ∈ w.clients.requests, w.Knows r)
    (he : ∀ key, w.lookup R.driver key = v.lookup R.driver key) (hg : ∀ d, w.IsGone d → v.IsGone d) : w.Sane R where
  driver := hd
  sound := hs
  linked d hd := by
    rw [hn] at hd
    rw [hl.stack hd]; exact hl.linked (h.linked d hd)
  children d c hm :=
    have hc := hc d c hm
    ⟨(hl.device c hc.size).parent.trans hc.1, mt (hg c) hc.2⟩
  sorted := ho
  parents c d hp := by
    rcases Nat.lt_or_ge c v.devices.size with hs | hs
    · rw [(hl.device c hs).parent] at hp; exact h.parents c d hp
    · rw [device_of_size_le (hn ▸ hs)] at hp; cases hp
  known := hk
  entries key d hd := by
    rw [he] at hd
    have ⟨hs, hk⟩ := h.entries key d hd
    exact ⟨hn ▸ hs, (hl.device d hs).key.trans hk⟩
  registered d hd := by
    rw [hn] at hd
    rw [he, (hl.device d hd).key, h.registered d hd]
    exact not_congr ⟨hl.gone, hg d⟩

/-! ## Moves that leave every life as it is -/

structure Passing (b : DriverId) (v w : World) : Prop where
  sameStanding : v.SameStanding w
  requests : v.requests.size ≤ w.requests.size
  drivers : v.drivers.size ≤ w.drivers.size
  registry : (w.driver b).registry = (v.driver b).registry
  known : ∀ r ∈ w.clients.requests, r ∈ v.clients.requests ∨ w.Knows r

namespace Passing

variable {b : DriverId}

theorem later (h : Passing b v w) : v.Later w := .of_sameStanding h.sameStanding h.requests

theorem sane (h : Passing R.driver v w) (hs : v.Sane R) : w.Sane R := by
  refine hs.later h.later (Nat.lt_of_lt_of_le hs.driver h.drivers) h.sameStanding.size
    (fun d => (hs.sound d).sameStanding (h.sameStanding.device d)) (fun d => ?_) (fun d => ?_) (fun r hr => ?_)
    (fun key => by rw [lookup, lookup, h.registry]) fun d hg => ?_
  · rw [(h.sameStanding.device d).children]; exact hs.children d
  · rw [(h.sameStanding.device d).children]; exact hs.sorted d
  · exact (h.known r hr).elim (fun hr => h.later.knows (hs.known r hr)) id
  · rw [IsGone, (h.sameStanding.device d).state] at hg; exact hg

theorem trans (h : Passing b u v) (h' : Passing b v w) : Passing b u w where
  sameStanding := h.sameStanding.trans h'.sameStanding
  requests := Nat.le_trans h.requests h'.requests
  drivers := Nat.le_trans h.drivers h'.drivers
  registry := h'.registry.trans h.registry
  known r hr := by
    rcases h'.known r hr with hr | hr
    · exact (h.known r hr).imp_right fun hk => h'.later.knows hk
    · exact .inr hr

theorem of_onlyReleases (h : v.OnlyReleases w) : Passing b v w where
  sameStanding := h.sameStanding
  requests := Nat.le_of_eq (by rw [h.requests])
  drivers := Nat.le_of_eq (by rw [h.drivers])
  registry := by rw [driver, driver, h.drivers]
  known r hr := .inl (h.clients ▸ hr)

theorem updateDevice (w : World) (d : DeviceId) {f : Device → Device}
    (hf : (w.device d).SameStanding (f (w.device d))) :
    Passing b w (w.updateDevice d f) :=
  of_onlyReleases ⟨.updateDevice w d hf, rfl, rfl, rfl⟩

theorem setGate (w : World) (g : GateRef) (gate : FilterGate) : Passing b w (w.setGate g gate) :=
  of_onlyReleases ⟨.setGate w g gate, by cases g <;> rfl, by cases g <;> rfl, by cases g <;> rfl⟩

theorem count (w : World) (d : DeviceId) (count : UInt32) :
    Passing b w (w.setLock (.device d) { (w.device d).lock with count }) :=
  of_onlyReleases ⟨.setLock w d rfl id, rfl, rfl, rfl⟩

theorem updateRequest (w : World) (r : RequestId) (f : Request → Request) : Passing b w (w.updateRequest r f) where
  sameStanding := .of_devices rfl
  requests := Nat.le_of_eq (w.requests_size_updateRequest r f).symm
  drivers := Nat.le_refl _
  registry := rfl
  known _ hr := .inl hr

theorem updateClients (w : World) (f : Clients → Clients)
    (hf : ∀ r ∈ (f w.clients).requests, r ∈ w.clients.requests ∨ w.Knows r) : Passing b w (w.updateClients f) :=
  ⟨.of_devices rfl, Nat.le_refl _, Nat.le_refl _, rfl, hf⟩

theorem agrees (h : v.Agrees b w) : Passing b v w where
  sameStanding := .of_devices h.devices
  requests := Nat.le_of_eq (by rw [h.requests])
  drivers := h.drivers
  registry := h.registry
  known r hr := .inl (h.known ▸ hr)

theorem ask (w : World) (k : Kind) : Passing b w (w.ask k) where
  sameStanding := .of_devices rfl
  requests := by simp [World.ask]
  drivers := Nat.le_refl _
  registry := rfl
  known _ hr := .inl hr

theorem relinquish (w : World) (r : RequestId) : Passing b w (w.after (relinquish r)) :=
  (updateRequest w r _).trans (of_onlyReleases (.relinquish w r))

theorem complete (w : World) (r : RequestId) (s : Status) : Passing b w (w.after (complete r s)) := by
  rw [after_complete]
  split
  · exact of_onlyReleases (.refl w)
  · exact ((updateRequest w r _).trans (relinquish _ r)).trans (updateRequest _ r _)

end Passing

/-! ## Moves that change a life -/

theorem later_enroll (w : World) (b : DriverId) (identity : Identity) (extension : Extension) :
    w.Later (w.enroll b identity extension) where
  devices := by simp [enroll]
  requests := Nat.le_refl _
  device d hd := by
    rw [show (w.enroll b identity extension).device d = w.device d from Table.get_push_of_lt hd _]
    exact .refl _

theorem later_shift {w : World} {m : Lifecycle} (ho : ¬w.IsClosed d) (hg : ¬w.IsGone d) :
    w.Later (w.setLifecycle d m) :=
  .updateDevice w d ⟨rfl, rfl, id, id, fun e => absurd e hg, fun e => absurd e ho⟩

theorem later_close (w : World) (d : DeviceId) : w.Later (w.after (closeLock (.device d))) := by
  rw [after_closeLock]
  split
  · exact .refl w
  · refine .trans (.updateDevice w d ?_) (Passing.of_onlyReleases (b := 0) (.releaseLock _ d)).later
    exact ⟨rfl, rfl, fun _ => rfl, id, id, fun _ => .inl rfl⟩

theorem later_updateLayer (w : World) (d : DeviceId) {f : Layer → Layer}
    (hf : ∀ layer, (f layer).lower = layer.lower ∧ (f layer).active = layer.active) :
    w.Later (w.updateDevice d fun v => v.updateLayer f) :=
  .updateDevice w d (Device.later_updateLayer _ hf)

theorem later_adopt (w : World) (d : DeviceId) (b : DriverId) (identity : Identity) :
    w.Later (w.adopt d b identity) :=
  (later_enroll w b identity _).trans (later_updateLayer _ d fun _ => ⟨rfl, rfl⟩)

theorem later_retire (w : World) (d : DeviceId) (b : DriverId) : w.Later (w.retire d b) := by
  have h : w.Later (w.setLifecycle d ⟨.deleted, (w.device d).state.beforeDeletion⟩) :=
    .updateDevice w d ⟨rfl, rfl, id, id, fun _ => rfl, fun _ => .inr rfl⟩
  refine h.trans ?_
  rw [retire, after_leaveParent]
  split
  · refine .updateDriver (later_updateLayer _ _ ?_) b _
    exact fun _ => ⟨rfl, rfl⟩
  · exact .updateDriver (.refl _) b _

end World

theorem Transfer.passing {R : Regime} {v w : World} (h : Transfer R v w) : World.Passing R.driver v w := by
  cases h with
  | aside ha => exact .agrees ha
  | flag d f => exact .updateDevice v d ⟨rfl, rfl, rfl, rfl, rfl, id⟩
  | repower d f => exact .updateDevice v d ⟨rfl, rfl, rfl, rfl, rfl, id⟩
  | ask k => exact .ask v k
  | know r hr =>
    refine .updateClients v _ fun x hx => ?_
    rcases List.mem_append.mp hx with hx | hx
    · exact .inl hx
    · rw [List.mem_singleton.mp hx]; exact .inr hr
  | inform r hr information => exact .updateRequest v r _
  | take d r hd hr ho hf => exact (World.Passing.count v d _).trans (.updateRequest _ r _)
  | giveBack d r hr => exact (World.Passing.updateRequest v r _).trans (.of_onlyReleases (.releaseLock _ d))
  | letPass d r hr hl hg => exact (World.Passing.setGate v _ _).trans (.updateRequest _ r _)
  | complete r hr s => exact .complete v r s
  | relinquish r hr => exact .relinquish v r
  | pushToken d hd ho hf => exact (World.Passing.count v d _).trans (.updateClients _ _ fun _ => .inl)
  | dropToken n d hn =>
    exact (World.Passing.updateClients v _ fun _ => .inl).trans (.of_onlyReleases (.releaseLock _ d))
  | pushTicket d hl hg => exact (World.Passing.setGate v _ _).trans (.updateClients _ _ fun _ => .inl)
  | dropTicket n g hn =>
    exact (World.Passing.updateClients v _ fun _ => .inl).trans (.of_onlyReleases (.redeemTicket _ g))
  | regate d wanted hl hg => exact .setGate v _ _

theorem Move.later {R : Regime} {p : Prop} {v w : World} (hm : Move R p v w) : v.Later w := by
  cases hm with
  | transfer ht => exact ht.passing.later
  | enroll identity extension hx hc hf => exact v.later_enroll _ identity extension
  | adopt d identity hl hf => exact v.later_adopt d _ identity
  | takeChildren d hr => exact v.later_updateLayer d fun _ => ⟨rfl, rfl⟩
  | shift d m ho hg hc hm => exact World.later_shift ho hg
  | close d hr hd ho hl => exact v.later_close d
  | retire d hr hd hg hl => exact v.later_retire d _

/-! ## Sanity after a move -/

namespace World

variable {R : Regime} {w : World} {d : DeviceId}

theorem device_enroll (w : World) (b : DriverId) (identity : Identity) (extension : Extension) (x : DeviceId) :
    (w.enroll b identity extension).device x =
      if x = w.devices.size then { identity, extension } else w.device x := Table.get_push ..

theorem lookup_enroll {b : DriverId} (hb : b < w.drivers.size) (identity : Identity) (extension : Extension)
    (key : DeviceKey) :
    (w.enroll b identity extension).lookup b key =
      if key = ⟨identity, extension.role⟩ then some w.devices.size else w.lookup b key := by
  rw [lookup, enroll, driver_updateDriver, if_pos ⟨rfl, hb⟩, DeviceRegistry.findRole?_insert]
  rfl

theorem size_enroll (w : World) (b : DriverId) (identity : Identity) (extension : Extension) :
    (w.enroll b identity extension).devices.size = w.devices.size + 1 := by simp [World.enroll]

theorem lt_of_enroll {b : DriverId} {identity : Identity} {extension : Extension} {x : DeviceId}
    (hx : x < (w.enroll b identity extension).devices.size) (hn : x ≠ w.devices.size) : x < w.devices.size := by
  rw [size_enroll] at hx
  exact Nat.lt_of_le_of_ne (Nat.le_of_lt_succ hx) hn

section
variable {identity : Identity} {extension : Extension} {x : DeviceId} (h : w.Sane R) (hf : extension.IsFresh w)
include h

theorem sound_enroll (b : DriverId) (x : DeviceId) : ((w.enroll b identity extension).device x).Sound R := by
  rw [device_enroll]
  split
  · exact ⟨⟨nofun, nofun, nofun⟩, nofun, nofun⟩
  · exact h.sound x

theorem entries_enroll {key : DeviceKey}
    (hk : (w.enroll R.driver identity extension).lookup R.driver key = some x) :
    x < (w.enroll R.driver identity extension).devices.size ∧
      ((w.enroll R.driver identity extension).device x).key = key := by
  have hl := w.later_enroll R.driver identity extension
  rw [lookup_enroll h.driver] at hk
  split at hk
  next e =>
    cases hk
    refine ⟨by rw [size_enroll]; exact Nat.lt_succ_self _, ?_⟩
    rw [device_enroll, if_pos rfl, e]; rfl
  next =>
    obtain ⟨hs, hk⟩ := h.entries key x hk
    exact ⟨Nat.lt_of_lt_of_le hs hl.devices, (hl.device x hs).key.trans hk⟩

theorem registered_enroll (hf : w.lookup R.driver ⟨identity, extension.role⟩ = none)
    (hx : x < (w.enroll R.driver identity extension).devices.size) :
    (w.enroll R.driver identity extension).lookup R.driver
      ((w.enroll R.driver identity extension).device x).key = some x ↔
        ¬(w.enroll R.driver identity extension).IsGone x := by
  rw [lookup_enroll h.driver, IsGone, device_enroll]
  by_cases hs : x = w.devices.size
  · subst hs
    simp [Device.key, Device.role, Device.state]
  · have hr := h.registered x (lt_of_enroll hx hs)
    rw [if_neg hs]
    split
    next hk =>
      -- a key that was free is not that of a device
      rw [hk, hf] at hr
      simpa [Ne.symm hs, IsGone] using hr
    next => exact hr

include hf

theorem linked_enroll (b : DriverId) (hx : x < (w.enroll b identity extension).devices.size) :
    (w.enroll b identity extension).Linked ((w.enroll b identity extension).stack x) := by
  have hl := w.later_enroll b identity extension
  by_cases hs : x = w.devices.size
  · -- the new device, over a stack that was there before
    subst hs
    have hd := w.device_enroll b identity extension w.devices.size
    rw [if_pos rfl] at hd
    rw [stack, hd]
    cases extension with
    | physical parent => exact ⟨hx, by rw [hd]; rfl⟩
    | functional layer => exact ⟨hx, by rw [hd]; rfl, hf.1.top_lt, hl.linked hf.1⟩
  · have hx := lt_of_enroll hx hs
    rw [hl.stack hx]; exact hl.linked (h.linked x hx)

omit h in
theorem children_enroll (b : DriverId) (x : DeviceId) :
    ((w.enroll b identity extension).device x).children = (w.device x).children := by
  rw [device_enroll]
  split
  next e =>
    rw [e, device_of_size_le (Nat.le_refl w.devices.size)]
    cases extension with
    | physical parent => rfl
    | functional layer => exact hf.2.1
  next => rfl

theorem parent_enroll (b : DriverId) {d : DeviceId}
    (hp : ((w.enroll b identity extension).device x).parent? = some d) : d < x := by
  rw [device_enroll] at hp
  split at hp
  next e =>
    cases extension with
    | physical parent => rw [e]; exact hf d hp
    | functional layer => cases hp
  next => exact h.parents x d hp

end

theorem isChild_enroll {identity : Identity} {extension : Extension} {c : DeviceId} (b : DriverId)
    (hc : w.IsChild d c) :
    (w.enroll b identity extension).IsChild d c := by
  have he : (w.enroll b identity extension).device c = w.device c := by
    rw [device_enroll, if_neg (Nat.ne_of_lt hc.size)]
  rw [IsChild, IsGone, he]; exact hc

theorem Sane.enroll (h : w.Sane R) {identity : Identity} {extension : Extension} (hx : extension.IsFresh w)
    (hf : w.lookup R.driver ⟨identity, extension.role⟩ = none) : (w.enroll R.driver identity extension).Sane R where
  driver := by rw [World.enroll, size_updateDriver]; exact h.driver
  sound := sound_enroll h R.driver
  linked _ := linked_enroll h hx R.driver
  children d c hc := by
    rw [children_enroll hx] at hc
    exact isChild_enroll R.driver (h.children d c hc)
  sorted d := by rw [children_enroll hx]; exact h.sorted d
  parents _ _ := parent_enroll h hx R.driver
  known := h.known
  entries _ _ := entries_enroll h
  registered _ := registered_enroll h hf

theorem device_leaveParent (w : World) (d x : DeviceId) :
    ((w.after (leaveParent d)).device x).lock = (w.device x).lock ∧
    ((w.after (leaveParent d)).device x).lifecycle = (w.device x).lifecycle ∧
    ((w.after (leaveParent d)).device x).children =
      if (w.device d).parent? = some x then (w.device x).children.filter (· ≠ d) else (w.device x).children := by
  rw [after_leaveParent]
  cases hp : (w.device d).parent? with
  | none => exact ⟨rfl, rfl, (if_neg nofun).symm⟩
  | some p =>
    rw [device_updateDevice]
    by_cases hx : x = p
    · subst hx
      rw [if_pos rfl]
      split
      next =>
        refine ⟨Device.lock_updateLayer .., Device.lifecycle_updateLayer .., ?_⟩
        rw [Device.children, Device.children, Device.layer?_updateLayer]
        cases (w.device x).layer? <;> rfl
      next hs =>
        -- a parent that does not exist has no children
        rw [device_of_size_le (Nat.le_of_not_lt fun h => hs ⟨rfl, h⟩)]
        exact ⟨rfl, rfl, rfl⟩
    · rw [if_neg fun e => hx e.1, if_neg fun e => hx (Option.some.inj e).symm]
      exact ⟨rfl, rfl, rfl⟩

theorem drivers_leaveParent (w : World) (d : DeviceId) : (w.after (leaveParent d)).drivers = w.drivers := by
  rw [after_leaveParent]; split <;> rfl

theorem clients_retire (w : World) (d : DeviceId) (b : DriverId) : (w.retire d b).clients = w.clients := by
  rw [retire, after_leaveParent]; split <;> rfl

theorem size_retire (w : World) (d : DeviceId) (b : DriverId) : (w.retire d b).devices.size = w.devices.size := by
  rw [retire, after_leaveParent]; split <;> simp [setLifecycle]

theorem lookup_retire {b : DriverId} (hb : b < w.drivers.size) (d : DeviceId) (key : DeviceKey) :
    (w.retire d b).lookup b key = if key = (w.device d).key then none else w.lookup b key := by
  have hs := drivers_leaveParent (w.setLifecycle d ⟨.deleted, (w.device d).state.beforeDeletion⟩) d
  rw [lookup, World.retire, driver_updateDriver, if_pos ⟨rfl, by rw [hs]; exact hb⟩,
    DeviceRegistry.findRole?_erase, driver, hs]
  rfl

theorem relatives_setLifecycle (w : World) (d : DeviceId) (m : Lifecycle) (x : DeviceId) :
    ((w.setLifecycle d m).device x).children = (w.device x).children ∧
      ((w.setLifecycle d m).device x).parent? = (w.device x).parent? := by
  rw [setLifecycle, device_updateDevice]
  split
  next e => rw [e.1]; exact ⟨rfl, rfl⟩
  next => exact ⟨rfl, rfl⟩

theorem retire_device (w : World) (b : DriverId) (hd : d < w.devices.size) (x : DeviceId) :
    ((w.retire d b).device x).lock = (w.device x).lock ∧
    ((w.retire d b).device x).lifecycle =
      (if x = d then ⟨.deleted, (w.device d).state.beforeDeletion⟩ else (w.device x).lifecycle) ∧
    ((w.retire d b).device x).children =
      if (w.device d).parent? = some x then (w.device x).children.filter (· ≠ d) else (w.device x).children := by
  have ⟨hlock, hlife, hc⟩ :=
    device_leaveParent (w.setLifecycle d ⟨.deleted, (w.device d).state.beforeDeletion⟩) d x
  rw [(w.relatives_setLifecycle d _ d).2, (w.relatives_setLifecycle d _ x).1] at hc
  rw [setLifecycle, device_updateDevice] at hlock hlife
  by_cases hx : x = d
  · subst hx
    rw [if_pos ⟨rfl, hd⟩] at hlock hlife
    exact ⟨hlock, by rw [if_pos rfl]; exact hlife, hc⟩
  · rw [if_neg fun e => hx e.1] at hlock hlife
    exact ⟨hlock, by rw [if_neg hx]; exact hlife, hc⟩

theorem beforeDeletion_ne {s : PnpState} (h : s ≠ .deleted) : s.beforeDeletion ≠ .deleted := by
  cases s <;> simp_all [PnpState.beforeDeletion]

theorem gone_retire (b : DriverId) (hd : d < w.devices.size) (x : DeviceId) :
    (w.retire d b).IsGone x ↔ x = d ∨ w.IsGone x := by
  rw [IsGone, Device.state, (w.retire_device b hd x).2.1]
  by_cases hx : x = d
  · simp [hx]
  · simp [hx, IsGone, Device.state]

section
variable {x : DeviceId} (h : w.Sane R) (hd : d < w.devices.size) (hg : ¬w.IsGone d)
include h hd hg

theorem sound_retire (hl : (w.device d).lock.isDrained = true) (x : DeviceId) :
    ((w.retire d R.driver).device x).Sound R := by
  have ⟨hlock, hlife, _⟩ := w.retire_device R.driver hd x
  by_cases hx : x = d
  · subst hx
    refine ⟨?_, fun _ => by rw [hlock]; exact hl, fun _ _ => .inr ((gone_retire R.driver hd x).mpr (.inl rfl))⟩
    rw [hlife, if_pos rfl]; exact ⟨nofun, beforeDeletion_ne hg, nofun⟩
  · rcases Nat.lt_or_ge x w.devices.size with hlt | hge
    · refine (h.sound x).congr ((w.later_retire d R.driver).device x hlt).shape (by rw [hlife, if_neg hx]) ?_ ?_
      · rw [hlock]
      · rw [hlock]; exact id
    · have hs := h.sound x
      rw [device_of_size_le hge] at hs
      rwa [device_of_size_le (w.size_retire d R.driver ▸ hge)]

theorem registered_retire (hx : x < w.devices.size) :
    (w.retire d R.driver).lookup R.driver ((w.retire d R.driver).device x).key = some x ↔
      ¬(w.retire d R.driver).IsGone x := by
  have hr := h.registered x hx
  rw [((w.later_retire d R.driver).device x hx).key, lookup_retire h.driver, gone_retire R.driver hd]
  by_cases hk : (w.device x).key = (w.device d).key
  · -- only `d` itself has this key
    rw [if_pos hk]
    rw [hk, (h.registered d hd).mpr hg] at hr
    by_cases hxd : x = d
    · simp [hxd]
    · simpa [hxd, Ne.symm hxd] using hr
  · have hxd : x ≠ d := fun e => hk (by rw [e])
    rw [if_neg hk, hr]
    simp [hxd]

omit hg in
theorem mem_children_retire (b : DriverId) {c : DeviceId} :
    c ∈ ((w.retire d b).device x).children ↔ c ∈ (w.device x).children ∧ c ≠ d := by
  rw [(w.retire_device b hd x).2.2]
  split
  · simp
  next hp => exact ⟨fun hc => ⟨hc, fun e => hp (e ▸ (h.children x c hc).1)⟩, And.left⟩

omit h hg in
theorem isChild_retire (b : DriverId) {c : DeviceId} : (w.retire d b).IsChild x c ↔ w.IsChild x c ∧ c ≠ d := by
  rw [IsChild, gone_retire b hd, IsChild]
  rcases Nat.lt_or_ge c w.devices.size with hc | hc
  · rw [((w.later_retire d b).device c hc).parent, not_or, and_comm (a := ¬c = d), and_assoc]
  · rw [device_of_size_le hc, device_of_size_le (w.size_retire d b ▸ hc)]
    exact ⟨fun hp => (nomatch hp.1), fun hp => (nomatch hp.1.1)⟩

theorem Sane.retire (hl : (w.device d).lock.isDrained = true) : (w.retire d R.driver).Sane R := by
  have hlater := w.later_retire d R.driver
  have hn := w.size_retire d R.driver
  refine ⟨?_, sound_retire h hd hg hl, fun x hx => ?_, fun x c hc => ?_, fun x => ?_, fun c x hp => ?_, ?_,
    fun key x hk => ?_, fun x hx => ?_⟩
  · rw [World.retire, size_updateDriver, drivers_leaveParent]; exact h.driver
  · rw [hn] at hx
    rw [hlater.stack hx]; exact hlater.linked (h.linked x hx)
  · obtain ⟨hc, hne⟩ := (mem_children_retire h hd R.driver).mp hc
    exact (isChild_retire hd R.driver).mpr ⟨h.children x c hc, hne⟩
  · rw [(w.retire_device R.driver hd x).2.2]
    split
    · exact (h.sorted x).filter _
    · exact h.sorted x
  · rcases Nat.lt_or_ge c w.devices.size with hs | hs
    · rw [(hlater.device c hs).parent] at hp; exact h.parents c x hp
    · rw [device_of_size_le (hn ▸ hs)] at hp; cases hp
  · rw [clients_retire]; exact fun r hr => hlater.knows (h.known r hr)
  · rw [lookup_retire h.driver] at hk
    split at hk
    · cases hk
    · obtain ⟨hs, hk⟩ := h.entries key x hk
      exact ⟨hn ▸ hs, (hlater.device x hs).key.trans hk⟩
  · exact registered_retire h hd hg (hn ▸ hx)

end

theorem Sane.updateDevice (h : w.Sane R) (d : DeviceId) {f : Device → Device}
    (hl : (w.device d).Later (f (w.device d))) (hs : (f (w.device d)).Sound R)
    (hc : ∀ c ∈ (f (w.device d)).children, w.IsChild d c) (ho : (f (w.device d)).children.Pairwise (· < ·))
    (hg : (f (w.device d)).state = .deleted → w.IsGone d) : (w.updateDevice d f).Sane R := by
  have hlater : w.Later (w.updateDevice d f) := .updateDevice w d hl
  refine h.later hlater h.driver (w.size_updateDevice d f) (fun x => ?_) (fun x c hm => ?_) (fun x => ?_)
    (fun r hr => hlater.knows (h.known r hr)) (fun _ => rfl) fun x hx => ?_
  · rw [device_updateDevice]
    split
    · exact hs
    · exact h.sound x
  · rw [device_updateDevice] at hm
    split at hm
    next e => rw [e.1]; exact hc c hm
    next => exact h.children x c hm
  · rw [device_updateDevice]
    split
    · exact ho
    · exact h.sorted x
  · rw [IsGone, device_updateDevice] at hx
    split at hx
    next e => rw [e.1]; exact hg hx
    next => exact hx

theorem Sane.updateChildren (h : w.Sane R) {g : List DeviceId → List DeviceId}
    (hc : ∀ c ∈ g (w.device d).children, w.IsChild d c) (ho : (g (w.device d).children).Pairwise (· < ·)) :
    (w.updateDevice d fun v => v.updateLayer fun layer => { layer with children := g layer.children }).Sane R := by
  have hm : ((w.device d).updateLayer fun layer => { layer with children := g layer.children }).children =
      if (w.device d).layer?.isSome then g (w.device d).children else [] := by
    rw [Device.children, Device.children, Device.layer?_updateLayer]
    cases (w.device d).layer? <;> rfl
  refine h.updateDevice d (Device.later_updateLayer _ fun _ => ⟨rfl, rfl⟩) ?_ (fun c => ?_) ?_ fun hg => ?_
  · exact (h.sound d).congr (Device.shape_updateLayer _ _ fun _ => ⟨rfl, rfl⟩) (Device.lifecycle_updateLayer ..)
      (by rw [Device.lock_updateLayer]) (by rw [Device.lock_updateLayer]; exact id)
  · rw [hm]
    split
    · exact hc c
    · exact (absurd · List.not_mem_nil)
  · rw [hm]
    split
    · exact ho
    · exact .nil
  · rw [Device.state, Device.lifecycle_updateLayer] at hg; exact hg

theorem Sane.takeChildren (h : w.Sane R) : (w.setChildren d []).Sane R :=
  h.updateChildren (g := fun _ => []) nofun .nil

theorem Sane.adopt (h : w.Sane R) {identity : Identity} (hd : d < w.devices.size)
    (hf : w.lookup R.driver ⟨identity, .physical⟩ = none) : (w.adopt d R.driver identity).Sane R := by
  have hx : Extension.IsFresh w (.physical (some d)) := fun f e => Option.some.inj e ▸ hd
  have hc : ((w.enroll R.driver identity (.physical (some d))).device d).children = (w.device d).children :=
    children_enroll hx R.driver d
  refine Sane.updateChildren (h.enroll hx hf) (g := (· ++ [w.devices.size])) (fun c hm => ?_) ?_
  · rw [hc] at hm
    rcases List.mem_append.mp hm with hm | hm
    · exact isChild_enroll R.driver (h.children d c hm)
    · rw [List.mem_singleton.mp hm, IsChild, IsGone, device_enroll, if_pos rfl]
      exact ⟨rfl, nofun⟩
  · rw [hc]
    refine List.pairwise_append.mpr ⟨h.sorted d, List.pairwise_singleton _ _, fun c hm x hx => ?_⟩
    rw [List.mem_singleton.mp hx]; exact (h.children d c hm).size

theorem Sane.shift (h : w.Sane R) {m : Lifecycle} (ho : ¬w.IsClosed d) (hg : ¬w.IsGone d)
    (hc : m.current ≠ .deleted) (hm : m.IsOrderly) : (w.setLifecycle d m).Sane R :=
  h.updateDevice d ⟨rfl, rfl, id, id, fun e => absurd e hg, fun e => absurd e ho⟩
    ⟨hm, fun e => absurd e hc, fun _ e => absurd e ho⟩ (h.children d) (h.sorted d) fun e => absurd e hc

theorem Sane.close (h : w.Sane R) (hl : R.sparing ∨ (w.device d).role = .physical → w.IsDeparting d) :
    (w.after (closeLock (.device d))).Sane R := by
  rw [after_closeLock]
  split
  · exact h
  next ho =>
    have hc : (w.setLock (.device d) (w.device d).lock.close).Sane R :=
      h.updateDevice d ⟨rfl, rfl, fun _ => rfl, id, id, fun _ => .inl rfl⟩
        ⟨(h.sound d).orderly, fun hg => absurd (Bool.and_eq_true _ _ ▸ (h.sound d).drained hg).1 ho,
          fun hp _ => hl hp⟩ (h.children d) (h.sorted d) id
    exact (Passing.of_onlyReleases (.releaseLock _ d)).sane hc

end World

/-! ## Every move keeps the world sane -/

variable {R : Regime} {p : Prop} {v w : World}

theorem Move.sane (hm : Move R p v w) (h : v.Sane R) : w.Sane R := by
  cases hm with
  | transfer ht => exact ht.passing.sane h
  | enroll identity extension hx hc hf => exact h.enroll hx hf
  | adopt d identity hl hf => exact h.adopt (World.size_of_layer? hl) hf
  | takeChildren d hr => exact h.takeChildren
  | shift d m ho hg hc hm => exact h.shift ho hg hc hm
  | close d hr hd ho hl => exact h.close hl
  | retire d hr hd hg hl => exact h.retire hd hg hl

theorem Evolves.later (h : Evolves R p v w) : v.Later w := by
  induction h with
  | refl => exact .refl v
  | tail _ hm ih => exact ih.trans hm.later

theorem Evolves.sane (h : Evolves R p v w) (hs : v.Sane R) : w.Sane R := by
  induction h with
  | refl => exact hs
  | tail _ hm ih => exact hm.sane ih

/-! ## Moves that remove nothing -/

theorem World.quiet_updateLayer (v : World) (x d : DeviceId) (f : Layer → Layer) :
    ((v.updateDevice x fun u => u.updateLayer f).IsClosed d ↔ v.IsClosed d) ∧
      ((v.updateDevice x fun u => u.updateLayer f).IsGone d ↔ v.IsGone d) := by
  rw [IsClosed, IsGone, device_updateDevice]
  split
  next e => rw [e.1, Device.state, Device.lock_updateLayer, Device.lifecycle_updateLayer]; exact ⟨.rfl, .rfl⟩
  next => exact ⟨.rfl, .rfl⟩

theorem World.quiet_enroll (v : World) (b : DriverId) (identity : Identity) (extension : Extension) (d : DeviceId) :
    ((v.enroll b identity extension).IsClosed d → v.IsClosed d) ∧
      ((v.enroll b identity extension).IsGone d → v.IsGone d) := by
  rw [IsClosed, IsGone, device_enroll]
  split
  · exact ⟨nofun, nofun⟩
  · exact ⟨id, id⟩

theorem Move.quiet (hm : Move R p v w) (hp : ¬p) (d : DeviceId) :
    (w.IsClosed d → v.IsClosed d) ∧ (w.IsGone d → v.IsGone d) := by
  cases hm with
  | transfer ht =>
    have hk := ht.passing.sameStanding.device d
    rw [World.IsClosed, World.IsGone, hk.draining, hk.state]
    exact ⟨id, id⟩
  | enroll identity extension hx hc hf => exact v.quiet_enroll _ identity extension d
  | adopt x identity hl hf =>
    have hu := (v.enroll R.driver identity (.physical (some x))).quiet_updateLayer x d
      fun layer => { layer with children := layer.children ++ [v.devices.size] }
    have he := v.quiet_enroll R.driver identity (.physical (some x)) d
    exact ⟨he.1 ∘ hu.1.mp, he.2 ∘ hu.2.mp⟩
  | takeChildren x hr => exact absurd hr hp
  | shift x m ho hg hm hn =>
    rw [World.IsClosed, World.IsGone, World.setLifecycle, World.device_updateDevice]
    split
    next e => rw [e.1]; exact ⟨id, fun e => absurd e hm⟩
    next => exact ⟨id, id⟩
  | close x hr hd ho hl => exact absurd hr hp
  | retire x hr hd hg hl => exact absurd hr hp

theorem Evolves.quiet (h : Evolves R p v w) (hp : ¬p) (d : DeviceId) :
    (w.IsClosed d → v.IsClosed d) ∧ (w.IsGone d → v.IsGone d) := by
  induction h with
  | refl => exact ⟨id, id⟩
  | tail _ hm ih => exact ⟨ih.1 ∘ (hm.quiet hp d).1, ih.2 ∘ (hm.quiet hp d).2⟩

end PnpBus
