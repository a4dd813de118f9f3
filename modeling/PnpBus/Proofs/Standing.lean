import PnpBus.Proofs.Moves

/-!
# What the movement of references and tickets leaves alone

A device keeps its standing if it changes at most in how many references are
out, in the word of the gate, in power and in flags. All devices keep theirs
when references and tickets are given back, and neither requests nor clients
nor drivers are touched.
-/

namespace PnpBus

/-! ## Devices -/

def Extension.shape : Extension → Extension
  | .physical parent => .physical parent
  | .functional layer => .functional { layer with gate := {}, children := [] }

namespace Device

theorem role_eq_of_shape {v v' : Device} (h : v'.extension.shape = v.extension.shape) : v'.role = v.role := by
  unfold Device.role
  cases h₁ : v.extension <;> cases h₂ : v'.extension <;> simp_all [Extension.shape, Extension.role]

theorem parent?_eq_of_shape {v v' : Device} (h : v'.extension.shape = v.extension.shape) :
    v'.parent? = v.parent? := by
  unfold Device.parent?
  cases h₁ : v.extension <;> cases h₂ : v'.extension <;> simp_all [Extension.shape]

theorem any_active_eq_of_shape {v v' : Device} (h : v'.extension.shape = v.extension.shape) :
    v'.layer?.any (·.active) = v.layer?.any (·.active) := by
  unfold Device.layer?
  cases h₁ : v.extension <;> cases h₂ : v'.extension <;> simp_all [Extension.shape]

theorem map_lower_eq_of_shape {v v' : Device} (h : v'.extension.shape = v.extension.shape) :
    v'.layer?.map (·.lower) = v.layer?.map (·.lower) := by
  unfold Device.layer?
  cases h₁ : v.extension <;> cases h₂ : v'.extension <;> simp_all [Extension.shape]

theorem role_of_parent? {v : Device} {d : DeviceId} (h : v.parent? = some d) : v.role = .physical := by
  unfold Device.parent? at h
  unfold Device.role
  cases he : v.extension <;> simp_all [Extension.role]

theorem children_of_physical {v : Device} (h : v.role = .physical) : v.children = [] := by
  unfold Device.role at h
  unfold children layer?
  cases he : v.extension <;> simp_all [Extension.role]

@[simp] theorem shape_updateLayer (v : Device) (f : Layer → Layer)
    (hf : ∀ layer, (f layer).lower = layer.lower ∧ (f layer).active = layer.active) :
    (v.updateLayer f).extension.shape = v.extension.shape := by
  unfold updateLayer
  cases h : v.extension with
  | physical parent => simp only [h]
  | functional layer => simp [Extension.shape, hf layer]

structure SameStanding (v v' : Device) : Prop where
  identity : v'.identity = v.identity
  shape : v'.extension.shape = v.extension.shape
  children : v'.children = v.children
  lifecycle : v'.lifecycle = v.lifecycle
  draining : v'.lock.draining = v.lock.draining
  latch : v.lock.latch = true → v'.lock.latch = true

namespace SameStanding

variable {u v v' : Device}

theorem refl (v : Device) : v.SameStanding v := ⟨rfl, rfl, rfl, rfl, rfl, id⟩

theorem trans (h : u.SameStanding v) (h' : v.SameStanding v') : u.SameStanding v' where
  identity := h'.identity.trans h.identity
  shape := h'.shape.trans h.shape
  children := h'.children.trans h.children
  lifecycle := h'.lifecycle.trans h.lifecycle
  draining := h'.draining.trans h.draining
  latch := h'.latch ∘ h.latch

theorem state (h : v.SameStanding v') : v'.state = v.state := congrArg Lifecycle.current h.lifecycle

end SameStanding

theorem sameStanding_setGate (v : Device) (gate : FilterGate) :
    v.SameStanding (v.updateLayer fun layer => { layer with gate }) where
  identity := v.identity_updateLayer _
  shape := v.shape_updateLayer _ fun _ => ⟨rfl, rfl⟩
  children := by rw [Device.children, v.layer?_updateLayer, Option.map_map]; rfl
  lifecycle := v.lifecycle_updateLayer _
  draining := by rw [v.lock_updateLayer]
  latch := by rw [v.lock_updateLayer]; exact id

end Device

/-! ## Worlds -/

namespace World

variable {u v w : World}

theorem size_of_layer? {d : DeviceId} (h : (w.device d).layer?.isSome) : d < w.devices.size := by
  refine Nat.lt_of_not_le fun hd => ?_
  rw [device, Table.get_of_size_le hd] at h
  cases h

structure SameStanding (w w' : World) : Prop where
  size : w'.devices.size = w.devices.size
  device : ∀ d, (w.device d).SameStanding (w'.device d)

namespace SameStanding

theorem refl (w : World) : w.SameStanding w := ⟨rfl, fun _ => .refl _⟩

theorem trans (h : u.SameStanding v) (h' : v.SameStanding w) : u.SameStanding w :=
  ⟨h'.size.trans h.size, fun d => (h.device d).trans (h'.device d)⟩

theorem of_devices (h : w.devices = v.devices) : v.SameStanding w :=
  ⟨by rw [h], fun d => by rw [World.device, World.device, h]; exact .refl _⟩

theorem updateDevice (w : World) (d : DeviceId) {f : Device → Device}
    (hf : (w.device d).SameStanding (f (w.device d))) :
    w.SameStanding (w.updateDevice d f) := by
  refine ⟨w.size_updateDevice d f, fun x => ?_⟩
  rw [device_updateDevice]
  split
  next h => rw [h.1]; exact hf
  next => exact .refl _

theorem setLock (w : World) (d : DeviceId) {lock : RemoveLock} (hd : lock.draining = (w.device d).lock.draining)
    (hl : (w.device d).lock.latch = true → lock.latch = true) : w.SameStanding (w.setLock (.device d) lock) :=
  updateDevice w d ⟨rfl, rfl, rfl, rfl, hd, hl⟩

theorem setGate (w : World) (g : GateRef) (gate : FilterGate) : w.SameStanding (w.setGate g gate) := by
  cases g with
  | device d => exact updateDevice w d (Device.sameStanding_setGate _ gate)
  | free n => exact of_devices rfl

end SameStanding

/-! ## Giving back -/

theorem device_releaseLock_of_ne (w : World) {d x : DeviceId} (hx : x ≠ d) :
    (w.after (releaseLock (.device d))).device x = w.device x := by
  rw [after_releaseLock]
  split
  · rw [World.setLock, device_updateDevice, if_neg fun e => hx e.1]
  · rfl

structure OnlyReleases (w w' : World) : Prop where
  sameStanding : w.SameStanding w'
  requests : w'.requests = w.requests
  clients : w'.clients = w.clients
  drivers : w'.drivers = w.drivers

namespace OnlyReleases

theorem refl (w : World) : w.OnlyReleases w := ⟨.refl w, rfl, rfl, rfl⟩

theorem trans (h : u.OnlyReleases v) (h' : v.OnlyReleases w) : u.OnlyReleases w :=
  ⟨h.sameStanding.trans h'.sameStanding, h'.requests.trans h.requests, h'.clients.trans h.clients,
    h'.drivers.trans h.drivers⟩

theorem releaseLock (w : World) (d : DeviceId) : w.OnlyReleases (w.after (releaseLock (.device d))) := by
  rw [after_releaseLock]
  split
  next lock h =>
    rw [lock_device] at h
    have hl := RemoveLock.eq_of_release? h
    exact ⟨.setLock w d (by rw [hl]) (fun e => by rw [hl]; simp [e]), rfl, rfl, rfl⟩
  next => exact ⟨.of_devices rfl, rfl, rfl, rfl⟩

theorem redeemTicket (w : World) (g : GateRef) : w.OnlyReleases (w.after (redeemTicket g)) := by
  rw [after_redeemTicket]
  split
  next gate h => exact ⟨.setGate w g gate, by cases g <;> rfl, by cases g <;> rfl, by cases g <;> rfl⟩
  next => exact ⟨.of_devices rfl, rfl, rfl, rfl⟩

theorem releaseAll : ∀ (ds : List DeviceId) (w : World),
    w.OnlyReleases (w.after (ds.forM fun d => PnpBus.releaseLock (.device d)))
  | [], w => refl w
  | d :: ds, w => (releaseLock w d).trans (releaseAll ds _)

theorem redeemAll : ∀ (gs : List GateRef) (w : World), w.OnlyReleases (w.after (gs.forM PnpBus.redeemTicket))
  | [], w => refl w
  | g :: gs, w => (redeemTicket w g).trans (redeemAll gs _)

theorem relinquish (w : World) (r : RequestId) :
    (w.updateRequest r fun q => { q with locks := [], tickets := [] }).OnlyReleases (w.after (relinquish r)) := by
  rw [after_relinquish]
  exact (redeemAll _ _).trans (releaseAll _ _)

end OnlyReleases

end World

end PnpBus
