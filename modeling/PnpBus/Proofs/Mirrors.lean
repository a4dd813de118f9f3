import PnpBus.Proofs.Removals

/-!
# What a request depends on

Two runs of a call mirror each other if they answer the same and wait for the
same signals, in worlds that are related throughout. A request that passes a
few devices is mirrored in every world where these devices are alike, and
changes nothing in either world but them, its own contents and the lists that
name them as children.
-/

namespace PnpBus

variable {α β : Type} {A : World → World → Prop}

/-! ## Runs that mirror each other -/

inductive Run.Mirrors (A : World → World → Prop) : Run α → Run α → Prop
  | done {v w : World} (h : A v w) (a : α) : Mirrors A (.done v a) (.done w a)
  | via {v w : World} {s t : Run α} (h : A v w) (hr : Mirrors A s t) : Mirrors A (.via v s) (.via w t)
  | wait {v w : World} {on : Signal} {f g : World → Run α} (h : A v w)
      (hr : ∀ v' w', A v' w' → Mirrors A (f v') (g w')) : Mirrors A (.wait v on f) (.wait w on g)

namespace Run.Mirrors

theorem bind {s t : Run α} {f g : α → World → Run β} (h : s.Mirrors A t)
    (hf : ∀ a v w, A v w → (f a v).Mirrors A (g a w)) : (s.bind f).Mirrors A (t.bind g) := by
  induction h with
  | done h a => exact hf a _ _ h
  | via h _ ih => exact .via h ih
  | wait h _ ih => exact .wait h ih

/-- Where one run ends the other one does. -/
theorem ends {s t : Run α} {p : World → α → Prop} (h : s.Mirrors A t) (hs : s.Ends p) :
    t.Ends fun w a => ∃ v, p v a ∧ A v w := by
  induction h with
  | done h a => exact ⟨_, hs, h⟩
  | via _ _ ih => exact ih hs
  | wait => exact hs.elim

/-- A run that is mirrored is not halted. -/
theorem ends_of_quick {R : Regime} {v : World} {s t : Run α} {p : World → α → Prop} (h : s.Mirrors A t)
    (hb : ¬R.bounded) (hq : s.IsQuick R p v) : s.Ends p := by
  induction h with
  | done h a => exact hq.2
  | via h _ ih => exact ih (hq fun hf => absurd hf hb)
  | wait h _ => exact hq.elim

end Run.Mirrors

def Act.MirrorsAt (A : World → World → Prop) (v w : World) (a : Act α) : Prop :=
  (a w).1 = (a v).1 ∧ A (v.after a) (w.after a)

def Act.Mirrors (A : World → World → Prop) (a : Act α) : Prop := ∀ v w, A v w → a.MirrorsAt A v w

def Call.Mirrors (A : World → World → Prop) (c : Call α) : Prop := ∀ v w, A v w → (c v).Mirrors A (c w)

theorem Act.MirrorsAt.of_unit {a : Act Unit} {v w : World} (h : A (v.after a) (w.after a)) : a.MirrorsAt A v w :=
  ⟨rfl, h⟩

theorem Act.MirrorsAt.run_bind {x : ExceptT Status Act α} {f : α → ExceptT Status Act β} {v w : World}
    (hx : x.run.MirrorsAt A v w)
    (hf : ∀ a v' w', x.run v = (.ok a, v') → A v' w' → (f a).run.MirrorsAt A v' w') :
    (x >>= f).run.MirrorsAt A v w := by
  obtain ⟨he, h⟩ := hx
  unfold MirrorsAt World.after at *
  rw [Act.run_bind, Act.run_bind]
  rcases hv : x.run v with ⟨_ | a, v'⟩ <;> rcases hw : x.run w with ⟨_ | a', w'⟩ <;>
    rw [hv, hw] at he h <;> cases he
  · exact ⟨rfl, h⟩
  · exact hf a v' w' hv h

namespace Act.Mirrors

theorem pure (x : α) : (Pure.pure x : Act α).Mirrors A := fun _ _ h => ⟨rfl, h⟩

theorem bind_of {a : Act α} {f : α → Act β} {p : α → Prop} (ha : a.Mirrors A) (hp : ∀ v w, A v w → p (a v).1)
    (hf : ∀ x, p x → (f x).Mirrors A) : (a >>= f).Mirrors A := by
  intro v w h
  obtain ⟨he, h'⟩ := ha v w h
  have := hf _ (hp v w h) _ _ h'
  unfold MirrorsAt World.after
  rw [bind_apply, bind_apply, he]
  exact this

theorem bind {a : Act α} {f : α → Act β} (ha : a.Mirrors A) (hf : ∀ x, (f x).Mirrors A) : (a >>= f).Mirrors A :=
  ha.bind_of (p := fun _ => True) (fun _ _ _ => trivial) fun x _ => hf x

theorem forM {f : β → Act Unit} : ∀ {xs : List β}, (∀ x ∈ xs, (f x).Mirrors A) → (xs.forM f : Act Unit).Mirrors A
  | [], _ => .pure _
  | x :: _, h => .bind (h x List.mem_cons_self) fun _ => .forM fun y hy => h y (List.mem_cons_of_mem x hy)

theorem ok {ε : Type} (x : α) : (Pure.pure x : ExceptT ε Act α).run.Mirrors A := fun _ _ h => ⟨rfl, h⟩

theorem throw (e : Status) : (MonadExcept.throw e : ExceptT Status Act α).run.Mirrors A := fun _ _ h => ⟨rfl, h⟩

theorem lift {a : Act α} (ha : a.Mirrors A) : (liftM a : ExceptT Status Act α).run.Mirrors A := by
  intro v w h
  exact ⟨congrArg Except.ok (ha v w h).1, (ha v w h).2⟩

theorem run_bind {x : ExceptT Status Act α} {f : α → ExceptT Status Act β} (hx : x.run.Mirrors A)
    (hf : ∀ a, (f a).run.Mirrors A) : (x >>= f).run.Mirrors A := fun v w h =>
  (hx v w h).run_bind fun a v' w' _ => hf a v' w'

theorem run_tryCatch {x : ExceptT Status Act α} {f : Status → ExceptT Status Act α} (hx : x.run.Mirrors A)
    (hf : ∀ e, (f e).run.Mirrors A) : (tryCatch x f).run.Mirrors A := by
  intro v w h
  obtain ⟨he, h'⟩ := hx v w h
  unfold MirrorsAt
  unfold World.after at h' ⊢
  rw [Act.run_tryCatch, Act.run_tryCatch]
  rcases hv : x.run v with ⟨e | _, v'⟩ <;> rcases hw : x.run w with ⟨e' | _, w'⟩ <;>
    rw [hv, hw] at he h' <;> cases he
  · exact hf e v' w' h'
  · exact ⟨rfl, h'⟩

end Act.Mirrors

namespace Call.Mirrors

theorem pure (x : α) : (Pure.pure x : Call α).Mirrors A := fun _ _ h => .done h x

theorem of_act {a : Act α} (ha : a.Mirrors A) : (liftM a : Call α).Mirrors A := by
  intro v w h
  obtain ⟨he, h'⟩ := ha v w h
  rw [lift_apply, lift_apply, he]
  exact .done h' _

theorem bind {c : Call α} {f : α → Call β} (hc : c.Mirrors A) (hf : ∀ x, (f x).Mirrors A) : (c >>= f).Mirrors A :=
  fun v w h => (hc v w h).bind fun x => hf x

theorem forM {f : β → Call Unit} : ∀ {xs : List β}, (∀ x ∈ xs, (f x).Mirrors A) → (xs.forM f : Call Unit).Mirrors A
  | [], _ => .pure _
  | x :: _, h => .bind (h x List.mem_cons_self) fun _ => .forM fun y hy => h y (List.mem_cons_of_mem x hy)

theorem lift {a : Act α} (ha : a.Mirrors A) : (liftM a : ExceptT Status Call α).run.Mirrors A := by
  intro v w h
  obtain ⟨he, h'⟩ := ha v w h
  rw [run_act, run_act, he]
  exact .done h' _

theorem lift_except {x : ExceptT Status Act α} (hx : x.run.Mirrors A) :
    (liftM x : ExceptT Status Call α).run.Mirrors A := by
  intro v w h
  obtain ⟨he, h'⟩ := hx v w h
  rw [run_lift, run_lift, he]
  exact .done h' _

theorem lift_call {c : Call α} (hc : c.Mirrors A) : (liftM c : ExceptT Status Call α).run.Mirrors A := by
  intro v w h
  rw [run_call, run_call]
  exact (hc v w h).bind fun a _ _ h' => .done h' (Except.ok a)

theorem throw (e : Status) : (MonadExcept.throw e : ExceptT Status Call α).run.Mirrors A := fun _ _ h => .done h _

theorem run_bind {x : ExceptT Status Call α} {f : α → ExceptT Status Call β} (hx : x.run.Mirrors A)
    (hf : ∀ a, (f a).run.Mirrors A) : (x >>= f).run.Mirrors A := by
  intro v w h
  rw [Call.run_bind, Call.run_bind]
  refine (hx v w h).bind fun a v' w' h' => ?_
  cases a with
  | ok a => exact hf a v' w' h'
  | error e => exact .done h' _

end Call.Mirrors

/-! ## Worlds that are alike where a request goes -/

namespace Device

def withChildren (v : Device) (cs : List DeviceId) : Device :=
  v.updateLayer fun layer => { layer with children := cs }

variable (v : Device)

@[simp] theorem withChildren_self : v.withChildren v.children = v := by
  obtain ⟨identity, extension, lifecycle, power, flags, lock⟩ := v
  cases extension <;> rfl

@[simp] theorem withChildren_withChildren (cs cs' : List DeviceId) :
    (v.withChildren cs).withChildren cs' = v.withChildren cs' := by
  obtain ⟨identity, extension, lifecycle, power, flags, lock⟩ := v
  cases extension <;> rfl

@[simp] theorem state_withChildren (cs : List DeviceId) : (v.withChildren cs).state = v.state :=
  congrArg Lifecycle.current (v.lifecycle_updateLayer _)

theorem children_withChildren_nil : (v.withChildren []).children = [] := by
  obtain ⟨identity, extension, lifecycle, power, flags, lock⟩ := v
  cases extension <;> rfl

section
variable (p : DeviceId → Bool)

theorem filter_children :
    (v.updateLayer fun layer => { layer with children := layer.children.filter p }) =
      v.withChildren (v.children.filter p) := by
  obtain ⟨identity, extension, lifecycle, power, flags, lock⟩ := v
  cases extension <;> rfl

theorem children_filter :
    (v.updateLayer fun layer => { layer with children := layer.children.filter p }).children =
    v.children.filter p := by
  obtain ⟨identity, extension, lifecycle, power, flags, lock⟩ := v
  cases extension <;> rfl

end

end Device

namespace World

variable {b : DriverId} {ds : List DeviceId} {r : RequestId} {d x : DeviceId} {u v v' w w' v₀ w₀ : World}

/-- The worlds show the same to request `r` as long as it stays with the devices `ds`, and nothing there leads away
from them. -/
structure Alike (b : DriverId) (ds : List DeviceId) (r : RequestId) (v w : World) : Prop where
  size : w.devices.size = v.devices.size
  device : ∀ x ∈ ds, w.device x = v.device x
  requests : w.requests.size = v.requests.size
  request : w.request r = v.request r
  drivers : w.drivers.size = v.drivers.size
  interceptor : (w.driver b).interceptor = (v.driver b).interceptor
  found : ∀ x ∈ ds, ∀ key, w.lookup b key = some x ↔ v.lookup b key = some x
  children : ∀ x ∈ ds, ∀ c ∈ (v.device x).children, c ∈ ds
  locks : ∀ x ∈ (v.request r).locks, x ∈ ds
  tickets : ∀ g ∈ (v.request r).tickets, ∃ x ∈ ds, g = .device x

/-- From `v` to `w` request `r` has changed no device but `ds`, lists of children apart, and no other request. A
list outside has lost only devices of `ds` that are deleted now. -/
structure Confined (ds : List DeviceId) (r : RequestId) (v w : World) : Prop where
  size : w.devices.size = v.devices.size
  device : ∀ x ∉ ds, w.device x = (v.device x).withChildren (w.device x).children
  children : ∀ x, (w.device x).children.Sublist (v.device x).children
  kept : ∀ x ∉ ds, ∀ c ∈ (v.device x).children, c ∈ (w.device x).children ∨ c ∈ ds ∧ w.IsGone c
  gone : ∀ x, v.IsGone x → w.IsGone x
  requests : w.requests.size = v.requests.size
  request : ∀ q ≠ r, w.request q = v.request q
  drivers : w.drivers.size = v.drivers.size
  interceptor : ∀ b, (w.driver b).interceptor = (v.driver b).interceptor

namespace Confined

theorem trans (h : u.Confined ds r v) (h' : v.Confined ds r w) : u.Confined ds r w where
  size := h'.size.trans h.size
  device x hx := by
    have hw := h'.device x hx
    rwa [h.device x hx, Device.withChildren_withChildren] at hw
  children x := (h'.children x).trans (h.children x)
  kept x hx c hc := (h.kept x hx c hc).elim (h'.kept x hx c) fun ⟨hd, hg⟩ => .inr ⟨hd, h'.gone c hg⟩
  gone x := h'.gone x ∘ h.gone x
  requests := h'.requests.trans h.requests
  request q hq := (h'.request q hq).trans (h.request q hq)
  drivers := h'.drivers.trans h.drivers
  interceptor b := (h'.interceptor b).trans (h.interceptor b)

theorem updateDevice (hd : d ∈ ds) {f : Device → Device}
    (hc : (f (w.device d)).children.Sublist (w.device d).children)
    (hg : (w.device d).state = .deleted → (f (w.device d)).state = .deleted) :
    w.Confined ds r (w.updateDevice d f) := by
  have hne {x : DeviceId} (hx : x ∉ ds) : (w.updateDevice d f).device x = w.device x := by
    rw [device_updateDevice, if_neg fun e : x = d ∧ _ => hx (e.1 ▸ hd)]
  exact {
    size := w.size_updateDevice d f
    device := fun x hx => by rw [hne hx, Device.withChildren_self]
    children := fun x => by
      rw [device_updateDevice]
      split
      next e => rw [e.1]; exact hc
      next => exact .refl _
    kept := fun x hx c hc => .inl (by rwa [hne hx])
    gone := fun x hx => by
      unfold IsGone at hx ⊢
      rw [device_updateDevice]
      split
      next e => exact hg (e.1 ▸ hx)
      next => exact hx
    requests := rfl
    request := fun _ _ => rfl
    drivers := rfl
    interceptor := fun _ => rfl }

/-- No device changes. -/
theorem of_devices (hd : w.devices = v.devices) (hr : w.requests.size = v.requests.size)
    (hq : ∀ q ≠ r, w.request q = v.request q) (hx : w.drivers.size = v.drivers.size)
    (hi : ∀ b, (w.driver b).interceptor = (v.driver b).interceptor) : v.Confined ds r w := by
  have hd' (x : DeviceId) : w.device x = v.device x := by unfold World.device; rw [hd]
  exact {
    size := by rw [hd]
    device := fun x _ => by rw [hd', Device.withChildren_self]
    children := fun x => hd' x ▸ .refl _
    kept := fun x _ c hc => .inl (by rwa [hd'])
    gone := fun x => by unfold IsGone; rw [hd']; exact id
    requests := hr
    request := hq
    drivers := hx
    interceptor := hi }

theorem of_eq (hd : w.devices = v.devices) (hr : w.requests = v.requests) (hx : w.drivers = v.drivers) :
    v.Confined ds r w :=
  of_devices hd (by rw [hr]) (fun q _ => by unfold World.request; rw [hr]) (by rw [hx])
    fun b => by unfold World.driver; rw [hx]

theorem refl (w : World) : w.Confined ds r w := of_eq rfl rfl rfl

theorem updateRequest (w : World) (f : Request → Request) : w.Confined ds r (w.updateRequest r f) := by
  refine of_devices rfl (w.requests_size_updateRequest r f) (fun q hq => ?_) rfl fun _ => rfl
  rw [request_updateRequest, if_neg fun e => hq e.1]

theorem updateDriver (w : World) {f : Driver → Driver} (hf : ∀ v, (f v).interceptor = v.interceptor) :
    w.Confined ds r (w.updateDriver b f) := by
  refine of_devices rfl rfl (fun _ _ => rfl) (w.size_updateDriver b f) fun x => ?_
  rw [driver_updateDriver]
  split
  next e => rw [hf, e.1]
  next => rfl

/-- A deleted device leaves its parent, wherever that is. -/
theorem leaveParent (hd : d ∈ ds) (hg : w.IsGone d) : w.Confined ds r (w.after (leaveParent d)) := by
  have hc (x : DeviceId) := (w.device_leaveParent d x).2.2
  have hgone (x : DeviceId) (hx : w.IsGone x) : (w.after (PnpBus.leaveParent d)).IsGone x := by
    unfold IsGone Device.state
    rw [(w.device_leaveParent d x).2.1]
    exact hx
  have hrequests : (w.after (PnpBus.leaveParent d)).requests = w.requests := by
    rw [after_leaveParent]
    split <;> rfl
  exact {
    size := by rw [after_leaveParent]; split <;> simp
    device := fun x _ => by
      rw [after_leaveParent]
      split
      next p hp =>
        rw [device_updateDevice]
        split
        next e => rw [Device.children_filter, e.1]; exact Device.filter_children ..
        next => rw [Device.withChildren_self]
      next => rw [Device.withChildren_self]
    children := fun x => by
      rw [hc]
      split
      next => exact List.filter_sublist
      next => exact .refl _
    kept := fun x _ c hm => by
      rw [hc]
      by_cases hcd : c = d
      · rw [hcd]
        exact .inr ⟨hd, hgone d hg⟩
      · split
        next => exact .inl (List.mem_filter.mpr ⟨hm, by simpa using hcd⟩)
        next => exact .inl hm
    gone := hgone
    requests := by rw [hrequests]
    request := fun q _ => by unfold World.request; rw [hrequests]
    drivers := by rw [drivers_leaveParent]
    interceptor := fun b => by unfold World.driver; rw [drivers_leaveParent] }

end Confined

namespace Alike

theorem of_eq (h : v.Alike b ds r w) (hd : v'.devices = v.devices) (hr : v'.requests = v.requests)
    (hx : v'.drivers = v.drivers) (hd' : w'.devices = w.devices) (hr' : w'.requests = w.requests)
    (hx' : w'.drivers = w.drivers) : v'.Alike b ds r w' := by
  obtain ⟨_, _, _, _, _, _, _, _, _, _, _, _⟩ := v
  obtain ⟨_, _, _, _, _, _, _, _, _, _, _, _⟩ := v'
  obtain ⟨_, _, _, _, _, _, _, _, _, _, _, _⟩ := w
  obtain ⟨_, _, _, _, _, _, _, _, _, _, _, _⟩ := w'
  subst hd hr hx hd' hr' hx'
  exact ⟨h.size, h.device, h.requests, h.request, h.drivers, h.interceptor, h.found, h.children, h.locks, h.tickets⟩

theorem updateDevice (h : v.Alike b ds r w) (d : DeviceId) {f : Device → Device}
    (hc : d ∈ ds → (f (v.device d)).children ⊆ (v.device d).children) :
    (v.updateDevice d f).Alike b ds r (w.updateDevice d f) where
  size := by rw [size_updateDevice, size_updateDevice, h.size]
  device x hx := by
    rw [device_updateDevice, device_updateDevice, h.size]
    split
    next e => rw [h.device d (e.1 ▸ hx)]
    next => exact h.device x hx
  requests := h.requests
  request := h.request
  drivers := h.drivers
  interceptor := h.interceptor
  found := h.found
  children x hx c hm := by
    rw [device_updateDevice] at hm
    split at hm
    next e => exact h.children x hx c (e.1 ▸ hc (e.1 ▸ hx) hm)
    next => exact h.children x hx c hm
  locks := h.locks
  tickets := h.tickets

theorem updateRequest (h : v.Alike b ds r w) {f : Request → Request} (hl : ∀ x ∈ (f (v.request r)).locks, x ∈ ds)
    (ht : ∀ g ∈ (f (v.request r)).tickets, ∃ x ∈ ds, g = .device x) :
    (v.updateRequest r f).Alike b ds r (w.updateRequest r f) where
  size := h.size
  device := h.device
  requests := by rw [requests_size_updateRequest, requests_size_updateRequest, h.requests]
  request := by rw [request_updateRequest, request_updateRequest, h.requests, h.request]
  drivers := h.drivers
  interceptor := h.interceptor
  found := h.found
  children := h.children
  locks x hx := by
    rw [request_updateRequest] at hx
    split at hx
    · exact hl x hx
    · exact h.locks x hx
  tickets g hg := by
    rw [request_updateRequest] at hg
    split at hg
    · exact ht g hg
    · exact h.tickets g hg

theorem erase (h : v.Alike b ds r w) (key : DeviceKey) :
    (v.updateDriver b fun x => { x with registry := x.registry.erase key }).Alike b ds r
      (w.updateDriver b fun x => { x with registry := x.registry.erase key }) where
  size := h.size
  device := h.device
  requests := h.requests
  request := h.request
  drivers := by rw [size_updateDriver, size_updateDriver, h.drivers]
  interceptor := by
    rw [driver_updateDriver, driver_updateDriver, h.drivers]
    split <;> exact h.interceptor
  found x hx k := by
    have hf := h.found x hx k
    unfold lookup at hf ⊢
    rw [driver_updateDriver, driver_updateDriver, h.drivers]
    split
    · rw [DeviceRegistry.findRole?_erase, DeviceRegistry.findRole?_erase]
      split
      · exact Iff.rfl
      · exact hf
    · exact hf
  children := h.children
  locks := h.locks
  tickets := h.tickets

end Alike

structure Twins (b : DriverId) (ds : List DeviceId) (r : RequestId) (v₀ w₀ v w : World) : Prop where
  alike : v.Alike b ds r w
  left : v₀.Confined ds r v
  right : w₀.Confined ds r w

namespace Twins

variable (h : Twins b ds r v₀ w₀ v w)
include h

theorem of_eq (hd : v'.devices = v.devices) (hr : v'.requests = v.requests) (hx : v'.drivers = v.drivers)
    (hd' : w'.devices = w.devices) (hr' : w'.requests = w.requests) (hx' : w'.drivers = w.drivers) :
    Twins b ds r v₀ w₀ v' w' :=
  ⟨h.alike.of_eq hd hr hx hd' hr' hx', h.left.trans (.of_eq hd hr hx), h.right.trans (.of_eq hd' hr' hx')⟩

theorem note (m n : Notice) : Twins b ds r v₀ w₀ (v.note m) (w.note n) := h.of_eq rfl rfl rfl rfl rfl rfl

theorem updateDevice (hd : d ∈ ds) {f : Device → Device}
    (hc : (f (v.device d)).children.Sublist (v.device d).children)
    (hg : (v.device d).state = .deleted → (f (v.device d)).state = .deleted) :
    Twins b ds r v₀ w₀ (v.updateDevice d f) (w.updateDevice d f) := by
  have he := h.alike.device d hd
  exact ⟨h.alike.updateDevice d fun _ => hc.subset, h.left.trans (.updateDevice hd hc hg),
    h.right.trans (.updateDevice hd (by rw [he]; exact hc) (by rw [he]; exact hg))⟩

theorem updateRequest {f : Request → Request} (hl : ∀ x ∈ (f (v.request r)).locks, x ∈ ds)
    (ht : ∀ g ∈ (f (v.request r)).tickets, ∃ x ∈ ds, g = .device x) :
    Twins b ds r v₀ w₀ (v.updateRequest r f) (w.updateRequest r f) :=
  ⟨h.alike.updateRequest hl ht, h.left.trans (.updateRequest v f), h.right.trans (.updateRequest w f)⟩

theorem erase (key : DeviceKey) :
    Twins b ds r v₀ w₀ (v.updateDriver b fun x => { x with registry := x.registry.erase key })
      (w.updateDriver b fun x => { x with registry := x.registry.erase key }) :=
  ⟨h.alike.erase key, h.left.trans (.updateDriver v fun _ => rfl), h.right.trans (.updateDriver w fun _ => rfl)⟩

theorem takeChildren (hd : d ∈ ds) : Twins b ds r v₀ w₀ (v.after (takeChildren d)) (w.after (takeChildren d)) := by
  have hc : ((v.device d).withChildren []).children.Sublist (v.device d).children := by
    rw [Device.children_withChildren_nil]
    exact List.nil_sublist _
  have hs := (v.device d).state_withChildren []
  exact (h.updateDevice (f := (·.withChildren [])) hd hc hs.trans).of_eq rfl rfl rfl rfl rfl rfl

theorem leaveParent (hd : d ∈ ds) (hg : v.IsGone d) :
    Twins b ds r v₀ w₀ (v.after (leaveParent d)) (w.after (leaveParent d)) := by
  have he := h.alike.device d hd
  have hg' : w.IsGone d := by unfold IsGone; rw [he]; exact hg
  refine ⟨?_, h.left.trans (.leaveParent hd hg), h.right.trans (.leaveParent hd hg')⟩
  rw [after_leaveParent, after_leaveParent, he]
  split
  next p _ =>
    refine h.alike.updateDevice p fun _ => ?_
    rw [Device.children_filter]
    exact List.filter_sublist.subset
  next => exact h.alike

end Twins

end World

end PnpBus
