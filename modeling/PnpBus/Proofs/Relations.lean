import Mathlib.Data.List.Sort
import PnpBus.Proofs.Chronicles
import PnpBus.Proofs.Transparency

/-!
# The children that a device reports

A functional device keeps a list of its children: a new one is entered last,
and a deleted one is struck off. As long as no removal is sent to the device
itself, the list names those of the children that were ever added to it which
are not deleted, and this is what the device reports.
-/

namespace PnpBus

variable {R : Regime} {K : DeviceId → Prop} {u v w : World} {b : DriverId} {d f x : DeviceId} {r : RequestId}
  {l : Logbook} {e : Event} {es : List Event}

/-! ## New devices and their relatives -/

namespace World

section
variable {identity : Identity} (hf : (w.device f).layer?.isSome)
include hf

theorem parent_adopt (x : DeviceId) : ((w.adopt f b identity).device x).parent? =
    if x = w.devices.size then some f else (w.device x).parent? := by
  have hne := Nat.ne_of_lt (size_of_layer? hf)
  unfold adopt
  rw [device_updateDevice]
  split
  next h => rw [Device.parent?_updateLayer, device_enroll, h.1, if_neg hne, if_neg hne]
  next => rw [device_enroll]; split <;> rfl

theorem children_adopt (x : DeviceId) : ((w.adopt f b identity).device x).children =
    if x = f then (w.device f).children ++ [w.devices.size] else (w.device x).children := by
  have hx : Extension.IsFresh w (.physical (some f)) := fun y e => Option.some.inj e ▸ size_of_layer? hf
  unfold adopt
  rw [device_updateDevice, size_enroll]
  split
  next h =>
    obtain ⟨layer, hl⟩ := Option.isSome_iff_exists.mp hf
    rw [if_pos h.1, device_enroll, if_neg (Nat.ne_of_lt (size_of_layer? hf)), Device.children_updateLayer, hl,
      Device.children, hl]
    rfl
  next h =>
    rw [if_neg fun e => h ⟨e, Nat.lt_succ_of_lt (size_of_layer? hf)⟩, children_enroll hx]

omit hf in
theorem life_adopt (x : DeviceId) : ((w.adopt f b identity).device x).lock = (w.device x).lock ∧
    ((w.adopt f b identity).device x).lifecycle = (w.device x).lifecycle := by
  have enrolled (x : DeviceId) : ((w.enroll b identity (.physical (some f))).device x).lock = (w.device x).lock ∧
      ((w.enroll b identity (.physical (some f))).device x).lifecycle = (w.device x).lifecycle := by
    rw [device_enroll]
    split
    next h => rw [h, device_of_size_le (Nat.le_refl w.devices.size)]; exact ⟨rfl, rfl⟩
    next => exact ⟨rfl, rfl⟩
  unfold adopt
  rw [device_updateDevice]
  split
  next h => rw [Device.lock_updateLayer, Device.lifecycle_updateLayer, h.1]; exact enrolled f
  next => exact enrolled x

end

structure Gains (v w : World) : Prop where
  old : ∀ x ≠ v.devices.size, w.device x = v.device x
  fresh : (w.device v.devices.size).parent? = none ∧ (w.device v.devices.size).lock.draining = false

namespace Gains

theorem refl (w : World) : w.Gains w :=
  ⟨fun _ _ => rfl, by rw [device_of_size_le (Nat.le_refl w.devices.size)]; exact ⟨rfl, rfl⟩⟩

theorem enroll (w : World) (b : DriverId) (identity : Identity) {extension : Extension}
    (he : extension.isChild = false) : w.Gains (w.enroll b identity extension) := by
  refine ⟨fun x hx => by rw [device_enroll, if_neg hx], ?_⟩
  rw [device_enroll, if_pos rfl]
  refine ⟨?_, rfl⟩
  cases extension with
  | physical parent => cases parent with
    | none => rfl
    | some f => cases he
  | functional layer => rfl

theorem overlay (w : World) (b : DriverId) (d : DeviceId) (matched : Bool) : w.Gains (w.overlay b d matched) := by
  have hl :
      (Extension.functional { lower := .physical d, active := matched && !(w.driver b).activeClaimed }).isChild =
      false := rfl
  unfold World.overlay
  cases matched with
  | true =>
    have h := enroll (w.after (setClaim b true)) b (w.device d).identity hl
    exact ⟨h.old, h.fresh⟩
  | false => exact enroll w b _ hl

theorem parent (h : v.Gains w) (x : DeviceId) : (w.device x).parent? = (v.device x).parent? := by
  by_cases hx : x = v.devices.size
  · rw [hx, h.fresh.1, device_of_size_le (Nat.le_refl v.devices.size)]
    rfl
  · rw [h.old x hx]

theorem opened (h : v.Gains w) (hc : w.IsClosed x) : v.IsClosed x := by
  by_cases hx : x = v.devices.size
  · rw [IsClosed, hx, h.fresh.2] at hc
    cases hc
  · rwa [IsClosed, h.old x hx] at hc

end Gains

theorem size_of_parent? (h : (w.device x).parent? = some d) : x < w.devices.size := by
  refine Nat.lt_of_not_le fun hs => ?_
  rw [device_of_size_le hs] at h
  cases h

def Lists (w : World) (f : DeviceId) : Prop := ∀ x, w.IsChild f x → x ∈ (w.device f).children

theorem Ages.lists (h : v.Ages K w) (hf : K f) (hv : v.Lists f) : w.Lists f := by
  intro x hx
  have hp : (v.device x).parent? = some f := (Device.parent?_eq_of_shape (h.device x).shape).symm.trans hx.1
  have hm := hv x ⟨hp, fun hg => hx.2 (h.gone hg)⟩
  exact (h.kept f hf x hm).resolve_right hx.2

theorem Lists.gains (h : v.Lists f) (hv : ∀ x, (v.device x).parent? = some f → f < x) (hu : v.Gains u) :
    u.Lists f := by
  intro x hx
  have hp : (v.device x).parent? = some f := hu.parent x ▸ hx.1
  have hs : x < v.devices.size := size_of_parent? hp
  have he := hu.old x (Nat.ne_of_lt hs)
  rw [hu.old f (Nat.ne_of_lt (Nat.lt_trans (hv x hp) hs))]
  exact h x ⟨hp, by rw [IsGone, ← he]; exact hx.2⟩

theorem Lists.adopt (h : w.Lists f) (hd : (w.device d).layer?.isSome) (b : DriverId) (identity : Identity) :
    (w.adopt d b identity).Lists f := by
  rintro x ⟨hp, hg⟩
  unfold IsGone Device.state at hg
  rw [parent_adopt hd] at hp
  rw [(life_adopt x).2] at hg
  rw [children_adopt hd]
  split at hp
  next hx =>
    obtain rfl : d = f := Option.some.inj hp
    rw [if_pos rfl, hx]
    exact List.mem_append_right _ List.mem_cons_self
  next =>
    have hm := h x ⟨hp, hg⟩
    split
    next e => rw [← e]; exact List.mem_append_left _ hm
    next => exact hm

end World

/-! ## Children in a chronicle -/

/-- The children that were added to `f`, the eldest first. -/
def adopted (es : List Event) (f : DeviceId) : List DeviceId := es.filterMap (·.adopted? f)

namespace Event

theorem creates_of_adopted? (h : e.adopted? f = some x) : e.command.Creates := by
  unfold adopted? at h
  split at h
  next hc _ => rw [hc]; trivial
  next => cases h

/-- Either a child is added to a functional device, or none to any device. -/
theorem Does.family (h : e.Does b K) :
    (∃ u u', e.before.Ages K u ∧ u.Gains u' ∧ u'.Ages K e.landed.world ∧ ∀ f, e.adopted? f = none) ∨
      ∃ d identity, (e.before.device d).layer?.isSome ∧ (e.before.adopt d b identity).Ages K e.landed.world ∧
        ∀ f, e.adopted? f = if d = f then some e.before.devices.size else none := by
  have still {v w : World} (hw : v.Ages K w) (ha : ∀ f, e.adopted? f = none) :
      ∃ u u', v.Ages K u ∧ u.Gains u' ∧ u'.Ages K w ∧ ∀ f, e.adopted? f = none := ⟨v, v, .refl v, .refl v, hw, ha⟩
  cases h with
  | ages hc hw =>
    refine .inl (still hw fun f => ?_)
    cases ha : adopted? _ f with
    | none => rfl
    | some x => exact absurd (creates_of_adopted? ha) hc
  | notCreated hw => exact .inl (still hw.of_calm fun _ => rfl)
  | created identity hw => exact .inl ⟨_, _, .refl _, .enroll _ b identity rfl, hw.of_calm, fun _ => rfl⟩
  | attaches hx =>
    cases hx with
    | declined hm hw => exact .inl (still hw.of_calm fun _ => rfl)
    | failed hm hw => exact .inl (still hw.of_calm fun _ => rfl)
    | attached hm hp hu hw => exact .inl ⟨_, _, hu.of_calm, .overlay .., hw.of_calm, fun _ => rfl⟩
  | notAdopted hw => exact .inl (still hw.of_calm fun _ => rfl)
  | adopted identity hl ha hw => exact .inr ⟨_, identity, by rw [hl]; rfl, hw.of_calm, fun _ => rfl⟩

theorem Does.parent (h : e.Does b K) (f x : DeviceId) : (e.landed.world.device x).parent? = some f ↔
    (e.before.device x).parent? = some f ∨ e.adopted? f = some x := by
  have aged {v w : World} (hw : v.Ages K w) : (w.device x).parent? = (v.device x).parent? :=
    Device.parent?_eq_of_shape (hw.device x).shape
  rcases h.family with ⟨u, u', hu, hg, hw, ha⟩ | ⟨d, identity, hd, hw, ha⟩
  · rw [aged hw, hg.parent, aged hu, ha, or_iff_left nofun]
  · rw [aged hw, World.parent_adopt hd, ha]
    have hnew : (e.before.device e.before.devices.size).parent? = none := by
      rw [World.device_of_size_le (Nat.le_refl e.before.devices.size)]
      rfl
    by_cases hx : x = e.before.devices.size
    · rw [if_pos hx, hx, hnew]
      by_cases hdf : d = f <;> simp [hdf]
    · rw [if_neg hx, or_iff_left]
      split
      · exact fun e => hx (Option.some.inj e).symm
      · nofun

theorem Does.size_of_adopted? (h : e.Does b K) (ha : e.adopted? f = some x) : x = e.before.devices.size := by
  rcases h.family with ⟨-, -, -, -, -, hn⟩ | ⟨d, identity, -, -, hd⟩
  · rw [hn] at ha
    cases ha
  · rw [hd] at ha
    split at ha <;> cases ha
    rfl

theorem Does.lists (h : e.Does b K) (hf : K f) (hs : e.before.Sane R) (hl : e.before.Lists f) :
    e.landed.world.Lists f := by
  rcases h.family with ⟨u, u', hu, hg, hw, -⟩ | ⟨d, identity, hd, hw, -⟩
  · have hparents (x : DeviceId) (hp : (u.device x).parent? = some f) : f < x :=
      hs.parents x f ((Device.parent?_eq_of_shape (hu.device x).shape).symm.trans hp)
    exact hw.lists hf ((hu.lists hf hl).gains hparents hg)
  · exact hw.lists hf (hl.adopt hd b identity)

theorem Does.opened (h : e.Does b K) (hf : K f) (hc : e.landed.world.IsClosed f) : e.before.IsClosed f := by
  rcases h.family with ⟨u, u', hu, hg, hw, -⟩ | ⟨d, identity, hd, hw, -⟩
  · exact hu.opened f hf (hg.opened (hw.opened f hf hc))
  · have hc := hw.opened f hf hc
    rwa [World.IsClosed, (World.life_adopt f).1] at hc

end Event

theorem adopted_append (es : List Event) (e : Event) (f : DeviceId) :
    adopted (es ++ [e]) f = adopted es f ++ (e.adopted? f).toList := by
  unfold adopted
  rw [List.filterMap_append, List.filterMap_cons]
  cases e.adopted? f <;> rfl

namespace Chronicle

/-- The children that were added to `f` are those whose parent is `f`, and younger ones come later. -/
theorem adopted_spec (h : Chronicle R l es) (f : DeviceId) :
    (∀ x, x ∈ adopted es f ↔ (l.world.device x).parent? = some f) ∧ (adopted es f).Pairwise (· < ·) := by
  apply h.induct_any (P := fun w es => (∀ x, x ∈ adopted es f ↔ (w.device x).parent? = some f) ∧
    (adopted es f).Pairwise (· < ·))
  · intro w hw _
    refine ⟨fun x => ?_, .nil⟩
    rw [hw.device]
    exact ⟨fun hx => (List.not_mem_nil hx).elim, nofun⟩
  · intro e es _ he ⟨hmem, hsorted⟩
    rw [adopted_append]
    refine ⟨fun x => ?_, List.pairwise_append.mpr ⟨hsorted, ?_, fun x hx y hy => ?_⟩⟩
    · rw [List.mem_append, hmem x, he.parent, Option.mem_toList]
    · cases e.adopted? f <;> simp
    · rw [he.size_of_adopted? (Option.mem_toList.mp hy)]
      exact World.size_of_parent? ((hmem x).mp hx)
  · intro v w es _ hw ⟨hmem, hsorted⟩
    refine ⟨fun x => ?_, hsorted⟩
    rw [hmem x, Device.parent?_eq_of_shape (hw.device x).shape]

/-- A functional device that no removal was sent to is open and lists its children. -/
theorem unremoved (h : Chronicle R l es) (hf : (l.world.device f).role = .functional)
    (hn : ∀ e ∈ es, ¬e.Removes f) :
    ¬l.world.IsClosed f ∧ l.world.Lists f := by
  apply h.induct (K := (· = f)) (P := fun w _ => ¬w.IsClosed f ∧ w.Lists f)
  · rintro _ rfl _
    exact hf
  · rintro e he _ rfl
    exact hn e he
  · intro w hw _
    rw [World.IsClosed, hw.device]
    refine ⟨by decide, fun x hx => ?_⟩
    rw [World.IsChild, hw.device] at hx
    cases hx.1
  · rintro e es hs he ⟨hopen, hlists⟩
    exact ⟨fun hc => hopen (he.opened rfl hc), he.lists rfl hs hlists⟩
  · rintro v w es _ hw ⟨hopen, hlists⟩
    exact ⟨fun hc => hopen (hw.opened f rfl hc), hw.lists rfl hlists⟩

/-- The list names the children that were added and are not deleted, the eldest first. -/
theorem children_eq (h : Chronicle R l es) (hf : (l.world.device f).role = .functional)
    (hn : ∀ e ∈ es, ¬e.Removes f) :
    (l.world.device f).children = (adopted es f).filter fun x => (l.world.device x).state ≠ .deleted := by
  have hs := h.sound.sane
  obtain ⟨hmem, hsorted⟩ := h.adopted_spec f
  refine List.Pairwise.eq_of_mem_iff (hs.sorted f) (hsorted.filter _) fun x => ?_
  rw [List.mem_filter, decide_eq_true_eq, hmem]
  exact ⟨hs.children f x, (h.unremoved hf hn).2 x⟩

end Chronicle

/-! ## Asking for the bus relations -/

def Device.reported (v : Device) : List DeviceId := if v.layer?.any (·.active) then v.children else []

theorem functional_busRelations (b : DriverId) (d : DeviceId) (r : RequestId) (below : Call Status) (w : World) :
    ∃ u : World, functional b d r below (.pnp (.queryRelations .bus)) w =
      .done (u.updateRequest r fun q => { q with information := .relations (w.device d).reported }) .success ∧
      u.requests = w.requests := ⟨_, rfl, rfl⟩

/-- It answers alone, unless it takes no requests any more. -/
theorem deliver_busRelations {lower : Stack} (hr : v.Knows r) (hc : (v.request r).completed = false)
    (hi : (v.request r).information = .none) :
    (deliver b r (.pnp (.queryRelations .bus)) (.functional d lower) v).Ends fun w s =>
      (w.request r).completed = false ∧
        (s = .success ∧ (w.request r).information = .relations (v.device d).reported ∨
          s = .noSuchDevice ∧ (w.request r).information = .none ∧ (v.IsGone d ∨ v.IsClosed d)) := by
  unfold deliver
  by_cases hg : v.IsGone d
  · rw [admitted_error (enter_gone r _ hg)]
    exact ⟨hc, .inr ⟨rfl, hi, .inl hg⟩⟩
  by_cases ho : v.IsClosed d
  · rw [admitted_error (enter_closed r _ hg ho)]
    exact ⟨hc, .inr ⟨rfl, hi, .inr ho⟩⟩
  have hk : (v.take d r).Knows r := (World.knows_updateRequest ..).mpr hr
  have hd : ((v.take d r).device d).reported = (v.device d).reported := by
    unfold World.take World.setLock
    rw [World.device_updateRequest, World.device_updateDevice]
    split <;> rfl
  have hq : ((v.take d r).request r).completed = false := by
    unfold World.take
    rw [World.request_updateRequest, if_pos ⟨rfl, hr⟩]
    exact hc
  obtain ⟨u, hu, hreq⟩ :=
    functional_busRelations b d r (deliver b r (.pnp (.queryRelations .bus)) lower) (v.take d r)
  have hku : u.Knows r := by rwa [World.Knows, hreq]
  have hqu : u.request r = (v.take d r).request r := by rw [World.request, World.request, hreq]
  rw [admitted_ok (enter_open r _ hg ho), Run.Ends, hu]
  show (World.request (World.updateRequest _ r _) r).completed = false ∧ _
  rw [World.request_updateRequest, if_pos ⟨rfl, hku⟩, hqu, hd]
  exact ⟨hq, .inl ⟨rfl, rfl⟩⟩

theorem send_busRelations (b : DriverId) (hf : (w.device f).role = .functional) :
    (send b f (.pnp (.queryRelations .bus)) w).Ends fun w' s =>
      s = .success ∧ (w'.request w.requests.size).information = .relations (w.device f).reported ∨
        s = .noSuchDevice ∧ (w'.request w.requests.size).information = .none ∧ (w.IsGone f ∨ w.IsClosed f) := by
  have hq := request_ask w (.pnp (.queryRelations .bus))
  obtain ⟨lower, hs⟩ : ∃ lower, (w.ask (.pnp (.queryRelations .bus))).stack f = .functional f lower := by
    unfold Device.role at hf
    show ∃ lower, w.stack f = .functional f lower
    unfold World.stack
    cases he : (w.device f).extension with
    | physical parent => rw [he] at hf; cases hf
    | functional layer => exact ⟨_, rfl⟩
  show (dispatch b f w.requests.size (w.ask (.pnp (.queryRelations .bus)))).Ends _
  rw [dispatch_apply, hq, hs]
  refine (deliver_busRelations (knows_ask w _) (by rw [hq]) (by rw [hq])).bind fun u s ⟨hc, hu⟩ => ?_
  have hi := World.information_settle hc s
  refine hu.imp (fun h => ⟨h.1, ?_⟩) fun h => ⟨h.1, ?_, h.2.2⟩
  · exact hi.trans h.2
  · exact hi.trans h.2.1

/-- As long as no removal was sent to a functional device, it answers a new request for its bus relations with
success. An active one names exactly the children that were added to it and are not deleted, each once, in the order
in which they came, be they on their way out or not. An inactive one names none, and neither does it later. -/
theorem bus_relations_truthful {layer : Layer} (h : Chronicle R l es)
    (hl : (l.world.device f).layer? = some layer) :
    ((∀ e ∈ es, ¬e.Removes f) → (send R.driver f (.pnp (.queryRelations .bus)) l.world).Ends fun w s =>
      s = .success ∧
      (w.request l.world.requests.size).information = .relations
        (if layer.active then (adopted es f).filter fun x => (l.world.device x).state ≠ .deleted else [])) ∧
    (adopted es f).Pairwise (· < ·) ∧
    (layer.active = false → (send R.driver f (.pnp (.queryRelations .bus)) l.world).Ends fun w _ =>
      (w.request l.world.requests.size).information ∈ [.none, .relations []]) := by
  have hf : (l.world.device f).role = .functional := by
    unfold Device.layer? at hl
    unfold Device.role
    cases he : (l.world.device f).extension <;> rw [he] at hl <;> cases hl
    rfl
  have hreported : (l.world.device f).reported = if layer.active then (l.world.device f).children else [] := by
    unfold Device.reported
    rw [hl]
    rfl
  have hsend := send_busRelations R.driver hf
  rw [hreported] at hsend
  refine ⟨fun hn => hsend.imp fun w s hw => ?_, (h.adopted_spec f).2, fun ha => hsend.imp fun w s hw => ?_⟩
  · have hopen := (h.unremoved hf hn).1
    -- a device is drained, and hence closed, before it is deleted
    have hgone (hg : l.world.IsGone f) : l.world.IsClosed f :=
      (Bool.and_eq_true _ _ ▸ (h.sound.sane.sound f).drained hg).1
    rw [h.children_eq hf hn] at hw
    exact hw.resolve_right fun hw => hopen (hw.2.2.elim hgone id)
  · rw [ha] at hw
    rcases hw with ⟨-, hi⟩ | ⟨-, hi, -⟩
    · exact List.mem_cons_of_mem _ (List.mem_singleton.mpr hi)
    · rw [hi]; exact List.mem_cons_self

def childrenLeaving : List Scene := [
  .play (.begin (.device (.create "A" "" (some 0)))),
  .play (.begin (.device (.attach 0 (some 0)))),
  .play (.begin (.device (.addChild 1 "B" "" (some 0)))),
  .play (.begin (.device (.addChild 1 "C" "" (some 0)))),
  .play (.begin (.device (.acquire 2))),
  .play (.begin (.request (.send 2 (.pnp .removeDevice) (some 0)))),
  .play (.begin (.request (.send 3 (.pnp .removeDevice) (some 0)))),
  .play (.begin (.device (.addChild 1 "D" "" (some 0))))]

theorem bus_relations_truthful_of_leaving :
    ∃ l es, Chronicle ⟨0, True, False⟩ l es ∧ l.errands.length = 1 ∧
      (send 0 1 (.pnp (.queryRelations .bus)) l.world).Ends fun w s => s = .success ∧
        (w.request l.world.requests.size).information = .relations [2, 4] := by
  obtain ⟨l, es, h, hq⟩ :=
    Chronicle.of_enact (R := ⟨0, True, False⟩) (s := childrenLeaving) World.isFresh_initial rfl
    (by simp [childrenLeaving, Scene.IsPermitted, Play.IsPermitted, Command.IsPermitted])
    (q := fun x => x.1.errands.length = 1 && (((x.1.world.device 1).layer?.any (·.active)) &&
      (decide (∀ e ∈ x.2, ¬e.Removes 1) &&
        (adopted x.2 1).filter (fun c => (x.1.world.device c).state ≠ .deleted) = [2, 4]))) (by decide +kernel)
  simp only [Bool.and_eq_true, decide_eq_true_eq] at hq
  obtain ⟨hlen, hactive, hn, hlist⟩ := hq
  obtain ⟨layer, hl, ha⟩ := (Option.any_eq_true _ _).mp hactive
  have hsend := (bus_relations_truthful h hl).1 hn
  rw [if_pos ha, hlist] at hsend
  exact ⟨l, es, h, hlen, hsend⟩

end PnpBus
