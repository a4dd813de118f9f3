import PnpBus.Proofs.Births
import PnpBus.Proofs.Teardown

/-!
# The life of a device over whole runs

Wherever others have a turn, no device is about to start or just removed, and
what waits for the confirmation of a query was in a state of rest before. A
surprise removal is never taken back, and a deleted device stays as it is and
refuses every request.
-/

namespace PnpBus

variable {R : Regime} {K : DeviceId → Prop} {u v w : World} {b : DriverId} {d f x : DeviceId} {c c' : Config}

/-! ## Elder devices -/

namespace World

def Rooted (w : World) (d : DeviceId) (layer : Layer) : Prop :=
  layer.lower.top < d → w.stack layer.lower.top = layer.lower

/-- Devices that were there have aged, and others may have come. -/
structure AgesAndGrows (v w : World) : Prop where
  size : v.devices.size ≤ w.devices.size
  device : ∀ d < v.devices.size, (v.device d).Ages (w.device d)
  rooted : ∀ d, v.devices.size ≤ d → ∀ layer, (w.device d).layer? = some layer → w.Rooted d layer

namespace AgesAndGrows

/-- No device has come. -/
theorem of_size (hn : w.devices.size = v.devices.size)
    (h : ∀ d < v.devices.size, (v.device d).Ages (w.device d)) : v.AgesAndGrows w :=
  ⟨Nat.le_of_eq hn.symm, h, fun d hd => by rw [device_of_size_le (hn ▸ hd)]; exact nofun⟩

theorem refl (w : World) : w.AgesAndGrows w := of_size rfl fun _ _ => .refl _

theorem of_ages (h : v.Ages K w) : v.AgesAndGrows w := of_size h.size fun d _ => h.device d

theorem stack (h : v.AgesAndGrows w) (hd : d < v.devices.size) : w.stack d = v.stack d :=
  stack_eq_of_shape (h.device d hd).shape

theorem trans (h : u.AgesAndGrows v) (h' : v.AgesAndGrows w) : u.AgesAndGrows w where
  size := Nat.le_trans h.size h'.size
  device d hd := (h.device d hd).trans (h'.device d (Nat.lt_of_lt_of_le hd h.size))
  rooted d hd layer hl hlt := by
    rcases Nat.lt_or_ge d v.devices.size with hdv | hdv
    · -- a device keeps its place over the stack that it was put on
      have hm := Device.map_lower_eq_of_shape (h'.device d hdv).shape
      rw [hl] at hm
      obtain ⟨layer', hl', he⟩ := Option.map_eq_some_iff.mp hm.symm
      replace he : layer'.lower = layer.lower := he
      rw [h'.stack (Nat.lt_trans hlt hdv), ← he]
      exact h.rooted d hd layer' hl' (he.symm ▸ hlt)
    · exact h'.rooted d hdv layer hl hlt

theorem enroll {extension : Extension} (b : DriverId) (identity : Identity)
    (hx : ∀ layer, extension = .functional layer → w.Rooted w.devices.size layer) :
    w.AgesAndGrows (w.enroll b identity extension) where
  size := by rw [size_enroll]; exact Nat.le_succ _
  device d hd := by rw [device_enroll, if_neg (Nat.ne_of_lt hd)]; exact .refl _
  rooted d hd layer hl hlt := by
    rcases Nat.eq_or_lt_of_le hd with rfl | hd
    · rw [device_enroll, if_pos rfl] at hl
      cases extension with
      | physical parent => cases hl
      | functional layer' =>
        cases hl
        unfold World.stack
        rw [device_enroll, if_neg (Nat.ne_of_lt hlt)]
        exact hx _ rfl hlt
    · rw [device_of_size_le (by rw [size_enroll]; exact hd)] at hl; cases hl

theorem adopt (w : World) (f : DeviceId) (b : DriverId) (identity : Identity) :
    w.AgesAndGrows (w.adopt f b identity) := by
  refine (enroll b identity nofun : w.AgesAndGrows (w.enroll b identity (.physical (some f)))).trans ?_
  refine of_size (size_updateDevice ..) fun d _ => ?_
  unfold World.adopt
  rw [device_updateDevice]
  split
  next h => rw [h.1]; exact .updateLayer _ fun _ => ⟨rfl, rfl⟩
  next => exact .refl _

theorem overlay (b : DriverId) (hp : (w.device d).role = .physical) (matched : Bool) :
    w.AgesAndGrows (w.overlay b d matched) := by
  refine trans (v := if matched then w.after (setClaim b true) else w) ?_ (enroll _ _ fun layer e _ => ?_)
  · split
    · exact of_size rfl fun _ _ => .refl _
    · exact refl w
  · cases e
    refine stack_of_physical ?_
    split <;> exact hp

theorem attached {x : Except Status (Option DeviceId)} (h : v.Attached b d w x) : v.AgesAndGrows w := by
  cases h with
  | declined _ hw => exact of_ages hw
  | failed _ hw => exact of_ages hw
  | attached _ hp hu hw =>
    refine ((of_ages hu).trans (overlay b ?_ _)).trans (of_ages hw)
    rw [Device.role_eq_of_shape (hu.device d).shape, hp]

end AgesAndGrows

end World

open World (AgesAndGrows)

theorem Command.Creates.agesAndGrows {c : Command} (h : c.Creates) (hc : c.IsPermitted b) (v : World) :
    (perform c v).Returns fun w _ => v.AgesAndGrows w := by
  cases c with
  | device c =>
    cases c with
    | create deviceId instanceId x =>
      cases hc
      refine (perform_create deviceId instanceId v).imp ?_
      rintro w a (hw | ⟨identity, -, hw⟩)
      · exact .of_ages hw.1
      · exact (AgesAndGrows.enroll _ _ (by nofun)).trans (.of_ages hw)
    | attach d x =>
      cases hc
      refine (perform_attach d v).imp ?_
      rintro w a ⟨x, -, hx⟩
      exact .attached hx
    | addChild f deviceId instanceId x =>
      cases hc
      refine (perform_addChild f deviceId instanceId v).imp ?_
      rintro w a (hw | ⟨identity, layer, -, -, -, hw⟩)
      · exact .of_ages hw.1
      · exact (AgesAndGrows.adopt ..).trans (.of_ages hw)
    | _ => exact h.elim
  | _ => exact h.elim

/-! ## Every turn -/

def Config.Ageing (c : Config) : Prop := ∀ f ∈ c.suspended, f.Ages fun _ => False

theorem Entry.agesAndGrows {l l' : Logbook} {begun : Option Command} (h : Entry R begun l l')
    (hf : ∀ e ∈ l.errands, e.task.Ages fun _ => False) :
    l.world.AgesAndGrows l'.world ∧ ∀ e ∈ l'.errands, e.task.Ages fun _ => False := by
  by_cases hb : ∃ c, begun = some c ∧ c.Creates
  · obtain ⟨c, rfl, hcr⟩ := hb
    cases h with
    | begin c hc hs hl =>
      obtain ⟨w, a, rfl, hw⟩ := (hcr.agesAndGrows hc l.world).lands hl
      exact ⟨hw, hf⟩
  · obtain ⟨hw, hf⟩ :=
      h.ages (fun c hc => ⟨fun hcr => hb ⟨c, hc, hcr⟩, fun _ _ _ _ => id⟩) (World.unlisted_nothing _) hf
    exact ⟨.of_ages hw, hf⟩

theorem Turn.agesAndGrows (h : Turn R c c') (ha : c.Ageing) : c.world.AgesAndGrows c'.world ∧ c'.Ageing := by
  let l : Logbook := ⟨c.world, c.suspended.map (⟨·, none⟩), [], [], []⟩
  have hl : l.config = c := by simp [l, Logbook.config, Function.comp_def]
  rw [← hl] at h ha
  obtain ⟨begun, l', he, rfl⟩ := h.exists_entry
  obtain ⟨hw, hf⟩ := he.agesAndGrows fun e hm => ha e.task (List.mem_map_of_mem hm)
  refine ⟨hl ▸ hw, fun f hm => ?_⟩
  obtain ⟨e, he, rfl⟩ := List.mem_map.mp hm
  exact hf e he

theorem AgesAndGrows.registerOver (w : World) (b : DriverId) (identity : Identity) (d : DeviceId) (active : Bool) :
    w.AgesAndGrows (w.after (registerOver b identity d active).run) := by
  show w.AgesAndGrows (w.after (register b identity (.functional { lower := w.stack d, active })).run)
  rw [World.after]
  cases h : w.lookup b ⟨identity, .functional⟩ with
  | some x => rw [register_error (by rw [Extension.role, h]; rfl)]; exact .refl w
  | none =>
    rw [register_ok h]
    refine (AgesAndGrows.enroll _ _ fun layer e _ => ?_).trans (.of_ages (K := fun _ => False) (.note _ _))
    cases e
    exact congrArg w.stack (w.top_stack d)

theorem Growth.agesAndGrows (h : Growth R c c') (ha : c.Ageing) : c.world.AgesAndGrows c'.world ∧ c'.Ageing := by
  cases h with
  | turn h => exact h.agesAndGrows ha
  | register identity d active hd => exact ⟨AgesAndGrows.registerOver .., ha⟩

theorem Growth.agesAndGrows_of_steps (h : Relation.ReflTransGen (Growth R) c c') (ha : c.Ageing) :
    c.world.AgesAndGrows c'.world ∧ c'.Ageing := by
  induction h with
  | refl => exact ⟨.refl _, ha⟩
  | tail _ h ih =>
    obtain ⟨hw, ha⟩ := ih
    obtain ⟨hw', ha⟩ := h.agesAndGrows ha
    exact ⟨hw.trans hw', ha⟩

theorem Grows.trans (h : Grows R c) (h' : Relation.ReflTransGen (Growth R) c c') : Grows R c' := by
  obtain ⟨w, hw, hr⟩ := h
  exact ⟨w, hw, hr.trans h'⟩

theorem Grows.ageing (h : Grows R c) : c.Ageing := by
  obtain ⟨w, -, h⟩ := h
  exact (Growth.agesAndGrows_of_steps h fun _ hf => absurd hf List.not_mem_nil).2

/-! ## Deleted devices -/

/-- A request that holds nothing gives nothing back. -/
theorem World.devices_complete (hl : (w.request r).locks = []) (ht : (w.request r).tickets = []) (hr : w.Knows r)
    (s : Status) : (w.after (complete r s)).devices = w.devices := by
  rw [after_complete]
  split
  · rfl
  · rw [after_relinquish, request_updateRequest, if_pos ⟨rfl, hr⟩, hl, ht]
    rfl

/-- Nobody gets anything from a deleted device. -/
theorem send_gone (b : DriverId) (k : Kind) (h : w.IsGone d) : (send b d k w).Ends fun w' s => s = .noSuchDevice ∧
    w'.request w.requests.size = { kind := k, status := .noSuchDevice, completed := true, signaled := true } ∧
    w'.devices = w.devices := by
  obtain ⟨n, hn⟩ := deliver_gone (b := b) (r := w.requests.size) (v := w.ask k) k (w.stack d)
    (by rw [World.top_stack]; exact h)
  have hr : ((w.ask k).note n).Knows w.requests.size := knows_ask w k
  have hq : ((w.ask k).note n).request w.requests.size = { kind := k } := request_ask w k
  have hs : (w.ask k).stack d = w.stack d := rfl
  show Run.Ends _ (dispatch b d w.requests.size (w.ask k))
  rw [dispatch_apply, request_ask, hs, hn]
  show _ ∧ _ ∧ _
  rw [World.after, settle_of_ne _ (by decide)]
  refine ⟨rfl, ?_, World.devices_complete (by rw [hq]) (by rw [hq]) hr .noSuchDevice⟩
  have he := World.requests_complete (w := (w.ask k).note n) (by rw [hq]) .noSuchDevice
  rw [World.request, he, ← World.request, World.request_updateRequest, if_pos ⟨rfl, hr⟩, hq]

/-- Throughout a run, also one in which clients build stacks of their own, no device is about to start or just
removed when others have a turn, and one that was asked to stop or to be removed remembers a state of rest. Later
on, a device that was removed by surprise is still leaving or deleted. A deleted device has the same lifecycle and
power, and whatever new request it is sent is completed as there being no such device, and no device changes. -/
theorem lifecycle_throughout_run (h : Grows R c) (h' : Relation.ReflTransGen (Growth R) c c') (d : DeviceId) :
    ((c.world.device d).state ≠ .startPending ∧ (c.world.device d).state ≠ .removed) ∧
    ((c.world.device d).state = .stopPending → (c.world.device d).lifecycle.previous = .started) ∧
    ((c.world.device d).state = .removePending →
      (c.world.device d).lifecycle.previous ∈ [.added, .started, .stopped]) ∧
    ((c.world.device d).state = .surpriseRemovePending →
      (c'.world.device d).state = .surpriseRemovePending ∨ (c'.world.device d).state = .deleted) ∧
    ((c.world.device d).state = .deleted →
      (c'.world.device d).lifecycle = (c.world.device d).lifecycle ∧
      (c'.world.device d).power = (c.world.device d).power ∧
      ∀ (b : DriverId) (k : Kind), (send b d k c'.world).Ends fun w s => s = .noSuchDevice ∧
        w.request c'.world.requests.size =
        { kind := k, status := .noSuchDevice, completed := true, signaled := true } ∧
        w.devices = c'.world.devices) := by
  have hs := h.sound
  have ho := (hs.sane.sound d).orderly
  have hs' := (h.trans h').sound
  have he := (Growth.agesAndGrows_of_steps h' h.ageing).1
  refine ⟨⟨hs.rested d, ho.current⟩, fun hd => ?_, fun hd => ?_, fun hd => ?_, fun hd => ?_⟩
  · -- only a device that runs is asked to stop
    have hp := ho.revocable (by rw [← Device.state, hd]; rfl)
    rw [← Device.state, hd] at hp
    cases hprev : (c.world.device d).lifecycle.previous <;> rw [hprev] at hp <;> first | rfl | cases hp
  · have hp := ho.rests (by rw [← Device.state, hd]; rfl)
    simpa only [List.mem_cons, List.not_mem_nil, or_false] using hp
  · have hsize : d < c.world.devices.size := World.IsDeparting.size (.inl (by rw [World.IsLeaving, hd]; rfl))
    rcases (he.device d hsize).lifecycle.of_surprise hd with hl | hl | hl
    · exact .inl hl
    · exact absurd hl (hs'.sane.sound d).orderly.current
    · exact .inr hl
  · have ha := he.device d (World.IsGone.size hd)
    exact ⟨ha.lifecycle.of_deleted hd, ha.power hd, fun b k => send_gone b k (ha.gone hd)⟩

def surprised : List Play := [
  .begin (.device (.create "A" "" (some 0))),
  .begin (.request (.send 0 (.pnp .startDevice) (some 0))),
  .begin (.request (.send 0 (.pnp .surpriseRemoval) (some 0)))]

theorem lifecycle_throughout_run_of_surprise :
    ∃ c c', Grows ⟨0, True, False⟩ c ∧ Relation.ReflTransGen (Growth ⟨0, True, False⟩) c c' ∧
      (c.world.device 0).state = .surpriseRemovePending ∧ (c'.world.device 0).state = .deleted ∧
      (send 0 0 (.pnp .startDevice) c'.world).Ends fun w s => s = .noSuchDevice ∧ w.devices = c'.world.devices := by
  have hp : ∀ p ∈ surprised, p.IsPermitted ⟨0, True, False⟩ := by
    simp [surprised, Play.IsPermitted, Command.IsPermitted]
  have hp' : ∀ p ∈ [Play.begin (.request (.send 0 (.pnp .removeDevice) (some 0)))],
      p.IsPermitted ⟨0, True, False⟩ := by
    simp [Play.IsPermitted, Command.IsPermitted]
  obtain ⟨c, hc, h⟩ := Reaches.of_play World.isFresh_initial hp
    (q := fun c => (c.world.device 0).state = .surpriseRemovePending &&
      (c.play [.begin (.request (.send 0 (.pnp .removeDevice) (some 0)))]).any fun c' =>
        (c'.world.device 0).state = .deleted) (by decide +kernel)
  rw [Bool.and_eq_true, decide_eq_true_eq] at h
  obtain ⟨c', hc', hd⟩ := (Option.any_eq_true _ _).mp h.2
  rw [decide_eq_true_eq] at hd
  have hturns : Relation.ReflTransGen (Growth ⟨0, True, False⟩) c c' :=
    (Turns.of_play hp' hc').lift id fun _ _ => .turn
  have hl := lifecycle_throughout_run hc.grows hturns 0
  have hl' := lifecycle_throughout_run (hc.grows.trans hturns) .refl 0
  refine ⟨c, c', hc.grows, hturns, h.1, (hl.2.2.2.1 h.1).resolve_left (by rw [hd]; decide), ?_⟩
  exact ((hl'.2.2.2.2 hd).2.2 0 _).imp fun w s h => ⟨h.1, h.2.2⟩

end PnpBus
