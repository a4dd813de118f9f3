import PnpBus.Proofs.Chronicles
import PnpBus.Proofs.Overflows
import PnpBus.Proofs.Rollback

/-!
# What an attachment comes to

An attachment reads the configuration, asks the device who it is and registers
a layer over it. Each of the three can fail, and what was done before is then
undone: the references that the questions took are back, and so is the claim.
-/

namespace PnpBus

variable {R : Regime} {u v w : World} {b : DriverId} {d x : DeviceId} {r : RequestId}

/-! ## Locks that lent a reference -/

/-- References were lent and are back. A lock at its limit has lost count, and one that lost count before is
latched. -/
def RemoveLock.Returned (m n : RemoveLock) : Prop :=
  n.draining = m.draining ∧ (m.count + 1 ≠ 0 → n.count = m.count ∧ (m.count ≠ 0 → n = m))

namespace RemoveLock.Returned

variable {l m n : RemoveLock}

theorem refl (m : RemoveLock) : m.Returned m := ⟨rfl, fun _ => ⟨rfl, fun _ => rfl⟩⟩

theorem trans (h : l.Returned m) (h' : m.Returned n) : l.Returned n := by
  refine ⟨h'.1.trans h.1, fun hl => ?_⟩
  obtain ⟨hc, he⟩ := h.2 hl
  obtain ⟨hc', he'⟩ := h'.2 (by rw [hc]; exact hl)
  exact ⟨hc'.trans hc, fun hz => (he' (by rw [hc]; exact hz)).trans (he hz)⟩

theorem giveBack (m : RemoveLock) : m.Returned m.lend.giveBack := by
  by_cases hl : m.count + 1 = 0
  -- the loan has wrapped the count, and there seems to be nothing to give back
  · have hr : m.lend.release? = none := if_pos hl
    rw [RemoveLock.giveBack, hr]
    exact ⟨rfl, fun h => absurd hl h⟩
  · have hr :
        m.lend.release? = some { m.lend with count := m.count + 1 - 1, latch := m.latch || m.count + 1 = 1 } :=
      if_neg hl
    rw [RemoveLock.giveBack, hr, Option.getD_some, UInt32.add_sub_cancel]
    refine ⟨rfl, fun _ => ⟨rfl, fun hz => ?_⟩⟩
    have h1 : ¬m.count + 1 = 1 := fun e => hz (by simpa using e)
    rw [decide_eq_false h1, Bool.or_false]
    rfl

end RemoveLock.Returned

/-! ## Asking a device who it is -/

/-- From `v` to `w` device `d` was asked who it is, and nothing has come of it but requests. -/
structure World.Consulted (d : DeviceId) (v w : World) : Prop where
  drivers : w.drivers.size = v.drivers.size
  driver : ∀ b, w.driver b = v.driver b
  size : w.devices.size = v.devices.size
  others : ∀ x ≠ d, w.device x = v.device x
  record : w.device d = { v.device d with lock := (w.device d).lock }
  lock : (v.device d).lock.Returned (w.device d).lock

namespace World

theorem Consulted.of_devices (hd : w.devices = v.devices) (hs : w.drivers.size = v.drivers.size)
    (hx : ∀ b, w.driver b = v.driver b) : v.Consulted d w := by
  have hd' (x : DeviceId) : w.device x = v.device x := by rw [device, device, hd]
  exact ⟨hs, hx, by rw [hd], fun x _ => hd' x, by rw [hd'], by rw [hd']; exact .refl _⟩

theorem Consulted.of_eq (hd : w.devices = v.devices) (hx : w.drivers = v.drivers) : v.Consulted d w :=
  .of_devices hd (by rw [hx]) fun b => by rw [World.driver, World.driver, hx]

theorem Consulted.trans (h : u.Consulted d v) (h' : v.Consulted d w) : u.Consulted d w where
  drivers := h'.drivers.trans h.drivers
  driver b := (h'.driver b).trans (h.driver b)
  size := h'.size.trans h.size
  others x hx := (h'.others x hx).trans (h.others x hx)
  record := by rw [h'.record, h.record]
  lock := h.lock.trans h'.lock

instance : Std.Refl (Consulted d) := ⟨fun _ => .of_eq rfl rfl⟩

instance : IsTrans World (Consulted d) := ⟨fun _ _ _ => .trans⟩

theorem drivers_complete (w : World) (r : RequestId) (s : Status) :
    (w.after (complete r s)).drivers = w.drivers := by
  rw [after_complete]
  split
  · rfl
  · exact (OnlyReleases.relinquish _ r).drivers

end World

structure World.Attends (w : World) (d : DeviceId) : Prop where
  size : d < w.devices.size
  physical : (w.device d).role = .physical
  present : (w.device d).state ≠ .deleted
  opened : (w.device d).lock.draining = false

theorem World.Consulted.attends (h : v.Consulted d w) (hv : v.Attends d) : w.Attends d where
  size := h.size ▸ hv.size
  physical := by rw [h.record]; exact hv.physical
  present := by rw [h.record]; exact hv.present
  opened := h.lock.1.trans hv.opened

theorem deliver_queryId_attends (t : IdType) (h : v.Attends d) :
    ∃ n : Notice, deliver b r (.pnp (.queryId t)) (.physical d) v = .via (v.take d r)
      (.done (((v.take d r).note n).updateRequest r fun q =>
        { q with information := answerId (v.device d).identity t }) .success) := by
  have ho : (v.device d).lock.draining ≠ true := by rw [h.opened]; nofun
  have hi : ((v.take d r).device d).identity = (v.device d).identity := by
    rw [World.take, World.setLock, World.device_updateRequest, World.device_updateDevice]
    split <;> rfl
  refine ⟨.physicalAsked (v.device d).identity.deviceId (.queryId t), ?_⟩
  rw [deliver, admitted_ok (enter_open r _ h.present ho), physical_pnp, hi]
  rw [← hi]
  rfl

/-- The device was entered, has answered and is left again. -/
theorem World.consulted_of_take {n : Notice} (hr : v.Knows r) (h : v.Attends d) (hq : (v.request r).locks = [])
    (ht : (v.request r).tickets = []) (hc : (v.request r).completed = false) (i : Information) (s : Status) :
    v.Consulted d ((((v.take d r).note n).updateRequest r fun q => { q with information := i }).after
      (complete r s)) := by
  have he := World.Entered.take h.size hr
  generalize hw : ((v.take d r).note n).updateRequest r (fun q => { q with information := i }) = w
  have hk : w.Knows r := by rw [← hw]; exact (knows_updateRequest ..).mpr (he.knows hr)
  have hwd (x : DeviceId) : w.device x = (v.take d r).device x := by rw [← hw]; rfl
  have hwr : w.request r = { v.request r with locks := [d], information := i } := by
    rw [← hw]
    refine (request_updateRequest ..).trans ((if_pos ⟨rfl, he.knows hr⟩).trans ?_)
    show { (v.take d r).request r with information := i } = _
    rw [he.request, hq]
    rfl
  have hsize : w.devices.size = v.devices.size := by rw [← hw]; exact he.devices
  have hlocks : (w.request r).locks = [d] := by rw [hwr]
  have hx (x : DeviceId) :=
    World.device_completeAll hk (by rw [hwr]; exact hc) (by rw [hwr]; exact ht) hlocks (by simp)
    (fun y hy => by rw [List.mem_singleton.mp hy, hsize]; exact h.size) s x
  have hothers (x : DeviceId) (hne : x ≠ d) : w.device x = v.device x := by
    rw [hwd, World.take, device_updateRequest, setLock, device_updateDevice, if_neg fun e => hne e.1]
  have hself : w.device d = { v.device d with lock := (v.device d).lock.lend } := by
    rw [hwd, World.take, device_updateRequest, setLock, device_updateDevice, if_pos ⟨rfl, h.size⟩]
    rfl
  have hdrivers : (w.after (complete r s)).drivers = v.drivers := by rw [drivers_complete, ← hw]; rfl
  refine ⟨by rw [hdrivers], fun b => by rw [driver, driver, hdrivers], ?_, fun x hne => ?_, ?_, ?_⟩
  · rw [← hsize]
    exact (Passing.complete (b := 0) w r s).sameStanding.size
  · rw [hx x, hothers x hne, if_neg (by simpa using hne)]
  · rw [hx d, hself]
  · rw [hx d, hself, if_pos (List.mem_singleton.mpr rfl)]
    exact .giveBack _

/-- A fresh question is answered and completed. -/
theorem dispatch_queryId_attends {t : IdType} (hr : v.Knows r) (hq : v.request r = { kind := .pnp (.queryId t) })
    (h : v.Attends d) : (dispatch b d r v).Ends fun w s => s = .success ∧ v.Consulted d w ∧
      (w.request r).information = answerId (v.device d).identity t := by
  obtain ⟨n, hn⟩ := deliver_queryId_attends (b := b) (r := r) t h
  have hk : (v.take d r).Knows r := (World.Entered.take h.size hr).knows hr
  have hw : ((((v.take d r).note n).updateRequest r fun q =>
      { q with information := answerId (v.device d).identity t }).request r).completed = false := by
    rw [World.request_updateRequest, if_pos ⟨rfl, hk⟩]
    show ((v.take d r).request r).completed = false
    rw [(World.Entered.take h.size hr).request, hq]
  have hs (w : World) : w.after (settle r .success) = w.after (complete r .success) :=
    congrArg Prod.snd (settle_of_ne r (by decide) w)
  rw [dispatch_apply, hq, World.stack_of_physical h.physical, hn]
  refine ⟨rfl, ?_, ?_⟩
  · rw [hs]
    exact World.consulted_of_take hr h (by rw [hq]) (by rw [hq]) (by rw [hq]) _ _
  · rw [World.information_settle hw, World.request_updateRequest, if_pos ⟨rfl, hk⟩]

theorem queryId_attends {t : IdType} {s : String} (h : v.Attends d)
    (hid : answerId (v.device d).identity t = .id s) :
    ((queryId b d t).run v).Ends fun w a => a = .ok s ∧ v.Consulted d w := by
  have ha : (v.ask (.pnp (.queryId t))).Attends d := ⟨h.size, h.physical, h.present, h.opened⟩
  rw [queryId, Call.run_bind]
  show Run.Ends _ ((do
    let answered ← (dispatch b d v.requests.size : Call Status)
    let status ← if answered = .pending then waitForCompletion v.requests.size else pure answered
    takeId v.requests.size status : ExceptT Status Call String).run (v.ask (.pnp (.queryId t))))
  rw [Call.run_bind, Call.run_call, Run.bind_assoc]
  refine (dispatch_queryId_attends (knows_ask v _) (request_ask v _) ha).bind ?_
  rintro w _ ⟨rfl, hw, hi⟩
  have hasked : v.Consulted d (v.ask (.pnp (.queryId t))) := .of_eq rfl rfl
  have htaken : w.Consulted d (w.updateRequest v.requests.size fun q => { q with information := .none }) :=
    .of_eq rfl rfl
  show ((takeId v.requests.size .success).run w).1 = .ok s ∧
      v.Consulted d ((takeId v.requests.size .success).run w).2
  rw [takeId_told (hi.trans hid)]
  exact ⟨rfl, hasked.trans (hw.trans htaken)⟩

/-- The device attends, so that its identity decides. -/
theorem arbitrate_attends (h : v.Attends d) (selection : Option Selection) :
    ((arbitrate selection (queryId b d)).run v).Ends fun w a =>
      a = .ok (selection.any (·.names (v.device d).identity)) ∧ v.Consulted d w := by
  cases selection with
  | none => exact ⟨rfl, .of_eq rfl rfl⟩
  | some s =>
    rw [arbitrate, Call.run_bind]
    refine (queryId_attends h rfl).bind ?_
    rintro w _ ⟨rfl, hw⟩
    show Run.Ends _ ((queryId b d .instanceId >>= _ : ExceptT Status Call Bool).run w)
    rw [Call.run_bind]
    refine (queryId_attends (hw.attends h) rfl).bind ?_
    rintro u _ ⟨rfl, hu⟩
    refine ⟨?_, hw.trans hu⟩
    rw [hw.record]
    rfl

/-! ## What the configuration says -/

def Data.isText : Data → Bool
  | .str _ => true
  | _ => false

namespace Key

def isMalformed (k : Key) : Bool :=
  match k.values.get? activeDeviceId with
  | none => false
  | some x => !x.isText || (k.values.get? activeInstanceId).any (!·.isText)

def selection? (k : Key) : Option Selection :=
  match k.values.get? activeDeviceId, k.values.get? activeInstanceId with
  | some (.str deviceId), some (.str instanceId) => some ⟨deviceId, instanceId⟩
  | _, _ => none

theorem selection?_eq_some {k : Key} {s : Selection} : k.selection? = some s ↔
    k.values.get? activeDeviceId = some (.str s.deviceId) ∧
      k.values.get? activeInstanceId = some (.str s.instanceId) := by
  rw [selection?]
  constructor
  · intro h
    split at h
    next hd hi =>
      cases h
      exact ⟨hd, hi⟩
    next => cases h
  · rintro ⟨hd, hi⟩
    rw [hd, hi]

end Key

section
variable {path name : String} {k : Key}

theorem readText_missing (hf : w.store.faults = {}) (hk : w.store.tree.find? path = none) (name : String) :
    ((readText path name).run w).1 = .error .notFound := by
  have hg : w.store.getValue path name = .error .keyNotFound := by
    rw [Store.getValue, hf, KeyTree.getValue, hk]
    rfl
  simp only [readText, Act.run_bind, Act.run_get, hg]
  rfl

theorem readText_found (hf : w.store.faults = {}) (hk : w.store.tree.find? path = some k) (name : String) :
    ((readText path name).run w).1 = match k.values.get? name with
      | none => .ok none
      | some (.str s) => .ok (some s)
      | some _ => .error .badFormat := by
  have hg : w.store.getValue path name = match k.values.get? name with
      | none => .error .valueNotFound
      | some d => .ok d := by
    rw [Store.getValue, hf, KeyTree.getValue, hk]
    rfl
  simp only [readText, Act.run_bind, Act.run_get, hg]
  cases k.values.get? name with
  | none => rfl
  | some x => cases x <;> rfl

theorem readSelection_missing (hf : w.store.faults = {}) (hk : w.store.tree.find? path = none) :
    ((readSelection path).run w).1 = .error .notFound := by
  have hr := readText_missing hf hk activeDeviceId
  rw [readSelection, Act.run_bind]
  rcases hx : (readText path activeDeviceId).run w with ⟨x, w'⟩
  rw [hx] at hr
  cases hr
  rfl

theorem readSelection_found (hf : w.store.faults = {}) (hk : w.store.tree.find? path = some k) :
    ((readSelection path).run w).1 = if k.isMalformed then .error .badFormat else .ok k.selection? := by
  have hr := readText_found hf hk activeDeviceId
  have hs := ((readText_consults path activeDeviceId) w w rfl).2
  rw [readSelection, Act.run_bind, Key.isMalformed, Key.selection?]
  rcases hx : (readText path activeDeviceId).run w with ⟨x, w'⟩
  rw [hx] at hr hs
  cases (show x = _ from hr)
  cases hd : k.values.get? activeDeviceId with
  | none => rfl
  | some x =>
    cases x with
    | str deviceId =>
      have hi := readText_found (w := w') (by rw [hs]; exact hf) (by rw [hs]; exact hk) activeInstanceId
      dsimp only
      rw [Act.run_bind]
      rcases hx : (readText path activeInstanceId).run w' with ⟨x, w''⟩
      rw [hx] at hi
      cases (show x = _ from hi)
      cases hi : k.values.get? activeInstanceId with
      | none => rfl
      | some x => cases x <;> rfl
    | _ => rfl

end

/-! ## Attaching -/

namespace World

def parameters? (w : World) (b : DriverId) : Option Key := w.store.tree.find? (parametersKey (w.driver b).service)

/-- How an attachment to `d` ends if the device attends. -/
def attachment (w : World) (b : DriverId) (d : DeviceId) : Except Status DeviceId :=
  match w.parameters? b with
  | none => .error .notFound
  | some k =>
    if k.isMalformed then .error .badFormat
    else if (w.lookup b ⟨(w.device d).identity, .functional⟩).isSome then .error .alreadyExists
    else .ok w.devices.size

theorem attachment_ok {f : DeviceId} (h : w.attachment b d = .ok f) : f = w.devices.size := by
  unfold attachment at h
  split at h
  · cases h
  · split at h
    · cases h
    · split at h <;> cases h
      rfl

def Overlaid (b : DriverId) (d : DeviceId) (matched : Bool) (v w : World) : Prop :=
  ∃ u, v.Consulted d u ∧ w.devices = ((u.overlay b d matched).after (finishCreation v.devices.size)).devices ∧
    w.drivers = (u.overlay b d matched).drivers

theorem Consulted.lookup (h : v.Consulted d w) (key : DeviceKey) : w.lookup b key = v.lookup b key := by
  rw [World.lookup, World.lookup, h.driver]

end World

/-- Registering is the last step that can fail, and it leaves nothing behind if it does. -/
theorem attachOver_attends (h : v.Consulted d w) (hv : v.Attends d) (matched : Bool) :
    (∃ x, v.lookup b ⟨(v.device d).identity, .functional⟩ = some x ∧ ∃ u,
      (attachOver b (v.device d).identity d matched).run w = (.error .alreadyExists, u) ∧ v.Consulted d u) ∨
    (v.lookup b ⟨(v.device d).identity, .functional⟩ = none ∧ ∃ u,
      (attachOver b (v.device d).identity d matched).run w = (.ok v.devices.size, u) ∧
      v.Overlaid b d matched u) := by
  have hi : (w.device d).identity = (v.device d).identity := by rw [h.record]
  rw [← h.lookup (b := b), ← hi]
  cases hl : w.lookup b ⟨(w.device d).identity, .functional⟩ with
  | some x =>
    obtain ⟨u, hu, hd, hs, hx⟩ := attachOver_error (d := d) matched (by rw [hl]; rfl)
    exact .inl ⟨x, rfl, u, hu, h.trans (.of_devices hd hs hx)⟩
  | none =>
    obtain ⟨u, hu, hd, hx⟩ := attachOver_ok (h.attends hv).physical matched hl
    rw [h.size] at hu hd
    exact .inr ⟨rfl, u, hu, w, h, hd, hx⟩

theorem attachDevice_attends (hf : v.store.faults = {}) (hm : (v.driver b).mode = .operational) (h : v.Attends d) :
    ((attachDevice b d).run v).Ends fun w a => a = (v.attachment b d).map some ∧
      match v.attachment b d with
      | .error _ => v.Consulted d w
      | .ok _ =>
        v.Overlaid b d (((v.parameters? b).bind Key.selection?).any (·.names (v.device d).identity)) w := by
  have hm' : ((v.note .entered).driver b).mode = .operational := hm
  have hp' : ((v.note .entered).device d).role = .physical := h.physical
  simp only [attachDevice, Call.run_bind, Call.run_act, Act.notify_apply, Act.device_apply, Act.driver_apply,
    World.after, Run.bind, if_pos hm', if_pos hp', Call.run_lift]
  have hn : v.Consulted d (v.note .entered) := .of_eq rfl rfl
  have hsame : ((v.note .entered).driver b).service = (v.driver b).service := rfl
  rw [hsame]
  have hread : ((readSelection (parametersKey (v.driver b).service)).run (v.note .entered)).1 =
      match v.parameters? b with
      | none => .error .notFound
      | some k => if k.isMalformed then .error .badFormat else .ok k.selection? := by
    cases hk : v.parameters? b with
    | none => exact readSelection_missing hf hk
    | some k => exact readSelection_found hf hk
  have hcons := World.of_steps (readSelection_goes (S := World.Consulted d) (fun _ _ _ => .of_eq rfl rfl)
    (parametersKey (v.driver b).service) (v.note .entered))
  rw [World.after] at hcons
  rw [World.attachment]
  rcases hsel : (readSelection (parametersKey (v.driver b).service)).run (v.note .entered) with ⟨a, v₁⟩
  rw [hsel] at hread hcons
  cases (show a = _ from hread)
  replace hcons := hn.trans hcons
  cases v.parameters? b with
  | none => exact ⟨rfl, hcons⟩
  | some k =>
    dsimp only
    cases hk : k.isMalformed with
    | true => exact ⟨rfl, hcons⟩
    | false =>
      simp only [Bool.false_eq_true, if_false, Option.bind_some]
      refine (arbitrate_attends (hcons.attends h) k.selection?).bind ?_
      rintro v₂ _ ⟨rfl, hv₂⟩
      have hv₂ := hcons.trans hv₂
      have hi : (v₁.device d).identity = (v.device d).identity := by rw [hcons.record]
      have hj : ((v.note .entered).device d).identity = (v.device d).identity := rfl
      dsimp only
      rw [hi, hj]
      -- whether the key is free was decided before the claim was touched
      obtain ⟨x, hl, u, hu, hcu⟩ | ⟨hl, u, hu, hou⟩ :=
        attachOver_attends (b := b) hv₂ h (k.selection?.any (·.names (v.device d).identity))
      · rw [hl]
        simp only [hu]
        exact ⟨rfl, hcu⟩
      · rw [hl]
        simp only [hu]
        exact ⟨rfl, hou⟩

def Device.over (identity : Identity) (d : DeviceId) (active : Bool) : Device where
  identity
  extension := .functional { lower := .physical d, active }
  flags := 0

/-- The layer is new, and what else there is stays as it was or was only asked. -/
theorem World.Overlaid.spec {matched : Bool} (h : v.Overlaid b d matched w) (hb : b < v.drivers.size) :
    w.device v.devices.size = .over (v.device d).identity d (matched && !(v.driver b).activeClaimed) ∧
    ∀ key, w.lookup b key =
      if key = ⟨(v.device d).identity, .functional⟩ then some v.devices.size else v.lookup b key := by
  obtain ⟨u, hu, hd, hx⟩ := h
  have hs : (if matched then u.after (setClaim b true) else u).devices.size = v.devices.size := by
    rw [← hu.size]
    split <;> rfl
  have hi : (u.device d).identity = (v.device d).identity := by rw [hu.record]
  have hflags : Flags.initializing &&& ~~~Flags.initializing = 0 := by decide
  constructor
  · rw [World.device, hd]
    show World.device ((u.overlay b d matched).updateDevice _ _) _ = _
    have hnew : v.devices.size < (u.overlay b d matched).devices.size := by
      rw [overlay, size_enroll, hs]
      exact Nat.lt_succ_self _
    rw [device_updateDevice, if_pos ⟨rfl, hnew⟩, overlay, device_enroll, if_pos hs.symm, hu.driver, hi]
    show Device.mk _ _ _ _ (Flags.initializing &&& ~~~Flags.initializing) _ = _
    rw [hflags]
    rfl
  · intro key
    have hb' : b < (if matched then u.after (setClaim b true) else u).drivers.size := by
      rw [← hu.drivers] at hb
      split
      · exact (u.size_updateDriver b _).symm ▸ hb
      · exact hb
    have hl : (if matched then u.after (setClaim b true) else u).lookup b key = v.lookup b key := by
      rw [← hu.lookup]
      split
      · exact u.lookup_setClaim b true key
      · rfl
    rw [World.lookup, World.driver, hx]
    show (u.overlay b d matched).lookup b key = _
    rw [World.overlay, lookup_enroll hb', hs, hi, hl]
    rfl

/-! ## Throughout the life of a driver -/

theorem Config.Sound.attends {c : Config} (h : c.Sound R) (hp : (c.world.device d).role = .physical)
    (hr : c.world.lookup R.driver (c.world.device d).key = some d) (ho : (c.world.device d).lock.draining = false) :
    c.world.Attends d := by
  have hd := (h.sane.entries _ d hr).1
  exact ⟨hd, hp, (h.sane.registered d hd).mp hr, ho⟩

theorem Config.Sound.count_ne_zero {c : Config} (h : c.Sound R) (hb : R.bounded)
    (ho : (c.world.device d).lock.draining = false) : (c.world.device d).lock.count ≠ 0 := by
  intro hz
  have hc := ((h.balanced hb).locks d).count
  rw [ho, hz] at hc
  simp at hc

/-- What driver `b` has selected is this device. -/
theorem World.any_selection? {k? : Option Key} {identity : Identity} :
    (k?.bind Key.selection?).any (·.names identity) = true ↔ ∃ k deviceId instanceId, k? = some k ∧
      k.values.get? activeDeviceId = some (.str deviceId) ∧
      k.values.get? activeInstanceId = some (.str instanceId) ∧
      Text.sameIgnoringCase identity.deviceId deviceId = true ∧
      Text.sameIgnoringCase identity.instanceId instanceId = true := by
  rw [Option.any_eq_true]
  constructor
  · rintro ⟨s, hs, hn⟩
    obtain ⟨k, hk, hs⟩ := Option.bind_eq_some_iff.mp hs
    obtain ⟨hd, hi⟩ := Key.selection?_eq_some.mp hs
    rw [Selection.names, Bool.and_eq_true] at hn
    exact ⟨k, _, _, hk, hd, hi, hn⟩
  · rintro ⟨k, deviceId, instanceId, hk, hd, hi, hn⟩
    refine ⟨⟨deviceId, instanceId⟩, Option.bind_eq_some_iff.mpr ⟨k, hk, Key.selection?_eq_some.mpr ⟨hd, hi⟩⟩, ?_⟩
    rw [Selection.names, Bool.and_eq_true]
    exact hn

theorem Chronicle.claim_free {l : Logbook} {es : List Event} (h : Chronicle R l es) :
    (l.world.driver R.driver).activeClaimed = false ↔ ∀ e ∈ es, e.activates = false := by
  have hc := h.claims
  cases hcl : (l.world.driver R.driver).activeClaimed with
  | false =>
    rw [hcl] at hc
    refine ⟨fun _ e he => ?_, fun _ => rfl⟩
    exact Bool.not_eq_true _ ▸ List.countP_eq_zero.mp hc e he
  | true =>
    rw [hcl] at hc
    refine ⟨nofun, fun hn => ?_⟩
    rw [List.countP_eq_zero.mpr fun e he => by rw [hn e he]; nofun] at hc
    cases hc

/-- Whatever the configuration says, an attachment of an operational driver to a registered device that is neither
deleted nor draining fails for one of three reasons, in this order, or registers a new layer. The layer is active if
the configuration names the device and nothing active was attached before. A failure leaves registries, claims and
devices as they were, and no reference is missing, provided that the lock of the device could count one more. -/
theorem attachment_is_decided {l : Logbook} {es : List Event} (h : Chronicle R l es)
    (hf : l.world.store.faults = {})
    (hm : (l.world.driver R.driver).mode = .operational) (hp : (l.world.device d).role = .physical)
    (hr : l.world.lookup R.driver (l.world.device d).key = some d) (ho : (l.world.device d).lock.draining = false) :
    ((attachDevice R.driver d).run l.world).Ends fun w a =>
      a = (l.world.attachment R.driver d).map some ∧
      (∀ e, a = .error e → (∀ b, w.driver b = l.world.driver b) ∧ w.devices.size = l.world.devices.size ∧
        (∀ x ≠ d, w.device x = l.world.device x) ∧
        w.device d = { l.world.device d with lock := (w.device d).lock } ∧
        ((l.world.device d).lock.count + 1 ≠ 0 → (w.device d).lock.count = (l.world.device d).lock.count ∧
          (R.bounded → w.device d = l.world.device d))) ∧
      ∀ f, a = .ok f → f = some l.world.devices.size ∧
        (∀ key, w.lookup R.driver key = if key = ⟨(l.world.device d).identity, .functional⟩
          then some l.world.devices.size else l.world.lookup R.driver key) ∧
        ∃ active, w.device l.world.devices.size = .over (l.world.device d).identity d active ∧
          (w.device l.world.devices.size).state = .added ∧
          (active = true ↔ (∃ k deviceId instanceId, l.world.parameters? R.driver = some k ∧
            k.values.get? activeDeviceId = some (.str deviceId) ∧
            k.values.get? activeInstanceId = some (.str instanceId) ∧
            Text.sameIgnoringCase (l.world.device d).identity.deviceId deviceId = true ∧
            Text.sameIgnoringCase (l.world.device d).identity.instanceId instanceId = true) ∧
            ∀ e ∈ es, e.activates = false) := by
  have hs := h.sound
  refine (attachDevice_attends hf hm (hs.attends hp hr ho)).imp ?_
  rintro w _ ⟨rfl, hw⟩
  refine ⟨rfl, fun e he => ?_, fun f hf => ?_⟩
  · cases ha : l.world.attachment R.driver d with
    | ok f => rw [ha] at he; cases he
    | error e =>
      rw [ha] at hw
      refine ⟨hw.driver, hw.size, hw.others, hw.record, fun hl => ⟨(hw.lock.2 hl).1, fun hb => ?_⟩⟩
      rw [hw.record, (hw.lock.2 hl).2 (hs.count_ne_zero hb ho)]
  · cases ha : l.world.attachment R.driver d with
    | error e => rw [ha] at hf; cases hf
    | ok f' =>
      rw [ha] at hw hf
      have hf' : f' = l.world.devices.size := World.attachment_ok ha
      cases hf
      obtain ⟨hd, hl⟩ := hw.spec hs.sane.driver
      refine ⟨by rw [hf'], hl, _, hd, by rw [hd]; rfl, ?_⟩
      rw [Bool.and_eq_true, World.any_selection?, Bool.not_eq_true', h.claim_free]

instance decidableEqExcept {ε α : Type} [DecidableEq ε] [DecidableEq α] : DecidableEq (Except ε α)
  | .ok a, .ok b => decidable_of_iff (a = b) (by simp)
  | .error e, .error e' => decidable_of_iff (e = e') (by simp)
  | .ok _, .error _ | .error _, .ok _ => .isFalse (by simp)

def attachedOnce : List Scene := [
  .play (.begin (.device (.create "A" "" (some 0)))),
  .play (.begin (.device (.attach 0 (some 0))))]

/-- A second layer is refused although the configuration still names the device, and the claim stays with the
first. -/
theorem attachment_is_decided_of_once : ∃ l es, Chronicle ⟨0, True, False⟩ l es ∧
    (l.world.driver 0).activeClaimed = true ∧ ((attachDevice 0 0).run l.world).Ends fun w a =>
      a = .error .alreadyExists ∧ w.driver 0 = l.world.driver 0 ∧ w.device 0 = l.world.device 0 := by
  obtain ⟨l, es, h, hq⟩ := Chronicle.of_enact (R := ⟨0, True, False⟩) (s := attachedOnce) World.isFresh_initial rfl
    (by simp [attachedOnce, Scene.IsPermitted, Play.IsPermitted, Command.IsPermitted])
    (q := fun x => decide (x.1.world.store.faults.reads.isEmpty ∧ x.1.world.store.faults.writes.isEmpty ∧
      x.1.world.store.faults.creates.isEmpty ∧ (x.1.world.driver 0).mode = .operational ∧
      (x.1.world.device 0).role = .physical ∧ x.1.world.lookup 0 (x.1.world.device 0).key = some 0 ∧
      (x.1.world.device 0).lock = {} ∧ (x.1.world.driver 0).activeClaimed = true ∧
      x.1.world.attachment 0 0 = .error .alreadyExists)) (by decide +kernel)
  rw [decide_eq_true_eq] at hq
  obtain ⟨hr, hw, hc, hm, hp, hl, ho, ha, hx⟩ := hq
  have hf : l.world.store.faults = {} := by
    rcases hs : l.world.store.faults with ⟨reads, writes, creates⟩
    rw [hs] at hr hw hc
    cases (List.isEmpty_iff.mp hr : reads = [])
    cases (List.isEmpty_iff.mp hw : writes = [])
    cases (List.isEmpty_iff.mp hc : creates = [])
    rfl
  refine ⟨l, es, h, ha, (attachment_is_decided (R := ⟨0, True, False⟩) h hf hm hp hl (by rw [ho])).imp ?_⟩
  rintro w _ ⟨rfl, he, -⟩
  rw [hx] at he ⊢
  obtain ⟨hd, -, -, -, hlock⟩ := he _ rfl
  exact ⟨rfl, hd 0, (hlock (by rw [ho]; decide)).2 trivial⟩

/-- A layer is attached to a device, to which clients have as many references then as its lock can count. -/
def World.crowdedAttached : World := (World.initial.played [
  .begin (.device (.create "A" "" (some 0))),
  .begin (.device (.attach 0 (some 0)))]).takeTokens 0 (2 ^ 32 - 2)

/-- The device has an active layer that no attachment has put there. -/
def World.registeredActive : World := World.initial.played [
  .begin (.device (.create "A" "" (some 0))),
  .begin (.device (.register "X" "" (some 0) true none (some 0)))]

/-- An attachment that is refused takes one reference more than the lock of the device can count, and the count
comes round to zero. One that is not refused does not ask for active layers that it has not put there itself. -/
theorem refused_attachment_loses_references :
    (Reaches (.free 0) ⟨.crowdedAttached, []⟩ ∧ (World.crowdedAttached.driver 0).mode = .operational ∧
      (World.crowdedAttached.device 0).role = .physical ∧ (World.crowdedAttached.device 0).state ≠ .deleted ∧
      World.crowdedAttached.lookup 0 (World.crowdedAttached.device 0).key = some 0 ∧
      (World.crowdedAttached.device 0).lock.draining = false ∧
      (World.crowdedAttached.device 0).lock.outstanding.toNat = 2 ^ 32 - 2 ∧
      ((attachDevice 0 0).run World.crowdedAttached).Ends fun w a =>
        a = .error .alreadyExists ∧ (w.device 0).lock.outstanding = 0) ∧
    (World.registeredActive.device 1).layer?.any (·.active) = true ∧
      ((attachDevice 0 0).run World.registeredActive).Ends fun w a =>
        a = .ok (some 2) ∧ (w.device 1).layer?.any (·.active) = true ∧
        (w.device 2).layer?.any (·.active) = true := by
  have h : Reaches (.free 0) ⟨.crowdedAttached, []⟩ := by
    refine .takeTokens (.played World.isFresh_initial ?_ (by decide +kernel)) (by decide +kernel)
      (by decide +kernel) _
    simp [Play.IsPermitted, Command.IsPermitted, Regime.free]
  refine ⟨⟨h, ?_⟩, ?_⟩ <;> decide +kernel

end PnpBus
