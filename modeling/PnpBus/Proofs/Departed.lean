import PnpBus.Proofs.Inquiries
import PnpBus.Proofs.Transparency

/-!
# Attachments to devices that are gone

A deleted device refuses every request, so an attachment that asks it who it
is comes to nothing. But it is asked only if the configuration names some
device. Otherwise nothing on the way looks at the state of the device, and a
layer is put over it as over any other.
-/

namespace PnpBus

variable {b : DriverId} {d : DeviceId} {r : RequestId} {k : Kind} {u v w : World}

/-! ## Asking a device that is gone -/

/-- Whatever happened between `v` and `w`, every driver and every device is as it was. -/
structure World.SameRecords (v w : World) : Prop where
  drivers : w.drivers.size = v.drivers.size
  driver : ∀ x, w.driver x = v.driver x
  size : w.devices.size = v.devices.size
  device : ∀ x, w.device x = v.device x

namespace World.SameRecords

theorem of_eq (hd : w.devices = v.devices) (hx : w.drivers = v.drivers) : v.SameRecords w where
  drivers := by rw [hx]
  driver x := by rw [World.driver, World.driver, hx]
  size := by rw [hd]
  device x := by rw [World.device, World.device, hd]

theorem trans (h : u.SameRecords v) (h' : v.SameRecords w) : u.SameRecords w where
  drivers := h'.drivers.trans h.drivers
  driver x := (h'.driver x).trans (h.driver x)
  size := h'.size.trans h.size
  device x := (h'.device x).trans (h.device x)

instance : Std.Refl SameRecords := ⟨fun _ => .of_eq rfl rfl⟩

instance : IsTrans World SameRecords := ⟨fun _ _ _ => trans⟩

theorem lookup (h : v.SameRecords w) (key : DeviceKey) : w.lookup b key = v.lookup b key := by
  rw [World.lookup, World.lookup, h.driver]

end World.SameRecords

open World (SameRecords)

theorem dispatch_gone (hr : w.Knows r) (hq : w.request r = { kind := k }) (hd : (w.device d).state = .deleted) :
    (dispatch b d r w).Ends fun u s => s = .noSuchDevice ∧ w.SameRecords u := by
  obtain ⟨n, hn⟩ := deliver_gone (b := b) (r := r) k (w.stack d) (by rwa [w.top_stack])
  rw [dispatch_apply, hq, hn]
  have hsettle : (w.note n).after (settle r .noSuchDevice) = (w.note n).after (complete r .noSuchDevice) :=
    congrArg Prod.snd (settle_of_ne r (by decide) (w.note n))
  refine ⟨rfl, ?_⟩
  rw [hsettle]
  -- the request holds nothing that its completion could give back
  obtain ⟨-, -, hx⟩ := (World.Visited.note w n).completed hq hr List.nodup_nil nofun .noSuchDevice
  have hdrivers := World.drivers_complete (w.note n) r .noSuchDevice
  refine ⟨by rw [hdrivers]; rfl, fun x => by rw [World.driver, hdrivers]; rfl, ?_, fun x => ?_⟩
  · exact (World.Passing.complete (b := b) (w.note n) r .noSuchDevice).sameStanding.size
  · rw [hx x, if_neg List.not_mem_nil]
    rfl

theorem queryId_gone (b : DriverId) (i : IdType) (hd : (w.device d).state = .deleted) :
    ((queryId b d i).run w).Ends fun u a => a = .error .noSuchDevice ∧ w.SameRecords u := by
  rw [queryId_prompt, Call.run_bind]
  show Run.Ends _ ((do takeId w.requests.size (← dispatch b d w.requests.size) :
    ExceptT Status Call String).run (w.ask (.pnp (.queryId i))))
  have hasked : w.SameRecords (w.ask (.pnp (.queryId i))) := .of_eq rfl rfl
  rw [Call.run_bind, Call.run_call, Run.bind_assoc]
  refine (dispatch_gone (knows_ask w _) (request_ask w _) hd).bind ?_
  rintro u _ ⟨rfl, hu⟩
  exact ⟨rfl, hasked.trans hu⟩

theorem arbitrate_gone (b : DriverId) (selection : Option Selection) (hd : (w.device d).state = .deleted) :
    ((arbitrate selection (queryId b d)).run w).Ends fun u a =>
      a = (if selection.isSome then .error .noSuchDevice else .ok false) ∧ w.SameRecords u := by
  cases selection with
  | none => exact ⟨rfl, .of_eq rfl rfl⟩
  | some s =>
    rw [arbitrate, Call.run_bind]
    refine (queryId_gone b .deviceId hd).bind ?_
    rintro u _ ⟨rfl, hu⟩
    exact ⟨rfl, hu⟩

/-! ## Attaching to it -/

namespace World

/-- How an attachment to `d` ends if `d` is gone. -/
def lateAttachment (w : World) (b : DriverId) (d : DeviceId) : Except Status (Option DeviceId) :=
  match w.selection? b with
  | .error e => .error e
  | .ok (some _) => .error .noSuchDevice
  | .ok none =>
    if (w.lookup b ⟨(w.device d).identity, .functional⟩).isSome then .error .alreadyExists
    else .ok (some w.devices.size)

/-- There is one more device now, an inactive layer over `d` that driver `b` has registered, and that is all. -/
structure Capped (b : DriverId) (d : DeviceId) (v w : World) : Prop where
  size : w.devices.size = v.devices.size + 1
  layer : w.device v.devices.size = .over (v.device d).identity d false
  others : ∀ x, x ≠ v.devices.size → w.device x = v.device x
  lookup : ∀ key, w.lookup b key =
    if key = ⟨(v.device d).identity, .functional⟩ then some v.devices.size else v.lookup b key
  claim : (w.driver b).activeClaimed = (v.driver b).activeClaimed

theorem Capped.of_sameRecords (h : v.SameRecords u) (hw : u.Capped b d w) : v.Capped b d w where
  size := by rw [hw.size, h.size]
  layer := by rw [← h.size, hw.layer, h.device]
  others x hx := by rw [hw.others x (by rwa [h.size]), h.device]
  lookup key := by rw [hw.lookup, h.device, h.size, h.lookup]
  claim := by rw [hw.claim, h.driver]

theorem Capped.extend (h : v.Capped b d u) (hw : u.SameRecords w) : v.Capped b d w where
  size := by rw [hw.size, h.size]
  layer := by rw [hw.device, h.layer]
  others x hx := by rw [hw.device, h.others x hx]
  lookup key := by rw [hw.lookup, h.lookup]
  claim := by rw [hw.driver, h.claim]

theorem Capped.of_overlay (hb : b < w.drivers.size)
    (hd : u.devices = ((w.overlay b d false).after (finishCreation w.devices.size)).devices)
    (hx : u.drivers = (w.overlay b d false).drivers) : w.Capped b d u := by
  have hconsulted : w.Consulted d w := .of_eq rfl rfl
  have hoverlaid : w.Overlaid b d false u := ⟨w, hconsulted, hd, hx⟩
  obtain ⟨hlayer, hlookup⟩ := hoverlaid.spec hb
  have hsize : (w.overlay b d false).devices.size = w.devices.size + 1 := by
    simp only [overlay, Bool.false_eq_true, if_false, size_enroll]
  constructor
  case size =>
    rw [hd]
    exact (size_updateDevice ..).trans hsize
  case layer => exact hlayer
  case others =>
    intro x hne
    rw [World.device, hd]
    show ((w.overlay b d false).updateDevice w.devices.size _).device x = _
    rw [device_updateDevice, if_neg fun h => hne h.1]
    simp only [overlay, Bool.false_eq_true, if_false]
    rw [device_enroll, if_neg hne]
  case lookup => exact hlookup
  case claim =>
    rw [World.driver, hx]
    exact (w.standing_overlay d false hb).2

end World

theorem readSelection_sameRecords (b : DriverId) (w : World) :
    ∃ u, (readSelection (parametersKey (w.driver b).service)).run (w.note .entered) = (w.selection? b, u) ∧
      w.SameRecords u := by
  have hentered : w.SameRecords (w.note .entered) := .of_eq rfl rfl
  have hread := (readSelection_consults (parametersKey (w.driver b).service) w (w.note .entered) rfl).1
  have hsteps := readSelection_goes (S := SameRecords) (fun _ _ _ => .of_eq rfl rfl)
    (parametersKey (w.driver b).service) (w.note .entered)
  refine ⟨(w.note .entered).after (readSelection (parametersKey (w.driver b).service)).run, ?_, ?_⟩
  · exact Prod.ext hread rfl
  · exact hentered.trans (World.of_steps hsteps)

/-- Nothing but another layer of the same name is in the way of an inactive layer. -/
theorem attachOver_inactive (hb : b < w.drivers.size) (hp : (w.device d).role = .physical) (h : w.SameRecords v) :
    ∃ a u, (attachOver b (w.device d).identity d false).run v = (a, u) ∧
      match w.lookup b ⟨(w.device d).identity, .functional⟩ with
      | some _ => a = .error .alreadyExists ∧ w.SameRecords u
      | none => a = .ok w.devices.size ∧ w.Capped b d u := by
  rw [← h.device, ← h.lookup, ← h.size]
  cases hl : v.lookup b ⟨(v.device d).identity, .functional⟩ with
  | some f =>
    obtain ⟨u, hu, hud, hus, hux⟩ := attachOver_error (d := d) false (by rw [hl]; rfl)
    have hv : v.SameRecords u := ⟨hus, hux, by rw [hud], fun x => by rw [World.device, World.device, hud]⟩
    exact ⟨_, u, hu, rfl, h.trans hv⟩
  | none =>
    have hpv : (v.device d).role = .physical := by rw [h.device, hp]
    obtain ⟨u, hu, hud, hux⟩ := attachOver_ok hpv false hl
    exact ⟨_, u, hu, rfl, .of_sameRecords h (.of_overlay (h.drivers ▸ hb) hud hux)⟩

/-- A driver that attaches asks the configuration first. What a device that is gone says to that settles the matter
only if there is something to ask it. -/
theorem attachment_to_departed (hb : b < w.drivers.size) (hm : (w.driver b).mode = .operational)
    (hp : (w.device d).role = .physical) (hd : (w.device d).state = .deleted) :
    ((attachDevice b d).run w).Ends fun u a => a = w.lateAttachment b d ∧
      match a with
      | .error _ => w.SameRecords u
      | .ok f => f = some w.devices.size ∧ w.Capped b d u := by
  have hm' : ((w.note .entered).driver b).mode = .operational := hm
  have hp' : ((w.note .entered).device d).role = .physical := hp
  have hservice : ((w.note .entered).driver b).service = (w.driver b).service := rfl
  have hidentity : ((w.note .entered).device d).identity = (w.device d).identity := rfl
  obtain ⟨v, hread, hv⟩ := readSelection_sameRecords b w
  simp only [attachDevice, Call.run_bind, Call.run_act, Act.notify_apply, Act.device_apply, Act.driver_apply,
    World.after, Run.bind, if_pos hm', if_pos hp', Call.run_lift, hservice, hidentity, hread]
  cases hs : w.selection? b with
  | error e =>
    simp only [Run.Ends, World.lateAttachment, hs, true_and]
    exact hv
  | ok selection =>
    refine (arbitrate_gone b selection (by rw [hv.device]; exact hd)).bind ?_
    rintro u _ ⟨rfl, hu⟩
    replace hu := hv.trans hu
    cases selection with
    | some s =>
      simp only [Option.isSome_some, if_true, Run.Ends, World.lateAttachment, hs, true_and]
      exact hu
    | none =>
      -- nobody was asked
      simp only [Option.isSome_none, Bool.false_eq_true, if_false, World.lateAttachment, hs]
      obtain ⟨a, u', ha, hl⟩ := attachOver_inactive hb hp hu
      rw [ha]
      cases hlook : w.lookup b ⟨(w.device d).identity, .functional⟩ with
      | some f =>
        rw [hlook] at hl
        obtain ⟨rfl, hu'⟩ := hl
        exact ⟨rfl, hu'⟩
      | none =>
        rw [hlook] at hl
        obtain ⟨rfl, hu'⟩ := hl
        exact ⟨rfl, rfl, hu'.extend (.of_eq rfl rfl)⟩

def Store.undecided : Store := ((({} : Store).createKey (parametersKey "S")).toOption).getD {}

def createdAndRemoved : List Scene := [
  .play (.begin (.device (.create "A" "" (some 0)))),
  .play (.begin (.request (.send 0 (.pnp .removeDevice) (some 0))))]

/-- One configuration keeps the driver from the device, the other does not. -/
theorem attachment_to_departed_of_removal : ∃ l es, Chronicle ⟨0, True, False⟩ l es ∧
    (l.world.device 0).state = .deleted ∧
    ((attachDevice 0 0).run l.world).Ends (fun u a => a = .error .noSuchDevice ∧ l.world.SameRecords u) ∧
    ((attachDevice 0 0).run { l.world with store := .undecided }).Ends fun u a =>
      a = .ok (some 1) ∧ World.Capped 0 0 { l.world with store := .undecided } u := by
  obtain ⟨l, es, h, hq⟩ :=
    Chronicle.of_enact (R := ⟨0, True, False⟩) (s := createdAndRemoved) World.isFresh_initial rfl
    (by simp [createdAndRemoved, Scene.IsPermitted, Play.IsPermitted, Command.IsPermitted])
    (q := fun x => decide ((x.1.world.driver 0).mode = .operational ∧ (x.1.world.device 0).role = .physical ∧
      (x.1.world.device 0).state = .deleted ∧ x.1.world.lateAttachment 0 0 = .error .noSuchDevice ∧
      World.lateAttachment { x.1.world with store := .undecided } 0 0 = .ok (some 1))) (by decide +kernel)
  rw [decide_eq_true_eq] at hq
  obtain ⟨hm, hp, hd, hselected, hundecided⟩ := hq
  have hb : 0 < l.world.drivers.size := h.sound.sane.driver
  refine ⟨l, es, h, hd, (attachment_to_departed hb hm hp hd).imp ?_,
    (attachment_to_departed (w := { l.world with store := .undecided }) hb hm hp hd).imp ?_⟩
  · rintro u _ ⟨rfl, hu⟩
    rw [hselected] at hu ⊢
    exact ⟨rfl, hu⟩
  · rintro u _ ⟨rfl, hu⟩
    rw [hundecided] at hu ⊢
    exact ⟨rfl, hu.2⟩

def attachedLate : List Scene := [
  .configure .undecided,
  .play (.begin (.device (.create "A" "" (some 0)))),
  .play (.begin (.request (.send 0 (.pnp .removeDevice) (some 0)))),
  .play (.begin (.device (.attach 0 (some 0))))]

/-- A driver that no device is configured for puts a layer over a device that is gone, and registers it. -/
theorem departed_gets_layer : ∃ l es, Chronicle ⟨0, True, False⟩ l es ∧
    (∃ e ∈ es, (e.before.driver 0).mode = .operational ∧ (e.before.device 0).state = .deleted ∧
      e.attached? = some 1) ∧
    (l.world.device 0).state = .deleted ∧ l.world.stack 1 = .functional 1 (.physical 0) ∧
    l.world.lookup 0 (l.world.device 1).key = some 1 := by
  obtain ⟨l, es, h, hq⟩ := Chronicle.of_enact (R := ⟨0, True, False⟩) (s := attachedLate) World.isFresh_initial rfl
    (by simp [attachedLate, Scene.IsPermitted, Play.IsPermitted, Command.IsPermitted])
    (q := fun x => x.2.any (fun e => decide ((e.before.driver 0).mode = .operational ∧
        (e.before.device 0).state = .deleted ∧ e.attached? = some 1)) &&
      decide ((x.1.world.device 0).state = .deleted ∧ x.1.world.stack 1 = .functional 1 (.physical 0) ∧
        x.1.world.lookup 0 (x.1.world.device 1).key = some 1)) (by decide +kernel)
  rw [Bool.and_eq_true, List.any_eq_true, decide_eq_true_eq] at hq
  obtain ⟨⟨e, he, ha⟩, hw⟩ := hq
  exact ⟨l, es, h, ⟨e, he, of_decide_eq_true ha⟩, hw⟩

end PnpBus
