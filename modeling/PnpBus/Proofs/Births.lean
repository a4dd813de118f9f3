import PnpBus.Proofs.Ages
import PnpBus.Proofs.Logbooks

/-!
# How devices come into being

Three commands create devices, and none of them waits: a physical device is
created, a functional one is attached over a physical one, and a child is
added to an active one. Each enrolls one device or none. Everything else that
happens in a run lets devices age, waits included.
-/

namespace PnpBus

variable {α β : Type} {R : Regime} {K : DeviceId → Prop} {Q : World → World → Prop} {u v w : World} {b : DriverId}
  {d f : DeviceId} {r : RequestId}

/-! ## Calls that do not wait -/

namespace Run

def Returns (post : World → α → Prop) : Run α → Prop
  | done w a => post w a
  | via _ rest => rest.Returns post
  | wait _ _ _ => False
  | halt _ _ => True

variable {post post' : World → α → Prop} {q : World → β → Prop} {run run' : Run α}

theorem ends_done {a : α} (h : post w a) : (done w a).Ends post := h

theorem Ends.returns (h : run.Ends post) : run.Returns post := by
  induction run with
  | done w a => exact h
  | via w rest ih => exact ih h
  | wait w on resume => exact h.elim
  | halt w why => exact h.elim

theorem Returns.act {a : Act α} {x : α} (h : a v = (x, w)) (hp : post w x) :
    ((liftM a : Call α) v).Returns post := by
  rw [Call.lift_apply, World.after, h]
  exact hp

theorem Looks.returns {p : α → Prop} {f : α → World → Run β} (h : run.Looks p v)
    (hf : ∀ a, p a → (f a v).Returns q) :
    (run.bind f).Returns q := by
  obtain ⟨a, rfl, ha⟩ | ⟨w, why, rfl⟩ := h.stops
  · exact hf a ha
  · trivial

theorem Returns.imp (h : run.Returns post) (hi : ∀ w a, post w a → post' w a) :
    run.Returns post' := by
  induction run with
  | done w a => exact hi w a h
  | via w rest ih => exact ih h
  | wait w on resume => exact h
  | halt w why => trivial

theorem Returns.lands {fit : World → Prop} (hl : run.Lands fit run') (h : run.Returns post) :
    ∃ w a, run' = .done w a ∧ post w a := by
  induction hl with
  | done => exact ⟨_, _, rfl, h⟩
  | wait => exact h.elim
  | via _ _ ih => exact ih h

/-- Where a run that ends has led to, its course is behind it. -/
theorem Along.ends {S : World → World → Prop} {p : World → α → Prop} (h : run.Along S Q p v) (he : run.Ends post) :
    run.Ends fun w a => Relation.ReflTransGen S v w ∧ post w a := by
  induction run generalizing v with
  | done w a => exact ⟨h.1, he⟩
  | via w rest ih => exact ih h he
  | wait w on resume => exact he.elim
  | halt w why => exact he.elim

end Run

/-! ## The selected device -/

def Selection.names (s : Selection) (identity : Identity) : Bool :=
  Text.sameIgnoringCase identity.deviceId s.deviceId && Text.sameIgnoringCase identity.instanceId s.instanceId

namespace World

def selection? (w : World) (b : DriverId) : Except Status (Option Selection) :=
  ((readSelection (parametersKey (w.driver b).service)).run w).1

def selects (w : World) (b : DriverId) (d : DeviceId) : Bool :=
  match w.selection? b with
  | .ok (some s) => s.names (w.device d).identity
  | _ => false

abbrev Calm : World → World → Prop := Ages fun _ => True

theorem Ages.of_calm (h : v.Calm w) : v.Ages K w := h.mono fun _ _ => trivial

end World

open World (Ages Calm)

def Act.Consults (x : ExceptT Status Act α) : Prop :=
  ∀ v w : World, w.store = v.store → (x.run w).1 = (x.run v).1 ∧ (x.run w).2.store = v.store

namespace Act.Consults

theorem bind {x : ExceptT Status Act α} {f : α → ExceptT Status Act β} (hx : Act.Consults x)
    (hf : ∀ a, Act.Consults (f a)) : Act.Consults (x >>= f) := by
  intro v w h
  obtain ⟨ha, hw⟩ := hx v w h
  obtain ⟨-, hv⟩ := hx v v rfl
  rw [Act.run_bind, Act.run_bind]
  rcases hxw : x.run w with ⟨a, w'⟩
  rcases hxv : x.run v with ⟨a', v'⟩
  rw [hxw, hxv] at ha
  rw [hxw] at hw
  rw [hxv] at hv
  cases (ha : a = a')
  cases a with
  | ok a =>
    obtain ⟨h1, h2⟩ := hf a _ _ (hw.trans hv.symm)
    exact ⟨h1, h2.trans hv⟩
  | error e => exact ⟨rfl, hw⟩

theorem ok (a : α) : Act.Consults (pure a : ExceptT Status Act α) := fun _ _ h => ⟨rfl, h⟩

theorem notify (n : Notice) : Act.Consults (liftM (PnpBus.notify n) : ExceptT Status Act Unit) :=
  fun _ _ h => ⟨rfl, h⟩

end Act.Consults

theorem readText_consults (path name : String) : Act.Consults (readText path name) := by
  intro v w h
  simp only [readText, Act.run_bind, Act.run_get, h]
  rcases v.store.getValue path name with e | d
  · cases e <;> exact ⟨rfl, h⟩
  · cases d <;> exact ⟨rfl, h⟩

theorem readSelection_consults (path : String) : Act.Consults (readSelection path) := by
  refine .bind (readText_consults path _) fun deviceId => ?_
  cases deviceId with
  | none => exact .bind (.notify _) fun _ => .ok _
  | some deviceId =>
    refine .bind (readText_consults path _) fun instanceId => ?_
    cases instanceId with
    | none => exact .bind (.notify _) fun _ => .ok _
    | some instanceId => exact .bind (.notify _) fun _ => .bind (.notify _) fun _ => .ok _

/-! ## Who a physical device is -/

theorem World.stack_of_physical (h : (w.device d).role = .physical) : w.stack d = .physical d := by
  unfold Device.role at h
  unfold World.stack
  cases he : (w.device d).extension with
  | physical parent => rfl
  | functional layer => rw [he] at h; cases h

/-- Unless it is deleted or on its way out, a physical device says who it is. -/
theorem deliver_queryId_ends (t : IdType) (hr : v.Knows r) (hc : (v.request r).completed = false) :
    (deliver b r (.pnp (.queryId t)) (.physical d) v).Ends fun w s => w.Knows r ∧ (w.request r).completed = false ∧
      (s = .noSuchDevice ∨ s = .success ∧ (w.request r).information = answerId (v.device d).identity t) := by
  unfold deliver
  by_cases hg : (v.device d).state = .deleted
  · rw [admitted_error (enter_gone r _ hg)]
    exact ⟨hr, hc, .inl rfl⟩
  by_cases hd : (v.device d).lock.draining = true
  · rw [admitted_error (enter_closed r _ hg hd)]
    exact ⟨hr, hc, .inl rfl⟩
  have hk : (v.take d r).Knows r := (World.knows_updateRequest ..).mpr hr
  have hi : ((v.take d r).device d).identity = (v.device d).identity := by
    unfold World.take World.setLock
    rw [World.device_updateRequest, World.device_updateDevice]
    split <;> rfl
  rw [admitted_ok (enter_open r _ hg hd), Run.Ends, physical_pnp]
  refine ⟨(World.knows_updateRequest ..).mpr hk, ?_⟩
  show (World.request (World.updateRequest _ r _) r).completed = false ∧
    (_ ∨ _ ∧ (World.request (World.updateRequest _ r _) r).information = _)
  rw [World.request_updateRequest, if_pos ⟨rfl, hk⟩]
  refine ⟨?_, .inr ⟨rfl, congrArg (answerId · t) hi⟩⟩
  show ((v.take d r).request r).completed = false
  unfold World.take
  rw [World.request_updateRequest, if_pos ⟨rfl, hr⟩]
  exact hc

theorem World.information_settle (hc : (w.request r).completed = false) (s : Status) :
    ((w.after (settle r s)).request r).information = (w.request r).information := by
  by_cases h : s = .pending
  · rw [h]; rfl
  · have hq := World.requests_complete hc s
    rw [World.after, settle_of_ne r h, World.request, hq]
    refine (congrArg Request.information (World.request_updateRequest ..)).trans ?_
    split <;> rfl

theorem takeId_gone (r : RequestId) (w : World) :
    ((takeId r .noSuchDevice).run w).1 = .error .noSuchDevice := rfl

theorem takeId_told {s : String} (h : (w.request r).information = .id s) :
    (takeId r .success).run w = (.ok s, w.updateRequest r fun q => { q with information := .none }) := by
  have hr : (liftM (request r) : ExceptT Status Act Request).run w = (.ok (w.request r), w) := rfl
  rw [takeId, if_pos (by decide), Act.run_bind, hr]
  dsimp only
  rw [h]
  rfl

theorem queryId_ends (b : DriverId) (hp : (v.device d).role = .physical) (t : IdType) :
    ((queryId b d t).run v).Ends fun _ a =>
      a = .error .noSuchDevice ∨ ∀ s, answerId (v.device d).identity t = .id s → a = .ok s := by
  unfold queryId
  rw [Call.run_bind]
  show Run.Ends _ ((do
    let answered ← (dispatch b d v.requests.size : Call Status)
    let status ← if answered = .pending then waitForCompletion v.requests.size else pure answered
    takeId v.requests.size status : ExceptT Status Call String).run (v.ask (.pnp (.queryId t))))
  have hq := request_ask v (.pnp (.queryId t))
  have hs : (v.ask (.pnp (.queryId t))).stack d = .physical d := World.stack_of_physical (w := v.ask _) hp
  rw [Call.run_bind, Call.run_call, dispatch_apply, hq, hs, Run.bind_assoc, Run.bind_assoc]
  refine (deliver_queryId_ends t (knows_ask v _) (by rw [hq])).bind ?_
  rintro w s ⟨hr, hc, rfl | ⟨rfl, hi⟩⟩
  · exact .inl (takeId_gone _ _)
  · exact .inr fun i hid => congrArg Prod.fst (takeId_told ((World.information_settle hc _).trans (hi.trans hid)))

theorem queryId_calm (b : DriverId) (hp : (v.device d).role = .physical) (t : IdType) :
    ((queryId b d t).run v).Ends fun w a => v.Calm w ∧
      (a = .error .noSuchDevice ∨ ∀ s, answerId (v.device d).identity t = .id s → a = .ok s) := by
  have h := (queryId_ages (K := fun _ => True) (Q := fun _ _ => True) b d t v).ends (queryId_ends b hp t)
  exact h.imp fun w a h => ⟨World.of_steps h.1, h.2⟩

/-- Whether the device is the selected one, or that it is gone. -/
theorem arbitrate_ends (b : DriverId) (hp : (v.device d).role = .physical) (selection : Option Selection) :
    ((arbitrate selection (queryId b d)).run v).Ends fun w a => v.Calm w ∧
      (a = .error .noSuchDevice ∨ a = .ok (selection.any (·.names (v.device d).identity))) := by
  cases selection with
  | none => exact ⟨.refl v, .inr rfl⟩
  | some s =>
    unfold arbitrate
    rw [Call.run_bind]
    refine (queryId_calm b hp .deviceId).bind ?_
    rintro w a ⟨hw, rfl | ha⟩
    · exact ⟨hw, .inl rfl⟩
    cases ha _ rfl
    show Run.Ends _ ((queryId b d .instanceId >>= _ : ExceptT Status Call Bool).run w)
    have hp' : (w.device d).role = .physical := (Device.role_eq_of_shape (hw.device d).shape).trans hp
    rw [Call.run_bind]
    refine (queryId_calm b hp' .instanceId).bind ?_
    rintro u a ⟨hu, rfl | ha⟩
    · exact ⟨hw.trans hu, .inl rfl⟩
    cases ha _ rfl
    refine ⟨hw.trans hu, .inr ?_⟩
    rw [(hw.device d).identity]
    rfl

/-! ## Attaching -/

theorem World.driver_setClaim (w : World) (b x : DriverId) (claimed : Bool) :
    (w.after (setClaim b claimed)).driver x =
      if x = b ∧ b < w.drivers.size then { w.driver b with activeClaimed := claimed } else w.driver x :=
  w.driver_updateDriver b x _

theorem registerOver_error {identity : Identity} (active : Bool)
    (h : (w.lookup b ⟨identity, .functional⟩).isSome) :
    (registerOver b identity d active).run w = (.error .alreadyExists, w) := by
  have hr : (register b identity (.functional { lower := w.stack d, active })).run w = _ := register_error h
  rw [registerOver, Act.run_bind, Act.run_get]
  exact hr
theorem registerOver_ok {identity : Identity} (hp : (w.device d).role = .physical) (active : Bool)
    (h : w.lookup b ⟨identity, .functional⟩ = none) :
    (registerOver b identity d active).run w = (.ok w.devices.size,
      (w.enroll b identity (.functional { lower := .physical d, active })).note
      (.registered .functional identity)) := by
  have hr : (register b identity (.functional { lower := .physical d, active })).run w = _ := register_ok h
  rw [registerOver, Act.run_bind, Act.run_get]
  dsimp only
  rw [World.stack_of_physical hp]
  exact hr

theorem World.lookup_setClaim (w : World) (b : DriverId) (claimed : Bool) (key : DeviceKey) :
    (w.after (setClaim b claimed)).lookup b key = w.lookup b key := by
  unfold World.lookup
  rw [(setClaim_idle (b := b) b claimed w).registry]

/-- The claim goes back to what it was. -/
theorem attachOver_error {identity : Identity} (matched : Bool)
    (h : (w.lookup b ⟨identity, .functional⟩).isSome) :
    ∃ u, (attachOver b identity d matched).run w = (.error .alreadyExists, u) ∧ u.devices = w.devices ∧
      u.drivers.size = w.drivers.size ∧ ∀ x, u.driver x = w.driver x := by
  rw [attachOver, Act.run_bind, Act.run_lift, claimActive_apply]
  dsimp only
  have h' : ((w.after (setClaim b true)).lookup b ⟨identity, .functional⟩).isSome := by
    rwa [World.lookup_setClaim]
  cases matched with
  | false =>
    rw [Act.run_bind, Act.run_tryCatch, if_neg nofun, registerOver_error _ h]
    exact ⟨w, rfl, rfl, rfl, fun _ => rfl⟩
  | true =>
    rw [if_pos rfl]
    cases hc : (w.driver b).activeClaimed with
    | false =>
      rw [if_neg nofun, Act.run_bind, Act.run_tryCatch, registerOver_error _ h']
      have hn : ((w.after (setClaim b true)).after (setClaim b false)).drivers.size = w.drivers.size :=
        (World.size_updateDriver ..).trans (w.size_updateDriver b _)
      refine ⟨(w.after (setClaim b true)).after (setClaim b false), rfl, rfl, hn, fun x => ?_⟩
      rw [World.driver_setClaim, World.driver_setClaim, World.driver_setClaim]
      split
      next hx =>
        rw [if_pos ⟨rfl, hx.1 ▸ (w.size_updateDriver b _ ▸ hx.2 : b < w.drivers.size)⟩, hx.1, ← hc]
      next hx => rw [if_neg fun h => hx ⟨h.1, Nat.lt_of_lt_of_eq h.2 (w.size_updateDriver b _).symm⟩]
    | true =>
      have h' : (((w.after (setClaim b true)).note (.alreadyActive identity.deviceId)).lookup b
          ⟨identity, .functional⟩).isSome := h'
      rw [if_pos rfl, Act.run_bind, Act.run_tryCatch, registerOver_error _ h']
      refine ⟨_, rfl, rfl, w.size_updateDriver b _, fun x => (World.driver_setClaim w b x true).trans ?_⟩
      split
      next hx => rw [hx.1, ← hc]
      next => rfl

def World.overlay (w : World) (b : DriverId) (d : DeviceId) (matched : Bool) : World :=
  (if matched then w.after (setClaim b true) else w).enroll b (w.device d).identity
    (.functional { lower := .physical d, active := matched && !(w.driver b).activeClaimed })

theorem finishCreation_calm (w : World) (d : DeviceId) : w.Calm (w.after (finishCreation d)) :=
  .updateDevice w d ⟨.of_eq rfl rfl rfl rfl, fun _ => id, fun _ => ⟨rfl, id⟩⟩

theorem attachOver_ok (hp : (w.device d).role = .physical) (matched : Bool)
    (h : w.lookup b ⟨(w.device d).identity, .functional⟩ = none) :
    ∃ u, (attachOver b (w.device d).identity d matched).run w = (.ok w.devices.size, u) ∧
      u.devices = ((w.overlay b d matched).after (finishCreation w.devices.size)).devices ∧
      u.drivers = (w.overlay b d matched).drivers := by
  rw [attachOver, Act.run_bind, Act.run_lift, claimActive_apply]
  dsimp only
  have h' : (w.after (setClaim b true)).lookup b ⟨(w.device d).identity, .functional⟩ = none := by
    rwa [World.lookup_setClaim]
  have hp' : ((w.after (setClaim b true)).device d).role = .physical := hp
  unfold World.overlay
  cases matched with
  | false =>
    rw [Act.run_bind, Act.run_tryCatch, if_neg nofun, registerOver_ok hp _ h]
    exact ⟨_, rfl, rfl, rfl⟩
  | true =>
    rw [if_pos rfl]
    cases hc : (w.driver b).activeClaimed with
    | false =>
      rw [if_neg nofun, Act.run_bind, Act.run_tryCatch, registerOver_ok hp' _ h']
      exact ⟨_, rfl, rfl, rfl⟩
    | true =>
      let v := (w.after (setClaim b true)).note (.alreadyActive (w.device d).identity.deviceId)
      have h' : v.lookup b ⟨(w.device d).identity, .functional⟩ = none := h'
      rw [if_pos rfl, Act.run_bind, Act.run_tryCatch, registerOver_ok (w := v) hp _ h']
      exact ⟨_, rfl, rfl, rfl⟩

/-- What an attachment to `d` comes to, begun in `v`. -/
inductive World.Attached (b : DriverId) (d : DeviceId) (v : World) : World → Except Status (Option DeviceId) → Prop
  | declined {w : World} (hm : (v.driver b).mode ≠ .operational) (hw : v.Calm w) : Attached b d v w (.ok none)
  | failed {w : World} {e : Status} (hm : (v.driver b).mode = .operational) (hw : v.Calm w) :
      Attached b d v w (.error e)
  | attached {u w : World} (hm : (v.driver b).mode = .operational) (hp : (v.device d).role = .physical)
      (hu : v.Calm u) (hw : (u.overlay b d (v.selects b d)).Calm w) :
      Attached b d v w (.ok (some v.devices.size))

theorem World.selects_of_ok {selection : Option Selection} (h : w.selection? b = .ok selection) :
    w.selects b d = selection.any (·.names (w.device d).identity) := by
  unfold World.selects
  rw [h]
  cases selection <;> rfl

theorem attachDevice_ends (b : DriverId) (d : DeviceId) (v : World) :
    ((attachDevice b d).run v).Ends (World.Attached b d v) := by
  have hn : v.Calm (v.note .entered) := .note v _
  by_cases hm : (v.driver b).mode = .operational
  case neg =>
    have hm' : ¬((v.note .entered).driver b).mode = .operational := hm
    simp only [attachDevice, Call.run_bind, Call.run_act, Act.notify_apply, Act.device_apply, Act.driver_apply,
      World.after, Run.bind, if_neg hm']
    exact .declined hm (hn.trans (.note _ _))
  have hm' : ((v.note .entered).driver b).mode = .operational := hm
  by_cases hp : (v.device d).role = .physical
  case neg =>
    have hp' : ¬((v.note .entered).device d).role = .physical := hp
    simp only [attachDevice, Call.run_bind, Call.run_act, Act.notify_apply, Act.device_apply, Act.driver_apply,
      World.after, Run.bind, if_pos hm', if_neg hp']
    exact .failed hm hn
  have hp' : ((v.note .entered).device d).role = .physical := hp
  simp only [attachDevice, Call.run_bind, Call.run_act, Act.notify_apply, Act.device_apply, Act.driver_apply,
    World.after, Run.bind, if_pos hm', if_pos hp', Call.run_lift]
  have hread := (readSelection_consults (parametersKey (v.driver b).service) v (v.note .entered) rfl).1
  have hcalm := World.of_steps (Act.Goes.ages (K := fun _ => True)
    (readSelection_apart (parametersKey (v.driver b).service)).aside (v.note .entered))
  rw [World.after] at hcalm
  have hsame : ((v.note .entered).driver b).service = (v.driver b).service := rfl
  rw [hsame]
  rcases hsel : (readSelection (parametersKey (v.driver b).service)).run (v.note .entered) with ⟨e | selection, v₁⟩
  · rw [hsel] at hcalm
    exact .failed hm (hn.trans hcalm)
  rw [hsel] at hcalm hread
  have hv₁ := hn.trans hcalm
  have hp₁ : (v₁.device d).role = .physical := (Device.role_eq_of_shape (hv₁.device d).shape).trans hp
  refine (arbitrate_ends b hp₁ selection).bind ?_
  rintro v₂ a ⟨hv₂, rfl | rfl⟩
  · exact .failed hm (hv₁.trans hv₂)
  have hv₂ := hv₁.trans hv₂
  have hp₂ : (v₂.device d).role = .physical := (Device.role_eq_of_shape (hv₂.device d).shape).trans hp
  have hmatched : selection.any (·.names (v₁.device d).identity) = v.selects b d := by
    rw [(hv₁.device d).identity, World.selects_of_ok hread.symm]
  have hi : ((v.note .entered).device d).identity = (v₂.device d).identity := (hv₂.device d).identity.symm
  dsimp only
  rw [hmatched, hi]
  cases hl : v₂.lookup b ⟨(v₂.device d).identity, .functional⟩ with
  | some x =>
    obtain ⟨u, hu, hd, hs, hx⟩ := attachOver_error (d := d) (v.selects b d) (by rw [hl]; rfl)
    simp only [hu]
    exact .failed hm (hv₂.trans (.of_devices hd hs fun x => by rw [hx]; exact ⟨rfl, rfl⟩))
  | none =>
    obtain ⟨u, hu, hd, hx⟩ := attachOver_ok hp₂ (v.selects b d) hl
    have hcalm : ((v₂.overlay b d (v.selects b d)).after (finishCreation v₂.devices.size)).Calm u :=
      .of_devices hd (by rw [hx]; rfl) fun x => by rw [World.driver, World.driver, hx]; exact ⟨rfl, rfl⟩
    simp only [hu, hv₂.size]
    exact .attached hm hp hv₂ (((finishCreation_calm _ _).trans hcalm).trans (.note _ _))

/-! ## Commands that create devices -/

theorem createNamed_apply (deviceId instanceId : String)
    (make : Identity → ExceptT Status Act DeviceId) (w : World) :
    createNamed deviceId instanceId make w = match Identity.make deviceId instanceId with
      | .ok identity => (created ((make identity).run w).1, ((make identity).run w).2)
      | .error e => (created (.error e), w) := by
  unfold createNamed
  cases Identity.make deviceId instanceId <;> rfl

def Command.Creates : Command → Prop
  | .device (.create _ _ _) | .device (.attach _ _) | .device (.addChild _ _ _ _) => True
  | _ => False

def World.CreatesNothing (v w : World) (a : Reply) : Prop := v.Calm w ∧ ∃ e, a = .device (.error e)

theorem perform_create (deviceId instanceId : String) (v : World) :
    (perform (.device (.create deviceId instanceId (some b))) v).Returns fun w a => v.CreatesNothing w a ∨
      ∃ identity, a = .device (.ok (some v.devices.size)) ∧ (v.enroll b identity (.physical none)).Calm w := by
  refine (chooseDriver_looks v _).returns fun x hx => ?_
  obtain rfl : b = x := hx.symm
  refine Run.Returns.act (createNamed_apply ..) ?_
  cases Identity.make deviceId instanceId with
  | error e => exact .inl ⟨.refl v, e, rfl⟩
  | ok identity =>
    dsimp only
    cases hl : v.lookup b ⟨identity, .physical⟩ with
    | some x =>
      have hr : (register b identity (.physical none)).run v = _ := register_error (by rw [Extension.role, hl]; rfl)
      simp only [createPhysical, Act.run_bind, hr]
      exact .inl ⟨.refl v, _, rfl⟩
    | none =>
      have hr : (register b identity (.physical none)).run v = _ := register_ok hl
      simp only [createPhysical, Act.run_bind, hr]
      exact .inr ⟨identity, rfl, (Ages.note _ _).trans (finishCreation_calm _ _)⟩

theorem perform_addChild (f : DeviceId) (deviceId instanceId : String) (v : World) :
    (perform (.device (.addChild f deviceId instanceId (some b))) v).Returns fun w a => v.CreatesNothing w a ∨
      ∃ identity layer, a = .device (.ok (some v.devices.size)) ∧ (v.device f).layer? = some layer ∧
        layer.active = true ∧ (v.adopt f b identity).Calm w := by
  refine (needDevice_looks v f).returns fun _ _ => (chooseDriver_looks v _).returns fun x hx => ?_
  obtain rfl : b = x := hx.symm
  refine Run.Returns.act (createNamed_apply ..) ?_
  cases Identity.make deviceId instanceId with
  | error e => exact .inl ⟨.refl v, e, rfl⟩
  | ok identity =>
    dsimp only
    by_cases h : ∃ layer, (v.device f).layer? = some layer ∧ layer.active = true ∧
        v.lookup b ⟨identity, .physical⟩ = none
    · obtain ⟨layer, hl, ha, hf⟩ := h
      rw [addChild_ok hl ha hf]
      exact .inr ⟨identity, layer, rfl, hl, ha, (Ages.note _ _).trans (finishCreation_calm _ _)⟩
    · obtain ⟨e, he⟩ := addChild_error (f := f) fun layer hl ha hf => h ⟨layer, hl, ha, hf⟩
      rw [he]
      exact .inl ⟨.refl v, e, rfl⟩

theorem perform_attach (d : DeviceId) (v : World) :
    (perform (.device (.attach d (some b))) v).Returns fun w a => ∃ x, a = .device x ∧ v.Attached b d w x := by
  refine (needDevice_looks v d).returns fun _ _ => (chooseDriver_looks v _).returns fun x hx => ?_
  obtain rfl : b = x := hx.symm
  exact Run.Ends.returns (Run.Ends.bind (attachDevice_ends b d v) fun w x hx => Run.ends_done ⟨x, rfl, hx⟩)

/-! ## All other commands -/

section
variable {c : Command}

theorem tended_ages : Tended (Ages K) where
  clients _ _ := .of_devices rfl rfl fun _ => ⟨rfl, rfl⟩
  issue := completable_ages.issueTicket
  redeem := completable_ages.redeemTicket
  acquire d w := by
    by_cases hc : w.IsClosed d
    · rw [World.after, acquireLock_closed hc]
    · rw [World.after, acquireLock_open hc]; exact .single (.setLock w d fun _ => id)
  release := releaseLock_ages

theorem performDevice_ages {c : DeviceCommand} (hc : (Command.device c).IsPermitted b)
    (hn : ¬(Command.device c).Creates) : (performDevice c).Goes (Ages K) Q :=
  tended_ages.performDevice (by cases c <;> first | trivial | exact absurd trivial hn)

def World.Spared (K : DeviceId → Prop) (sent : Option (Stack × Kind)) : Prop :=
  ∀ s, sent = some (s, .pnp .removeDevice) → ∀ x ∈ s.members, ¬K x

theorem dispatchNumbered_ages (n : Nat) (hs : World.Spared K (some (v.stack d, (v.request r).kind)))
    (hv : v.Unlisted K) :
    (dispatchNumbered b d n r v).Along (Ages K) (World.StaysUnlisted K) (fun _ _ => True) v := by
  have hd : (dispatch b d r v).Along (Ages K) (World.StaysUnlisted K) (fun _ _ => True) v := by
    by_cases hk : (v.request r).kind = .pnp .removeDevice
    · exact dispatch_removal_ages hk (hs _ (by rw [hk])) hv
    · exact dispatch_ages hk
  exact hd.bind fun w _ _ => Call.Goes.bind (viewRequest_goes n r).ages (fun _ => .pure _) w

theorem performRequest_ages {c : RequestCommand} (hs : World.Spared K ((Command.request c).sent v))
    (hv : v.Unlisted K) :
    (performRequest c v).Along (Ages K) (World.StaysUnlisted K) (fun _ _ => True) v := by
  have look {n : Nat} {f : RequestId → Call Reply} (hf : ∀ r, (f r).Goes (Ages K) (World.StaysUnlisted K)) :
      (needRequest n >>= f).Goes (Ages K) (World.StaysUnlisted K) := .look (needRequest_looks · n) hf
  have view (n : Nat) (r : RequestId) :
      (liftM (viewRequest n r) : Call RequestView).Goes (Ages K) (World.StaysUnlisted K) :=
    (viewRequest_goes n r).ages
  cases c with
  | send d k x =>
    refine (needDevice_looks v d).along fun _ _ => (chooseDriver_looks v x).along fun b _ => ?_
    have hw : v.Ages K (v.enlist k) := .of_devices rfl rfl fun _ => ⟨rfl, rfl⟩
    refine (dispatchNumbered_ages v.clients.requests.length (v := v.enlist k) ?_ (hw.unlisted hv)).from (.single hw)
    show World.Spared K (some (v.stack d, ((v.enlist k).request v.requests.size).kind))
    rw [kind_enlist]
    exact hs
  | resend n d x =>
    refine (needRequest_looks v n).along fun r hn => (needDevice_looks v d).along fun _ _ =>
      (chooseDriver_looks v x).along fun b _ => ?_
    refine dispatchNumbered_ages n ?_ hv
    rw [Command.sent, hn] at hs
    exact hs
  | complete n s =>
    exact look (fun r => .bind (.of_act (completable_ages.complete r s)) fun _ =>
      .bind (view n r) fun _ => .pure _) v
  | wait n =>
    exact look (fun r => .bind (waitForCompletion_goes r).ages fun _ => .bind (view n r) fun _ => .pure _) v
  | view n => exact look (fun r => .bind (view n r) fun _ => .pure _) v

theorem perform_ages (hc : c.IsPermitted b) (hn : ¬c.Creates) (hs : World.Spared K (c.sent v)) (hv : v.Unlisted K) :
    (perform c v).Along (Ages K) (World.StaysUnlisted K) (fun _ _ => True) v := by
  cases c with
  | bench c =>
    exact tended_ages.performBench (.of_isPermitted hc) (fun g wanted _ => completable_ages.requestGate g wanted) v
  | driver c => exact performDriver_goes queryId_ages (fun ha => (performDriver_permitted hc ha).aside.ages) v
  | device c => exact performDevice_ages hc hn v
  | request c => exact performRequest_ages hs hv
  | _ => exact hc.elim

end

/-! ## Every turn -/

def Suspended.Ages (K : DeviceId → Prop) (f : Suspended) : Prop :=
  ∀ w : World, w.Unlisted K → (f.resume w).Along (World.Ages K) (World.StaysUnlisted K) (fun _ _ => True) w

theorem Run.Along.landed {fit : World → Prop} {run run' : Run Reply} (hl : run.Lands fit run')
    (h : run.Along (Ages K) (World.StaysUnlisted K) (fun _ _ => True) v) (sent : Option (Stack × Kind)) :
    v.Ages K run'.world ∧ ∀ f ∈ Suspended.ofRun sent run', f.Ages K := by
  have h' := h.lands hl
  refine ⟨World.of_steps (h'.stopped hl.stops), fun f hf => ?_⟩
  obtain ⟨w, on, resume, rfl, rfl⟩ := Suspended.mem_ofRun hf
  exact h'.2

def Entry.Harmless (K : DeviceId → Prop) (w : World) (begun : Option Command) : Prop :=
  ∀ c, begun = some c → ¬c.Creates ∧ World.Spared K (c.sent w)

theorem Entry.ages {l l' : Logbook} {begun : Option Command} (h : Entry R begun l l')
    (hb : Entry.Harmless K l.world begun) (hv : l.world.Unlisted K) (hf : ∀ e ∈ l.errands, e.task.Ages K) :
    l.world.Ages K l'.world ∧ ∀ e ∈ l'.errands, e.task.Ages K := by
  have carried {run run' : Run Reply} {sent : Option (Stack × Kind)} {request : Option RequestId} {es : List Errand}
      (hl : run.Lands R.fits run') (h : run.Along (Ages K) (World.StaysUnlisted K) (fun _ _ => True) l.world)
      (hes : ∀ e ∈ es, e.task.Ages K) : l.world.Ages K run'.world ∧
        ∀ e ∈ (Suspended.ofRun sent run').map (⟨·, request⟩) ++ es, e.task.Ages K := by
    obtain ⟨hw, hnew⟩ := h.landed hl sent
    refine ⟨hw, fun e he => ?_⟩
    rcases List.mem_append.mp he with he | he
    · obtain ⟨f, hf, rfl⟩ := List.mem_map.mp he
      exact hnew f hf
    · exact hes e he
  cases h with
  | begin c hc hs hl =>
    obtain ⟨hn, hs⟩ := hb c rfl
    exact carried hl (perform_ages hc hn hs hv) hf
  | @resume _ es es' run e he hset hl =>
    rw [he] at hf
    refine carried hl (hf e (List.mem_append_right es List.mem_cons_self) l.world hv) fun e' he' => hf e' ?_
    rw [List.mem_append, List.mem_cons]
    exact (List.mem_append.mp he').imp_right .inr
  | work hj hr => exact ⟨.aside (Turn.aside_work hr), hf⟩
  | drop r hr => exact ⟨World.of_steps (completable_ages.relinquish r _), hf⟩
  | tidy journal inHand hj => exact ⟨.of_devices rfl rfl fun _ => ⟨rfl, rfl⟩, hf⟩

end PnpBus
