import PnpBus.Proofs.Idle
import PnpBus.Proofs.Removals
import PnpBus.Script.Command

/-!
# What commands keep to

A command removes devices only if it sends a removal, and takes departures
back only if it sends a cancel. `Terms.of` reads from the request that a
command sends, if it sends any, what the command keeps to; every permitted
command does.
-/

namespace PnpBus

variable {α β : Type} {R : Regime} {P : DeviceId → Prop} {Q : World → World → Prop} {u v w : World} {d f : DeviceId}
  {r : RequestId}

/-! ## Smooth steps -/

structure World.Smooth (R : Regime) (v w : World) : Prop where
  evolves : Evolves R False v w
  holds (P : DeviceId → Prop) : World.Holds P v w

namespace World.Smooth

theorem refl (w : World) : w.Smooth R w := ⟨.refl w, fun P => .refl P w⟩

theorem trans (h : u.Smooth R v) (h' : v.Smooth R w) : u.Smooth R w :=
  ⟨h.evolves.trans h'.evolves, fun P => (h.holds P).trans (h'.holds P)⟩

theorem transfer (h : Transfer R v w) : v.Smooth R w :=
  ⟨.of_move (.transfer h), fun _ => .of_lifecycle fun x => (h.passing.sameStanding.device x).lifecycle⟩

theorem agrees (h : v.Agrees R.driver w) : v.Smooth R w := transfer (.aside h)

theorem idle {a : Act α} (h : a.IsIdle R.driver) (w : World) : w.Smooth R (w.after a) := agrees (h w)

theorem note (w : World) {n : Notice} (hn : n.isSurplus = false) : w.Smooth R (w.note n) :=
  agrees (.note w hn)

theorem holds_enroll (w : World) (b : DriverId) (identity : Identity) (extension : Extension) :
    World.Holds P w (w.enroll b identity extension) where
  departing x _ hd := by
    rwa [IsDeparting, IsLeaving, IsGone, World.device_enroll, if_neg (Nat.ne_of_lt hd.size)]
  rested _ x hx := by
    rw [IsStarting, World.device_enroll] at hx
    split at hx
    · cases hx
    · exact hx

theorem enroll {identity : Identity} {extension : Extension} (hx : extension.IsFresh w)
    (hc : extension.isChild = false) (hf : w.lookup R.driver ⟨identity, extension.role⟩ = none) :
    w.Smooth R (w.enroll R.driver identity extension) :=
  ⟨.of_move (.enroll identity extension hx hc hf), fun _ => holds_enroll w _ identity extension⟩

theorem adopt {identity : Identity} (hl : (w.device d).layer?.isSome)
    (hf : w.lookup R.driver ⟨identity, .physical⟩ = none) : w.Smooth R (w.adopt d R.driver identity) := by
  have he (P : DeviceId → Prop) := holds_enroll (P := P) w R.driver identity (.physical (some d))
  refine ⟨.of_move (.adopt d identity hl hf), fun P => (he P).trans (.of_lifecycle fun x => ?_)⟩
  rw [World.adopt, device_updateDevice]
  split
  next e => rw [e.1]; exact Device.lifecycle_updateLayer ..
  next => rfl

theorem bind {x : ExceptT Status Act α} {g : α → ExceptT Status Act β} (hx : w.Smooth R (w.after x.run))
    (hg : ∀ a w', x.run w = (.ok a, w') → w'.Smooth R (w'.after (g a).run)) :
    w.Smooth R (w.after (x >>= g).run) := by
  rw [World.after, Act.run_bind]
  rw [World.after] at hx
  rcases h : x.run w with ⟨_ | a, w'⟩ <;> rw [h] at hx
  · exact hx
  · exact hx.trans (hg a w' h)

theorem tryCatch {x : ExceptT Status Act α} {g : Status → ExceptT Status Act α} (hx : w.Smooth R (w.after x.run))
    (hg : ∀ e w', x.run w = (.error e, w') → w'.Smooth R (w'.after (g e).run)) :
    w.Smooth R (w.after (MonadExcept.tryCatch x g).run) := by
  rw [World.after, Act.run_tryCatch]
  rw [World.after] at hx
  rcases h : x.run w with ⟨e | a, w'⟩ <;> rw [h] at hx
  · exact hx.trans (hg e w' h)
  · exact hx

theorem keeps {T : Terms} {p : World → α → Prop} {a : α} (h : v.Smooth T.regime w) (ha : p w a) :
    (Run.done w a).Keeps T p v := .quiet h.evolves (h.holds _) ha

end World.Smooth

namespace Run.Keeps

variable {T : Terms}

theorem smooth {p : World → α → Prop} {run : Run α} (h : u.Smooth T.regime v) (hr : run.Keeps T p v) :
    run.Keeps T p u := hr.after h.evolves (h.holds _)

end Run.Keeps

/-! ## Numbers -/

def Run.Looks (p : α → Prop) (v : World) : Run α → Prop
  | .done w a => w = v ∧ p a
  | .halt _ _ => True
  | _ => False

namespace Run.Looks

variable {S : World → World → Prop} {T : Terms} {p : α → Prop} {run : Run α} {f : α → World → Run β}

theorem stops (h : run.Looks p v) : (∃ a, run = .done v a ∧ p a) ∨ ∃ w why, run = .halt w why := by
  cases run with
  | done w a => obtain ⟨rfl, ha⟩ := h; exact .inl ⟨a, rfl, ha⟩
  | halt w why => exact .inr ⟨w, why, rfl⟩
  | _ => exact h.elim

theorem imp {q : α → Prop} (h : run.Looks p v) (hpq : ∀ a, p a → q a) : run.Looks q v := by
  obtain ⟨a, rfl, ha⟩ | ⟨w, why, rfl⟩ := h.stops
  · exact ⟨rfl, hpq a ha⟩
  · trivial

theorem bind {q : β → Prop} (h : run.Looks p v) (hf : ∀ a, p a → (f a v).Looks q v) : (run.bind f).Looks q v := by
  obtain ⟨a, rfl, ha⟩ | ⟨w, why, rfl⟩ := h.stops
  · exact hf a ha
  · trivial

theorem quick {q : World → β → Prop} (h : run.Looks p v) (hf : ∀ a, p a → (f a v).IsQuick R q v) :
    (run.bind f).IsQuick R q v := by
  obtain ⟨a, rfl, ha⟩ | ⟨w, why, rfl⟩ := h.stops
  · exact hf a ha
  · trivial

theorem keeps {q : World → β → Prop} (h : run.Looks p v) (hf : ∀ a, p a → (f a v).Keeps T q v) :
    (run.bind f).Keeps T q v := by
  obtain ⟨a, rfl, ha⟩ | ⟨w, why, rfl⟩ := h.stops
  · exact hf a ha
  · trivial

theorem along {q : World → β → Prop} (h : run.Looks p v) (hf : ∀ a, p a → (f a v).Along S Q q v) :
    (run.bind f).Along S Q q v := by
  obtain ⟨a, rfl, ha⟩ | ⟨w, why, rfl⟩ := h.stops
  · exact hf a ha
  · trivial

end Run.Looks

theorem Call.Goes.look {S : World → World → Prop} {c : Call α} {f : α → Call β} {p : World → α → Prop}
    (hc : ∀ v, (c v).Looks (p v) v) (hf : ∀ a, (f a).Goes S Q) : (c >>= f).Goes S Q :=
  fun v => (hc v).along fun a _ => hf a v

theorem ensure_looks (v : World) (c : Bool) : (ensure c v).Looks (fun _ => c = true) v := by
  unfold ensure
  cases c with
  | true => exact ⟨rfl, rfl⟩
  | false => trivial

theorem need_looks (v : World) (a : Option α) : (need a v).Looks (fun x => a = some x) v := by
  cases a with
  | none => trivial
  | some a => exact ⟨rfl, rfl⟩

theorem needDevice_apply (d : DeviceId) (w : World) :
    needDevice d w = if w.isKnown d then .done w () else .halt w .unknownReference := by
  show ensure (w.isKnown d) w = _
  cases w.isKnown d <;> rfl

theorem needDevice_looks (v : World) (d : DeviceId) : (needDevice d v).Looks (fun _ => d < v.devices.size) v :=
  (ensure_looks v (v.isKnown d)).imp fun _ hk => by
    rw [World.isKnown, Bool.and_eq_true] at hk
    exact of_decide_eq_true hk.1

theorem chooseDriver_looks (v : World) (b : Option DriverId) :
    (chooseDriver b v).Looks (fun x => x = b.getD (v.drivers.size - 1)) v :=
  (ensure_looks v _).bind fun _ _ => ⟨rfl, rfl⟩

theorem needRequest_looks (v : World) (n : Nat) :
    (needRequest n v).Looks (fun r => v.clients.requests[n]? = some r) v := need_looks v _

theorem World.Sane.known_number (hs : v.Sane R) {n : Nat} (hn : v.clients.requests[n]? = some r) : v.Knows r :=
  hs.known r (List.mem_of_getElem? hn)

/-! ## Devices -/

theorem register_error {b : DriverId} {identity : Identity} {extension : Extension}
    (h : (w.lookup b ⟨identity, extension.role⟩).isSome) :
    (register b identity extension).run w = (.error .alreadyExists, w) := by
  have h' : ((w.driver b).registry.findRole? identity extension.role).isSome := h
  simp only [register, Act.run_bind, Act.run_lift, Act.driver_apply, if_pos h', Act.run_throw]

theorem register_ok {b : DriverId} {identity : Identity} {extension : Extension}
    (h : w.lookup b ⟨identity, extension.role⟩ = none) :
    (register b identity extension).run w =
      (.ok w.devices.size, (w.enroll b identity extension).note (.registered extension.role identity)) := by
  have h' : ¬((w.driver b).registry.findRole? identity extension.role).isSome := by
    rw [show (w.driver b).registry.findRole? identity extension.role = none from h]; exact nofun
  simp only [register, Act.run_bind, Act.run_lift, Act.driver_apply, if_neg h']
  rfl

theorem register_smooth {identity : Identity} {extension : Extension} (hx : extension.IsFresh w)
    (hc : extension.isChild = false) : w.Smooth R (w.after (register R.driver identity extension).run) := by
  rw [World.after]
  cases h : w.lookup R.driver ⟨identity, extension.role⟩ with
  | some d => rw [register_error (by rw [h]; rfl)]; exact .refl w
  | none => rw [register_ok h]; exact (World.Smooth.enroll hx hc h).trans (.note _ rfl)

theorem finishCreation_smooth (w : World) (d : DeviceId) : w.Smooth R (w.after (finishCreation d)) :=
  .transfer (.flag d (· &&& ~~~Flags.initializing))

theorem createPhysical_smooth (w : World) (identity : Identity) :
    w.Smooth R (w.after (createPhysical R.driver identity).run) :=
  .bind (register_smooth nofun rfl) fun d w' _ => finishCreation_smooth w' d

theorem World.updateDevice_comm (w : World) {d f : DeviceId} (h : d ≠ f) (g g' : Device → Device) :
    (w.updateDevice d g).updateDevice f g' = (w.updateDevice f g').updateDevice d g := by
  simp only [updateDevice, Table.modify, List.modify_modify_ne _ _ _ h]

theorem addChild_ok {b : DriverId} {identity : Identity} {layer : Layer} (hl : (w.device f).layer? = some layer)
    (ha : layer.active = true) (hf : w.lookup b ⟨identity, .physical⟩ = none) :
    (addChild b f identity).run w = (.ok w.devices.size,
      ((w.adopt f b identity).note (.registered .physical identity)).after (finishCreation w.devices.size)) := by
  have hne : w.devices.size ≠ f := (Nat.ne_of_lt (World.size_of_layer? (by rw [hl]; rfl))).symm
  have hr : (register b identity (.physical (some f))).run w = _ := register_ok hf
  simp only [addChild, Act.run_bind, Act.run_lift, Act.device_apply, hl, ha, if_true, hr]
  exact congrArg (Except.ok _, ·) (World.updateDevice_comm _ hne _ _)

theorem addChild_error {b : DriverId} {identity : Identity}
    (h : ∀ layer, (w.device f).layer? = some layer → layer.active = true →
      w.lookup b ⟨identity, .physical⟩ ≠ none) :
    ∃ e, (addChild b f identity).run w = (.error e, w) := by
  have hr (hf : w.lookup b ⟨identity, .physical⟩ ≠ none) :
      (register b identity (.physical (some f))).run w = _ := register_error (Option.isSome_iff_ne_none.mpr hf)
  simp only [addChild, Act.run_bind, Act.run_lift, Act.device_apply]
  cases hl : (w.device f).layer? with
  | none => exact ⟨_, rfl⟩
  | some layer =>
    by_cases ha : layer.active = true
    · simp only [ha, if_true, Act.run_bind, hr (h layer hl ha)]
      exact ⟨_, rfl⟩
    · simp only [ha]
      exact ⟨_, rfl⟩

/-- A new child is listed before anybody else has a turn. -/
theorem addChild_smooth (w : World) (f : DeviceId) (identity : Identity) :
    w.Smooth R (w.after (addChild R.driver f identity).run) := by
  by_cases h : ∃ layer, (w.device f).layer? = some layer ∧ layer.active = true ∧
      w.lookup R.driver ⟨identity, .physical⟩ = none
  · obtain ⟨layer, hl, ha, hf⟩ := h
    rw [World.after, addChild_ok hl ha hf]
    have hadopt : w.Smooth R (w.adopt f R.driver identity) := .adopt (by rw [hl]; rfl) hf
    exact (hadopt.trans (.note _ rfl)).trans (finishCreation_smooth _ _)
  · obtain ⟨e, he⟩ := addChild_error fun layer hl ha hf => h ⟨layer, hl, ha, hf⟩
    rw [World.after, he]
    exact .refl w

/-! ## Requests that commands send -/

section
variable {T : Terms}

theorem dispatch_smooth (hs : v.Sane T.regime) (hr : v.Knows r) (hd : d < v.devices.size)
    (hk : (v.request r).kind ≠ .pnp .removeDevice) (hc : (v.request r).kind ≠ .pnp .cancelRemoveDevice) :
    (dispatch T.regime.driver d r v).Keeps T (fun _ _ => True) v :=
  ((dispatch_quick (P := (¬T.undoes ·)) rfl hk hs hr hd fun e => absurd e hc).keeps fun _ _ => id).imp
    fun _ _ _ _ => trivial

theorem ask_smooth (w : World) (k : Kind) : w.Smooth R (w.ask k) := .transfer (.ask k)

def World.enlist (w : World) (k : Kind) : World :=
  (w.ask k).updateClients fun c => { c with requests := c.requests ++ [w.requests.size] }

theorem enlist_smooth (w : World) (k : Kind) : w.Smooth R (w.enlist k) :=
  (ask_smooth w k).trans (.transfer (.know _ (knows_ask w k)))

theorem kind_enlist (w : World) (k : Kind) : ((w.enlist k).request w.requests.size).kind = k :=
  congrArg Request.kind (request_ask w k)

theorem waitForCompletion_goes {S : World → World → Prop} (r : RequestId) : (waitForCompletion r).Goes S Q :=
  .bind (.await _) fun _ => .bind (.of_act fun _ => .refl) fun _ => .pure _

theorem takeId_smooth (hr : w.Knows r) (s : Status) : w.Smooth R (w.after (takeId r s).run) := by
  show w.Smooth R (w.after (if _ then _ else _ : ExceptT Status Act String).run)
  split
  case isFalse => exact .refl w
  refine .bind (x := liftM (request r)) (.refl w) fun q _ h => ?_
  cases h
  refine .bind (x := liftM (inform r .none)) (.transfer (.inform r hr .none)) fun _ w' _ => ?_
  split <;> exact .refl w'

theorem queryId_keeps (hs : v.Sane T.regime) (hd : d < v.devices.size) (t : IdType) :
    ((queryId T.regime.driver d t).run v).Keeps T (fun _ _ => True) v := by
  have ha : v.Smooth T.regime (v.ask (.pnp (.queryId t))) := ask_smooth v _
  refine Run.Keeps.except_bind (x := liftM (newRequest (.pnp (.queryId t))))
    (p := fun w a => w = v.ask (.pnp (.queryId t)) ∧ a = .ok v.requests.size) (ha.keeps ⟨rfl, rfl⟩) ?_
  rintro _ r - ⟨rfl, hr⟩
  cases hr
  have hr := knows_ask v (.pnp (.queryId t))
  refine Run.Keeps.except_bind (x := liftM (dispatch T.regime.driver d v.requests.size))
    (p := fun _ _ => True) ?_ fun w s hw _ => ?_
  · refine Run.Keeps.bind (dispatch_smooth (ha.evolves.sane hs) hr ?_ ?_ ?_) fun _ _ _ _ => .same trivial
    · exact Nat.lt_of_lt_of_le hd ha.evolves.later.devices
    · rw [request_ask]; nofun
    · rw [request_ask]; nofun
  have htake (s : Status) (w' : World) (hw' : T.Passes w w') :
      ((liftM (takeId v.requests.size s) : ExceptT Status Call String).run w').Keeps T (fun _ _ => True) w' :=
    (takeId_smooth (hw'.later.knows (hw.later.knows hr)) s).keeps trivial
  by_cases hp : s = .pending
  · rw [if_pos hp]
    refine Run.Keeps.except_bind (x := liftM (waitForCompletion v.requests.size)) (p := fun _ _ => True) ?_
      fun w' s' hw' _ => htake s' w' hw'
    exact (Call.Goes.lift_call (waitForCompletion_goes _)).idle T rfl w
  · rw [if_neg hp]
    exact htake s w (Terms.Own.refl w).passes

theorem arbitrate_keeps (hs : v.Sane T.regime) (hd : d < v.devices.size) (selection : Option Selection) :
    ((arbitrate selection (queryId T.regime.driver d)).run v).Keeps T (fun _ _ => True) v := by
  cases selection with
  | none => exact .same trivial
  | some s =>
    refine (queryId_keeps hs hd .deviceId).except_bind fun w _ hw _ => ?_
    refine (queryId_keeps (hw.1.sane hs) (Nat.lt_of_lt_of_le hd hw.later.devices) .instanceId).except_bind ?_
    exact fun _ _ _ _ => .same trivial

/-! Reading the configuration does nothing but take notes. -/

section
variable {S : World → World → Prop} (hS : ∀ (w : World) (n : Notice), n.isSurplus = false → S w (w.note n))
include hS

theorem readText_goes (path name : String) : ((readText path name).run).Goes S := by
  refine .run_bind (x := get) (fun _ => .refl) fun w => ?_
  split
  · exact .ok _
  · exact .run_bind (x := liftM (notify _)) (.step fun w => hS w _ rfl) fun _ => .throw _
  · exact .ok _
  · exact .throw _

theorem readSelection_goes (path : String) : ((readSelection path).run).Goes S := by
  have note {n : Notice} (hn : n.isSurplus = false) : (notify n).Goes S := .step fun w => hS w n hn
  refine .run_bind (readText_goes hS path _) fun deviceId => ?_
  cases deviceId with
  | none => exact .run_bind (x := liftM (notify _)) (note rfl) fun _ => .ok _
  | some deviceId =>
    refine .run_bind (readText_goes hS path _) fun instanceId => ?_
    cases instanceId with
    | none => exact .run_bind (x := liftM (notify _)) (note rfl) fun _ => .ok _
    | some instanceId =>
      exact .run_bind (x := liftM (notify _)) (note rfl) fun _ =>
        .run_bind (x := liftM (notify _)) (note rfl) fun _ => .ok _

end

theorem readSelection_apart (path : String) : ((readSelection path).run).Goes World.Apart :=
  readSelection_goes (fun w _ hn => ⟨.note w hn, rfl⟩) path

theorem setClaim_idle {b : DriverId} (x : DriverId) (claimed : Bool) : (setClaim x claimed).IsIdle b :=
  fun w => .updateDriver w x fun _ => rfl

theorem claimActive_apply (w : World) (x : DriverId) (identity : Identity) (matched : Bool) :
    claimActive x identity matched w = (matched && !(w.driver x).activeClaimed,
      if matched then
        if (w.driver x).activeClaimed then (w.after (setClaim x true)).note (.alreadyActive identity.deviceId)
        else w.after (setClaim x true)
      else w) := by
  cases matched with
  | false => rfl
  | true =>
    cases h : (w.driver x).activeClaimed <;> simp only [claimActive, Act.bind_apply, Act.driver_apply, h] <;> rfl

theorem claimActive_idle {b : DriverId} (x : DriverId) (identity : Identity) (matched : Bool) :
    (claimActive x identity matched).IsIdle b := fun w => by
  rw [World.after, claimActive_apply]
  dsimp only
  split
  · split
    · exact World.Agrees.trans (setClaim_idle x true w) (.note _ rfl)
    · exact setClaim_idle x true w
  · exact (World.Aside.refl w).agrees b

theorem registerOver_smooth (hs : w.Sane R) (hd : d < w.devices.size) (identity : Identity) (active : Bool) :
    w.Smooth R (w.after (registerOver R.driver identity d active).run) := by
  refine .bind (x := get) (.refl w) fun _ _ h => ?_
  cases h
  exact register_smooth ⟨hs.linked d hd, rfl, rfl⟩ rfl

theorem attachOver_smooth (hs : w.Sane R) (hd : d < w.devices.size) (identity : Identity) (matched : Bool) :
    w.Smooth R (w.after (attachOver R.driver identity d matched).run) := by
  have hc : w.Smooth R (w.after (claimActive R.driver identity matched)) := .idle (claimActive_idle _ _ _) w
  refine .bind (x := liftM (claimActive R.driver identity matched)) hc fun active w₁ h => ?_
  have hw : w.after (claimActive R.driver identity matched) = w₁ := congrArg Prod.snd h
  rw [hw] at hc
  have hreg :=
    registerOver_smooth (hc.evolves.sane hs) (Nat.lt_of_lt_of_le hd hc.evolves.later.devices) identity active
  refine .bind (.tryCatch hreg fun e w₂ _ => ?_) fun f w₂ _ => ?_
  · split
    · refine .bind (x := liftM (setClaim R.driver false)) (.idle (setClaim_idle _ _) w₂) fun _ w₃ _ => ?_
      exact .refl w₃
    · exact .refl w₂
  · refine .bind (x := liftM (finishCreation f)) (finishCreation_smooth w₂ f) fun _ w₃ _ => ?_
    exact .note w₃ rfl

theorem attachDevice_keeps (hs : v.Sane T.regime) (hd : d < v.devices.size) :
    ((attachDevice T.regime.driver d).run v).Keeps T (fun _ _ => True) v := by
  have hold {v w : World} (hw : T.Passes v w) (hv : v.Sane T.regime ∧ d < v.devices.size) :
      w.Sane T.regime ∧ d < w.devices.size := ⟨hw.1.sane hv.1, Nat.lt_of_lt_of_le hv.2 hw.later.devices⟩
  have idle {α : Type} {a : Act α} (ha : a.Goes World.Aside) (w : World) :
      ((liftM a : ExceptT Status Call α).run w).Keeps T (fun _ _ => True) w := (Call.Goes.lift ha).idle T rfl w
  refine (idle (a := notify .entered) (.notify rfl) v).except_bind fun w _ hw _ => ?_
  have hw := hold hw ⟨hs, hd⟩
  refine (idle (a := device d) (fun _ => .refl) w).except_bind fun w v hw' _ => ?_
  have hw := hold hw' hw
  refine (idle (a := driver T.regime.driver) (fun _ => .refl) w).except_bind fun w owner hw' _ => ?_
  have hw := hold hw' hw
  by_cases hm : owner.mode = .operational
  · rw [if_pos hm]
    by_cases hp : v.role = .physical
    · rw [if_pos hp]
      have hsel := (Call.Goes.lift_except (readSelection_apart (parametersKey owner.service)).aside).idle T rfl w
      refine hsel.except_bind fun w selection hw' _ => ?_
      have hw := hold hw' hw
      refine (arbitrate_keeps hw.1 hw.2 selection).except_bind fun w matched hw' _ => ?_
      have hw := hold hw' hw
      refine Run.Keeps.except_bind (x := liftM (attachOver T.regime.driver v.identity d matched))
        (p := fun _ _ => True)
        ((attachOver_smooth hw.1 hw.2 v.identity matched).keeps trivial) fun w f _ _ => ?_
      refine (idle (a := notify .left) (.notify rfl) w).except_bind fun w _ _ _ => ?_
      exact .same trivial
    · rw [if_neg hp]
      exact .same trivial
  · rw [if_neg hm]
    refine (idle (a := notify (.notAttaching owner.service owner.mode v.identity.deviceId)) ?_ w).except_bind ?_
    · exact .notify rfl
    · exact fun _ _ _ _ => .same trivial

end

/-! ## Terms of a command -/

def Terms.of (R : Regime) (sent : Option (Stack × Kind)) : Terms where
  regime := R
  removing := ∃ s, sent = some (s, .pnp .removeDevice)
  undoes d := ∃ s, sent = some (s, .pnp .cancelRemoveDevice) ∧ d ∈ s.members
  guards d := R.sparing ∧ ∃ s, sent = some (s, .pnp .removeDevice) ∧ d ∈ s.layers

/-- The request that a command is about to send, with the stack that gets it. -/
def Command.sent (w : World) : Command → Option (Stack × Kind)
  | .request (.send d k _) => some (w.stack d, k)
  | .request (.resend n d _) => w.clients.requests[n]?.map fun r => (w.stack d, (w.request r).kind)
  | _ => none

theorem dispatch_keeps_of {k : Kind} (hs : v.Sane R) (hr : v.Knows r) (hd : d < v.devices.size)
    (hk : (v.request r).kind = k) :
    (dispatch R.driver d r v).Keeps (.of R (some (v.stack d, k)))
      (fun w s => k = .pnp .removeDevice → v.Removed (v.stack d).top w s) v := by
  by_cases hrem : k = .pnp .removeDevice
  · subst hrem
    refine (dispatch_keeps (T := .of R (some (v.stack d, .pnp .removeDevice))) ⟨_, rfl⟩ hs hr hk hd
      fun hsp x hx => ?_).imp
      fun _ _ _ h _ => h
    exact ⟨⟨hsp, _, rfl, hx⟩, fun ⟨_, h, _⟩ => nomatch h⟩
  · have hq :=
      dispatch_quick (R := R) (P := (¬(Terms.of R (some (v.stack d, k))).undoes ·)) rfl (hk ▸ hrem) hs hr hd
      fun e x hx hn => hn ⟨_, by rw [← hk, e], hx⟩
    exact (hq.keeps (T := .of R (some (v.stack d, k))) fun _ _ => id).imp fun _ _ _ _ e => absurd e hrem

def World.Reported (sent : Option (Stack × Kind)) (v w : World) (a : Reply) : Prop :=
  ∀ t s view, sent = some (t, .pnp .removeDevice) → a = .answered s view → v.Removed t.top w s

theorem World.Reported.nothing {a : Reply} : World.Reported none v w a := fun _ _ _ h => nomatch h

/-- Commands of one driver's clients that reach locks, states and the registry through requests, tokens and
tickets only. -/
def Command.IsPermitted (b : DriverId) : Command → Prop
  | .bench (.requestGate (.device _) _) | .bench (.issue (.device _)) | .bench (.viewGate (.device _))
  | .bench (.dropTicket _) => True
  | .driver (.view x) | .driver (.unload x) | .driver (.attachTopology _ _ x) | .driver (.change _ _ x)
  | .driver (.setInterceptor _ x) | .driver (.arbitrate _ _ x) | .driver (.queryId _ _ x) => x = some b
  | .device (.create _ _ x) | .device (.attach _ x) | .device (.addChild _ _ _ x) | .device (.find _ _ _ x)
  | .device (.records x) => x = some b
  | .device (.forget _) | .device (.acquire _) | .device (.dropToken _) | .device (.route _) => True
  | .request (.send _ _ x) | .request (.resend _ _ x) => x = some b
  | .request (.complete _ _) | .request (.wait _) | .request (.view _) => True
  | _ => False

/-! ## Every permitted command keeps to its terms -/

section
variable {T : Terms}

theorem Run.Keeps.act {a : Act α} (h : v.Smooth T.regime (v.after a)) :
    ((liftM a : Call α) v).Keeps T (fun _ _ => True) v := h.keeps trivial

theorem needGate_looks (v : World) (d : DeviceId) :
    (needGate (.device d) v).Looks (fun _ => (v.device d).layer?.isSome) v :=
  (needDevice_looks v d).bind fun _ _ => ensure_looks v _

theorem requestGate_smooth (hl : (v.device d).layer?.isSome) (wanted : FilterState) :
    v.Smooth R (v.after (requestGate (.device d) wanted).run) := by
  refine .bind (x := get) (.refl v) fun _ _ h => ?_
  cases h
  split
  next gate hg =>
    refine .bind (x := modify _) (.transfer (.regate d wanted hl hg)) fun _ w _ => ?_
    exact .note w rfl
  next => exact .bind (x := liftM (notify .pendingRequested)) (.note v rfl) fun _ w _ => .refl w

theorem dropTicket_smooth (v : World) (n : Nat) : v.Smooth R (v.after (dropTicket n)) := by
  simp only [World.after, dropTicket, Act.bind_apply, Act.get_apply]
  cases hn : v.clients.tickets.get n with
  | none => exact .refl v
  | some g => exact .transfer (.dropTicket n g hn)

theorem performBench_keeps {c : BenchCommand} (hc : (Command.bench c).IsPermitted T.regime.driver) :
    (performBench c v).Keeps T (fun _ _ => True) v := by
  cases c with
  | requestGate g wanted =>
    cases g with
    | free n => exact hc.elim
    | device d =>
      refine (needGate_looks v d).keeps fun _ hl => ?_
      exact (Run.Keeps.act (requestGate_smooth hl wanted)).bind fun _ _ _ _ => .same trivial
  | issue g =>
    cases g with
    | free n => exact hc.elim
    | device d =>
      refine (needGate_looks v d).keeps fun _ hl => ?_
      show Run.Keeps T _ v (Run.bind (.done (issueTicket (.device d) v).2 (issueTicket (.device d) v).1) _)
      cases hg : (v.gate (.device d)).issue? with
      | none => rw [issueTicket_none hg]; exact .same trivial
      | some gate => rw [issueTicket_ok hg]; exact (World.Smooth.transfer (.pushTicket d hl hg)).keeps trivial
  | viewGate g =>
    cases g with
    | free n => exact hc.elim
    | device d => exact (needGate_looks v d).keeps fun _ _ => .same trivial
  | dropTicket n =>
    refine (ensure_looks v (n < v.clients.tickets.size)).keeps fun _ _ => ?_
    exact (Run.Keeps.act (dropTicket_smooth v n)).bind fun _ _ _ _ => .same trivial
  | _ => exact hc.elim

theorem viewSlot_goes {S : World → World → Prop} (x : DriverId) : (viewSlot x).Goes S Q :=
  .bind (openSlot_goes x) fun t => by
    cases t with
    | none => exact .pure _
    | some t => exact .bind (.of_act fun _ => .refl) fun _ => .pure _

theorem viewDriver_goes {S : World → World → Prop} (x : DriverId) : (viewDriver x).Goes S Q :=
  .bind (.of_act fun _ => .refl) fun _ => .bind (.of_act (a := get) fun _ => .refl) fun _ =>
    .bind (viewSlot_goes x) fun _ => .pure _

theorem chosen_keeps {f : DriverId → Call α} {p : World → α → Prop} (h : (f T.regime.driver v).Keeps T p v) :
    ((chooseDriver (some T.regime.driver) >>= f) v).Keeps T p v :=
  (chooseDriver_looks v _).keeps fun _ hx => hx ▸ h

def DriverCommand.Asks : DriverCommand → Prop
  | .arbitrate _ _ _ | .queryId _ _ _ => True
  | _ => False

def DriverCommand.Starts : DriverCommand → Prop
  | .start _ _ _ => True
  | _ => False

theorem performDriver_apart {c : DriverCommand} (hs : ¬c.Starts) (ha : ¬c.Asks) :
    (performDriver c).Goes World.Apart Q := by
  cases c with
  | start service flags peer => exact absurd trivial hs
  | view x => exact .look (chooseDriver_looks · x) fun _ => .bind (viewDriver_goes _) fun _ => .pure _
  | unload x => exact .look (chooseDriver_looks · x) fun _ => .bind (unload_apart _) fun _ => .pure _
  | attachTopology entries online x =>
    refine .look (chooseDriver_looks · x) fun _ => ?_
    refine .bind (.of_act (a := describeProcessors entries) (.notify_apart rfl)) fun _ => ?_
    refine .bind (attachTopology_apart _ entries online) fun t => ?_
    cases t with
    | ok t => exact .bind (.of_act fun _ => .refl) fun _ => .pure _
    | error e => exact .pure _
  | change index x b =>
    exact .look (chooseDriver_looks · b) fun _ => .bind (driverProcessorChange_apart _ index x) fun _ =>
      .bind (viewSlot_goes _) fun _ => .pure _
  | setInterceptor i x =>
    refine .look (chooseDriver_looks · x) fun b => .bind (.of_act (.step fun w => ⟨?_, rfl⟩)) fun _ => .pure _
    exact .updateDriver w b (fun _ => rfl) fun _ => ⟨rfl, rfl⟩
  | readSelection path => exact .bind (.of_act (readSelection_apart path)) fun _ => .pure _
  | compare selection deviceId instanceId => exact .pure _
  | arbitrate selection d x => exact absurd trivial ha
  | queryId d t x => exact absurd trivial ha

theorem performDriver_permitted {b : DriverId} {c : DriverCommand} (hc : (Command.driver c).IsPermitted b)
    (ha : ¬c.Asks) : (performDriver c).Goes World.Apart Q :=
  performDriver_apart (fun hs => by cases c <;> first | exact hc | exact hs) ha

theorem performDriver_keeps {c : DriverCommand} (hs : v.Sane T.regime)
    (hc : (Command.driver c).IsPermitted T.regime.driver) : (performDriver c v).Keeps T (fun _ _ => True) v := by
  by_cases ha : c.Asks
  case neg => exact (performDriver_permitted hc ha).aside.idle T rfl v
  cases c with
  | arbitrate selection d x =>
    cases hc
    refine (needDevice_looks v d).keeps fun _ hd => ?_
    exact chosen_keeps ((arbitrate_keeps hs hd selection).bind fun _ _ _ _ => .same trivial)
  | queryId d t x =>
    cases hc
    refine (needDevice_looks v d).keeps fun _ hd => ?_
    exact chosen_keeps ((queryId_keeps hs hd t).bind fun _ _ _ _ => .same trivial)
  | _ => exact ha.elim

theorem createNamed_smooth {make : Identity → ExceptT Status Act DeviceId} (deviceId instanceId : String)
    (hm : ∀ identity, v.Smooth R (v.after (make identity).run)) :
    v.Smooth R (v.after (createNamed deviceId instanceId make)) := by
  show v.Smooth R (v.after (do make (← Identity.make deviceId instanceId) : ExceptT Status Act DeviceId).run)
  cases Identity.make deviceId instanceId with
  | error e => exact .refl v
  | ok identity => exact hm identity

theorem acquireToken_closed (hc : v.IsClosed d) : (acquireToken d).run v = (.error .deletePending, v) := by
  rw [acquireToken, Act.run_bind, acquireLock_closed hc]

theorem acquireToken_open (ho : ¬v.IsClosed d) :
    (acquireToken d).run v = (.ok v.clients.tokens.size, v.pushToken d) := by
  rw [acquireToken, Act.run_bind, acquireLock_open ho]
  rfl

theorem dropToken_smooth (v : World) (n : Nat) : v.Smooth R (v.after (dropToken n)) := by
  simp only [World.after, dropToken, Act.bind_apply, Act.get_apply]
  cases hn : v.clients.tokens.get n with
  | none => exact .refl v
  | some d => exact .transfer (.dropToken n d hn)

theorem performDevice_keeps {c : DeviceCommand} (hs : v.Sane T.regime)
    (hc : (Command.device c).IsPermitted T.regime.driver) : (performDevice c v).Keeps T (fun _ _ => True) v := by
  cases c with
  | create deviceId instanceId x =>
    cases hc
    exact chosen_keeps (.act (createNamed_smooth deviceId instanceId (createPhysical_smooth v)))
  | attach d x =>
    cases hc
    refine (needDevice_looks v d).keeps fun _ hd => ?_
    exact chosen_keeps ((attachDevice_keeps hs hd).bind fun _ _ _ _ => .same trivial)
  | addChild d deviceId instanceId x =>
    cases hc
    refine (needDevice_looks v d).keeps fun _ _ => ?_
    exact chosen_keeps (.act (createNamed_smooth deviceId instanceId (addChild_smooth v d)))
  | find deviceId instanceId role x =>
    cases hc
    exact chosen_keeps (.same trivial)
  | records x =>
    cases hc
    exact chosen_keeps (.same trivial)
  | forget d =>
    refine (needDevice_looks v d).keeps fun _ _ => ?_
    exact World.Smooth.keeps (.agrees ⟨rfl, rfl, rfl, rfl, rfl, rfl, Nat.le_refl _, rfl, id⟩) trivial
  | acquire d =>
    refine (needDevice_looks v d).keeps fun _ hd => ?_
    show Run.Keeps T _ v (Run.bind (.done (v.after (acquireToken d).run) ((acquireToken d).run v).1) _)
    by_cases hc : v.IsClosed d
    · rw [World.after, acquireToken_closed hc]
      exact fun _ => .same trivial
    · rw [World.after, acquireToken_open hc]
      exact fun hf => (World.Smooth.transfer (.pushToken d hd hc hf)).keeps trivial
  | dropToken n =>
    refine (ensure_looks v (n < v.clients.tokens.size)).keeps fun _ _ => ?_
    exact (Run.Keeps.act (dropToken_smooth v n)).bind fun _ _ _ _ => .same trivial
  | route d => exact (needDevice_looks v d).keeps fun _ _ => .same trivial
  | _ => exact hc.elim

end

theorem viewRequest_goes {S : World → World → Prop} (n : Nat) (r : RequestId) :
    (liftM (viewRequest n r) : Call RequestView).Goes S Q := .of_act fun _ => .refl

theorem dispatchNumbered_keeps {k : Kind} (n : Nat) (hs : v.Sane R) (hr : v.Knows r) (hd : d < v.devices.size)
    (hk : (v.request r).kind = k) :
    (dispatchNumbered R.driver d n r v).Keeps (.of R (some (v.stack d, k)))
    (World.Reported (some (v.stack d, k)) v) v := by
  refine (dispatch_keeps_of hs hr hd hk).bind fun w s hw h => ?_
  refine ((viewRequest_goes n r).idle _ rfl w).bind fun w' view hw' _ => .same fun t s' view' ht ha => ?_
  cases ht
  cases ha
  exact (h rfl).later hw'.later

theorem performRequest_keeps {c : RequestCommand} (hs : v.Sane R) (hc : (Command.request c).IsPermitted R.driver) :
    (performRequest c v).Keeps (.of R ((Command.request c).sent v))
    (World.Reported ((Command.request c).sent v) v) v := by
  cases c with
  | send d k x =>
    cases hc
    refine (needDevice_looks v d).keeps fun _ hd => ?_
    have hw : v.Smooth R (v.enlist k) := enlist_smooth v k
    have hsend := dispatchNumbered_keeps v.clients.requests.length (hw.evolves.sane hs) (knows_ask v k)
      (Nat.lt_of_lt_of_le hd hw.evolves.later.devices) (kind_enlist v k)
    exact chosen_keeps (T := .of R (some (v.stack d, k))) (Run.Keeps.smooth hw hsend)
  | resend n d x =>
    cases hc
    refine (needRequest_looks v n).keeps fun r hn => (needDevice_looks v d).keeps fun _ hd => ?_
    rw [Command.sent, hn]
    exact chosen_keeps (T := .of R (some (v.stack d, (v.request r).kind)))
      (dispatchNumbered_keeps n hs (hs.known_number hn) hd rfl)
  | complete n s =>
    refine (needRequest_looks v n).keeps fun r hn => ?_
    refine Run.Keeps.bind (.act (.transfer (.complete r (hs.known_number hn) s))) fun w _ _ _ => ?_
    exact ((viewRequest_goes n r).idle _ rfl w).bind fun _ _ _ _ => .same .nothing
  | wait n =>
    refine (needRequest_looks v n).keeps fun r _ => ?_
    refine ((waitForCompletion_goes r).idle _ rfl v).bind fun w _ _ _ => ?_
    exact ((viewRequest_goes n r).idle _ rfl w).bind fun _ _ _ _ => .same .nothing
  | view n =>
    refine (needRequest_looks v n).keeps fun r _ => ?_
    exact ((viewRequest_goes n r).idle _ rfl v).bind fun _ _ _ _ => .same .nothing

theorem perform_keeps {c : Command} (hs : v.Sane R) (hc : c.IsPermitted R.driver) :
    (perform c v).Keeps (.of R (c.sent v)) (World.Reported (c.sent v) v) v := by
  cases c with
  | bench c => exact (performBench_keeps (T := .of R none) hc).imp fun _ _ _ _ => .nothing
  | driver c => exact (performDriver_keeps (T := .of R none) hs hc).imp fun _ _ _ _ => .nothing
  | device c => exact (performDevice_keeps (T := .of R none) hs hc).imp fun _ _ _ _ => .nothing
  | request c => exact performRequest_keeps hs hc
  | _ => exact hc.elim

/-! ## Commands that do not wait -/

theorem dispatchNumbered_quick {k : Kind} (n : Nat) (hs : v.Sane R) (hr : v.Knows r) (hd : d < v.devices.size)
    (hk : (v.request r).kind = k) (hne : k ≠ .pnp .removeDevice) :
    (dispatchNumbered R.driver d n r v).IsQuick R (fun _ _ => True) v :=
  (dispatch_quick (P := fun _ => False) rfl (hk ▸ hne) hs hr hd fun _ _ _ => id).bind fun w _ _ _ =>
    ⟨.refl w, trivial⟩

theorem chosen_quick {f : DriverId → Call α} (h : (f R.driver v).IsQuick R (fun _ _ => True) v) :
    ((chooseDriver (some R.driver) >>= f) v).IsQuick R (fun _ _ => True) v :=
  (chooseDriver_looks v _).quick fun _ hx => hx ▸ h

theorem requestGate_quick {g : GateRef} {wanted : FilterState}
    (hc : (Command.bench (.requestGate g wanted)).IsPermitted R.driver) :
    (perform (.bench (.requestGate g wanted)) v).IsQuick R (fun _ _ => True) v := by
  cases g with
  | free n => exact hc.elim
  | device d =>
    refine (needGate_looks v d).quick fun _ hl => ?_
    exact Run.IsQuick.from (requestGate_smooth hl wanted).evolves ⟨.refl _, trivial⟩

/-- A command that sends anything but a removal never waits. -/
theorem perform_quick {c : Command} {s : Stack} {k : Kind} (hs : v.Sane R) (hc : c.IsPermitted R.driver)
    (hsent : c.sent v = some (s, k)) (hk : k ≠ .pnp .removeDevice) :
    (perform c v).IsQuick R (fun _ _ => True) v := by
  cases c with
  | request c =>
    cases c with
    | send d k' x =>
      cases hc
      cases hsent
      refine (needDevice_looks v d).quick fun _ hd => ?_
      have hw : v.Smooth R (v.enlist k) := enlist_smooth v k
      have hsend := dispatchNumbered_quick v.clients.requests.length (hw.evolves.sane hs) (knows_ask v k)
        (Nat.lt_of_lt_of_le hd hw.evolves.later.devices) (kind_enlist v k) hk
      exact chosen_quick (Run.IsQuick.from hw.evolves hsend)
    | resend n d x =>
      cases hc
      refine (needRequest_looks v n).quick fun r hn => (needDevice_looks v d).quick fun _ hd => ?_
      rw [Command.sent, hn] at hsent
      cases hsent
      exact chosen_quick (dispatchNumbered_quick n hs (hs.known_number hn) hd rfl hk)
    | _ => cases hsent
  | _ => cases hsent

end PnpBus
