import PnpBus.Proofs.Operations
import PnpBus.Proofs.Rendezvous
import PnpBus.Proofs.Stores
import PnpBus.Proofs.WholeRuns

/-!
# Held slots

An attachment marks the slot of its driver as held until it ends. Nothing else
changes these marks: what is asked of devices, requests and processors does not
touch slots at all, and the unloading of a driver empties a slot that is free.
-/

namespace PnpBus

variable {α : Type} {Q : World → World → Prop} {b : DriverId} {d : DeviceId} {r : RequestId} {u v w : World}

/-! ## Marks -/

def World.IsHeld (w : World) (b : DriverId) : Prop := (w.driver b).slot.held = true

def World.SameHeld (v w : World) : Prop := ∀ b, w.IsHeld b ↔ v.IsHeld b

namespace World.SameHeld

theorem refl (w : World) : w.SameHeld w := fun _ => .rfl

theorem trans (h : u.SameHeld v) (h' : v.SameHeld w) : u.SameHeld w := fun b => (h' b).trans (h b)

instance : Std.Refl SameHeld := ⟨refl⟩

instance : IsTrans World SameHeld := ⟨fun _ _ _ => trans⟩

theorem of_drivers (h : w.drivers = v.drivers) : v.SameHeld w := fun b => by
  rw [IsHeld, IsHeld, driver, driver, h]

theorem updateDriver (w : World) (x : DriverId) {f : Driver → Driver} (hf : ∀ v, (f v).slot = v.slot) :
    w.SameHeld (w.updateDriver x f) := fun b => by
  rw [IsHeld, IsHeld, driver_updateDriver]
  split
  next h => rw [h.1, hf]
  next => rfl

theorem setLock (w : World) (l : LockRef) (lock : RemoveLock) : w.SameHeld (w.setLock l lock) := by
  cases l <;> exact of_drivers rfl

theorem setGate (w : World) (g : GateRef) (gate : FilterGate) : w.SameHeld (w.setGate g gate) := by
  cases g <;> exact of_drivers rfl

theorem enroll (w : World) (b : DriverId) (identity : Identity) (extension : Extension) :
    w.SameHeld (w.enroll b identity extension) := by
  have hd : w.SameHeld { w with devices := w.devices.push { identity, extension } } := of_drivers rfl
  exact hd.trans (updateDriver _ b fun _ => rfl)

end World.SameHeld

open World (SameHeld)

/-! ## Devices and requests -/

theorem Act.Goes.sameHeld {a : Act α} (h : ∀ w : World, (w.after a).drivers = w.drivers) : a.Goes SameHeld :=
  .step fun w => .of_drivers (h w)

theorem notify_sameHeld (n : Notice) : (notify n).Goes SameHeld := .sameHeld fun _ => rfl

theorem settleMove_sameHeld (o : Except IllegalMove Lifecycle) : (settleMove o).run.Goes SameHeld := by
  cases o with
  | ok m => exact .ok m
  | error e => exact .run_bind (x := liftM (notify _)) (notify_sameHeld _) fun _ => .throw _

theorem moveDevice_sameHeld (d : DeviceId) (t : PnpState) : (moveDevice d t).run.Goes SameHeld :=
  .run_bind (x := liftM (device d)) (fun _ => .refl) fun _ =>
    .run_bind (settleMove_sameHeld _) fun _ => .sameHeld fun _ => rfl

theorem restoreDevice_sameHeld (d : DeviceId) : (restoreDevice d).run.Goes SameHeld :=
  .run_bind (x := liftM (device d)) (fun _ => .refl) fun _ =>
    .run_bind (settleMove_sameHeld _) fun _ => .sameHeld fun _ => rfl

theorem changePower_sameHeld (d : DeviceId) (c : PowerChange) : (changePower d c).run.Goes SameHeld := by
  refine .run_bind (x := liftM (device d)) (fun _ => .refl) fun v => ?_
  split
  · exact .throw _
  · exact .sameHeld fun _ => rfl

theorem releaseLock_sameHeld (l : LockRef) : (releaseLock l).Goes SameHeld :=
  .releaseLock (fun _ _ => .of_drivers rfl) fun w => .setLock w l

theorem closeLock_sameHeld (l : LockRef) : (closeLock l).Goes SameHeld := fun w => by
  rw [World.after_closeLock]
  split
  · exact .refl
  · exact .head (.setLock w l _) (releaseLock_sameHeld l _)

theorem completable_sameHeld : Completable SameHeld where
  note _ _ := .of_drivers rfl
  request _ _ _ := .of_drivers rfl
  gate := .setGate
  release d := releaseLock_sameHeld (.device d)

theorem servable_sameHeld (k : Kind) (r : RequestId) (d : DeviceId) : Servable SameHeld k r d where
  note _ _ := .of_drivers rfl
  inform := completable_sameHeld.inform r
  move _ := moveDevice_sameHeld d
  restore _ := restoreDevice_sameHeld d
  power := changePower_sameHeld d
  take _ := .of_drivers rfl
  letPass w gate := (World.SameHeld.setGate w _ gate).trans (.of_drivers rfl)
  divert w i := .of_drivers (by rw [World.divert]; cases i.bytes <;> rfl)
  complete := completable_sameHeld.complete r

theorem removable_sameHeld (b : DriverId) (d : DeviceId) : Removable SameHeld b d where
  note _ _ := .of_drivers rfl
  move := moveDevice_sameHeld d
  restore := restoreDevice_sameHeld d
  close := closeLock_sameHeld _
  leave w _ := .single (.of_drivers (World.drivers_leaveParent w d))
  erase _ := .step fun w => .updateDriver w b fun _ => rfl
  letGo := .sameHeld fun _ => rfl
  take _ _ := .of_drivers rfl
  giveBack r := completable_sameHeld.giveBack r d
  takeChildren := .sameHeld fun _ => rfl

theorem dispatch_sameHeld (b : DriverId) (d : DeviceId) (r : RequestId) : (dispatch b d r).Goes SameHeld Q :=
  .dispatch (servable_sameHeld · r) (removable_sameHeld b)

theorem queryId_sameHeld (b : DriverId) (d : DeviceId) (t : IdType) : (queryId b d t).run.Goes SameHeld Q :=
  fun _ =>
  queryId_along (.of_drivers rfl) (completable_sameHeld.inform · _) (dispatch_sameHeld b d _ _)

/-! ## New devices -/

theorem register_sameHeld (b : DriverId) (identity : Identity) (extension : Extension) :
    (register b identity extension).run.Goes SameHeld := fun w => by
  rw [World.after]
  cases h : w.lookup b ⟨identity, extension.role⟩ with
  | some d => rw [register_error (by rw [h]; rfl)]
  | none =>
    rw [register_ok h]
    exact .head (.enroll w b identity extension) (notify_sameHeld _ _)

theorem finishCreation_sameHeld (d : DeviceId) : (finishCreation d).Goes SameHeld := .sameHeld fun _ => rfl

theorem createPhysical_sameHeld (b : DriverId) (identity : Identity) :
    (createPhysical b identity).run.Goes SameHeld :=
  .run_bind (register_sameHeld b identity _) fun d =>
    .run_bind (x := liftM (finishCreation d)) (finishCreation_sameHeld d) fun _ => .ok _

theorem setClaim_sameHeld (b : DriverId) (claimed : Bool) : (setClaim b claimed).Goes SameHeld :=
  .step fun w => .updateDriver w b fun _ => rfl

theorem claimActive_sameHeld (b : DriverId) (identity : Identity) (matched : Bool) :
    (claimActive b identity matched).Goes SameHeld := fun w => by
  rw [World.after, claimActive_apply]
  dsimp only
  split
  · split
    · exact (setClaim_sameHeld b true w).tail (.of_drivers rfl)
    · exact setClaim_sameHeld b true w
  · exact .refl

theorem attachOver_sameHeld (b : DriverId) (identity : Identity) (d : DeviceId) (matched : Bool) :
    (attachOver b identity d matched).run.Goes SameHeld := by
  refine .run_bind (x := liftM (claimActive b identity matched))
    (claimActive_sameHeld b identity matched) fun a => ?_
  refine .run_bind (.run_tryCatch ?_ fun e => ?_) fun f => ?_
  · exact .run_bind (x := get) (fun _ => .refl) fun w => register_sameHeld b identity _
  · split
    · exact .run_bind (x := liftM (setClaim b false)) (setClaim_sameHeld b false) fun _ => .throw _
    · exact .throw _
  · exact .run_bind (x := liftM (finishCreation f)) (finishCreation_sameHeld f) fun _ =>
      .run_bind (x := liftM (notify _)) (notify_sameHeld _) fun _ => .ok _

theorem addChild_sameHeld (b : DriverId) (f : DeviceId) (identity : Identity) :
    (addChild b f identity).run.Goes SameHeld := by
  refine .run_bind (x := liftM (device f)) (fun _ => .refl) fun v => ?_
  split
  · exact .throw _
  split
  · refine .run_bind (register_sameHeld b identity _) fun d =>
      .run_bind (x := liftM (finishCreation d)) (finishCreation_sameHeld d) fun _ => ?_
    exact .run_bind (x := modify _) (.sameHeld fun _ => rfl) fun _ => .ok _
  · exact .throw _

/-! ## Processors -/

theorem sendJob_sameHeld (index : UInt32) (t : TopologyId) (p : ProbeId) :
    (sendJob index t p).run.Goes SameHeld := by
  refine .run_bind (x := liftM (noteRun index)) (.sameHeld fun _ => rfl) fun _ => ?_
  refine .run_bind (x := get) (fun _ => .refl) fun w => ?_
  split
  · exact .throw _
  · exact .ok _
  · exact .sameHeld fun _ => rfl

theorem probeProcessor_sameHeld (t : TopologyId) (processor : UInt32) :
    (probeProcessor t processor).run.Goes SameHeld := by
  have note (n : Notice) : (liftM (notify n) : ExceptT CpuFault Act Unit).run.Goes SameHeld := notify_sameHeld n
  refine .run_bind (note _) fun _ => .run_bind (x := get) (fun _ => .refl) fun w => ?_
  refine .run_bind (x := liftM (w.platform.identify processor)) ?_ fun who => ?_
  · cases w.platform.identify processor <;> exact fun _ => .refl
  refine .run_bind (x := liftM (topology t)) (fun _ => .refl) fun v => ?_
  split
  · exact .run_bind (note _) fun _ _ => .refl
  refine .run_bind (note _) fun _ => .run_bind (note _) fun _ => .run_bind (note _) fun _ => ?_
  refine .run_bind (x := liftM (topology t)) (fun _ => .refl) fun v => ?_
  split
  · exact .run_bind (x := modify _) (.sameHeld fun _ => rfl) fun _ => note _
  · exact fun _ => .refl

theorem job_sameHeld (j : Job) : j.run.Goes SameHeld := by
  refine .bind (probeProcessor_sameHeld j.topology j.processor) fun outcome => ?_
  split
  · exact .sameHeld fun _ => rfl
  · exact .sameHeld fun _ => rfl
  · exact .pure _

theorem populate_sameHeld (t : TopologyId) (index : UInt32) : (populate t index).run.Goes SameHeld Q := by
  refine .run_bind (.lift (fun _ => .refl)) fun v => ?_
  split
  · refine .run_bind (.lift (.sameHeld fun _ => rfl)) fun p =>
      .run_bind (.lift_except (sendJob_sameHeld index t p)) fun _ => ?_
    exact .bind (.await _) fun _ => .bind (.of_act (fun _ => .refl)) fun _ => .pure _
  · exact .run_bind (.lift (notify_sameHeld _)) fun _ => .throw _

theorem changeProcessor_sameHeld (t : TopologyId) (index : UInt32) (c : ProcessorChange) :
    (changeProcessor t index c).run.Goes SameHeld Q := by
  have apply : (applyChange t index c).run.Goes SameHeld Q := by
    cases c with
    | addStart => exact .lift (.sameHeld fun _ => rfl)
    | addComplete => exact populate_sameHeld t index
    | addFailed => exact .lift (notify_sameHeld _)
  exact .bind (.of_act (notify_sameHeld _)) fun _ => .bind apply fun _ =>
    .bind (.of_act (notify_sameHeld _)) fun _ => .pure _

theorem registerFrom_sameHeld (t : TopologyId) :
    ∀ (n : Nat) (index : UInt32), (registerFrom t index n).run.Goes SameHeld Q
  | 0, _ => .pure _
  | n + 1, index => .run_bind (changeProcessor_sameHeld t index .addStart) fun _ =>
    .run_bind (changeProcessor_sameHeld t index .addComplete) fun _ => registerFrom_sameHeld t n (index + 1)

/-! ## Slots of drivers -/

theorem World.isHeld_setSlot (w : World) (b : DriverId) (slot : TopologySlot) (x : DriverId) :
    (w.after (setSlot b slot)).IsHeld x ↔ if x = b ∧ b < w.drivers.size then slot.held = true else w.IsHeld x := by
  show ((w.updateDriver b fun v => { v with slot }).driver x).slot.held = true ↔ _
  rw [driver_updateDriver]
  split <;> rfl

/-- A driver that holds a slot is there. -/
theorem World.IsHeld.lt (h : w.IsHeld b) : b < w.drivers.size := by
  refine Classical.byContradiction fun hb => ?_
  have hd : w.driver b = default := Table.get_of_size_le (Nat.le_of_not_lt hb)
  rw [IsHeld, hd] at h
  exact Bool.false_ne_true h

namespace Run

/-- The slot `k`, if any, is held at every wait and let go at the end. All others stay as they are. -/
def HoldsSlot (k : Option DriverId) : World → Run α → Prop
  | v, done w _ => ∀ b, w.IsHeld b ↔ v.IsHeld b ∧ k ≠ some b
  | v, via _ rest => rest.HoldsSlot k v
  | v, wait w _ resume => v.SameHeld w ∧ ∀ w', (∀ b, k = some b → w'.IsHeld b) → (resume w').HoldsSlot k w'
  | _, halt _ _ => True

namespace HoldsSlot

variable {k : Option DriverId} {run : Run α} {p : World → α → Prop}

theorem «from» (hv : u.SameHeld v) (h : run.HoldsSlot k v) : run.HoldsSlot k u := by
  induction run with
  | done w a => exact fun b => by rw [h b, hv b]
  | via w rest ih => exact ih h
  | wait w on resume => exact ⟨hv.trans h.1, h.2⟩
  | halt w why => trivial

theorem done {a : α} (h : v.SameHeld w) : (Run.done w a).HoldsSlot none v := by
  intro b
  rw [h b]
  exact ⟨fun hb => ⟨hb, nofun⟩, And.left⟩

theorem of_along (h : run.Along SameHeld (fun _ _ => True) p v) : run.HoldsSlot none v := by
  induction run generalizing v with
  | done w a => exact done (World.of_steps h.1)
  | via w rest ih => exact ih h
  | wait w on resume ih => exact ⟨World.of_steps h.1, fun w' _ => ih w' (h.2 w' trivial)⟩
  | halt w why => trivial

/-- What is done while the slot is held leaves it as it is. -/
theorem bind {β : Type} {f : α → World → Run β} (h : run.Along SameHeld (fun _ _ => True) p v) (hv : v.IsHeld b)
    (hf : ∀ a w, w.IsHeld b → (f a w).HoldsSlot (some b) w) : (run.bind f).HoldsSlot (some b) v := by
  induction run generalizing v with
  | done w a =>
    have hw := World.of_steps h.1
    exact .from hw (hf a w ((hw b).mpr hv))
  | via w rest ih => exact ih h hv
  | wait w on resume ih => exact ⟨World.of_steps h.1, fun w' hw => ih w' (h.2 w' trivial) (hw b rfl)⟩
  | halt w why => trivial

end HoldsSlot

end Run

theorem unload_holdsSlot (b : DriverId) (v : World) : ((unload b).run v).HoldsSlot none v := by
  have hv : v.SameHeld (v.note .entered) := .of_drivers rfl
  cases he : (v.driver b).registry.isEmpty with
  | false =>
    have hp : ¬((v.note .entered).driver b).registry.isEmpty = true := fun h => Bool.false_ne_true (he.symm.trans h)
    have hu : (unload b).run v = .done
        ((v.note .entered).note (.devicesPresent (v.driver b).service (v.driver b).registry.size))
          (.error .busy) := by
      simp only [unload, Call.run_bind, Call.run_act, Act.notify_apply, Act.driver_apply, World.after, Run.bind,
        if_neg hp]
      rfl
    rw [hu]
    exact .done (.of_drivers rfl)
  | true =>
    rw [unload_absent b he]
    split
    next h => trivial
    next h =>
      refine .done fun x => ?_
      show ((v.note .entered).after (setSlot b {})).IsHeld x ↔ v.IsHeld x
      rw [World.isHeld_setSlot]
      split
      next hx => exact ⟨fun hf => absurd hf Bool.false_ne_true, fun hh => absurd (hx.1 ▸ hh) h⟩
      next => exact hv x

theorem World.isHeld_attaching (firmware : ProcessorTable) (hb : b < v.drivers.size) (x : DriverId) :
    (v.attaching b firmware).IsHeld x ↔ v.IsHeld x ∨ x = b := by
  refine (World.isHeld_setSlot { v with topologies := v.topologies.push { firmware } } b _ x).trans ?_
  split
  next h => exact ⟨fun _ => .inr h.1, fun _ => rfl⟩
  next h => exact ⟨.inl, fun hx => hx.resolve_right fun e => h ⟨e, hb⟩⟩

theorem Run.HoldsSlot.setSlot {slot : TopologySlot} (hw : w.IsHeld b) (hf : slot.held = false) (a : α) :
    (Run.done (w.after (setSlot b slot)) a).HoldsSlot (some b) w := by
  intro x
  rw [World.isHeld_setSlot, hf]
  split
  next h => exact ⟨fun hx => absurd hx Bool.false_ne_true, fun hx => absurd (congrArg some h.1.symm) hx.2⟩
  next h =>
    have hne : some b ≠ some x := fun e => h ⟨(Option.some.inj e).symm, hw.lt⟩
    exact ⟨fun hx => ⟨hx, hne⟩, And.left⟩

theorem attachTopology_held (firmware : ProcessorTable) (online : UInt32) (hm : (v.driver b).mode ≠ .safeBoot)
    (hh : v.IsHeld b) : (attachTopology b firmware online).run v = .halt v .deadlock := by
  have hopen : openSlot b v = .halt v .deadlock := by
    rw [openSlot_apply]
    exact if_pos hh
  have hlook : (liftM (driver b) : ExceptT Status Call Driver).run v = .done v (.ok (v.driver b)) := rfl
  simp only [attachTopology, Call.run_bind, hlook, Run.bind, if_neg hm, Call.run_call, hopen]

theorem TopologySlot.eq_empty {slot : TopologySlot} (hh : ¬slot.held = true)
    (hi : ¬∃ t, slot = { installed := some t }) : slot = {} := by
  obtain ⟨installed, held⟩ := slot
  obtain rfl : held = false := eq_false_of_ne_true hh
  cases installed with
  | none => rfl
  | some t => exact absurd ⟨t, rfl⟩ hi

/-- An attachment marks its slot before its first wait, unless it is refused. If the slot is held it never ends. -/
theorem attachTopology_holdsSlot (firmware : ProcessorTable) (online : UInt32) (hb : b < v.drivers.size) :
    (∃ u : World, (∀ x, u.IsHeld x ↔ v.IsHeld x ∨ x = b) ∧ ¬v.IsHeld b ∧
        ((attachTopology b firmware online).run v).HoldsSlot (some b) u) ∨
      (∃ e, (attachTopology b firmware online).run v = .done v (.error e)) ∨
      ∃ w why, (attachTopology b firmware online).run v = .halt w why := by
  by_cases hr : (v.driver b).mode = .safeBoot ∨ ∃ t, (v.driver b).slot = { installed := some t }
  · exact .inr (.inl (attachTopology_refused hr firmware online))
  obtain ⟨hm, hi⟩ := not_or.mp hr
  by_cases hh : v.IsHeld b
  · exact .inr (.inr ⟨v, .deadlock, attachTopology_held firmware online hm hh⟩)
  have hmarked := World.isHeld_attaching firmware hb
  refine .inl ⟨v.attaching b firmware, hmarked, hh, ?_⟩
  rw [attachTopology_run hm (TopologySlot.eq_empty hh hi)]
  refine .bind (registerFrom_sameHeld _ _ 0 _) ((hmarked b).mpr (.inr rfl)) fun o w hw => ?_
  cases o with
  | ok _ => exact .setSlot hw rfl _
  | error e => exact .setSlot hw rfl _

end PnpBus
