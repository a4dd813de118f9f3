import PnpBus.Proofs.Deliveries
import PnpBus.Proofs.Gates

/-!
# What leaves requests and gates alone

Moves, restores and removals of devices, the registration of new ones and all
that is aside from devices change no request and no gate, and divert nothing.
They are mute, waits included, and do not write to the configuration either.
-/

namespace PnpBus

/-! ## Mute steps -/

structure World.Mute (v w : World) : Prop where
  requests : w.requests = v.requests
  gates : ∀ g, w.gate g = v.gate g
  diverted : w.journal.diverted = v.journal.diverted

namespace World.Mute

variable {u v w : World}

theorem aside (h : v.Aside w) : v.Mute w :=
  ⟨h.requests, fun _ => gate_congr h.devices (by rw [h.bench]), h.diverted⟩

theorem refl (w : World) : w.Mute w := ⟨rfl, fun _ => rfl, rfl⟩

theorem trans (h : u.Mute v) (h' : v.Mute w) : u.Mute w :=
  ⟨h'.requests.trans h.requests, fun g => (h'.gates g).trans (h.gates g), h'.diverted.trans h.diverted⟩

theorem note (w : World) (n : Notice) : w.Mute (w.note n) := ⟨rfl, fun _ => gate_note w n, rfl⟩

theorem updateDevice (w : World) (d : DeviceId) {f : Device → Device}
    (hf : ∀ v, (f v).layer?.map (·.gate) = v.layer?.map (·.gate)) : w.Mute (w.updateDevice d f) :=
  ⟨rfl, fun _ => gate_updateDevice hf, rfl⟩

theorem updateLayer (w : World) (d : DeviceId) {f : Layer → Layer} (hf : ∀ layer, (f layer).gate = layer.gate) :
    w.Mute (w.updateDevice d fun v => v.updateLayer f) :=
  updateDevice w d fun v => by
    rw [v.layer?_updateLayer, Option.map_map]
    exact congrArg (v.layer?.map ·) (funext hf)

theorem updateDriver (w : World) (b : DriverId) (f : Driver → Driver) : w.Mute (w.updateDriver b f) :=
  ⟨rfl, fun g => by cases g <;> rfl, rfl⟩

theorem updateClients (w : World) (f : Clients → Clients) : w.Mute (w.updateClients f) :=
  ⟨rfl, gate_updateClients w f, rfl⟩

theorem setLock (w : World) (d : DeviceId) (lock : RemoveLock) : w.Mute (w.setLock (.device d) lock) :=
  ⟨rfl, fun _ => gate_setLock w d lock, rfl⟩

theorem enroll (w : World) (b : DriverId) (identity : Identity) {extension : Extension}
    (hx : ∀ layer, extension = .functional layer → layer.gate = {}) : w.Mute (w.enroll b identity extension) :=
  ⟨rfl, fun _ => gate_enroll w b identity hx, rfl⟩

end World.Mute

structure World.Silent (v w : World) : Prop extends v.Mute w where
  store : w.store = v.store

namespace World.Silent

variable {u v w : World}

theorem refl (w : World) : w.Silent w := ⟨.refl w, rfl⟩

theorem trans (h : u.Silent v) (h' : v.Silent w) : u.Silent w := ⟨h.toMute.trans h'.toMute, h'.store.trans h.store⟩

instance : Std.Refl Silent := ⟨refl⟩

instance : IsTrans World Silent := ⟨fun _ _ _ => trans⟩

theorem apart (h : v.Apart w) : v.Silent w := ⟨.aside h.toAside, h.store⟩

theorem note (w : World) (n : Notice) : w.Silent (w.note n) := ⟨.note w n, rfl⟩

theorem updateDevice (w : World) (d : DeviceId) {f : Device → Device}
    (hf : ∀ v, (f v).layer?.map (·.gate) = v.layer?.map (·.gate)) : w.Silent (w.updateDevice d f) :=
  ⟨.updateDevice w d hf, rfl⟩

theorem updateLayer (w : World) (d : DeviceId) {f : Layer → Layer} (hf : ∀ layer, (f layer).gate = layer.gate) :
    w.Silent (w.updateDevice d fun v => v.updateLayer f) := ⟨.updateLayer w d hf, rfl⟩

theorem updateDriver (w : World) (b : DriverId) (f : Driver → Driver) : w.Silent (w.updateDriver b f) :=
  ⟨.updateDriver w b f, rfl⟩

theorem setLock (w : World) (d : DeviceId) (lock : RemoveLock) : w.Silent (w.setLock (.device d) lock) :=
  ⟨.setLock w d lock, rfl⟩

theorem enroll (w : World) (b : DriverId) (identity : Identity) {extension : Extension}
    (hx : ∀ layer, extension = .functional layer → layer.gate = {}) : w.Silent (w.enroll b identity extension) :=
  ⟨.enroll w b identity hx, rfl⟩

end World.Silent

open World (Silent)

section
variable {α : Type} {Q : World → World → Prop}

theorem Act.Goes.silent {a : Act α} (h : a.Goes World.Apart) : a.Goes Silent := h.mono fun _ _ => .apart

theorem Call.Goes.silent {c : Call α} (h : c.Goes World.Apart Q) : c.Goes Silent Q := h.mono fun _ _ => .apart

theorem notify_silent (n : Notice) : (notify n).Goes Silent := .step fun w => .note w n

/-! ### Single devices -/

theorem setLifecycle_silent (d : DeviceId) (m : Lifecycle) : (setLifecycle d m).Goes Silent :=
  .step fun w => .updateDevice w d fun _ => rfl

theorem settleMove_silent (o : Except IllegalMove Lifecycle) : (settleMove o).run.Goes Silent := by
  cases o with
  | ok m => exact .ok m
  | error e => exact .run_bind (x := liftM (notify _)) (notify_silent _) fun _ => .throw _

theorem moveDevice_silent (d : DeviceId) (t : PnpState) : (moveDevice d t).run.Goes Silent :=
  .run_bind (x := liftM (device d)) (fun _ => .refl) fun _ =>
    .run_bind (settleMove_silent _) fun m => setLifecycle_silent d m

theorem restoreDevice_silent (d : DeviceId) : (restoreDevice d).run.Goes Silent :=
  .run_bind (x := liftM (device d)) (fun _ => .refl) fun _ =>
    .run_bind (settleMove_silent _) fun m => setLifecycle_silent d m

theorem cancel_silent (d : DeviceId) (t : PnpState) : (cancel d t).run.Goes Silent := by
  refine .run_bind (x := liftM (device d)) (fun _ => .refl) fun v => ?_
  split
  · exact restoreDevice_silent d
  · exact .ok _

theorem changePower_silent (d : DeviceId) (c : PowerChange) : (changePower d c).run.Goes Silent := by
  refine .run_bind (x := liftM (device d)) (fun _ => .refl) fun v => ?_
  split
  · exact .throw _
  · exact .step fun w => .updateDevice w d fun _ => rfl

theorem releaseLock_silent (d : DeviceId) : (releaseLock (.device d)).Goes Silent := .step fun w => by
  rw [World.after_releaseLock]
  split
  · exact .setLock w d _
  · exact .note w _

/-! ### Removals -/

theorem deletable_silent (b : DriverId) (d : DeviceId) : Deletable Silent b d where
  note := .note
  move := moveDevice_silent d
  restore := restoreDevice_silent d
  close w := by
    rw [World.after_closeLock]
    split
    · exact .refl
    · exact .head (.setLock w d _) (releaseLock_silent d _)
  leave w _ := by
    rw [World.after_leaveParent]
    split
    · exact .single (.updateLayer w _ fun _ => rfl)
    · exact .refl
  erase key := .step fun w => .updateDriver w b _
  letGo := .step fun _ => ⟨⟨rfl, fun g => by cases g <;> rfl, rfl⟩, rfl⟩

theorem takeChildren_silent (d : DeviceId) : (takeChildren d).Goes Silent := by
  refine .bind (a := device d) (fun _ => .refl) fun v => ?_
  refine .bind (.step fun w => .updateLayer w d fun _ => rfl) fun _ => ?_
  exact .bind (a := takeInHand _) (.step fun _ => ⟨⟨rfl, fun g => by cases g <;> rfl, rfl⟩, rfl⟩) fun _ => .pure _

/-! ### New devices -/

theorem register_silent (b : DriverId) (identity : Identity) {extension : Extension}
    (hx : ∀ layer, extension = .functional layer → layer.gate = {}) :
    (register b identity extension).run.Goes Silent := fun w => by
  rw [World.after]
  cases h : w.lookup b ⟨identity, extension.role⟩ with
  | some d => rw [register_error (by rw [h]; rfl)]
  | none =>
    rw [register_ok h]
    exact .head (.enroll w b identity hx) (.single (.note _ _))

theorem registerOver_silent (b : DriverId) (identity : Identity) (d : DeviceId) (active : Bool) :
    (registerOver b identity d active).run.Goes Silent :=
  .run_bind (x := get) (fun _ => .refl) fun w => register_silent b identity fun layer h => by cases h; rfl

theorem finishCreation_silent (d : DeviceId) : (finishCreation d).Goes Silent :=
  .step fun w => .updateDevice w d fun _ => rfl

theorem createPhysical_silent (b : DriverId) (identity : Identity) : (createPhysical b identity).run.Goes Silent :=
  .run_bind (register_silent b identity nofun) fun d =>
    .run_bind (x := liftM (finishCreation d)) (finishCreation_silent d)
    fun _ => .ok _

theorem setClaim_silent (b : DriverId) (claimed : Bool) : (setClaim b claimed).Goes Silent :=
  .step fun w => .updateDriver w b _

theorem claimActive_silent (b : DriverId) (identity : Identity) (matched : Bool) :
    (claimActive b identity matched).Goes Silent := fun w => by
  rw [World.after, claimActive_apply]
  dsimp only
  split
  · split
    · exact (setClaim_silent b true w).tail (.note _ _)
    · exact setClaim_silent b true w
  · exact .refl

theorem attachOver_silent (b : DriverId) (identity : Identity) (d : DeviceId) (matched : Bool) :
    (attachOver b identity d matched).run.Goes Silent := by
  refine .run_bind (x := liftM (claimActive b identity matched))
    (claimActive_silent b identity matched) fun active =>
    .run_bind (.run_tryCatch (registerOver_silent b identity d active) fun e => ?_) fun f => ?_
  · split
    · exact .run_bind (x := liftM (setClaim b false)) (setClaim_silent b false) fun _ => .throw _
    · exact .throw _
  · exact .run_bind (x := liftM (finishCreation f)) (finishCreation_silent f) fun _ =>
      .run_bind (x := liftM (notify _)) (notify_silent _) fun _ => .ok _

theorem addChild_silent (b : DriverId) (f : DeviceId) (identity : Identity) :
    (addChild b f identity).run.Goes Silent := by
  refine .run_bind (x := liftM (device f)) (fun _ => .refl) fun v => ?_
  split
  · exact .throw _
  split
  · refine .run_bind (register_silent b identity nofun) fun d =>
      .run_bind (x := liftM (finishCreation d)) (finishCreation_silent d) fun _ => ?_
    exact .run_bind (x := modify _) (.step fun w => .updateLayer w f fun _ => rfl) fun _ => .ok _
  · exact .throw _

end

end PnpBus
