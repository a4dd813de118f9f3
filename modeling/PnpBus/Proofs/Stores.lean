import PnpBus.Proofs.Dispatches

/-!
# Who writes to the configuration

Only commands about the configuration and drivers that start do. All other
calls leave the store as they find it, whatever else they do, and neither a
configuration command nor a start ever waits.
-/

namespace PnpBus

variable {α : Type} {Q : World → World → Prop} {b : DriverId} {d : DeviceId} {r : RequestId} {v w : World}

/-! ## What devices and requests do -/

def World.Unwritten (v w : World) : Prop := w.store = v.store

open World (Unwritten Silent)

instance : Std.Refl Unwritten := ⟨fun _ => rfl⟩

instance : IsTrans World Unwritten := ⟨fun _ _ _ h h' => h'.trans h⟩

theorem Act.Goes.unwritten {a : Act α} (h : a.Goes Silent) : a.Goes Unwritten := h.mono fun _ _ hs => hs.store

theorem Call.Goes.unwritten {c : Call α} (h : c.Goes Silent Q) : c.Goes Unwritten Q := h.mono fun _ _ hs => hs.store

theorem store_setLock (w : World) (l : LockRef) (lock : RemoveLock) : (w.setLock l lock).store = w.store := by
  cases l <;> rfl

theorem store_setGate (w : World) (g : GateRef) (gate : FilterGate) : (w.setGate g gate).store = w.store := by
  cases g <;> rfl

theorem acquireLock_unwritten (l : LockRef) : (acquireLock l).run.Goes Unwritten := .step fun w => by
  simp only [Unwritten, World.after, acquireLock, Act.run_bind, Act.run_get]
  cases (w.lock l).acquire? with
  | none => rfl
  | some lock => exact store_setLock w l lock

theorem releaseLock_unwritten (l : LockRef) : (releaseLock l).Goes Unwritten :=
  .releaseLock (fun _ _ => rfl) fun w => store_setLock w l

theorem closeLock_unwritten (l : LockRef) : (closeLock l).Goes Unwritten := fun w => by
  rw [World.after_closeLock]
  split
  · exact .refl
  · exact .head (store_setLock w l _) (releaseLock_unwritten l _)

theorem completable_unwritten : Completable Unwritten where
  note _ _ := rfl
  request _ _ _ := rfl
  gate := store_setGate
  release d := releaseLock_unwritten (.device d)

theorem tended_unwritten : Tended Unwritten where
  clients _ _ := rfl
  issue := completable_unwritten.issueTicket
  redeem := completable_unwritten.redeemTicket
  acquire d := acquireLock_unwritten (.device d)
  release := completable_unwritten.release

theorem servable_unwritten (k : Kind) (r : RequestId) (d : DeviceId) : Servable Unwritten k r d where
  note _ _ := rfl
  inform i := .step fun _ => rfl
  move _ t := (moveDevice_silent d t).unwritten
  restore _ := (restoreDevice_silent d).unwritten
  power c := (changePower_silent d c).unwritten
  take _ := rfl
  letPass _ _ := rfl
  divert w i := by rw [Unwritten, World.divert]; cases i.bytes <;> rfl
  complete := completable_unwritten.complete r

theorem removable_unwritten (b : DriverId) (d : DeviceId) : Removable Unwritten b d where
  toDeletable := (deletable_silent b d).mono fun _ _ hs => hs.store
  take _ _ := rfl
  giveBack r := completable_unwritten.giveBack r d
  takeChildren := (takeChildren_silent d).unwritten

theorem dispatch_unwritten (b : DriverId) (d : DeviceId) (r : RequestId) : (dispatch b d r).Goes Unwritten Q :=
  .dispatch (servable_unwritten · r) (removable_unwritten b)

/-! ## What clients do -/

theorem queryId_unwritten (b : DriverId) (d : DeviceId) (t : IdType) : (queryId b d t).run.Goes Unwritten Q :=
  fun _ =>
  queryId_along rfl (completable_unwritten.inform · _) (dispatch_unwritten b d _ _)

theorem attachDevice_unwritten (b : DriverId) (d : DeviceId) : (attachDevice b d).run.Goes Unwritten Q :=
  .attachDevice (queryId_unwritten b d) (fun _ _ => rfl) fun identity matched =>
    (attachOver_silent b identity d matched).unwritten

theorem needLock_looks (v : World) (l : LockRef) : (needLock l v).Looks (fun _ => True) v := by
  cases l with
  | device d => exact (needDevice_looks v d).imp fun _ _ => trivial
  | free n => exact (ensure_looks v _).imp fun _ _ => trivial

theorem drain_unwritten (l : LockRef) : (drain l).Goes Unwritten Q :=
  .bind (.of_act (closeLock_unwritten l)) fun _ => .await _

theorem settleFree_unwritten (n : Nat) (moved : Lifecycle → Except IllegalMove Lifecycle) :
    (settleFree n moved).Goes Unwritten Q := by
  refine .bind (.of_act (a := get) fun _ => .refl) fun w => .look (ensure_looks · _) fun _ => ?_
  refine .bind (.of_act (settleMove_silent _).unwritten) fun o => ?_
  cases o with
  | ok m => exact .bind (.of_act (.step fun _ => rfl)) fun _ => .of_act fun _ => .refl
  | error e => exact .of_act fun _ => .refl

theorem needEvent_looks (v : World) (n : Nat) : (needEvent n v).Looks (fun _ => True) v :=
  (ensure_looks v _).imp fun _ _ => trivial

theorem performBench_unwritten (c : BenchCommand) : (performBench c).Goes Unwritten Q := by
  have lock {l : LockRef} {f : Call Reply} (hf : f.Goes Unwritten Q) :
      (needLock l >>= fun _ => f).Goes Unwritten Q :=
    .look (needLock_looks · l) fun _ => hf
  have viewLock (l : LockRef) (x : Except Status Unit) : (liftM (viewLock l x) : Call Reply).Goes Unwritten Q :=
    .of_act fun _ => .refl
  have viewEvent (n : Nat) : (liftM (viewEvent n) : Call Reply).Goes Unwritten Q := .of_act fun _ => .refl
  have putEvent (n : Nat) (up : Bool) : (liftM (putEvent n up) : Call Unit).Goes Unwritten Q :=
    .of_act (.step fun _ => rfl)
  cases c with
  | move n t => exact settleFree_unwritten n (·.move t)
  | restore n => exact settleFree_unwritten n (·.restore)
  | setEvent n => exact .look (needEvent_looks · n) fun _ => .bind (putEvent n true) fun _ => viewEvent n
  | resetEvent n => exact .look (needEvent_looks · n) fun _ => .bind (putEvent n false) fun _ => viewEvent n
  | waitEvent n => exact .look (needEvent_looks · n) fun _ => .bind (.await _) fun _ => viewEvent n
  | acquire l => exact lock (.bind (.of_act (acquireLock_unwritten l)) fun x => viewLock l x)
  | release l => exact lock (.bind (.of_act (releaseLock_unwritten l)) fun _ => viewLock l _)
  | drain l => exact lock (.bind (drain_unwritten l) fun _ => viewLock l _)
  | viewLock l => exact lock (viewLock l _)
  | newLifecycle | newEvent | newLock | newGate => exact fun v => .step (S := Unwritten) rfl trivial
  | _ => exact tended_unwritten.performBench trivial fun g wanted _ => completable_unwritten.requestGate g wanted

theorem performProcessor_unwritten (c : ProcessorCommand) : (performProcessor c).Goes Unwritten Q := by
  have topology {t : Nat} {f : TopologyId → Call Reply} (hf : ∀ t, (f t).Goes Unwritten Q) :
      (needTopology t >>= f).Goes Unwritten Q :=
    .look (p := fun _ _ => True) (fun v => (need_looks v _).imp fun _ _ => trivial) hf
  cases c with
  | configure p => exact fun v => .step (S := Unwritten) rfl trivial
  | identify x =>
    refine .bind (.of_act (a := get) fun _ => .refl) fun w => ?_
    split
    · exact .pure _
    · exact .pure _
    · exact .halt _
  | newTopology entries =>
    refine .bind (.of_act (a := describeProcessors entries) (.step fun _ => rfl)) fun _ => ?_
    refine .bind (.of_act (.step fun _ => rfl)) fun t => .bind (.of_act (a := get) fun _ => .refl) fun w => ?_
    exact .bind (.of_act (.step fun _ => rfl)) fun _ => .pure _
  | change t i x =>
    exact topology fun t => .bind (changeProcessor_apart t i x).silent.unwritten fun _ => .of_act fun _ => .refl
  | register t n =>
    exact topology fun t => .bind (registerFrom_apart t _ _).silent.unwritten fun _ => .of_act fun _ => .refl
  | view t => exact topology fun t => .bind (.of_act fun _ => .refl) fun _ => .pure _
  | slot t i => exact topology fun t => .bind (.of_act fun _ => .refl) fun _ => .pure _

theorem performDriver_unwritten {c : DriverCommand} (hs : ¬c.Starts) : (performDriver c).Goes Unwritten Q :=
  performDriver_goes queryId_unwritten fun ha => (performDriver_apart hs ha).silent.unwritten

theorem registerNamed_unwritten (b : DriverId) (deviceId instanceId : String) (lower : Option DeviceId)
    (active : Bool)
    (parent : Option DeviceId) : (registerNamed b deviceId instanceId lower active parent).Goes Unwritten := by
  refine (createNamed_silent deviceId instanceId fun identity => ?_).unwritten
  cases lower with
  | none => exact register_silent b identity nofun
  | some lower => exact registerOver_silent b identity lower active

theorem needDevices_looks (v : World) (o : Option DeviceId) :
    ((o.forM needDevice : Call PUnit) v).Looks (fun _ => True) v := by
  cases o with
  | none => exact ⟨rfl, trivial⟩
  | some d => exact (needDevice_looks v d).imp fun _ _ => trivial

theorem performDevice_unwritten (c : DeviceCommand) : (performDevice c).Goes Unwritten Q := by
  cases c with
  | create deviceId instanceId x =>
    exact .look (chooseDriver_looks · x) fun b =>
      .of_act (createNamed_silent _ _ (createPhysical_silent b)).unwritten
  | attach d x =>
    exact .look (needDevice_looks · d) fun _ => .look (chooseDriver_looks · x) fun b =>
      .bind (attachDevice_unwritten b d) fun _ => .pure _
  | addChild d deviceId instanceId x =>
    exact .look (needDevice_looks · d) fun _ => .look (chooseDriver_looks · x) fun b =>
      .of_act (createNamed_silent _ _ (addChild_silent b d)).unwritten
  | register deviceId instanceId lower active parent x =>
    exact .look (needDevices_looks · lower) fun _ => .look (needDevices_looks · parent) fun _ =>
      .look (chooseDriver_looks · x) fun b => .of_act (registerNamed_unwritten b _ _ lower active parent)
  | unregister d x =>
    exact .look (needDevice_looks · d) fun _ => .look (chooseDriver_looks · x) fun b =>
      .bind (.of_act (removable_unwritten b d).unregister) fun _ => .pure _
  | move d t =>
    exact .look (needDevice_looks · d) fun _ => .bind (.of_act (moveDevice_silent d t).unwritten) fun _ => .pure _
  | restore d =>
    exact .look (needDevice_looks · d) fun _ => .bind (.of_act (restoreDevice_silent d).unwritten) fun _ => .pure _
  | setPower d p =>
    exact .look (needDevice_looks · d) fun _ => .bind (.of_act (changePower_silent d p).unwritten) fun _ => .pure _
  | setFlags d bits =>
    exact .look (needDevice_looks · d) fun _ => .bind (.of_act (.step fun _ => rfl)) fun _ => .of_act fun _ => .refl
  | clearFlags d bits =>
    exact .look (needDevice_looks · d) fun _ => .bind (.of_act (.step fun _ => rfl)) fun _ => .of_act fun _ => .refl
  | _ => exact tended_unwritten.performDevice trivial

def Command.Configures : Command → Prop
  | .config _ => True
  | .driver c => c.Starts
  | _ => False

theorem perform_unwritten {c : Command} (hc : ¬c.Configures) : (perform c).Goes Unwritten Q := by
  cases c with
  | value c =>
    exact .of_act (by cases c <;> first | exact .pure _ | exact .bind (.step fun _ => rfl) fun _ => .pure _)
  | config c => exact absurd trivial hc
  | bench c => exact performBench_unwritten c
  | processor c => exact performProcessor_unwritten c
  | driver c => exact performDriver_unwritten hc
  | device c => exact performDevice_unwritten c
  | request c =>
    exact performRequest_goes (fun _ _ => rfl) tended_unwritten.clients completable_unwritten.complete
      dispatch_unwritten c

end PnpBus
