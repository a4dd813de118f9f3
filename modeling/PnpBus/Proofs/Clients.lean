import PnpBus.Proofs.Deliveries

/-!
# What is done for clients

A command asks a device who it is, hands out references and tickets or takes
them back, and sends requests. It is made of a few calls, and goes along the
steps of any relation that these calls go along.
-/

namespace PnpBus

variable {S Q : World → World → Prop} {b : DriverId} {d : DeviceId} {r : RequestId} {v w : World}

/-! ## Asking a device who it is -/

theorem Act.Goes.takeId (hi : (inform r .none).Goes S) (s : Status) : (takeId r s).run.Goes S := by
  show Act.Goes S (if _ then _ else _ : ExceptT Status Act String).run
  split
  case isFalse => exact .throw _
  refine .run_bind (x := liftM (request r)) (fun _ => .refl) fun q => ?_
  refine .run_bind (x := liftM (inform r .none)) hi fun _ => ?_
  split
  · exact .ok _
  · exact .throw _

/-- The question is a request of its own, which the driver sends and waits for. -/
theorem queryId_along {t : IdType} (ha : S v (v.ask (.pnp (.queryId t)))) (hi : ∀ r, (inform r .none).Goes S)
    (hd : (dispatch b d v.requests.size (v.ask (.pnp (.queryId t)))).Along S Q (fun _ _ => True)
      (v.ask (.pnp (.queryId t)))) : ((queryId b d t).run v).Along S Q (fun _ _ => True) v := by
  refine Run.Along.except_bind (x := liftM (newRequest (.pnp (.queryId t))))
    (p := fun w a => w = v.ask (.pnp (.queryId t)) ∧ a = .ok v.requests.size) (.step ha ⟨rfl, rfl⟩) ?_
  rintro _ r ⟨rfl, hr⟩
  cases hr
  refine Run.Along.except_bind (x := liftM (dispatch b d v.requests.size)) (p := fun _ _ => True)
    (hd.bind fun _ _ _ => .same trivial) fun w s _ => ?_
  have take (s : Status) : ((liftM (takeId v.requests.size s) : ExceptT Status Call String).run).Goes S Q :=
    .lift_except (.takeId (hi _) s)
  split
  · exact Call.Goes.run_bind (.lift_call (waitForCompletion_goes _)) take w
  · exact Call.Goes.run_bind (.pure _) take w

namespace Call.Goes

variable (hq : ∀ t, (queryId b d t).run.Goes S Q)
include hq

theorem arbitrate (selection : Option Selection) : (arbitrate selection (queryId b d)).run.Goes S Q := by
  cases selection with
  | none => exact .pure _
  | some s => exact .run_bind (hq _) fun _ => .run_bind (hq _) fun _ => .pure _

theorem attachDevice (hn : ∀ (w : World) n, S w (w.note n))
    (ho : ∀ identity matched, (attachOver b identity d matched).run.Goes S) : (attachDevice b d).run.Goes S Q := by
  have note (n : Notice) : ((liftM (notify n) : ExceptT Status Call Unit).run).Goes S Q :=
    .lift (.step fun w => hn w n)
  refine .run_bind (note _) fun _ => .run_bind (.lift (a := device d) fun _ => .refl) fun v => ?_
  refine .run_bind (.lift (a := driver b) fun _ => .refl) fun owner => ?_
  have attach : (do
      let selection ← readSelection (parametersKey owner.service)
      let matched ← PnpBus.arbitrate selection (queryId b d)
      let f ← attachOver b v.identity d matched
      notify .left
      return some f : ExceptT Status Call (Option DeviceId)).run.Goes S Q := by
    refine .run_bind (.lift_except (readSelection_goes (fun w n _ => hn w n) _)) fun selection => ?_
    refine .run_bind (arbitrate hq selection) fun matched => ?_
    exact .run_bind (.lift_except (ho v.identity matched)) fun f => .run_bind (note _) fun _ => .pure _
  split
  · split
    · exact attach
    · exact .throw _
  · exact .run_bind (note _) fun _ => .pure _

end Call.Goes

/-- A command to a driver asks a device who it is, or is none of the devices' business. -/
theorem performDriver_goes {c : DriverCommand} (hq : ∀ b d t, (queryId b d t).run.Goes S Q)
    (ha : ¬c.Asks → (performDriver c).Goes S Q) : (performDriver c).Goes S Q := by
  by_cases hc : c.Asks
  case neg => exact ha hc
  cases c with
  | arbitrate selection d x =>
    exact .look (needDevice_looks · d) fun _ => .look (chooseDriver_looks · x) fun b =>
      .bind (Call.Goes.arbitrate (hq b d) selection) fun _ => .pure _
  | queryId d t x =>
    exact .look (needDevice_looks · d) fun _ => .look (chooseDriver_looks · x) fun b =>
      .bind (hq b d t) fun _ => .pure _
  | _ => exact hc.elim

/-! ## References and tickets -/

/-- Steps of `S` are enough to hand out references and tickets, and to take them back. -/
structure Tended (S : World → World → Prop) : Prop where
  clients : ∀ (w : World) clients, S w { w with clients }
  issue : ∀ g, (issueTicket g).Goes S
  redeem : ∀ g, (redeemTicket g).Goes S
  acquire : ∀ d, (acquireLock (.device d)).run.Goes S
  release : ∀ d, (releaseLock (.device d)).Goes S

def BenchCommand.Tends : BenchCommand → Prop
  | .requestGate _ _ | .issue _ | .viewGate _ | .dropTicket _ => True
  | _ => False

def DeviceCommand.Tends : DeviceCommand → Prop
  | .find _ _ _ _ | .records _ | .forget _ | .acquire _ | .dropToken _ | .route _ => True
  | _ => False

theorem BenchCommand.Tends.of_isPermitted {c : BenchCommand} (hc : (Command.bench c).IsPermitted b) : c.Tends := by
  cases c <;> trivial

theorem anyGate_looks (v : World) (g : GateRef) : (needGate g v).Looks (fun _ => True) v := by
  cases g with
  | device d => exact (needGate_looks v d).imp fun _ _ => trivial
  | free n => exact (ensure_looks v _).imp fun _ _ => trivial

namespace Tended

variable (h : Tended S)
include h

theorem dropTicket (n : Nat) : (dropTicket n).Goes S := by
  refine .bind (a := get) (fun _ => .refl) fun w => ?_
  split
  · exact .pure _
  · exact .bind (.step fun w => h.clients w _) fun _ => .bind (h.redeem _) fun _ => .pure _

theorem acquireToken (d : DeviceId) : (acquireToken d).run.Goes S :=
  .run_bind (h.acquire d) fun _ => .step fun w => h.clients w _

theorem dropToken (n : Nat) : (dropToken n).Goes S := by
  refine .bind (a := get) (fun _ => .refl) fun w => ?_
  split
  · exact .pure _
  · exact .bind (.step fun w => h.clients w _) fun _ => .bind (h.release _) fun _ => .pure _

theorem performBench {c : BenchCommand} (hc : c.Tends)
    (hg : ∀ g wanted, c = .requestGate g wanted → (requestGate g wanted).run.Goes S) :
    (performBench c).Goes S Q := by
  cases c with
  | requestGate g wanted =>
    exact .look (anyGate_looks · g) fun _ => .bind (.of_act (hg g wanted rfl)) fun _ => .of_act fun _ => .refl
  | issue g =>
    refine .look (anyGate_looks · g) fun _ => .bind (.of_act (h.issue g)) fun issued => ?_
    have ticket (x : Option Nat) : (do return .ticket x ((← get).gate g) : Call Reply).Goes S Q :=
      .bind (.of_act (a := get) fun _ => .refl) fun _ => .pure _
    cases issued with
    | true =>
      exact .bind (.bind (.of_act (a := addTicket g) (.step fun w => h.clients w _)) fun _ => .pure _) ticket
    | false => exact .bind (.pure _) ticket
  | viewGate g => exact .look (anyGate_looks · g) fun _ => .of_act fun _ => .refl
  | dropTicket n =>
    exact .bind (.of_act (a := get) fun _ => .refl) fun w => .look (ensure_looks · _) fun _ =>
      .bind (.of_act (h.dropTicket n)) fun _ => .pure _
  | _ => exact hc.elim

theorem performDevice {c : DeviceCommand} (hc : c.Tends) : (performDevice c).Goes S Q := by
  cases c with
  | find deviceId instanceId role x =>
    exact .look (chooseDriver_looks · x) fun b => .bind (.of_act (a := driver b) fun _ => .refl) fun _ =>
      .bind (.of_act (a := get) fun _ => .refl) fun _ => .pure _
  | records x => exact .look (chooseDriver_looks · x) fun b => .of_act fun _ => .refl
  | forget d =>
    exact .look (needDevice_looks · d) fun _ => .bind (.of_act (.step fun w => h.clients w _)) fun _ => .pure _
  | acquire d =>
    exact .look (needDevice_looks · d) fun _ => .bind (.of_act (h.acquireToken d)) fun _ =>
      .bind .checkpoint fun _ => .bind (.of_act (a := get) fun _ => .refl) fun _ => .pure _
  | dropToken n =>
    exact .bind (.of_act (a := get) fun _ => .refl) fun w => .look (ensure_looks · _) fun _ =>
      .bind (.of_act (h.dropToken n)) fun _ => .pure _
  | route d =>
    exact .look (needDevice_looks · d) fun _ => .bind (.of_act (a := device d) fun _ => .refl) fun _ => .pure _
  | _ => exact hc.elim

end Tended

/-! ## Requests -/

/-- A call that goes along whatever request it sends. -/
theorem performRequest_goes (ha : ∀ (w : World) k, S w (w.ask k))
    (hx : ∀ (w : World) clients, S w { w with clients })
    (hc : ∀ r s, (complete r s).Goes S) (hd : ∀ b d r, (dispatch b d r).Goes S Q) (c : RequestCommand) :
    (performRequest c).Goes S Q := by
  have send (b : DriverId) (d : DeviceId) (n : Nat) (r : RequestId) : (dispatchNumbered b d n r).Goes S Q :=
    .bind (hd b d r) fun _ => .bind (viewRequest_goes n r) fun _ => .pure _
  cases c with
  | send d k x =>
    refine .look (needDevice_looks · d) fun _ => .look (chooseDriver_looks · x) fun b => ?_
    -- the request is made and numbered before it is sent
    refine .bind (.of_act (.step fun w => ha w k)) fun r => .bind (.of_act (a := get) fun _ => .refl) fun w => ?_
    exact .bind (.of_act (.step fun w => hx w _)) fun _ => send b d _ r
  | resend n d x =>
    exact .look (needRequest_looks · n) fun r => .look (needDevice_looks · d) fun _ =>
      .look (chooseDriver_looks · x) fun b => send b d n r
  | complete n s =>
    exact .look (needRequest_looks · n) fun r => .bind (.of_act (hc r s)) fun _ =>
      .bind (viewRequest_goes n r) fun _ =>
      .pure _
  | wait n =>
    exact .look (needRequest_looks · n) fun r => .bind (waitForCompletion_goes r) fun _ =>
      .bind (viewRequest_goes n r) fun _ => .pure _
  | view n => exact .look (needRequest_looks · n) fun r => .bind (viewRequest_goes n r) fun _ => .pure _

end PnpBus
