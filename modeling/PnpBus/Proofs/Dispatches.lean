import PnpBus.Proofs.Briefs
import PnpBus.Proofs.Clients

/-!
# Dispatches and commands keep within their briefs

On its way down the stack a request that is carried takes references and
tickets, and all of that happens before it is complete. A removal waits, and
may take something more when it goes on: it relies on it that the request was
not completed meanwhile, if that one is watched.
-/

namespace PnpBus

open World (Mute Silent)

variable {α : Type} {B : Brief} {b : DriverId} {d : DeviceId} {r : RequestId} {k : Kind} {v w : World}
  {below : Call Status}

/-! ## What a call relies on -/

namespace Brief

structure Others (B : Brief) (w w' : World) : Prop where
  size : w.requests.size ≤ w'.requests.size
  admits : ∀ r, B.carried = some r → B.Admits w' r

structure Fit (B : Brief) (r : RequestId) (w : World) : Prop where
  knows : w.Knows r
  admits : B.Admits w r

namespace Fit

theorem mute (h : v.Mute w) (hv : B.Fit r v) : B.Fit r w where
  knows := by rw [World.Knows, h.requests]; exact hv.knows
  admits := by rw [Admits, World.request, h.requests]; exact hv.admits

theorem updateRequest {x : RequestId} {f : Request → Request} (hf : ∀ q, (f q).completed = q.completed)
    (hv : B.Fit r v) : B.Fit r (v.updateRequest x f) where
  knows := (v.knows_updateRequest x f).mpr hv.knows
  admits hw := by
    rw [World.request_updateRequest]
    split
    next h => rw [hf, ← h.1]; exact hv.admits hw
    next => exact hv.admits hw

theorem take (d : DeviceId) {x : RequestId} (hv : B.Fit r v) : B.Fit r (v.take d x) :=
  (hv.mute (.setLock v d _)).updateRequest fun _ => rfl

theorem giveBack (d : DeviceId) {x : RequestId} (hv : B.Fit r v) : B.Fit r (v.after (giveBack x d)) := by
  rw [World.after_giveBack]
  split
  · exact (hv.updateRequest (f := fun q => { q with locks := q.locks.erase d }) fun _ => rfl).mute
      (World.of_steps (releaseLock_silent d _)).toMute
  · exact hv

theorem letPass {g : GateRef} {gate : FilterGate} {x : RequestId} (hv : B.Fit r v) :
    B.Fit r (v.letPass g x gate) := by
  refine updateRequest (fun _ => rfl) ⟨?_, ?_⟩
  · cases g <;> exact hv.knows
  · cases g <;> exact hv.admits

theorem divert (i : Interceptor) (d : DeviceId) {x : RequestId} (hv : B.Fit r v) : B.Fit r (v.divert i d x) := by
  have hn : B.Fit r (v.after (noteDiverted d)) := ⟨hv.knows, hv.admits⟩
  rw [World.divert]
  split
  · exact hn.updateRequest fun _ => rfl
  · exact hn

end Fit

end Brief

abbrev Run.WithinBrief (B : Brief) (v : World) (run : Run α) : Prop := run.Along B.Step B.Others (fun _ _ => True) v

theorem Act.Goes.briefStep {a : Act α} (h : a.Goes Silent) : a.Goes B.Step := h.mono fun _ _ hs => .mute hs.toMute

theorem Call.Goes.briefStep {Q : World → World → Prop} {c : Call α} (h : c.Goes Silent Q) : c.Goes B.Step Q :=
  h.mono fun _ _ hs => .mute hs.toMute

/-- The request is no less fit after a mute call that waited, if it is the one that is carried. -/
theorem Call.Goes.fit {c : Call α} (h : c.Goes Silent B.Others) (hb : B.carried = some r) (hv : B.Fit r v) :
    (c v).Along B.Step B.Others (fun w _ => B.Fit r w) v := by
  have hm (v w : World) (h : v.Silent w) : B.Fit r v → B.Fit r w := .mute h.toMute
  refine (((h v).keep hm (fun v w ho hv => ?_) hv).imp fun _ _ => And.right).mono
    (fun v w (h : v.Silent w) => .mute h.toMute) fun _ _ => id
  exact ⟨Nat.lt_of_lt_of_le hv.knows ho.size, ho.admits r hb⟩

/-! ## Requests at a device -/

theorem inform_goes (r : RequestId) (information : Information) : (inform r information).Goes B.Step :=
  .step fun _ => .inform r information

theorem giveBack_goes (r : RequestId) (d : DeviceId) : (giveBack r d).Goes B.Step := fun w => by
  rw [World.after_giveBack]
  split
  · exact .single (.giveBack d r)
  · exact .refl

theorem settle_goes (r : RequestId) (s : Status) : (settle r s).Goes B.Step :=
  settle_along (.step fun _ => .complete r s)

/-! ### Physical devices -/

section
variable {Q : World → World → Prop}

theorem answerable_briefStep (k : Kind) (r : RequestId) (d : DeviceId) : Answerable B.Step k r d where
  note w n := .mute (.note w n)
  inform := inform_goes r
  move _ t := (moveDevice_silent d t).briefStep
  restore _ := (restoreDevice_silent d).briefStep
  power c := (changePower_silent d c).briefStep

theorem deletable_briefStep (b : DriverId) (d : DeviceId) : Deletable B.Step b d :=
  (deletable_silent b d).mono fun _ _ hs => .mute hs.toMute

theorem physical_goes (k : Kind) : (physical b d r k).Goes B.Step Q := by
  by_cases hk : k = .pnp .removeDevice
  · rw [hk]
    exact (deletable_briefStep b d).physical (giveBack_goes r d)
  · exact (answerable_briefStep k r d).physical b hk

end

/-! ### Functional devices -/

theorem moveThen_goes {t : PnpState} {next : Call Status} (hn : ∀ w, B.Fit r w → (next w).WithinBrief B w)
    (hv : B.Fit r v) :
    (moveThen d t next v).WithinBrief B v := by
  by_cases h : (v.device d).state.canBecome t = true
  · have hm := (World.of_steps (setLifecycle_silent d ⟨t, (v.device d).state⟩ v)).toMute
    rw [moveThen_ok d v next h]
    exact (hn _ (hv.mute hm)).from (.single (.mute hm))
  · rw [moveThen_error d v next h]
    exact .step (.mute (.note v _)) trivial

section
variable (hb : ∀ w, B.Fit r w → (below w).WithinBrief B w)
include hb

theorem forwardOrRollBack_goes (hv : B.Fit r v) : (forwardOrRollBack d below v).WithinBrief B v := by
  rw [forwardOrRollBack_apply]
  refine (hb v hv).bind fun w s _ => ?_
  split
  · exact .same trivial
  · exact ⟨.head (.mute (.note w _)) ((restoreDevice_silent d).briefStep _), trivial⟩

theorem forwardThenCancel_goes (t : PnpState) (hv : B.Fit r v) :
    (forwardThenCancel d t below v).WithinBrief B v := by
  rw [forwardThenCancel_apply]
  exact (hb v hv).bind fun w s _ => ⟨(cancel_silent d t).briefStep w, trivial⟩

/-- The request goes on to what is below when all the waits for children and for the own lock are over. -/
theorem removeFunctional_goes (hc : B.carried = some r) (hv : B.Fit r v) :
    (removeFunctional b d r below v).WithinBrief B v := by
  have hd := deletable_silent b d
  have he := (World.of_steps (hd.enterRemoval v)).toMute
  rw [World.after] at he
  rcases h : (enterRemoval d).run v with ⟨e | _, w⟩
  · rw [h] at he
    rw [removeFunctional_error b d r below h]
    exact .step (.mute he) trivial
  rw [h] at he
  have ht := (World.of_steps (takeChildren_silent d w)).toMute
  have children : ((w.device d).children.forM (tearDownChild b) : Call Unit).Goes Silent B.Others :=
    tearDownAll_goes fun c _ => deletable_silent b c
  rw [removeFunctional_ok b d r below h]
  refine Run.Along.from (.tail (.single (.mute he)) (.mute ht)) ?_
  refine (children.fit hc ((hv.mute he).mute ht)).bind fun w _ hw => ?_
  refine ((hd.drain.fit hc (hw.giveBack d)).bind fun w _ hw => ?_).from (giveBack_goes r d w)
  exact (hb w hw).bind fun w s _ => (hd.finishFunctional s w).mono (fun _ _ hs => .mute hs.toMute) fun _ _ => id

theorem functionalMinor_goes (hv : B.Fit r v) (m : Minor) (hc : m = .removeDevice → B.carried = some r) :
    (functionalMinor b d r below m v).WithinBrief B v := by
  have pass (t : PnpState) : (moveThen d t below v).WithinBrief B v := moveThen_goes hb hv
  have query (t : PnpState) : (moveThen d t (forwardOrRollBack d below) v).WithinBrief B v :=
    moveThen_goes (fun w => forwardOrRollBack_goes hb) hv
  cases m with
  | startDevice =>
    rw [functionalMinor_startDevice]
    refine moveThen_goes (fun w hw => (forwardOrRollBack_goes hb hw).bind fun w s _ => ?_) hv
    split
    · exact ⟨(moveDevice_silent d _).briefStep w, trivial⟩
    · exact .same trivial
  | queryStopDevice => exact query _
  | cancelStopDevice => exact forwardThenCancel_goes hb _ hv
  | stopDevice => exact pass _
  | queryRemoveDevice => exact query _
  | cancelRemoveDevice => exact forwardThenCancel_goes hb _ hv
  | removeDevice => exact removeFunctional_goes hb (hc rfl) hv
  | surpriseRemoval => exact pass _
  | queryId t => exact hb v hv
  | queryRelations t =>
    cases t with
    | bus => exact ⟨.head (.mute (.note v _)) (inform_goes r _ _), trivial⟩
    | _ => exact hb v hv

end

/-! ### Diverted requests -/

theorem letPass_divert_briefSteps {gate : FilterGate} (hc : B.carried = some r) (hv : B.Fit r v)
    (hg : (v.gate (.device d)).issue? = some gate) (i : Interceptor) :
    B.Steps v ((v.letPass (.device d) r gate).divert i d r) := by
  have ht : .device d ∈ ((v.letPass (.device d) r gate).request r).tickets := by
    rw [World.letPass, World.request_updateRequest, if_pos ⟨rfl, hv.knows⟩]
    exact List.mem_cons_self
  have he : ((v.letPass (.device d) r gate).gate (.device d)).state = .enabled := by
    rw [World.letPass, World.gate_updateRequest]
    by_cases hd : v.HasGate (.device d)
    · rw [World.gate_setGate_self hd]; exact FilterGate.enabled_issue? hg
    · rw [World.gate_of_not_hasGate (mt World.hasGate_setGate.mp hd)]; rfl
  have hn : B.Steps v ((v.letPass (.device d) r gate).after (noteDiverted d)) :=
    .tail (.single (.letPass d r hv.admits hg)) (.divert d r hc ht he)
  rw [World.divert]
  split
  · exact hn.tail (.inform r _)
  · exact hn

theorem transfer_goes (hb : ∀ w, B.Fit r w → (below w).WithinBrief B w) (hc : B.carried = some r) (hv : B.Fit r v) :
    (transfer b d r below v).WithinBrief B v := by
  rw [transfer_apply]
  split
  · exact hb v hv
  next i _ =>
    split
    · exact hb v hv
    next gate hg =>
      have hs := letPass_divert_briefSteps hc hv hg i
      rw [divert_apply]
      split
      · exact ⟨hs, trivial⟩
      · exact ⟨hs, trivial⟩
      · exact ⟨hs.tail (.complete r _), trivial⟩
      · refine Run.Along.from hs (Run.Along.bind (hb _ (hv.letPass.divert i d)) fun w s _ => ?_)
        exact ⟨settle_goes r s w, trivial⟩

theorem functional_goes (hb : ∀ w, B.Fit r w → (below w).WithinBrief B w)
    (hc : B.carried = some r ∨ ∃ t, k = .pnp (.queryId t)) (hv : B.Fit r v) :
    (functional b d r below k v).WithinBrief B v := by
  cases k with
  | pnp m =>
    have hn := Mute.note v (.functionalAsked (v.device d).identity.deviceId m)
    rw [functional_pnp]
    refine (functionalMinor_goes hb (hv.mute hn) m fun hm => ?_).from (.single (.mute hn))
    refine hc.resolve_right fun ⟨t, ht⟩ => ?_
    rw [hm] at ht
    cases ht
  | power c =>
    have hp := (World.of_steps (changePower_silent d c v)).toMute
    rw [functional_power]
    split
    · exact (hb _ (hv.mute hp)).from (.single (.mute hp))
    · exact .step (.mute hp) trivial
  | _ => exact transfer_goes hb (hc.resolve_right nofun) hv

/-! ## Whole stacks -/

/-- A request that is not carried may only ask who the device is: it is not diverted, and there is no wait. -/
theorem deliver_goes (hc : B.carried = some r ∨ ∃ t, k = .pnp (.queryId t)) :
    ∀ {s : Stack} {v : World}, B.Fit r v → (deliver b r k s v).WithinBrief B v
  | .physical d, v, hv =>
    .admitted (fun _ => trivial) (fun n => .mute (.note v n)) (.take d r hv.admits) (physical_goes k _)
  | .functional d _, v, hv =>
    .admitted (fun _ => trivial) (fun n => .mute (.note v n)) (.take d r hv.admits) <|
      functional_goes (fun _ hx => deliver_goes hc hx) hc (hv.take d)

theorem dispatch_goes (hc : B.carried = some r ∨ ∃ t, (v.request r).kind = .pnp (.queryId t)) (hv : B.Fit r v) :
    (dispatch b d r v).WithinBrief B v := by
  rw [dispatch_apply]
  exact (deliver_goes hc hv).bind fun w s _ => ⟨settle_goes r s w, trivial⟩

/-! ## Identity queries -/

theorem queryId_goes (t : IdType) : (queryId b d t).run.Goes B.Step B.Others := fun v => by
  have hq := request_ask v (.pnp (.queryId t))
  refine queryId_along (.ask _) (inform_goes · _)
    (dispatch_goes (.inr ⟨t, by rw [hq]⟩) ⟨knows_ask v _, fun _ => ?_⟩)
  rw [hq]

theorem attachDevice_goes : (attachDevice b d).run.Goes B.Step B.Others :=
  .attachDevice queryId_goes (fun w n => .mute (.note w n)) fun identity matched =>
    (attachOver_silent b identity d matched).briefStep

/-! ## Commands -/

def Command.carries (w : World) : Command → Option RequestId
  | .request (.send _ _ _) => some w.requests.size
  | .request (.resend n _ _) => w.clients.requests[n]?
  | _ => none

def Command.opens : Command → Option GateRef
  | .bench (.requestGate g .enabled) => some g
  | _ => none

section
variable {Q : World → World → Prop}

theorem requestGate_goes {g : GateRef} {wanted : FilterState} (h : wanted = .enabled → B.opens = some g) :
    (requestGate g wanted).run.Goes B.Step := fun w => by
  rw [World.after]
  cases hg : (w.gate g).request? wanted with
  | none => rw [requestGate_none hg]; exact .single (.mute (.note w _))
  | some gate =>
    rw [requestGate_some hg]
    exact .head (.regate g gate fun he => .inr (h (FilterGate.enabled_of_request? hg he)))
      (.single (.mute (.note _ _)))

theorem issueTicket_goes (g : GateRef) : (issueTicket g).Goes B.Step := fun w => by
  rw [World.after]
  cases hg : (w.gate g).issue? with
  | none => rw [issueTicket_none hg]
  | some gate =>
    rw [issueTicket_ok hg]; exact .single (.regate g gate fun _ => .inl (FilterGate.enabled_of_issue? hg))

theorem redeemTicket_goes (g : GateRef) : (redeemTicket g).Goes B.Step := fun w => by
  rw [World.after_redeemTicket]
  split
  next gate hg => exact .single (.regate g gate fun he => .inl (FilterGate.enabled_of_redeem? hg he))
  next => exact .single (.mute (.note w _))

theorem acquireLock_silent (d : DeviceId) : (acquireLock (.device d)).run.Goes Silent := fun w => by
  by_cases hc : w.IsClosed d
  · rw [World.after, acquireLock_closed hc]
  · rw [World.after, acquireLock_open hc]; exact .single (.setLock w d _)

theorem tended_briefStep : Tended B.Step where
  clients w clients := .mute (.updateClients w fun _ => clients)
  issue := issueTicket_goes
  redeem := redeemTicket_goes
  acquire d := (acquireLock_silent d).briefStep
  release d := (releaseLock_silent d).briefStep

theorem performBench_goes {c : BenchCommand} (hc : (Command.bench c).IsPermitted b)
    (ho : B.opens = (Command.bench c).opens) : (performBench c).Goes B.Step Q := by
  refine tended_briefStep.performBench (.of_isPermitted hc) fun g wanted e => requestGate_goes ?_
  rintro rfl
  rw [ho, e]
  rfl

end

theorem performDriver_withinBrief {c : DriverCommand} (hc : (Command.driver c).IsPermitted b) :
    (performDriver c).Goes B.Step B.Others :=
  performDriver_goes (fun _ _ => queryId_goes) fun ha => (performDriver_permitted hc ha).silent.briefStep

theorem createNamed_silent {make : Identity → ExceptT Status Act DeviceId} (deviceId instanceId : String)
    (hm : ∀ identity, (make identity).run.Goes Silent) : (createNamed deviceId instanceId make).Goes Silent := by
  show Act.Goes Silent (do make (← Identity.make deviceId instanceId) : ExceptT Status Act DeviceId).run
  cases Identity.make deviceId instanceId with
  | error e => exact fun _ => .refl
  | ok identity => exact hm identity

theorem performDevice_goes {c : DeviceCommand} (hc : (Command.device c).IsPermitted b) :
    (performDevice c).Goes B.Step B.Others := by
  cases c with
  | create deviceId instanceId x =>
    exact .look (chooseDriver_looks · x) fun b =>
      .of_act (createNamed_silent _ _ (createPhysical_silent b)).briefStep
  | attach d x =>
    exact .look (needDevice_looks · d) fun _ => .look (chooseDriver_looks · x) fun _ =>
      .bind attachDevice_goes fun _ =>
      .pure _
  | addChild d deviceId instanceId x =>
    exact .look (needDevice_looks · d) fun _ => .look (chooseDriver_looks · x) fun b =>
      .of_act (createNamed_silent _ _ (addChild_silent b d)).briefStep
  | _ => exact tended_briefStep.performDevice (by trivial)

theorem dispatchNumbered_withinBrief (n : Nat) (hc : B.carried = some r) (hv : B.Fit r v) :
    (dispatchNumbered b d n r v).WithinBrief B v :=
  (dispatch_goes (.inl hc) hv).bind fun w _ _ =>
    Call.Goes.bind (viewRequest_goes n r).silent.briefStep (fun _ => .pure _) w

theorem performRequest_withinBrief {c : RequestCommand} (hs : ∀ r ∈ v.clients.requests, v.Knows r)
    (hb : B.carried = (Command.request c).carries v)
    (hx : ∀ r, B.carried = some r → B.Admits v r) : (performRequest c v).WithinBrief B v := by
  have look {n : Nat} {f : RequestId → Call Reply} (hf : ∀ r, (f r).Goes B.Step B.Others) :
      (needRequest n >>= f).Goes B.Step B.Others := .look (needRequest_looks · n) hf
  have view (n : Nat) (r : RequestId) : (liftM (viewRequest n r) : Call RequestView).Goes B.Step B.Others :=
    (viewRequest_goes n r).silent.briefStep
  cases c with
  | send d k x =>
    refine (needDevice_looks v d).along fun _ _ => (chooseDriver_looks v x).along fun b _ => ?_
    have hv : B.Fit v.requests.size (v.enlist k) :=
      ⟨knows_ask v k, fun _ => congrArg Request.completed (request_ask v k)⟩
    refine (dispatchNumbered_withinBrief v.clients.requests.length hb hv).from ?_
    exact .head (.ask k) (.single (.mute (.updateClients _ _)))
  | resend n d x =>
    refine (needRequest_looks v n).along fun r hn => (needDevice_looks v d).along fun _ _ =>
      (chooseDriver_looks v x).along fun b _ => ?_
    have hr : B.carried = some r := hb.trans hn
    exact dispatchNumbered_withinBrief n hr ⟨hs r (List.mem_of_getElem? hn), hx r hr⟩
  | complete n s =>
    exact look (fun r => .bind (.of_act (.step fun _ => .complete r s)) fun _ =>
      .bind (view n r) fun _ => .pure _) v
  | wait n =>
    exact look (fun r => .bind (waitForCompletion_goes r).silent.briefStep fun _ =>
      .bind (view n r) fun _ => .pure _) v
  | view n => exact look (fun r => .bind (view n r) fun _ => .pure _) v

/-- If the request that the command carries is watched, it must not be complete at the beginning. -/
theorem perform_withinBrief {c : Command} (hs : ∀ r ∈ v.clients.requests, v.Knows r) (hc : c.IsPermitted b)
    (hb : B.carried = c.carries v) (ho : B.opens = c.opens) (hx : ∀ r, B.carried = some r → B.Admits v r) :
    (perform c v).WithinBrief B v := by
  cases c with
  | bench c => exact performBench_goes hc ho v
  | driver c => exact performDriver_withinBrief hc v
  | device c => exact performDevice_goes hc v
  | request c => exact performRequest_withinBrief hs hb hx
  | _ => exact hc.elim

end PnpBus
