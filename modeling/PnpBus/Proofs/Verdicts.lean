import PnpBus.Proofs.Logbooks
import PnpBus.Proofs.WholeRuns

/-!
# The first completion decides

Nothing but a completion changes whether a request is complete and signaled and
with which status, and only the first completion of a request does. What a
handler answers after that, what is sent again and what is completed again
makes no difference to it, whatever happens in between.
-/

namespace PnpBus

open World (Silent)

variable {α : Type} {b : DriverId} {d : DeviceId} {r : RequestId} {k : Kind} {s : Status} {u v w : World}
  {cs : List (RequestId × Status)}

/-! ## Verdicts -/

/-- Whether the request is complete and signaled, and with which status. -/
def Request.outcome (q : Request) : Bool × Bool × Status := (q.completed, q.signaled, q.status)

namespace World

structure SameOutcomes (v w : World) : Prop where
  size : v.requests.size ≤ w.requests.size
  outcome : ∀ r, (w.request r).outcome = (v.request r).outcome

inductive Rules (v : World) : World → Prop
  | sameOutcomes {w : World} (h : v.SameOutcomes w) : Rules v w
  | complete (r : RequestId) (s : Status) (hr : v.Knows r) : Rules v (v.after (complete r s))

/-- From `u` on these requests were completed with these statuses, one after another, and nothing else was
decided. -/
inductive Verdicts (u : World) : List (RequestId × Status) → World → Prop
  | start : Verdicts u [] u
  | sameOutcomes {cs : List (RequestId × Status)} {v w : World} (h : Verdicts u cs v) (hw : v.SameOutcomes w) :
      Verdicts u cs w
  | complete {cs : List (RequestId × Status)} {v : World} (r : RequestId) (s : Status) (h : Verdicts u cs v)
      (hr : v.Knows r) : Verdicts u (cs ++ [(r, s)]) (v.after (complete r s))

namespace SameOutcomes

theorem of_requests (h : w.requests = v.requests) : v.SameOutcomes w :=
  ⟨Nat.le_of_eq (by rw [h]), fun r => by rw [request, request, h]⟩

theorem trans (h : u.SameOutcomes v) (h' : v.SameOutcomes w) : u.SameOutcomes w :=
  ⟨Nat.le_trans h.size h'.size, fun r => (h'.outcome r).trans (h.outcome r)⟩

theorem updateRequest (v : World) (r : RequestId) {f : Request → Request} (hf : ∀ q, (f q).outcome = q.outcome) :
    v.SameOutcomes (v.updateRequest r f) := by
  refine ⟨Nat.le_of_eq (v.requests_size_updateRequest r f).symm, fun x => ?_⟩
  rw [request_updateRequest]
  split
  next h => rw [hf, h.1]
  next => rfl

/-- A new request looks as if it had always been there, undecided. -/
theorem ask (v : World) (k : Kind) : v.SameOutcomes (v.ask k) := by
  refine ⟨by rw [World.ask, Table.size_push]; exact Nat.le_succ _, fun x => ?_⟩
  have hx : (v.ask k).request x = if x = v.requests.size then { kind := k } else v.request x := Table.get_push ..
  have hn : v.request v.requests.size = default := Table.get_of_size_le (Nat.le_refl _)
  rw [hx]
  split
  next h => rw [h, hn]; rfl
  next => rfl

theorem inform (v : World) (r : RequestId) (information : Information) :
    v.SameOutcomes (v.after (inform r information)) :=
  updateRequest v r fun _ => rfl

theorem take (v : World) (d : DeviceId) (r : RequestId) : v.SameOutcomes (v.take d r) := by
  refine .trans (.of_requests ?_) (updateRequest _ r ?_)
  · rfl
  · exact fun _ => rfl

theorem letPass (v : World) (g : GateRef) (r : RequestId) (gate : FilterGate) :
    v.SameOutcomes (v.letPass g r gate) := by
  refine .trans (.of_requests ?_) (updateRequest _ r ?_)
  · cases g <;> rfl
  · exact fun _ => rfl

theorem divert (v : World) (i : Interceptor) (d : DeviceId) (r : RequestId) : v.SameOutcomes (v.divert i d r) := by
  unfold World.divert
  split
  · exact .trans (.of_requests (w := v.after (noteDiverted d)) rfl) (.inform _ r _)
  · exact .of_requests rfl

theorem relinquish (v : World) (r : RequestId) : v.SameOutcomes (v.after (relinquish r)) :=
  (updateRequest v r (f := fun q => { q with locks := [], tickets := [] }) fun _ => rfl).trans
    (of_requests (OnlyReleases.relinquish v r).requests)

end SameOutcomes

theorem size_complete (v : World) (r : RequestId) (s : Status) :
    (v.after (PnpBus.complete r s)).requests.size = v.requests.size := by
  by_cases hc : (v.request r).completed = true
  · rw [after_complete, if_pos hc]
  · rw [requests_complete (Bool.not_eq_true _ ▸ hc)]
    exact v.requests_size_updateRequest r _

/-- A request that nobody has made yet cannot be completed. -/
theorem Rules.of_complete (v : World) (r : RequestId) (s : Status) : v.Rules (v.after (PnpBus.complete r s)) := by
  by_cases hr : v.Knows r
  · exact .complete r s hr
  have hc : (v.request r).completed = false := by
    rw [show v.request r = default from Table.get_of_size_le (Nat.le_of_not_lt hr)]; rfl
  refine .sameOutcomes ⟨Nat.le_of_eq (v.size_complete r s).symm, fun x => ?_⟩
  rw [request, requests_complete hc, ← request, request_updateRequest, if_neg fun h => hr h.2]

theorem Rules.of_briefStep {B : Brief} (h : B.Step v w) : v.Rules w := by
  cases h with
  | mute h => exact .sameOutcomes (.of_requests h.requests)
  | ask k => exact .sameOutcomes (.ask v k)
  | inform r information => exact .sameOutcomes (.inform v r information)
  | regate g gate => exact .sameOutcomes (.of_requests (by cases g <;> rfl))
  | take d r => exact .sameOutcomes (.take v d r)
  | giveBack d r =>
    refine .sameOutcomes
      (.trans (.updateRequest v r (f := fun q => { q with locks := q.locks.erase d }) fun _ => rfl) ?_)
    exact .of_requests (World.of_steps (releaseLock_silent d _)).requests
  | letPass d r => exact .sameOutcomes (.letPass v _ r _)
  | divert d r => exact .sameOutcomes (.of_requests rfl)
  | complete r s => exact .of_complete v r s

theorem outcome_complete (hr : v.Knows r) (s : Status) (x : RequestId) :
    ((v.after (PnpBus.complete r s)).request x).outcome =
      if x = r ∧ (v.request r).completed = false then (true, true, s) else (v.request x).outcome := by
  cases hc : (v.request r).completed with
  | true => rw [after_complete, if_pos hc, if_neg (by simp)]
  | false =>
    have hq := requests_complete hc s
    rw [request, hq, ← request, request_updateRequest]
    by_cases hx : x = r
    · rw [if_pos ⟨hx, hx ▸ hr⟩, if_pos ⟨hx, rfl⟩]; rfl
    · rw [if_neg fun h => hx h.1, if_neg fun h => hx h.1]

theorem after_settle_of_completed (hc : (v.request r).completed = true) (s : Status) :
    v.after (settle r s) = v := by
  by_cases hs : s = .pending
  · rw [hs]; rfl
  · rw [after, settle_of_ne r hs, after_complete, if_pos hc]

/-- An interceptor that completes a request decides it, whatever it answers after that. -/
theorem divert_decides {i : Interceptor} {returned : Status} (hr : v.Knows r) (hc : (v.request r).completed = false)
    (hi : i.diversion = .complete s returned) (d : DeviceId) (below : Call Status) :
    ((PnpBus.divert i d r below >>= fun a => (liftM (settle r a) : Call Status)) v).Ends fun w a =>
      a = returned ∧ (w.request r).outcome = (true, true, s) := by
  have ht := SameOutcomes.divert v i d r
  have hn : ((v.divert i d r).request r).completed = false := (congrArg (·.1) (ht.outcome r)).trans hc
  have hdecided := outcome_complete (Nat.lt_of_lt_of_le hr ht.size) s r
  rw [if_pos ⟨rfl, hn⟩] at hdecided
  rw [bind_settle, divert_apply, hi]
  refine ⟨rfl, ?_⟩
  rw [after_settle_of_completed (congrArg (·.1) hdecided)]
  exact hdecided

theorem Rules.size (h : v.Rules w) : v.requests.size ≤ w.requests.size := by
  cases h with
  | sameOutcomes h => exact h.size
  | complete r s => exact Nat.le_of_eq (v.size_complete r s).symm

namespace Verdicts

theorem of_steps (h : Relation.ReflTransGen Rules u w) : ∃ cs, u.Verdicts cs w := by
  induction h with
  | refl => exact ⟨[], .start⟩
  | tail _ h ih =>
    obtain ⟨cs, hv⟩ := ih
    cases h with
    | sameOutcomes h => exact ⟨cs, hv.sameOutcomes h⟩
    | complete r s hr => exact ⟨_, hv.complete r s hr⟩

/-- The first of the verdicts on a request is what becomes of it, unless it was decided before. -/
theorem outcome (h : u.Verdicts cs w) (r : RequestId) : (w.request r).outcome =
    if (u.request r).completed then (u.request r).outcome
    else ((cs.lookup r).map fun s => (true, true, s)).getD (u.request r).outcome := by
  induction h with
  | start => simp
  | sameOutcomes _ hw ih => rw [hw.outcome, ih]
  | @complete cs v x s hv hx ih =>
    rw [outcome_complete hx, List.lookup_append]
    by_cases hxr : r = x
    · subst hxr
      have hc : (v.request r).completed = (v.request r).outcome.1 := rfl
      rw [hc, ih]
      by_cases hu : (u.request r).completed = true
      · simp [hu, Request.outcome]
      · cases hl : cs.lookup r <;> simp [hu, Request.outcome]
    · have hl : List.lookup r [(x, s)] = none := List.lookup_eq_none_iff.mpr fun p hp => by
        rw [List.mem_singleton.mp hp]; exact bne_iff_ne.mpr hxr
      rw [if_neg fun h => hxr h.1, ih, hl, Option.or_none]

end Verdicts

end World

open World (Rules Verdicts)

/-! ## Every command -/

section
variable {B : Brief} {Q : World → World → Prop} {below : Call Status}

theorem Act.Goes.rules {a : Act α} (h : a.Goes B.Step) : a.Goes Rules := h.mono fun _ _ => Rules.of_briefStep

theorem complete_rules (r : RequestId) (s : Status) : (complete r s).Goes Rules := .step fun w => .of_complete w r s

theorem servable_rules (k : Kind) (r : RequestId) (d : DeviceId) : Servable Rules k r d where
  note w n := .of_briefStep (B := {}) (.mute (.note w n))
  inform i := (inform_goes (B := {}) r i).rules
  move _ t := (moveDevice_silent d t).briefStep (B := {}).rules
  restore _ := (restoreDevice_silent d).briefStep (B := {}).rules
  power c := (changePower_silent d c).briefStep (B := {}).rules
  take w := .sameOutcomes (.take w d r)
  letPass w gate := .sameOutcomes (.letPass w _ r gate)
  divert w i := .sameOutcomes (.divert w i d r)
  complete := complete_rules r

theorem removable_rules (b : DriverId) (d : DeviceId) : Removable Rules b d where
  toDeletable := (deletable_silent b d).mono fun _ _ h => .of_briefStep (B := {}) (.mute h.toMute)
  take w r := .sameOutcomes (.take w d r)
  giveBack r := (giveBack_goes (B := {}) r d).rules
  takeChildren := (takeChildren_silent d).briefStep (B := {}).rules

theorem dispatch_rules (b : DriverId) (d : DeviceId) (r : RequestId) : (dispatch b d r).Goes Rules Q :=
  .dispatch (servable_rules · r) (removable_rules b)

end

abbrev World.Larger (v w : World) : Prop := v.requests.size ≤ w.requests.size

open World (Larger)

theorem Call.Goes.rules {B : Brief} {c : Call α} (h : c.Goes B.Step B.Others) (hb : B.carried = none) :
    c.Goes Rules Larger :=
  fun v => (h v).mono (fun _ _ => Rules.of_briefStep) fun w w' hw => ⟨hw, fun r hr => by rw [hb] at hr; cases hr⟩

theorem perform_rules {c : Command} (hc : c.IsPermitted b) : (perform c).Goes Rules Larger := by
  cases c with
  | bench c => exact (performBench_goes (B := ⟨none, none, _⟩) hc rfl).rules rfl
  | driver c => exact (performDriver_withinBrief (B := {}) hc).rules rfl
  | device c => exact (performDevice_goes (B := {}) hc).rules rfl
  | request c =>
    exact performRequest_goes (fun w k => .sameOutcomes (.ask w k)) (fun _ _ => .sameOutcomes (.of_requests rfl))
      complete_rules
      dispatch_rules c
  | _ => exact hc.elim

/-! ## Every run -/

/-- One thing happens: to requests by commands only, to everything else in any way. -/
inductive Happens : Config → Config → Prop
  | begin {w : World} {fs : List Suspended} {run : Run Reply} {b : DriverId} (c : Command) (hc : c.IsPermitted b)
      (hl : (perform c w).Lands (fun _ => True) run) :
      Happens ⟨w, fs⟩ ⟨run.world, Suspended.ofRun (c.sent w) run ++ fs⟩
  | resume {w : World} {fs gs : List Suspended} {run : Run Reply} (f : Suspended) (hset : w.isSet f.on = true)
      (hl : (f.resume w).Lands (fun _ => True) run) :
      Happens ⟨w, fs ++ f :: gs⟩ ⟨run.world, Suspended.ofRun f.sent run ++ (fs ++ gs)⟩
  /-- A request is made, and not sent. -/
  | ask {w : World} {fs : List Suspended} (k : Kind) : Happens ⟨w, fs⟩ ⟨w.ask k, fs⟩
  /-- Nobody wants a request any more. -/
  | drop {w : World} {fs : List Suspended} (r : RequestId) : Happens ⟨w, fs⟩ ⟨w.after (relinquish r), fs⟩
  | other {w w' : World} {fs : List Suspended} (h : w'.requests = w.requests) : Happens ⟨w, fs⟩ ⟨w', fs⟩

def Suspended.Rules (f : Suspended) (w : World) : Prop :=
  ∀ w', w.Larger w' → (f.resume w').Along World.Rules Larger (fun _ _ => True) w'

theorem World.Rules.larger (h : Relation.ReflTransGen Rules v w) : v.Larger w :=
  World.keep_steps (I := fun w => v.requests.size ≤ w.requests.size) (fun _ _ h hv => Nat.le_trans hv h.size) h
    (Nat.le_refl _)

theorem Run.Along.ruled {run run' : Run Reply} (h : run.Along Rules Larger (fun _ _ => True) v)
    (hl : run.Lands (fun _ => True) run') (sent : Option (Stack × Kind)) :
    Relation.ReflTransGen Rules v run'.world ∧ ∀ f ∈ Suspended.ofRun sent run', f.Rules run'.world := by
  have h' := h.lands hl
  refine ⟨h'.stopped hl.stops, fun f hf => ?_⟩
  obtain ⟨w, on, resume, rfl, rfl⟩ := Suspended.mem_ofRun hf
  exact h'.2

section
variable {c c' : Config}

theorem Happens.rules (h : Happens c c') (hf : ∀ f ∈ c.suspended, f.Rules c.world) :
    Relation.ReflTransGen Rules c.world c'.world ∧ ∀ f ∈ c'.suspended, f.Rules c'.world := by
  have others {v w : World} {fs : List Suspended} (hw : Relation.ReflTransGen Rules v w)
      (hfs : ∀ f ∈ fs, f.Rules v) : ∀ f ∈ fs, f.Rules w :=
    fun f hm w' hw' => hfs f hm w' (Nat.le_trans (World.Rules.larger hw) hw')
  have carried {run run' : Run Reply} {fs : List Suspended} {v : World}
      (h : run.Along Rules Larger (fun _ _ => True) v) (hl : run.Lands (fun _ => True) run')
      (sent : Option (Stack × Kind)) (hfs : ∀ f ∈ fs, f.Rules v) : Relation.ReflTransGen Rules v run'.world ∧
        ∀ f ∈ Suspended.ofRun sent run' ++ fs, f.Rules run'.world := by
    obtain ⟨hw, hnew⟩ := h.ruled hl sent
    exact ⟨hw, fun f hm => (List.mem_append.mp hm).elim (hnew f) (others hw hfs f)⟩
  have sameOutcomes {v w : World} {fs : List Suspended} (hw : v.SameOutcomes w) (hfs : ∀ f ∈ fs, f.Rules v) :
      Relation.ReflTransGen Rules v w ∧ ∀ f ∈ fs, f.Rules w :=
    have hw := Relation.ReflTransGen.single (.sameOutcomes hw)
    ⟨hw, others hw hfs⟩
  cases h with
  | begin c hc hl => exact carried (perform_rules hc _) hl _ hf
  | @resume w fs gs run f hset hl =>
    refine carried (hf f (List.mem_append_right fs List.mem_cons_self) w (Nat.le_refl _)) hl _ fun g hg => hf g ?_
    exact Config.mem_of_mem_without g hg
  | ask k => exact sameOutcomes (.ask _ k) hf
  | drop r => exact sameOutcomes (.relinquish _ r) hf
  | other h => exact sameOutcomes (.of_requests h) hf

theorem Happens.all_rules (h : Relation.ReflTransGen Happens c c') (hf : ∀ f ∈ c.suspended, f.Rules c.world) :
    Relation.ReflTransGen Rules c.world c'.world ∧ ∀ f ∈ c'.suspended, f.Rules c'.world := by
  induction h with
  | refl => exact ⟨.refl, hf⟩
  | tail _ h ih =>
    obtain ⟨hw, hf'⟩ := h.rules ih.2
    exact ⟨ih.1.trans hw, hf'⟩

/-- Where there was no request at first, every request that is complete is signaled and has the status of its first
completion; every other one is not supported yet. What is complete stays so, with the same status. Whatever status
completes a request that was not complete is its status for good, also if an interceptor completes it and then
answers something else. -/
theorem first_completion_decides {w : World} (hw : w.requests = {}) (h : Relation.ReflTransGen Happens ⟨w, []⟩ c) :
    (∃ cs, w.Verdicts cs c.world ∧ ∀ r, (c.world.request r).completed = (cs.lookup r).isSome ∧
      (c.world.request r).signaled = (cs.lookup r).isSome ∧
      (c.world.request r).status = (cs.lookup r).getD .notSupported) ∧
    (∀ c', Relation.ReflTransGen Happens c c' → ∀ r, (c.world.request r).completed = true →
      (c'.world.request r).completed = true ∧ (c'.world.request r).signaled = true ∧
      (c'.world.request r).status = (c.world.request r).status) ∧
    ∀ r s, c.world.Knows r → (c.world.request r).completed = false →
      (∀ c', Relation.ReflTransGen Happens ⟨c.world.after (complete r s), c.suspended⟩ c' →
        (c'.world.request r).completed = true ∧ (c'.world.request r).signaled = true ∧
        (c'.world.request r).status = s) ∧
      ∀ (i : Interceptor) (d : DeviceId) (below : Call Status) (returned : Status),
        i.diversion = .complete s returned →
        ((divert i d r below >>= fun a => (liftM (settle r a) : Call Status)) c.world).Ends fun w a =>
        a = returned ∧
          (w.request r).completed = true ∧ (w.request r).signaled = true ∧ (w.request r).status = s := by
  have hq (r : RequestId) : (w.request r) = default := by rw [World.request, hw]; rfl
  obtain ⟨hc, hf⟩ := Happens.all_rules h fun f hf => absurd hf List.not_mem_nil
  obtain ⟨cs, hcs⟩ := Verdicts.of_steps hc
  have now (r : RequestId) : (c.world.request r).outcome =
      ((cs.lookup r).isSome, (cs.lookup r).isSome, (cs.lookup r).getD .notSupported) := by
    rw [hcs.outcome, hq]
    cases cs.lookup r <;> rfl
  have parts {q : Request} {x y : Bool} {s : Status} (h : q.outcome = (x, y, s)) :
      q.completed = x ∧ q.signaled = y ∧ q.status = s :=
    ⟨congrArg (·.1) h, congrArg (·.2.1) h, congrArg (·.2.2) h⟩
  refine ⟨⟨cs, hcs, fun r => parts (now r)⟩, fun c' hc' r hr => ?_, fun r s hr hn => ⟨fun c' hc' => ?_,
    fun i d below returned hi => (World.divert_decides hr hn hi d below).imp fun w a h => ⟨h.1, parts h.2⟩⟩⟩
  · obtain ⟨cs', hcs'⟩ := Verdicts.of_steps (Happens.all_rules hc' hf).1
    have hlast := hcs'.outcome r
    rw [if_pos hr] at hlast
    obtain ⟨hx, hy, -⟩ := parts (now r)
    have hlast := parts hlast
    exact ⟨hlast.1.trans hr, hlast.2.1.trans (hy.trans (hx.symm.trans hr)), hlast.2.2⟩
  · have hsize := Nat.le_of_eq (c.world.size_complete r s).symm
    obtain ⟨cs', hcs'⟩ := Verdicts.of_steps (Happens.all_rules hc' fun f hm w' hw' =>
      hf f hm w' (Nat.le_trans hsize hw')).1
    have hnow := World.outcome_complete hr s r
    rw [if_pos ⟨rfl, hn⟩] at hnow
    have hlast := hcs'.outcome r
    rw [if_pos (parts hnow).1, hnow] at hlast
    exact parts hlast

/-! ### A request that is completed again and sent again -/

theorem Run.Lands.anyhow {fit : World → Prop} {run run' : Run α} (h : run.Lands fit run') :
    run.Lands (fun _ => True) run' := by
  induction h with
  | done => exact .done trivial
  | wait => exact .wait trivial
  | via _ _ ih => exact .via trivial ih

theorem Happens.of_turn {R : Regime} (h : Turn R c c') : Happens c c' := by
  cases h with
  | begin c hc _ hl => exact .begin c hc hl.anyhow
  | resume f hset hl => exact .resume f hset hl.anyhow
  | work _ hr => exact .other (Turn.aside_work hr).requests
  | drop r => exact .drop r
  | tidy => exact .other rfl

/-- The interceptor completes the request with one status and answers another. While the device is being removed the
request is completed again, and sent again. -/
def completedAgain : List Play := [
  .begin (.device (.create "A" "" (some 0))),
  .begin (.device (.attach 0 (some 0))),
  .begin (.driver (.setInterceptor { diversion := .complete .success .busy } (some 0))),
  .begin (.request (.send 1 .create (some 0))),
  .begin (.device (.acquire 1)),
  .begin (.request (.send 1 (.pnp .removeDevice) (some 0))),
  .begin (.request (.complete 0 .unsuccessful)),
  .begin (.request (.resend 0 1 (some 0)))]

theorem first_completion_decides_of_again : ∃ c, Relation.ReflTransGen Happens ⟨.initial, []⟩ c ∧
    c.suspended ≠ [] ∧ (∃ cs, World.initial.Verdicts cs c.world ∧ cs.lookup 2 = some .success) ∧
    ∀ c', Relation.ReflTransGen Happens c c' → (c'.world.request 2).signaled = true ∧
      (c'.world.request 2).status = .success := by
  let q (c : Config) : Bool :=
    !c.suspended.isEmpty && ((c.world.request 2).completed && (c.world.request 2).status = .success)
  have hplay : ((⟨.initial, []⟩ : Config).play completedAgain).any q = true := by decide +kernel
  obtain ⟨c, hc, hq⟩ := (Option.any_eq_true _ _).mp hplay
  simp only [q, Bool.and_eq_true, Bool.not_eq_true', List.isEmpty_eq_false_iff, decide_eq_true_eq] at hq
  obtain ⟨hsusp, hcomp, hstat⟩ := hq
  have ht : Turns ⟨0, True, False⟩ ⟨.initial, []⟩ c := .of_play (by
    simp [completedAgain, Play.IsPermitted, Command.IsPermitted]) hc
  have ht := Relation.ReflTransGen.mono (fun _ _ => Happens.of_turn) _ _ ht
  obtain ⟨⟨cs, hcs, hall⟩, hlater, -⟩ := first_completion_decides rfl ht
  refine ⟨c, ht, hsusp, ⟨cs, hcs, ?_⟩, fun c' hc' => ?_⟩
  · obtain ⟨hc, -, hs⟩ := hall 2
    obtain ⟨s, hl⟩ := Option.isSome_iff_exists.mp (hc.symm.trans hcomp)
    rw [hl, hstat] at hs
    rw [hl, hs, Option.getD_some]
  · obtain ⟨-, hsig, hs⟩ := hlater c' hc' 2 hcomp
    exact ⟨hsig, hs.trans hstat⟩

end

end PnpBus
