import PnpBus.Proofs.Rendezvous

/-!
# Processors that come up together

Calls that bring up processors run in each other's waits, to their end or to a
wait of their own, in any order and to any depth, and jobs run whenever they
like. Nobody waits in vain, and every call comes to what its own probes find.
-/

namespace PnpBus

variable {α β : Type} {t : TopologyId} {i : UInt32} {j : Job} {v w : World} {firmware : ProcessorTable}

/-! ## Calls in each other's waits -/

def Call.AwaitsProbes (c : Call α) : Prop := ∀ v : World, v.IsReady → (c v).AwaitsProbes True (fun _ _ => True) v

namespace Call.AwaitsProbes

theorem pure (a : α) : (Pure.pure a : Call α).AwaitsProbes := fun _ _ => .same trivial

theorem of_act {a : Act α} (h : ∀ v : World, v.AddsProbes (v.after a)) : (liftM a : Call α).AwaitsProbes :=
  fun v _ => ⟨h v, trivial⟩

theorem look {c : Call α} {q : World → α → Prop} {f : α → Call β} (hc : ∀ v, (c v).Looks (q v) v)
    (hf : ∀ a, (f a).AwaitsProbes) :
    (c >>= f).AwaitsProbes := fun v hv => by
  obtain ⟨a, h, -⟩ | ⟨w, why, h⟩ := (hc v).stops
  · rw [Call.bind_apply, h]; exact hf a v hv
  · rw [Call.bind_apply, h]; trivial

theorem bind {c : Call α} {f : α → Call β} (hc : c.AwaitsProbes) (hf : ∀ a, (f a).AwaitsProbes) :
    (c >>= f).AwaitsProbes :=
  fun v hv => (hc v hv).bind fun w a ho _ => hf a w (World.isReady_steady.others ho hv)

theorem run_bind {x : ExceptT Status Call α} {f : α → ExceptT Status Call β} (hx : Call.AwaitsProbes x.run)
    (hf : ∀ a, Call.AwaitsProbes (f a).run) : Call.AwaitsProbes (x >>= f).run := fun v hv => by
  rw [Call.run_bind]
  refine (hx v hv).bind fun w a ho _ => ?_
  cases a with
  | ok a => exact hf a w (World.isReady_steady.others ho hv)
  | error e => exact .same trivial

theorem lift {a : Act α} (h : ∀ v : World, v.AddsProbes (v.after a)) :
    Call.AwaitsProbes (liftM a : ExceptT Status Call α).run := fun v _ => ⟨h v, trivial⟩

theorem lift_call {c : Call α} (hc : c.AwaitsProbes) : Call.AwaitsProbes (liftM c : ExceptT Status Call α).run :=
  fun v hv => (hc v hv).bind fun _ _ _ _ => .same trivial

theorem throw (e : Status) : Call.AwaitsProbes (MonadExcept.throw e : ExceptT Status Call α).run :=
  fun _ _ => .same trivial

theorem tryCatch {x : ExceptT Status Call α} {f : Status → ExceptT Status Call α} (hx : Call.AwaitsProbes x.run)
    (hf : ∀ e, Call.AwaitsProbes (f e).run) : Call.AwaitsProbes (MonadExcept.tryCatch x f).run := fun v hv => by
  rw [Call.run_tryCatch]
  refine (hx v hv).bind fun w a ho _ => ?_
  cases a with
  | ok a => exact .same trivial
  | error e => exact hf e w (World.isReady_steady.others ho hv)

end Call.AwaitsProbes

/-! ### Commands about processors -/

theorem changeProcessor_waits (t : TopologyId) (i : UInt32) (c : ProcessorChange) :
    Call.AwaitsProbes (changeProcessor t i c).run :=
      fun _ hv => (changeProcessor_awaitsProbes hv t i c).imp fun _ _ _ _ => trivial

theorem registerFrom_waits (t : TopologyId) : ∀ (n : Nat) (i : UInt32), Call.AwaitsProbes (registerFrom t i n).run
  | 0, _ => .pure _
  | n + 1, i => .run_bind (changeProcessor_waits t i .addStart) fun _ =>
    .run_bind (changeProcessor_waits t i .addComplete) fun _ => registerFrom_waits t n (i + 1)

theorem openSlot_waits (b : DriverId) : (openSlot b).AwaitsProbes := fun v _ => by
  rw [openSlot_apply]
  split
  · trivial
  · exact .same trivial

theorem attachTopology_waits (b : DriverId) (firmware : ProcessorTable) (count : UInt32) :
    Call.AwaitsProbes (attachTopology b firmware count).run := by
  refine .run_bind (.lift (.refl ·)) fun v => ?_
  split
  · exact .throw _
  refine .run_bind (.lift_call (openSlot_waits b)) fun o => ?_
  split
  · exact .throw _
  refine .run_bind (.lift (.pushTopology · _)) fun t => .run_bind (.lift (·.addsProbes_setSlot b _)) fun _ => ?_
  refine .run_bind (.tryCatch (registerFrom_waits t _ 0) fun e => ?_) fun _ => ?_
  · exact .run_bind (.lift (·.addsProbes_setSlot b _)) fun _ => .throw e
  · exact .run_bind (.lift (·.addsProbes_setSlot b _)) fun _ => .pure _

def Command.IsForProcessors : Command → Prop
  | .processor (.configure _) => False
  | .processor _ | .driver (.attachTopology _ _ _) | .driver (.change _ _ _) => True
  | _ => False

theorem performProcessor_waits {c : ProcessorCommand} (hc : (Command.processor c).IsForProcessors) :
    (performProcessor c).AwaitsProbes := by
  cases c with
  | configure p => exact hc.elim
  | identify i =>
    refine .bind (.of_act (a := get) (.refl ·)) fun w => ?_
    split
    · exact .pure _
    · exact .pure _
    · exact fun _ _ => trivial
  | newTopology entries =>
    refine .bind (.of_act (a := describeProcessors entries) (.note · _)) fun _ => ?_
    refine .bind (.of_act (.pushTopology · _)) fun t => .bind (.of_act (a := get) (.refl ·)) fun w => ?_
    exact .bind (.of_act fun v => .of_eq rfl (Nat.le_refl _) rfl rfl rfl) fun _ => .pure _
  | change n i x =>
    exact .look (needTopology_looks · n) fun t => .bind (changeProcessor_waits t i x) fun _ => .of_act (.refl ·)
  | register n count =>
    exact .look (needTopology_looks · n) fun t => .bind (registerFrom_waits t _ 0) fun _ => .of_act (.refl ·)
  | view n => exact .look (needTopology_looks · n) fun t => .bind (.of_act (.refl ·)) fun _ => .pure _
  | slot n i => exact .look (needTopology_looks · n) fun t => .bind (.of_act (.refl ·)) fun _ => .pure _

theorem performDriver_waits {c : DriverCommand} (hc : (Command.driver c).IsForProcessors) :
    (performDriver c).AwaitsProbes := by
  cases c with
  | attachTopology entries online x =>
    refine .look (chooseDriver_looks · x) fun b => ?_
    refine .bind (.of_act (a := describeProcessors entries) (.note · _)) fun _ => ?_
    refine .bind (attachTopology_waits b entries online) fun t => ?_
    cases t with
    | ok t => exact .bind (.of_act (.refl ·)) fun _ => .pure _
    | error e => exact .pure _
  | change i x y =>
    refine .look (chooseDriver_looks · y) fun b => .bind ?_ fun r => .bind ?_ fun _ => .pure _
    · refine .run_bind (.lift_call (openSlot_waits b)) fun o => ?_
      cases o with
      | some t => exact changeProcessor_waits t i x
      | none => exact .throw _
    · refine .bind (openSlot_waits b) fun o => ?_
      cases o with
      | none => exact .pure _
      | some t => exact .bind (.of_act (.refl ·)) fun _ => .pure _
  | _ => exact hc.elim

theorem perform_waits {c : Command} (hc : c.IsForProcessors) : (perform c).AwaitsProbes := by
  cases c with
  | processor c => exact performProcessor_waits hc
  | driver c => exact performDriver_waits hc
  | _ => exact hc.elim

/-! ### Whole runs -/

inductive ProcessorStep : Config → Config → Prop
  | begin {w : World} {fs : List Suspended} {run : Run Reply} (c : Command) (hc : c.IsForProcessors)
      (hl : (perform c w).Lands (fun _ => True) run) :
      ProcessorStep ⟨w, fs⟩ ⟨run.world, Suspended.ofRun none run ++ fs⟩
  | resume {w : World} {fs gs : List Suspended} {run : Run Reply} (f : Suspended) (hset : w.isSet f.on = true)
      (hl : (f.resume w).Lands (fun _ => True) run) :
      ProcessorStep ⟨w, fs ++ f :: gs⟩ ⟨run.world, Suspended.ofRun f.sent run ++ (fs ++ gs)⟩
  /-- One of the jobs runs. -/
  | work {w w' : World} {fs : List Suspended} {js ks : List Job} {j : Job} (hj : w.jobs = js ++ j :: ks)
      (hr : j.run { w with jobs := js ++ ks } = (none, w')) : ProcessorStep ⟨w, fs⟩ ⟨w', fs⟩
  /-- Something that is no concern of processors. -/
  | other {w w' : World} {fs : List Suspended} (hp : w'.platform = w.platform) (ht : w'.topologies = w.topologies)
      (hq : w'.probes = w.probes) (hj : w'.jobs = w.jobs) (hd : w.drivers.size ≤ w'.drivers.size) :
      ProcessorStep ⟨w, fs⟩ ⟨w', fs⟩

abbrev ProcessorSteps : Config → Config → Prop := Relation.ReflTransGen ProcessorStep

def Suspended.AwaitsProbes (f : Suspended) (w : World) : Prop :=
  (∃ p, f.on = .probed p ∧ w.Expected p) ∧
    ∀ w', w.Others w' → w'.isSet f.on = true → (f.resume w').AwaitsProbes True (fun _ _ => True) w'

structure Config.Attended (c : Config) : Prop where
  ready : c.world.IsReady
  awaitsProbes : ∀ f ∈ c.suspended, f.AwaitsProbes c.world

theorem Suspended.AwaitsProbes.later {f : Suspended} (h : f.AwaitsProbes v) (ho : v.Others w) :
    f.AwaitsProbes w := by
  obtain ⟨⟨p, hp, he⟩, hr⟩ := h
  exact ⟨⟨p, hp, (World.expected_steady p).others ho he⟩, fun w' ho' => hr w' (ho.trans ho')⟩

theorem Run.AwaitsProbes.lands {fit : World → Prop} {stuck : Prop} {post : World → α → Prop} {run run' : Run α}
    (hl : run.Lands fit run') (h : run.AwaitsProbes stuck post v) : run'.AwaitsProbes stuck post v := by
  induction hl with
  | done => exact h
  | wait => exact h
  | via _ _ ih => exact ih h

theorem Run.AwaitsProbes.stopped {stuck : Prop} {post : World → α → Prop} {run : Run α}
    (h : run.AwaitsProbes stuck post v) (hs : run.IsStopped) : v.AddsProbes run.world := by
  obtain ⟨w, a, rfl⟩ | ⟨w, on, resume, rfl⟩ := hs
  · exact h.1
  · exact h.1

namespace Config.Attended

variable {fs gs : List Suspended}

theorem later (h : Attended ⟨v, fs⟩) (ho : v.Others w) : Attended ⟨w, fs⟩ :=
  ⟨World.isReady_steady.others ho h.ready, fun f hf => (h.awaitsProbes f hf).later ho⟩

theorem landed {run run' : Run Reply} (h : Attended ⟨v, fs⟩) (sent : Option (Stack × Kind))
    (hb : run.AwaitsProbes True (fun _ _ => True) v) (hl : run.Lands (fun _ => True) run') :
    Attended ⟨run'.world, Suspended.ofRun sent run' ++ fs⟩ ∧ v.Others run'.world := by
  have hb := hb.lands hl
  have ho := (hb.stopped hl.stops).others
  have hw := h.later ho
  refine ⟨⟨hw.ready, fun f hf => ?_⟩, ho⟩
  rcases List.mem_append.mp hf with hf | hf
  · obtain ⟨w, on, resume, rfl, rfl⟩ := Suspended.mem_ofRun hf
    obtain ⟨-, ⟨j, hj, rfl⟩, hr⟩ := hb
    exact ⟨⟨j.probe, rfl, hw.ready.known j hj, .inr ⟨j, hj, rfl⟩⟩, hr⟩
  · exact hw.awaitsProbes f hf

end Config.Attended

/-- On a platform that keeps its word, a job that can run has run. -/
theorem Job.works {js ks : List Job} (hv : v.IsReady) (hj : v.jobs = js ++ j :: ks) :
    ∃ w, j.run { v with jobs := js ++ ks } = (none, w) ∧ v.Works w ∧ w.isSet (.probed j.probe) = true := by
  obtain ⟨w, hr, hw⟩ := Job.run_worked (v := { v with jobs := js ++ ks }) (hv.honest.decodes j.processor)
  refine ⟨w, hr, ⟨js, j, ks, hj, hw⟩, ?_⟩
  show (w.probes.get j.probe).isSome = true
  rw [hw.probes, Table.get_modify_self (hv.known j (by rw [hj]; simp))]
  rfl

section
variable {c c' : Config}

theorem ProcessorStep.attended (h : ProcessorStep c c') (hc : c.Attended) : c'.Attended ∧
    c.world.Others c'.world := by
  cases h with
  | begin c hb hl => exact hc.landed none (perform_waits hb _ hc.ready) hl
  | @resume w fs gs run f hset hl =>
    have hr := (hc.awaitsProbes f (List.mem_append_right fs List.mem_cons_self)).2 w .refl hset
    have hothers : Config.Attended ⟨w, fs ++ gs⟩ :=
      ⟨hc.ready, fun g hg => hc.awaitsProbes g (Config.mem_of_mem_without g hg)⟩
    exact hothers.landed f.sent hr hl
  | work hj hr =>
    obtain ⟨w, hr', hw, -⟩ := Job.works hc.ready hj
    cases hr.symm.trans hr'
    exact ⟨hc.later hw.others, hw.others⟩
  | other hp ht hq hj hd =>
    have ho := (World.AddsProbes.of_eq hp hd ht hq hj).others
    exact ⟨hc.later ho, ho⟩

theorem ProcessorSteps.attended (h : ProcessorSteps c c') (hc : c.Attended) : c'.Attended ∧
    c.world.Others c'.world := by
  induction h with
  | refl => exact ⟨hc, .refl⟩
  | tail _ h ih =>
    obtain ⟨hc', ho⟩ := h.attended ih.1
    exact ⟨hc', ih.2.trans ho⟩

end

/-! ## A call from its beginning to its end -/

inductive Run.Meets (w : World) (a : α) : List Suspended → Run α → Prop
  | done {fs : List Suspended} : Meets w a fs (.done w a)
  | via {fs : List Suspended} {u : World} {rest : Run α} (hr : Meets w a fs rest) : Meets w a fs (.via u rest)
  | wait {fs gs : List Suspended} {u u' : World} {on : Signal} {resume : World → Run α}
      (hb : ProcessorSteps ⟨u, fs⟩ ⟨u', gs⟩) (hs : u'.isSet on = true) (hr : Meets w a gs (resume u')) :
      Meets w a fs (.wait u on resume)

/-- The run can come to an end, and however it does `post` holds. -/
def Run.ComesTo (fs : List Suspended) (post : World → α → Prop) (run : Run α) : Prop :=
  (∃ w a, run.Meets w a fs) ∧ ∀ w a, run.Meets w a fs → post w a

namespace Run.AwaitsProbes

variable {stuck : Prop} {post : World → α → Prop} {run : Run α}

theorem met {a : α} {fs : List Suspended} (hm : run.Meets w a fs) (h : run.AwaitsProbes stuck post v)
    (hc : Config.Attended ⟨v, fs⟩) : post w a := by
  induction hm generalizing v with
  | done => exact h.2
  | via _ ih => exact ih h hc
  | wait hb hs _ ih =>
    obtain ⟨hc', ho⟩ := ProcessorSteps.attended hb (hc.later h.1.others)
    exact ih (h.2.2 _ ho hs) hc'

/-- What the run waits for has only to be run. -/
theorem exists_meets (h : run.AwaitsProbes False post v) (hv : v.IsReady) (fs : List Suspended) :
    ∃ w a, run.Meets w a fs := by
  induction run generalizing v with
  | done w a => exact ⟨w, a, .done⟩
  | via w rest ih =>
    obtain ⟨x, a, hx⟩ := ih h hv
    exact ⟨x, a, .via hx⟩
  | wait u on resume ih =>
    obtain ⟨hs, ⟨j, hj, rfl⟩, hr⟩ := h
    have hu := World.isReady_steady.others hs.others hv
    obtain ⟨js, ks, hjs⟩ := List.append_of_mem hj
    obtain ⟨u', hrun, hw, hset⟩ := Job.works hu hjs
    obtain ⟨x, a, hx⟩ := ih u' (hr u' hw.others hset) (World.isReady_steady.others hw.others hu)
    exact ⟨x, a, .wait (.single (.work hjs hrun)) hset hx⟩
  | halt w why => exact h.elim

theorem comesTo {fs : List Suspended} (h : run.AwaitsProbes False post v) (hc : Config.Attended ⟨v, fs⟩) :
    run.ComesTo fs post :=
  ⟨h.exists_meets hc.ready fs, fun _ _ hm => h.met hm hc⟩

end Run.AwaitsProbes

theorem World.Registered.ok_iff {P : Platform} (hP : P.IsHonest) {n : UInt32} {a : Except Status Unit}
    (h : w.Registered P firmware t n.toNat a) : a = .ok () ↔ ∀ i < n, P.Vouches firmware i := by
  cases a with
  | ok => exact ⟨fun _ i hi => hP.answer_ok_iff.mp (h.filled i (UInt32.lt_iff_toNat_lt.mp hi)).1, fun _ => rfl⟩
  | error e =>
    obtain ⟨k, hk, he, -⟩ := h
    refine ⟨nofun, fun hv => ?_⟩
    obtain ⟨r, hr⟩ := hP.answer_ok_iff.mpr (hv k (UInt32.lt_iff_toNat_lt.mpr hk))
    cases he.symm.trans hr

/-- On a platform that keeps its word, and whatever else happens in the waits:
- Every call that waits waits for a probe that has come back or is on its way.
- A processor that has been added is probed. The call comes to what its own probe is to come to, and if it succeeds
  the slot holds what the processor says.
- A registration succeeds if and only if all processors are accepted and say who they are, which the firmware lists.
  The first `n` slots are filled then. Otherwise it comes to the error of the first processor that fails, and the
  slots before are filled.
- A driver has the topology that it is to attach if the registration succeeds, and none otherwise. It refuses to
  attach one in safe boot, and when it has one already. -/
theorem registration_follows_probes {w₀ : World} {fs : List Suspended} (hP : w₀.platform.IsHonest)
    (hj : w₀.jobs = []) (h : ProcessorSteps ⟨w₀, []⟩ ⟨w, fs⟩) :
    (∀ f ∈ fs, ∃ p, f.on = .probed p ∧ w.Expected p) ∧
    (∀ t i, ((changeProcessor t i .addComplete).run w).ComesTo fs fun w' a =>
      a = (if i.toNat < (w.topologies.get t).count then
          (w₀.platform.answer (w.topologies.get t).firmware i).map fun _ => ()
        else .error .invalidParameter) ∧
      (a = .ok () → w'.Shows w₀.platform (w.topologies.get t).firmware t i)) ∧
    (∀ t < w.topologies.size, ∀ n, ((registerExisting t n).run w).ComesTo fs fun w' a =>
      (a = .ok () ↔ ∀ i < n, w₀.platform.Vouches (w.topologies.get t).firmware i) ∧
      w'.Registered w₀.platform (w.topologies.get t).firmware t n.toNat a) ∧
    (∀ b < w.drivers.size, (w.driver b).mode ≠ .safeBoot → (w.driver b).slot = {} → ∀ firmware n,
      ((attachTopology b firmware n).run w).ComesTo fs fun w' a =>
        (a.isOk = true ↔ ∀ i < n, w₀.platform.Vouches firmware i) ∧
        w'.Equipped w₀.platform firmware w.topologies.size n.toNat b a) ∧
    ∀ b, (w.driver b).mode = .safeBoot ∨ (∃ t, (w.driver b).slot = { installed := some t }) → ∀ firmware n,
      ∃ e, (attachTopology b firmware n).run w = .done w (.error e) := by
  have hready : w₀.IsReady := ⟨hP, by rw [hj]; exact nofun⟩
  obtain ⟨hc, ho⟩ := ProcessorSteps.attended h ⟨hready, nofun⟩
  have hplatform : w.platform = w₀.platform := (World.platform_steady w₀.platform).others ho rfl
  rw [← hplatform] at hP ⊢
  refine ⟨fun f hf => (hc.awaitsProbes f hf).1, fun t i => ?_, fun t ht n => ?_,
    fun b hb hmode hslot firmware n => ?_, fun b hb firmware n => attachTopology_refused hb firmware n⟩
  · exact ((changeProcessor_awaitsProbes hc.ready t i .addComplete).imp fun _ _ _ ha => ha.2 rfl).comesTo hc
  · refine ((registerExisting_awaitsProbes hc.ready ⟨rfl, ht, rfl⟩ n).imp fun _ _ _ ha => ?_).comesTo hc
    exact ⟨ha.ok_iff hP, ha⟩
  · refine ((attachTopology_awaitsProbes hc.ready hb hmode hslot firmware n).imp fun w' a _ ha => ?_).comesTo hc
    refine ⟨?_, ha⟩
    cases a with
    | ok x => exact Iff.trans ⟨fun _ => rfl, fun _ => rfl⟩ (World.Registered.ok_iff (a := .ok ()) hP ha.2.2)
    | error e => exact Iff.trans ⟨nofun, nofun⟩ (World.Registered.ok_iff hP ha.2)

/-! ### Two processors -/

namespace Platform

/-- Leaf 0xB, which may be of a type that is not defined, is not asked for. -/
theorem decodes_of_lt {P : Platform} (hP : P.decoder = .documented) (h : (P.cpuid i 0 0).eax < 0xB) :
    P.identify i ≠ .error .undecodable := by
  have hwide : CpuDecoder.documented.wideApicId? (P.cpuid i) = .ok none := if_pos (.inl h)
  rw [identify, hP, Cpu.identify, hwide]
  intro he
  unfold CpuDecoder.documented at he
  dsimp only at he
  split at he <;> cases he

def intel (apicId : UInt32) : List CpuidRow :=
  [⟨0, 0, { eax := 1, ebx := 0x756E6547, ecx := 0x6C65746E, edx := 0x49656E69 }⟩, ⟨1, 0, { ebx := apicId <<< 24 }⟩]

def pair : Platform where
  rows := [(0, intel 5), (1, intel 6)]
  decoder := .documented

theorem pair_isHonest : pair.IsHonest where
  lands i := .inl rfl
  decodes i := by
    refine decodes_of_lt rfl ?_
    by_cases h₀ : i = 0
    · subst h₀; decide
    by_cases h₁ : i = 1
    · subst h₁; decide
    have hrows : pair.rows.lookup i = none := List.lookup_eq_none_iff.mpr (by simp [pair, h₀, h₁])
    have hzero : pair.cpuid i 0 0 = {} := by rw [cpuid, hrows]; rfl
    rw [hzero]; decide

end Platform

def World.rendezvous : World where
  platform := .pair
  drivers := Table.push {} { service := "S" }
  topologies := ⟨[{ firmware := [⟨7, 5, .running, true⟩] }]⟩
  clients := { topologies := [0] }

/-- While another call waits for a probe on processor 0, a driver registers both processors. -/
theorem registration_follows_probes_of_rendezvous : ∃ w fs w', ProcessorSteps ⟨.rendezvous, []⟩ ⟨w, fs⟩ ∧ fs ≠ [] ∧
    ((attachTopology 0 [⟨7, 5, .running, true⟩, ⟨8, 6, .running, true⟩] 2).run w).Meets w' (.ok 1) fs ∧
    (w'.driver 0).slot = { installed := some 1 } ∧
    (w'.topologies.get 1).processor? 0 = some ⟨"GenuineIntel", 5, 7⟩ ∧
    (w'.topologies.get 1).processor? 1 = some ⟨"GenuineIntel", 6, 8⟩ := by
  have h₁ : ProcessorStep ⟨.rendezvous, []⟩ ⟨_, _⟩ :=
    .begin (.processor (.change 0 0 .addStart)) trivial (.done trivial)
  have h :=
    (Relation.ReflTransGen.single h₁).tail (.begin (.processor (.change 0 0 .addComplete)) trivial (.wait trivial))
  obtain ⟨-, -, -, hattach, -⟩ := registration_follows_probes Platform.pair_isHonest rfl h
  obtain ⟨⟨w', a, hm⟩, hpost⟩ :=
    hattach 0 (by decide) (by decide) rfl [⟨7, 5, .running, true⟩, ⟨8, 6, .running, true⟩] 2
  obtain ⟨hok, ha⟩ := hpost w' a hm
  have hvouches (i : UInt32) (hi : i < 2) :
      Platform.pair.Vouches [⟨7, 5, .running, true⟩, ⟨8, 6, .running, true⟩] i := by
    have hi' : i = 0 ∨ i = 1 := by
      rw [← UInt32.toNat_inj, ← UInt32.toNat_inj]
      have h2 : i.toNat < 2 := UInt32.lt_iff_toNat_lt.mp hi
      show i.toNat = 0 ∨ i.toNat = 1
      omega
    rcases hi' with rfl | rfl
    · exact ⟨rfl, ⟨_, 5⟩, rfl, ⟨7, 5, .running, true⟩, by simp, rfl⟩
    · exact ⟨rfl, ⟨_, 6⟩, rfl, ⟨8, 6, .running, true⟩, by simp, rfl⟩
  cases a with
  | error e => exact absurd (hok.mpr hvouches) nofun
  | ok x =>
    obtain ⟨rfl, hslot, hbrought⟩ := ha
    obtain ⟨-, -, r₀, hr₀, h₀⟩ := hbrought.filled 0 (by decide)
    obtain ⟨-, -, r₁, hr₁, h₁⟩ := hbrought.filled 1 (by decide)
    refine ⟨_, _, w', h, nofun, hm, hslot, h₀.trans ?_, h₁.trans ?_⟩
    · exact (Platform.describe_of_finding CpuDecoder.documented_laws hr₀).symm.trans (by decide +kernel)
    · exact (Platform.describe_of_finding CpuDecoder.documented_laws hr₁).symm.trans (by decide +kernel)

end PnpBus
