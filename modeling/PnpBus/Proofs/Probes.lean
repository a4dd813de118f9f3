import PnpBus.Proofs.Logbooks

/-!
# The processor table over whole runs

Processors arrive and are probed while earlier arrivals still wait for their
probes. What is in the table can be told from two histories: which arrivals
have begun, and which probes have run, each where and on what platform.
-/

namespace PnpBus

variable {t : TopologyId} {i : UInt32} {v w : World} {firmware : ProcessorTable}

/-! ## What a processor tells -/

/-- What is documented of a decoder, as far as it does not fail. The vendor is the text of the vendor's bytes. The
wide id is the one of leaf 0xB if that leaf is there and reports a level, and else there is none. The initial id is
the top byte of a register of leaf 1. -/
structure CpuDecoder.Laws (decoder : CpuDecoder) : Prop where
  vendor {cpuid : CpuidReader} {name s : String} (h : decoder.vendor? cpuid = .ok (some name))
    (hs : String.fromUTF8? (cpuid 0 0).vendorBytes = some s) : name = s
  wide {cpuid : CpuidReader} {id? : Option UInt32} (h : decoder.wideApicId? cpuid = .ok id?) :
    id? = if 0xB ≤ (cpuid 0 0).eax ∧ (cpuid 0xB 0).levelType ≠ 0 then some (cpuid 0xB 0).edx else none
  initial {cpuid : CpuidReader} {id : UInt8} (h : decoder.apicId? cpuid = .ok (some id)) :
    id.toUInt32 = (cpuid 1 0).ebx >>> 24

theorem CpuDecoder.documented_laws : CpuDecoder.documented.Laws where
  vendor {cpuid name s} h hs := by
    have h : (String.fromUTF8? (cpuid 0 0).vendorBytes).getD _ = name := Option.some.inj (Except.ok.inj h)
    rw [← h, hs]; rfl
  wide {cpuid _} h := by
    unfold documented at h
    dsimp only at h
    split at h
    next hn =>
      cases h
      exact (if_neg fun hb => hn.elim (UInt32.not_lt.mpr hb.1) hb.2).symm
    next hn =>
      obtain ⟨hb, hl⟩ := not_or.mp hn
      split at h <;> cases h
      exact (if_pos ⟨UInt32.not_lt.mp hb, hl⟩).symm
  initial {cpuid _} h := by
    unfold documented at h
    dsimp only at h
    split at h <;> cases h
    have := (cpuid 1 0).ebx.toNat_lt
    rw [← UInt32.toNat_inj]
    simp
    omega

namespace Platform

variable {p : Platform}

def apicId (p : Platform) (i : UInt32) : UInt32 :=
  if 0xB ≤ (p.cpuid i 0 0).eax ∧ (p.cpuid i 0xB 0).levelType ≠ 0 then (p.cpuid i 0xB 0).edx
  else (p.cpuid i 1 0).ebx >>> 24

/-- What is to be known about processor `i`, if it has a vendor and the firmware lists it. -/
def describe (p : Platform) (firmware : ProcessorTable) (i : UInt32) : Option ProcessorRecord := do
  let name ← (p.decoder.vendor? (p.cpuid i)).toOption.join
  let e ← firmware.find? (·.apicId = p.apicId i)
  return ⟨name, p.apicId i, e.uid⟩

theorem identify_ok {who : CpuIdentity} (hD : p.decoder.Laws) (h : p.identify i = .ok who) :
    p.decoder.vendor? (p.cpuid i) = .ok (some who.manufacturer) ∧ who.apicId = p.apicId i := by
  unfold identify Cpu.identify at h
  unfold apicId
  rcases hv : p.decoder.vendor? (p.cpuid i) with e | _ | name <;> rw [hv] at h
  · cases h
  · cases h
  rcases hw : p.decoder.wideApicId? (p.cpuid i) with e | id? <;> rw [hw] at h
  · cases h
  have hlevel := hD.wide hw
  cases id? with
  | some id =>
    cases h
    split at hlevel <;> cases hlevel
    next hb => exact ⟨rfl, (if_pos hb).symm⟩
  | none =>
    rcases hl : p.decoder.apicId? (p.cpuid i) with e | _ | id <;> rw [hl] at h <;> cases h
    split at hlevel
    · cases hlevel
    next hb => exact ⟨rfl, (hD.initial hl).trans (if_neg hb).symm⟩

theorem describe_of_identify {who : CpuIdentity} {uid : UInt32} (hD : p.decoder.Laws) (h : p.identify i = .ok who)
    (hu : ProcessorTable.uidOfApic firmware who.apicId = .ok uid) :
    p.describe firmware i = some ⟨who.manufacturer, who.apicId, uid⟩ := by
  obtain ⟨hv, hid⟩ := identify_ok hD h
  unfold ProcessorTable.uidOfApic at hu
  unfold describe
  rw [hv, ← hid]
  split at hu
  next e he => cases hu; rw [he]; rfl
  next => cases hu

theorem manufacturer_of_describe {r : ProcessorRecord} {s : String} (hD : p.decoder.Laws)
    (h : p.describe firmware i = some r) (hs : String.fromUTF8? (p.cpuid i 0 0).vendorBytes = some s) :
    r.manufacturer = s := by
  obtain ⟨name, hname, h⟩ := Option.bind_eq_some_iff.mp h
  obtain ⟨e, -, h⟩ := Option.bind_eq_some_iff.mp h
  cases h
  rcases hv : p.decoder.vendor? (p.cpuid i) with _ | _ | _ <;> rw [hv] at hname <;> cases hname
  exact hD.vendor hv hs

end Platform

/-! ## Arrivals -/

def Notice.arrival? : Notice → Option UInt32
  | .changeLeft index .addStart => some index
  | _ => none

namespace World

def arrivals (w : World) : List UInt32 := w.journal.notices.filterMap (·.arrival?)

theorem arrivals_note (w : World) (n : Notice) : (w.note n).arrivals = w.arrivals ++ n.arrival?.toList := by
  show (w.journal.notices ++ [n]).filterMap _ = _
  rw [List.filterMap_append, arrivals]
  cases h : n.arrival? <;> simp [h]

theorem arrivals_note_of_none (w : World) {n : Notice} (h : n.arrival? = none) :
    (w.note n).arrivals = w.arrivals := by
  rw [arrivals_note, h]; exact List.append_nil _

def arrive (w : World) (t : TopologyId) (index : UInt32) : World :=
  ((w.note (.changeEntered index .addStart)).updateTopology t (·.grow index)).note (.changeLeft index .addStart)

theorem arrivals_arrive (w : World) (t : TopologyId) (index : UInt32) :
    (w.arrive t index).arrivals = w.arrivals ++ [index] := by
  have h : ((w.note (.changeEntered index .addStart)).updateTopology t (·.grow index)).arrivals = w.arrivals :=
    w.arrivals_note_of_none rfl
  rw [arrive, arrivals_note, h]; rfl

theorem topology_arrive (h : t < w.topologies.size) (index : UInt32) :
    (w.arrive t index).topologies.get t = (w.topologies.get t).grow index := Table.get_modify_self h _

def room (w : World) : Nat := (w.arrivals.map (·.toNat + 1)).foldl max 0

theorem room_arrive (w : World) (t : TopologyId) (index : UInt32) :
    (w.arrive t index).room = max w.room (index.toNat + 1) := by
  rw [room, arrivals_arrive, List.map_append, List.foldl_append]; rfl

structure Idles (t : TopologyId) (v w : World) : Prop where
  topologies : w.topologies = v.topologies
  arrivals : w.arrivals = v.arrivals
  jobs : ∀ j ∈ w.jobs, j ∈ v.jobs ∨ j.topology = t

inductive Expects (t : TopologyId) (v : World) : World → Prop
  | idle {w : World} (h : v.Idles t w) : Expects t v w
  | arrive (index : UInt32) : Expects t v (v.arrive t index)

theorem Expects.of_eq (ht : w.topologies = v.topologies) (hn : w.journal.notices = v.journal.notices)
    (hj : w.jobs = v.jobs) : v.Expects t w :=
  .idle ⟨ht, by rw [World.arrivals, hn, World.arrivals], fun j h => .inl (hj ▸ h)⟩

theorem Expects.note (w : World) {n : Notice} (h : n.arrival? = none) : w.Expects t (w.note n) :=
  .idle ⟨rfl, w.arrivals_note_of_none h, fun _ => .inl⟩

theorem Expects.room_le (h : Relation.ReflTransGen (Expects t) v w) : v.room ≤ w.room := by
  induction h with
  | refl => exact Nat.le_refl _
  | tail _ h ih =>
    cases h with
    | idle h => exact Nat.le_trans ih (Nat.le_of_eq (by rw [room, room, h.arrivals]))
    | arrive index => rw [room_arrive]; exact Nat.le_trans ih (Nat.le_max_left _ _)

end World

open World (Expects)

section
variable {Q : World → World → Prop}

theorem sendJob_expects (t : TopologyId) (i : UInt32) (p : ProbeId) : (sendJob i t p).run.Goes (Expects t) := by
  refine .run_bind (x := liftM (noteRun i)) (.step fun w => .of_eq rfl rfl rfl) fun _ =>
    .run_bind (x := get) (fun _ => .refl) fun w => ?_
  split
  · exact .throw _
  · exact .ok _
  · refine .step fun w => .idle ⟨rfl, rfl, fun j h => ?_⟩
    exact (List.mem_append.mp h).imp_right fun h => by rw [List.mem_singleton.mp h]

theorem populate_expects (t : TopologyId) (i : UInt32) : (populate t i).run.Goes (Expects t) Q := by
  refine .run_bind (.lift (fun _ => .refl)) fun v => ?_
  split
  · refine .run_bind (.lift (.step fun w => .of_eq rfl rfl rfl)) fun p => ?_
    refine .run_bind (.lift_except (sendJob_expects t i p)) fun _ => ?_
    exact .bind (.await _) fun _ => .bind (.of_act (fun _ => .refl)) fun _ => .pure _
  · exact .run_bind (.lift (.step fun w => .note w rfl)) fun _ => .throw _

theorem changeProcessor_expects (t : TopologyId) (i : UInt32) (c : ProcessorChange) :
    (changeProcessor t i c).run.Goes (Expects t) Q := by
  cases c with
  | addStart => exact fun v => .step (.arrive i) trivial
  | addComplete =>
    exact .bind (.of_act (.step fun w => .note w rfl)) fun _ => .bind (populate_expects t i) fun _ =>
      .bind (.of_act (.step fun w => .note w rfl)) fun _ => .pure _
  | addFailed =>
    refine .bind (.of_act (.step fun w => .note w rfl)) fun _ =>
      .bind (c := (applyChange t i .addFailed).run) ?_ fun _ =>
      .bind (.of_act (.step fun w => .note w rfl)) fun _ => .pure _
    exact .lift (.step fun w => .note w rfl)

theorem registerFrom_expects (t : TopologyId) : ∀ (n : Nat) (i : UInt32),
    (registerFrom t i n).run.Goes (Expects t) Q
  | 0, _ => .pure _
  | n + 1, i => .run_bind (changeProcessor_expects t i .addStart) fun _ =>
    .run_bind (changeProcessor_expects t i .addComplete) fun _ => registerFrom_expects t n (i + 1)

def ProcessorCommand.Concerns (t : TopologyId) (w : World) : ProcessorCommand → Prop
  | .change n _ _ | .register n _ => w.clients.topologies[n]? = some t
  | .newTopology _ => False
  | _ => True

theorem needTopology_looks (v : World) (n : Nat) :
    (needTopology n v).Looks (fun t => v.clients.topologies[n]? = some t) v := need_looks v _

theorem performProcessor_expects {c : ProcessorCommand} (hc : c.Concerns t v) :
    (performProcessor c v).Along (Expects t) Q (fun _ _ => True) v := by
  cases c with
  | configure p => exact .step (.of_eq rfl rfl rfl) trivial
  | identify i =>
    refine Call.Goes.bind (.of_act (a := get) fun _ => .refl) (fun w => ?_) v
    split
    · exact .pure _
    · exact .pure _
    · exact .halt _
  | newTopology => exact hc.elim
  | change n i x =>
    refine (needTopology_looks v n).along fun t' ht => ?_
    cases hc.symm.trans ht
    exact Call.Goes.bind (changeProcessor_expects t i x) (fun _ => .of_act fun _ => .refl) v
  | register n count =>
    refine (needTopology_looks v n).along fun t' ht => ?_
    cases hc.symm.trans ht
    exact Call.Goes.bind (registerFrom_expects t _ 0) (fun _ => .of_act fun _ => .refl) v
  | view n => exact (needTopology_looks v n).along fun _ _ => .same trivial
  | slot n i => exact (needTopology_looks v n).along fun _ _ => .same trivial

end

/-! ## Probes -/

def CpuFault.status : CpuFault → Status
  | .refused s => s
  | .undecodable => .unsuccessful

namespace Platform

variable {P : Platform} {who : CpuIdentity}

def finding (P : Platform) (firmware : ProcessorTable) (i : UInt32) : Except Status ProcessorRecord :=
  match P.identify i with
  | .ok who => (firmware.uidOfApic who.apicId).map fun uid => ⟨who.manufacturer, who.apicId, uid⟩
  | .error e => .error e.status

theorem finding_refused {e : CpuFault} (h : P.identify i = .error e) : P.finding firmware i = .error e.status := by
  rw [finding, h]

theorem finding_unlisted {e : Status} (h : P.identify i = .ok who) (hu : firmware.uidOfApic who.apicId = .error e) :
    P.finding firmware i = .error e := by
  simp only [finding, h, hu]; rfl

theorem finding_listed {uid : UInt32} (h : P.identify i = .ok who) (hu : firmware.uidOfApic who.apicId = .ok uid) :
    P.finding firmware i = .ok ⟨who.manufacturer, who.apicId, uid⟩ := by
  simp only [finding, h, hu]; rfl

theorem describe_of_finding {r : ProcessorRecord} (hD : P.decoder.Laws) (h : P.finding firmware i = .ok r) :
    P.describe firmware i = some r := by
  cases hwho : P.identify i with
  | error e => cases (finding_refused hwho).symm.trans h
  | ok who =>
    cases hu : firmware.uidOfApic who.apicId with
    | error e => cases (finding_unlisted hwho hu).symm.trans h
    | ok uid =>
      cases (finding_listed hwho hu).symm.trans h
      exact describe_of_identify hD hwho hu

end Platform

namespace Topology

variable {T T' : Topology} {P : Platform} {r : ProcessorRecord}

def visit (T : Topology) (P : Platform) (i : UInt32) : Except Status Topology := do
  let r ← P.finding T.firmware i
  if i.toNat < T.count then return T.fill i r else throw .invalidParameter

theorem visit_error {e : Status} (h : P.finding T.firmware i = .error e) : T.visit P i = .error e := by
  rw [visit, h]; rfl

theorem visit_found (h : P.finding T.firmware i = .ok r) :
    T.visit P i = if i.toNat < T.count then .ok (T.fill i r) else .error .invalidParameter := by
  rw [visit, h]; rfl

theorem visit_of_lt (h : i.toNat < T.count) (P : Platform) :
    T.visit P i = (P.finding T.firmware i).map (T.fill i) := by
  cases hr : P.finding T.firmware i with
  | error e => exact visit_error hr
  | ok r => rw [visit_found hr, if_pos h]; rfl

theorem visit_ok (h : T.visit P i = .ok T') :
    ∃ r, P.finding T.firmware i = .ok r ∧ i.toNat < T.count ∧ T' = T.fill i r := by
  cases hr : P.finding T.firmware i with
  | error e => cases (visit_error hr).symm.trans h
  | ok r =>
    rw [visit_found hr] at h
    split at h
    next hi => cases h; exact ⟨r, rfl, hi, rfl⟩
    next => cases h

end Topology

def World.visited (v : World) (t : TopologyId) (i : UInt32) : Table Topology :=
  match (v.topologies.get t).visit v.platform i with
  | .ok T => v.topologies.modify t fun _ => T
  | .error _ => v.topologies

theorem probeProcessor_run (t : TopologyId) (i : UInt32) (v : World) : (probeProcessor t i).run v =
    match v.platform.identify i with
    | .error e => (.error e, v.note (.probeEntered i))
    | .ok who =>
      match (v.topologies.get t).firmware.uidOfApic who.apicId with
      | .error e => (.error (.refused e), (v.note (.probeEntered i)).note (.apicUnknown who.apicId))
      | .ok uid =>
        if i.toNat < (v.topologies.get t).count then
          (.ok (), (((((v.note (.probeEntered i)).note (.vendorRead who.manufacturer)).note
            (.apicRead who.apicId)).note (.processorIdRead uid)).updateTopology t
              (·.fill i ⟨who.manufacturer, who.apicId, uid⟩)).note (.probeLeft i))
        else
          (.error (.refused .invalidParameter),
            (((v.note (.probeEntered i)).note (.vendorRead who.manufacturer)).note
            (.apicRead who.apicId)).note (.processorIdRead uid)) := by
  have notes (n : Notice) (w : World) :
      (liftM (notify n) : ExceptT CpuFault Act Unit).run w = (.ok (), w.note n) := rfl
  have looks (w : World) :
      (liftM (topology t) : ExceptT CpuFault Act Topology).run w = (.ok (w.topologies.get t), w) :=
    rfl
  have tells (x : Except CpuFault CpuIdentity) (w : World) :
      (liftM x : ExceptT CpuFault Act CpuIdentity).run w = (x, w) := by cases x <;> rfl
  have gets (w : World) : (get : ExceptT CpuFault Act World).run w = (.ok w, w) := rfl
  have same (n : Notice) (w : World) : (w.note n).platform = w.platform ∧ (w.note n).topologies = w.topologies :=
    ⟨rfl, rfl⟩
  simp only [probeProcessor, Act.run_bind, notes, looks, gets, tells, same]
  cases v.platform.identify i with
  | error e => rfl
  | ok who =>
    simp only [same]
    cases (v.topologies.get t).firmware.uidOfApic who.apicId with
    | error e => rfl
    | ok uid =>
      simp only [Act.run_bind, notes, looks, same]
      split <;> rfl

structure World.Toured (v w : World) : Prop where
  platform : w.platform = v.platform
  drivers : w.drivers = v.drivers
  jobs : w.jobs = v.jobs
  probes : w.probes = v.probes
  arrivals : w.arrivals = v.arrivals

namespace World.Toured

theorem refl (w : World) : w.Toured w := ⟨rfl, rfl, rfl, rfl, rfl⟩

theorem note (h : v.Toured w) {n : Notice} (hn : n.arrival? = none) : v.Toured (w.note n) :=
  ⟨h.platform, h.drivers, h.jobs, h.probes, (w.arrivals_note_of_none hn).trans h.arrivals⟩

theorem updateTopology (h : v.Toured w) (t : TopologyId) (f : Topology → Topology) :
    v.Toured (w.updateTopology t f) :=
  ⟨h.platform, h.drivers, h.jobs, h.probes, h.arrivals⟩

end World.Toured

/-- A probe visits the table, unless its processor cannot be decoded. -/
theorem probeProcessor_visits (h : v.platform.identify i ≠ .error .undecodable) :
    ∃ u, (probeProcessor t i).run v =
        ((((v.topologies.get t).visit v.platform i).map fun _ => ()).mapError CpuFault.refused, u) ∧
      v.Toured u ∧ u.topologies = v.visited t i := by
  have entered := (World.Toured.refl v).note (n := .probeEntered i) rfl
  have read (who : CpuIdentity) (uid : UInt32) := ((entered.note (n := .vendorRead who.manufacturer) rfl).note
    (n := .apicRead who.apicId) rfl).note (n := .processorIdRead uid) rfl
  rw [probeProcessor_run, World.visited]
  cases hwho : v.platform.identify i with
  | error e =>
    cases e with
    | undecodable => exact absurd hwho h
    | refused s =>
      rw [Topology.visit_error (Platform.finding_refused hwho)]
      exact ⟨_, rfl, entered, rfl⟩
  | ok who =>
    dsimp only
    cases huid : (v.topologies.get t).firmware.uidOfApic who.apicId with
    | error e =>
      rw [Topology.visit_error (Platform.finding_unlisted hwho huid)]
      exact ⟨_, rfl, entered.note rfl, rfl⟩
    | ok uid =>
      rw [Topology.visit_found (Platform.finding_listed hwho huid)]
      by_cases hi : i.toNat < (v.topologies.get t).count
      · simp only [if_pos hi]
        exact ⟨_, rfl, ((read who uid).updateTopology t _).note rfl, Table.modify_congr v.topologies t rfl⟩
      · simp only [if_neg hi]
        exact ⟨_, rfl, read who uid, rfl⟩

/-- A probe that runs on processor `i` records what it finds there, or else leaves the table alone. -/
theorem probeProcessor_cases {outcome : Except CpuFault Unit} (h : (probeProcessor t i).run v = (outcome, w)) :
    w.jobs = v.jobs ∧ w.arrivals = v.arrivals ∧
    ((outcome.isOk = false ∧ w.topologies = v.topologies) ∨
      (outcome.isOk = true ∧ ∃ r, v.platform.finding (v.topologies.get t).firmware i = .ok r ∧
        i.toNat < (v.topologies.get t).count ∧ w.topologies = v.topologies.modify t (·.fill i r))) := by
  by_cases hwho : v.platform.identify i = .error .undecodable
  · rw [probeProcessor_run, hwho] at h
    cases h
    exact ⟨rfl, v.arrivals_note_of_none rfl, .inl ⟨rfl, rfl⟩⟩
  obtain ⟨u, hu, htoured, htab⟩ := probeProcessor_visits (t := t) hwho
  obtain ⟨rfl, rfl⟩ := Prod.mk.inj (hu.symm.trans h)
  refine ⟨htoured.jobs, htoured.arrivals, ?_⟩
  rw [World.visited] at htab
  cases hv : (v.topologies.get t).visit v.platform i with
  | error e =>
    rw [hv] at htab
    exact .inl ⟨rfl, htab⟩
  | ok T =>
    obtain ⟨r, hr, hi, rfl⟩ := Topology.visit_ok hv
    rw [hv] at htab
    exact .inr ⟨rfl, r, hr, hi, htab.trans (Table.modify_congr _ t rfl)⟩

/-- Once a job has run, its sender is told how it went. Nothing but the probe itself changes a table. -/
theorem Job.run_cases {j : Job} (h : j.run v = (none, w)) :
    ∃ outcome u, (probeProcessor j.topology j.processor).run v = (outcome, u) ∧ w.topologies = u.topologies ∧
      w.jobs = u.jobs ∧ w.arrivals = u.arrivals := by
  rw [Job.run, Act.bind_apply] at h
  rcases hp : (probeProcessor j.topology j.processor).run v with ⟨(_ | _) | _, u⟩ <;> rw [hp] at h <;> cases h <;>
    exact ⟨_, u, rfl, rfl, rfl, rfl⟩

/-! ## Runs -/

/-- A probe that ran, where and on what platform, and whether it succeeded. -/
structure ProbeRun where
  processor : UInt32
  platform : Platform
  succeeded : Bool

/-- The last probe that succeeded on processor `i`. -/
def ProbeRun.lastOn (ran : List ProbeRun) (i : UInt32) : Option ProbeRun :=
  (ran.filter fun q => q.succeeded && q.processor = i).getLast?

/-- Processors are brought up. Calls are suspended, and probes have run. -/
structure Bringup where
  world : World
  suspended : List Suspended := []
  ran : List ProbeRun := []

namespace Bringup

/-- One thing happens to topology `t`, or to something that is no concern of topologies. -/
inductive Turn (t : TopologyId) : Bringup → Bringup → Prop
  | begin {w : World} {fs : List Suspended} {ran : List ProbeRun} {run : Run Reply} (c : ProcessorCommand)
      (hc : c.Concerns t w) (hl : (performProcessor c w).Lands (fun _ => True) run) :
      Turn t ⟨w, fs, ran⟩ ⟨run.world, Suspended.ofRun none run ++ fs, ran⟩
  | resume {w : World} {fs gs : List Suspended} {ran : List ProbeRun} {run : Run Reply} (f : Suspended)
      (hset : w.isSet f.on = true) (hl : (f.resume w).Lands (fun _ => True) run) :
      Turn t ⟨w, fs ++ f :: gs, ran⟩ ⟨run.world, Suspended.ofRun f.sent run ++ (fs ++ gs), ran⟩
  /-- One of the jobs runs. -/
  | work {w w' : World} {fs : List Suspended} {ran : List ProbeRun} {js ks : List Job} {j : Job}
      (hj : w.jobs = js ++ j :: ks) (hr : j.run { w with jobs := js ++ ks } = (none, w')) :
      Turn t ⟨w, fs, ran⟩ ⟨w', fs, ran ++ [⟨j.processor, w.platform,
        ((probeProcessor j.topology j.processor).run { w with jobs := js ++ ks }).1.isOk⟩]⟩
  | other {w w' : World} {fs : List Suspended} {ran : List ProbeRun} (ht : w'.topologies = w.topologies)
      (hn : w'.journal.notices = w.journal.notices) (hj : w'.jobs = w.jobs) : Turn t ⟨w, fs, ran⟩ ⟨w', fs, ran⟩

def table (b : Bringup) (t : TopologyId) : Topology := b.world.topologies.get t

end Bringup

namespace ProbeRun

variable {q : ProbeRun} {ran : List ProbeRun}

theorem lastOn_append (h : q.succeeded = true) (i : UInt32) :
    lastOn (ran ++ [q]) i = if q.processor = i then some q else lastOn ran i := by
  by_cases hi : q.processor = i <;> simp [lastOn, List.filter_append, h, hi]

theorem lastOn_append_failed (h : q.succeeded = false) (i : UInt32) : lastOn (ran ++ [q]) i = lastOn ran i := by
  simp [lastOn, List.filter_append, h]

theorem of_lastOn (h : lastOn ran i = some q) : q ∈ ran ∧ q.processor = i ∧ q.succeeded = true := by
  have hq := List.mem_of_getLast? h
  rw [List.mem_filter, Bool.and_eq_true, decide_eq_true_eq] at hq
  exact ⟨hq.1, hq.2.2, hq.2.1⟩

theorem isSome_lastOn (h : q ∈ ran) (hs : q.succeeded = true) : (lastOn ran q.processor).isSome := by
  rw [lastOn, List.getLast?_isSome]
  exact List.ne_nil_of_mem (List.mem_filter.mpr ⟨h, by simp [hs]⟩)

end ProbeRun

namespace Topology

variable {T : Topology}

theorem processor?_grow (T : Topology) (index i : UInt32) : (T.grow index).processor? i = T.processor? i := by
  simp only [processor?, grow, List.getElem?_append]
  split
  · rfl
  next h =>
    rw [List.getElem?_eq_none (Nat.le_of_not_lt h), List.getElem?_replicate]
    split <;> rfl

theorem processor?_fill (r : ProcessorRecord) {j : UInt32} (hj : j.toNat < T.count) (i : UInt32) :
    (T.fill j r).processor? i = if j = i then some r else T.processor? i := by
  simp only [processor?, fill]
  by_cases h : j = i
  · rw [if_pos h, ← h, List.getElem?_set_self hj]; rfl
  · rw [if_neg h, List.getElem?_set_ne fun e => h (UInt32.toNat_inj.mp e)]

end Topology

/-! ## What the histories tell -/

structure World.Tells (t : TopologyId) (firmware : ProcessorTable) (ran : List ProbeRun) (w : World) : Prop where
  known : t < w.topologies.size
  listed : (w.topologies.get t).firmware = firmware
  jobs : ∀ j ∈ w.jobs, j.topology = t
  count : (w.topologies.get t).count = w.room
  slots : ∀ i, (w.topologies.get t).processor? i =
    (ProbeRun.lastOn ran i).bind fun q => (q.platform.finding firmware i).toOption
  found : ∀ q ∈ ran, q.succeeded = true → ∃ r, q.platform.finding firmware q.processor = .ok r

namespace World.Tells

variable {ran : List ProbeRun}

theorem of_idle (h : v.Tells t firmware ran) (hw : v.Idles t w) : w.Tells t firmware ran where
  known := hw.topologies ▸ h.known
  listed := hw.topologies ▸ h.listed
  jobs j hj := (hw.jobs j hj).elim (h.jobs j) id
  count := by rw [World.room, hw.arrivals, hw.topologies]; exact h.count
  slots := hw.topologies ▸ h.slots
  found := h.found

theorem arrive (h : v.Tells t firmware ran) (index : UInt32) : (v.arrive t index).Tells t firmware ran := by
  have hg := World.topology_arrive h.known index
  refine ⟨?_, ?_, h.jobs, ?_, fun i => ?_, h.found⟩
  · show t < (v.topologies.modify t _).size
    rw [Table.size_modify]; exact h.known
  · rw [hg]; exact h.listed
  · rw [hg, Topology.count_grow, World.room_arrive, h.count]
  · rw [hg, Topology.processor?_grow]; exact h.slots i

theorem of_steps (h : v.Tells t firmware ran) (hw : Relation.ReflTransGen (Expects t) v w) :
    w.Tells t firmware ran := by
  induction hw with
  | refl => exact h
  | tail _ hs ih =>
    cases hs with
    | idle hs => exact ih.of_idle hs
    | arrive index => exact ih.arrive index

/-- A probe that fails on a processor changes nothing, one that succeeds its slot. -/
theorem probe {j : Job} {outcome : Except CpuFault Unit} (h : v.Tells t firmware ran) (ht : j.topology = t)
    (hp : (probeProcessor j.topology j.processor).run v = (outcome, w)) :
    w.Tells t firmware (ran ++ [⟨j.processor, v.platform, outcome.isOk⟩]) := by
  subst ht
  obtain ⟨hjobs, harr, ⟨ho, htab⟩ | ⟨ho, r, hr, hi, htab⟩⟩ := probeProcessor_cases hp
  · have hw := h.of_idle (w := w) ⟨htab, harr, fun x hx => .inl (hjobs ▸ hx)⟩
    refine ⟨hw.known, hw.listed, hw.jobs, hw.count, fun i => ?_, fun q hq hs => ?_⟩
    · rw [ProbeRun.lastOn_append_failed ho]; exact hw.slots i
    · rcases List.mem_append.mp hq with hq | hq
      · exact h.found q hq hs
      · rw [List.mem_singleton.mp hq] at hs; exact absurd (ho.symm.trans hs) nofun
  · have hg : w.topologies.get j.topology = (v.topologies.get j.topology).fill j.processor r := by
      rw [htab, Table.get_modify_self h.known]
    rw [h.listed] at hr
    refine ⟨?_, ?_, ?_, ?_, fun i => ?_, fun q hq hs => ?_⟩
    · rw [htab, Table.size_modify]; exact h.known
    · rw [hg]; exact h.listed
    · rw [hjobs]; exact h.jobs
    · rw [hg, Topology.count_fill, World.room, harr]; exact h.count
    · rw [hg, Topology.processor?_fill r hi, ProbeRun.lastOn_append ho]
      by_cases he : j.processor = i
      · rw [if_pos he, if_pos he, ← he, Option.bind_some, hr]; rfl
      · rw [if_neg he, if_neg he]; exact h.slots i
    · rcases List.mem_append.mp hq with hq | hq
      · exact h.found q hq hs
      · rw [List.mem_singleton.mp hq]
        exact ⟨r, hr⟩

end World.Tells

namespace Bringup

variable {b b' : Bringup}

def Waits (t : TopologyId) (b : Bringup) : Prop :=
  ∀ f ∈ b.suspended, ∀ w, (f.resume w).Along (Expects t) (fun _ _ => True) (fun _ _ => True) w

theorem Turn.tells (ht : Turn t b b') (h : b.world.Tells t firmware b.ran) (hf : b.Waits t) :
    b'.world.Tells t firmware b'.ran ∧ b'.Waits t ∧ b.world.room ≤ b'.world.room := by
  have landed {v : World} {run run' : Run Reply} {ran : List ProbeRun} {fs : List Suspended}
      (sent : Option (Stack × Kind)) (hv : v.Tells t firmware ran)
      (ha : run.Along (Expects t) (fun _ _ => True) (fun _ _ => True) v) (hl : run.Lands (fun _ => True) run')
      (hfs : Waits t ⟨v, fs, ran⟩) : run'.world.Tells t firmware ran ∧
        Waits t ⟨run'.world, Suspended.ofRun sent run' ++ fs, ran⟩ ∧ v.room ≤ run'.world.room := by
    have ha' := ha.lands hl
    have hs := ha'.stopped hl.stops
    refine ⟨hv.of_steps hs, fun f hm => ?_, World.Expects.room_le hs⟩
    rcases List.mem_append.mp hm with hm | hm
    · obtain ⟨w, on, resume, rfl, rfl⟩ := Suspended.mem_ofRun hm
      exact fun w' => ha'.2 w' trivial
    · exact hfs f hm
  cases ht with
  | begin c hc hl => exact landed none h (performProcessor_expects hc) hl hf
  | @resume w fs gs ran run f hset hl =>
    refine landed f.sent h (hf f (List.mem_append_right fs List.mem_cons_self) w) hl fun g hg => hf g ?_
    exact Config.mem_of_mem_without g hg
  | @work w w' fs ran js ks j hj hr =>
    have hk : (World.Tells t firmware ran { w with jobs := js ++ ks }) :=
      h.of_idle ⟨rfl, rfl, fun x hx => .inl (by
        rw [hj, List.mem_append, List.mem_cons]; exact (List.mem_append.mp hx).imp_right .inr)⟩
    obtain ⟨outcome, u, hu, htab, hjobs, harr⟩ := Job.run_cases hr
    have hp := hk.probe (h.jobs j (by rw [hj]; simp)) hu
    have hroom : w.room = w'.room := by
      obtain ⟨-, hsame, -⟩ := probeProcessor_cases hu
      rw [World.room, World.room, harr, hsame]; rfl
    rw [hu]
    exact ⟨hp.of_idle ⟨htab, harr, fun x hx => .inl (hjobs ▸ hx)⟩, hf, Nat.le_of_eq hroom⟩
  | other ht hn hj =>
    have hs := Relation.ReflTransGen.single (World.Expects.of_eq (t := t) ht hn hj)
    exact ⟨h.of_steps hs, hf, World.Expects.room_le hs⟩

theorem Turns.tells (ht : Relation.ReflTransGen (Turn t) b b') (h : b.world.Tells t firmware b.ran)
    (hf : b.Waits t) :
    b'.world.Tells t firmware b'.ran ∧ b'.Waits t ∧ b.world.room ≤ b'.world.room := by
  induction ht with
  | refl => exact ⟨h, hf, Nat.le_refl _⟩
  | tail _ ht ih =>
    obtain ⟨h, hf, hle⟩ := ht.tells ih.1 ih.2.1
    exact ⟨h, hf, Nat.le_trans ih.2.2 hle⟩

/-- A turn adds to what has run at its end. -/
theorem Turn.ran (ht : Turn t b b') : b'.ran = b.ran ∨ ∃ q, b'.ran = b.ran ++ [q] := by
  cases ht with
  | work => exact .inr ⟨_, rfl⟩
  | _ => exact .inl rfl

theorem Turns.ran (ht : Relation.ReflTransGen (Turn t) b b') : b.ran <+: b'.ran := by
  induction ht with
  | refl => exact List.prefix_refl _
  | tail _ ht ih =>
    rcases ht.ran with h | ⟨q, h⟩
    · rw [h]; exact ih
    · rw [h]; exact ih.trans (List.prefix_append _ _)

end Bringup

theorem World.Tells.filled_iff {ran : List ProbeRun} (h : w.Tells t firmware ran) (i : UInt32) :
    ((w.topologies.get t).processor? i).isSome ↔ ∃ q ∈ ran, q.processor = i ∧ q.succeeded = true := by
  rw [h.slots]
  constructor
  · intro hs
    obtain ⟨q, hq⟩ := Option.isSome_iff_exists.mp (Option.isSome_of_isSome_bind hs)
    exact ⟨q, ProbeRun.of_lastOn hq⟩
  · rintro ⟨q, hq, rfl, hs⟩
    obtain ⟨q', hq'⟩ := Option.isSome_iff_exists.mp (ProbeRun.isSome_lastOn hq hs)
    obtain ⟨hm, hp, hs'⟩ := ProbeRun.of_lastOn hq'
    obtain ⟨r, hr⟩ := h.found q' hm hs'
    rw [hq', Option.bind_some, ← hp, hr]; rfl

theorem World.Tells.described {ran : List ProbeRun} (h : w.Tells t firmware ran)
    (hD : ∀ q ∈ ran, q.platform.decoder.Laws) (i : UInt32) :
    (w.topologies.get t).processor? i = (ProbeRun.lastOn ran i).bind (·.platform.describe firmware i) := by
  rw [h.slots]
  cases hq : ProbeRun.lastOn ran i with
  | none => rfl
  | some q =>
    obtain ⟨hm, rfl, hs⟩ := ProbeRun.of_lastOn hq
    obtain ⟨r, hr⟩ := h.found q hm hs
    rw [Option.bind_some, Option.bind_some, hr, Platform.describe_of_finding (hD q hm) hr]; rfl

/-- A slot that is filled names the vendor. -/
theorem World.Tells.manufacturer {ran : List ProbeRun} (h : w.Tells t firmware ran)
    (hD : ∀ q ∈ ran, q.platform.decoder.Laws) {q : ProbeRun} {s : String} (hq : ProbeRun.lastOn ran i = some q)
    (hs : String.fromUTF8? (q.platform.cpuid i 0 0).vendorBytes = some s) :
    ((w.topologies.get t).processor? i).map (·.manufacturer) = some s := by
  obtain ⟨hm, rfl, hsucceeded⟩ := ProbeRun.of_lastOn hq
  obtain ⟨r, hr⟩ := h.found q hm hsucceeded
  have hr := Platform.describe_of_finding (hD q hm) hr
  rw [h.described hD, hq, Option.bind_some, hr, Option.map_some, Platform.manufacturer_of_describe (hD q hm) hr hs]

/-- At any time there is room for exactly the processors whose arrival has begun. A slot is filled when a probe has
succeeded on its processor, and holds what that processor told the last of them, where the text of the vendor's
bytes is the vendor. The table never shrinks, no slot becomes empty again, and only a probe on its processor changes
a slot. -/
theorem processor_table_of_histories {w : World} {b : Bringup} (ht : t < w.topologies.size)
    (hw : w.topologies.get t = { firmware }) (hj : w.jobs = []) (ha : w.arrivals = [])
    (h : Relation.ReflTransGen (Bringup.Turn t) ⟨w, [], []⟩ b) (hD : ∀ q ∈ b.ran, q.platform.decoder.Laws) :
    (b.table t).count = (b.world.arrivals.map (·.toNat + 1)).foldl max 0 ∧
    (∀ i, (b.table t).processor? i = (ProbeRun.lastOn b.ran i).bind (·.platform.describe firmware i)) ∧
    (∀ i q s, ProbeRun.lastOn b.ran i = some q → String.fromUTF8? (q.platform.cpuid i 0 0).vendorBytes = some s →
      ((b.table t).processor? i).map (·.manufacturer) = some s) ∧
    (∀ i, ((b.table t).processor? i).isSome ↔ ∃ q ∈ b.ran, q.processor = i ∧ q.succeeded = true) ∧
    (∀ b', Relation.ReflTransGen (Bringup.Turn t) b b' → (b.table t).count ≤ (b'.table t).count ∧
      ∀ i, ((b.table t).processor? i).isSome → ((b'.table t).processor? i).isSome) ∧
    ∀ b', Bringup.Turn t b b' → ∀ i, (b'.table t).processor? i ≠ (b.table t).processor? i →
      ∃ q, b'.ran = b.ran ++ [q] ∧ q.processor = i ∧ q.succeeded = true := by
  have h₀ : w.Tells t firmware [] := by
    refine ⟨ht, by rw [hw], by rw [hj]; nofun, ?_, fun i => ?_, nofun⟩
    · rw [hw, World.room, ha]; rfl
    · rw [hw]; simp [Topology.processor?, ProbeRun.lastOn]
  obtain ⟨hb, hf, -⟩ := Bringup.Turns.tells h h₀ fun f hf => absurd hf List.not_mem_nil
  refine ⟨hb.count, hb.described hD, fun i q s hq hs => hb.manufacturer hD hq hs, hb.filled_iff, fun b' hb' => ?_,
    fun b' hb' i hne => ?_⟩
  · obtain ⟨hb'', -, hle⟩ := Bringup.Turns.tells hb' hb hf
    refine ⟨by rw [Bringup.table, Bringup.table, hb.count, hb''.count]; exact hle, fun i hi => ?_⟩
    obtain ⟨q, hq, hs⟩ := (hb.filled_iff i).mp hi
    exact (hb''.filled_iff i).mpr ⟨q, (Bringup.Turns.ran hb').subset hq, hs⟩
  · obtain ⟨hb'', -⟩ := hb'.tells hb hf
    have hslot := hb''.slots i
    rcases hb'.ran with hr | ⟨q, hr⟩
    · rw [hr, ← hb.slots i] at hslot
      exact absurd hslot hne
    · refine ⟨q, hr, Classical.byContradiction fun hq => ?_⟩
      rw [hr] at hslot
      refine hne (hslot.trans (.trans ?_ (hb.slots i).symm))
      cases hs : q.succeeded with
      | false => rw [ProbeRun.lastOn_append_failed hs]
      | true => rw [ProbeRun.lastOn_append hs, if_neg fun hi => hq ⟨hi, hs⟩]

/-! ### A probe that runs elsewhere -/

/-- What is sent to processor 0 runs on processor 1, which the firmware lists. -/
def World.misplaced : World where
  platform := {
    rows := [(1, [⟨0, 0, { eax := 1, ebx := 0x756E6547, ecx := 0x6C65746E, edx := 0x49656E69 }⟩,
      ⟨1, 0, { ebx := 0x05000000 }⟩])]
    landsOn := [(0, 1)]
    decoder := .documented }
  topologies := ⟨[{ firmware := [⟨7, 5, .running, true⟩] }]⟩
  clients := { topologies := [0] }

/-- While a probe is awaited another processor arrives. -/
theorem processor_table_of_histories_of_misplaced :
    ∃ b, Relation.ReflTransGen (Bringup.Turn 0) ⟨.misplaced, [], []⟩ b ∧
    b.suspended ≠ [] ∧ (b.table 0).count = 4 ∧ (b.table 0).processor? 0 = none ∧
    (b.table 0).processor? 1 = some ⟨"GenuineIntel", 5, 7⟩ := by
  have h₁ : Bringup.Turn 0 ⟨.misplaced, [], []⟩ ⟨_, _, _⟩ := .begin (.change 0 1 .addStart) rfl (.done trivial)
  have h₂ := (Relation.ReflTransGen.single h₁).tail (.begin (.change 0 0 .addComplete) rfl (.wait trivial))
  have h₃ := h₂.tail (.begin (.change 0 3 .addStart) rfl (.done trivial))
  have h := h₃.tail (@Bringup.Turn.work 0 _ _ _ _ [] [] _ rfl rfl)
  have hw : World.misplaced.topologies.get 0 = { firmware := [⟨7, 5, .running, true⟩] } := rfl
  obtain ⟨hcount, hslots, -⟩ := processor_table_of_histories (by decide) hw rfl rfl h fun q hq => by
    rw [List.mem_singleton.mp hq]; exact CpuDecoder.documented_laws
  refine ⟨_, h, nofun, hcount.trans ?_, (hslots 0).trans ?_, (hslots 1).trans ?_⟩
  · decide +kernel
  · decide +kernel
  · decide +kernel

end PnpBus
