import PnpBus.Proofs.Probes

/-!
# What probes find

On a platform that keeps its word, what a probe finds depends on nothing but
its processor and the firmware's list. So it does not matter what else happens
while the probe is under way: others make room, send probes of their own, and
have theirs run. What that leaves as it is, and how this probe comes back, is
kept by each of their steps, and by all of them together.
-/

namespace PnpBus

variable {t : TopologyId} {i : UInt32} {p : ProbeId} {j : Job} {u v w : World} {n : Nat} {firmware : ProcessorTable}

/-! ## A platform that keeps its word -/

namespace Platform

variable {P : Platform}

/-- Every job that is accepted runs on the processor that it was sent to, and every processor can be decoded. -/
structure IsHonest (P : Platform) : Prop where
  lands : ∀ i, P.place i = .on i ∨ ∃ s, P.place i = .refused s
  decodes : ∀ i, P.identify i ≠ .error .undecodable

/-- What comes of a probe that is sent to processor `i`. -/
def answer (P : Platform) (firmware : ProcessorTable) (i : UInt32) : Except Status ProcessorRecord :=
  match P.place i with
  | .refused s => .error s
  | _ => P.finding firmware i

/-- Jobs for processor `i` are accepted, and it says who it is, which the firmware lists. -/
def Vouches (P : Platform) (firmware : ProcessorTable) (i : UInt32) : Prop :=
  P.place i = .on i ∧ ∃ who, P.identify i = .ok who ∧ ∃ e ∈ firmware, e.apicId = who.apicId

theorem uidOfApic_ok_iff (firmware : ProcessorTable) (apicId : UInt32) :
    (∃ uid, firmware.uidOfApic apicId = .ok uid) ↔ ∃ e ∈ firmware, e.apicId = apicId := by
  unfold ProcessorTable.uidOfApic
  split
  next e he =>
    have h := List.find?_some he
    rw [decide_eq_true_eq] at h
    exact ⟨fun _ => ⟨e, List.mem_of_find?_eq_some he, h⟩, fun _ => ⟨_, rfl⟩⟩
  next hn =>
    refine ⟨nofun, fun ⟨e, he, h⟩ => ?_⟩
    exact absurd (decide_eq_true h) (List.find?_eq_none.mp hn e he)

theorem finding_ok_iff : (∃ r, P.finding firmware i = .ok r) ↔
    ∃ who, P.identify i = .ok who ∧ ∃ e ∈ firmware, e.apicId = who.apicId := by
  cases hwho : P.identify i with
  | error e => rw [finding_refused hwho]; exact ⟨nofun, nofun⟩
  | ok who =>
    have hlisted := uidOfApic_ok_iff firmware who.apicId
    constructor
    · rintro ⟨r, h⟩
      refine ⟨who, rfl, hlisted.mp ?_⟩
      cases hu : firmware.uidOfApic who.apicId with
      | ok uid => exact ⟨uid, rfl⟩
      | error e => cases (finding_unlisted hwho hu).symm.trans h
    · rintro ⟨_, h, he⟩
      cases h
      obtain ⟨uid, hu⟩ := hlisted.mpr he
      exact ⟨_, finding_listed hwho hu⟩

theorem IsHonest.answer_ok_iff (hP : P.IsHonest) : (∃ r, P.answer firmware i = .ok r) ↔ P.Vouches firmware i := by
  rw [Vouches, ← finding_ok_iff, answer]
  rcases hP.lands i with h | ⟨s, h⟩
  · rw [h]; exact (and_iff_right rfl).symm
  · rw [h]; exact ⟨nofun, nofun⟩

end Platform

namespace World

structure Worked (j : Job) (v w : World) : Prop where
  platform : w.platform = v.platform
  drivers : w.drivers = v.drivers
  jobs : w.jobs = v.jobs
  topologies : w.topologies = v.visited j.topology j.processor
  probes : w.probes = v.probes.modify j.probe fun _ =>
    some (((v.topologies.get j.topology).visit v.platform j.processor).map fun _ => ())

end World

/-- The probe visits the table, and its sender is told what it found. -/
theorem Job.run_worked (h : v.platform.identify j.processor ≠ .error .undecodable) :
    ∃ w, j.run v = (none, w) ∧ v.Worked j w := by
  obtain ⟨u, hu, ⟨hplatform, hdrivers, hjobs, hprobes, -⟩, htopologies⟩ := probeProcessor_visits (t := j.topology) h
  rw [Job.run, Act.bind_apply, hu]
  cases hv : (v.topologies.get j.topology).visit v.platform j.processor with
  | ok T => exact ⟨_, rfl, hplatform, hdrivers, hjobs, htopologies, by rw [hv, ← hprobes]; rfl⟩
  | error e => exact ⟨_, rfl, hplatform, hdrivers, hjobs, htopologies, by rw [hv, ← hprobes]; rfl⟩

/-! ## What others do meanwhile -/

structure Topology.Grown (S T : Topology) : Prop where
  firmware : T.firmware = S.firmware
  count : S.count ≤ T.count
  slots : ∀ i, T.processor? i = S.processor? i

theorem Topology.grown_refl (T : Topology) : T.Grown T := ⟨rfl, Nat.le_refl _, fun _ => rfl⟩

theorem Topology.grown_grow (T : Topology) (i : UInt32) : T.Grown (T.grow i) :=
  ⟨rfl, by rw [T.count_grow]; exact Nat.le_max_left _ _, T.processor?_grow i⟩

namespace World

structure AddsProbes (v w : World) : Prop where
  platform : w.platform = v.platform
  drivers : v.drivers.size ≤ w.drivers.size
  topologies : v.topologies.size ≤ w.topologies.size
  tables : ∀ t < v.topologies.size, (v.topologies.get t).Grown (w.topologies.get t)
  probes : v.probes.size ≤ w.probes.size
  outcomes : ∀ p < v.probes.size, w.probes.get p = v.probes.get p
  jobs : ∃ js, w.jobs = v.jobs ++ js ∧ ∀ j ∈ js, v.probes.size ≤ j.probe ∧ j.probe < w.probes.size

namespace AddsProbes

theorem of_eq (hp : w.platform = v.platform) (hd : v.drivers.size ≤ w.drivers.size)
    (ht : w.topologies = v.topologies) (hq : w.probes = v.probes) (hj : w.jobs = v.jobs) : v.AddsProbes w where
  platform := hp
  drivers := hd
  topologies := Nat.le_of_eq (by rw [ht])
  tables t _ := by rw [ht]; exact Topology.grown_refl _
  probes := Nat.le_of_eq (by rw [hq])
  outcomes p _ := by rw [hq]
  jobs := ⟨[], by rw [hj, List.append_nil], nofun⟩

theorem refl (w : World) : w.AddsProbes w := of_eq rfl (Nat.le_refl _) rfl rfl rfl

theorem note (w : World) (n : Notice) : w.AddsProbes (w.note n) := of_eq rfl (Nat.le_refl _) rfl rfl rfl

theorem trans (h : u.AddsProbes v) (h' : v.AddsProbes w) : u.AddsProbes w where
  platform := h'.platform.trans h.platform
  drivers := Nat.le_trans h.drivers h'.drivers
  topologies := Nat.le_trans h.topologies h'.topologies
  tables t ht := by
    have hu := h.tables t ht
    have hv := h'.tables t (Nat.lt_of_lt_of_le ht h.topologies)
    exact ⟨hv.firmware.trans hu.firmware, Nat.le_trans hu.count hv.count, fun i => (hv.slots i).trans (hu.slots i)⟩
  probes := Nat.le_trans h.probes h'.probes
  outcomes p hp := (h'.outcomes p (Nat.lt_of_lt_of_le hp h.probes)).trans (h.outcomes p hp)
  jobs := by
    obtain ⟨js, hjs, hj⟩ := h.jobs
    obtain ⟨ks, hks, hk⟩ := h'.jobs
    refine ⟨js ++ ks, by rw [hks, hjs, List.append_assoc], fun j hm => ?_⟩
    rcases List.mem_append.mp hm with hm | hm
    · exact ⟨(hj j hm).1, Nat.lt_of_lt_of_le (hj j hm).2 h'.probes⟩
    · exact ⟨Nat.le_trans h.probes (hk j hm).1, (hk j hm).2⟩

theorem updateTopology (w : World) (t : TopologyId) {f : Topology → Topology} (hf : ∀ T : Topology, T.Grown (f T)) :
    w.AddsProbes (w.updateTopology t f) where
  platform := rfl
  drivers := Nat.le_refl _
  topologies := Nat.le_of_eq (Table.size_modify ..).symm
  tables x _ := by
    show Topology.Grown _ ((w.topologies.modify t f).get x)
    rw [Table.get_modify]
    split
    next h => rw [h.1]; exact hf _
    next => exact Topology.grown_refl _
  probes := Nat.le_refl _
  outcomes _ _ := rfl
  jobs := ⟨[], (List.append_nil _).symm, nofun⟩

theorem arrive (w : World) (t : TopologyId) (i : UInt32) : w.AddsProbes (w.arrive t i) :=
  ((note w _).trans (updateTopology _ t (·.grown_grow i))).trans (note _ _)

theorem pushTopology (w : World) (T : Topology) : w.AddsProbes { w with topologies := w.topologies.push T } where
  platform := rfl
  drivers := Nat.le_refl _
  topologies := by show _ ≤ (w.topologies.push T).size; rw [Table.size_push]; exact Nat.le_succ _
  tables t ht := by
    show Topology.Grown _ ((w.topologies.push T).get t)
    rw [Table.get_push_of_lt ht]; exact Topology.grown_refl _
  probes := Nat.le_refl _
  outcomes _ _ := rfl
  jobs := ⟨[], (List.append_nil _).symm, nofun⟩

end AddsProbes

def Works (v w : World) : Prop := ∃ js j ks, v.jobs = js ++ j :: ks ∧ Worked j { v with jobs := js ++ ks } w

theorem Worked.mem {js ks : List Job} {x : Job} (h : Worked j { v with jobs := js ++ ks } w)
    (hj : v.jobs = js ++ j :: ks) (hx : x ∈ w.jobs) : x ∈ v.jobs := by
  rw [h.jobs, List.mem_append] at hx
  rw [hj, List.mem_append, List.mem_cons]
  exact hx.imp_right .inr

abbrev Others : World → World → Prop := Relation.ReflTransGen fun v w => v.AddsProbes w ∨ v.Works w

theorem AddsProbes.others (h : v.AddsProbes w) : v.Others w := .single (.inl h)

theorem Works.others (h : v.Works w) : v.Others w := .single (.inr h)

def IsSteady (I : World → Prop) : Prop := ∀ v w, v.AddsProbes w ∨ v.Works w → I v → I w

theorem IsSteady.others {I : World → Prop} (h : IsSteady I) (ho : v.Others w) (hv : I v) : I w := by
  induction ho with
  | refl => exact hv
  | tail _ hs ih => exact h _ _ hs ih

/-- A job fills a slot, or leaves the table alone. -/
theorem visited_cases (v : World) (x : TopologyId) (i : UInt32) (t : TopologyId) :
    (v.visited x i).get t = v.topologies.get t ∨
      ∃ r, v.platform.finding (v.topologies.get t).firmware i = .ok r ∧ i.toNat < (v.topologies.get t).count ∧
        (v.visited x i).get t = (v.topologies.get t).fill i r := by
  unfold visited
  cases hv : (v.topologies.get x).visit v.platform i with
  | error e => exact .inl rfl
  | ok T =>
    dsimp only
    rw [Table.get_modify]
    split
    next h =>
      obtain ⟨rfl, -⟩ := h
      obtain ⟨r, hr, hi, rfl⟩ := Topology.visit_ok hv
      exact .inr ⟨r, hr, hi, rfl⟩
    next => exact .inl rfl

theorem size_visited (v : World) (x : TopologyId) (i : UInt32) : (v.visited x i).size = v.topologies.size := by
  unfold visited
  split
  · exact Table.size_modify ..
  · rfl

/-! ### What lasts -/

structure IsReady (w : World) : Prop where
  honest : w.platform.IsHonest
  known : ∀ j ∈ w.jobs, j.probe < w.probes.size

theorem isReady_steady : IsSteady IsReady := by
  rintro v w (h | ⟨js, j, ks, hj, h⟩) hv
  · refine ⟨h.platform ▸ hv.honest, fun x hx => ?_⟩
    obtain ⟨js, hjs, hn⟩ := h.jobs
    rcases List.mem_append.mp (hjs ▸ hx) with hx | hx
    · exact Nat.lt_of_lt_of_le (hv.known x hx) h.probes
    · exact (hn x hx).2
  · refine ⟨h.platform ▸ hv.honest, fun x hx => ?_⟩
    rw [h.probes, Table.size_modify]
    exact hv.known x (h.mem hj hx)

theorem platform_steady (P : Platform) : IsSteady fun w => w.platform = P := by
  rintro v w (h | ⟨js, j, ks, hj, h⟩) hv
  · exact h.platform.trans hv
  · exact h.platform.trans hv

/-- The platform is `P`, and topology `t` is about the processors that `firmware` lists. -/
structure Surveys (P : Platform) (firmware : ProcessorTable) (t : TopologyId) (w : World) : Prop where
  platform : w.platform = P
  known : t < w.topologies.size
  listed : (w.topologies.get t).firmware = firmware

variable {P : Platform}

theorem surveys_steady : IsSteady (Surveys P firmware t) := by
  rintro v w (h | ⟨js, j, ks, hj, h⟩) hv
  · exact ⟨h.platform.trans hv.platform, Nat.lt_of_lt_of_le hv.known h.topologies,
      (h.tables t hv.known).firmware.trans hv.listed⟩
  · refine ⟨h.platform.trans hv.platform, ?_, ?_⟩
    · rw [h.topologies, size_visited]; exact hv.known
    · rw [h.topologies]
      rcases visited_cases { v with jobs := js ++ ks } j.topology j.processor t with he | ⟨r, -, -, he⟩ <;>
        rw [he] <;>
        exact hv.listed

/-- There is room for `n` processors. -/
theorem room_steady (n : Nat) : IsSteady fun w => w.Surveys P firmware t ∧ n ≤ (w.topologies.get t).count := by
  rintro v w hs ⟨hv, hn⟩
  refine ⟨surveys_steady v w hs hv, ?_⟩
  rcases hs with h | ⟨js, j, ks, hj, h⟩
  · exact Nat.le_trans hn (h.tables t hv.known).count
  · rw [h.topologies]
    rcases visited_cases { v with jobs := js ++ ks } j.topology j.processor t with he | ⟨r, -, -, he⟩ <;> rw [he]
    · exact hn
    · rw [Topology.count_fill]; exact hn

/-- Slot `i` holds what a probe on its processor finds. -/
def Shows (P : Platform) (firmware : ProcessorTable) (t : TopologyId) (i : UInt32) (w : World) : Prop :=
  w.Surveys P firmware t ∧ ∃ r, P.finding firmware i = .ok r ∧ (w.topologies.get t).processor? i = some r

theorem shows_steady (i : UInt32) : IsSteady (Shows P firmware t i) := by
  rintro v w hs ⟨hv, r, hr, hi⟩
  refine ⟨surveys_steady v w hs hv, r, hr, ?_⟩
  rcases hs with h | ⟨js, j, ks, hj, h⟩
  · exact ((h.tables t hv.known).slots i).trans hi
  · rw [h.topologies]
    rcases visited_cases { v with jobs := js ++ ks } j.topology j.processor t with he | ⟨r', hr', hlt, he⟩ <;>
      rw [he]
    · exact hi
    · rw [Topology.processor?_fill r' hlt]
      split
      next heq =>
        -- another probe on the same processor finds the same
        have hsame : P.finding firmware i = .ok r' := by rw [← hv.platform, ← hv.listed, ← heq]; exact hr'
        rw [hr] at hsame
        cases hsame; rfl
      next => exact hi

/-- Probe `p` has come back, or is on its way. -/
def Expected (p : ProbeId) (w : World) : Prop :=
  p < w.probes.size ∧ (w.isSet (.probed p) = true ∨ ∃ j ∈ w.jobs, j.probe = p)

theorem expected_steady (p : ProbeId) : IsSteady (Expected p) := by
  rintro v w (h | ⟨js, j, ks, hj, h⟩) ⟨hp, hv⟩
  · refine ⟨Nat.lt_of_lt_of_le hp h.probes, hv.imp (fun hs => ?_) fun ⟨x, hx, he⟩ => ?_⟩
    · show (w.probes.get p).isSome = true
      rw [h.outcomes p hp]; exact hs
    · obtain ⟨js, hjs, -⟩ := h.jobs
      exact ⟨x, by rw [hjs]; exact List.mem_append_left js hx, he⟩
  · have hget : (w.probes.get p).isSome = true ↔ j.probe = p ∨ v.isSet (.probed p) = true := by
      rw [h.probes, Table.get_modify]
      split
      next he => exact ⟨fun _ => .inl he.1.symm, fun _ => rfl⟩
      next hn => exact ⟨.inr, fun he => he.resolve_left fun e => hn ⟨e.symm, e ▸ hp⟩⟩
    refine ⟨by rw [h.probes, Table.size_modify]; exact hp, ?_⟩
    by_cases he : j.probe = p
    · exact .inl (hget.mpr (.inl he))
    · refine hv.imp (fun hs => hget.mpr (.inr hs)) fun ⟨x, hx, hxp⟩ => ⟨x, ?_, hxp⟩
      rw [hj, List.mem_append, List.mem_cons] at hx
      rw [h.jobs]
      exact List.mem_append.mpr (hx.imp_right fun hx => hx.resolve_left fun e => he (e ▸ hxp))

structure Probing (P : Platform) (firmware : ProcessorTable) (t : TopologyId) (i : UInt32)
    (p : ProbeId) (w : World) :
    Prop extends Surveys P firmware t w where
  room : i.toNat + 1 ≤ (w.topologies.get t).count
  sent : p < w.probes.size
  own : ∀ j ∈ w.jobs, j.probe = p → j = ⟨i, t, p⟩
  outcome : w.isSet (.probed p) = true → w.probes.get p = some ((P.finding firmware i).map fun _ => ()) ∧
    ∀ r, P.finding firmware i = .ok r → w.Shows P firmware t i

namespace Probing

variable {i : UInt32} {p : ProbeId}

/-- What leaves the probe and the slot alone leaves its answer as good as it was. -/
theorem outcome_of_get (hv : v.Probing P firmware t i p) (hget : w.probes.get p = v.probes.get p)
    (hshows : v.Shows P firmware t i → w.Shows P firmware t i) (hset : w.isSet (.probed p) = true) :
    w.probes.get p = some ((P.finding firmware i).map fun _ => ()) ∧
      ∀ r, P.finding firmware i = .ok r → w.Shows P firmware t i := by
  have hset' : v.isSet (.probed p) = true := by
    show (v.probes.get p).isSome = true
    rw [← hget]; exact hset
  obtain ⟨hp, hr⟩ := hv.outcome hset'
  exact ⟨hget.trans hp, fun r h => hshows (hr r h)⟩

/-- The probe's own job answers it by what is to be found, and leaves that in the slot. -/
theorem outcome_of_worked {js : List Job} (hv : v.Probing P firmware t i p)
    (h : Worked ⟨i, t, p⟩ { v with jobs := js } w) (hl : w.Surveys P firmware t) :
    w.probes.get p = some ((P.finding firmware i).map fun _ => ()) ∧
      ∀ r, P.finding firmware i = .ok r → w.Shows P firmware t i := by
  have hvisit : (v.topologies.get t).visit v.platform i =
      (P.finding firmware i).map ((v.topologies.get t).fill i) := by
    rw [Topology.visit_of_lt hv.room, hv.listed, hv.platform]
  have hprobes :
      w.probes.get p = some (((P.finding firmware i).map ((v.topologies.get t).fill i)).map fun _ => ()) := by
    rw [h.probes, Table.get_modify_self hv.sent]
    exact congrArg (fun e => some (e.map fun _ => ())) hvisit
  cases hf : P.finding firmware i with
  | error e => exact ⟨by rw [hprobes, hf]; rfl, fun r hr => by cases hr⟩
  | ok r =>
    refine ⟨by rw [hprobes, hf]; rfl, fun _ _ => ⟨hl, r, hf, ?_⟩⟩
    have htable : w.topologies.get t = (v.topologies.get t).fill i r := by
      rw [h.topologies, visited]
      dsimp only
      rw [hvisit, hf]
      exact Table.get_modify_self hv.known _
    rw [htable, Topology.processor?_fill r hv.room, if_pos rfl]

end Probing

theorem probing_steady (i : UInt32) (p : ProbeId) : IsSteady (Probing P firmware t i p) := by
  intro v w hs hv
  obtain ⟨hl, hroom⟩ := room_steady (i.toNat + 1) v w hs ⟨hv.toSurveys, hv.room⟩
  have hshows : v.Shows P firmware t i → w.Shows P firmware t i := shows_steady i v w hs
  rcases hs with h | ⟨js, j, ks, hj, h⟩
  · refine ⟨hl, hroom, Nat.lt_of_lt_of_le hv.sent h.probes, fun x hx hxp => ?_,
      hv.outcome_of_get (h.outcomes p hv.sent) hshows⟩
    obtain ⟨js, hjs, hn⟩ := h.jobs
    rcases List.mem_append.mp (hjs ▸ hx) with hx | hx
    · exact hv.own x hx hxp
    · exact absurd hv.sent (Nat.not_lt.mpr (hxp ▸ (hn x hx).1))
  · refine ⟨hl, hroom, by rw [h.probes, Table.size_modify]; exact hv.sent,
      fun x hx hxp => hv.own x (h.mem hj hx) hxp, fun hset => ?_⟩
    by_cases he : j.probe = p
    · have hown := hv.own j (by rw [hj]; simp) he
      subst hown
      exact hv.outcome_of_worked h hl
    · exact hv.outcome_of_get (by rw [h.probes, Table.get_modify_of_ne he]) hshows hset

end World

end PnpBus
