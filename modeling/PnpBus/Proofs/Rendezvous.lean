import PnpBus.Proofs.Findings

/-!
# Probes and their callers

A caller that has sent a probe waits until it has come back, and is told what
its own probe found. That is what registration relies on, which brings up one
processor after the other, and what the attachment of a topology relies on,
which registers the processors that are there.
-/

namespace PnpBus

variable {α β : Type} {t : TopologyId} {i : UInt32} {p : ProbeId} {u v w : World} {n : Nat}
  {firmware : ProcessorTable}

/-! ## Calls that wait for probes -/

/-- The run waits for nothing but probes that are on their way, and counts on what others keep meanwhile. Where it
stops for good, `stuck` holds. -/
def Run.AwaitsProbes (stuck : Prop) (post : World → α → Prop) : World → Run α → Prop
  | v, .done w a => v.AddsProbes w ∧ post w a
  | v, .via _ rest => rest.AwaitsProbes stuck post v
  | v, .wait w on resume => v.AddsProbes w ∧ (∃ j ∈ w.jobs, on = .probed j.probe) ∧
      ∀ w', w.Others w' → w'.isSet on = true → (resume w').AwaitsProbes stuck post w'
  | _, .halt _ _ => stuck

namespace Run.AwaitsProbes

variable {stuck : Prop} {post : World → α → Prop} {run : Run α}

theorem same {a : α} (h : post w a) : (Run.done w a).AwaitsProbes stuck post w := ⟨.refl w, h⟩

theorem «from» (hs : u.AddsProbes v) (h : run.AwaitsProbes stuck post v) : run.AwaitsProbes stuck post u := by
  induction run with
  | done w a => exact ⟨hs.trans h.1, h.2⟩
  | via w rest ih => exact ih h
  | wait w on resume => exact ⟨hs.trans h.1, h.2⟩
  | halt w why => exact h

theorem bind {f : α → World → Run β} {q : World → β → Prop} (h : run.AwaitsProbes stuck post v)
    (hf : ∀ w a, v.Others w → post w a → (f a w).AwaitsProbes stuck q w) : (run.bind f).AwaitsProbes stuck q v := by
  induction run generalizing v with
  | done w a => exact (hf w a h.1.others h.2).from h.1
  | via w rest ih => exact ih h hf
  | wait w on resume ih =>
    refine ⟨h.1, h.2.1, fun w' ho hset => ih w' (h.2.2 w' ho hset) fun x a hx => hf x a ?_⟩
    exact h.1.others.trans (ho.trans hx)
  | halt w why => exact h

theorem imp {q : World → α → Prop} (h : run.AwaitsProbes stuck post v)
    (hpq : ∀ w a, v.Others w → post w a → q w a) :
    run.AwaitsProbes stuck q v :=
  run.bind_done ▸ h.bind fun w a ho ha => same (hpq w a ho ha)

end Run.AwaitsProbes

namespace World

/-- What a probe that is sent to processor `i` in this world is to come to. -/
def outcome (v : World) (t : TopologyId) (i : UInt32) : Except Status Unit :=
  if i.toNat < (v.topologies.get t).count then
    (v.platform.answer (v.topologies.get t).firmware i).map fun _ => ()
  else .error .invalidParameter

def calling (v : World) (i : UInt32) : World :=
  { v with probes := v.probes.push none, journal := { v.journal with runs := v.journal.runs ++ [i] } }

theorem addsProbes_calling (v : World) (i : UInt32) (js : List Job) (hj : ∀ j ∈ js, j.probe = v.probes.size) :
    v.AddsProbes { v.calling i with jobs := v.jobs ++ js } where
  platform := rfl
  drivers := Nat.le_refl _
  topologies := Nat.le_refl _
  tables _ _ := Topology.grown_refl _
  probes := by show _ ≤ (v.probes.push none).size; rw [Table.size_push]; exact Nat.le_succ _
  outcomes p hp := Table.get_push_of_lt hp _
  jobs := ⟨js, rfl, fun j hm => by
    show _ ∧ _ < (v.probes.push none).size
    rw [hj j hm, Table.size_push]
    exact ⟨Nat.le_refl _, Nat.lt_succ_self _⟩⟩

theorem known_of_room (h : i.toNat < (v.topologies.get t).count) : t < v.topologies.size := by
  refine Nat.lt_of_not_le fun hle => ?_
  rw [Table.get_of_size_le hle] at h
  exact absurd h (Nat.not_lt_zero _)

end World

section
variable {stuck : Prop}

theorem sendJob_run (t : TopologyId) (i : UInt32) (p : ProbeId) (w : World) :
    (sendJob i t p).run w = match w.platform.place i with
      | .refused s => (.error s, w.after (noteRun i))
      | .lost => (.ok (), w.after (noteRun i))
      | .on k => (.ok (), { w.after (noteRun i) with jobs := w.jobs ++ [⟨k, t, p⟩] }) := by
  have hplace : (noteRun i w).2.platform.place i = w.platform.place i := rfl
  simp only [sendJob, Act.run_bind, Act.run_lift, Act.run_get, World.after, hplace]
  cases w.platform.place i <;> rfl

theorem populate_run (t : TopologyId) (i : UInt32) (v : World) :
    (populate t i).run v = if i.toNat < (v.topologies.get t).count then
      match v.platform.place i with
      | .refused s => .done (v.calling i) (.error s)
      | .lost => (awaitProbe v.probes.size).run (v.calling i)
      | .on k => (awaitProbe v.probes.size).run { v.calling i with jobs := v.jobs ++ [⟨k, t, v.probes.size⟩] }
    else .done (v.note (.completeWithoutStart i)) (.error .invalidParameter) := by
  have hlook : (liftM (topology t) : ExceptT Status Call Topology).run v = .done v (.ok (v.topologies.get t)) := rfl
  have hnew : (liftM newProbe : ExceptT Status Call ProbeId).run v =
    .done { v with probes := v.probes.push none } (.ok v.probes.size) := rfl
  simp only [populate, Call.run_bind, hlook, Run.bind]
  by_cases hi : i.toNat < (v.topologies.get t).count
  · simp only [if_pos hi, Call.run_bind, hnew, Run.bind, Call.run_lift, World.after, sendJob_run]
    cases v.platform.place i <;> rfl
  · simp only [if_neg hi]
    rfl

theorem awaitProbe_run (h : w.probes.get p = none) :
    (awaitProbe p).run w = .wait w (.probed p) fun w' =>
    .done w' ((w'.probes.get p).getD (.error .unsuccessful)) := by
  have hset : ¬w.isSet (.probed p) = true := by
    show ¬(w.probes.get p).isSome = true
    rw [h]; exact nofun
  show Run.bind (if _ then _ else _) _ = _
  rw [if_neg hset]
  rfl

/-- Nobody else can have sent the probe that is new, and nothing has answered it. -/
theorem World.probing_sent (hv : v.IsReady) (hroom : i.toNat < (v.topologies.get t).count) :
    Probing v.platform (v.topologies.get t).firmware t i v.probes.size
      { v.calling i with jobs := v.jobs ++ [⟨i, t, v.probes.size⟩] } where
  platform := rfl
  known := known_of_room hroom
  listed := rfl
  room := hroom
  sent := by
    show _ < (v.probes.push none).size
    rw [Table.size_push]; exact Nat.lt_succ_self _
  own j hj hp := by
    rcases List.mem_append.mp hj with hj | hj
    · exact absurd (hp ▸ hv.known j hj) (Nat.lt_irrefl _)
    · exact List.mem_singleton.mp hj
  outcome hset := by
    have hset : ((v.probes.push none).get v.probes.size).isSome = true := hset
    rw [Table.get_push_size] at hset
    cases hset

/-- The caller of a probe is told what it is to come to, by its own probe alone. -/
theorem populate_awaitsProbes (hv : v.IsReady) (t : TopologyId) (i : UInt32) :
    ((populate t i).run v).AwaitsProbes stuck (fun w a => a = v.outcome t i ∧
      (a = .ok () → w.Shows v.platform (v.topologies.get t).firmware t i)) v := by
  rw [populate_run, World.outcome]
  split
  case isFalse => exact ⟨.note v _, rfl, fun h => by cases h⟩
  next hroom =>
  rcases hv.honest.lands i with hp | ⟨s, hp⟩
  case inr =>
    rw [Platform.answer, hp]
    have hcalling := v.addsProbes_calling i [] fun j hj => by cases hj
    rw [List.append_nil] at hcalling
    exact ⟨hcalling, rfl, fun h => by cases h⟩
  rw [Platform.answer, hp]
  have hnone : (v.probes.push none).get v.probes.size = none := Table.get_push_size ..
  dsimp only
  rw [awaitProbe_run hnone]
  refine ⟨v.addsProbes_calling i _ fun j hj => by rw [List.mem_singleton.mp hj],
    ⟨⟨i, t, v.probes.size⟩, by simp, rfl⟩, fun w ho hset => ?_⟩
  have hprobing := (World.probing_steady i v.probes.size).others ho (World.probing_sent hv hroom)
  obtain ⟨houtcome, hshows⟩ := hprobing.outcome hset
  show (Run.done w ((w.probes.get v.probes.size).getD _)).AwaitsProbes stuck _ w
  rw [houtcome]
  refine .same ⟨rfl, fun ha => ?_⟩
  cases hf : v.platform.finding (v.topologies.get t).firmware i with
  | ok r => exact hshows r hf
  | error e =>
    rw [hf] at ha
    cases ha

/-! ### Arrivals -/

theorem changeProcessor_awaitsProbes (hv : v.IsReady) (t : TopologyId) (i : UInt32) (c : ProcessorChange) :
    ((changeProcessor t i c).run v).AwaitsProbes stuck (fun w a => (c = .addStart → a = .ok () ∧ w = v.arrive t i) ∧
      (c = .addComplete → a = v.outcome t i ∧ (a = .ok () →
        w.Shows v.platform (v.topologies.get t).firmware t i))) v := by
  cases c with
  | addStart =>
    exact ⟨.arrive v t i, fun _ => ⟨rfl, rfl⟩, nofun⟩
  | addFailed => exact ⟨((World.AddsProbes.note v _).trans (.note _ _)).trans (.note _ _), nofun, nofun⟩
  | addComplete =>
    have hready := World.isReady_steady _ _ (.inl (.note v (.changeEntered i .addComplete))) hv
    refine .from (.note v (.changeEntered i .addComplete))
      ((populate_awaitsProbes hready t i).bind fun w a _ ha => ?_)
    have hnote := World.AddsProbes.note w (.changeLeft i .addComplete)
    exact ⟨hnote, nofun, fun _ => ⟨ha.1, fun h => World.shows_steady i _ _ (.inl hnote) (ha.2 h)⟩⟩

/-! ### Registration -/

namespace World

structure Brought (P : Platform) (firmware : ProcessorTable) (t : TopologyId) (n : Nat) (w : World) : Prop
    extends Surveys P firmware t w where
  room : n ≤ (w.topologies.get t).count
  filled : ∀ i : UInt32, i.toNat < n → (∃ r, P.answer firmware i = .ok r) ∧ w.Shows P firmware t i

variable {P : Platform}

theorem brought_steady (n : Nat) : IsSteady (Brought P firmware t n) := by
  intro v w hs hv
  obtain ⟨hl, hroom⟩ := room_steady n v w hs ⟨hv.toSurveys, hv.room⟩
  exact ⟨hl, hroom, fun i hi => ⟨(hv.filled i hi).1, shows_steady i v w hs (hv.filled i hi).2⟩⟩

/-- What `n` arrivals in a row come to: the first that fails is the last. -/
def Registered (P : Platform) (firmware : ProcessorTable) (t : TopologyId) (n : Nat) (w : World) :
    Except Status Unit → Prop
  | .ok _ => w.Brought P firmware t n
  | .error e => ∃ k : UInt32, k.toNat < n ∧ P.answer firmware k = .error e ∧ w.Brought P firmware t k.toNat

/-- One more has been brought up. -/
theorem Brought.succ (h : w.Brought P firmware t i.toNat) (hn : (i + 1).toNat = i.toNat + 1)
    (hroom : i.toNat < (w.topologies.get t).count) (hr : ∃ r, P.answer firmware i = .ok r)
    (hs : w.Shows P firmware t i) : w.Brought P firmware t (i + 1).toNat := by
  rw [hn]
  refine ⟨h.toSurveys, hroom, fun x hx => ?_⟩
  by_cases hxi : x = i
  · subst hxi
    exact ⟨hr, hs⟩
  · exact h.filled x (Nat.lt_of_le_of_ne (Nat.le_of_lt_succ hx) fun he => hxi (UInt32.toNat_inj.mp he))

theorem Brought.arrive (h : v.Brought P firmware t n) (i : UInt32) : (v.arrive t i).Brought P firmware t n ∧
    i.toNat < ((v.arrive t i).topologies.get t).count := by
  refine ⟨brought_steady n _ _ (.inl (.arrive v t i)) h, ?_⟩
  rw [topology_arrive h.known, Topology.count_grow]
  exact Nat.lt_of_lt_of_le (Nat.lt_succ_self _) (Nat.le_max_right _ _)

end World

variable {P : Platform}

/-- One processor after the other: each has its slot filled before the next one arrives. -/
theorem registerFrom_awaitsProbes : ∀ (n : Nat) {i : UInt32} {v : World}, i.toNat + n < 2 ^ 32 → v.IsReady →
    v.Brought P firmware t i.toNat →
      ((registerFrom t i n).run v).AwaitsProbes stuck (World.Registered P firmware t (i.toNat + n)) v
  | 0, _, v, _, _, hb => .same hb
  | n + 1, i, v, hn, hv, hb => by
    have hnext : (i + 1).toNat = i.toNat + 1 := by
      rw [UInt32.toNat_add]
      exact Nat.mod_eq_of_lt (show i.toNat + 1 < 2 ^ 32 by omega)
    show (((changeProcessor t i .addStart >>= fun _ => changeProcessor t i .addComplete >>= fun _ =>
      registerFrom t (i + 1) n).run v).AwaitsProbes stuck _ v)
    rw [Call.run_bind]
    refine (changeProcessor_awaitsProbes hv t i .addStart).bind fun u a ho ha => ?_
    obtain ⟨rfl, rfl⟩ := ha.1 rfl
    obtain ⟨hb, hroom⟩ := hb.arrive i
    have hu := World.isReady_steady.others ho hv
    dsimp only
    rw [Call.run_bind]
    refine (changeProcessor_awaitsProbes hu t i .addComplete).bind fun w a ho ha => ?_
    obtain ⟨ha, hshows⟩ := ha.2 rfl
    rw [World.outcome, if_pos hroom, hb.platform, hb.listed] at ha
    have hw := World.isReady_steady.others ho hu
    have hbw := (World.brought_steady i.toNat).others ho hb
    cases hr : P.answer firmware i with
    | error e =>
      rw [hr] at ha
      subst ha
      exact .same ⟨i, by omega, hr, hbw⟩
    | ok r =>
      rw [hr] at ha
      subst ha
      have hs := hshows rfl
      rw [hb.platform, hb.listed] at hs
      have hroom' := ((World.room_steady (i.toNat + 1)).others ho ⟨hb.toSurveys, hroom⟩).2
      have hb' := hbw.succ hnext hroom' ⟨r, hr⟩ hs
      have h := registerFrom_awaitsProbes n (by omega) hw hb'
      rwa [hnext, Nat.add_assoc, Nat.add_comm 1 n] at h

theorem registerExisting_awaitsProbes (hv : v.IsReady) (hl : v.Surveys P firmware t) (count : UInt32) :
    ((registerExisting t count).run v).AwaitsProbes stuck (World.Registered P firmware t count.toNat) v := by
  have hnone : v.Brought P firmware t (0 : UInt32).toNat :=
    ⟨hl, Nat.zero_le _, fun i hi => absurd hi (Nat.not_lt_zero _)⟩
  have hzero : (0 : UInt32).toNat + count.toNat = count.toNat := Nat.zero_add _
  have h : ((registerFrom t 0 count.toNat).run v).AwaitsProbes stuck _ v :=
    registerFrom_awaitsProbes count.toNat (by rw [hzero]; exact count.toNat_lt) hv hnone
  rwa [hzero] at h

/-! ### Attachment -/

variable {b : DriverId}

namespace World

def attaching (v : World) (b : DriverId) (firmware : ProcessorTable) : World :=
  { v with topologies := v.topologies.push { firmware } }.updateDriver b fun x =>
    { x with slot := { held := true } }

theorem addsProbes_setSlot (w : World) (b : DriverId) (slot : TopologySlot) :
    w.AddsProbes (w.after (setSlot b slot)) :=
  .of_eq rfl (Nat.le_of_eq (w.size_updateDriver b _).symm) rfl rfl rfl

theorem addsProbes_attaching (v : World) (b : DriverId) (firmware : ProcessorTable) :
    v.AddsProbes (v.attaching b firmware) :=
  (AddsProbes.pushTopology v { firmware }).trans (addsProbes_setSlot _ b _)

theorem slot_setSlot (w : World) (h : b < w.drivers.size) (slot : TopologySlot) :
    ((w.after (setSlot b slot)).driver b).slot = slot := by
  show ((w.updateDriver b _).driver b).slot = slot
  rw [driver_updateDriver, if_pos ⟨rfl, h⟩]

theorem drivers_steady (b : DriverId) : IsSteady fun w => b < w.drivers.size := by
  rintro v w (h | ⟨js, j, ks, hj, h⟩) hb
  · exact Nat.lt_of_lt_of_le hb h.drivers
  · rw [h.drivers]; exact hb

/-- Driver `b` has the topology `t` if the registration succeeded, else none. -/
def Equipped (P : Platform) (firmware : ProcessorTable) (t : TopologyId) (n : Nat) (b : DriverId) (w : World) :
    Except Status TopologyId → Prop
  | .ok x => x = t ∧ (w.driver b).slot = { installed := some t } ∧ w.Brought P firmware t n
  | .error e => (w.driver b).slot = {} ∧ w.Registered P firmware t n (.error e)

theorem registered_steady (n : Nat) (x : Except Status Unit) : IsSteady (Registered P firmware t n · x) := by
  intro v w hs hv
  cases x with
  | ok => exact brought_steady n v w hs hv
  | error e =>
    obtain ⟨k, hk, he, hb⟩ := hv
    exact ⟨k, hk, he, brought_steady _ v w hs hb⟩

end World

theorem attachTopology_run (hmode : (v.driver b).mode ≠ .safeBoot) (hslot : (v.driver b).slot = {})
    (firmware : ProcessorTable) (count : UInt32) :
    (attachTopology b firmware count).run v =
      ((registerExisting v.topologies.size count).run (v.attaching b firmware)).bind fun x w => match x with
        | .ok _ => .done (w.after (setSlot b { installed := some v.topologies.size })) (.ok v.topologies.size)
        | .error e => .done (w.after (setSlot b {})) (.error e) := by
  have hlook : (liftM (driver b) : ExceptT Status Call Driver).run v = .done v (.ok (v.driver b)) := rfl
  have hopen : openSlot b v = .done v none := by rw [openSlot_apply, hslot]; rfl
  have hnew : (liftM (newTopology firmware) : ExceptT Status Call TopologyId).run v =
    .done { v with topologies := v.topologies.push { firmware } } (.ok v.topologies.size) := rfl
  simp only [attachTopology, Call.run_bind, hlook, Run.bind, if_neg hmode, Call.run_call, hopen, Option.isSome_none,
    if_neg Bool.false_ne_true, hnew, Call.run_act, Call.run_tryCatch, Run.bind_assoc]
  refine congrArg _ (funext fun x => funext fun w => ?_)
  cases x <;> rfl

theorem attachTopology_refused (h : (v.driver b).mode = .safeBoot ∨
    ∃ t, (v.driver b).slot = { installed := some t }) (firmware : ProcessorTable) (count : UInt32) :
    ∃ e, (attachTopology b firmware count).run v = .done v (.error e) := by
  have hlook : (liftM (driver b) : ExceptT Status Call Driver).run v = .done v (.ok (v.driver b)) := rfl
  simp only [attachTopology, Call.run_bind, hlook, Run.bind]
  by_cases hmode : (v.driver b).mode = .safeBoot
  · rw [if_pos hmode]
    exact ⟨_, rfl⟩
  obtain ⟨t, ht⟩ := h.resolve_left hmode
  simp only [if_neg hmode, Call.run_bind, Call.run_call, openSlot_apply, ht, if_neg Bool.false_ne_true, Run.bind,
    Option.isSome_some, if_pos]
  exact ⟨_, rfl⟩

theorem attachTopology_awaitsProbes (hv : v.IsReady) (hb : b < v.drivers.size)
    (hmode : (v.driver b).mode ≠ .safeBoot)
    (hslot : (v.driver b).slot = {}) (firmware : ProcessorTable) (count : UInt32) :
    ((attachTopology b firmware count).run v).AwaitsProbes stuck
      (World.Equipped v.platform firmware v.topologies.size count.toNat b) v := by
  have hs := World.AddsProbes.others (v.addsProbes_attaching b firmware)
  have hl : (v.attaching b firmware).Surveys v.platform firmware v.topologies.size := by
    refine ⟨rfl, ?_, ?_⟩
    · show _ < (v.topologies.push _).size
      rw [Table.size_push]; exact Nat.lt_succ_self _
    · show ((v.topologies.push _).get v.topologies.size).firmware = firmware
      rw [Table.get_push_size]
  rw [attachTopology_run hmode hslot]
  refine .from (v.addsProbes_attaching b firmware)
    ((registerExisting_awaitsProbes (World.isReady_steady.others hs hv) hl count).bind
    fun w x ho hx => ?_)
  have hb' := (World.drivers_steady b).others (hs.trans ho) hb
  have hkeep (slot : TopologySlot) :=
    World.registered_steady count.toNat x _ _ (.inl (w.addsProbes_setSlot b slot)) hx
  cases x with
  | ok => exact ⟨w.addsProbes_setSlot b _, rfl, w.slot_setSlot hb' _, hkeep _⟩
  | error e => exact ⟨w.addsProbes_setSlot b _, w.slot_setSlot hb' _, hkeep _⟩

end

end PnpBus
