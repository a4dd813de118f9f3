import PnpBus.Proofs.Dispatches
import PnpBus.Proofs.Interleaving

/-!
# Runs that are logged

A configuration does not tell what became of a request. A logbook is a
configuration that does: it knows which request each suspended command carries,
what interceptors were handed, and which requests were sent on their way again
when they were complete. It records a run and has no part in it, so that every
run can be logged.
-/

namespace PnpBus

variable {α : Type} {R : Regime} {S Q : World → World → Prop} {u v w : World} {r : RequestId} {d : DeviceId}

/-! ## Logbooks -/

/-- A command that waits, and the request that it carries. -/
structure Errand where
  task : Suspended
  request : Option RequestId

structure Logbook where
  world : World
  errands : List Errand := []
  /-- What each command carried that handed something to an interceptor, and for which device it did. -/
  handed : List (Option RequestId × DeviceId) := []
  /-- Requests that were complete when a command that carries them began or went on. -/
  again : List RequestId := []
  /-- Requests that nobody wants any more. -/
  dropped : List RequestId := []

namespace Logbook

variable (l : Logbook)

def config : Config := ⟨l.world, l.errands.map (·.task)⟩

def isStale (request : Option RequestId) : Option RequestId := request.filter fun r => (l.world.request r).completed

def carry (request : Option RequestId) (sent : Option (Stack × Kind)) (run : Run Reply) : Logbook where
  world := run.world
  errands := (Suspended.ofRun sent run).map (⟨·, request⟩) ++ l.errands
  handed := l.handed ++ (run.world.journal.diverted.drop l.world.journal.diverted.length).map (request, ·)
  again := (l.isStale request).toList ++ l.again
  dropped := l.dropped

end Logbook

/-- One thing happens and is logged. A command may begin with it. -/
inductive Entry (R : Regime) : Option Command → Logbook → Logbook → Prop
  | begin {l : Logbook} {run : Run Reply} (c : Command) (hc : c.IsPermitted R.driver)
      (hs : R.sparing → ∀ f ∈ l.config.suspended, f.IsSpared (c.sent l.world))
      (hl : (perform c l.world).Lands R.fits run) :
      Entry R (some c) l (l.carry (c.carries l.world) (c.sent l.world) run)
  | resume {l : Logbook} {es es' : List Errand} {run : Run Reply} (e : Errand) (he : l.errands = es ++ e :: es')
      (hset : l.world.isSet e.task.on = true) (hl : (e.task.resume l.world).Lands R.fits run) :
      Entry R none l ({ l with errands := es ++ es' }.carry e.request e.task.sent run)
  | work {l : Logbook} {w : World} {j : Job} {js : List Job} (hj : l.world.jobs = j :: js)
      (hr : j.run { l.world with jobs := js } = (none, w)) : Entry R none l { l with world := w }
  | drop {l : Logbook} (r : RequestId) (hr : l.world.Knows r) :
      Entry R none l { l with world := l.world.after (relinquish r), dropped := r :: l.dropped }
  | tidy {l : Logbook} (journal : Journal) (inHand : List DeviceId)
      (hj : .surplusRelease ∉ journal.notices ∧ .surplusTicket ∉ journal.notices) :
      Entry R none l { l with world := { l.world with journal, inHand } }

/-- The logbook of a whole run. -/
def Logged (R : Regime) (l : Logbook) : Prop :=
  ∃ w : World, w.IsFresh R.driver ∧
    Relation.ReflTransGen (fun l l' => ∃ begun, Entry R begun l l') ⟨w, [], [], [], []⟩ l

/-! ## Runs and their logs -/

section
variable {l l' : Logbook} {c : Config} {begun : Option Command}

theorem Logbook.config_carry (request : Option RequestId) (sent : Option (Stack × Kind)) (run : Run Reply) :
    (l.carry request sent run).config = ⟨run.world, Suspended.ofRun sent run ++ l.config.suspended⟩ := by
  simp [config, carry, Function.comp_def]

theorem Entry.turn (h : Entry R begun l l') : Turn R l.config l'.config := by
  cases h with
  | begin c hc hs hl => rw [Logbook.config_carry]; exact .begin c hc hs hl
  | resume e he hset hl =>
    rw [Logbook.config_carry, Logbook.config, Logbook.config, he, List.map_append, List.map_append, List.map_cons]
    exact .resume e.task hset hl
  | work hj hr => exact .work hj hr
  | drop r hr => exact .drop r hr
  | tidy journal inHand hj => exact .tidy journal inHand hj

theorem Turn.exists_entry (h : Turn R l.config c) : ∃ begun l', Entry R begun l l' ∧ l'.config = c := by
  generalize hv : l.config = v at h
  cases h with
  | begin c hc hs hl =>
    cases hv
    exact ⟨_, _, .begin c hc hs hl, Logbook.config_carry ..⟩
  | resume f hset hl =>
    obtain ⟨w, errands, handed, again, dropped⟩ := l
    obtain ⟨rfl, he⟩ := Config.mk.inj hv
    obtain ⟨es, es', rfl, rfl, hes⟩ := List.map_eq_append_iff.mp he
    obtain ⟨e, es', rfl, rfl, rfl⟩ := List.map_eq_cons_iff.mp hes
    exact ⟨_, _, .resume e rfl hset hl, by rw [Logbook.config_carry, Logbook.config, List.map_append]⟩
  | work hj hr => cases hv; exact ⟨_, _, .work hj hr, rfl⟩
  | drop r hr => cases hv; exact ⟨_, _, .drop r hr, rfl⟩
  | tidy journal inHand hj => cases hv; exact ⟨_, _, .tidy journal inHand hj, rfl⟩

theorem Logged.reaches (h : Logged R l) : Reaches R l.config := by
  obtain ⟨w, hw, h⟩ := h
  refine ⟨w, hw, ?_⟩
  induction h with
  | refl => exact .refl
  | tail _ h ih => obtain ⟨_, h⟩ := h; exact ih.tail h.turn

theorem Reaches.exists_logged (h : Reaches R c) : ∃ l, Logged R l ∧ l.config = c := by
  obtain ⟨w, hw, h⟩ := h
  induction h with
  | refl => exact ⟨_, ⟨w, hw, .refl⟩, rfl⟩
  | tail _ ht ih =>
    obtain ⟨l, ⟨w', hw', hl⟩, rfl⟩ := ih
    obtain ⟨begun, l', he, hc⟩ := ht.exists_entry
    exact ⟨l', ⟨w', hw', hl.tail ⟨begun, he⟩⟩, hc⟩

end

/-! ## What a turn does to requests and gates -/

theorem Run.Along.lands {fit : World → Prop} {p : World → α → Prop} {run run' : Run α} (hl : run.Lands fit run')
    (h : run.Along S Q p v) : run'.Along S Q p v := by
  induction hl with
  | done => exact h
  | wait => exact h
  | via _ _ ih => exact ih h

theorem Run.Along.stopped {p : World → α → Prop} {run : Run α} (h : run.Along S Q p v) (hs : run.IsStopped) :
    Relation.ReflTransGen S v run.world := by
  obtain ⟨w, a, rfl⟩ | ⟨w, on, resume, rfl⟩ := hs
  · exact h.1
  · exact h.1

theorem Command.eq_of_opens {c : Command} {g : GateRef} (h : c.opens = some g) :
    c = .bench (.requestGate g .enabled) := by
  unfold opens at h
  split at h
  · cases h; rfl
  · cases h

namespace Errand

variable (x : Option RequestId) (e : Errand)

def brief : Brief := ⟨e.request, x, none⟩

def WithinBrief (w : World) : Prop := ∀ w', (e.brief x).Others w w' → (e.task.resume w').WithinBrief (e.brief x) w'

variable {x e} in
theorem WithinBrief.later (h : e.WithinBrief x v) (hs : v.requests.size ≤ w.requests.size) : e.WithinBrief x w :=
  fun w' ho => h w' ⟨Nat.le_trans hs ho.size, ho.admits⟩

end Errand

namespace Logbook

def Watches (l : Logbook) (x : Option RequestId) : Prop := ∀ r, x = some r → r ∉ l.again

/-- What leads from one page of the logbook to another, where only gate `opens` may be enabled. -/
structure Leads (opens : Option GateRef) (l l' : Logbook) : Prop where
  size : l.world.requests.size ≤ l'.world.requests.size
  dropped : ∀ r ∈ l.dropped, r ∈ l'.dropped
  again : ∀ r ∈ l.again, r ∈ l'.again
  proceeds : ∀ r ∉ l'.dropped, (l.world.request r).Proceeds (l'.world.request r)
  spent : ∀ r ∉ l'.again, (l.world.request r).IsSpent → (l'.world.request r).IsSpent
  gates : ∀ g, (l'.world.gate g).state = .enabled → (l.world.gate g).state = .enabled ∨ opens = some g
  handed : ∃ hs, l'.handed = l.handed ++ hs ∧ ∀ x ∈ hs,
    ((l.world.gate (.device x.2)).state = .enabled ∨ opens = some (.device x.2)) ∧
      ∃ r, x.1 = some r ∧ l'.world.HandedTo x.2 r

variable {l l' : Logbook} {begun : Option Command} {opens : Option GateRef} {request : Option RequestId}
  {sent : Option (Stack × Kind)} {run run' : Run Reply}

theorem Watches.of_carry {x : Option RequestId} (h : (l.carry request sent run).Watches x) : l.Watches x :=
  fun r hr hm => h r hr (List.mem_append_right _ hm)

/-- What is carried on and not yet logged as stale is not complete. -/
theorem Watches.admits {x : Option RequestId} (h : (l.carry request sent run).Watches x) (hr : request = some r) :
    Brief.Admits ⟨request, x, opens⟩ l.world r := fun hx => by
  subst hr
  rw [← Bool.not_eq_true]
  intro hc
  refine h r hx (List.mem_append_left _ ?_)
  rw [isStale, Option.filter_some, if_pos hc]
  exact List.mem_singleton.mpr rfl

theorem Leads.carry (hrun : ∀ x, (l.carry request sent run').Watches x →
    run.WithinBrief ⟨request, x, opens⟩ l.world)
    (hl : run.Lands R.fits run') : l.Leads opens (l.carry request sent run') := by
  have effect (x : Option RequestId) (hx : (l.carry request sent run').Watches x) :
      Brief.Effect ⟨request, x, opens⟩ l.world run'.world :=
    .of_steps (((hrun x hx).lands hl).stopped hl.stops)
  have h := effect none nofun
  obtain ⟨ds, hds, hd⟩ := h.diverted
  have hnew : run'.world.journal.diverted.drop l.world.journal.diverted.length = ds := by rw [hds, List.drop_left]
  exact {
    size := h.size
    dropped := fun _ => id
    again := fun r => List.mem_append_right _
    proceeds := fun r _ => h.proceeds r
    spent := fun r hr => (effect (some r) fun _ e => Option.some.inj e ▸ hr).spent r rfl
    gates := h.gates
    handed := ⟨ds.map (request, ·), by rw [Logbook.carry, hnew], fun x hx => by
      obtain ⟨d, hm, rfl⟩ := List.mem_map.mp hx
      exact hd d hm⟩ }

structure Faithful (R : Regime) (l : Logbook) : Prop where
  fair : l.config.Fair R
  withinBrief : ∀ x, l.Watches x → ∀ e ∈ l.errands, e.WithinBrief x l.world

theorem Faithful.still (hl : l.Faithful R) (hf : l'.config.Fair R) (h : l.Leads opens l')
    (he : l'.errands = l.errands) : l'.Faithful R :=
  ⟨hf, fun x hx e hm => (hl.withinBrief x (fun r hr hm => hx r hr (h.again r hm)) e (he ▸ hm)).later h.size⟩

theorem withinBrief_carry (hrun : ∀ x, (l.carry request sent run').Watches x →
    run.WithinBrief ⟨request, x, opens⟩ l.world)
    (hl : run.Lands R.fits run') (ho : ∀ f ∈ Suspended.ofRun sent run', opens = none)
    (he : ∀ x, l.Watches x → ∀ e ∈ l.errands, e.WithinBrief x l.world) (x : Option RequestId)
    (hx : (l.carry request sent run').Watches x) : ∀ e ∈ (l.carry request sent run').errands,
    e.WithinBrief x run'.world := by
  intro e hm
  rcases List.mem_append.mp hm with hm | hm
  · obtain ⟨f, hf, rfl⟩ := List.mem_map.mp hm
    cases ho f hf
    have h := (hrun x hx).lands hl
    obtain ⟨w', on, resume, rfl, rfl⟩ := Suspended.mem_ofRun hf
    exact h.2
  · exact (he x hx.of_carry e hm).later (Leads.carry hrun hl).size

theorem Leads.of_requests (hr : w.requests = l.world.requests) (hg : ∀ g, w.gate g = l.world.gate g) :
    l.Leads none { l with world := w } := by
  have hq (r : RequestId) : w.request r = l.world.request r := by rw [World.request, World.request, hr]
  refine ⟨Nat.le_of_eq (by rw [hr]), fun _ => id, fun _ => id, fun r _ => ?_, fun r _ hs => ?_, fun g h => ?_, [],
    (List.append_nil _).symm, fun _ hx => absurd hx List.not_mem_nil⟩
  · rw [hq]; exact .refl _
  · rwa [hq]
  · exact .inl (hg g ▸ h)

theorem Leads.drop (l : Logbook) (r : RequestId) :
    l.Leads none { l with world := l.world.after (relinquish r), dropped := r :: l.dropped } := by
  have hq (x : RequestId) : (l.world.after (relinquish r)).request x =
      (l.world.updateRequest r fun q => { q with locks := [], tickets := [] }).request x := by
    rw [World.request, World.request, (World.OnlyReleases.relinquish l.world r).requests]
  refine ⟨?_, fun _ => List.mem_cons_of_mem r, fun _ => id, fun x hx => ?_, fun x _ hs => ?_, fun g hg => ?_, [],
    (List.append_nil _).symm, fun _ hx => absurd hx List.not_mem_nil⟩
  · have hsize : (l.world.after (relinquish r)).requests.size = l.world.requests.size := by
      rw [(World.OnlyReleases.relinquish l.world r).requests, World.requests_size_updateRequest]
    exact Nat.le_of_eq hsize.symm
  · show Request.Proceeds _ ((l.world.after (relinquish r)).request x)
    have hne : x ≠ r := fun e => hx (e ▸ List.mem_cons_self)
    rw [hq, World.request_updateRequest, if_neg fun e => hne e.1]
    exact .refl _
  · show Request.IsSpent ((l.world.after (relinquish r)).request x)
    rw [hq, World.request_updateRequest]
    split
    · exact fun _ => ⟨rfl, rfl⟩
    · exact hs
  · exact .inl ((World.relinquish_silent l.world r).1 g hg)

end Logbook

/-! ## Every turn -/

section
variable {l l' : Logbook} {begun : Option Command}

open Logbook (Leads Faithful)

theorem Entry.leads (h : Entry R begun l l') (hl : l.Faithful R) :
    l.Leads (begun.bind (·.opens)) l' ∧ l'.Faithful R := by
  have hf := (h.turn.fair hl.fair).1
  cases h with
  | @begin _ run c hc hs hland =>
    have hrun x (hx : (l.carry (c.carries l.world) (c.sent l.world) run).Watches x) :
        (perform c l.world).WithinBrief ⟨c.carries l.world, x, c.opens⟩ l.world :=
      perform_withinBrief hl.fair.sane.known hc rfl rfl fun r hr => hx.admits hr
    refine ⟨.carry hrun hland, hf, Logbook.withinBrief_carry hrun hland (fun f hm => ?_) hl.withinBrief⟩
    -- what opens a gate never waits
    obtain ⟨w', on, resume, rfl, -⟩ := Suspended.mem_ofRun hm
    cases ho : c.opens with
    | none => rfl
    | some g =>
      cases Command.eq_of_opens ho
      exact ((requestGate_quick (R := R) hc).lands hland).elim
  | @resume _ es es' run e he hset hland =>
    have hm (e' : Errand) (h : e' ∈ es ++ es') : e' ∈ l.errands := by
      rw [he, List.mem_append, List.mem_cons]
      exact (List.mem_append.mp h).imp_right .inr
    have hrun x (hx : (({ l with errands := es ++ es' } : Logbook).carry e.request e.task.sent run).Watches x) :
        (e.task.resume l.world).WithinBrief (e.brief x) l.world :=
      hl.withinBrief x hx.of_carry e (by rw [he]; exact List.mem_append_right es List.mem_cons_self) l.world
        ⟨Nat.le_refl _, fun r hr => hx.admits hr⟩
    have hlead := Leads.carry hrun hland
    refine ⟨⟨hlead.size, hlead.dropped, hlead.again, hlead.proceeds, hlead.spent, hlead.gates, hlead.handed⟩, hf,
      ?_⟩
    exact Logbook.withinBrief_carry hrun hland (fun _ _ => rfl) fun x hx e' h => hl.withinBrief x hx e' (hm e' h)
  | work hj hr =>
    have hm : l.world.Mute _ := .aside (Turn.aside_work hr)
    have hlead := Leads.of_requests hm.requests hm.gates
    exact ⟨hlead, hl.still hf hlead rfl⟩
  | drop r hr =>
    exact ⟨.drop l r, hl.still hf (.drop l r) rfl⟩
  | tidy journal inHand hj =>
    have hlead := Leads.of_requests (l := l) (w := { l.world with journal, inHand }) rfl fun g => by cases g <;> rfl
    exact ⟨hlead, hl.still hf hlead rfl⟩

theorem Logged.faithful (h : Logged R l) : l.Faithful R := by
  obtain ⟨w, hw, h⟩ := h
  induction h with
  | refl => exact ⟨hw.sound.toFair, fun x hx e he => nomatch he⟩
  | tail _ h ih => obtain ⟨_, h⟩ := h; exact (h.leads ih).2

/-- What holds to begin with and is kept from one page to the next holds of every logbook. -/
theorem Logged.induct {P : Logbook → Prop} (h : Logged R l)
    (fresh : ∀ w : World, w.IsFresh R.driver → P ⟨w, [], [], [], []⟩)
    (step : ∀ {l l' opens}, Leads opens l l' → P l → P l') : P l := by
  obtain ⟨w, hw, h⟩ := h
  suffices l.Faithful R ∧ P l from this.2
  induction h with
  | refl => exact ⟨Logged.faithful ⟨w, hw, .refl⟩, fresh w hw⟩
  | tail _ h ih =>
    obtain ⟨begun, h⟩ := h
    obtain ⟨hs, hf⟩ := h.leads ih.1
    exact ⟨hf, step hs ih.2⟩

end

/-! ## Playing a logged run -/

namespace Logbook

def playOne (l : Logbook) : Play → Option Logbook
  | .begin c => (perform c l.world).land.map (l.carry (c.carries l.world) (c.sent l.world))
  | .resume => match l.errands with
    | [] => none
    | e :: es =>
      if l.world.isSet e.task.on then
        (e.task.resume l.world).land.map ({ l with errands := es }.carry e.request e.task.sent)
      else none

def play (l : Logbook) : List Play → Option Logbook
  | [] => some l
  | p :: ps => (l.playOne p).bind (·.play ps)

end Logbook

def Play.begins : Play → Option Command
  | .begin c => some c
  | .resume => none

section
variable {l l' : Logbook}

theorem Entry.of_playOne {p : Play} (hp : p.IsPermitted R) (hl : l.playOne p = some l') :
    Entry R p.begins l l' := by
  cases p with
  | begin c =>
    obtain ⟨run, hrun, rfl⟩ := Option.map_eq_some_iff.mp hl
    exact .begin c hp.1 (fun hs f _ => (hp.2 hs).spares _ f) (Run.lands_land hrun)
  | resume =>
    obtain ⟨w, errands, handed, again, dropped⟩ := l
    cases errands with
    | nil => cases hl
    | cons e es =>
      simp only [Logbook.playOne] at hl
      split at hl
      next hset =>
        obtain ⟨run, hrun, rfl⟩ := Option.map_eq_some_iff.mp hl
        have he : e :: es = [] ++ e :: es := rfl
        exact .resume (l := ⟨w, e :: es, handed, again, dropped⟩) e he hset (Run.lands_land hrun)
      next => cases hl

theorem Logged.of_play {ps : List Play} {q : Logbook → Bool} (hw : w.IsFresh R.driver)
    (hp : ∀ p ∈ ps, p.IsPermitted R) (hq : ((⟨w, [], [], [], []⟩ : Logbook).play ps).any q = true) :
    ∃ l, Logged R l ∧ q l = true := by
  have played : ∀ {ps : List Play} {l l' : Logbook}, Logged R l → (∀ p ∈ ps, p.IsPermitted R) →
      l.play ps = some l' →
      Logged R l' := by
    intro ps
    induction ps with
    | nil => exact fun hl _ h => Option.some.inj h ▸ hl
    | cons p ps ih =>
      intro l l' hl hp h
      obtain ⟨l₁, h₁, h⟩ := Option.bind_eq_some_iff.mp h
      obtain ⟨w, hw, hl⟩ := hl
      have he := Entry.of_playOne (hp p List.mem_cons_self) h₁
      exact ih ⟨w, hw, hl.tail ⟨_, he⟩⟩ (fun q hq => hp q (List.mem_cons_of_mem p hq)) h
  obtain ⟨l, hl, hql⟩ := (Option.any_eq_true _ _).mp hq
  exact ⟨l, played ⟨w, hw, .refl⟩ hp hl, hql⟩

end

end PnpBus
