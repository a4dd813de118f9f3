import PnpBus.Proofs.Accounts
import PnpBus.Proofs.Commands

/-!
# Calls in each other's waits

A command that waits is suspended. While it is, other commands run, to their
end or to a wait of their own, in any order and to any depth. A configuration
is fair if its world is sane and every suspended command still keeps to its
terms. It is sound if, besides, some suspended removal will finish whatever is
left half removed. One turn after another, whole runs keep configurations fair
and sound.
-/

namespace PnpBus

/-! ## Configurations and turns -/

/-- A run goes on by itself to its end or to a wait. Every world that it shows on the way is fit. -/
inductive Run.Lands {α : Type} (fit : World → Prop) : Run α → Run α → Prop
  | done {w : World} {a : α} (h : fit w) : Lands fit (.done w a) (.done w a)
  | wait {w : World} {on : Signal} {resume : World → Run α} (h : fit w) :
      Lands fit (.wait w on resume) (.wait w on resume)
  | via {w : World} {rest run : Run α} (h : fit w) (hr : Lands fit rest run) : Lands fit (.via w rest) run

/-- A command that waits: what it sent, the signal that it waits for, and how it goes on. -/
structure Suspended where
  sent : Option (Stack × Kind)
  on : Signal
  resume : World → Run Reply

namespace Suspended

def ofRun (sent : Option (Stack × Kind)) : Run Reply → List Suspended
  | .wait _ on resume => [⟨sent, on, resume⟩]
  | _ => []

def IsRemoval (f : Suspended) : Prop := ∃ s, f.sent = some (s, .pnp .removeDevice)

def IsSpared (f : Suspended) (sent : Option (Stack × Kind)) : Prop :=
  ∀ s t, f.sent = some (s, .pnp .removeDevice) → sent = some (t, .pnp .cancelRemoveDevice) →
    ∀ d ∈ s.layers, d ∉ t.members

end Suspended

structure Config where
  world : World
  suspended : List Suspended := []

def Regime.fits (R : Regime) (w : World) : Prop := R.bounded → w.Fits

/-- Every run of the clients of driver `b`: they may take removals back, and hold as much as they want. -/
def Regime.free (b : DriverId) : Regime := ⟨b, False, False⟩

/-- One thing happens. -/
inductive Turn (R : Regime) : Config → Config → Prop
  | begin {w : World} {fs : List Suspended} {run : Run Reply} (c : Command) (hc : c.IsPermitted R.driver)
      (hs : R.sparing → ∀ f ∈ fs, f.IsSpared (c.sent w)) (hl : (perform c w).Lands R.fits run) :
      Turn R ⟨w, fs⟩ ⟨run.world, Suspended.ofRun (c.sent w) run ++ fs⟩
  | resume {w : World} {fs gs : List Suspended} {run : Run Reply} (f : Suspended) (hset : w.isSet f.on = true)
      (hl : (f.resume w).Lands R.fits run) :
      Turn R ⟨w, fs ++ f :: gs⟩ ⟨run.world, Suspended.ofRun f.sent run ++ (fs ++ gs)⟩
  /-- The oldest job runs. -/
  | work {w w' : World} {fs : List Suspended} {j : Job} {js : List Job} (hj : w.jobs = j :: js)
      (hr : j.run { w with jobs := js } = (none, w')) : Turn R ⟨w, fs⟩ ⟨w', fs⟩
  /-- Nobody wants a request any more. -/
  | drop {w : World} {fs : List Suspended} (r : RequestId) (hr : w.Knows r) :
      Turn R ⟨w, fs⟩ ⟨w.after (relinquish r), fs⟩
  /-- The journal is read and another one begun; other devices are in hand. -/
  | tidy {w : World} {fs : List Suspended} (journal : Journal) (inHand : List DeviceId)
      (hj : .surplusRelease ∉ journal.notices ∧ .surplusTicket ∉ journal.notices) :
      Turn R ⟨w, fs⟩ ⟨{ w with journal, inHand }, fs⟩

structure World.IsFresh (b : DriverId) (w : World) : Prop where
  driver : b < w.drivers.size
  registry : (w.driver b).registry.isEmpty = true
  devices : w.devices = {}
  requests : w.requests = {}
  clients : w.clients = {}
  gates : w.bench.gates = {}
  clean : w.IsClean

/-- A whole run leads to `c`. -/
def Reaches (R : Regime) (c : Config) : Prop :=
  ∃ w : World, w.IsFresh R.driver ∧ Relation.ReflTransGen (Turn R) ⟨w, []⟩ c

/-! ## Landing -/

section
variable {α : Type} {T : Terms} {v w : World} {p : World → α → Prop} {run run' : Run α} {d : DeviceId}

theorem Run.Keeps.lands (hl : run.Lands T.regime.fits run') (h : run.Keeps T p v) : run'.Keeps T p v := by
  induction hl with
  | done => exact h
  | wait => exact h
  | via hf _ ih => exact ih (h hf)

theorem Run.Settles.lands (hl : run.Lands T.regime.fits run') (h : run.Settles T d) : run'.Settles T d := by
  induction hl with
  | done => exact h
  | wait => exact h
  | via hf _ ih => exact ih (h hf)

theorem Run.IsQuick.lands {R : Regime} (hl : run.Lands R.fits run') (h : run.IsQuick R p v) :
    run'.IsQuick R p v := by
  induction hl with
  | done => exact h
  | wait => exact h
  | via hf _ ih => exact ih (h hf)

end

def Run.IsStopped {α : Type} (run : Run α) : Prop :=
  (∃ w a, run = .done w a) ∨ ∃ w on resume, run = .wait w on resume

theorem Run.Lands.stops {α : Type} {fit : World → Prop} {run run' : Run α} (hl : run.Lands fit run') :
    run'.IsStopped := by
  induction hl with
  | done => exact .inl ⟨_, _, rfl⟩
  | wait => exact .inr ⟨_, _, _, rfl⟩
  | via _ _ ih => exact ih

/-- Where a run stops, it has kept to its terms, and what is due was so before or will be settled. -/
theorem Run.Keeps.stopped {α : Type} {T : Terms} {v : World} {p : World → α → Prop} {run : Run α}
    (h : run.Keeps T p v) (hs : run.IsStopped) :
    T.Own v run.world ∧ ∀ d, run.world.IsDue d → v.IsDue d ∨ run.Settles T d := by
  obtain ⟨w, a, rfl⟩ | ⟨w, on, resume, rfl⟩ := hs
  · exact ⟨h.1, fun d hd => .inl (h.2.1 d hd)⟩
  · exact ⟨h.1, h.2.1⟩

/-! ## Sound configurations -/

theorem Terms.Others.trans {T : Terms} {u v w : World} (h : T.Others u v) (h' : T.Others v w) : T.Others u w :=
  ⟨h.1.trans h'.1, h.2.trans h'.2⟩

theorem Evolves.balanced {R : Regime} {p : Prop} {v w : World} (hb : R.bounded) (h : Evolves R p v w)
    (hv : v.Balanced [] []) : w.Balanced [] [] :=
  World.keep_steps (fun _ _ hm => World.Move.balanced hb hm) h hv

namespace Suspended

variable (R : Regime) (f : Suspended)

def terms : Terms := .of R f.sent

def Waits (w : World) : Prop :=
  ∀ w', (f.terms R).Others w w' → w'.isSet f.on = true → (f.resume w').Keeps (f.terms R) (fun _ _ => True) w'

/-- The command is done only when `d` is settled. -/
def Settles (w : World) (d : DeviceId) : Prop := (Run.wait w f.on f.resume).Settles (f.terms R) d

variable {R f} {v w : World} {d : DeviceId}

theorem Waits.later (h : f.Waits R v) (ho : (f.terms R).Others v w) : f.Waits R w :=
  fun w' ho' => h w' (ho.trans ho')

theorem Settles.later (h : f.Settles R v d) (ho : (f.terms R).Others v w) : f.Settles R w d :=
  fun w' ho' => h w' (ho.trans ho')

variable {sent : Option (Stack × Kind)} {run : Run Reply}

theorem mem_ofRun (hf : f ∈ ofRun sent run) : ∃ w on resume, run = .wait w on resume ∧ f = ⟨sent, on, resume⟩ := by
  cases run with
  | wait w on resume => exact ⟨w, on, resume, rfl, List.mem_singleton.mp hf⟩
  | _ => cases hf

theorem waits_of_mem (hf : f ∈ ofRun sent run) (hk : run.Keeps (.of R sent) (fun _ _ => True) v) :
    f.Waits R run.world := by
  obtain ⟨w, on, resume, rfl, rfl⟩ := mem_ofRun hf
  exact hk.2.2

theorem exists_settles (hs : run.IsStopped) (hd : run.world.IsDue d) (hr : (Terms.of R sent).removing)
    (h : run.Settles (.of R sent) d) : ∃ f ∈ ofRun sent run, f.IsRemoval ∧ f.Settles R run.world d := by
  obtain ⟨w, a, rfl⟩ | ⟨w, on, resume, rfl⟩ := hs
  · exact absurd hd (World.IsSettled.not_due h)
  · exact ⟨⟨sent, on, resume⟩, List.mem_singleton.mpr rfl, hr, h⟩

end Suspended

structure Config.Fair (R : Regime) (c : Config) : Prop where
  sane : c.world.Sane R
  balanced : R.bounded → c.world.Balanced [] []
  waits : ∀ f ∈ c.suspended, f.Waits R c.world
  /-- A cancel is never suspended. -/
  patient : ∀ f ∈ c.suspended, ∀ d, ¬(f.terms R).undoes d
  /-- Nor is a start. -/
  rested : ∀ d, ¬c.world.IsStarting d

structure Config.Sound (R : Regime) (c : Config) : Prop extends c.Fair R where
  due : ∀ d, c.world.IsDue d → ∃ f ∈ c.suspended, f.IsRemoval ∧ f.Settles R c.world d

theorem Config.Sound.owed {R : Regime} {c : Config} (h : c.Sound R) (d : DeviceId) (hd : c.world.IsOwed d) :
    ∃ f ∈ c.suspended, f.IsRemoval ∧ f.Settles R c.world d := h.due d (.inl hd)

/-- A command goes on from `run` until it lands, with `fs` suspended besides, and spares what they guard. -/
structure Config.Landing (R : Regime) (v : World) (fs : List Suspended) (sent : Option (Stack × Kind))
    (run run' : Run Reply) : Prop where
  keeps : run.Keeps (.of R sent) (fun _ _ => True) v
  lands : run.Lands R.fits run'
  spares : ∀ f ∈ fs, ∀ d, (f.terms R).guards d → ¬(Terms.of R sent).undoes d
  patient : ∀ f ∈ Suspended.ofRun sent run', ∀ d, ¬(f.terms R).undoes d

namespace Config

variable {R : Regime} {v w : World} {f : Suspended} {fs gs : List Suspended} {sent : Option (Stack × Kind)}
  {run run' : Run Reply}

theorem Fair.mono (h : Fair R ⟨w, fs⟩) (hgs : ∀ g ∈ gs, g ∈ fs) : Fair R ⟨w, gs⟩ :=
  ⟨h.sane, h.balanced, fun g hg => h.waits g (hgs g hg), fun g hg => h.patient g (hgs g hg), h.rested⟩

theorem Fair.evolve (h : Fair R ⟨v, fs⟩) (he : Evolves R True v w)
    (hh : ∀ f ∈ fs, World.Holds (f.terms R).guards v w) (hn : ∀ d, w.IsStarting d → v.IsStarting d) :
    Fair R ⟨w, fs⟩ where
  sane := he.sane h.sane
  balanced hb := he.balanced hb (h.balanced hb)
  waits f hf := (h.waits f hf).later ⟨he, hh f hf⟩
  patient := h.patient
  rested d hd := h.rested d (hn d hd)

theorem Fair.smooth (h : Fair R ⟨v, fs⟩) (hw : v.Smooth R w) : Fair R ⟨w, fs⟩ :=
  h.evolve (hw.evolves.mono False.elim) (fun _ _ => hw.holds _) ((hw.holds fun _ => False).rested id)

theorem Sound.smooth (h : Sound R ⟨v, fs⟩) (hw : v.Smooth R w) : Sound R ⟨w, fs⟩ where
  toFair := h.toFair.smooth hw
  due d hd := by
    obtain ⟨f, hf, hr, hs⟩ := h.due d (World.due_of_quiet hw.evolves id hd)
    exact ⟨f, hf, hr, hs.later ⟨hw.evolves.mono False.elim, hw.holds _⟩⟩

namespace Landing

theorem kept (hl : Landing R v fs sent run run') : run'.Keeps (.of R sent) (fun _ _ => True) v :=
  hl.keeps.lands (T := .of R sent) hl.lands

theorem own (hl : Landing R v fs sent run run') : (Terms.of R sent).Own v run'.world :=
  (hl.kept.stopped hl.lands.stops).1

theorem others (hl : Landing R v fs sent run run') (hf : f ∈ fs) : (f.terms R).Others v run'.world :=
  ⟨hl.own.1.mono fun _ => trivial, hl.own.2.mono (hl.spares f hf)⟩

theorem fair (hl : Landing R v fs sent run run') (h : Fair R ⟨v, fs⟩) :
    Fair R ⟨run'.world, Suspended.ofRun sent run' ++ fs⟩ := by
  have hfs := h.evolve (hl.own.1.mono fun _ => trivial) (fun f hf => (hl.others hf).2) (hl.own.2.rested id)
  refine ⟨hfs.sane, hfs.balanced, fun f hf => ?_, fun f hf => ?_, hfs.rested⟩
  · exact (List.mem_append.mp hf).elim (Suspended.waits_of_mem · hl.kept) (hfs.waits f)
  · exact (List.mem_append.mp hf).elim (hl.patient f) (h.patient f)

/-- The command that lands may be the one that was to settle what is due. -/
theorem sound (hl : Landing R v fs sent run run') (h : Fair R ⟨v, fs⟩)
    (ho : ∀ d, v.IsDue d → (∃ f ∈ fs, f.IsRemoval ∧ f.Settles R v d) ∨
      (Terms.of R sent).removing ∧ run.Settles (.of R sent) d) :
    Sound R ⟨run'.world, Suspended.ofRun sent run' ++ fs⟩ where
  toFair := hl.fair h
  due d hd := by
    have mine (hr : (Terms.of R sent).removing) (h : run'.Settles (.of R sent) d) :
        ∃ f ∈ Suspended.ofRun sent run' ++ fs, f.IsRemoval ∧ f.Settles R run'.world d := by
      obtain ⟨f, hf, h⟩ := Suspended.exists_settles hl.lands.stops hd hr h
      exact ⟨f, List.mem_append_left fs hf, h⟩
    have other (h : v.IsDue d) : ∃ f ∈ Suspended.ofRun sent run' ++ fs, f.IsRemoval ∧ f.Settles R run'.world d := by
      rcases ho d h with ⟨f, hf, hr, h⟩ | ⟨hr, h⟩
      · exact ⟨f, List.mem_append_right _ hf, hr, h.later (hl.others hf)⟩
      · exact mine hr (h.lands (T := .of R sent) hl.lands)
    by_cases hr : (Terms.of R sent).removing
    · exact ((hl.kept.stopped hl.lands.stops).2 d hd).elim other (mine hr)
    · exact other (World.due_of_quiet hl.own.1 hr hd)

theorem begin {c : Command} (h : Fair R ⟨w, fs⟩) (hc : c.IsPermitted R.driver)
    (hs : R.sparing → ∀ f ∈ fs, f.IsSpared (c.sent w)) (hl : (perform c w).Lands R.fits run) :
    Landing R w fs (c.sent w) (perform c w) run := by
  refine ⟨(perform_keeps h.sane hc).imp fun _ _ _ _ => trivial, hl, fun f hf d hg hu => ?_, fun f hf d hu => ?_⟩
  · -- what `f` guards is a layer of the stack that it removes
    obtain ⟨hsp, s, hrem, hd⟩ := hg
    obtain ⟨t, hcan, hd'⟩ := hu
    exact hs hsp f hf s t hrem hcan d hd hd'
  · -- a cancel is never suspended
    obtain ⟨w', on, resume, rfl, rfl⟩ := Suspended.mem_ofRun hf
    obtain ⟨t, hcan, -⟩ := hu
    exact ((perform_quick h.sane hc hcan nofun).lands hl).elim

theorem resume (h : Fair R ⟨w, fs⟩) (hf : f ∈ fs) (hset : w.isSet f.on = true) (hl : (f.resume w).Lands R.fits run)
    (gs : List Suspended) : Landing R w gs f.sent (f.resume w) run := by
  refine ⟨h.waits f hf w ⟨.refl w, .refl _ w⟩ hset, hl, fun _ _ d _ => h.patient f hf d, fun g hg d => ?_⟩
  obtain ⟨w', on, resume, -, rfl⟩ := Suspended.mem_ofRun hg
  exact h.patient f hf d

end Landing

theorem mem_of_mem_without (g : Suspended) (hg : g ∈ fs ++ gs) : g ∈ fs ++ f :: gs := by
  rw [List.mem_append, List.mem_cons]; exact (List.mem_append.mp hg).imp_right .inr

end Config

/-! ## Whole runs -/

section
variable {R : Regime} {c c' : Config}

theorem Turn.aside_work {w w' : World} {j : Job} {js : List Job} (hr : j.run { w with jobs := js } = (none, w')) :
    w.Aside w' := by
  have hw : w.Aside { w with jobs := js } := .of_eq rfl rfl rfl rfl rfl rfl rfl
  have hj := World.of_steps ((job_apart j).aside { w with jobs := js })
  rw [World.after, hr] at hj
  exact hw.trans hj

theorem Turn.smooth_work {w w' : World} {j : Job} {js : List Job} (hr : j.run { w with jobs := js } = (none, w')) :
    w.Smooth R w' := .agrees ((aside_work hr).agrees R.driver)

theorem Turn.smooth_tidy {w : World} {journal : Journal} {inHand : List DeviceId}
    (hj : .surplusRelease ∉ journal.notices ∧ .surplusTicket ∉ journal.notices) :
    w.Smooth R { w with journal, inHand } :=
  .agrees ⟨rfl, rfl, rfl, rfl, rfl, rfl, Nat.le_refl _, rfl, fun _ => hj⟩

theorem Turn.fair (ht : Turn R c c') (h : c.Fair R) : c'.Fair R ∧ Evolves R True c.world c'.world := by
  have quiet {v w : World} {fs : List Suspended} (h : Config.Fair R ⟨v, fs⟩) (hw : v.Smooth R w) :
      Config.Fair R ⟨w, fs⟩ ∧ Evolves R True v w := ⟨h.smooth hw, hw.evolves.mono False.elim⟩
  cases ht with
  | begin c hc hs hl =>
    have hl := Config.Landing.begin h hc hs hl
    exact ⟨hl.fair h, hl.own.1.mono fun _ => trivial⟩
  | @resume w fs gs run f hset hl =>
    have hl := Config.Landing.resume h (List.mem_append_right fs List.mem_cons_self) hset hl (fs ++ gs)
    exact ⟨hl.fair (h.mono Config.mem_of_mem_without), hl.own.1.mono fun _ => trivial⟩
  | work hj hr => exact quiet h (smooth_work hr)
  | drop r hr => exact quiet h (.transfer (.relinquish r hr))
  | tidy journal inHand hj => exact quiet h (smooth_tidy hj)

theorem Turn.sound (ht : Turn R c c') (h : c.Sound R) : c'.Sound R := by
  cases ht with
  | begin c hc hs hl => exact (Config.Landing.begin h.toFair hc hs hl).sound h.toFair fun d hd => .inl (h.due d hd)
  | @resume w fs gs run f hset hl =>
    have hl := Config.Landing.resume h.toFair (List.mem_append_right fs List.mem_cons_self) hset hl (fs ++ gs)
    refine hl.sound (h.toFair.mono Config.mem_of_mem_without) fun d hd => ?_
    obtain ⟨g, hg, hr, hs⟩ := h.due d hd
    by_cases hgf : g = f
    · subst hgf
      exact .inr ⟨hr, hs w ⟨.refl w, .refl _ w⟩ hset⟩
    · refine .inl ⟨g, ?_, hr, hs⟩
      rcases List.mem_append.mp hg with hg | hg
      · exact List.mem_append_left gs hg
      · exact List.mem_append_right fs (List.mem_of_ne_of_mem hgf hg)
  | work hj hr => exact h.smooth (smooth_work hr)
  | drop r hr => exact h.smooth (.transfer (.relinquish r hr))
  | tidy journal inHand hj => exact h.smooth (smooth_tidy hj)

theorem World.IsFresh.not_lt {w : World} (h : w.IsFresh R.driver) (d : DeviceId) : ¬d < w.devices.size := by
  rw [h.devices]; exact Nat.not_lt_zero d

theorem World.IsFresh.device {w : World} (h : w.IsFresh R.driver) (d : DeviceId) : w.device d = default :=
  World.device_of_size_le (Nat.le_of_not_lt (h.not_lt d))

theorem World.IsFresh.gate {w : World} (h : w.IsFresh R.driver) (g : GateRef) : w.gate g = default := by
  cases g with
  | device d => rw [World.gate, h.device]; rfl
  | free n => rw [World.gate, h.gates]; rfl

theorem World.IsFresh.sane {w : World} (h : w.IsFresh R.driver) : w.Sane R := by
  refine ⟨h.driver, fun d => ?_, fun d hd => absurd hd (h.not_lt d), fun d c hc => ?_, fun d => ?_,
    fun c d hp => ?_, fun r hr => ?_, fun key d hk => ?_, fun d hd => absurd hd (h.not_lt d)⟩
  · rw [h.device]; exact ⟨⟨nofun, nofun, nofun⟩, nofun, nofun⟩
  · rw [h.device] at hc; cases hc
  · rw [h.device]; exact .nil
  · rw [h.device] at hp; cases hp
  · rw [h.clients] at hr; cases hr
  · rw [lookup, DeviceRegistry.findRole?_of_isEmpty h.registry] at hk; cases hk

theorem World.IsFresh.ticketed {P : FilterGate → Nat → Prop} (hP : FilterGate.Tally P) {w : World}
    (h : w.IsFresh R.driver) : w.Ticketed P [] := fun g => by
  rw [h.gate, ticketsOn, h.requests, h.clients]
  exact hP.none

theorem World.IsFresh.balanced {w : World} (h : w.IsFresh R.driver) : w.Balanced [] [] := by
  refine ⟨fun d => ?_, h.ticketed FilterGate.tally_counts, h.clean⟩
  rw [h.device, tokensOn, h.requests, h.clients]; exact .default

theorem World.IsFresh.sound {w : World} (h : w.IsFresh R.driver) : Config.Sound R ⟨w, []⟩ where
  sane := h.sane
  balanced _ := h.balanced (R := R)
  waits := nofun
  patient := nofun
  rested d hd := absurd hd.size (h.not_lt d)
  due d
    | .inl ho => absurd ho.1.size (h.not_lt d)
    | .inr ⟨_, hc, _⟩ => absurd hc.size (h.not_lt d)

theorem Reaches.sound (h : Reaches R c) : c.Sound R := by
  obtain ⟨w, hw, h⟩ := h
  induction h with
  | refl => exact hw.sound
  | tail _ ht ih => exact ht.sound ih

/-- Tickets are counted even where locks have more references to count than they can. -/
theorem Reaches.ticketed {P : FilterGate → Nat → Prop} (hP : FilterGate.Tally P) (h : Reaches R c) :
    c.world.Ticketed P [] := by
  obtain ⟨w, hw, h⟩ := h
  suffices c.Fair R ∧ c.world.Ticketed P [] from this.2
  induction h with
  | refl => exact ⟨hw.sound.toFair, hw.ticketed hP⟩
  | tail _ ht ih =>
    obtain ⟨hf, he⟩ := ht.fair ih.1
    exact ⟨hf, he.ticketed hP ih.2⟩

end

/-! ## Playing a run

A run can be played by itself, as long as it is so small that no lock is ever at its limit. -/

def World.isSmall (w : World) : Bool :=
  w.requests.sum (·.locks.length) + w.clients.tokens.sum (·.toList.length) < 2 ^ 32 - 1

theorem World.fits_of_isSmall {w : World} (h : w.isSmall = true) : w.Fits := fun d => by
  have hr := Table.sum_le_sum (fun q : Request => List.count_le_length (a := d) (l := q.locks)) w.requests
  have ht :=
    Table.sum_le_sum (fun o : Option DeviceId => List.count_le_length (a := d) (l := o.toList)) w.clients.tokens
  exact Nat.lt_of_le_of_lt (Nat.add_le_add hr ht) (of_decide_eq_true h)

def Run.land {α : Type} : Run α → Option (Run α)
  | .done w a => if w.isSmall then some (.done w a) else none
  | .wait w on resume => if w.isSmall then some (.wait w on resume) else none
  | .via w rest => if w.isSmall then rest.land else none
  | .halt _ _ => none

theorem Run.lands_land {α : Type} {R : Regime} : ∀ {run run' : Run α}, run.land = some run' → run.Lands R.fits run'
  | .done w a, run', h => by
    rw [land] at h
    split at h <;> cases h
    exact .done fun _ => World.fits_of_isSmall ‹_›
  | .wait w on resume, run', h => by
    rw [land] at h
    split at h <;> cases h
    exact .wait fun _ => World.fits_of_isSmall ‹_›
  | .via w rest, run', h => by
    rw [land] at h
    split at h
    · exact .via (fun _ => World.fits_of_isSmall ‹_›) (lands_land h)
    · cases h
  | .halt w why, run', h => nomatch h

inductive Play where
  | begin (c : Command)
  /-- The command that was suspended last goes on. -/
  | resume

namespace Config

def playOne (c : Config) : Play → Option Config
  | .begin x => (perform x c.world).land.map fun run =>
    ⟨run.world, Suspended.ofRun (x.sent c.world) run ++ c.suspended⟩
  | .resume => match c.suspended with
    | [] => none
    | f :: fs =>
      if c.world.isSet f.on then
        (f.resume c.world).land.map fun run => ⟨run.world, Suspended.ofRun f.sent run ++ fs⟩
      else none

def play (c : Config) : List Play → Option Config
  | [] => some c
  | p :: ps => (c.playOne p).bind (·.play ps)

end Config

def Command.IsMild : Command → Prop
  | .request (.send _ k _) => k ≠ .pnp .cancelRemoveDevice
  | .request (.resend _ _ _) => False
  | _ => True

theorem Command.IsMild.spares {x : Command} (hx : x.IsMild) (w : World) (f : Suspended) :
    f.IsSpared (x.sent w) := by
  intro s t _ ht
  cases x with
  | request x =>
    cases x with
    | send d k b => cases ht; exact absurd rfl hx
    | resend n d b => exact hx.elim
    | _ => cases ht
  | _ => cases ht

def Play.IsPermitted (R : Regime) : Play → Prop
  | .begin x => x.IsPermitted R.driver ∧ (R.sparing → x.IsMild)
  | .resume => True

section
variable {R : Regime} {c c' : Config}

theorem Turn.of_playOne {p : Play} (hp : p.IsPermitted R) (hc : c.playOne p = some c') : Turn R c c' := by
  cases p with
  | begin x =>
    obtain ⟨run, hl, rfl⟩ := Option.map_eq_some_iff.mp hc
    exact .begin x hp.1 (fun hs f _ => (hp.2 hs).spares _ f) (Run.lands_land hl)
  | resume =>
    obtain ⟨w, fs⟩ := c
    cases fs with
    | nil => cases hc
    | cons f fs =>
      simp only [Config.playOne] at hc
      split at hc
      next hset =>
        obtain ⟨run, hl, rfl⟩ := Option.map_eq_some_iff.mp hc
        exact List.nil_append (f :: fs) ▸ .resume f hset (Run.lands_land hl)
      next => cases hc

/-- Configurations that follow one another, turn by turn. -/
abbrev Turns (R : Regime) : Config → Config → Prop := Relation.ReflTransGen (Turn R)

theorem Turns.of_play : ∀ {ps : List Play} {c : Config}, (∀ p ∈ ps, p.IsPermitted R) → c.play ps = some c' →
    Turns R c c'
  | [], c, _, hc => Option.some.inj hc ▸ .refl
  | p :: ps, c, hp, hc => by
    obtain ⟨c₁, h₁, hc⟩ := Option.bind_eq_some_iff.mp hc
    have ht := Turn.of_playOne (hp p List.mem_cons_self) h₁
    exact (Turns.of_play (fun q hq => hp q (List.mem_cons_of_mem p hq)) hc).head ht

theorem Reaches.of_play {w : World} {l : List Play} {q : Config → Bool} (hw : w.IsFresh R.driver)
    (hp : ∀ p ∈ l, p.IsPermitted R) (hq : ((⟨w, []⟩ : Config).play l).any q = true) :
    ∃ c, Reaches R c ∧ q c = true := by
  obtain ⟨c, hc, hqc⟩ := (Option.any_eq_true _ _).mp hq
  exact ⟨c, ⟨w, hw, Turns.of_play hp hc⟩, hqc⟩

end

/-! ## A driver to begin with -/

def Store.selecting (service deviceId instanceId : String) : Except StoreError Store := do
  let path := parametersKey service
  let store ← ({} : Store).createKey path
  let store ← store.setValue path activeDeviceId (.str deviceId)
  store.setValue path activeInstanceId (.str instanceId)

def World.initial : World where
  store := ((Store.selecting "S" "A" "").toOption).getD {}
  drivers := Table.push {} { service := "S" }

theorem World.isFresh_initial : World.initial.IsFresh 0 where
  driver := Nat.zero_lt_one
  registry := rfl
  devices := rfl
  requests := rfl
  clients := rfl
  gates := rfl
  clean := ⟨nofun, nofun⟩

end PnpBus
