import PnpBus.Proofs.WholeRuns

/-!
# Parents and children

A child is listed by its parent as long as it is there, unless a removal has
it in hand. Whatever happens in the waits of a removal, if it succeeds no
child is left that was listed when it began. Children can still join a device
that is being removed, or deleted; those have no parent in the end.
-/

namespace PnpBus

variable {α : Type} {R : Regime} {b : DriverId} {c : Config} {fs gs : List Suspended} {u v w : World}
  {d x : DeviceId}

/-! ## A command from its beginning to its end -/

/-- A run goes on until it ends in `w` with the answer `a`. In its waits others have turns; `fs` are suspended when
it begins. -/
inductive Run.Concludes (R : Regime) (w : World) (a : α) : List Suspended → Run α → Prop
  | done {fs : List Suspended} (h : R.fits w) : Concludes R w a fs (.done w a)
  | via {fs : List Suspended} {u : World} {rest : Run α} (h : R.fits u) (hr : Concludes R w a fs rest) :
      Concludes R w a fs (.via u rest)
  | wait {fs gs : List Suspended} {u u' : World} {on : Signal} {resume : World → Run α} (h : R.fits u)
      (ht : Turns R ⟨u, fs⟩ ⟨u', gs⟩) (hs : u'.isSet on = true) (hr : Concludes R w a gs (resume u')) :
      Concludes R w a fs (.wait u on resume)

theorem World.Sane.relax (h : w.Sane R) : w.Sane (.free R.driver) where
  driver := h.driver
  sound d := ⟨(h.sound d).orderly, (h.sound d).drained, fun hr => (h.sound d).closing (.inr (hr.resolve_left id))⟩
  linked := h.linked
  children := h.children
  sorted := h.sorted
  parents := h.parents
  known := h.known
  entries := h.entries
  registered := h.registered

theorem Turns.fair {c' : Config} (ht : Turns R c c') (h : c.Fair R) : c'.Fair R ∧
    Evolves R True c.world c'.world := by
  induction ht with
  | refl => exact ⟨h, .refl _⟩
  | tail _ ht ih =>
    obtain ⟨hf, he⟩ := ht.fair ih.1
    exact ⟨hf, ih.2.trans he⟩

/-- If nobody is bound to spare removals, others keep to the terms of a command whatever they do. -/
theorem Run.Keeps.concludes {sent : Option (Stack × Kind)} {p : World → α → Prop} {run : Run α} {a : α}
    (hR : ¬R.sparing) (hc : run.Concludes R w a fs) (hf : Config.Fair R ⟨v, fs⟩) (h : run.Keeps (.of R sent) p v) :
    w.Sane R ∧ p w a := by
  induction hc generalizing v with
  | done => exact ⟨h.1.1.sane hf.sane, h.2.2⟩
  | via hu _ ih => exact ih hf (h hu)
  | @wait fs gs u u' on resume _ ht hs _ ih =>
    have own : (Terms.of R sent).Own v u := h.1
    have free (w w' : World) (hn : ∀ d, w'.IsStarting d → w.IsStarting d) (sent : Option (Stack × Kind)) :
        World.Holds (Terms.of R sent).guards w w' := ⟨fun d hd => absurd hd.1 hR, fun _ => hn⟩
    have hu : Config.Fair R ⟨u, fs⟩ :=
      hf.evolve (own.1.mono fun _ => trivial) (fun f _ => free v u (own.2.rested id) f.sent) (own.2.rested id)
    obtain ⟨hf', he⟩ := Turns.fair ht hu
    exact ih hf' (h.2.2 u' ⟨he, free u u' (fun d hd => absurd hd (hf'.rested d)) sent⟩ hs)

/-! ## Playing a command to its end

Others have the turns that are listed for each wait. -/

def Run.conclude : Run α → List Suspended → List (List Play) → Option (World × α)
  | .done w a, _, _ => if w.isSmall then some (w, a) else none
  | .via w rest, fs, pss => if w.isSmall then rest.conclude fs pss else none
  | .wait w on resume, fs, ps :: pss =>
    if w.isSmall then ((⟨w, fs⟩ : Config).play ps).bind fun c =>
      if c.world.isSet on then (resume c.world).conclude c.suspended pss else none
    else none
  | _, _, _ => none

theorem Run.Concludes.of_conclude {a : α} : ∀ {run : Run α} {fs : List Suspended} {pss : List (List Play)},
    (∀ ps ∈ pss, ∀ p ∈ ps, p.IsPermitted R) → run.conclude fs pss = some (w, a) → run.Concludes R w a fs
  | .done u x, fs, pss, _, h => by
    rw [conclude] at h
    split at h <;> cases h
    exact .done fun _ => World.fits_of_isSmall ‹_›
  | .via u rest, fs, pss, hp, h => by
    rw [conclude] at h
    split at h
    · exact .via (fun _ => World.fits_of_isSmall ‹_›) (of_conclude hp h)
    · cases h
  | .wait u on resume, fs, [], _, h => nomatch h
  | .wait u on resume, fs, ps :: pss, hp, h => by
    rw [conclude] at h
    split at h
    next hu =>
      obtain ⟨⟨u', gs⟩, hc, h⟩ := Option.bind_eq_some_iff.mp h
      split at h
      next hset =>
        refine .wait (fun _ => World.fits_of_isSmall hu) (Turns.of_play (hp ps List.mem_cons_self) hc) hset ?_
        exact of_conclude (fun qs hq => hp qs (List.mem_cons_of_mem ps hq)) h
      next => cases h
    next => cases h
  | .halt u why, fs, pss, _, h => nomatch h

theorem Run.Concludes.of_any {run : Run α} {fs : List Suspended} {pss : List (List Play)} {q : World × α → Bool}
    (hp : ∀ ps ∈ pss, ∀ p ∈ ps, p.IsPermitted R) (h : (run.conclude fs pss).any q = true) :
    ∃ w a, run.Concludes R w a fs ∧ q (w, a) = true := by
  obtain ⟨⟨w, a⟩, hc, hq⟩ := (Option.any_eq_true _ _).mp h
  exact ⟨w, a, of_conclude hp hc, hq⟩

def Reply.isSuccess : Reply → Bool
  | .answered s _ => s = .success
  | _ => false

theorem Reply.eq_of_isSuccess {a : Reply} (h : a.isSuccess = true) : ∃ view, a = .answered .success view := by
  cases a with
  | answered s view => exact ⟨view, by rw [of_decide_eq_true h]⟩
  | _ => cases h

/-! ## Removals and the children that they found -/

theorem Reaches.removed {x : Command} {t : Stack} {view : RequestView} (h : Reaches (.free b) c)
    (hx : x.IsPermitted b) (hs : x.sent c.world = some (t, .pnp .removeDevice))
    (hc : (perform x c.world).Concludes (.free b) w (.answered .success view) c.suspended) :
    w.Sane (.free b) ∧ c.world.Later w ∧ w.IsGone t.top ∧ ∀ d ∈ (c.world.device t.top).children, w.IsGone d := by
  have hf := h.sound.toFair
  have hk := (perform_keeps hf.sane hx).imp (q := fun w a => c.world.Later w ∧ World.Reported _ c.world w a)
    fun w a hw ha => ⟨hw.later, ha⟩
  obtain ⟨hw, hl, hr⟩ := Run.Keeps.concludes id hc hf hk
  exact ⟨hw, hl, hr t .success view hs rfl rfl⟩

/-- When a removal that was sent to a stack has succeeded, its top device and all children that this had listed are
deleted, drained and unregistered. -/
theorem children_removed_with_parent {x : Command} {t : Stack} {view : RequestView} (h : Reaches (.free b) c)
    (hx : x.IsPermitted b) (hs : x.sent c.world = some (t, .pnp .removeDevice))
    (hc : (perform x c.world).Concludes (.free b) w (.answered .success view) c.suspended) :
    ∀ d ∈ t.top :: (c.world.device t.top).children,
      (w.device d).state = .deleted ∧ (w.device d).lock.isDrained = true ∧
      w.lookup b (w.device d).key ≠ some d := by
  obtain ⟨hw, -, ht, hg⟩ := h.removed hx hs hc
  intro d hd
  have hd : w.IsGone d := by
    rcases List.mem_cons.mp hd with rfl | hd
    · exact ht
    · exact hg d hd
  exact ⟨hd, (hw.sound d).drained hd, fun he => (hw.registered d hd.size).mp he hd⟩

def twoChildren : List Play := [
  .begin (.device (.create "A" "" (some 0))),
  .begin (.device (.attach 0 (some 0))),
  .begin (.device (.addChild 1 "B" "" (some 0))),
  .begin (.device (.addChild 1 "C" "" (some 0))),
  .begin (.device (.acquire 2)),
  .begin (.device (.acquire 3))]

def meanwhile : List (List Play) := [
  [.begin (.request (.send 3 (.pnp .startDevice) (some 0))),
    .begin (.request (.send 3 (.pnp .queryStopDevice) (some 0))),
    .begin (.request (.send 3 (.pnp .surpriseRemoval) (some 0))),
    .begin (.request (.send 3 (.pnp .removeDevice) (some 0))),
    .begin (.device (.dropToken 0))],
  [.begin (.device (.dropToken 1)), .resume]]

theorem children_removed_with_parent_of_two :
    ∃ c w view, Reaches (.free 0) c ∧ (c.world.device 1).children = [2, 3] ∧
      (perform (.request (.send 1 (.pnp .removeDevice) (some 0))) c.world).Concludes (.free 0) w
        (.answered .success view) c.suspended ∧
      (w.device 3).state = .deleted ∧ w.lookup 0 (w.device 3).key ≠ some 3 := by
  obtain ⟨c, hc, h⟩ := Reaches.of_play (R := .free 0) (l := twoChildren) World.isFresh_initial
    (by simp [twoChildren, Play.IsPermitted, Command.IsPermitted, Regime.free])
    (q := fun c => (c.world.device 1).children = [2, 3] &&
      ((perform (.request (.send 1 (.pnp .removeDevice) (some 0))) c.world).conclude c.suspended meanwhile).any
        fun x => x.2.isSuccess) (by decide +kernel)
  rw [Bool.and_eq_true, decide_eq_true_eq] at h
  obtain ⟨w, a, hw, ha⟩ := Run.Concludes.of_any (R := .free 0)
    (by simp [meanwhile, Play.IsPermitted, Command.IsPermitted, Regime.free]) h.2
  obtain ⟨view, rfl⟩ := Reply.eq_of_isSuccess ha
  have hd := children_removed_with_parent (x := .request (.send 1 (.pnp .removeDevice) (some 0))) hc rfl rfl hw
  rw [c.world.top_stack, h.1] at hd
  obtain ⟨hg, -, hl⟩ := hd 3 (by decide)
  exact ⟨c, w, view, hc, h.1, hw, hg, hl⟩

/-! ## Children without a parent -/

/-- A child that is not deleted is listed by its parent, or some suspended removal has it in hand. -/
theorem Reaches.listed (h : Reaches R c) (hx : c.world.IsChild d x) :
    x ∈ (c.world.device d).children ∨ ∃ g ∈ c.suspended, g.IsRemoval ∧ g.Settles R c.world x := by
  by_cases hl : x ∈ (c.world.device d).children
  · exact .inl hl
  · exact .inr (h.sound.due x (.inr ⟨d, hx, hl⟩))

/-- A registered child is listed by its parent, or some suspended removal is going to delete it. Those that a
removal leaves without a parent, when it has succeeded, have joined it since it was sent. -/
theorem orphans_came_late (h : Reaches (.free b) c) :
    (∀ x d, c.world.lookup b (c.world.device x).key = some x → (c.world.device x).parent? = some d →
      x ∈ (c.world.device d).children ∨ ∃ g ∈ c.suspended, g.IsRemoval ∧ g.Settles (.free b) c.world x) ∧
    ∀ (y : Command) (t : Stack) (w : World) (view : RequestView), y.IsPermitted b →
      y.sent c.world = some (t, .pnp .removeDevice) →
      (perform y c.world).Concludes (.free b) w (.answered .success view) c.suspended →
      ∀ x, w.lookup b (w.device x).key = some x → (w.device x).parent? = some t.top →
        c.world.devices.size ≤ x ∨ ∃ g ∈ c.suspended, g.IsRemoval ∧ g.Settles (.free b) c.world x := by
  have hs := h.sound.sane
  refine ⟨fun x d hr hp => ?_, fun y t w view hy hsent hc x hr hp => ?_⟩
  · have hx : c.world.IsChild d x := ⟨hp, (hs.registered x (hs.entries _ x hr).1).mp hr⟩
    exact h.listed hx
  · obtain ⟨hw, hl, -, hg⟩ := h.removed hy hsent hc
    have hgone : ¬w.IsGone x := (hw.registered x (hw.entries _ x hr).1).mp hr
    by_cases hx : c.world.devices.size ≤ x
    · exact .inl hx
    · -- it was a child of the device already, and no listed one is left
      have hlt := Nat.lt_of_not_le hx
      have hchild : c.world.IsChild t.top x := ⟨(hl.device x hlt).parent.symm.trans hp, mt hl.gone hgone⟩
      exact .inr ((h.listed hchild).resolve_left fun hm => hgone (hg x hm))

def oneChild : List Play := [
  .begin (.device (.create "A" "" (some 0))),
  .begin (.device (.attach 0 (some 0))),
  .begin (.device (.addChild 1 "B" "" (some 0))),
  .begin (.device (.acquire 2))]

/-- While its child is drained, the device that is being removed gets another one. -/
theorem orphans_came_late_of_join :
    ∃ c w view, Reaches (.free 0) c ∧
      (perform (.request (.send 1 (.pnp .removeDevice) (some 0))) c.world).Concludes (.free 0) w
        (.answered .success view) c.suspended ∧
      w.lookup 0 (w.device 3).key = some 3 ∧ (w.device 3).parent? = some 1 ∧ c.world.devices.size ≤ 3 := by
  obtain ⟨c, hc, h⟩ := Reaches.of_play (R := .free 0) (l := oneChild) World.isFresh_initial
    (by simp [oneChild, Play.IsPermitted, Command.IsPermitted, Regime.free])
    (q := fun c => c.suspended.isEmpty &&
      ((perform (.request (.send 1 (.pnp .removeDevice) (some 0))) c.world).conclude c.suspended
        [[.begin (.device (.addChild 1 "C" "" (some 0))), .begin (.device (.dropToken 0))]]).any fun x =>
          x.2.isSuccess && (x.1.lookup 0 (x.1.device 3).key = some 3 && (x.1.device 3).parent? = some 1))
    (by decide +kernel)
  rw [Bool.and_eq_true, List.isEmpty_iff] at h
  obtain ⟨w, a, hw, ha⟩ := Run.Concludes.of_any (R := .free 0)
    (by simp [Play.IsPermitted, Command.IsPermitted, Regime.free]) h.2
  simp only [Bool.and_eq_true, decide_eq_true_eq] at ha
  obtain ⟨ha, hl, hp⟩ := ha
  obtain ⟨view, rfl⟩ := Reply.eq_of_isSuccess ha
  have hlate := (orphans_came_late hc).2 (.request (.send 1 (.pnp .removeDevice) (some 0))) (c.world.stack 1) w view
    rfl rfl hw 3 hl (by rw [c.world.top_stack]; exact hp)
  rw [h.1] at hlate
  exact ⟨c, w, view, hc, hw, hl, hp, hlate.resolve_right (by rintro ⟨g, hg, -⟩; cases hg)⟩

def childOfDeleted : List Play := [
  .begin (.device (.create "A" "" (some 0))),
  .begin (.device (.attach 0 (some 0))),
  .begin (.request (.send 1 (.pnp .removeDevice) (some 0))),
  .begin (.device (.addChild 1 "B" "" (some 0)))]

theorem deleted_parent_keeps_child :
    ∃ c, Reaches (.free 0) c ∧ c.suspended = [] ∧ (c.world.device 1).state = .deleted ∧
      (c.world.device 2).parent? = some 1 ∧ c.world.lookup 0 (c.world.device 2).key = some 2 := by
  obtain ⟨c, hc, h⟩ := Reaches.of_play (R := .free 0) (l := childOfDeleted) World.isFresh_initial
    (by simp [childOfDeleted, Play.IsPermitted, Command.IsPermitted, Regime.free])
    (q := fun c => c.suspended.isEmpty && ((c.world.device 1).state = .deleted &&
      ((c.world.device 2).parent? = some 1 && c.world.lookup 0 (c.world.device 2).key = some 2)))
        (by decide +kernel)
  simp only [Bool.and_eq_true, List.isEmpty_iff, decide_eq_true_eq] at h
  exact ⟨c, hc, h⟩

end PnpBus
