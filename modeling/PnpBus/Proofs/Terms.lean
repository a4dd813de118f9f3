import PnpBus.Proofs.Lives

/-!
# Runs that keep to terms

A call that waits depends on what others do meanwhile, and others depend on
what it does between its waits. `Terms` say both. A run that `Keeps` to them
may rely on the others at every wait; whatever device it closes on the way out
it also settles (`Settles`), so that at its end nothing is left half removed.
-/

namespace PnpBus

namespace World

variable {R : Regime} {p : Prop} {v w : World} {d f : DeviceId}

/-! ## What is due -/

def IsOwed (w : World) (d : DeviceId) : Prop := w.IsClosed d ∧ w.IsLeaving d

def IsAdrift (w : World) (d : DeviceId) : Prop := ∃ f, w.IsChild f d ∧ d ∉ (w.device f).children

def IsDue (w : World) (d : DeviceId) : Prop := w.IsOwed d ∨ w.IsAdrift d

def IsSettled (w : World) (d : DeviceId) : Prop :=
  w.IsGone d ∨ w.IsClosed d ∧ ¬w.IsLeaving d ∧ (w.device d).parent? = none

theorem IsGone.not_leaving (h : w.IsGone d) : ¬w.IsLeaving d := by
  rw [IsLeaving, show (w.device d).state = .deleted from h]; decide

theorem IsSettled.not_due (h : w.IsSettled d) : ¬w.IsDue d := by
  rintro (ho | ⟨f, hc, -⟩)
  · exact h.elim (fun hg => hg.not_leaving ho.2) fun h => h.2.1 ho.2
  · refine h.elim (fun hg => hc.2 hg) fun h => ?_
    exact absurd (h.2.2.symm.trans hc.1) nofun

theorem Later.leaving (h : v.Later w) (hc : v.IsClosed d) (hl : w.IsLeaving d) : v.IsLeaving d := by
  rcases h.frozen hc with e | e
  · rw [IsLeaving, Device.state, ← e]; exact hl
  · exact absurd hl e.not_leaving

theorem Later.settled (h : v.Later w) : v.IsSettled d → w.IsSettled d
  | .inl hg => .inl (h.gone hg)
  | .inr ⟨hc, hl, hp⟩ => .inr ⟨h.closed hc, fun hw => hl (h.leaving hc hw), (h.device d hc.size).parent.trans hp⟩

theorem owed_of_quiet (h : Evolves R p v w) (hp : ¬p) (ho : w.IsOwed d) : v.IsOwed d :=
  have hc := (h.quiet hp d).1 ho.1
  ⟨hc, h.later.leaving hc ho.2⟩

theorem children_updateLayer (v : World) (x f : DeviceId) {g : Layer → Layer}
    (hg : ∀ layer, layer.children ⊆ (g layer).children) :
    (v.device f).children ⊆ ((v.updateDevice x fun u => u.updateLayer g).device f).children := by
  rw [device_updateDevice]
  split
  next e =>
    rw [e.1, Device.children, Device.children, Device.layer?_updateLayer]
    cases (v.device x).layer? with
    | none => exact List.Subset.refl []
    | some layer => exact hg layer
  next => exact fun _ => id

theorem children_of_move (hm : Move R p v w) (hp : ¬p) (f : DeviceId) :
    (v.device f).children ⊆ (w.device f).children := by
  cases hm with
  | transfer ht => rw [(ht.passing.sameStanding.device f).children]; exact fun _ => id
  | enroll identity extension hx hc hf => rw [children_enroll hx]; exact fun _ => id
  | adopt d identity hl hf =>
    have hx : Extension.IsFresh v (.physical (some d)) := fun f e => Option.some.inj e ▸ size_of_layer? hl
    rw [← children_enroll hx R.driver f]
    exact children_updateLayer _ d f fun layer => List.subset_append_left ..
  | takeChildren d hr => exact absurd hr hp
  | shift d m ho hg hc hm => rw [(v.relatives_setLifecycle d m f).1]; exact fun _ => id
  | close d hr hd ho hl => exact absurd hr hp
  | retire d hr hd hg hl => exact absurd hr hp

/-- Only a removal takes children off a list. -/
theorem children_of_quiet (h : Evolves R p v w) (hp : ¬p) (f : DeviceId) :
    (v.device f).children ⊆ (w.device f).children := by
  induction h with
  | refl => exact fun _ => id
  | tail _ hm ih => exact fun c hc => children_of_move hm hp f (ih hc)

theorem newborn_of_quiet (hm : Move R p v w) (hp : ¬p) (hd : v.devices.size ≤ d) : ¬w.IsAdrift d := by
  rintro ⟨f, hc, hl⟩
  cases hm with
  | transfer ht => rw [← ht.passing.sameStanding.size] at hd; exact Nat.not_lt_of_le hd hc.size
  | enroll identity extension hx hn hf =>
    have hs := hc.size
    rw [size_enroll] at hs
    have he := Nat.le_antisymm (Nat.le_of_lt_succ hs) hd
    have hp := hc.1
    rw [device_enroll, if_pos he] at hp
    cases extension with
    | physical parent => rw [show parent = some f from hp] at hn; cases hn
    | functional layer => cases hp
  | adopt x identity hx hf =>
    obtain ⟨layer, hlayer⟩ := Option.isSome_iff_exists.mp hx
    have hs := hc.size
    have hxs := size_of_layer? hx
    rw [adopt, size_updateDevice, size_enroll] at hs
    obtain rfl := Nat.le_antisymm (Nat.le_of_lt_succ hs) hd
    have hp := hc.1
    rw [adopt, device_updateDevice, if_neg fun e => Nat.ne_of_gt hxs e.1, device_enroll, if_pos rfl] at hp
    obtain rfl : x = f := Option.some.inj hp
    refine hl ?_
    rw [adopt, device_updateDevice, if_pos ⟨rfl, by rw [size_enroll]; exact Nat.lt_succ_of_lt hxs⟩, device_enroll,
      if_neg (Nat.ne_of_lt hxs), Device.children, Device.layer?_updateLayer, hlayer]
    exact List.mem_append_right _ (List.mem_singleton.mpr rfl)
  | takeChildren x hr => exact absurd hr hp
  | shift x m ho hg hn hm => exact Nat.not_lt_of_le hd (v.size_updateDevice x _ ▸ hc.size)
  | close x hr hd ho hl => exact absurd hr hp
  | retire x hr hd hg hl => exact absurd hr hp

theorem adrift_of_quiet (h : Evolves R p v w) (hp : ¬p) (ha : w.IsAdrift d) : v.IsAdrift d := by
  induction h with
  | refl => exact ha
  | @tail u w _ hm ih =>
    refine ih ?_
    obtain ⟨f, hc, hl⟩ := ha
    have hd : d < u.devices.size := Nat.lt_of_not_le fun hd => newborn_of_quiet hm hp hd ⟨f, hc, hl⟩
    have hlater := hm.later
    exact ⟨f, ⟨(hlater.device d hd).parent.symm.trans hc.1, mt hlater.gone hc.2⟩,
      fun hu => hl (children_of_move hm hp f hu)⟩

theorem due_of_quiet (h : Evolves R p v w) (hp : ¬p) : w.IsDue d → v.IsDue d :=
  Or.imp (owed_of_quiet h hp) (adrift_of_quiet h hp)

end World

/-! ## Terms -/

/-- What a call keeps to between its waits, and what it relies on while it waits. -/
structure Terms where
  regime : Regime
  removing : Prop
  /-- Devices whose departure the call may take back. -/
  undoes : DeviceId → Prop
  /-- Devices whose departure nobody else may take back while the call waits. -/
  guards : DeviceId → Prop

def World.IsStarting (w : World) (d : DeviceId) : Prop := (w.device d).state = .startPending

structure World.Holds (p : DeviceId → Prop) (v w : World) (starts : Prop := False) : Prop where
  departing : ∀ d, p d → v.IsDeparting d → w.IsDeparting d
  rested : ¬starts → ∀ d, w.IsStarting d → v.IsStarting d

namespace World.Holds

variable {p q : DeviceId → Prop} {starts : Prop} {u v w : World}

theorem refl (p : DeviceId → Prop) (w : World) : Holds p w w starts := ⟨fun _ _ => id, fun _ _ => id⟩

theorem trans (h : Holds p u v starts) (h' : Holds p v w starts) : Holds p u w starts where
  departing d hd := h'.departing d hd ∘ h.departing d hd
  rested hs d := h.rested hs d ∘ h'.rested hs d

theorem mono (hpq : ∀ d, p d → q d) (h : Holds q v w starts) : Holds p v w starts where
  departing d hd := h.departing d (hpq d hd)
  rested := h.rested

end World.Holds

namespace Terms

variable (T : Terms)

def Own (v w : World) : Prop := Evolves T.regime T.removing v w ∧ World.Holds (¬T.undoes ·) v w

def Others (v w : World) : Prop := Evolves T.regime True v w ∧ World.Holds T.guards v w

def Passes (v w : World) : Prop := Evolves T.regime True v w ∧ World.Holds (fun d => T.guards d ∧ ¬T.undoes d) v w

variable {T} {u v w : World}

theorem Own.trans (h : T.Own u v) (h' : T.Own v w) : T.Own u w := ⟨h.1.trans h'.1, h.2.trans h'.2⟩

theorem Own.refl (w : World) : T.Own w w := ⟨.refl w, .refl _ w⟩

theorem Own.passes (h : T.Own v w) : T.Passes v w := ⟨h.1.mono fun _ => trivial, h.2.mono fun _ => And.right⟩

theorem Others.passes (h : T.Others v w) : T.Passes v w := ⟨h.1, h.2.mono fun _ => And.left⟩

theorem Passes.trans (h : T.Passes u v) (h' : T.Passes v w) : T.Passes u w := ⟨h.1.trans h'.1, h.2.trans h'.2⟩

theorem Passes.later (h : T.Passes v w) : v.Later w := h.1.later

end Terms

namespace Run

variable {α β : Type}

/-- The run ends only when `d` is settled. -/
def Settles (T : Terms) (d : DeviceId) : Run α → Prop
  | .done w _ => w.IsSettled d
  | .via w rest => (T.regime.bounded → w.Fits) → rest.Settles T d
  | .wait w on resume => ∀ w', T.Others w w' → w'.isSet on = true → (resume w').Settles T d
  | .halt _ _ => True

/-- The run, begun in `v`, keeps to its terms. When it is done `post` holds. -/
def Keeps (T : Terms) (post : World → α → Prop) : World → Run α → Prop
  | v, .done w a => T.Own v w ∧ (∀ d, w.IsDue d → v.IsDue d) ∧ post w a
  | v, .via w rest => (T.regime.bounded → w.Fits) → rest.Keeps T post v
  | v, .wait w on resume =>
    T.Own v w ∧ (∀ d, w.IsDue d → v.IsDue d ∨ (wait w on resume).Settles T d) ∧
      ∀ w', T.Others w w' → w'.isSet on = true → (resume w').Keeps T post w'
  | _, .halt _ _ => True

variable {T : Terms} {p q : World → α → Prop} {u v w : World} {d : DeviceId}

theorem Keeps.same {a : α} (ha : p w a) : (done w a).Keeps T p w := ⟨.refl w, fun _ => id, ha⟩

theorem Keeps.quiet {a : α} (he : Evolves T.regime False v w) (hh : World.Holds (¬T.undoes ·) v w) (ha : p w a) :
    (done w a).Keeps T p v :=
  ⟨⟨he.mono False.elim, hh⟩, fun _ => World.due_of_quiet he id, ha⟩

theorem Keeps.imp {r : Run α} (h : r.Keeps T p v) (hpq : ∀ w a, T.Passes v w → p w a → q w a) : r.Keeps T q v := by
  induction r generalizing v with
  | done w a => exact ⟨h.1, h.2.1, hpq w a h.1.passes h.2.2⟩
  | via w rest ih => exact fun hf => ih (h hf) hpq
  | wait w on resume ih =>
    refine ⟨h.1, h.2.1, fun w' ho hs => ih w' (h.2.2 w' ho hs) fun x a hx => hpq x a ?_⟩
    exact (h.1.passes.trans ho.passes).trans hx
  | halt w why => trivial

theorem Keeps.settles {r : Run α} (h : r.Keeps T p v) (hs : v.IsSettled d) : r.Settles T d := by
  induction r generalizing v with
  | done w a => exact h.1.1.later.settled hs
  | via w rest ih => exact fun hf => ih (h hf) hs
  | wait w on resume ih =>
    exact fun w' ho hw => ih w' (h.2.2 w' ho hw) (ho.1.later.settled (h.1.1.later.settled hs))
  | halt w why => trivial

/-- A run may be taken to begin earlier, if it settles what was closed in between. -/
theorem Keeps.from {r : Run α} (ho : T.Own u v) (hp : ∀ d, v.IsDue d → u.IsDue d ∨ r.Settles T d)
    (h : r.Keeps T p v) : r.Keeps T p u := by
  induction r with
  | done w a =>
    refine ⟨ho.trans h.1, fun d hd => ?_, h.2.2⟩
    exact (hp d (h.2.1 d hd)).elim id fun hs => absurd hd (World.IsSettled.not_due hs)
  | via w rest ih => exact fun hf => ih (fun d hd => (hp d hd).imp_right fun hs => hs hf) (h hf)
  | wait w on resume ih => exact ⟨ho.trans h.1, fun d hd => (h.2.1 d hd).elim (hp d) .inr, h.2.2⟩
  | halt w why => trivial

theorem Keeps.after {r : Run α} (he : Evolves T.regime False u v) (hh : World.Holds (¬T.undoes ·) u v)
    (h : r.Keeps T p v) : r.Keeps T p u :=
  h.from ⟨he.mono False.elim, hh⟩ fun _ hd => .inl (World.due_of_quiet he id hd)

theorem Keeps.bind_settles {r : Run α} {f : α → World → Run β} (h : r.Keeps T p v)
    (hf : ∀ w a, T.Passes v w → p w a → (f a w).Settles T d) : (r.bind f).Settles T d := by
  induction r generalizing v with
  | done w a => exact hf w a h.1.passes h.2.2
  | via w rest ih => exact fun hb => ih (h hb) hf
  | wait w on resume ih =>
    exact fun w' ho hw => ih w' (h.2.2 w' ho hw) fun x a hx => hf x a ((h.1.passes.trans ho.passes).trans hx)
  | halt w why => trivial

theorem Settles.bind {r : Run α} {f : α → World → Run β} {q : World → β → Prop} (hs : r.Settles T d)
    (h : r.Keeps T p v) (hf : ∀ w a, T.Passes v w → p w a → (f a w).Keeps T q w) : (r.bind f).Settles T d := by
  induction r generalizing v with
  | done w a => exact (hf w a h.1.passes h.2.2).settles hs
  | via w rest ih => exact fun hb => ih (hs hb) (h hb) hf
  | wait w on resume ih =>
    refine fun w' ho hw => ih w' (hs w' ho hw) (h.2.2 w' ho hw) fun x a hx => hf x a ?_
    exact (h.1.passes.trans ho.passes).trans hx
  | halt w why => trivial

theorem Keeps.bind {r : Run α} {f : α → World → Run β} {q : World → β → Prop} (h : r.Keeps T p v)
    (hf : ∀ w a, T.Passes v w → p w a → (f a w).Keeps T q w) : (r.bind f).Keeps T q v := by
  induction r generalizing v with
  | done w a => exact (hf w a h.1.passes h.2.2).from h.1 fun d hd => .inl (h.2.1 d hd)
  | via w rest ih => exact fun hb => ih (h hb) hf
  | wait w on resume ih =>
    have hr (w' : World) (ho : T.Others w w') (x : World) (a : α) (hx : T.Passes w' x) :
        p x a → (f a x).Keeps T q x := hf x a ((h.1.passes.trans ho.passes).trans hx)
    refine ⟨h.1, fun d hd => (h.2.1 d hd).imp_right fun hs w' ho hw => ?_, fun w' ho hw => ?_⟩
    · exact Settles.bind (hs w' ho hw) (h.2.2 w' ho hw) (hr w' ho)
    · exact ih w' (h.2.2 w' ho hw) (hr w' ho)
  | halt w why => trivial

/-! ## Runs that end -/

/-- The run ends without a wait, and `post` holds where it does. -/
def Ends (post : World → α → Prop) : Run α → Prop
  | .done w a => post w a
  | .via _ rest => rest.Ends post
  | .wait _ _ _ => False
  | .halt _ _ => False

namespace Ends

variable {post : World → α → Prop} {q : World → β → Prop}

theorem imp {post' : World → α → Prop} {t : Run α} (h : t.Ends post) (hi : ∀ w a, post w a → post' w a) :
    t.Ends post' := by
  induction t with
  | done w a => exact hi w a h
  | via w rest ih => exact ih h
  | wait w on resume => exact h.elim
  | halt w why => exact h.elim

theorem bind {t : Run α} {f : α → World → Run β} (h : t.Ends post) (hf : ∀ w a, post w a → (f a w).Ends q) :
    (t.bind f).Ends q := by
  induction t with
  | done w a => exact hf w a h
  | via w rest ih => exact ih h
  | wait w on resume => exact h.elim
  | halt w why => exact h.elim

theorem of_bind {t : Run α} {f : α → World → Run β} (h : (t.bind f).Ends q) : t.Ends fun w a => (f a w).Ends q := by
  induction t with
  | done w a => exact h
  | via w rest ih => exact ih h
  | wait w on resume => exact h
  | halt w why => exact h

theorem and {post' : World → α → Prop} {t : Run α} (h : t.Ends post) (h' : t.Ends post') :
    t.Ends fun w a => post w a ∧ post' w a := by
  induction t with
  | done w a => exact ⟨h, h'⟩
  | via w rest ih => exact ih h h'
  | wait w on resume => exact h
  | halt w why => exact h

end Ends

/-- The run ends in just this way. -/
def EndsIn (w : World) (a : α) (t : Run α) : Prop := t.Ends fun w' a' => w' = w ∧ a' = a

theorem EndsIn.post {post : World → α → Prop} {t : Run α} {a : α} (h : t.EndsIn w a) (hp : t.Ends post) :
    post w a := by
  induction t with
  | done w' a' =>
    obtain ⟨rfl, rfl⟩ := h
    exact hp
  | via w' rest ih => exact ih h hp
  | wait w' on resume => exact h.elim
  | halt w' why => exact h.elim

theorem Ends.endsIn {post : World → α → Prop} {t : Run α} (h : t.Ends post) :
    t.Ends fun w a => post w a ∧ t.EndsIn w a := by
  induction t with
  | done w a => exact ⟨h, rfl, rfl⟩
  | via w rest ih => exact ih h
  | wait w on resume => exact h
  | halt w why => exact h

theorem Ends.exists_endsIn {post : World → α → Prop} {t : Run α} (h : t.Ends post) :
    ∃ w a, t.EndsIn w a ∧ post w a := by
  induction t with
  | done w a => exact ⟨w, a, ⟨rfl, rfl⟩, h⟩
  | via w rest ih => exact ih h
  | wait => exact h.elim
  | halt => exact h.elim

section
variable {post : World → α → Prop} [∀ w a, Decidable (post w a)]

instance Ends.decidable : (t : Run α) → Decidable (t.Ends post)
  | .done w a => inferInstanceAs (Decidable (post w a))
  | .via _ rest => decidable rest
  | .wait _ _ _ => isFalse id
  | .halt _ _ => isFalse id

-- under a binder the search does not look through `Call`
instance Ends.decidableCall (call : Call α) (w : World) : Decidable ((call w).Ends post) := decidable (call w)

end

theorem Keeps.ends {r : Run α} (hb : ¬T.regime.bounded) (h : r.Keeps T p v) (he : r.Ends q) :
    r.Ends fun w a => T.Own v w ∧ (∀ d, w.IsDue d → v.IsDue d) ∧ q w a := by
  induction r with
  | done w a => exact ⟨h.1, h.2.1, he⟩
  | via w rest ih =>
    -- without a bound nothing is asked of the worlds on the way
    exact ih (h fun e => absurd e hb) he
  | wait w on resume => exact he
  | halt w why => exact he

/-! ## Runs that do not wait -/

def IsQuick (R : Regime) (post : World → α → Prop) (v : World) : Run α → Prop
  | .done w a => Evolves R False v w ∧ post w a
  | .via w rest => (R.bounded → w.Fits) → rest.IsQuick R post v
  | .wait _ _ _ => False
  | .halt _ _ => True

variable {R : Regime}

theorem IsQuick.imp {r : Run α} (h : r.IsQuick R p v) (hpq : ∀ w a, Evolves R False v w → p w a → q w a) :
    r.IsQuick R q v := by
  induction r with
  | done w a => exact ⟨h.1, hpq w a h.1 h.2⟩
  | via w rest ih => exact fun hf => ih (h hf)
  | wait w on resume => exact h
  | halt w why => trivial

theorem IsQuick.from {r : Run α} (he : Evolves R False u v) (h : r.IsQuick R p v) : r.IsQuick R p u := by
  induction r with
  | done w a => exact ⟨he.trans h.1, h.2⟩
  | via w rest ih => exact fun hf => ih (h hf)
  | wait w on resume => exact h
  | halt w why => trivial

theorem IsQuick.bind {r : Run α} {f : α → World → Run β} {q : World → β → Prop} (h : r.IsQuick R p v)
    (hf : ∀ w a, Evolves R False v w → p w a → (f a w).IsQuick R q w) : (r.bind f).IsQuick R q v := by
  induction r with
  | done w a => exact (hf w a h.1 h.2).from h.1
  | via w rest ih => exact fun hb => ih (h hb)
  | wait w on resume => exact h.elim
  | halt w why => trivial

theorem IsQuick.and_ends {r : Run α} {q : World → α → Prop} (h : r.IsQuick R p v) (he : r.Ends q) :
    r.IsQuick R (fun w a => p w a ∧ q w a) v := by
  induction r with
  | done w a => exact ⟨h.1, h.2, he⟩
  | via w rest ih => exact fun hf => ih (h hf) he
  | wait w on resume => exact h
  | halt w why => trivial

theorem IsQuick.keeps {r : Run α} (h : r.IsQuick T.regime p v)
    (hu : ∀ w a, p w a → World.Holds (¬T.undoes ·) v w) : r.Keeps T p v := by
  induction r with
  | done w a => exact .quiet h.1 (hu w a h.2) h.2
  | via w rest ih => exact fun hf => ih (h hf)
  | wait w on resume => exact h.elim
  | halt w why => trivial

end Run

end PnpBus
