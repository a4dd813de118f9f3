import PnpBus.Proofs.Accounts

/-!
# What a gate looks like from outside

State and count share one word. To those who use it a gate is no more than
what was last asked of it and how many of its tickets are out, a `Turnstile`:
whatever they ask, take out and give back, word and answers are those of the
turnstile.
-/

namespace PnpBus

/-! ## Turnstiles -/

structure Turnstile where
  wanted : FilterState
  out : Nat := 0

/-- What users of a gate do. -/
inductive GateUse where
  | ask (wanted : FilterState)
  | enter
  /-- A ticket that is out comes back. -/
  | leave

inductive GateAnswer where
  | asked (r : Except Status Unit)
  | entered (ticket : Bool)
  | left

namespace Turnstile

def state (t : Turnstile) : FilterState :=
  if t.wanted = .enabled then .enabled else if t.out = 0 then .disabled else .pending

def use? (t : Turnstile) : GateUse → Option (GateAnswer × Turnstile)
  | .ask .pending => some (.asked (.error .invalidParameter), t)
  | .ask wanted => some (.asked (.ok ()), { t with wanted })
  | .enter =>
    if t.state = .enabled then some (.entered true, { t with out := t.out + 1 }) else some (.entered false, t)
  | .leave => if t.out = 0 then none else some (.left, { t with out := t.out - 1 })

section
variable {t : Turnstile}

theorem state_of_enabled (h : t.wanted = .enabled) : t.state = .enabled := if_pos h

theorem state_of_pending (h : t.wanted ≠ .enabled) (h0 : t.out ≠ 0) : t.state = .pending := by
  rw [state, if_neg h, if_neg h0]

theorem state_of_disabled (h : t.wanted ≠ .enabled) (h0 : t.out = 0) : t.state = .disabled := by
  rw [state, if_neg h, if_pos h0]

theorem state_eq_disabled : t.state = .disabled ↔ t.wanted ≠ .enabled ∧ t.out = 0 := by
  refine ⟨fun h => ?_, fun h => state_of_disabled h.1 h.2⟩
  by_cases hw : t.wanted = .enabled
  · rw [state_of_enabled hw] at h; cases h
  by_cases h0 : t.out = 0
  · exact ⟨hw, h0⟩
  · rw [state_of_pending hw h0] at h; cases h

theorem state_eq_enabled : t.state = .enabled ↔ t.wanted = .enabled := by
  refine ⟨fun h => Decidable.byContradiction fun hw => ?_, state_of_enabled⟩
  rw [state, if_neg hw] at h
  split at h <;> cases h

end

def limit : Nat := 2 ^ 30 - 1

/-- One use after another, with the answers to them. No ticket is asked for while as many are out as can be. -/
inductive Plays : Turnstile → List GateUse → List GateAnswer → Turnstile → Prop
  | nil (t : Turnstile) : Plays t [] [] t
  | cons {t t₁ t' : Turnstile} {u : GateUse} {us : List GateUse} {a : GateAnswer} {as : List GateAnswer}
      (h : t.use? u = some (a, t₁)) (hl : u = .enter → t.out < limit) (hs : Plays t₁ us as t') :
      Plays t (u :: us) (a :: as) t'

end Turnstile

/-! ## Words -/

namespace FilterGate

theorem toNat_word_pack (s : FilterState) {n : UInt32} (h : n.toNat < 2 ^ 30) :
    (pack s n).word.toNat = s.bits.toNat * 2 ^ 30 + n.toNat := by
  have hs : (s.bits <<< 30).toNat = s.bits.toNat * 2 ^ 30 := by cases s <;> rfl
  show ((s.bits <<< 30) ||| n).toNat = _
  rw [UInt32.toNat_or, hs, Nat.mul_comm, ← Nat.two_pow_add_eq_or_of_lt h]

theorem state_of_word {g : FilterGate} {s : FilterState} {n : Nat} (h : g.word.toNat = s.bits.toNat * 2 ^ 30 + n)
    (hn : n < 2 ^ 30) : g.state = s := by
  have hs : g.word >>> 30 = s.bits := by
    rw [← UInt32.toNat_inj, UInt32.toNat_shiftRight, h]
    show (_ * 2 ^ 30 + _) >>> 30 = _
    rw [Nat.shiftRight_eq_div_pow, Nat.mul_comm, Nat.mul_add_div (by decide), Nat.div_eq_of_lt hn, Nat.add_zero]
  rw [FilterGate.state, hs, FilterState.ofBits_bits]

theorem state_pack (s : FilterState) {n : UInt32} (h : n.toNat < 2 ^ 30) : (pack s n).state = s :=
  state_of_word (toNat_word_pack s h) h

/-! Only a request for it enables a gate. -/

section
variable {g g' : FilterGate} {s : FilterState}

theorem enabled_of_issue? (h : g.issue? = some g') : g.state = .enabled := by
  unfold issue? at h
  split at h
  next hg => exact hg.1
  next => cases h

theorem lt_limit_of_issue? (h : g.issue? = some g') : g.inFlight.toNat < Turnstile.limit := by
  unfold issue? at h
  split at h
  next hg => exact hg.2
  next => cases h

theorem word_of_enabled (h : g.state = .enabled) : g.word.toNat = g.inFlight.toNat := by
  rw [toNat_inFlight, Nat.mod_eq_of_lt]
  unfold FilterGate.state FilterState.ofBits at h
  split at h
  next hz =>
    have hz : g.word.toNat >>> 30 = 0 := by
      have := congrArg UInt32.toNat hz
      rwa [UInt32.toNat_shiftRight] at this
    rw [Nat.shiftRight_eq_div_pow] at hz
    exact (Nat.div_eq_zero_iff.mp hz).resolve_left (by decide)
  next => split at h <;> cases h

theorem enabled_issue? (h : g.issue? = some g') : g'.state = .enabled := by
  have hw := word_of_enabled (enabled_of_issue? h)
  unfold issue? at h
  split at h
  next hi =>
    cases h
    have hlt : g.inFlight.toNat < 2 ^ 30 - 1 := hi.2
    refine state_of_word (n := g.inFlight.toNat + 1) ?_ (by omega)
    rw [UInt32.toNat_add, hw]
    show (g.inFlight.toNat + 1) % 2 ^ 32 = 0 * 2 ^ 30 + (g.inFlight.toNat + 1)
    omega
  next => cases h

theorem enabled_of_redeem? (h : g.redeem? = some g') (he : g'.state = .enabled) : g.state = .enabled := by
  unfold redeem? at h
  split at h
  · cases h
  split at h
  · cases h; cases he
  next h0 _ =>
    cases h
    rwa [state_pack] at he
    have h1 : (1 : UInt32) ≤ g.inFlight :=
      UInt32.le_iff_toNat_le.mpr (Nat.pos_of_ne_zero fun e => h0 (UInt32.toNat_inj.mp e))
    rw [UInt32.toNat_sub_of_le _ _ h1]
    exact Nat.lt_of_le_of_lt (Nat.sub_le _ _) g.toNat_inFlight_lt

theorem enabled_of_request? (h : g.request? s = some g') (he : g'.state = .enabled) : s = .enabled := by
  cases s with
  | enabled => rfl
  | pending => cases h
  | disabled =>
    cases h
    rw [state_pack _ g.toNat_inFlight_lt] at he
    unfold settled at he
    split at he
    · assumption
    · cases he
    · split at he <;> cases he

end

/-- The word of the gate is that of the turnstile, its state above its count. -/
structure Shows (g : FilterGate) (t : Turnstile) : Prop where
  word : g.word.toNat = t.state.bits.toNat * 2 ^ 30 + t.out
  fits : t.out < 2 ^ 30
  wanted : t.wanted ≠ .pending

namespace Shows

variable {g g' : FilterGate} {t : Turnstile} {s : FilterState}

theorem inFlight (h : g.Shows t) : g.inFlight.toNat = t.out := by
  rw [toNat_inFlight, h.word, Nat.mul_add_mod_self_right, Nat.mod_eq_of_lt h.fits]

theorem state (h : g.Shows t) : g.state = t.state := state_of_word h.word h.fits

theorem inFlight_eq_zero (h : g.Shows t) : g.inFlight = 0 ↔ t.out = 0 := by
  rw [← UInt32.toNat_inj, h.inFlight]; rfl

theorem pack {n : UInt32} (hw : t.wanted ≠ .pending) (hn : n.toNat = t.out) (hf : t.out < 2 ^ 30) :
    (pack t.state n).Shows t :=
  ⟨by rw [toNat_word_pack _ (hn ▸ hf), hn], hf, hw⟩

theorem ofState (hs : s ≠ .pending) : (ofState s).Shows { wanted := s } := by
  cases s with
  | pending => exact absurd rfl hs
  | _ => exact ⟨rfl, by decide, hs⟩

theorem settled (h : g.Shows t) (hs : s ≠ .pending) : g.settled s = { t with wanted := s }.state := by
  have hw := h.wanted
  unfold FilterGate.settled
  rw [h.state]
  simp only [h.inFlight_eq_zero]
  cases s <;> cases hw' : t.wanted <;> simp_all [Turnstile.state]
  split <;> simp_all

theorem request? (h : g.Shows t) (hs : s ≠ .pending) :
    ∃ g', g.request? s = some g' ∧ g'.Shows { t with wanted := s } := by
  refine ⟨_, ?_, Shows.pack (t := { t with wanted := s }) hs h.inFlight h.fits⟩
  rw [← h.settled hs]
  cases s with
  | pending => exact absurd rfl hs
  | _ => rfl

theorem issue? (h : g.Shows t) (he : t.state = .enabled) (hl : t.out < Turnstile.limit) :
    ∃ g', g.issue? = some g' ∧ g'.Shows { t with out := t.out + 1 } := by
  have hi : g.inFlight < maxInFlight := by rw [UInt32.lt_iff_toNat_lt, h.inFlight]; exact hl
  refine ⟨⟨g.word + 1⟩, if_pos ⟨h.state.trans he, hi⟩, ?_, Nat.succ_lt_succ hl, h.wanted⟩
  -- below the limit the count has room for one more, and nothing is carried into the state
  have hw := h.word
  have ht : t.wanted = .enabled := Turnstile.state_eq_enabled.mp he
  have hs : ({ t with out := t.out + 1 } : Turnstile).state = .enabled := Turnstile.state_eq_enabled.mpr ht
  rw [he] at hw
  rw [hs, UInt32.toNat_add, hw]
  show (0 * 2 ^ 30 + t.out + 1) % 2 ^ 32 = 0 * 2 ^ 30 + (t.out + 1)
  rw [Turnstile.limit] at hl
  omega

theorem issue?_none (h : g.Shows t) (he : t.state ≠ .enabled) : g.issue? = none :=
  if_neg fun hg => he (h.state.symm.trans hg.1)

/-- The last ticket to come back settles a gate that is to be disabled. -/
theorem redeem? (h : g.Shows t) (h0 : t.out ≠ 0) :
    ∃ g', g.redeem? = some g' ∧ g'.Shows { t with out := t.out - 1 } := by
  have hf : t.out - 1 < 2 ^ 30 := Nat.lt_of_le_of_lt (Nat.sub_le _ _) h.fits
  have hn : (g.inFlight - 1).toNat = t.out - 1 := by
    have h1 : (1 : UInt32) ≤ g.inFlight := by rw [UInt32.le_iff_toNat_le, h.inFlight]; exact Nat.pos_of_ne_zero h0
    rw [UInt32.toNat_sub_of_le _ _ h1, h.inFlight]
    rfl
  refine ⟨_, ?_, Shows.pack (t := { t with out := t.out - 1 }) h.wanted hn hf⟩
  rw [FilterGate.redeem?, if_neg (mt h.inFlight_eq_zero.mp h0), h.state]
  by_cases he : t.wanted = .enabled
  · have hs : ({ t with out := t.out - 1 } : Turnstile).state = .enabled := Turnstile.state_of_enabled he
    have hp : ¬(FilterState.enabled = .pending ∧ g.inFlight = 1) := nofun
    rw [Turnstile.state_of_enabled he, if_neg hp, hs]
  · rw [Turnstile.state_of_pending he h0]
    by_cases h1 : t.out = 1
    · have hi : g.inFlight = 1 := by rw [← UInt32.toNat_inj, h.inFlight, h1]; rfl
      have hs : ({ t with out := t.out - 1 } : Turnstile).state = .disabled :=
        Turnstile.state_of_disabled he (Nat.sub_eq_zero_of_le (Nat.le_of_eq h1))
      rw [if_pos ⟨rfl, hi⟩, hi, hs]
      rfl
    · have hi : g.inFlight ≠ 1 := fun e => h1 (by rw [← h.inFlight, e]; rfl)
      have hs : ({ t with out := t.out - 1 } : Turnstile).state = .pending :=
        Turnstile.state_of_pending he (fun e : t.out - 1 = 0 => by omega)
      rw [if_neg fun e => hi e.2, hs]

end Shows

/-- A gate that shows a turnstile has as many tickets out as that. -/
theorem tally_shows : Tally fun g n => ∃ t : Turnstile, g.Shows t ∧ t.out = n where
  none := ⟨{ wanted := .enabled }, Shows.ofState (s := .enabled) (by decide), rfl⟩
  eq_zero := by
    rintro n ⟨t, hs, rfl⟩
    exact hs.inFlight.symm
  issued := by
    rintro g g' n ⟨t, hs, rfl⟩ hi
    have hl : t.out < Turnstile.limit := by rw [← hs.inFlight]; exact lt_limit_of_issue? hi
    obtain ⟨gate, hi', hs'⟩ := hs.issue? (hs.state.symm.trans (enabled_of_issue? hi)) hl
    cases hi.symm.trans hi'
    exact ⟨_, hs', rfl⟩
  redeemed := by
    rintro g n ⟨t, hs, ht⟩
    obtain ⟨gate, hr, hs'⟩ := hs.redeem? (by rw [ht]; exact Nat.succ_ne_zero n)
    exact ⟨gate, hr, _, hs', show t.out - 1 = n by rw [ht]; rfl⟩
  requested := by
    rintro g g' n s ⟨t, hs, rfl⟩ hq
    have hne : s ≠ .pending := fun e => by rw [request?_eq_none.mpr e] at hq; cases hq
    obtain ⟨gate, hq', hs'⟩ := hs.request? hne
    cases hq.symm.trans hq'
    exact ⟨_, hs', rfl⟩

end FilterGate

/-! ## Using a gate -/

def useGate (g : GateRef) : GateUse → Act GateAnswer
  | .ask wanted => .asked <$> (requestGate g wanted).run
  | .enter => .entered <$> issueTicket g
  | .leave => do
    redeemTicket g
    return .left

def useGateAll (g : GateRef) (us : List GateUse) : Act (List GateAnswer) := us.mapM (useGate g)

theorem useGateAll_cons (g : GateRef) (u : GateUse) (us : List GateUse) :
    useGateAll g (u :: us) = do return (← useGate g u) :: (← useGateAll g us) := List.mapM_cons

section
variable {w : World} {g : GateRef} {s : FilterState}

theorem useGate_ask :
    useGate g (.ask s) w = (.asked ((requestGate g s).run w).1, w.after (requestGate g s).run) := rfl

theorem useGate_enter : useGate g .enter w = (.entered (issueTicket g w).1, w.after (issueTicket g)) := rfl

theorem useGate_leave : useGate g .leave w = (.left, w.after (redeemTicket g)) := rfl

theorem requestGate_some {gate : FilterGate} (h : (w.gate g).request? s = some gate) :
    (requestGate g s).run w = (.ok (), (w.setGate g gate).note (.gateSettled gate.state)) := by
  simp only [requestGate, Act.run_bind, Act.run_get, h]
  rfl

theorem requestGate_none (h : (w.gate g).request? s = none) :
    (requestGate g s).run w = (.error .invalidParameter, w.note .pendingRequested) := by
  simp only [requestGate, Act.run_bind, Act.run_get, h]
  rfl

end

namespace World

variable {w w' : World} {g : GateRef} {t t' : Turnstile} {u : GateUse} {us : List GateUse} {a : GateAnswer}
  {as : List GateAnswer}

theorem hasGate_setGate {x : GateRef} {gate : FilterGate} : (w.setGate g gate).HasGate x ↔ w.HasGate x := by
  cases g with
  | device d =>
    cases x with
    | device x =>
      rw [HasGate, HasGate, setGate, device_updateDevice]
      split
      next h => rw [h.1, Device.layer?_updateLayer, Option.isSome_map]
      next => exact Iff.rfl
    | free n => exact Iff.rfl
  | free n =>
    cases x with
    | device x => exact Iff.rfl
    | free m => rw [HasGate, HasGate, setGate, updateBench, Table.size_modify]

theorem shows_setGate (hg : w.HasGate g) {gate : FilterGate} (h : gate.Shows t) :
    (w.setGate g gate).HasGate g ∧ ((w.setGate g gate).gate g).Shows t :=
  ⟨hasGate_setGate.mpr hg, by rw [gate_setGate_self hg]; exact h⟩

theorem hasGate_note (w : World) (n : Notice) : (w.note n).HasGate g ↔ w.HasGate g := by cases g <;> rfl

theorem shows_note (n : Notice) (h : w.HasGate g ∧ (w.gate g).Shows t) :
    (w.note n).HasGate g ∧ ((w.note n).gate g).Shows t := by
  rw [hasGate_note, gate_note]; exact h

/-- Each use has the answer that it has on the turnstile, and leads to what it leads to there. -/
theorem useGate_shows (hg : w.HasGate g) (h : (w.gate g).Shows t) (hl : u = .enter → t.out < Turnstile.limit)
    (hu : t.use? u = some (a, t')) :
    ∃ w', useGate g u w = (a, w') ∧ w'.HasGate g ∧ (w'.gate g).Shows t' := by
  cases u with
  | ask wanted =>
    by_cases hp : wanted = .pending
    · subst hp
      cases hu
      refine ⟨w.note .pendingRequested, ?_, shows_note _ ⟨hg, h⟩⟩
      rw [useGate_ask, after, requestGate_none (FilterGate.request?_eq_none.mpr rfl)]
    · have ht : t.use? (.ask wanted) = some (.asked (.ok ()), { t with wanted }) := by
        cases wanted with
        | pending => exact absurd rfl hp
        | _ => rfl
      cases ht.symm.trans hu
      obtain ⟨gate, hr, hs⟩ := h.request? hp
      refine ⟨(w.setGate g gate).note (.gateSettled gate.state), ?_, shows_note _ (shows_setGate hg hs)⟩
      rw [useGate_ask, after, requestGate_some hr]
  | enter =>
    rw [Turnstile.use?] at hu
    split at hu
    next he =>
      cases hu
      obtain ⟨gate, hi, hs⟩ := h.issue? he (hl rfl)
      refine ⟨w.setGate g gate, ?_, shows_setGate hg hs⟩
      rw [useGate_enter, after, issueTicket_ok hi]
    next he =>
      cases hu
      refine ⟨w, ?_, hg, h⟩
      rw [useGate_enter, after, issueTicket_none (h.issue?_none he)]
  | leave =>
    rw [Turnstile.use?] at hu
    split at hu
    · cases hu
    next h0 =>
      cases hu
      obtain ⟨gate, hr, hs⟩ := h.redeem? h0
      refine ⟨w.setGate g gate, ?_, shows_setGate hg hs⟩
      rw [useGate_leave, after_redeemTicket, hr]

theorem useGateAll_shows (hp : Turnstile.Plays t us as t') (hg : w.HasGate g) (h : (w.gate g).Shows t) :
    ∃ w', useGateAll g us w = (as, w') ∧ (w'.gate g).Shows t' := by
  induction hp generalizing w with
  | nil t => exact ⟨w, rfl, h⟩
  | @cons t t₁ t' u us a as hu hl _ ih =>
    obtain ⟨w₁, h₁, hg₁, hs₁⟩ := useGate_shows hg h hl hu
    obtain ⟨w', h', hs'⟩ := ih hg₁ hs₁
    refine ⟨w', ?_, hs'⟩
    rw [useGateAll_cons, Act.bind_apply, h₁, Act.bind_apply, h']
    rfl

end World

/-! ## Every sequence of uses -/

/-- A gate that was made enabled or disabled answers every sequence of uses as a turnstile does, and shows it at the
end: its state is what was asked of it last, except that it pends while tickets are out that are to come back, and
its count is what is out. -/
theorem gate_refines_turnstile {w : World} {g : GateRef} {s : FilterState} {us : List GateUse}
    {as : List GateAnswer} {t : Turnstile} (hg : w.HasGate g) (hw : w.gate g = .ofState s) (hs : s ≠ .pending)
    (hp : Turnstile.Plays { wanted := s } us as t) :
    ∃ w', useGateAll g us w = (as, w') ∧
      (w'.gate g).word.toNat = t.state.bits.toNat * 2 ^ 30 + t.out ∧ t.out < 2 ^ 30 ∧
      (w'.gate g).inFlight.toNat = t.out ∧ (w'.gate g).state = t.state ∧
      (t.out ≠ 0 → (w'.gate g).state ≠ .disabled) := by
  obtain ⟨w', ha, h⟩ := World.useGateAll_shows hp hg (hw ▸ .ofState hs)
  refine ⟨w', ha, h.word, h.fits, h.inFlight, h.state, fun h0 hd => ?_⟩
  rw [h.state, Turnstile.state_eq_disabled] at hd
  exact h0 hd.2

/-- A gate is disabled with a ticket out, refuses the next one and settles when that ticket is back. -/
theorem gate_refines_turnstile_of_disable :
    ∃ w', useGateAll (.free 0) [.enter, .ask .disabled, .enter, .ask .pending, .leave]
        { bench := { gates := .push {} (.ofState .enabled) } } =
          ([.entered true, .asked (.ok ()), .entered false, .asked (.error .invalidParameter), .left], w') ∧
      (w'.gate (.free 0)).state = .disabled := by
  have hp : Turnstile.Plays { wanted := .enabled } [.enter, .ask .disabled, .enter, .ask .pending, .leave]
      [.entered true, .asked (.ok ()), .entered false, .asked (.error .invalidParameter), .left]
      { wanted := .disabled } :=
    .cons rfl (fun _ => by decide) <| .cons rfl nofun <| .cons rfl (fun _ => by decide) <| .cons rfl nofun <|
      .cons rfl nofun (.nil _)
  obtain ⟨w', ha, -, -, -, hs, -⟩ :=
    gate_refines_turnstile (w := { bench := { gates := .push {} (.ofState .enabled) } })
    (g := .free 0) Nat.zero_lt_one rfl nofun hp
  exact ⟨w', ha, hs⟩

end PnpBus
