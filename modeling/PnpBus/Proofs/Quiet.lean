import PnpBus.Proofs.Rollback

/-!
# Requests that remove nothing

Every request but a removal travels down the stack and back without a wait. It
closes and deletes nothing, and a device on its way out stays there unless the
request is there to take exactly that back.
-/

namespace PnpBus

variable {R : Regime} {p starts : Prop} {P : DeviceId → Prop} {u v w : World} {d : DeviceId} {r : RequestId}

/-! ## Single steps -/

namespace Evolves

theorem aside (h : v.Agrees R.driver w) : Evolves R p v w := .of_move (.transfer (.aside h))

theorem note (w : World) {n : Notice} (hn : n.isSurplus = false) :
    Evolves R p w (w.note n) := aside (.note w hn)

theorem shift {m : Lifecycle} (ho : ¬w.IsClosed d) (hg : ¬w.IsGone d) (hc : m.current ≠ .deleted)
    (hm : m.IsOrderly) : Evolves R p w (w.setLifecycle d m) := .of_move (.shift d m ho hg hc hm)

theorem moveDevice {t : PnpState} (ho : ¬w.IsClosed d) (hr : t ≠ .removed) (ht : t ≠ .deleted) :
    Evolves R p w (w.after (moveDevice d t).run) := by
  rw [World.after]
  by_cases h : (w.device d).state.canBecome t = true
  · rw [moveDevice_ok h]
    exact shift ho (PnpState.ne_deleted_of_canBecome h) ht (.moved h hr)
  · rw [moveDevice_error h]
    exact note w rfl

theorem restoreDevice (hs : w.Sane R) (ho : ¬w.IsClosed d) : Evolves R p w (w.after (restoreDevice d).run) := by
  rw [World.after]
  by_cases h : (w.device d).state.isRevocable = true
  · have hg : (w.device d).state ≠ .deleted := fun e => by rw [e] at h; cases h
    have hm := (hs.sound d).orderly
    rw [restoreDevice_ok h]
    exact shift ho hg hm.previous (hm.restored h)
  · rw [restoreDevice_error h]
    exact note w rfl

theorem cancel {t : PnpState} (hs : w.Sane R) (ho : ¬w.IsClosed d) :
    Evolves R p w (w.after (cancel d t).run) := by
  rw [World.after]
  by_cases h : (w.device d).state = t
  · rw [cancel_of_eq h]; exact restoreDevice hs ho
  · rw [cancel_of_ne h]; exact .refl w

theorem changePower (c : PowerChange) : Evolves R p w (w.after (changePower d c).run) := by
  rw [World.after]
  by_cases h : (w.device d).state = .deleted
  · rw [changePower_error c h]; exact .refl w
  · rw [changePower_ok c h]; exact .of_move (.transfer (.repower d (·.apply c)))

theorem inform (hr : w.Knows r) (i : Information) : Evolves R p w (w.after (inform r i)) :=
  .of_move (.transfer (.inform r hr i))

theorem complete (hr : w.Knows r) (s : Status) : Evolves R p w (w.after (complete r s)) :=
  .of_move (.transfer (.complete r hr s))

end Evolves

/-! ## What departs stays on its way out -/

namespace World.Holds

theorem of_lifecycle (h : ∀ x, (w.device x).lifecycle = (v.device x).lifecycle) : Holds P v w starts where
  departing x _ hx := by rwa [IsDeparting, IsLeaving, IsGone, Device.state, h x]
  rested _ x hx := by rwa [IsStarting, Device.state, h x] at hx

theorem note (w : World) (n : Notice) : Holds P w (w.note n) starts := of_lifecycle fun _ => rfl

theorem away (hv : Holds P u v starts) (hd : P d → ¬u.IsDeparting d)
    (hn : ¬starts → w.IsStarting d → u.IsStarting d)
    (hx : ∀ x ≠ d, (w.device x).lifecycle = (v.device x).lifecycle) : Holds P u w starts where
  departing x hp hu := by
    by_cases hxd : x = d
    · subst hxd; exact absurd hu (hd hp)
    · rw [IsDeparting, IsLeaving, IsGone, Device.state, hx x hxd]
      exact hv.departing x hp hu
  rested hs x hw := by
    by_cases hxd : x = d
    · subst hxd; exact hn hs hw
    · rw [IsStarting, Device.state, hx x hxd] at hw
      exact hv.rested hs x hw

end World.Holds

theorem World.lifecycle_moveDevice (w : World) (t : PnpState) {x : DeviceId} (hx : x ≠ d) :
    ((w.after (moveDevice d t).run).device x).lifecycle = (w.device x).lifecycle := by
  rw [after]
  by_cases h : (w.device d).state.canBecome t = true
  · rw [moveDevice_ok h]; exact w.lifecycle_of_ne _ hx
  · rw [moveDevice_error h]; rfl

theorem World.lifecycle_restoreDevice (w : World) {x : DeviceId} (hx : x ≠ d) :
    ((w.after (restoreDevice d).run).device x).lifecycle = (w.device x).lifecycle := by
  rw [after]
  by_cases h : (w.device d).state.isRevocable = true
  · rw [restoreDevice_ok h]; exact w.lifecycle_of_ne _ hx
  · rw [restoreDevice_error h]; rfl

theorem World.IsStarting.size (h : w.IsStarting d) : d < w.devices.size := by
  refine Nat.lt_of_not_le fun hs => ?_
  rw [IsStarting, device_of_size_le hs] at h
  cases h

/-- A device falls back to a state of rest. -/
theorem World.Sane.not_starting (hs : w.Sane R) : ¬(w.after (restoreDevice d).run).IsStarting d := by
  intro hn
  rw [after] at hn
  by_cases h : (w.device d).state.isRevocable = true
  · rw [restoreDevice_ok h] at hn
    have hd := hn.size
    rw [setLifecycle, size_updateDevice] at hd
    rw [IsStarting, state_setLifecycle hd] at hn
    have hp : (w.device d).lifecycle.previous = .startPending := hn
    obtain e | e | e := (hs.sound d).orderly.rests h <;> rw [e] at hp <;> cases hp
  · rw [restoreDevice_error h] at hn
    have hn : (w.device d).state = .startPending := hn
    rw [hn] at h
    exact h rfl

theorem World.starting_setLifecycle {t s : PnpState} (h : (w.setLifecycle d ⟨t, s⟩).IsStarting d) :
    t = .startPending := by
  have hd := h.size
  rw [setLifecycle, size_updateDevice] at hd
  rwa [IsStarting, state_setLifecycle hd] at h

namespace World.Holds

theorem moveDevice {t : PnpState} (hr : t ≠ .removed) (hd : t ≠ .deleted) (hn : t = .startPending → starts) :
    Holds P w (w.after (moveDevice d t).run) starts where
  departing x hp hx := by
    by_cases hxd : x = d
    · subst hxd
      rw [after]
      by_cases h : (w.device x).state.canBecome t = true
      · have hl := hx.resolve_right (PnpState.ne_deleted_of_canBecome h)
        rw [moveDevice_ok h, IsDeparting, IsLeaving, state_setLifecycle hx.size]
        obtain rfl | rfl | rfl := PnpState.leaving_of_canBecome h hl
        · exact .inl rfl
        · exact absurd rfl hr
        · exact absurd rfl hd
      · rw [moveDevice_error h]; exact hx
    · rwa [IsDeparting, IsLeaving, IsGone, Device.state, w.lifecycle_moveDevice t hxd]
  rested hs x hx := by
    by_cases hxd : x = d
    · subst hxd
      rw [after] at hx
      by_cases h : (w.device x).state.canBecome t = true
      · rw [moveDevice_ok h] at hx
        exact absurd (hn (starting_setLifecycle hx)) hs
      · rw [moveDevice_error h] at hx; exact hx
    · rwa [IsStarting, Device.state, w.lifecycle_moveDevice t hxd] at hx

theorem cancel {t : PnpState} (hs : w.Sane R) (hp : P d → t = .stopPending) :
    Holds P w (w.after (cancel d t).run) starts := by
  rw [after]
  by_cases h : (w.device d).state = t
  · rw [cancel_of_eq h]
    refine away (.refl P w) (fun hd => ?_) (fun _ hn => absurd hn hs.not_starting) fun x hx =>
      w.lifecycle_restoreDevice hx
    rw [hp hd] at h
    exact not_departing (by rw [h]; rfl) (by rw [h]; decide)
  · rw [cancel_of_ne h]; exact .refl P w

theorem changePower (c : PowerChange) : Holds P w (w.after (changePower d c).run) starts := by
  rw [after]
  by_cases h : (w.device d).state = .deleted
  · rw [changePower_error c h]; exact .refl P w
  · rw [changePower_ok c h]
    refine of_lifecycle fun x => ?_
    rw [device_updateDevice]
    split
    next e => rw [e.1]
    next => rfl

end World.Holds

/-! ## Physical devices -/

theorem physicalMinor_quick {m : Minor} (hs : v.Sane R) (ho : ¬v.IsClosed d) (hr : v.Knows r)
    (hm : m ≠ .removeDevice) (hp : m = .cancelRemoveDevice → ¬P d) (hn : m = .startDevice → starts) :
    ((physicalMinor R.driver d r m).run v).IsQuick R (fun w _ => World.Holds P v w starts) v := by
  have hmove (t : PnpState) (ht : t ≠ .removed) (ht' : t ≠ .deleted) (hn : t = .startPending → starts) {w : World}
      (ho : ¬w.IsClosed d) :
      ((liftM (moveDevice d t) : ExceptT Status Call Unit).run w).IsQuick R
        (fun w' _ => World.Holds P w w' starts) w :=
    ⟨.moveDevice ho ht ht', .moveDevice ht ht' hn⟩
  cases m with
  | startDevice =>
    rw [physicalMinor, Call.run_bind]
    refine (hmove .startPending (by decide) (by decide) (fun _ => hn rfl) ho).bind fun w a he hw => ?_
    cases a with
    | ok =>
      have hw' := hmove .started (by decide) (by decide) (absurd · (by decide)) (mt (he.quiet id d).1 ho)
      exact hw'.imp fun w' _ _ => hw.trans
    | error e => exact ⟨.refl w, hw⟩
  | queryStopDevice => exact hmove .stopPending (by decide) (by decide) (absurd · (by decide)) ho
  | cancelStopDevice => exact ⟨.cancel hs ho, .cancel hs fun _ => rfl⟩
  | stopDevice => exact hmove .stopped (by decide) (by decide) (absurd · (by decide)) ho
  | queryRemoveDevice => exact hmove .removePending (by decide) (by decide) (absurd · (by decide)) ho
  | cancelRemoveDevice => exact ⟨.cancel hs ho, .cancel hs fun h => absurd h (hp rfl)⟩
  | removeDevice => exact absurd rfl hm
  | surpriseRemoval => exact hmove .surpriseRemovePending (by decide) (by decide) (absurd · (by decide)) ho
  | queryId t => exact ⟨.inform hr _, .of_lifecycle fun _ => rfl⟩
  | queryRelations t =>
    cases t with
    | target => exact ⟨.inform hr _, .of_lifecycle fun _ => rfl⟩
    | _ => exact ⟨.refl v, .refl P v⟩

theorem physical_quick {k : Kind} (hs : v.Sane R) (ho : ¬v.IsClosed d) (hr : v.Knows r)
    (hk : k ≠ .pnp .removeDevice) (hp : k = .pnp .cancelRemoveDevice → ¬P d) (hn : k = .pnp .startDevice → starts) :
    (physical R.driver d r k v).IsQuick R (fun w _ => World.Holds P v w starts) v := by
  cases k with
  | pnp m =>
    have he : Evolves R False v (v.note (.physicalAsked (v.device d).identity.deviceId m)) := .note v rfl
    have hq := physicalMinor_quick (P := P) (m := m) (he.sane hs) ho hr (fun e => hk (by rw [e]))
      (fun e => hp (by rw [e])) fun e => hn (by rw [e])
    rw [physical_pnp]
    refine Run.IsQuick.from he (Run.IsQuick.bind hq fun w a _ hw => ?_)
    have hv : World.Holds P v w starts := (World.Holds.note v _).trans hw
    cases a with
    | ok => exact ⟨.refl w, hv⟩
    | error e => exact ⟨.note w rfl, hv.trans (.note w _)⟩
  | power c => exact ⟨.changePower c, .changePower c⟩
  | _ => exact ⟨.refl v, .refl P v⟩

/-! ## Diverted requests -/

theorem settle_of_ne (r : RequestId) {s : Status} (h : s ≠ .pending) (w : World) :
    settle r s w = (s, w.after (complete r s)) := by
  simp only [settle, if_neg h]; rfl

theorem settle_fst (r : RequestId) (s : Status) (w : World) : (settle r s w).1 = s := by
  by_cases h : s = .pending
  · rw [h]; rfl
  · rw [settle_of_ne r h]

theorem bind_settle (c : Call Status) (r : RequestId) (w : World) :
    (c >>= fun s => (liftM (settle r s) : Call Status)) w =
      (c w).bind fun s w' => .done (w'.after (settle r s)) s := by
  rw [Call.bind_apply]
  congr 1
  funext s w'
  rw [Call.lift_apply, settle_fst]

theorem transfer_apply (b : DriverId) (d : DeviceId) (r : RequestId) (below : Call Status) (w : World) :
    transfer b d r below w = match (w.driver b).interceptor with
      | none => below w
      | some i => match (w.gate (.device d)).issue? with
        | none => below w
        | some gate => divert i d r below (w.letPass (.device d) r gate) := by
  have hd : (driver b w).1 = w.driver b := rfl
  simp only [transfer, Call.bind_apply, Call.lift_apply, Run.bind, hd]
  rcases (w.driver b).interceptor with _ | i
  · rfl
  · rcases hg : (w.gate (.device d)).issue? with _ | gate
    · show Run.bind (.done (issueTicket (.device d) w).2 (issueTicket (.device d) w).1) _ = _
      rw [issueTicket_none hg]; rfl
    · show Run.bind (.done (issueTicket (.device d) w).2 (issueTicket (.device d) w).1) _ = _
      rw [issueTicket_ok hg]; rfl

/-- An interceptor has the request, and has not decided about it yet. -/
def World.divert (w : World) (i : Interceptor) (d : DeviceId) (r : RequestId) : World :=
  match i.bytes with
  | some n => (w.after (noteDiverted d)).after (inform r (.bytes n))
  | none => w.after (noteDiverted d)

theorem divert_apply (i : Interceptor) (d : DeviceId) (r : RequestId) (below : Call Status) (w : World) :
    divert i d r below w = match i.diversion with
      | .park => .done (w.divert i d r) .pending
      | .answer s => .done (w.divert i d r) s
      | .complete s returned => .done ((w.divert i d r).after (complete r s)) returned
      | .forward => (below (w.divert i d r)).bind fun s w' => .done (w'.after (settle r s)) s := by
  obtain ⟨bytes, diversion⟩ := i
  cases diversion with
  | forward => cases bytes <;> exact bind_settle below r _
  | _ => cases bytes <;> rfl

theorem Evolves.settle (hr : w.Knows r) (s : Status) : Evolves R p w (w.after (settle r s)) := by
  rw [World.after]
  by_cases h : s = .pending
  · rw [h]; exact .refl w
  · rw [settle_of_ne r h]; exact .complete hr s

theorem Evolves.divert (hr : w.Knows r) (i : Interceptor) : Evolves R p w (w.divert i d r) := by
  have hn : Evolves R p w (w.after (noteDiverted d)) :=
    .aside ⟨rfl, rfl, rfl, rfl, rfl, rfl, Nat.le_refl _, rfl, id⟩
  rw [World.divert]
  split
  · exact hn.trans (.inform (w := w.after (noteDiverted d)) hr _)
  · exact hn

theorem World.Holds.complete (r : RequestId) (s : Status) : World.Holds P w (w.after (complete r s)) starts :=
  .of_lifecycle fun x => ((World.Passing.complete (b := 0) w r s).sameStanding.device x).lifecycle

theorem World.Holds.settle (r : RequestId) (s : Status) : World.Holds P w (w.after (settle r s)) starts := by
  rw [World.after]
  by_cases h : s = .pending
  · rw [h]; exact .refl P w
  · rw [settle_of_ne r h]; exact .complete r s

theorem World.Holds.divert (i : Interceptor) (d : DeviceId) (r : RequestId) :
    World.Holds P w (w.divert i d r) starts := by
  rw [World.divert]
  split <;> exact .of_lifecycle fun _ => rfl

/-! ## Functional devices -/

section
variable {below : Call Status}

/-- Takes back a move of this call's own, from a state that the device had not departed from. -/
theorem forwardOrRollBack_quick (hu : World.Holds P u v starts) (hd : ¬u.IsDeparting d) (hs : v.Sane R)
    (ho : ¬v.IsClosed d) (hb : (below v).IsQuick R (fun w _ => World.Holds P v w starts) v) :
    (forwardOrRollBack d below v).IsQuick R (fun w _ => World.Holds P u w starts) v := by
  rw [forwardOrRollBack_apply]
  refine Run.IsQuick.bind hb fun w s he hw => ?_
  split
  · exact ⟨.refl w, hu.trans hw⟩
  · have hn : Evolves R False w (w.note (.lowerRefused (w.device d).identity.deviceId s (w.device d).state)) :=
      .note w rfl
    have ho' := mt (he.quiet id d).1 ho
    refine ⟨hn.trans (.restoreDevice (hn.sane (he.sane hs)) ho'), ?_⟩
    refine (hu.trans hw).away (fun _ => hd) (fun _ hx => ?_) fun x hx => World.lifecycle_restoreDevice _ hx
    exact absurd hx (hn.sane (he.sane hs)).not_starting

theorem moveThen_quick {t : PnpState} {next : Call Status} (ho : ¬v.IsClosed d) (hr : t ≠ .removed)
    (ht : t ≠ .deleted)
    (hn : (v.device d).state.canBecome t = true → Evolves R False v (v.setLifecycle d ⟨t, (v.device d).state⟩) →
      (next (v.setLifecycle d ⟨t, (v.device d).state⟩)).IsQuick R (fun w _ => World.Holds P v w starts)
        (v.setLifecycle d ⟨t, (v.device d).state⟩)) :
    (moveThen d t next v).IsQuick R (fun w _ => World.Holds P v w starts) v := by
  by_cases h : (v.device d).state.canBecome t = true
  · have he : Evolves R False v (v.setLifecycle d ⟨t, (v.device d).state⟩) :=
      .shift ho (PnpState.ne_deleted_of_canBecome h) ht (.moved h hr)
    rw [moveThen_ok d v next h]
    exact (hn h he).from he
  · rw [moveThen_error d v next h]
    exact ⟨.note v rfl, .note v _⟩

theorem forwardThenCancel_quick {t : PnpState} (hs : v.Sane R) (ho : ¬v.IsClosed d) (ht : P d → t = .stopPending)
    (hb : (below v).IsQuick R (fun w _ => World.Holds P v w starts) v) :
    (forwardThenCancel d t below v).IsQuick R (fun w _ => World.Holds P v w starts) v := by
  rw [forwardThenCancel_apply]
  refine Run.IsQuick.bind hb fun w s he hw => ?_
  exact ⟨.cancel (he.sane hs) (mt (he.quiet id d).1 ho), hw.trans (.cancel (he.sane hs) ht)⟩

theorem PnpState.not_departing_of_canBecome {s t : PnpState} (h : s.canBecome t = true)
    (ht : t = .startPending ∨ t = .stopPending ∨ t = .removePending) : s.isLeaving = false ∧ s ≠ .deleted := by
  refine ⟨?_, PnpState.ne_deleted_of_canBecome h⟩
  rw [← Bool.not_eq_true]
  intro hl
  rcases ht with rfl | rfl | rfl <;> exact (PnpState.leaving_of_canBecome h hl).elim nofun (·.elim nofun nofun)

theorem World.Holds.setLifecycle {t : PnpState} (h : (w.device d).state.canBecome t = true) (hr : t ≠ .removed)
    (hd : t ≠ .deleted) (hn : t = .startPending → starts) :
    World.Holds P w (w.setLifecycle d ⟨t, (w.device d).state⟩) starts := by
  have := World.Holds.moveDevice (P := P) (w := w) (d := d) hr hd hn
  rwa [World.after, moveDevice_ok h] at this

section
variable (hs : v.Sane R) (ho : ¬v.IsClosed d)
  (hb : ∀ w, Evolves R False v w → (below w).IsQuick R (fun w' _ => World.Holds P w w' starts) w)
include hs ho hb

theorem query_quick {t : PnpState} (ht : t = .startPending ∨ t = .stopPending ∨ t = .removePending)
    (hn : t = .startPending → starts) (h : (v.device d).state.canBecome t = true)
    (he : Evolves R False v (v.setLifecycle d ⟨t, (v.device d).state⟩)) :
    (forwardOrRollBack d below (v.setLifecycle d ⟨t, (v.device d).state⟩)).IsQuick R
      (fun w _ => World.Holds P v w starts) (v.setLifecycle d ⟨t, (v.device d).state⟩) := by
  have ⟨hl, hg⟩ := PnpState.not_departing_of_canBecome h ht
  have hd : ¬v.IsDeparting d := World.not_departing hl hg
  refine forwardOrRollBack_quick ?_ hd (he.sane hs) (mt (he.quiet id d).1 ho) (hb _ he)
  refine (World.Holds.refl P v).away (fun _ => hd) (fun hs hx => ?_) fun x hx => v.lifecycle_of_ne _ hx
  exact absurd (hn (World.starting_setLifecycle hx)) hs

theorem functionalMinor_quick {m : Minor} (hr : v.Knows r) (hm : m ≠ .removeDevice)
    (hp : m = .cancelRemoveDevice → ¬P d) (hn : m = .startDevice → starts) :
    (functionalMinor R.driver d r below m v).IsQuick R (fun w _ => World.Holds P v w starts) v := by
  have hpass (t : PnpState) (ht : t ≠ .removed) (ht' : t ≠ .deleted) (hn : t ≠ .startPending) :
      (moveThen d t below v).IsQuick R (fun w _ => World.Holds P v w starts) v :=
    moveThen_quick ho ht ht' fun h he => (hb _ he).imp fun w _ _ hw =>
      (World.Holds.setLifecycle h ht ht' fun e => absurd e hn).trans hw
  cases m with
  | startDevice =>
    rw [functionalMinor_startDevice]
    refine moveThen_quick ho nofun nofun fun h he =>
      Run.IsQuick.bind (query_quick hs ho hb (.inl rfl) (fun _ => hn rfl) h he) ?_
    intro w s he' hw
    split
    · exact ⟨.moveDevice (mt ((he.trans he').quiet id d).1 ho) nofun nofun,
        hw.trans (.moveDevice nofun nofun nofun)⟩
    · exact ⟨.refl w, hw⟩
  | queryStopDevice => exact moveThen_quick ho nofun nofun (query_quick hs ho hb (.inr (.inl rfl)) nofun)
  | cancelStopDevice => exact forwardThenCancel_quick hs ho (fun _ => rfl) (hb v (.refl v))
  | stopDevice => exact hpass .stopped nofun nofun nofun
  | queryRemoveDevice => exact moveThen_quick ho nofun nofun (query_quick hs ho hb (.inr (.inr rfl)) nofun)
  | cancelRemoveDevice => exact forwardThenCancel_quick hs ho (fun h => absurd h (hp rfl)) (hb v (.refl v))
  | removeDevice => exact absurd rfl hm
  | surpriseRemoval => exact hpass .surpriseRemovePending nofun nofun nofun
  | queryId t => exact hb v (.refl v)
  | queryRelations t =>
    cases t with
    | bus =>
      have hn (n : Nat) : Evolves R False v (v.note (.childrenListed n)) := .note v rfl
      refine ⟨(hn _).trans (.inform (w := v.note (.childrenListed _)) hr _), ?_⟩
      exact .of_lifecycle fun _ => rfl
    | _ => exact hb v (.refl v)

omit hs ho in
theorem divert_quick (hr : v.Knows r) (i : Interceptor) :
    (divert i d r below v).IsQuick R (fun w _ => World.Holds P v w starts) v := by
  have he : Evolves R False v (v.divert i d r) := .divert hr i
  have hh : World.Holds P v (v.divert i d r) starts := .divert i d r
  rw [divert_apply]
  split
  · exact ⟨he, hh⟩
  · exact ⟨he, hh⟩
  · exact ⟨he.trans (.complete (he.later.knows hr) _), hh.trans (.complete r _)⟩
  · refine Run.IsQuick.from he (Run.IsQuick.bind (hb _ he) fun w s he' hw => ?_)
    exact ⟨.settle ((he.trans he').later.knows hr) s, (hh.trans hw).trans (.settle r s)⟩

omit hs ho in
theorem transfer_quick (hr : v.Knows r) (hf : (v.device d).role = .functional) :
    (transfer R.driver d r below v).IsQuick R (fun w _ => World.Holds P v w starts) v := by
  rw [transfer_apply]
  split
  · exact hb v (.refl v)
  next i _ =>
    split
    · exact hb v (.refl v)
    next gate hg =>
      have he : Evolves R False v (v.letPass (.device d) r gate) :=
        .of_move (.transfer (.letPass d r hr (Device.layer?_of_functional hf) hg))
      have hh : World.Holds P v (v.letPass (.device d) r gate) starts :=
        .of_lifecycle fun x => ((World.SameStanding.setGate v (.device d) gate).device x).lifecycle
      refine ((divert_quick (fun w he' => hb w (he.trans he')) ?_ i).imp ?_).from he
      · exact he.later.knows hr
      · exact fun w _ _ hw => hh.trans hw

theorem functional_quick {k : Kind} (hr : v.Knows r) (hf : (v.device d).role = .functional)
    (hk : k ≠ .pnp .removeDevice) (hp : k = .pnp .cancelRemoveDevice → ¬P d) (hn : k = .pnp .startDevice → starts) :
    (functional R.driver d r below k v).IsQuick R (fun w _ => World.Holds P v w starts) v := by
  cases k with
  | pnp m =>
    have he : Evolves R False v (v.note (.functionalAsked (v.device d).identity.deviceId m)) := .note v rfl
    rw [functional_pnp]
    have hq := functionalMinor_quick (m := m) (he.sane hs) ho (fun w he' => hb w (he.trans he')) hr
      (fun e => hk (by rw [e])) (fun e => hp (by rw [e])) fun e => hn (by rw [e])
    exact (hq.imp fun w _ _ hw => (World.Holds.note v _).trans hw).from he
  | power c =>
    have he : Evolves R False v (v.after (changePower d c).run) := .changePower c
    rw [functional_power]
    split
    · exact ((hb _ he).imp fun w _ _ hw => (World.Holds.changePower c).trans hw).from he
    · exact ⟨he, .changePower c⟩
  | _ => exact transfer_quick hb hr hf

end

end

/-! ## Whole stacks -/

theorem World.Holds.take (d : DeviceId) (r : RequestId) : World.Holds P w (w.take d r) starts :=
  .of_lifecycle fun x => by
    have hk :
        w.SameStanding (w.setLock (.device d) { (w.device d).lock with count := (w.device d).lock.count + 1 }) :=
      .setLock w d rfl id
    exact (hk.device x).lifecycle

theorem admitted_quick {k : Kind} {handler : Call Status} (hr : v.Knows r) (hd : d < v.devices.size)
    (hh : ∀ w, Evolves R False v w → ¬w.IsClosed d →
      (handler w).IsQuick R (fun w' _ => World.Holds P w w' starts) w) :
    (admitted d r k handler v).IsQuick R (fun w _ => World.Holds P v w starts) v := by
  by_cases hg : (v.device d).state = .deleted
  · rw [admitted_error (enter_gone r k hg)]
    exact ⟨.note v rfl, .note v _⟩
  by_cases hc : (v.device d).lock.draining = true
  · rw [admitted_error (enter_closed r k hg hc)]
    exact ⟨.refl v, .refl P v⟩
  rw [admitted_ok (enter_open r k hg hc)]
  intro hf
  have he : Evolves R False v (v.take d r) := .of_move (.transfer (.take d r hd hr hc hf))
  refine ((hh _ he (mt (he.quiet id d).1 hc)).imp fun w _ _ hw => ?_).from he
  exact (World.Holds.take d r).trans hw

/-- A request that is no removal takes back no departure, but a cancel may, on the devices that it passes. -/
theorem deliver_quick {k : Kind} (hk : k ≠ .pnp .removeDevice) (hn : k = .pnp .startDevice → starts) :
    ∀ {s : Stack} {v : World}, v.Sane R → v.Knows r →
    v.Linked s → (k = .pnp .cancelRemoveDevice → ∀ x ∈ s.members, ¬P x) →
    (deliver R.driver r k s v).IsQuick R (fun w _ => World.Holds P v w starts) v
  | .physical d, v, hs, hr, hl, hp => admitted_quick hr hl.1 fun w he ho =>
    physical_quick (he.sane hs) ho (he.later.knows hr) hk (fun e => hp e d (List.mem_singleton.mpr rfl)) hn
  | .functional d lower, v, hs, hr, hl, hp => admitted_quick hr hl.1 fun w he ho => by
    refine functional_quick (he.sane hs) ho (fun x he' => ?_) (he.later.knows hr)
      (((he.later.device d hl.1).role).trans hl.2.1) hk (fun e => hp e d List.mem_cons_self) hn
    have he' := he.trans he'
    exact deliver_quick hk hn (he'.sane hs) (he'.later.knows hr) (he'.later.linked hl.2.2.2) fun e x hx =>
      hp e x (List.mem_cons_of_mem d hx)

theorem dispatch_apply (b : DriverId) (d : DeviceId) (r : RequestId) (w : World) :
    dispatch b d r w =
      (deliver b r (w.request r).kind (w.stack d) w).bind fun s w' => .done (w'.after (settle r s)) s :=
  bind_settle _ r w

/-- A start has been confirmed or taken back on every level when it is answered. -/
theorem deliver_rested {k : Kind} {s : Stack} (hk : k ≠ .pnp .removeDevice) (hs : v.Sane R) (hr : v.Knows r)
    (hl : v.Linked s) (hp : k = .pnp .cancelRemoveDevice → ∀ x ∈ s.members, ¬P x) :
    (deliver R.driver r k s v).IsQuick R (fun w _ => World.Holds P v w) v := by
  by_cases hn : k = .pnp .startDevice
  · subst hn
    have hq := deliver_queried (b := R.driver) (m := .startDevice) rfl hl hr
    have hd : Run.IsQuick R (fun w _ => World.Holds P v w True) v _ :=
      deliver_quick hk (fun _ => trivial) hs hr hl hp
    refine (hd.and_ends hq).imp fun w s _ hw => ?_
    exact ⟨hw.1.departing, fun _ => hw.2.rested nofun⟩
  · exact deliver_quick hk (fun e => absurd e hn) hs hr hl hp

theorem dispatch_quick {b : DriverId} (hb : b = R.driver) (hk : (v.request r).kind ≠ .pnp .removeDevice)
    (hs : v.Sane R) (hr : v.Knows r) (hd : d < v.devices.size)
    (hp : (v.request r).kind = .pnp .cancelRemoveDevice → ∀ x ∈ (v.stack d).members, ¬P x) :
    (dispatch b d r v).IsQuick R (fun w _ => World.Holds P v w) v := by
  subst hb
  rw [dispatch_apply]
  refine Run.IsQuick.bind (deliver_rested hk hs hr (hs.linked d hd) hp) fun w s he hw => ?_
  exact ⟨.settle (he.later.knows hr) s, hw.trans (.settle r s)⟩

end PnpBus
