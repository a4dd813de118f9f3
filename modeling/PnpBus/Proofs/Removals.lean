import PnpBus.Proofs.Quiet

/-!
# Removals

A removal waits for every lock that it closes, and whatever happens in its
waits, each device that it closed is settled when it ends. A device stays on
its way out from the moment it enters a removal state: nobody but a cancel
takes that back, and a cancel comes too late once the lock is closed. The
children that a removal has taken off their parent's list are deleted when it
has gone through them, by the removal or by somebody else meanwhile.
-/

namespace PnpBus

variable {R : Regime} {p : Prop} {P : DeviceId → Prop} {u v w w' : World} {d : DeviceId} {r : RequestId}

/-! ## Steps of a removal -/

section
variable {b : DriverId}

theorem enterRemoval_leaving (h : w.IsLeaving d) : (enterRemoval d).run w = (.ok (), w) := by
  simp only [enterRemoval, Act.run_bind, Act.run_lift, Act.device_apply]
  revert h
  rw [World.IsLeaving]
  cases (w.device d).state <;> first | (intro h; rfl) | (intro h; cases h)

theorem enterRemoval_staying (h : ¬w.IsLeaving d) :
    (enterRemoval d).run w = (moveDevice d .removePending).run w := by
  simp only [enterRemoval, Act.run_bind, Act.run_lift, Act.device_apply]
  revert h
  rw [World.IsLeaving]
  cases (w.device d).state <;> first | (intro h; rfl) | (intro h; exact absurd rfl h)

theorem abandonQuery_idle (h : (w.device d).state ≠ .startPending) (h' : (w.device d).state ≠ .stopPending) :
    (abandonQuery d).run w = (.ok (), w) := by
  simp only [abandonQuery, Act.run_bind, Act.run_lift, Act.device_apply]
  rfl

theorem abandonQuery_queried (h : (w.device d).state = .startPending ∨ (w.device d).state = .stopPending) :
    (abandonQuery d).run w =
      (restoreDevice d).run (w.note (.queryAbandoned (w.device d).identity.deviceId (w.device d).state)) := by
  simp only [abandonQuery, Act.run_bind, Act.run_lift, Act.device_apply]
  rcases h with h | h <;> simp only [h] <;> rfl

theorem unregister_ok (hl : (w.device d).lock.isDrained = true) (hf : w.lookup b (w.device d).key = some d) :
    (unregister b d).run w =
      (.ok (), w.updateDriver b fun v => { v with registry := v.registry.erase (w.device d).key }) := by
  have hf' : (w.driver b).registry.findRole? (w.device d).identity (w.device d).role = some d := hf
  simp only [unregister, Act.run_bind, Act.run_lift, Act.device_apply, if_pos hl, Act.driver_apply, if_pos hf']
  rfl

/-! The last step: what can be deleted is, and unregistered with it. -/

theorem finishRemoval_error (h : (w.device d).state ≠ .removePending)
    (hd : ¬(w.device d).state.canBecome .deleted = true) :
    (finishRemoval b d).run w = (.error .invalidState, w.note (.illegalMove ⟨(w.device d).state, .deleted⟩)) := by
  simp only [finishRemoval, Act.run_bind, Act.run_lift, Act.device_apply, if_neg h, moveDevice_error hd]

theorem finishRemoval_of_ne (h : (w.device d).state ≠ .removePending)
    (hd : (w.device d).state.canBecome .deleted = true)
    (hu : (unregister b d).run ((w.setLifecycle d ⟨.deleted, (w.device d).state⟩).after (leaveParent d)) =
      (.ok (), w')) :
    ∃ role deviceId, (finishRemoval b d).run w = (.ok (), w'.note (.recordDeleted role deviceId)) := by
  refine ⟨(((w.setLifecycle d ⟨.deleted, (w.device d).state⟩).after (leaveParent d)).device d).role,
    (((w.setLifecycle d ⟨.deleted, (w.device d).state⟩).after (leaveParent d)).device d).identity.deviceId, ?_⟩
  rw [World.after] at hu ⊢
  simp only [finishRemoval, Act.run_bind, Act.run_lift, Act.device_apply, if_neg h, moveDevice_ok hd,
    Act.run_tryCatch, hu]
  rfl

theorem finishRemoval_of_eq (h : (w.device d).state = .removePending) (hd : d < w.devices.size)
    (hu : (unregister b d).run ((w.setLifecycle d ⟨.deleted, .removed⟩).after (leaveParent d)) = (.ok (), w')) :
    ∃ role deviceId, (finishRemoval b d).run w = (.ok (), w'.note (.recordDeleted role deviceId)) := by
  have h₁ : (moveDevice d .removed).run w = (.ok (), w.setLifecycle d ⟨.removed, .removePending⟩) := by
    rw [moveDevice_ok (by rw [h]; rfl), h]
  have h₂ : (moveDevice d .deleted).run (w.setLifecycle d ⟨.removed, .removePending⟩) =
      (.ok (), w.setLifecycle d ⟨.deleted, .removed⟩) := by
    have hs := World.state_setLifecycle hd ⟨.removed, .removePending⟩
    rw [moveDevice_ok (by rw [hs]; rfl), hs]
    simp [World.setLifecycle, World.updateDevice, Table.modify, List.modify_modify_eq, Function.comp_def]
  refine ⟨(((w.setLifecycle d ⟨.deleted, .removed⟩).after (leaveParent d)).device d).role,
    (((w.setLifecycle d ⟨.deleted, .removed⟩).after (leaveParent d)).device d).identity.deviceId, ?_⟩
  rw [World.after] at hu ⊢
  simp only [finishRemoval, Act.run_bind, Act.run_lift, Act.device_apply, if_pos h, h₁, h₂, Act.run_tryCatch, hu]
  rfl

theorem unregister_retired (he : w.lookup b (w.device d).key = some d) (hl : (w.device d).lock.isDrained = true)
    (hd : d < w.devices.size) :
    (unregister b d).run
      ((w.setLifecycle d ⟨.deleted, (w.device d).state.beforeDeletion⟩).after (leaveParent d)) =
      (.ok (), w.retire d b) := by
  have hv : ((w.retire d b).device d).lock = (w.device d).lock := (w.retire_device b hd d).1
  have hk : ((w.retire d b).device d).key = (w.device d).key := ((w.later_retire d _).device d hd).key
  rw [World.retire, World.device_updateDriver] at hv hk
  have hdr := World.drivers_leaveParent (w.setLifecycle d ⟨.deleted, (w.device d).state.beforeDeletion⟩) d
  rw [unregister_ok (b := b) (by rw [hv]; exact hl), hk, World.retire]
  rw [hk, World.lookup, World.driver, hdr]
  exact he

/-- A drained device is retired if it is on its way out. Otherwise the last move is refused, and nothing else
happens. -/
theorem finishRemoval_exact (he : ¬w.IsGone d → w.lookup b (w.device d).key = some d)
    (hl : (w.device d).lock.isDrained = true) (hd : d < w.devices.size) :
    (¬w.IsGone d ∧ ∃ role deviceId,
      (finishRemoval b d).run w = (.ok (), (w.retire d b).note (.recordDeleted role deviceId))) ∨
    (¬w.IsLeaving d ∧
      (finishRemoval b d).run w =
      (.error .invalidState, w.note (.illegalMove ⟨(w.device d).state, .deleted⟩))) := by
  by_cases h : (w.device d).state = .removePending
  · have hg : ¬w.IsGone d := fun e => by rw [World.IsGone, h] at e; cases e
    have hu := unregister_retired (he hg) hl hd
    rw [h] at hu
    exact .inl ⟨hg, finishRemoval_of_eq h hd hu⟩
  by_cases hc : (w.device d).state.canBecome .deleted = true
  · have hg := PnpState.ne_deleted_of_canBecome hc
    have hu := unregister_retired (he hg) hl hd
    have hb : (w.device d).state.beforeDeletion = (w.device d).state := by
      unfold PnpState.beforeDeletion; split <;> first | contradiction | rfl
    rw [hb] at hu
    exact .inl ⟨hg, finishRemoval_of_ne h hc hu⟩
  · refine .inr ⟨fun hx => ?_, finishRemoval_error h hc⟩
    rw [World.IsLeaving] at hx
    cases he : (w.device d).state <;> simp_all [PnpState.isLeaving, PnpState.canBecome]

theorem finishRemoval_cases (he : ¬w.IsGone d → w.lookup b (w.device d).key = some d)
    (hl : (w.device d).lock.isDrained = true) (hd : d < w.devices.size) :
    (¬w.IsGone d ∧ ∃ n : Notice, n.isSurplus = false ∧
      (finishRemoval b d).run w = (.ok (), (w.retire d b).note n)) ∨
    (¬w.IsLeaving d ∧ ∃ n : Notice, n.isSurplus = false ∧
      (finishRemoval b d).run w = (.error .invalidState, w.note n)) := by
  obtain ⟨hg, role, deviceId, h⟩ | ⟨hx, h⟩ := finishRemoval_exact he hl hd
  · exact .inl ⟨hg, _, rfl, h⟩
  · exact .inr ⟨hx, _, rfl, h⟩

end

/-! ## What the steps keep -/

def World.IsQueried (w : World) (d : DeviceId) : Prop :=
  (w.device d).state = .startPending ∨ (w.device d).state = .stopPending

theorem World.departing_of_closed (hs : w.Sane R) (hp : (w.device d).role = .physical) (hc : w.IsClosed d) :
    w.IsDeparting d := (hs.sound d).closing (.inr hp) hc

theorem enterRemoval_keeps (hd : d < w.devices.size) (hc : w.IsClosed d → w.IsDeparting d) :
    Evolves R p w (w.after (enterRemoval d).run) ∧ World.Holds P w (w.after (enterRemoval d).run) ∧
      (((enterRemoval d).run w).1 = .ok () → (w.after (enterRemoval d).run).IsDeparting d) := by
  by_cases hl : w.IsLeaving d
  · rw [World.after, enterRemoval_leaving hl]
    exact ⟨.refl w, .refl P w, fun _ => .inl hl⟩
  · rw [World.after, enterRemoval_staying hl]
    refine ⟨?_, .moveDevice (by decide) (by decide) (absurd · (by decide)), ?_⟩
    · by_cases hg : w.IsGone d
      · rw [moveDevice_error (by rw [show (w.device d).state = .deleted from hg]; decide)]
        exact .note w rfl
      · exact .moveDevice (fun h => (hc h).elim hl hg) (by decide) (by decide)
    · by_cases h : (w.device d).state.canBecome .removePending = true
      · rw [moveDevice_ok h]
        intro _
        rw [World.IsDeparting, World.IsLeaving, World.state_setLifecycle hd]
        exact .inl rfl
      · rw [moveDevice_error h]; intro e; cases e

theorem enterRemoval_status {e : Status} (h : ((enterRemoval d).run w).1 = .error e) : e = .invalidState := by
  by_cases hl : w.IsLeaving d
  · rw [enterRemoval_leaving hl] at h; cases h
  by_cases hc : (w.device d).state.canBecome .removePending = true
  · rw [enterRemoval_staying hl, moveDevice_ok hc] at h; cases h
  · rw [enterRemoval_staying hl, moveDevice_error hc] at h; cases h; rfl

/-- A device that no query holds back is refused only once it is deleted. -/
theorem enterRemoval_refused {e : Status} (hs : w.Sane R) (hq : ¬w.IsQueried d)
    (h : ((enterRemoval d).run w).1 = .error e) : w.IsGone d := by
  by_cases hl : w.IsLeaving d
  · rw [enterRemoval_leaving hl] at h; cases h
  by_cases hc : (w.device d).state.canBecome .removePending = true
  · rw [enterRemoval_staying hl, moveDevice_ok hc] at h; cases h
  have hr : (w.device d).state ≠ .removed := (hs.sound d).orderly.current
  rw [World.IsGone]
  rw [World.IsQueried] at hq
  rw [World.IsLeaving] at hl
  cases he : (w.device d).state <;> simp_all [PnpState.isLeaving, PnpState.canBecome]

theorem abandonQuery_keeps (hs : w.Sane R) (hc : w.IsClosed d → w.IsDeparting d) :
    Evolves R p w (w.after (abandonQuery d).run) ∧ World.Holds P w (w.after (abandonQuery d).run) := by
  by_cases h : w.IsQueried d
  · have hd : ¬w.IsDeparting d := by
      rcases h with h | h
      · exact World.not_departing (by rw [h]; rfl) (by rw [h]; decide)
      · exact World.not_departing (by rw [h]; rfl) (by rw [h]; decide)
    have hn {p : Prop} : Evolves R p w
        (w.note (.queryAbandoned (w.device d).identity.deviceId (w.device d).state)) := .note w rfl
    have hs' := hn (p := False).sane hs
    rw [World.after, abandonQuery_queried h]
    refine ⟨hn.trans (.restoreDevice hs' fun e => hd (hc e)), ?_⟩
    refine (World.Holds.refl P w).away (fun _ => hd) (fun _ hx => absurd hx hs'.not_starting) fun x hx => ?_
    exact World.lifecycle_restoreDevice _ hx
  · rw [World.after, abandonQuery_idle (fun e => h (.inl e)) fun e => h (.inr e)]
    exact ⟨.refl w, .refl P w⟩

/-- A query falls back to a state of rest. -/
theorem abandonQuery_rests (hs : w.Sane R) :
    ((abandonQuery d).run w).1 = .ok () ∧ ¬(w.after (abandonQuery d).run).IsQueried d := by
  by_cases h : w.IsQueried d
  · have hr : (w.device d).state.isRevocable = true := by rcases h with h | h <;> rw [h] <;> rfl
    have hd : d < w.devices.size := by
      refine Nat.lt_of_not_le fun hd => ?_
      rw [World.IsQueried, World.device_of_size_le hd] at h
      rcases h with h | h <;> cases h
    generalize hn : w.note (.queryAbandoned (w.device d).identity.deviceId (w.device d).state) = w₁
    have hw : w₁.device d = w.device d := hn ▸ rfl
    have hd₁ : d < w₁.devices.size := hn ▸ hd
    rw [World.after, abandonQuery_queried h, hn, restoreDevice_ok (by rw [hw]; exact hr), hw, World.IsQueried,
      World.state_setLifecycle hd₁]
    refine ⟨rfl, ?_⟩
    obtain e | e | e := (hs.sound d).orderly.rests hr <;> rw [e] <;> decide
  · rw [World.after, abandonQuery_idle (fun e => h (.inl e)) fun e => h (.inr e)]
    exact ⟨rfl, h⟩

/-! What becomes of the devices when a lock is closed. -/

theorem World.lifecycle_closeLock (w : World) (d x : DeviceId) :
    ((w.after (closeLock (.device d))).device x).lifecycle = (w.device x).lifecycle := by
  rw [after_closeLock]
  split
  · rfl
  · rw [((OnlyReleases.releaseLock _ d).sameStanding.device x).lifecycle, setLock, device_updateDevice]
    split
    next e => rw [e.1]
    next => rfl

theorem World.closed_closeLock (hd : d < w.devices.size) : (w.after (closeLock (.device d))).IsClosed d := by
  rw [after_closeLock]
  split
  next h => exact h
  next =>
    rw [IsClosed, ((OnlyReleases.releaseLock _ d).sameStanding.device d).draining, setLock, device_updateDevice,
      if_pos ⟨rfl, hd⟩]
    rfl

theorem World.relatives_closeLock (w : World) (d x : DeviceId) :
    ((w.after (closeLock (.device d))).device x).children = (w.device x).children ∧
      ((w.after (closeLock (.device d))).device x).parent? = (w.device x).parent? := by
  rw [after_closeLock]
  split
  · exact ⟨rfl, rfl⟩
  · have hk := (OnlyReleases.releaseLock (w.setLock (.device d) (w.lock (.device d)).close) d).sameStanding.device x
    rw [hk.children, Device.parent?_eq_of_shape hk.shape, setLock, device_updateDevice]
    split
    next e => rw [e.1]; exact ⟨rfl, rfl⟩
    next => exact ⟨rfl, rfl⟩

theorem World.closed_of_closeLock {x : DeviceId} (hx : x ≠ d) (h : (w.after (closeLock (.device d))).IsClosed x) :
    w.IsClosed x := by
  rw [after_closeLock] at h
  split at h
  · exact h
  · rwa [IsClosed, ((OnlyReleases.releaseLock _ d).sameStanding.device x).draining, setLock, device_updateDevice,
      if_neg fun e => hx e.1] at h

theorem World.due_closeLock {x : DeviceId} (hx : (w.after (closeLock (.device d))).IsDue x) :
    w.IsDue x ∨ x = d := by
  by_cases e : x = d
  · exact .inr e
  refine .inl (hx.imp (fun hx => ⟨World.closed_of_closeLock e hx.1, ?_⟩) fun ⟨f, hc, hl⟩ => ⟨f, ⟨?_, ?_⟩, ?_⟩)
  · have := hx.2
    rwa [World.IsLeaving, Device.state, w.lifecycle_closeLock d x] at this
  · rw [← (w.relatives_closeLock d x).2]; exact hc.1
  · exact mt (w.later_close d).gone hc.2
  · rwa [← (w.relatives_closeLock d f).1]

theorem World.due_retire {b : DriverId} {x : DeviceId} (hs : w.Sane R) (hd : d < w.devices.size)
    (hx : (w.retire d b).IsDue x) : w.IsDue x := by
  rcases hx with ⟨hc, hl⟩ | ⟨f, hc, hl⟩
  · have hv := w.retire_device b hd x
    have hxd : x ≠ d := fun e => ((gone_retire b hd x).mpr (.inl e)).not_leaving hl
    refine .inl ⟨?_, ?_⟩
    · rw [IsClosed, ← hv.1]; exact hc
    · rw [IsLeaving, Device.state, hv.2.1, if_neg hxd] at hl; exact hl
  · obtain ⟨hc, hne⟩ := (isChild_retire hd b).mp hc
    exact .inr ⟨f, hc, fun hm => hl ((mem_children_retire hs hd b).mpr ⟨hm, hne⟩)⟩

/-- How the last step of a removal of `d` can end. Only a functional device can have been taken back in time. -/
structure World.IsFinished (w : World) (d : DeviceId) (a : Except Status Unit) : Prop where
  gone : a = .ok () ∨ (w.device d).role = .physical → w.IsGone d
  refused : ∀ e, a = .error e → e = .invalidState

section
variable {T : Terms} (hT : T.removing)
include hT

theorem closeLock_own (hd : d < v.devices.size)
    (hl : T.regime.sparing ∨ (v.device d).role = .physical → v.IsDeparting d) :
    T.Own v (v.after (closeLock (.device d))) := by
  refine ⟨?_, .of_lifecycle (v.lifecycle_closeLock d)⟩
  by_cases h : v.IsClosed d
  · rw [World.after_closeLock, World.lock_device, if_pos (show (v.device d).lock.draining = true from h)]
    exact .refl v
  · exact .of_move (.close d hT hd h hl)

theorem drain_keeps {α : Type} {q : World → α → Prop} {k : Unit → World → Run α} (hd : d < v.devices.size)
    (hl : T.regime.sparing ∨ (v.device d).role = .physical → v.IsDeparting d)
    (hk : ∀ w, T.Passes v w → w.IsClosed d → (w.device d).lock.latch = true →
      (k () w).Keeps T q w ∧ (k () w).Settles T d) : ((drain (.device d) v).bind k).Keeps T q v := by
  have ho := closeLock_own hT hd hl
  have hc := World.closed_closeLock hd
  show (Run.bind (if (v.after (closeLock (.device d))).isSet (.drained (.device d)) then _ else _) k).Keeps T q v
  split
  next h =>
    obtain ⟨hkeep, hset⟩ := hk _ ho.passes hc h
    refine hkeep.from ho fun x hx => (World.due_closeLock hx).imp_right fun e => ?_
    subst e; exact hset
  next =>
    have hk' (w : World) (h : T.Others (v.after (closeLock (.device d))) w)
        (hs : w.isSet (.drained (.device d)) = true) := hk w (ho.passes.trans h.passes) (h.1.later.closed hc) hs
    refine ⟨ho, fun x hx => (World.due_closeLock hx).imp_right fun e => ?_, fun w h hs => (hk' w h hs).1⟩
    subst e
    exact fun w h hs => (hk' w h hs).2

theorem finishRemoval_keeps (hs : w.Sane T.regime) (hc : w.IsClosed d) (hl : (w.device d).lock.latch = true) :
    (Run.done (w.after (finishRemoval T.regime.driver d).run) ((finishRemoval T.regime.driver d).run w).1).Keeps T
        (·.IsFinished d) w ∧
      (w.after (finishRemoval T.regime.driver d).run).IsSettled d := by
  have hdr : (w.device d).lock.isDrained = true := Bool.and_eq_true _ _ ▸ ⟨hc, hl⟩
  rw [World.after]
  obtain ⟨hg, n, hn, e⟩ | ⟨hx, n, hn, e⟩ :=
    finishRemoval_cases (hs.registered d hc.size).mpr hdr hc.size
  · rw [e]
    have hm : Evolves T.regime T.removing w (w.retire d T.regime.driver) := .of_move (.retire d hT hc.size hg hdr)
    have hv := w.retire_device T.regime.driver hc.size
    have hgone : (w.retire d T.regime.driver).IsGone d := (World.gone_retire _ hc.size d).mpr (.inl rfl)
    have hh : World.Holds (¬T.undoes ·) w (w.retire d T.regime.driver) := by
      refine ⟨fun x _ hx => ?_, fun _ x hx => ?_⟩
      · by_cases hxd : x = d
        · exact .inr (hxd ▸ hgone)
        · rw [World.IsDeparting, World.IsLeaving, World.IsGone, Device.state, (hv x).2.1, if_neg hxd]
          exact hx
      · have hxd : x ≠ d := fun e => by
          rw [World.IsStarting, e, show ((w.retire d T.regime.driver).device d).state = .deleted from hgone] at hx
          cases hx
        rw [World.IsStarting, Device.state, (hv x).2.1, if_neg hxd] at hx
        exact hx
    exact ⟨⟨⟨hm.trans (.note _ hn), hh.trans (.note _ n)⟩,
      fun _ => World.due_retire (b := T.regime.driver) hs hc.size,
      fun _ => hgone, fun _ h => by cases h⟩, .inl hgone⟩
  · rw [e]
    -- a physical device that is closed cannot be taken back
    rcases hr : (w.device d).role with _ | _
    · have hgone : w.IsGone d := (World.departing_of_closed hs hr hc).resolve_left hx
      exact ⟨.quiet (.note w hn) (.note w n) ⟨fun _ => hgone, fun e h => by cases h; rfl⟩, .inl hgone⟩
    · have hf : ¬((.error .invalidState : Except Status Unit) = .ok () ∨ (w.device d).role = .physical) := by
        rw [hr]; rintro (h | h) <;> cases h
      refine ⟨.quiet (.note w hn) (.note w n) ⟨fun h => absurd h hf, fun e h => by cases h; rfl⟩, .inr ⟨hc, hx, ?_⟩⟩
      refine Option.eq_none_iff_forall_ne_some.mpr fun f hp => hf (.inr ?_)
      exact Device.role_of_parent? (v := w.device d) hp

/-! ## Removing one device -/

theorem drainAndDelete_keeps (hs : v.Sane T.regime) (hd : d < v.devices.size)
    (hl : T.regime.sparing ∨ (v.device d).role = .physical → v.IsDeparting d) :
    ((drainAndDelete T.regime.driver d).run v).Keeps T (·.IsFinished d) v := by
  rw [drainAndDelete, Call.run_bind, Call.run_call, Run.bind_assoc]
  exact drain_keeps hT hd hl fun w hw hc hl' => finishRemoval_keeps hT (hw.1.sane hs) hc hl'

/-- No other call can keep a physical device from being deleted. -/
theorem removePhysical_keeps (hs : v.Sane T.regime) (hd : d < v.devices.size) (hp : (v.device d).role = .physical) :
    ((do enterRemoval d; drainAndDelete T.regime.driver d : ExceptT Status Call Unit).run v).Keeps T
      (fun w a => (a = .ok () ∨ ¬v.IsQueried d → w.IsGone d) ∧ a ≠ .error .success) v := by
  have ⟨he, hh, hg⟩ := enterRemoval_keeps hd (World.departing_of_closed hs hp) (R := T.regime) (p := False)
    (P := fun x => ¬T.undoes x)
  have hn (e : Status) (ha : ((enterRemoval d).run v).1 = .error e) :
      e = .invalidState ∧ (¬v.IsQueried d → (v.after (enterRemoval d).run).IsGone d) :=
    ⟨enterRemoval_status ha, fun hq => he.later.gone (enterRemoval_refused hs hq ha)⟩
  rw [Call.run_bind, Call.run_lift]
  refine (Run.Keeps.quiet (p := fun w a => (a = .ok () → w.IsDeparting d) ∧ ∀ e, a = .error e → e = .invalidState ∧
    (¬v.IsQueried d → w.IsGone d)) he hh ⟨hg, hn⟩).bind fun w a hw ha => ?_
  have hd' := Nat.lt_of_lt_of_le hd hw.later.devices
  cases a with
  | error e =>
    obtain ⟨rfl, hg⟩ := ha.2 e rfl
    exact .same ⟨fun h => hg (h.resolve_left nofun), nofun⟩
  | ok =>
    refine (drainAndDelete_keeps hT (hw.1.sane hs) hd' fun _ => ha.1 rfl).imp fun w' a hw' h =>
      ⟨fun _ => ?_, fun e => ?_⟩
    · exact h.gone (.inr ((hw'.later.device d hd').role.trans ((hw.later.device d hd).role.trans hp)))
    · cases h.refused _ e

theorem tearDown_keeps (hs : v.Sane T.regime) (hd : d < v.devices.size) (hp : (v.device d).role = .physical) :
    ((tearDown T.regime.driver d).run v).Keeps T (fun w _ => w.IsGone d) v := by
  have ⟨he, hh⟩ := abandonQuery_keeps hs (World.departing_of_closed hs hp) (p := False) (P := fun x => ¬T.undoes x)
  rw [tearDown, Call.run_bind, Call.run_lift]
  refine (Run.Keeps.quiet (p := fun w a => a = .ok () ∧ ¬w.IsQueried d) he hh (abandonQuery_rests hs)).bind
    fun w a hw ⟨ha, hq⟩ => ?_
  subst ha
  refine (removePhysical_keeps hT (hw.1.sane hs) (Nat.lt_of_lt_of_le hd hw.later.devices)
    ((hw.later.device d hd).role.trans hp)).imp fun _ _ _ h => h.1 (.inr hq)

/-! ## Removing the children of a device -/

omit hT in
theorem letGo_keeps (w : World) (d : DeviceId) :
    (Run.done (w.after (letGo d)) () : Run Unit).Keeps T (fun _ _ => True) w :=
  .quiet (.aside ⟨rfl, rfl, rfl, rfl, rfl, rfl, Nat.le_refl _, rfl, id⟩) (.of_lifecycle fun _ => rfl) trivial

/-- A child that is torn down is deleted afterwards, by whom ever. -/
theorem tearDownChild_keeps (hs : v.Sane T.regime) (hd : d < v.devices.size) (hp : (v.device d).role = .physical) :
    (tearDownChild T.regime.driver d v).Keeps T (fun w _ => w.IsGone d) v := by
  refine (tearDown_keeps hT hs hd hp).bind fun w a _ hg => ?_
  cases a with
  | ok => exact (letGo_keeps w d).imp fun w' _ hw _ => hw.later.gone hg
  | error e =>
    have hn : Evolves T.regime False w (w.note (.childNotTornDown (w.device d).identity.deviceId e)) :=
      .note w rfl
    have hg : (w.note (.childNotTornDown (w.device d).identity.deviceId e)).IsGone d := hg
    exact ((letGo_keeps _ d).imp fun w' _ hw _ => hw.later.gone hg).after hn (.note w _)

theorem tearDownAll_keeps : ∀ {ds : List DeviceId} {v : World}, v.Sane T.regime →
    (∀ d ∈ ds, d < v.devices.size ∧ (v.device d).role = .physical) →
    ((ds.forM (tearDownChild T.regime.driver) : Call Unit) v).Keeps T (fun w _ => ∀ d ∈ ds, w.IsGone d) v
  | [], v, _, _ => .same nofun
  | d :: ds, v, hs, hd => by
    have ⟨hd₁, hp₁⟩ := hd d List.mem_cons_self
    refine (tearDownChild_keeps hT hs hd₁ hp₁).bind fun w _ hw hg => ?_
    refine (tearDownAll_keeps (hw.1.sane hs) fun x hx => ?_).imp fun w' _ hw' hgs x hx => ?_
    · have ⟨hx₁, hp⟩ := hd x (List.mem_cons_of_mem d hx)
      exact ⟨Nat.lt_of_lt_of_le hx₁ hw.later.devices, (hw.later.device x hx₁).role.trans hp⟩
    · rcases List.mem_cons.mp hx with rfl | hx
      · exact hw'.later.gone hg
      · exact hgs x hx

end

/-! ## Functional devices -/

def finishFunctional (b : DriverId) (d : DeviceId) (s : Status) (w : World) : Run Status :=
  match (finishRemoval b d).run (if s.isSuccess then w else w.note (.lowerRefusedRemoval s)) with
  | (.error e, w') => .done w' e
  | (.ok _, w') => .done (w'.note (.functionalRemoved (w'.device d).identity.deviceId)) .success

theorem removeFunctional_error (b : DriverId) (d : DeviceId) (r : RequestId) (below : Call Status)
    {w w' : World} {e : Status}
    (h : (enterRemoval d).run w = (.error e, w')) : removeFunctional b d r below w = .done w' e := by
  simp only [removeFunctional, Call.bind_apply, Call.lift_apply, World.after]
  rw [h]
  rfl

theorem removeFunctional_ok (b : DriverId) (d : DeviceId) (r : RequestId) (below : Call Status) {w w' : World} 
    (h : (enterRemoval d).run w = (.ok (), w')) :
    removeFunctional b d r below w =
      (((w'.device d).children.forM (tearDownChild b) : Call Unit) (w'.after (takeChildren d))).bind fun _ w =>
        (drain (.device d) (w.after (giveBack r d))).bind fun _ w => (below w).bind (finishFunctional b d) := by
  simp only [removeFunctional, Call.bind_apply, Call.lift_apply, World.after]
  rw [h]
  simp only [Run.bind, Call.bind_apply, Call.lift_apply]
  congr 1
  funext _ w₂
  simp only [Run.bind, Call.bind_apply, Call.lift_apply]
  congr 1
  funext _ w₃
  rw [Call.bind_apply]
  congr 1
  funext s w₄
  rw [finishFunctional]
  by_cases hs : s.isSuccess = true
  · simp only [if_pos hs, Call.bind_apply, Call.lift_apply, World.after, Run.bind]
    rcases (finishRemoval b d).run w₄ with ⟨_ | _, _⟩ <;> rfl
  · simp only [if_neg hs, Call.bind_apply, Call.lift_apply, World.after, Run.bind, Act.notify_apply]
    rcases (finishRemoval b d).run (w₄.note (.lowerRefusedRemoval s)) with ⟨_ | _, _⟩ <;> rfl

theorem World.after_giveBack (w : World) (r : RequestId) (d : DeviceId) :
    w.after (PnpBus.giveBack r d) = if d ∈ (w.request r).locks then w.giveBack d r else w := by
  show ((if d ∈ (w.request r).locks then _ else _ : Act Unit) w).2 = _
  split <;> rfl

theorem giveBack_keeps (w : World) (r : RequestId) (d : DeviceId) :
    Evolves R p w (w.after (giveBack r d)) ∧ World.Holds P w (w.after (giveBack r d)) := by
  rw [World.after_giveBack]
  split
  next h =>
    have ht : Transfer R w (w.giveBack d r) := .giveBack d r h
    exact ⟨.of_move (.transfer ht), .of_lifecycle fun x => (ht.passing.sameStanding.device x).lifecycle⟩
  next => exact ⟨.refl w, .refl P w⟩

theorem World.device_takeChildren (w : World) (d x : DeviceId) :
    (w.after (takeChildren d)).device x = (w.setChildren d []).device x := rfl

/-- The children that are taken off the list are those that the removal has to settle. -/
theorem World.due_takeChildren {x : DeviceId} (h : (w.after (takeChildren d)).IsDue x) :
    w.IsDue x ∨ x ∈ (w.device d).children := by
  have hl : w.Later (w.setChildren d []) := w.later_updateLayer d fun _ => ⟨rfl, rfl⟩
  have hq := w.quiet_updateLayer d x fun layer => { layer with children := [] }
  by_cases hx : x ∈ (w.device d).children
  · exact .inr hx
  refine .inl (h.imp (fun ho => ⟨hq.1.mp ho.1, ?_⟩) fun ⟨f, hc, hm⟩ => ⟨f, ⟨?_, mt hl.gone hc.2⟩, ?_⟩)
  · have := ho.2
    rw [IsLeaving, Device.state, device_takeChildren, setChildren, device_updateDevice] at this
    split at this
    next e => rw [Device.lifecycle_updateLayer, ← e.1] at this; exact this
    next => exact this
  · rw [← (hl.device x (Nat.lt_of_lt_of_eq hc.size (w.size_updateDevice d _))).parent]; exact hc.1
  · rw [device_takeChildren, setChildren, device_updateDevice] at hm
    split at hm
    next e => rw [e.1]; exact hx
    next => exact hm

def World.Removed (v : World) (d : DeviceId) (w : World) (s : Status) : Prop :=
  s = .success → w.IsGone d ∧ ∀ c ∈ (v.device d).children, w.IsGone c

namespace World.Removed

variable {s : Status}

theorem later (h : v.Removed d w s) (hl : w.Later w') : v.Removed d w' s := fun hs =>
  have h := h hs
  ⟨hl.gone h.1, fun c hc => hl.gone (h.2 c hc)⟩

theorem from_quiet (he : Evolves R False u v) (h : v.Removed d w s) : u.Removed d w s := fun hs =>
  have h := h hs
  ⟨h.1, fun c hc => h.2 c (children_of_quiet he id d hc)⟩

end World.Removed

section
variable {T : Terms} (hT : T.removing)
include hT

theorem takeChildren_own (w : World) (d : DeviceId) : T.Own w (w.after (takeChildren d)) := by
  have hm : Evolves T.regime T.removing w (w.setChildren d []) := .of_move (.takeChildren d hT)
  refine ⟨hm.trans (.aside ⟨rfl, rfl, rfl, rfl, rfl, rfl, Nat.le_refl _, rfl, id⟩), .of_lifecycle fun x => ?_⟩
  rw [World.device_takeChildren, World.setChildren, World.device_updateDevice]
  split
  next e => rw [e.1]; exact Device.lifecycle_updateLayer ..
  next => rfl

theorem finishFunctional_keeps (hs : w.Sane T.regime) (hc : w.IsClosed d) (hl : (w.device d).lock.latch = true)
    (s : Status) :
    (finishFunctional T.regime.driver d s w).Keeps T (fun w' s' => s' = .success → w'.IsGone d) w ∧
      (finishFunctional T.regime.driver d s w).Settles T d := by
  -- the warning about a refusal below changes nothing
  have hn : ∀ w₀, w₀ = (if s.isSuccess then w else w.note (.lowerRefusedRemoval s)) →
      Evolves T.regime False w w₀ ∧ World.Holds (¬T.undoes ·) w w₀ ∧ w₀.IsClosed d ∧
        (w₀.device d).lock.latch = true := by
    rintro w₀ rfl
    split
    · exact ⟨.refl w, .refl _ w, hc, hl⟩
    · exact ⟨.note w rfl, .note w _, hc, hl⟩
  rw [finishFunctional]
  generalize hw : (if s.isSuccess then w else w.note (.lowerRefusedRemoval s)) = w₀
  obtain ⟨he, hh, hc, hl⟩ := hn w₀ hw.symm
  have ⟨hk, hset⟩ := finishRemoval_keeps hT (he.sane hs) hc hl
  rw [World.after] at hk hset
  rcases h : (finishRemoval T.regime.driver d).run w₀ with ⟨e | _, w₁⟩ <;> rw [h] at hk hset
  · obtain ⟨ho, hdue, hfin⟩ := hk
    refine ⟨Run.Keeps.after he hh ⟨ho, hdue, fun h => ?_⟩, hset⟩
    rw [hfin.refused e rfl] at h; cases h
  · obtain ⟨ho, hdue, hfin⟩ := hk
    have hn : Evolves T.regime False w₁ (w₁.note (.functionalRemoved (w₁.device d).identity.deviceId)) :=
      .note w₁ rfl
    refine ⟨Run.Keeps.after he hh (.from ho (fun x hx => .inl (hdue x hx)) (.quiet hn (.note w₁ _) fun _ => ?_)),
      hset⟩
    exact hfin.gone (.inl rfl)

theorem removeFunctional_keeps {below : Call Status} (hs : v.Sane T.regime) (hd : d < v.devices.size)
    (ho : ¬v.IsClosed d) (hf : (v.device d).role = .functional) (hg : T.regime.sparing → T.guards d ∧ ¬T.undoes d)
    (hb : ∀ w, T.Passes v w → (below w).Keeps T (fun _ _ => True) w) :
    (removeFunctional T.regime.driver d r below v).Keeps T (v.Removed d) v := by
  obtain ⟨he, hh, hdep⟩ := enterRemoval_keeps hd (fun h => absurd h ho) (R := T.regime) (p := False)
    (P := fun x => ¬T.undoes x)
  rw [World.after] at he hh hdep
  rcases h : (enterRemoval d).run v with ⟨e | _, v₁⟩ <;> rw [h] at he hh hdep
  · have hne : e ≠ .success := by rw [enterRemoval_status (congrArg Prod.fst h)]; decide
    rw [removeFunctional_error _ _ _ _ h]
    exact .quiet he hh fun h => absurd h hne
  rw [removeFunctional_ok _ _ _ _ h]
  refine Run.Keeps.after he hh (Run.Keeps.imp (p := v₁.Removed d) ?_ fun w s _ hw => hw.from_quiet he)
  have hp₁ : T.Passes v v₁ := Terms.Own.passes ⟨he.mono False.elim, hh⟩
  have hs₁ := he.sane hs
  have hd₁ : d < v₁.devices.size := Nat.lt_of_lt_of_le hd he.later.devices
  have ht := takeChildren_own hT v₁ d
  have hchild (c : DeviceId) (hc : c ∈ (v₁.device d).children) :
      c < (v₁.after (takeChildren d)).devices.size ∧ ((v₁.after (takeChildren d)).device c).role = .physical :=
    have hc := hs₁.children d c hc
    ⟨Nat.lt_of_lt_of_le hc.size ht.1.later.devices, (ht.1.later.device c hc.size).role.trans hc.physical⟩
  have hkeep := tearDownAll_keeps hT (ht.1.sane hs₁) hchild
  -- when the children are gone the device is drained; it is still on its way out unless a cancel got in
  have hrest (v₂ : World) (hp₂ : T.Passes (v₁.after (takeChildren d)) v₂)
      (hgone : ∀ c ∈ (v₁.device d).children, v₂.IsGone c) :
      ((drain (.device d) (v₂.after (giveBack r d))).bind fun _ w =>
        (below w).bind (finishFunctional T.regime.driver d)).Keeps T (v₁.Removed d) v₂ := by
    have hp₁₂ : T.Passes v₁ v₂ := ht.passes.trans hp₂
    obtain ⟨heg, hhg⟩ := giveBack_keeps v₂ r d (R := T.regime) (p := False) (P := fun x => ¬T.undoes x)
    refine Run.Keeps.after heg hhg ?_
    have hp₁₃ : T.Passes v₁ (v₂.after (giveBack r d)) := hp₁₂.trans (Terms.Own.passes ⟨heg.mono False.elim, hhg⟩)
    have hp₃ := hp₁.trans hp₁₃
    refine drain_keeps hT (Nat.lt_of_lt_of_le hd hp₃.later.devices) ?_ fun w hw hc hl => ?_
    · rw [(hp₃.later.device d hd).role, hf]
      rintro (hsp | hf')
      · exact hp₁₃.2.departing d (hg hsp) (hdep rfl)
      · cases hf'
    · have hbw := hb w (hp₃.trans hw)
      have hfin (w' : World) (s : Status) (hw' : T.Passes w w') :=
        finishFunctional_keeps hT (hw'.1.sane (hw.1.sane (hp₃.1.sane hs))) (hw'.later.closed hc)
          ((hw'.later.device d hc.size).latch hl) s
      refine ⟨hbw.bind fun w' s hw' _ => (hfin w' s hw').1.imp fun w'' s' hw'' hd hs' => ⟨hd hs', fun c hc => ?_⟩,
        hbw.bind_settles fun w' s hw' _ => (hfin w' s hw').2⟩
      exact ((heg.later.trans hw.later).trans (hw'.later.trans hw''.later)).gone (hgone c hc)
  refine Run.Keeps.from ht (fun x hx => (World.due_takeChildren hx).imp_right fun hc => ?_)
    (hkeep.bind fun w _ hw hg => hrest w hw hg)
  exact hkeep.bind_settles fun w _ hw hg => (hrest w hw hg).settles (.inl (hg x hc))

/-! ## Whole stacks -/

theorem removeLast_keeps (hs : v.Sane T.regime) (hd : d < v.devices.size) (hp : (v.device d).role = .physical) :
    (physical T.regime.driver d r (.pnp .removeDevice) v).Keeps T (v.Removed d) v := by
  generalize hv : v.note (.physicalAsked (v.device d).identity.deviceId .removeDevice) = v₁
  have hn : Evolves T.regime False v v₁ := hv ▸ .note v rfl
  have hh : World.Holds (¬T.undoes ·) v v₁ := hv ▸ .note v _
  have ⟨heg, hhg⟩ := giveBack_keeps v₁ r d (R := T.regime) (p := False) (P := fun x => ¬T.undoes x)
  have he := hn.trans heg
  rw [physical_pnp, hv, physicalMinor, Call.run_bind, Call.run_act]
  refine Run.Keeps.after he (hh.trans hhg) (Run.Keeps.bind (removePhysical_keeps hT (he.sane hs)
    (Nat.lt_of_lt_of_le hd he.later.devices) ((he.later.device d hd).role.trans hp)) fun w a _ ha => ?_)
  cases a with
  | ok => exact .same fun _ => ⟨ha.1 (.inl rfl), fun c hc => by rw [Device.children_of_physical hp] at hc; cases hc⟩
  | error e => exact .quiet (.note w rfl) (.note w _) fun h => absurd (congrArg _ h) ha.2

omit hT in
theorem admitted_keeps {k : Kind} {handler : Call Status} {q : World → Status → Prop} (hr : v.Knows r)
    (hd : d < v.devices.size) (hq : ∀ w, q w .noSuchDevice)
    (hh : ∀ w, Evolves T.regime False v w → World.Holds (¬T.undoes ·) v w → ¬w.IsClosed d →
      (handler w).Keeps T q w) :
    (admitted d r k handler v).Keeps T q v := by
  by_cases hg : (v.device d).state = .deleted
  · rw [admitted_error (enter_gone r k hg)]
    exact .quiet (.note v rfl) (.note v _) (hq _)
  by_cases hc : (v.device d).lock.draining = true
  · rw [admitted_error (enter_closed r k hg hc)]
    exact .same (hq v)
  rw [admitted_ok (enter_open r k hg hc)]
  intro hf
  have he : Evolves T.regime False v (v.take d r) := .of_move (.transfer (.take d r hd hr hc hf))
  exact (hh _ he (.take d r) (mt (he.quiet id d).1 hc)).after he (.take d r)

/-- A removal of a stack. Nobody may take back the departure of its layers, if removals are to be spared. -/
theorem deliver_keeps : ∀ {s : Stack} {v : World}, v.Sane T.regime → v.Knows r → v.Linked s →
    (T.regime.sparing → ∀ x ∈ s.layers, T.guards x ∧ ¬T.undoes x) →
    (deliver T.regime.driver r (.pnp .removeDevice) s v).Keeps T (v.Removed s.top) v
  | .physical d, v, hs, hr, hl, _ => admitted_keeps hr hl.1 (fun _ => nofun) fun w he _ _ =>
    (removeLast_keeps hT (he.sane hs) (Nat.lt_of_lt_of_le hl.1 he.later.devices)
      ((he.later.device d hl.1).role.trans hl.2)).imp fun _ _ _ h => h.from_quiet he
  | .functional d lower, v, hs, hr, hl, hg => admitted_keeps hr hl.1 (fun _ => nofun) fun w he _ ho => by
    generalize hw : w.note (.functionalAsked (w.device d).identity.deviceId .removeDevice) = w₁
    have hn : Evolves T.regime False w w₁ := hw ▸ .note w rfl
    have hh : World.Holds (¬T.undoes ·) w w₁ := hw ▸ .note w _
    have ho₁ : ¬w₁.IsClosed d := mt (hn.quiet id d).1 ho
    have he₁ := he.trans hn
    rw [functional_pnp, hw]
    refine Run.Keeps.after hn hh
      ((removeFunctional_keeps hT (he₁.sane hs) (Nat.lt_of_lt_of_le hl.1 he₁.later.devices)
      ho₁ ((he₁.later.device d hl.1).role.trans hl.2.1) (fun hsp => hg hsp d List.mem_cons_self) fun x hx => ?_).imp
      fun _ _ _ h => h.from_quiet he₁)
    have hvx := he₁.later.trans hx.later
    refine (deliver_keeps (hx.1.sane (he₁.sane hs)) (hvx.knows hr) (hvx.linked hl.2.2.2) fun hsp y hy => ?_).imp
      fun _ _ _ _ => trivial
    exact hg hsp y (List.mem_cons_of_mem d hy)

theorem dispatch_keeps (hs : v.Sane T.regime) (hr : v.Knows r) (hk : (v.request r).kind = .pnp .removeDevice)
    (hd : d < v.devices.size) (hg : T.regime.sparing → ∀ x ∈ (v.stack d).layers, T.guards x ∧ ¬T.undoes x) :
    (dispatch T.regime.driver d r v).Keeps T (v.Removed (v.stack d).top) v := by
  rw [dispatch_apply, hk]
  refine (deliver_keeps hT hs hr (hs.linked d hd) hg).bind fun w s hw h => ?_
  have he : Evolves T.regime False w (w.after (settle r s)) := .settle (hw.later.knows hr) s
  exact .quiet he (.settle r s) (h.later he.later)

end

end PnpBus
