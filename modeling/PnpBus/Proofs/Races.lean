import PnpBus.Proofs.Families
import PnpBus.Proofs.Routes

/-!
# Two removals of one device

A physical device can be removed by a request of its own and, at the same
time, by the removal of its parent. Both wait for the same lock, and it is the
first one to go on that deletes the device: its moves are legal and it
succeeds. The one that comes second finds the device deleted, and its last
move is refused.
-/

namespace PnpBus

variable {b : DriverId} {c c' : Config} {d : DeviceId} {f : Suspended} {n : Nat} {r : RequestId} {t : Stack}
  {s : Status} {u v w : World}

/-! ## No illegal move -/

/-- What was reported between `v` and `w` is no illegal move. -/
def World.NoIllegalMove (v w : World) : Prop :=
  ∃ ns, w.journal.notices = v.journal.notices ++ ns ∧ ∀ m, .illegalMove m ∉ ns

namespace World.NoIllegalMove

theorem of_journal (h : w.journal = v.journal) : v.NoIllegalMove w := ⟨[], by rw [h, List.append_nil], nofun⟩

theorem trans (h : u.NoIllegalMove v) (h' : v.NoIllegalMove w) : u.NoIllegalMove w := by
  obtain ⟨ns, hn, hm⟩ := h
  obtain ⟨ns', hn', hm'⟩ := h'
  refine ⟨ns ++ ns', by rw [hn', hn, List.append_assoc], fun m hx => ?_⟩
  exact (List.mem_append.mp hx).elim (hm m) (hm' m)

instance : Std.Refl NoIllegalMove := ⟨fun _ => of_journal rfl⟩

instance : IsTrans World NoIllegalMove := ⟨fun _ _ _ => trans⟩

theorem note (w : World) {n : Notice} (hn : ∀ m, n ≠ .illegalMove m) : w.NoIllegalMove (w.note n) :=
  ⟨[n], rfl, fun m hm => hn m (List.mem_singleton.mp hm).symm⟩

end World.NoIllegalMove

open World (NoIllegalMove)

theorem releaseLock_noIllegalMove (l : LockRef) : (releaseLock l).Goes NoIllegalMove := .step fun w => by
  rw [World.after_releaseLock]
  split
  · exact .of_journal (by cases l <;> rfl)
  · exact .note w nofun

theorem redeemTicket_noIllegalMove (g : GateRef) : (redeemTicket g).Goes NoIllegalMove := .step fun w => by
  rw [World.after_redeemTicket]
  split
  · exact .of_journal (by cases g <;> rfl)
  · exact .note w nofun

theorem complete_noIllegalMove (r : RequestId) (s : Status) : (complete r s).Goes NoIllegalMove := by
  have update (f : Request → Request) : (modify (·.updateRequest r f) : Act Unit).Goes NoIllegalMove :=
    .step fun _ => .of_journal rfl
  have relinquish : (relinquish r).Goes NoIllegalMove :=
    .bind (a := request r) (fun _ => .refl) fun _ => .bind (update _) fun _ =>
      .bind (.forM redeemTicket_noIllegalMove _) fun _ => .forM (fun d => releaseLock_noIllegalMove (.device d)) _
  refine .bind (a := request r) (fun _ => .refl) fun q => ?_
  split
  · exact .pure _
  · exact .bind (update _) fun _ => .bind relinquish fun _ => update _

theorem giveBack_noIllegalMove (r : RequestId) (d : DeviceId) : (giveBack r d).Goes NoIllegalMove := by
  refine .bind (a := request r) (fun _ => .refl) fun q => ?_
  split
  · exact .bind (.step fun _ => .of_journal rfl) fun _ => releaseLock_noIllegalMove _
  · exact .pure _

theorem closeLock_noIllegalMove (d : DeviceId) : (closeLock (.device d)).Goes NoIllegalMove := fun w => by
  rw [World.after_closeLock]
  split
  · exact .refl
  · exact .head (b := w.setLock (.device d) _) (.of_journal rfl) (releaseLock_noIllegalMove _ _)

theorem settle_noIllegalMove (r : RequestId) (s : Status) (w : World) : w.NoIllegalMove (w.after (settle r s)) :=
  World.of_steps (settle_along (complete_noIllegalMove r s) w)

theorem World.retire_noIllegalMove (w : World) (d : DeviceId) (b : DriverId) : w.NoIllegalMove (w.retire d b) := by
  refine .of_journal ?_
  rw [retire, after_leaveParent]
  split <;> rfl

/-! ## The removal of a physical device -/

def finishPhysical (b : DriverId) (d : DeviceId) (id : String) (w : World) : Run Status :=
  match (finishRemoval b d).run w with
  | (.ok _, w') => .done w' .success
  | (.error e, w') => .done (w'.note (.physicalRefused id .removeDevice e)) e

def report (r : RequestId) (n : Nat) (s : Status) (w : World) : Run Reply :=
  .done (w.after (settle r s)) (.answered s (viewRequest n r (w.after (settle r s))).1)

theorem physical_removal (b : DriverId) (d : DeviceId) (r : RequestId) (w : World) :
    physical b d r (.pnp .removeDevice) w =
      match (enterRemoval d).run
        ((w.note (.physicalAsked (w.device d).identity.deviceId .removeDevice)).after (giveBack r d)) with
      | (.ok _, w') => (drain (.device d) w').bind fun _ => finishPhysical b d (w.device d).identity.deviceId
      | (.error e, w') => .done (w'.note (.physicalRefused (w.device d).identity.deviceId .removeDevice e)) e := by
  rw [physical_pnp, physicalMinor, Call.run_bind, Call.run_act]
  simp only [Run.bind]
  rw [Call.run_bind, Call.run_lift, World.after]
  rcases (enterRemoval d).run _ with ⟨e | _, w'⟩
  · rfl
  · simp only [Run.bind]
    rw [drainAndDelete, Call.run_bind, Call.run_call, Run.bind_assoc, Run.bind_assoc]
    congr 1
    funext _ w'
    simp only [Run.bind, finishPhysical]
    rw [Call.run_lift, World.after]
    rcases (finishRemoval b d).run w' with ⟨_ | _, _⟩ <;> rfl

theorem dispatchNumbered_apply (b : DriverId) (d : DeviceId) (n : Nat) (r : RequestId) (w : World) :
    dispatchNumbered b d n r w = (deliver b r (w.request r).kind (w.stack d) w).bind (report r n) := by
  rw [dispatchNumbered, Call.bind_apply, dispatch_apply]
  exact Run.bind_assoc _ _ _

/-! ## First and second -/

/-- Whoever finds the device on its way out deletes it. -/
theorem finishPhysical_first (hs : w.Sane (.free b)) (hc : w.IsClosed d)
    (hset : w.isSet (.drained (.device d)) = true) (hl : w.IsLeaving d) (id : String) :
    ∃ u, finishPhysical b d id w = .done u .success ∧ u.IsGone d ∧ w.NoIllegalMove u := by
  have hdr : (w.device d).lock.isDrained = true := Bool.and_eq_true _ _ ▸ ⟨hc, hset⟩
  obtain ⟨-, role, deviceId, hf⟩ | ⟨hx, -⟩ := finishRemoval_exact (b := b) (hs.registered d hc.size).mpr hdr hc.size
  · refine ⟨(w.retire d b).note (.recordDeleted role deviceId), by rw [finishPhysical, hf],
      (World.gone_retire b hc.size d).mpr (.inl rfl), ?_⟩
    exact (w.retire_noIllegalMove d b).trans (.note _ nofun)
  · exact absurd hl hx

/-- Whoever finds it deleted is refused. -/
theorem finishPhysical_second (hg : w.IsGone d) (id : String) :
    ∃ u, finishPhysical b d id w = .done u .invalidState ∧
    u.IsGone d ∧ (w.note (.illegalMove ⟨.deleted, .deleted⟩)).NoIllegalMove u := by
  have hstate : (w.device d).state = .deleted := hg
  have hf : (finishRemoval b d).run w = _ :=
    finishRemoval_error (by rw [hstate]; nofun) (by rw [hstate]; nofun)
  rw [hstate] at hf
  refine ⟨(w.note (.illegalMove ⟨.deleted, .deleted⟩)).note (.physicalRefused id .removeDevice .invalidState),
    by rw [finishPhysical, hf], hg, .note _ nofun⟩

theorem report_ends (r : RequestId) (n : Nat) (s : Status) (w : World) : (report r n s w).Ends fun u a =>
    (∃ view, a = .answered s view) ∧ (w.IsGone d → u.IsGone d) ∧ w.NoIllegalMove u := by
  refine ⟨⟨_, rfl⟩, fun hg => ?_, settle_noIllegalMove r s w⟩
  exact (congrArg (fun p : Posture => p.lifecycle.current) (World.SamePosture.settle w r s d)).trans hg

/-! ## Until the lock is drained -/

/-- The device is there and open, and in a state in which it can be removed. -/
def World.IsRemovable (w : World) (d : DeviceId) : Prop :=
  w.IsLive d ∧ (w.IsLeaving d ∨ (w.device d).state.canBecome .removePending = true)

instance (w : World) (d : DeviceId) : Decidable (w.IsRemovable d) :=
  inferInstanceAs (Decidable (_ ∧ ((w.device d).state.isLeaving = true ∨ _)))

/-- A removal of `d`, begun in `v`, comes to its end, or it has closed the lock and is up to its last step. It is
given up only if the clients do not know the device. -/
def Run.Races (b : DriverId) (d : DeviceId) (post : World → Reply → Prop) (v : World) : Run Reply → Prop
  | .done w a => post w a
  | .via _ rest => rest.Races b d post v
  | .wait w on resume => on = .drained (.device d) ∧ w.IsClosed d ∧ (w.device d).role = .physical ∧ w.IsLeaving d ∧
    v.NoIllegalMove w ∧ ∃ id r n, resume = fun w' => (finishPhysical b d id w').bind (report r n)
  | .halt _ _ => v.isKnown d = false

namespace Run.Races

variable {p q : World → Reply → Prop} {run : Run Reply}

theorem imp (h : run.Races b d p v) (hpq : ∀ w a, p w a → q w a) : run.Races b d q v := by
  induction run with
  | done w a => exact hpq w a h
  | via w rest ih => exact ih h
  | wait w on resume => exact h
  | halt w why => exact h

theorem «from» (hv : u.NoIllegalMove v) (hk : u.isKnown d = v.isKnown d) (h : run.Races b d p v) :
    run.Races b d p u := by
  induction run with
  | done w a => exact h
  | via w rest ih => exact ih h
  | wait w on resume =>
    obtain ⟨hon, hc, hp, hl, hw, hresume⟩ := h
    exact ⟨hon, hc, hp, hl, hv.trans hw, hresume⟩
  | halt w why => exact hk.trans h

theorem lands {fit : World → Prop} {run' : Run Reply} (h : run.Races b d p v) (hl : run.Lands fit run') :
    run'.Races b d p v := by
  induction hl with
  | done => exact h
  | wait => exact h
  | via _ _ ih => exact ih h

/-- A removal of a device that the clients know is not given up. -/
theorem ends_or_leads (h : run.Races b d p v) (hk : v.isKnown d = true) : run.Ends p ∨
    ∃ u resume, run.Leads (.wait u (.drained (.device d)) resume) ∧ u.IsLeaving d ∧ v.NoIllegalMove u := by
  induction run with
  | done w a => exact .inl h
  | via w rest ih => exact (ih h).imp id fun ⟨u, resume, hl, hu⟩ => ⟨u, resume, .via hl, hu⟩
  | wait w on resume =>
    obtain ⟨rfl, -, -, hl, hv, -⟩ := h
    exact .inr ⟨w, resume, .refl _, hl, hv⟩
  | halt w why => exact absurd (hk.symm.trans h) nofun

end Run.Races

/-- The removal has succeeded. -/
def World.RemovalSucceeds (d : DeviceId) (v w : World) (a : Reply) : Prop :=
  (∃ view, a = .answered .success view) ∧ w.IsGone d ∧ v.NoIllegalMove w

theorem enterRemoval_noIllegalMove (h : w.IsLeaving d ∨ (w.device d).state.canBecome .removePending = true)
    (hd : d < w.devices.size) : ∃ u, (enterRemoval d).run w = (.ok (), u) ∧ u.IsLeaving d ∧ w.NoIllegalMove u := by
  by_cases hl : w.IsLeaving d
  · exact ⟨w, enterRemoval_leaving hl, hl, .of_journal rfl⟩
  · refine ⟨_, (enterRemoval_staying hl).trans (moveDevice_ok (h.resolve_left hl)), ?_, .of_journal rfl⟩
    rw [World.IsLeaving, World.state_setLifecycle hd]
    rfl

/-- A removal that was accepted succeeds at once or waits. -/
theorem drain_races (hs : w.Sane (.free b)) (hd : d < w.devices.size) (hp : (w.device d).role = .physical)
    (hl : w.IsLeaving d) (hw : v.NoIllegalMove w) (id : String) (r : RequestId) (n : Nat) :
    ((drain (.device d) w).bind fun _ w' => (finishPhysical b d id w').bind (report r n)).Races b d
    (v.RemovalSucceeds d) v := by
  have hown :
      (Terms.of (.free b) (some (.physical d, .pnp .removeDevice))).Own w (w.after (closeLock (.device d))) :=
    closeLock_own ⟨_, rfl⟩ hd fun _ => .inl hl
  have hc := World.closed_closeLock hd
  have hl' : (w.after (closeLock (.device d))).IsLeaving d := by
    rw [World.IsLeaving, Device.state, w.lifecycle_closeLock d]
    exact hl
  have hv : v.NoIllegalMove (w.after (closeLock (.device d))) :=
    hw.trans (World.of_steps (closeLock_noIllegalMove d w))
  rw [drain_apply]
  generalize w.after (closeLock (.device d)) = u at *
  split
  next hset =>
    obtain ⟨u', hf, hg, hu'⟩ := finishPhysical_first (hown.1.sane hs) hc hset hl' id
    show Run.Races b d (v.RemovalSucceeds d) v ((finishPhysical b d id u).bind (report r n))
    rw [hf]
    obtain ⟨ha, hg', hr⟩ := report_ends (d := d) r n .success u'
    exact ⟨ha, hg' hg, (hv.trans hu').trans hr⟩
  next => exact ⟨rfl, hc, (hown.1.later.device d hd).role.trans hp, hl', hv, id, r, n, rfl⟩

def World.told (w : World) (d : DeviceId) (r : RequestId) : World :=
  ((w.take d r).note (.physicalAsked ((w.take d r).device d).identity.deviceId .removeDevice)).after
    (PnpBus.giveBack r d)

theorem World.told_evolves (hr : v.Knows r) (hd : d < v.devices.size) (hc : (v.device d).lock.draining ≠ true) :
    Evolves (.free b) False v (v.told d r) :=
  have htake : Evolves (.free b) False v (v.take d r) := .of_move (.transfer (.take d r hd hr hc False.elim))
  (htake.trans (.note _ rfl)).trans (giveBack_keeps (P := fun _ => False) _ r d).1

theorem World.told_noIllegalMove (w : World) (d : DeviceId) (r : RequestId) : w.NoIllegalMove (w.told d r) :=
  have hnote (id : String) : (w.take d r).NoIllegalMove ((w.take d r).note (.physicalAsked id .removeDevice)) :=
    .note _ nofun
  (hnote _).trans (World.of_steps (giveBack_noIllegalMove r d _))

theorem World.state_told (w : World) (d : DeviceId) (r : RequestId) :
    ((w.told d r).device d).state = (w.device d).state := by
  have hgive := World.of_steps (completable_samePosture.giveBack r d
    ((w.take d r).note (.physicalAsked ((w.take d r).device d).identity.deviceId .removeDevice)))
  exact congrArg (fun p : Posture => p.lifecycle.current)
    ((hgive d).trans (World.SamePosture.setLock w (.device d) _ d))

theorem removal_races (hs : v.Sane (.free b)) (hr : v.Knows r) (hd : d < v.devices.size)
    (hp : (v.device d).role = .physical) (n : Nat) :
    ((deliver b r (.pnp .removeDevice) (.physical d) v).bind (report r n)).Races b d
      (fun w a => v.IsRemovable d → v.RemovalSucceeds d w a) v := by
  rw [deliver]
  by_cases hg : (v.device d).state = .deleted
  · rw [admitted_error (enter_gone r _ hg)]
    exact fun h => absurd hg h.1.1
  by_cases hc : (v.device d).lock.draining = true
  · rw [admitted_error (enter_closed r _ hg hc)]
    exact fun h => by rw [h.1.2] at hc; cases hc
  rw [admitted_ok (enter_open r _ hg hc)]
  show Run.Races b d _ v ((physical b d r (.pnp .removeDevice) (v.take d r)).bind (report r n))
  rw [physical_removal, ← World.told]
  have he : Evolves (.free b) False v (v.told d r) := World.told_evolves hr hd hc
  have hlegal := v.told_noIllegalMove d r
  have hstate := v.state_told d r
  generalize ((v.take d r).device d).identity.deviceId = id
  generalize v.told d r = w at *
  have hdw : d < w.devices.size := Nat.lt_of_lt_of_le hd he.later.devices
  by_cases h : w.IsLeaving d ∨ (w.device d).state.canBecome .removePending = true
  case neg =>
    rw [enterRemoval_staying fun hl => h (.inl hl), moveDevice_error fun hb => h (.inr hb)]
    refine fun hx => absurd ?_ h
    rw [World.IsLeaving, hstate]
    exact hx.2
  obtain ⟨u, hu, hl, hau⟩ := enterRemoval_noIllegalMove h hdw
  have hkeeps := (enterRemoval_keeps (R := .free b) (p := False) (P := fun _ => False) hdw
    fun hcw => absurd ((he.quiet not_false d).1 hcw) hc).1
  rw [World.after, hu] at hkeeps
  rw [hu]
  show Run.Races b d _ v (((drain (.device d) u).bind fun _ => finishPhysical b d id).bind (report r n))
  rw [Run.bind_assoc]
  have hdu : d < u.devices.size := Nat.lt_of_lt_of_le hdw hkeeps.later.devices
  have hpu : (u.device d).role = .physical :=
    (hkeeps.later.device d hdw).role.trans ((he.later.device d hd).role.trans hp)
  exact (drain_races (hkeeps.sane (he.sane hs)) hdu hpu hl (hlegal.trans hau) id r n).imp fun _ _ hwin _ => hwin

/-! ## Commands that remove a physical device -/

theorem chooseDriver_apply (h : b < w.drivers.size) : chooseDriver (some b) w = .done w b := by
  show Run.bind (ensure (decide (b < w.drivers.size)) w) _ = _
  rw [decide_eq_true h]
  rfl

theorem World.role_of_stack (h : w.stack d = .physical d) : (w.device d).role = .physical := by
  rw [stack] at h
  rw [Device.role]
  cases he : (w.device d).extension with
  | physical parent => rfl
  | functional layer => rw [he] at h; cases h

/-- A device that clients may name. -/
theorem needDevice_races {p : World → Reply → Prop} {k : Unit → Call Reply} (hsize : w.isKnown d = true →
    (k () w).Races b d p w) : ((needDevice d >>= k) w).Races b d p w := by
  rw [Call.bind_apply, needDevice_apply]
  cases hk : w.isKnown d with
  | false => exact hk
  | true => exact hsize hk

theorem dispatchNumbered_races (hs : v.Sane (.free b)) (hr : v.Knows r)
    (hkind : (v.request r).kind = .pnp .removeDevice)
    (hd : d < v.devices.size) (hstack : v.stack d = .physical d) (n : Nat) :
    (dispatchNumbered b d n r v).Races b d (fun w a => v.IsRemovable d → v.RemovalSucceeds d w a) v := by
  rw [dispatchNumbered_apply, hkind, hstack]
  exact removal_races hs hr hd (World.role_of_stack hstack) n

theorem perform_races {x : Command} (hs : w.Sane (.free b)) (hx : x.IsPermitted b)
    (hsent : x.sent w = some (.physical d, .pnp .removeDevice)) :
    (perform x w).Races b d (fun u a => w.IsRemovable d → w.RemovalSucceeds d u a) w := by
  have size (h : w.isKnown d = true) : d < w.devices.size := by
    rw [World.isKnown, Bool.and_eq_true] at h
    exact of_decide_eq_true h.1
  have hb : b < w.drivers.size := hs.driver
  have top {e : DeviceId} (h : w.stack e = .physical d) : e = d := by rw [← w.top_stack e, h]; rfl
  cases x with
  | request x =>
    cases x with
    | send e k y =>
      obtain rfl : y = some b := hx
      obtain ⟨hstack, rfl⟩ := Prod.mk.inj (Option.some.inj hsent)
      obtain rfl := top hstack
      show ((needDevice e >>= fun _ => _) w).Races b e _ w
      refine needDevice_races fun hk => ?_
      rw [Call.bind_apply, chooseDriver_apply hb]
      have hw : w.Smooth (.free b) (w.enlist (.pnp .removeDevice)) := enlist_smooth w _
      have hraces := dispatchNumbered_races (hw.evolves.sane hs) (knows_ask w (.pnp .removeDevice))
        (kind_enlist w (.pnp .removeDevice)) (size hk) hstack w.clients.requests.length
      exact Run.Races.from (v := w.enlist (.pnp .removeDevice)) (.of_journal rfl) rfl
        (hraces.imp fun _ _ h hx => h hx)
    | resend m e y =>
      obtain rfl : y = some b := hx
      obtain ⟨r, hr, hpair⟩ := Option.map_eq_some_iff.mp hsent
      obtain ⟨hstack, hkind⟩ := Prod.mk.inj hpair
      obtain rfl := top hstack
      have hneed : needRequest m w = .done w r := by
        show need w.clients.requests[m]? w = _
        rw [hr]
        rfl
      show ((needRequest m >>= fun _ => _) w).Races b e _ w
      rw [Call.bind_apply, hneed]
      refine needDevice_races fun hk => ?_
      rw [Call.bind_apply, chooseDriver_apply hb]
      exact dispatchNumbered_races hs (hs.known_number hr) hkind (size hk) hstack m
    | _ => cases hsent
  | _ => cases hsent

/-! ## Commands that wait -/

structure Suspended.Races (b : DriverId) (w : World) (d : DeviceId) (f : Suspended) : Prop where
  on : f.on = .drained (.device d)
  closed : w.IsClosed d
  physical : (w.device d).role = .physical
  resume : ∃ id r n, f.resume = fun w' => (finishPhysical b d id w').bind (report r n)

def Config.Races (b : DriverId) (c : Config) : Prop :=
  ∀ f ∈ c.suspended, ∀ d, f.sent = some (.physical d, .pnp .removeDevice) → f.Races b c.world d

namespace Suspended.Races

theorem later (h : f.Races b v d) (hl : v.Later w) : f.Races b w d where
  on := h.on
  closed := hl.closed h.closed
  physical := (hl.device d h.closed.size).role.trans h.physical
  resume := h.resume

/-- It is not suspended again. -/
theorem lands {fit : World → Prop} {run : Run Reply} (h : f.Races b v d) (hl : (f.resume w).Lands fit run) :
    ofRun f.sent run = [] := by
  obtain ⟨id, r, n, hresume⟩ := h.resume
  simp only [hresume, finishPhysical] at hl
  generalize (finishRemoval b d).run w = outcome at hl
  obtain ⟨_ | _, w'⟩ := outcome <;> cases hl <;> rfl

end Suspended.Races

theorem Config.Races.others {fs : List Suspended} (h : Config.Races b ⟨v, fs⟩) (hl : v.Later w) :
    Config.Races b ⟨w, fs⟩ := fun f hf d hs => (h f hf d hs).later hl

theorem Turn.races (ht : Turn (.free b) c c') (hs : c.Sound (.free b)) (h : c.Races b) : c'.Races b := by
  have hl : c.world.Later c'.world := (ht.fair hs.toFair).2.later
  cases ht with
  | @begin w fs run x hx _ hrun =>
    intro f hf d hsent
    rcases List.mem_append.mp hf with hf | hf
    · obtain ⟨u, on, resume, rfl, rfl⟩ := Suspended.mem_ofRun hf
      obtain ⟨rfl, hc, hp, -, -, hresume⟩ := (perform_races hs.sane hx hsent).lands hrun
      exact ⟨rfl, hc, hp, hresume⟩
    · exact (h f hf d hsent).later hl
  | @resume w fs gs run f hset hrun =>
    intro g hg d hsent
    rcases List.mem_append.mp hg with hg | hg
    · obtain ⟨u, on, resume, rfl, rfl⟩ := Suspended.mem_ofRun hg
      have hf := (h f (List.mem_append_right fs List.mem_cons_self) d hsent).lands hrun
      cases hf
    · exact (h g (Config.mem_of_mem_without g hg) d hsent).later hl
  | work => exact h.others hl
  | drop => exact h.others hl
  | tidy => exact h.others hl

theorem Reaches.races (h : Reaches (.free b) c) : c.Races b := by
  obtain ⟨w, hw, h⟩ := h
  suffices c.Sound (.free b) ∧ c.Races b from this.2
  induction h with
  | refl => exact ⟨hw.sound, nofun⟩
  | tail _ ht ih => exact ⟨ht.sound ih.1, ht.races ih.1 ih.2⟩

/-- A removal that was sent to a physical device and accepted succeeds at once, or waits for the drain of its lock.
When it goes on and the device is still there, it deletes the device, with legal moves only, and succeeds. If the
device has been deleted meanwhile, the removal is refused and reports just one illegal move, from deleted to
deleted. -/
theorem first_finisher_wins (h : Reaches (.free b) c) :
    (∀ x d, x.IsPermitted b → x.sent c.world = some (.physical d, .pnp .removeDevice) → c.world.isKnown d = true →
      c.world.IsRemovable d → (perform x c.world).Ends (c.world.RemovalSucceeds d) ∨
        ∃ u resume, (perform x c.world).Leads (.wait u (.drained (.device d)) resume) ∧ u.IsLeaving d ∧
          c.world.NoIllegalMove u) ∧
    ∀ f ∈ c.suspended, ∀ d, f.sent = some (.physical d, .pnp .removeDevice) →
      f.on = .drained (.device d) ∧ (c.world.IsLeaving d ∨ c.world.IsGone d) ∧
      (c.world.IsLeaving d → c.world.isSet f.on = true → (f.resume c.world).Ends (c.world.RemovalSucceeds d)) ∧
      (c.world.IsGone d → c.world.isSet f.on = true ∧ (f.resume c.world).Ends fun w a =>
        (∃ view, a = .answered .invalidState view) ∧ w.IsGone d ∧
          (c.world.note (.illegalMove ⟨.deleted, .deleted⟩)).NoIllegalMove w) := by
  have hs : c.world.Sane (.free b) := h.sound.sane
  refine ⟨fun x d hx hsent hk hr => ?_, fun f hf d hsent => ?_⟩
  · exact ((perform_races hs hx hsent).imp fun _ _ hwin => hwin hr).ends_or_leads hk
  obtain ⟨hon, hc, hp, id, r, n, hresume⟩ := h.races f hf d hsent
  rw [hon, hresume]
  refine ⟨rfl, World.departing_of_closed hs hp hc, fun hl hset => ?_, fun hg => ⟨?_, ?_⟩⟩
  · obtain ⟨u, hu, hg, ha⟩ := finishPhysical_first hs hc hset hl id
    dsimp only
    rw [hu]
    obtain ⟨hview, hgone, ha'⟩ := report_ends (d := d) r n .success u
    exact ⟨hview, hgone hg, ha.trans ha'⟩
  · have hd := (hs.sound d).drained hg
    rw [RemoveLock.isDrained, Bool.and_eq_true] at hd
    exact hd.2
  · obtain ⟨u, hu, hg, ha⟩ := finishPhysical_second (b := b) hg id
    dsimp only
    rw [hu]
    obtain ⟨hview, hgone, ha'⟩ := report_ends (d := d) r n .invalidState u
    exact ⟨hview, hgone hg, ha.trans ha'⟩

def childRemoval : List Play := oneChild ++ [
  .begin (.request (.send 2 (.pnp .removeDevice) (some 0))),
  .begin (.device (.dropToken 0))]

theorem first_finisher_wins_of_child : ∃ c f, Reaches (.free 0) c ∧ f ∈ c.suspended ∧
    f.sent = some (.physical 2, .pnp .removeDevice) ∧ (f.resume c.world).Ends (c.world.RemovalSucceeds 2) := by
  obtain ⟨c, hc, h⟩ := Reaches.of_play (R := .free 0) (l := childRemoval) World.isFresh_initial
    (by simp [childRemoval, oneChild, Play.IsPermitted, Command.IsPermitted, Regime.free])
    (q := fun c => (c.world.device 2).state.isLeaving && c.suspended.any fun f =>
      f.sent = some (.physical 2, .pnp .removeDevice) && c.world.isSet f.on) (by decide +kernel)
  rw [Bool.and_eq_true, List.any_eq_true] at h
  obtain ⟨hl, f, hf, h⟩ := h
  rw [Bool.and_eq_true, decide_eq_true_eq] at h
  exact ⟨c, f, hc, hf, h.1, ((first_finisher_wins hc).2 f hf 2 h.1).2.2.1 hl h.2⟩

def overtaken : List (List Play) := [[
  .begin (.request (.send 1 (.pnp .removeDevice) (some 0))),
  .begin (.device (.dropToken 0)),
  .resume]]

def Reply.status? : Reply → Option Status
  | .answered s _ => some s
  | _ => none

/-- The removal of the child was accepted and the child is deleted, but the answer is that the state was invalid. -/
theorem second_finisher_is_refused : ∃ c w view, Reaches (.free 0) c ∧ c.world.stack 2 = .physical 2 ∧
    c.world.isKnown 2 = true ∧ c.world.IsRemovable 2 ∧
    (perform (.request (.send 2 (.pnp .removeDevice) (some 0))) c.world).Concludes (.free 0) w
      (.answered .invalidState view) c.suspended ∧
    w.IsGone 2 ∧ .illegalMove ⟨.deleted, .deleted⟩ ∈ w.journal.notices ∧
    .illegalMove ⟨.deleted, .deleted⟩ ∉ c.world.journal.notices := by
  obtain ⟨c, hc, h⟩ := Reaches.of_play (R := .free 0) (l := oneChild) World.isFresh_initial
    (by simp [oneChild, Play.IsPermitted, Command.IsPermitted, Regime.free])
    (q := fun c => (c.world.stack 2 = .physical 2 && (c.world.isKnown 2 && (c.world.IsRemovable 2 &&
      .illegalMove ⟨.deleted, .deleted⟩ ∉ c.world.journal.notices))) &&
      ((perform (.request (.send 2 (.pnp .removeDevice) (some 0))) c.world).conclude c.suspended overtaken).any
        fun x =>
        x.2.status? = some .invalidState && ((x.1.device 2).state = .deleted &&
          .illegalMove ⟨.deleted, .deleted⟩ ∈ x.1.journal.notices)) (by decide +kernel)
  simp only [Bool.and_eq_true, decide_eq_true_eq] at h
  obtain ⟨⟨hstack, hknown, hremovable, hclean⟩, h⟩ := h
  obtain ⟨w, a, hw, ha⟩ := Run.Concludes.of_any (R := .free 0)
    (by simp [overtaken, Play.IsPermitted, Command.IsPermitted, Regime.free]) h
  simp only [Bool.and_eq_true, decide_eq_true_eq] at ha
  obtain ⟨hs, hg, hm⟩ := ha
  cases a with
  | answered s view =>
    obtain rfl : s = .invalidState := Option.some.inj hs
    exact ⟨c, w, view, hc, hstack, hknown, hremovable, hw, hg, hm, hclean⟩
  | _ => cases hs

end PnpBus
