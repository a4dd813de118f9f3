import PnpBus.Proofs.Overflows

/-!
# What whole runs guarantee

Devices are registered until they are deleted, and deleted only when nobody
holds a reference any more. References and tickets are neither lost nor made
up. A removal that has closed a lock finishes, unless a cancel takes back the
departure of a functional device before its turn has come.
-/

namespace PnpBus

variable {R : Regime} {c : Config} {w : World} {d : DeviceId}

/-! ## Unloading a driver -/

section
variable (b : DriverId)

theorem unload_present (h : (w.driver b).registry.isEmpty = false) :
    ∃ w', (unload b).run w = .done w' (.error .busy) := by
  refine ⟨(w.note .entered).note (.devicesPresent (w.driver b).service (w.driver b).registry.size), ?_⟩
  have h' : ¬((w.note .entered).driver b).registry.isEmpty = true := by
    rw [show (w.note .entered).driver b = w.driver b from rfl, h]; exact nofun
  simp only [unload, Call.run_bind, Call.run_act, Act.notify_apply, Act.driver_apply, World.after,
    Run.bind, if_neg h']
  rfl

theorem unload_absent (h : (w.driver b).registry.isEmpty = true) :
    (unload b).run w = if (w.driver b).slot.held then .halt (w.note .entered) .deadlock
      else .done (((w.note .entered).after (setSlot b {})).note .left) (.ok ()) := by
  have h' : ((w.note .entered).driver b).registry.isEmpty = true := h
  have ho : openSlot b (w.note .entered) = if (w.driver b).slot.held then .halt (w.note .entered) .deadlock
    else .done (w.note .entered) (w.driver b).slot.installed := openSlot_apply b _
  simp only [unload, Call.run_bind, Call.run_act, Act.notify_apply, Act.driver_apply, World.after,
    Run.bind, if_pos h', Call.run_call, ho]
  split <;> rfl

end

theorem World.Sane.isEmpty_iff (h : w.Sane R) :
    (w.driver R.driver).registry.isEmpty = true ↔ ∀ d < w.devices.size, w.IsGone d := by
  refine ⟨fun he d hd => ?_, fun hg => ?_⟩
  · refine Classical.byContradiction fun hn => ?_
    have hr := (h.registered d hd).mpr hn
    rw [lookup, DeviceRegistry.findRole?_of_isEmpty he] at hr
    cases hr
  · rw [← Bool.not_eq_false]
    intro he
    obtain ⟨key, d, hk⟩ := DeviceRegistry.exists_of_not_isEmpty he
    obtain ⟨hd, rfl⟩ := h.entries key d hk
    exact (h.registered d hd).mp hk (hg d hd)

theorem unload_ok_iff (h : w.Sane R) {w' : World} {r : Except Status Unit}
    (hu : (unload R.driver).run w = .done w' r) : r = .ok () ↔ ∀ d < w.devices.size, w.IsGone d := by
  rw [← h.isEmpty_iff]
  cases he : (w.driver R.driver).registry.isEmpty with
  | false =>
    obtain ⟨w₁, hp⟩ := unload_present R.driver he
    rw [hp] at hu
    cases hu
    exact ⟨nofun, nofun⟩
  | true =>
    rw [unload_absent R.driver he] at hu
    split at hu
    · cases hu
    · cases hu; exact ⟨fun _ => rfl, fun _ => rfl⟩

theorem unload_returns (b : DriverId) (h : (w.driver b).slot.held = false) :
    ∃ w' r, (unload b).run w = .done w' r := by
  cases he : (w.driver b).registry.isEmpty with
  | false =>
    obtain ⟨w', hu⟩ := unload_present b he
    exact ⟨w', _, hu⟩
  | true => exact ⟨_, _, by rw [unload_absent b he, h]; rfl⟩

/-! ## Nobody holds what nobody counts -/

/-- Neither a request nor a client has a reference to `d`. -/
def World.IsUnheld (w : World) (d : DeviceId) : Prop :=
  (∀ r, d ∉ (w.request r).locks) ∧ ∀ n, w.clients.tokens.get n ≠ some d

theorem World.isUnheld_of_tokensOn (h : w.tokensOn d = 0) : w.IsUnheld d := by
  rw [tokensOn, Nat.add_eq_zero_iff] at h
  refine ⟨fun r => ?_, fun n hn => ?_⟩
  · exact List.count_eq_zero.mp (Table.of_sum_eq_zero h.1 rfl r)
  · have := Table.of_sum_eq_zero h.2 rfl n
    rw [hn] at this
    simp at this

/-! ## Drain, then delete -/

def removalOfPhysical : List Play := [
  .begin (.device (.create "A" "" (some 0))),
  .begin (.device (.acquire 0)),
  .begin (.request (.send 0 (.pnp .removeDevice) (some 0))),
  .begin (.device (.dropToken 0)),
  .resume]

theorem removalOfPhysical_isPermitted (R : Regime) (hR : R.driver = 0) :
    ∀ p ∈ removalOfPhysical, p.IsPermitted R := by
  simp [removalOfPhysical, Play.IsPermitted, Command.IsPermitted, Command.IsMild, hR]

/-- Throughout a run, a device is registered under its key until it is deleted, and it is deleted only once its lock
is drained. Nobody has a reference to it then, if no lock ever had more to count than it can. The driver can be
unloaded, unless its topology is being attached, when all devices are deleted and not before. -/
theorem registered_until_deleted (h : Reaches R c) :
    (∀ d < c.world.devices.size,
      (c.world.lookup R.driver (c.world.device d).key = some d ↔ (c.world.device d).state ≠ .deleted) ∧
      ((c.world.device d).state = .deleted →
        (c.world.device d).lock.isDrained = true ∧
        (R.bounded → (c.world.device d).lock.outstanding = 0 ∧ c.world.IsUnheld d))) ∧
    (∀ w r, (unload R.driver).run c.world = .done w r →
      (r = .ok () ↔ ∀ d < c.world.devices.size, (c.world.device d).state = .deleted)) ∧
    ((c.world.driver R.driver).slot.held = false → ∃ w r, (unload R.driver).run c.world = .done w r) := by
  have hs := h.sound.sane
  refine ⟨fun d hd => ⟨hs.registered d hd, fun hg => ?_⟩, fun w r hu => unload_ok_iff hs hu,
    unload_returns R.driver⟩
  have hl := (hs.sound d).drained hg
  refine ⟨hl, fun hb => ?_⟩
  have hc := (h.sound.balanced hb).locks d
  rw [List.count_nil, Nat.add_zero] at hc
  rw [RemoveLock.isDrained, Bool.and_eq_true] at hl
  have hz : c.world.tokensOn d = 0 := (hc.latch.mp hl.2).2
  have ho := hc.outstanding
  rw [hz] at ho
  exact ⟨UInt32.toNat_inj.mp ho, World.isUnheld_of_tokensOn hz⟩

theorem registered_until_deleted_of_removal :
    ∃ c, Reaches ⟨0, True, True⟩ c ∧ (c.world.device 0).state = .deleted ∧
      c.world.lookup 0 (c.world.device 0).key ≠ some 0 ∧ c.world.IsUnheld 0 := by
  obtain ⟨c, hc, h⟩ := Reaches.of_play World.isFresh_initial (removalOfPhysical_isPermitted ⟨0, True, True⟩ rfl)
    (q := fun c => 0 < c.world.devices.size && (c.world.device 0).state = .deleted) (by decide +kernel)
  rw [Bool.and_eq_true, decide_eq_true_eq, decide_eq_true_eq] at h
  have hd := (registered_until_deleted hc).1 0 h.1
  exact ⟨c, hc, h.2, fun hl => hd.1.mp hl h.2, ((hd.2 h.2).2 trivial).2⟩

/-- Clients have taken so many references to the device that the count came round to zero, and a removal does not
wait for them. And a driver without devices is not unloaded while it attaches its topology. -/
theorem deleted_while_held :
    (∃ c, Reaches (.free 0) c ∧ 0 < c.world.devices.size ∧ (c.world.device 0).state = .deleted ∧
      ¬c.world.IsUnheld 0) ∧
    ∃ c w, Reaches ⟨0, True, True⟩ c ∧ c.world.devices.size = 0 ∧ (unload 0).run c.world = .halt w .deadlock := by
  constructor
  · obtain ⟨w, _, hw, hd, hs, ht⟩ := (World.reaches_crowded (2 ^ 32 - 1)).ends
      (c := .request (.send 0 (.pnp .removeDevice) (some 0))) rfl
      (q := fun w _ => 0 < w.devices.size ∧ (w.device 0).state = .deleted ∧ w.clients.tokens.get 0 = some 0)
      (by decide +kernel)
    exact ⟨_, hw, hd, hs, fun hu => hu.2 0 ht⟩
  · obtain ⟨c, hc, h⟩ := Reaches.of_play (R := ⟨0, True, True⟩)
      (l := [.begin (.driver (.attachTopology [] 1 (some 0)))]) World.isFresh_initial
      (by simp [Play.IsPermitted, Command.IsPermitted, Command.IsMild])
      (q := fun c => c.world.devices.size = 0 &&
        ((c.world.driver 0).registry.isEmpty && (c.world.driver 0).slot.held))
      (by decide +kernel)
    simp only [Bool.and_eq_true, decide_eq_true_eq] at h
    obtain ⟨hn, he, hheld⟩ := h
    exact ⟨c, _, hc, hn, by rw [unload_absent 0 he, if_pos hheld]⟩

/-! ## References and tickets -/

/-- Throughout a run in which no lock ever has more to count than it can, every lock counts the references on its
device, besides its own, and every gate the tickets for it. -/
theorem references_conserved (hb : R.bounded) (h : Reaches R c) :
    (∀ d, (c.world.device d).lock.count.toNat =
        c.world.tokensOn d + (if (c.world.device d).lock.draining then 0 else 1) ∧
      (c.world.device d).lock.outstanding.toNat = c.world.tokensOn d ∧
      ((c.world.device d).lock.latch = true ↔ (c.world.device d).lock.draining = true ∧ c.world.tokensOn d = 0)) ∧
    (∀ d, (c.world.gate (.device d)).inFlight.toNat = c.world.ticketsOn (.device d)) ∧
    c.world.IsClean := by
  have hbal := h.sound.balanced hb
  refine ⟨fun d => ?_, fun d => hbal.gates (.device d), hbal.clean⟩
  have hc := hbal.locks d
  rw [List.count_nil, Nat.add_zero] at hc
  exact ⟨hc.count, hc.outstanding, hc.latch⟩

theorem references_conserved_of_acquire :
    ∃ c, Reaches ⟨0, True, True⟩ c ∧ c.world.tokensOn 0 = 1 ∧ (c.world.device 0).lock.count.toNat = 2 := by
  obtain ⟨c, hc, h⟩ := Reaches.of_play (l := removalOfPhysical.take 2) World.isFresh_initial
    (fun p hp => removalOfPhysical_isPermitted ⟨0, True, True⟩ rfl p (List.mem_of_mem_take hp))
    (q := fun c => c.world.tokensOn 0 = 1 && !(c.world.device 0).lock.draining) (by decide +kernel)
  rw [Bool.and_eq_true, decide_eq_true_eq, Bool.not_eq_true'] at h
  have hcount := ((references_conserved trivial hc).1 0).1
  rw [h.1, h.2] at hcount
  exact ⟨c, hc, h.1, hcount⟩

/-! ## Removals finish -/

/-- When no removal is under way, a device that gives out no references is deleted and no longer registered. The
one exception is a functional device whose departure a cancel took back. -/
theorem removals_finish (h : Reaches R c) (hq : ∀ f ∈ c.suspended, ¬f.IsRemoval)
    (hd : (c.world.device d).lock.draining = true) :
    ((c.world.device d).state = .deleted ∧ c.world.lookup R.driver (c.world.device d).key ≠ some d) ∨
    (¬R.sparing ∧ (c.world.device d).role = .functional ∧ ¬c.world.IsDeparting d) := by
  have hs := h.sound
  by_cases hg : c.world.IsGone d
  · exact .inl ⟨hg, fun he => (hs.sane.registered d hg.size).mp he hg⟩
  have hl : ¬c.world.IsLeaving d := fun hl => by
    obtain ⟨f, hf, hr, -⟩ := hs.owed d ⟨hd, hl⟩
    exact hq f hf hr
  have hdep : ¬c.world.IsDeparting d := fun h => h.elim hl hg
  have hc := mt ((hs.sane.sound d).closing · hd) hdep
  refine .inr ⟨fun hsp => hc (.inl hsp), ?_, hdep⟩
  cases hr : (c.world.device d).role with
  | functional => rfl
  | physical => exact absurd (.inr hr) hc

theorem removals_finish_of_removal :
    ∃ c, Reaches ⟨0, True, True⟩ c ∧ (c.world.device 0).lock.draining = true ∧ (c.world.device 0).state = .deleted ∧
      c.world.lookup 0 (c.world.device 0).key ≠ some 0 := by
  obtain ⟨c, hc, h⟩ := Reaches.of_play World.isFresh_initial (removalOfPhysical_isPermitted ⟨0, True, True⟩ rfl)
    (q := fun c => c.suspended.isEmpty && (c.world.device 0).lock.draining) (by decide +kernel)
  rw [Bool.and_eq_true, List.isEmpty_iff] at h
  have hq : ∀ f ∈ c.suspended, ¬f.IsRemoval := by rw [h.1]; exact nofun
  have hd := (removals_finish hc hq h.2).resolve_right fun e => e.1 trivial
  exact ⟨c, hc, h.2, hd⟩

/-- A functional device that has a child is removed. While the child is drained, a cancel takes back the departure
of the device, which is then drained itself and cannot be deleted. -/
def removalTakenBack : List Play := [
  .begin (.device (.create "A" "" (some 0))),
  .begin (.device (.attach 0 (some 0))),
  .begin (.device (.addChild 1 "B" "" (some 0))),
  .begin (.device (.acquire 2)),
  .begin (.request (.send 1 (.pnp .removeDevice) (some 0))),
  .begin (.request (.send 1 (.pnp .cancelRemoveDevice) (some 0))),
  .begin (.device (.dropToken 0)),
  .resume]

theorem removal_taken_back_leaves_device :
    ∃ c, Reaches ⟨0, True, False⟩ c ∧ c.suspended = [] ∧ (c.world.device 1).lock.draining = true ∧
      (c.world.device 1).state = .added ∧ c.world.lookup 0 (c.world.device 1).key = some 1 := by
  obtain ⟨c, hc, h⟩ := Reaches.of_play (R := ⟨0, True, False⟩) (l := removalTakenBack) World.isFresh_initial
    (by simp [removalTakenBack, Play.IsPermitted, Command.IsPermitted])
    (q := fun c => c.suspended.isEmpty && ((c.world.device 1).lock.draining && ((c.world.device 1).state = .added &&
      c.world.lookup 0 (c.world.device 1).key = some 1))) (by decide +kernel)
  simp only [Bool.and_eq_true, List.isEmpty_iff, decide_eq_true_eq] at h
  exact ⟨c, hc, h⟩

end PnpBus
