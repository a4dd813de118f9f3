import Mathlib.Logic.Relation
import PnpBus.Proofs.Accounts

/-!
# The protocol of a remove lock

A lock is used by anybody who takes references, gives them back and drains. A
`LockLog` keeps, besides the world that the lock is in, what its users know:
the references that are held, whether a drain was begun, the drains that wait
and what was held when the others returned.
-/

namespace PnpBus

/-! ## A lock in a world -/

namespace World

variable {w : World} {l : LockRef} {m : RemoveLock}

def HasLock (w : World) : LockRef → Prop
  | .device d => d < w.devices.size
  | .free n => n < w.bench.locks.size

theorem lock_setLock_self (h : w.HasLock l) (m : RemoveLock) : (w.setLock l m).lock l = m := by
  cases l with
  | device d => rw [setLock, lock_device, device_updateDevice, if_pos ⟨rfl, h⟩]
  | free n => exact Table.get_modify_self h _

theorem hasLock_setLock (h : w.HasLock l) (m : RemoveLock) : (w.setLock l m).HasLock l := by
  cases l with
  | device d => rw [HasLock, setLock, size_updateDevice]; exact h
  | free n => rw [HasLock, setLock, updateBench, Table.size_modify]; exact h

def Locks (w : World) (l : LockRef) (m : RemoveLock) : Prop := w.HasLock l ∧ w.lock l = m

theorem Locks.set (h : w.HasLock l) (m : RemoveLock) : (w.setLock l m).Locks l m :=
  ⟨hasLock_setLock h m, lock_setLock_self h m⟩

theorem Locks.note (h : w.Locks l m) (n : Notice) : (w.note n).Locks l m := by
  cases l <;> exact h

theorem Locks.releaseLock (h : w.Locks l m) : (w.after (releaseLock l)).Locks l (m.release?.getD m) := by
  rw [after_releaseLock, h.2]
  cases m.release? with
  | none => exact h.note _
  | some n => exact .set h.1 n

theorem Locks.closeLock (h : w.Locks l m) :
    (w.after (closeLock l)).Locks l (if m.draining then m else m.close.release?.getD m.close) := by
  rw [after_closeLock, h.2]
  split
  · exact h
  · exact (Locks.set h.1 _).releaseLock

theorem Locks.acquireLock_open (h : w.Locks l m) (ho : m.draining = false) :
    (acquireLock l).run w = (.ok (), w.setLock l { m with count := m.count + 1 }) := by
  have ha : m.acquire? = some { m with count := m.count + 1 } := if_neg (by simp [ho])
  simp only [acquireLock, Act.run_bind, Act.run_get, h.2, ha]
  rfl

theorem Locks.acquireLock_closed (h : w.Locks l m) (hd : m.draining = true) :
    (acquireLock l).run w = (.error .deletePending, w) := by
  have ha : m.acquire? = none := if_pos hd
  simp only [acquireLock, Act.run_bind, Act.run_get, h.2, ha]
  rfl

end World

namespace RemoveLock

variable {m n : RemoveLock} {k : Nat}

theorem Counts.isDrained (h : m.Counts k) : m.isDrained = true ↔ m.draining = true ∧ k = 0 := by
  rw [RemoveLock.isDrained, Bool.and_eq_true, h.latch]
  exact ⟨And.right, fun h => ⟨h.1, h⟩⟩

theorem Counts.released_getD (h : m.Counts (k + 1)) :
    (m.release?.getD m).Counts k ∧ (m.release?.getD m).draining = m.draining := by
  obtain ⟨n, hn, hc, hd⟩ := h.released
  rw [hn]
  exact ⟨hc, hd⟩

/-- Closing gives back the reference that the lock has of its own, and does that once. -/
theorem Counts.closed (h : m.Counts k) :
    (if m.draining then m else m.close.release?.getD m.close).Counts k ∧
      (if m.draining then m else m.close.release?.getD m.close).draining = true := by
  split
  next hd => exact ⟨h, hd⟩
  next ho => exact (h.close (Bool.not_eq_true _ ▸ ho)).released_getD

/-- A drained lock stays drained, whatever comes back to it. -/
theorem isDrained_release (h : m.isDrained = true) : (m.release?.getD m).isDrained = true := by
  cases hr : m.release? with
  | none => exact h
  | some n =>
    rw [RemoveLock.isDrained, Bool.and_eq_true] at h
    rw [eq_of_release? hr, Option.getD_some, RemoveLock.isDrained, h.1, h.2]
    rfl

end RemoveLock

/-! ## Users of a lock -/

structure Drainer where
  on : Signal
  resume : World → Run Unit

structure LockLog where
  world : World
  /-- References that were taken and are not back yet. -/
  held : Nat := 0
  /-- A drain was begun. -/
  begun : Bool := false
  drainers : List Drainer := []
  /-- For each drain that returned, how many references were held then. -/
  returned : List Nat := []

namespace LockLog

def goOn (s : LockLog) : Run Unit → LockLog
  | .done w _ => { s with world := w, returned := s.held :: s.returned }
  | .via _ rest => s.goOn rest
  | .wait w on resume => { s with world := w, drainers := ⟨on, resume⟩ :: s.drainers }
  | .halt w _ => { s with world := w }

def acquire (s : LockLog) (l : LockRef) : LockLog :=
  match (acquireLock l).run s.world with
  | (.ok _, w) => { s with world := w, held := s.held + 1 }
  | (.error _, w) => { s with world := w }

def release (s : LockLog) (l : LockRef) : LockLog :=
  { s with world := s.world.after (releaseLock l), held := s.held - 1 }

def drain (s : LockLog) (l : LockRef) : LockLog := { s with begun := true }.goOn (PnpBus.drain l s.world)

/-- Something happens to a lock or around it. `Fair` users give back only what they took, and never hold more
references than the lock can count. -/
inductive Turn (l : LockRef) (fair : Prop) : LockLog → LockLog → Prop
  | acquire (s : LockLog) (h : fair → (s.acquire l).held < 2 ^ 32 - 1) : Turn l fair s (s.acquire l)
  | release (s : LockLog) (h : fair → 0 < s.held) : Turn l fair s (s.release l)
  | drain (s : LockLog) : Turn l fair s (s.drain l)
  | resume (s : LockLog) (fs : List Drainer) (f : Drainer) (gs : List Drainer) (hf : s.drainers = fs ++ f :: gs)
      (hset : s.world.isSet f.on = true) : Turn l fair s ({ s with drainers := fs ++ gs }.goOn (f.resume s.world))
  | aside (s : LockLog) (w : World) (hw : w.Locks l (s.world.lock l)) : Turn l fair s { s with world := w }

structure Sound (l : LockRef) (s : LockLog) : Prop where
  lock : s.world.HasLock l
  counts : (s.world.lock l).Counts s.held
  draining : (s.world.lock l).draining = s.begun
  waits : ∀ f ∈ s.drainers, s.begun = true ∧ f = ⟨.drained l, fun w => .done w ()⟩
  returned : ∀ n ∈ s.returned, n = 0

namespace Sound

variable {l : LockRef} {s : LockLog}

theorem initial {w : World} (h : w.Locks l {}) : Sound l ⟨w, 0, false, [], []⟩ where
  lock := h.1
  counts := by rw [h.2]; exact .default
  draining := by rw [h.2]
  waits := nofun
  returned := nofun

theorem locks (h : s.Sound l) : s.world.Locks l (s.world.lock l) := ⟨h.lock, rfl⟩

theorem acquireLock (h : s.Sound l) :
    ((acquireLock l).run s.world).1 = if s.begun then .error .deletePending else .ok () := by
  cases hb : s.begun with
  | true => rw [h.locks.acquireLock_closed (h.draining.trans hb)]; rfl
  | false => rw [h.locks.acquireLock_open (h.draining.trans hb)]; rfl

theorem acquire (h : s.Sound l) (hf : (s.acquire l).held < 2 ^ 32 - 1) : (s.acquire l).Sound l := by
  rw [LockLog.acquire] at hf ⊢
  cases hd : (s.world.lock l).draining with
  | true => rw [h.locks.acquireLock_closed hd]; exact h
  | false =>
    rw [h.locks.acquireLock_open hd] at hf ⊢
    have hm := World.Locks.set h.lock { s.world.lock l with count := (s.world.lock l).count + 1 }
    exact {
      lock := hm.1
      counts := by show RemoveLock.Counts _ _; rw [hm.2]; exact h.counts.acquired hd hf
      draining := by show RemoveLock.draining _ = _; rw [hm.2]; exact h.draining
      waits := h.waits
      returned := h.returned }

theorem release (h : s.Sound l) (hf : 0 < s.held) : (s.release l).Sound l := by
  have hm := h.locks.releaseLock
  obtain ⟨hc, hd⟩ := (show (s.world.lock l).Counts (s.held - 1 + 1) by
    rw [Nat.sub_add_cancel hf]; exact h.counts).released_getD
  rw [LockLog.release]
  exact {
    lock := hm.1
    counts := by rw [hm.2]; exact hc
    draining := by rw [hm.2, hd]; exact h.draining
    waits := h.waits
    returned := h.returned }

/-- A drain that finds the lock latched returns, and finds nothing held. -/
theorem goOn (h : s.Sound l) (hl : (s.world.lock l).latch = true) : (s.goOn (.done s.world ())).Sound l :=
  { h with
    returned := fun n hn => (List.mem_cons.mp hn).elim (fun e => e ▸ (h.counts.latch.mp hl).2) (h.returned n) }

theorem drain (h : s.Sound l) : (s.drain l).Sound l := by
  have hm := h.locks.closeLock
  obtain ⟨hc, hd⟩ := h.counts.closed
  have hs : Sound l { s with begun := true, world := s.world.after (closeLock l) } := {
    lock := hm.1
    counts := by rw [hm.2]; exact hc
    draining := by rw [hm.2]; exact hd
    waits := fun f hf => ⟨rfl, (h.waits f hf).2⟩
    returned := h.returned }
  rw [LockLog.drain, drain_apply]
  split
  next hl => exact hs.goOn hl
  next =>
    exact { hs with
      waits := fun f hf => (List.mem_cons.mp hf).elim (fun e => ⟨rfl, e⟩) (hs.waits f) }

theorem resume (h : s.Sound l) {fs gs : List Drainer} {f : Drainer} (hf : s.drainers = fs ++ f :: gs)
    (hset : s.world.isSet f.on = true) : ({ s with drainers := fs ++ gs }.goOn (f.resume s.world)).Sound l := by
  have hw := h.waits
  rw [hf] at hw
  obtain ⟨-, rfl⟩ := hw f (List.mem_append_right fs List.mem_cons_self)
  refine goOn (s := { s with drainers := fs ++ gs }) { h with waits := fun g hg => hw g ?_ } hset
  rw [List.mem_append, List.mem_cons]
  exact (List.mem_append.mp hg).imp_right .inr

theorem aside (h : s.Sound l) {w : World} (hw : w.Locks l (s.world.lock l)) : Sound l { s with world := w } :=
  { h with
    lock := hw.1
    counts := by rw [hw.2]; exact h.counts
    draining := by rw [hw.2]; exact h.draining }

end Sound

variable {l : LockRef} {fair : Prop} {s s' : LockLog}

theorem Turn.sound (ht : Turn l True s s') (h : s.Sound l) : s'.Sound l := by
  cases ht with
  | acquire hf => exact h.acquire (hf trivial)
  | release hf => exact h.release (hf trivial)
  | drain => exact h.drain
  | resume fs f gs hf hset => exact h.resume hf hset
  | aside w hw => exact h.aside hw

structure Drained (l : LockRef) (s : LockLog) : Prop where
  lock : s.world.HasLock l
  drained : (s.world.lock l).isDrained = true
  waits : ∀ f ∈ s.drainers, ∀ w, f.resume w = .done w ()

theorem Sound.to_drained (h : s.Sound l) (hd : (s.world.lock l).isDrained = true) : s.Drained l :=
  ⟨h.lock, hd, fun f hf w => by rw [(h.waits f hf).2]⟩

/-- Nobody can undo it, not even with releases that are not theirs to make. -/
theorem Turn.drained (ht : Turn l fair s s') (h : s.Drained l) : s'.Drained l := by
  have hm : s.world.Locks l (s.world.lock l) := ⟨h.lock, rfl⟩
  have hd := h.drained
  rw [RemoveLock.isDrained, Bool.and_eq_true] at hd
  cases ht with
  | acquire => rw [LockLog.acquire, hm.acquireLock_closed hd.1]; exact h
  | release =>
    have hr := hm.releaseLock
    exact ⟨hr.1, by rw [LockLog.release, hr.2]; exact RemoveLock.isDrained_release h.drained, h.waits⟩
  | drain =>
    have hc := hm.closeLock
    rw [if_pos hd.1] at hc
    rw [LockLog.drain, drain_apply, if_pos (by rw [hc.2]; exact hd.2)]
    exact ⟨hc.1, by rw [goOn, hc.2]; exact h.drained, h.waits⟩
  | resume fs f gs hf hset =>
    have hw := h.waits
    rw [hf] at hw
    rw [hw f (List.mem_append_right fs List.mem_cons_self)]
    refine ⟨h.lock, h.drained, fun g hg => hw g ?_⟩
    rw [List.mem_append, List.mem_cons]
    exact (List.mem_append.mp hg).imp_right .inr
  | aside w hw => exact ⟨hw.1, by rw [hw.2]; exact h.drained, h.waits⟩

abbrev Turns (l : LockRef) (fair : Prop) : LockLog → LockLog → Prop := Relation.ReflTransGen (Turn l fair)

theorem Turns.sound (ht : Turns l True s s') (h : s.Sound l) : s'.Sound l := by
  induction ht with
  | refl => exact h
  | tail _ ht ih => exact ht.sound ih

theorem Turns.drained (ht : Turns l fair s s') (h : s.Drained l) : s'.Drained l := by
  induction ht with
  | refl => exact h
  | tail _ ht ih => exact ht.drained ih

end LockLog

/-! ## Every course of a lock -/

/-- Whatever fair users do with a new lock, and however their drains wait for each other: the lock counts the
references that are held, gives out new ones until a drain is begun and none after that, and is drained when that
has happened and none is left. A drain returns only then, and one that waits can return then. Once drained, the lock
stays so even if its users are not fair any more. -/
theorem lock_protocol {w : World} {l : LockRef} {s : LockLog} (hl : w.HasLock l) (hw : w.lock l = {})
    (h : LockLog.Turns l True { world := w } s) :
    (s.world.lock l).outstanding.toNat = s.held ∧
    ((acquireLock l).run s.world).1 = (if s.begun then .error .deletePending else .ok ()) ∧
    ((s.world.lock l).isDrained = true ↔ s.begun = true ∧ s.held = 0) ∧
    (∀ n ∈ s.returned, n = 0) ∧
    (∀ f ∈ s.drainers, (s.world.isSet f.on = true ↔ s.held = 0) ∧ ∀ w, f.resume w = .done w ()) ∧
    ((s.world.lock l).isDrained = true →
      ∀ s', LockLog.Turns l False s s' → (s'.world.lock l).isDrained = true) := by
  have hs := h.sound (.initial ⟨hl, hw⟩)
  refine ⟨hs.counts.outstanding, hs.acquireLock, ?_, hs.returned, fun f hf => ?_, fun hd s' h' => ?_⟩
  · rw [hs.counts.isDrained, hs.draining]
  · obtain ⟨hb, rfl⟩ := hs.waits f hf
    exact ⟨hs.counts.latch.trans (and_iff_right (hs.draining.trans hb)), fun _ => rfl⟩
  · exact (h'.drained (hs.to_drained hd)).drained

def LockLog.contested : LockLog :=
  (((({ world := { bench := { locks := .push {} {} } } } : LockLog).acquire (.free 0)).drain (.free 0)).drain
    (.free 0)).release (.free 0)

/-- Both drains return. -/
theorem lock_protocol_of_two_drains :
    ∃ s, LockLog.Turns (.free 0) True { world := { bench := { locks := .push {} {} } } } s ∧ s.returned = [0, 0] ∧
      (s.world.lock (.free 0)).isDrained = true ∧
        ((acquireLock (.free 0)).run s.world).1 = .error .deletePending := by
  have hr : LockLog.Turns (.free 0) True { world := { bench := { locks := .push {} {} } } } LockLog.contested :=
    (((Relation.ReflTransGen.single (.acquire _ fun _ => by decide +kernel)).tail (.drain _)).tail (.drain _)).tail
      (.release _ fun _ => by decide +kernel)
  have hset : LockLog.contested.world.isSet (.drained (.free 0)) = true := by decide +kernel
  have h := (hr.tail (.resume _ [] ⟨.drained (.free 0), fun w => .done w ()⟩ _ rfl hset)).tail
    (.resume _ [] ⟨.drained (.free 0), fun w => .done w ()⟩ [] rfl hset)
  have hp := lock_protocol (w := { bench := { locks := .push {} {} } }) (l := .free 0) Nat.zero_lt_one rfl h
  exact ⟨_, h, rfl, hp.2.2.1.mpr ⟨rfl, rfl⟩, hp.2.1⟩

end PnpBus
