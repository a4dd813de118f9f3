import PnpBus.Proofs.Locks

/-!
# References that nobody took

A lock is told about a reference that comes back, not about who took it. Its
users may give back more than they took: then a lock that counts nothing any
more takes note of it and stays as it is. But an open lock counts a reference
of its own. The first surplus release that finds nothing else takes that one,
and from there on the lock is latched, whoever holds references, and notes one
surplus release too few until some other release is taken for it.
-/

namespace PnpBus

/-! ## Locks that are one short -/

/-- The lock counts the references that are held and its own, less those that are missing. -/
structure RemoveLock.Short (m : RemoveLock) (held missing : Nat) : Prop where
  count : m.count.toNat + missing = held + if m.draining then 0 else 1
  missing : missing ≤ 1

namespace RemoveLock

variable {m n : RemoveLock} {k missing : Nat}

theorem toNat_count_of_release? (h : m.release? = some n) :
    n.count.toNat + 1 = m.count.toNat ∧ n.draining = m.draining := by
  have h0 : m.count ≠ 0 := fun e => by rw [release?_eq_none.mpr e] at h; cases h
  have hpos : m.count.toNat ≠ 0 := fun e => h0 (UInt32.toNat_inj.mp e)
  obtain rfl := eq_of_release? h
  have hle : 1 ≤ m.count := by
    rw [UInt32.le_iff_toNat_le]
    exact Nat.one_le_iff_ne_zero.mpr hpos
  refine ⟨?_, rfl⟩
  show (m.count - 1).toNat + 1 = _
  rw [UInt32.toNat_sub_of_le _ _ hle]
  exact Nat.sub_add_cancel (Nat.one_le_iff_ne_zero.mpr hpos)

namespace Short

theorem acquired (h : m.Short k missing) (ho : m.draining = false) (hk : k + 1 < 2 ^ 32 - 1) :
    Short { m with count := m.count + 1 } (k + 1) missing := by
  have hc := h.count
  rw [ho, if_neg Bool.false_ne_true] at hc
  refine ⟨?_, h.missing⟩
  simp only [ho, Bool.false_eq_true, if_false, UInt32.toNat_add, UInt32.toNat_one]
  rw [Nat.mod_eq_of_lt (by omega)]
  omega

/-- One reference comes back that is held. If the lock does not know of it, that is because one is missing. -/
theorem returned (h : m.Short (k + 1) missing) :
    (∃ n, m.release? = some n ∧ n.Short k missing ∧ n.draining = m.draining) ∨
    (m.release? = none ∧ missing = 1 ∧ m.Short k 0) := by
  have hc := h.count
  have hm := h.missing
  cases hr : m.release? with
  | some n =>
    obtain ⟨hn, hd⟩ := toNat_count_of_release? hr
    refine .inl ⟨n, rfl, ⟨?_, hm⟩, hd⟩
    rw [hd]
    omega
  | none =>
    rw [release?_eq_none.mp hr, UInt32.toNat_zero] at hc
    refine .inr ⟨rfl, by omega, ⟨?_, Nat.zero_le 1⟩⟩
    rw [release?_eq_none.mp hr, UInt32.toNat_zero]
    omega

/-- One reference comes back that is not held. An open lock gives away its own, unless that is gone already. -/
theorem surplus (h : m.Short 0 missing) :
    (∃ n, m.release? = some n ∧ m.draining = false ∧ missing = 0 ∧ n.Short 0 1 ∧ n.draining = m.draining) ∨
    m.release? = none := by
  have hc := h.count
  cases hr : m.release? with
  | none => exact .inr rfl
  | some n =>
    obtain ⟨hn, hd⟩ := toNat_count_of_release? hr
    have ho : m.draining = false := by
      cases hm : m.draining with
      | false => rfl
      | true =>
        rw [hm, if_pos rfl] at hc
        omega
    rw [ho, if_neg Bool.false_ne_true] at hc
    refine .inl ⟨n, rfl, ho, by omega, ⟨?_, Nat.le_refl 1⟩, hd⟩
    rw [hd, ho, if_neg Bool.false_ne_true]
    omega

theorem close (h : m.Short k missing) (ho : m.draining = false) : m.close.Short (k + 1) missing := by
  have hc := h.count
  rw [ho, if_neg Bool.false_ne_true] at hc
  exact ⟨hc, h.missing⟩

end Short

theorem latch_release? (h : m.release? = some n) (hl : m.latch = true) : n.latch = true := by
  rw [eq_of_release? h, hl]
  rfl

end RemoveLock

/-! ## What comes back -/

theorem World.journal_setLock (w : World) (l : LockRef) (m : RemoveLock) : (w.setLock l m).journal = w.journal := by
  cases l <;> rfl

/-- A reference came back, or the lock gave back its own when it was closed. -/
structure Return where
  /-- Somebody had taken it. -/
  due : Bool
  before : World
  after : World

namespace Return

variable {l : LockRef} {r : Return} {w : World} {due : Bool} {m : RemoveLock}

def isNoticed (r : Return) : Bool := r.after.journal.notices = r.before.journal.notices ++ [.surplusRelease]

/-- It had not been taken, and the lock was open. -/
def IsSurplusOpen (l : LockRef) (r : Return) : Prop := r.due = false ∧ (r.before.lock l).draining = false

instance (l : LockRef) (r : Return) : Decidable (r.IsSurplusOpen l) :=
  inferInstanceAs (Decidable (r.due = false ∧ (r.before.lock l).draining = false))

/-- It was reported if it had not been taken, and nothing else has come of it then. -/
def IsTidy (r : Return) : Prop :=
  if r.due then r.after.journal = r.before.journal else r.after = r.before.note .surplusRelease

/-- The lock has given away its own reference, and has not reported that. -/
def TakesBias (l : LockRef) (r : Return) : Prop :=
  r.due = false ∧ r.before.lock l = {} ∧ r.after = r.before.setLock l { count := 0, latch := true }

theorem isNoticed_of_journal (h : r.after.journal = r.before.journal) : r.isNoticed = false := by
  unfold isNoticed
  rw [h]
  simp

theorem isNoticed_setLock : isNoticed ⟨due, w, w.setLock l m⟩ = false :=
  isNoticed_of_journal (w.journal_setLock l m)

theorem IsTidy.isNoticed (h : r.IsTidy) : r.isNoticed = !r.due := by
  unfold IsTidy at h
  cases hd : r.due with
  | true =>
    rw [hd, if_pos rfl] at h
    exact isNoticed_of_journal h
  | false =>
    rw [hd, if_neg Bool.false_ne_true] at h
    unfold Return.isNoticed
    rw [h]
    exact decide_eq_true rfl

end Return

namespace World

variable {l : LockRef} {m : RemoveLock} {due : Bool} {k missing : Nat} {v w : World}

def HasBack (l : LockRef) (m : RemoveLock) (k owed : Nat) (r : Return) : Prop :=
  ∃ n missing, r.after.Locks l n ∧ n.draining = m.draining ∧ (m.latch = true → n.latch = true) ∧ n.Short k missing ∧
    r.isNoticed.toNat + missing = owed

theorem HasBack.kept {n : RemoveLock} {owed : Nat} (hw : w.HasLock l) (hn : m.release? = some n)
    (hd : n.draining = m.draining) (hs : n.Short k owed) (hv : v.journal = w.journal) :
    HasBack l m k owed ⟨due, v, w.setLock l n⟩ := by
  have hsilent : Return.isNoticed ⟨due, v, w.setLock l n⟩ = false :=
    Return.isNoticed_of_journal ((World.journal_setLock ..).trans hv.symm)
  refine ⟨n, owed, .set hw n, hd, RemoveLock.latch_release? hn, hs, ?_⟩
  rw [hsilent]
  exact Nat.zero_add owed

theorem HasBack.reported (hw : w.Locks l m) (hs : m.Short k missing) (hv : v.journal = w.journal) :
    HasBack l m k (missing + 1) ⟨due, v, w.note .surplusRelease⟩ := by
  have hnoticed : Return.isNoticed ⟨due, v, w.note .surplusRelease⟩ = true := by
    unfold Return.isNoticed
    rw [hv]
    exact decide_eq_true rfl
  refine ⟨m, missing, hw.note _, rfl, id, hs, ?_⟩
  rw [hnoticed]
  exact Nat.add_comm 1 missing

/-- It was held. If the lock does not know of it, that makes up for the one that was missing. -/
theorem HasBack.of_held (hw : w.Locks l m) (hs : m.Short (k + 1) missing) (hv : v.journal = w.journal) :
    HasBack l m k missing ⟨due, v, w.after (releaseLock l)⟩ := by
  rw [after_releaseLock, hw.2]
  obtain ⟨n, hn, hs', hd⟩ | ⟨hn, rfl, hs'⟩ := hs.returned
  · rw [hn]
    exact .kept hw.1 hn hd hs' hv
  · rw [hn]
    exact .reported hw hs' hv

/-- It was not held. -/
theorem HasBack.of_surplus (hw : w.Locks l m) (hs : m.Short 0 missing) (hv : v.journal = w.journal) :
    HasBack l m 0 (missing + 1) ⟨due, v, w.after (releaseLock l)⟩ := by
  rw [after_releaseLock, hw.2]
  obtain ⟨n, hn, -, rfl, hs, hd⟩ | hn := hs.surplus
  · rw [hn]
    exact .kept hw.1 hn hd hs hv
  · rw [hn]
    exact .reported hw hs hv

/-- The lock gives back its own reference when it is closed. -/
theorem HasBack.of_close (hw : w.Locks l m) (hs : m.Short k missing) (ho : m.draining = false) :
    HasBack l m.close k missing ⟨due, w, w.after (closeLock l)⟩ := by
  have hclosed : (w.setLock l m.close).Locks l m.close := .set hw.1 _
  rw [after_closeLock, hw.2, if_neg (by rw [ho]; nofun)]
  exact .of_held hclosed (hs.close ho) (World.journal_setLock ..).symm

end World

/-! ## Users that are not fair -/

/-- The log of a lock, with everything that came back to it, the latest first. -/
structure ReturnLog where
  log : LockLog
  returns : List Return := []

namespace ReturnLog

def surplus (s : ReturnLog) : Nat := s.returns.countP (!·.due)

def noticed (s : ReturnLog) : Nat := s.returns.countP (·.isNoticed)

theorem surplus_cons (log : LockLog) (r : Return) (s : ReturnLog) :
    surplus ⟨log, r :: s.returns⟩ = s.surplus + (!r.due).toNat := by
  unfold surplus
  rw [List.countP_cons]
  cases r.due <;> rfl

theorem noticed_cons (log : LockLog) (r : Return) (s : ReturnLog) :
    noticed ⟨log, r :: s.returns⟩ = s.noticed + r.isNoticed.toNat := by
  unfold noticed
  rw [List.countP_cons]
  cases r.isNoticed <;> rfl

def release (s : ReturnLog) (l : LockRef) : ReturnLog where
  log := s.log.release l
  returns := ⟨0 < s.log.held, s.log.world, s.log.world.after (releaseLock l)⟩ :: s.returns

def drain (s : ReturnLog) (l : LockRef) : ReturnLog where
  log := s.log.drain l
  returns := ⟨true, s.log.world, s.log.world.after (closeLock l)⟩ :: s.returns

/-- Something happens to a lock or around it. Its users give back what they like, but never hold more references
than the lock can count. -/
inductive Use (l : LockRef) : ReturnLog → ReturnLog → Prop
  | acquire (s : ReturnLog) (h : (s.log.acquire l).held < 2 ^ 32 - 1) : Use l s { s with log := s.log.acquire l }
  | release (s : ReturnLog) : Use l s (s.release l)
  | drain (s : ReturnLog) : Use l s (s.drain l)
  | resume (s : ReturnLog) (fs : List Drainer) (f : Drainer) (gs : List Drainer)
      (hf : s.log.drainers = fs ++ f :: gs) (hset : s.log.world.isSet f.on = true) :
      Use l s { s with log := { s.log with drainers := fs ++ gs }.goOn (f.resume s.log.world) }
  | aside (s : ReturnLog) (w : World) (hw : w.Locks l (s.log.world.lock l)) :
      Use l s { s with log := { s.log with world := w } }

abbrev Uses (l : LockRef) : ReturnLog → ReturnLog → Prop := Relation.ReflTransGen (Use l)

variable {l : LockRef} {s s' : ReturnLog}

theorem release_held (h : 0 < s.log.held) : s.release l =
    ⟨s.log.release l, ⟨true, s.log.world, s.log.world.after (releaseLock l)⟩ :: s.returns⟩ := by
  rw [release, decide_eq_true h]

theorem release_none (h : s.log.held = 0) : s.release l =
    ⟨{ s.log with world := s.log.world.after (releaseLock l) },
      ⟨false, s.log.world, s.log.world.after (releaseLock l)⟩ :: s.returns⟩ := by
  have hh : s.log.held - 1 = s.log.held := by rw [h]
  rw [release, LockLog.release, hh, decide_eq_false (by rw [h]; exact Nat.lt_irrefl 0)]

/-! ## As long as the lock has its own reference -/

/-- No surplus release has come to the open lock. -/
structure Intact (l : LockRef) (s : ReturnLog) : Prop where
  sound : s.log.Sound l
  returns : ∀ r ∈ s.returns, r.IsTidy ∧ ¬r.IsSurplusOpen l

theorem Intact.noticed_eq (h : s.Intact l) : s.noticed = s.surplus :=
  List.countP_congr fun r hr => by rw [(h.returns r hr).1.isNoticed]

theorem Intact.cons {log : LockLog} {r : Return} (h : s.Intact l) (hl : log.Sound l) (ht : r.IsTidy)
    (hr : ¬r.IsSurplusOpen l) :
    Intact l ⟨log, r :: s.returns⟩ where
  sound := hl
  returns x hx := (List.mem_cons.mp hx).elim (fun e => e ▸ ⟨ht, hr⟩) (h.returns x)

theorem Intact.release_held (h : s.Intact l) (hh : 0 < s.log.held) : (s.release l).Intact l := by
  rw [ReturnLog.release_held hh]
  refine h.cons (h.sound.release hh) ?_ nofun
  obtain ⟨k, hk⟩ := Nat.exists_eq_succ_of_ne_zero (Nat.ne_of_gt hh)
  obtain ⟨n, hn, -⟩ := (hk ▸ h.sound.counts).released
  rw [Return.IsTidy, if_pos rfl]
  dsimp only
  rw [World.after_releaseLock, hn]
  exact World.journal_setLock ..

/-- A closed lock that counts nothing has nothing to give away. -/
theorem Intact.release_closed (h : s.Intact l) (hh : s.log.held = 0) (hb : s.log.begun = true) :
    (s.release l).Intact l := by
  have hclosed : (s.log.world.lock l).draining = true := h.sound.draining.trans hb
  have hnone : (s.log.world.lock l).release? = none := by
    apply RemoveLock.release?_eq_none.mpr
    apply UInt32.toNat_inj.mp
    rw [h.sound.counts.count, hclosed, hh]
    rfl
  have hafter : s.log.world.after (releaseLock l) = s.log.world.note .surplusRelease := by
    rw [World.after_releaseLock, hnone]
  rw [ReturnLog.release_none hh, hafter]
  refine h.cons (h.sound.aside (h.sound.locks.note _)) ?_ fun hx => ?_
  · rw [Return.IsTidy, if_neg Bool.false_ne_true]
  · have ho : (s.log.world.lock l).draining = false := hx.2
    rw [hclosed] at ho
    cases ho

theorem Intact.drain (h : s.Intact l) : (s.drain l).Intact l := by
  refine h.cons h.sound.drain ?_ nofun
  rw [Return.IsTidy, if_pos rfl]
  dsimp only
  rw [World.after_closeLock]
  split
  next => rfl
  next ho =>
    obtain ⟨n, hn, -⟩ := (h.sound.counts.close (Bool.not_eq_true _ ▸ ho)).released
    have hlock := World.lock_setLock_self h.sound.lock (s.log.world.lock l).close
    rw [World.after_releaseLock, hlock, hn]
    exact (World.journal_setLock ..).trans (World.journal_setLock ..)

/-! ## Once it is gone -/

/-- A surplus release has come to the open lock. -/
structure BiasTaken (l : LockRef) (s : ReturnLog) : Prop where
  lock : s.log.world.HasLock l
  draining : (s.log.world.lock l).draining = s.log.begun
  latch : (s.log.world.lock l).latch = true
  short : ∃ missing, (s.log.world.lock l).Short s.log.held missing ∧ s.noticed + missing = s.surplus
  waits : ∀ f ∈ s.log.drainers, f = ⟨.drained l, fun w => .done w ()⟩
  bias : ∃ newer r older, s.returns = newer ++ r :: older ∧ r.TakesBias l ∧ ∀ x ∈ older, x.IsTidy ∧
    ¬x.IsSurplusOpen l

namespace BiasTaken

theorem locks (h : s.BiasTaken l) : s.log.world.Locks l (s.log.world.lock l) := ⟨h.lock, rfl⟩

theorem bias_cons (h : s.BiasTaken l) (r : Return) : ∃ newer r' older, r :: s.returns = newer ++ r' :: older ∧
    r'.TakesBias l ∧ ∀ x ∈ older, x.IsTidy ∧ ¬x.IsSurplusOpen l := by
  obtain ⟨newer, r', older, he, ht⟩ := h.bias
  exact ⟨r :: newer, r', older, by rw [he]; rfl, ht⟩

theorem acquire (h : s.BiasTaken l) (hf : (s.log.acquire l).held < 2 ^ 32 - 1) :
    BiasTaken l { s with log := s.log.acquire l } := by
  unfold LockLog.acquire at hf ⊢
  cases hd : (s.log.world.lock l).draining with
  | true => rw [h.locks.acquireLock_closed hd]; exact h
  | false =>
    rw [h.locks.acquireLock_open hd] at hf ⊢
    obtain ⟨missing, hs, hn⟩ := h.short
    have hm := World.Locks.set h.lock { s.log.world.lock l with count := (s.log.world.lock l).count + 1 }
    exact {
      lock := hm.1
      draining := by show RemoveLock.draining _ = _; rw [hm.2]; exact h.draining
      latch := by show RemoveLock.latch _ = _; rw [hm.2]; exact h.latch
      short := ⟨missing, by show RemoveLock.Short _ _ _; rw [hm.2]; exact hs.acquired hd hf, hn⟩
      waits := h.waits
      bias := h.bias }

theorem cons {log : LockLog} {r : Return} {m : RemoveLock} {missing : Nat} (h : s.BiasTaken l)
    (hn : s.noticed + missing = s.surplus) (hb : World.HasBack l m log.held (missing + (!r.due).toNat) r)
    (hw : r.after = log.world) (hd : m.draining = log.begun) (hl : m.latch = true)
    (hf : ∀ f ∈ log.drainers, f = ⟨.drained l, fun w => .done w ()⟩) : BiasTaken l ⟨log, r :: s.returns⟩ := by
  obtain ⟨n, missing', hlock, hnd, hnl, hshort, hsum⟩ := hb
  rw [hw] at hlock
  refine ⟨hlock.1, by rw [hlock.2, hnd, hd], by rw [hlock.2]; exact hnl hl, ⟨missing', ?_, ?_⟩, hf, h.bias_cons r⟩
  · rw [hlock.2]
    exact hshort
  · rw [noticed_cons, surplus_cons]
    omega

theorem release (h : s.BiasTaken l) : (s.release l).BiasTaken l := by
  obtain ⟨missing, hs, hn⟩ := h.short
  by_cases hh : 0 < s.log.held
  · obtain ⟨k, hk⟩ := Nat.exists_eq_succ_of_ne_zero (Nat.ne_of_gt hh)
    rw [release_held hh, LockLog.release, hk, Nat.succ_sub_one]
    rw [hk] at hs
    exact h.cons hn (.of_held h.locks hs rfl) rfl h.draining h.latch h.waits
  · have hz := Nat.eq_zero_of_not_pos hh
    rw [release_none hz]
    rw [hz] at hs
    have hback : World.HasBack l (s.log.world.lock l) 0 (missing + 1)
        ⟨false, s.log.world, s.log.world.after (releaseLock l)⟩ := .of_surplus h.locks hs rfl
    rw [← hz] at hback
    exact h.cons hn hback rfl h.draining h.latch h.waits

/-- A drain returns at once, whoever holds references. -/
theorem drain_log (h : s.BiasTaken l) : s.log.drain l =
    { s.log with
      world := s.log.world.after (closeLock l)
      begun := true
      returned := s.log.held :: s.log.returned } := by
  have hlatch : ((s.log.world.after (closeLock l)).lock l).latch = true := by
    rw [h.locks.closeLock.2]
    split
    · exact h.latch
    · cases hr : (s.log.world.lock l).close.release? with
      | none => exact h.latch
      | some n => exact RemoveLock.latch_release? hr h.latch
  rw [LockLog.drain, drain_apply, if_pos hlatch]
  rfl

theorem drain (h : s.BiasTaken l) : (s.drain l).BiasTaken l := by
  obtain ⟨missing, hs, hn⟩ := h.short
  rw [ReturnLog.drain, h.drain_log]
  cases hd : (s.log.world.lock l).draining with
  | true =>
    have hsame : s.log.world.after (closeLock l) = s.log.world := by rw [World.after_closeLock, if_pos hd]
    have hsilent : Return.isNoticed ⟨true, s.log.world, s.log.world⟩ = false := Return.isNoticed_of_journal rfl
    rw [hsame]
    refine h.cons (m := s.log.world.lock l) hn ⟨_, missing, h.locks, rfl, id, hs, ?_⟩ rfl hd h.latch h.waits
    rw [hsilent]
    exact Nat.zero_add missing
  | false => exact h.cons hn (.of_close h.locks hs hd) rfl rfl h.latch h.waits

theorem resume (h : s.BiasTaken l) {fs gs : List Drainer} {f : Drainer} (hf : s.log.drainers = fs ++ f :: gs) :
    BiasTaken l { s with log := { s.log with drainers := fs ++ gs }.goOn (f.resume s.log.world) } := by
  have hw := h.waits
  rw [hf] at hw
  rw [hw f (List.mem_append_right fs List.mem_cons_self)]
  refine { h with waits := fun g hg => hw g ?_ }
  rw [List.mem_append, List.mem_cons]
  exact (List.mem_append.mp hg).imp_right .inr

theorem aside (h : s.BiasTaken l) {w : World} (hw : w.Locks l (s.log.world.lock l)) :
    BiasTaken l { s with log := { s.log with world := w } } :=
  { h with
    lock := hw.1
    draining := by rw [hw.2]; exact h.draining
    latch := by rw [hw.2]; exact h.latch
    short := by rw [hw.2]; exact h.short }

end BiasTaken

/-! ## Every course of the lock -/

/-- A surplus release to an open lock that counts nothing takes the reference of the lock itself. -/
theorem Intact.biasTaken (h : s.Intact l) (hh : s.log.held = 0) (hb : s.log.begun = false) :
    (s.release l).BiasTaken l := by
  have hopen : (s.log.world.lock l).draining = false := h.sound.draining.trans hb
  have hlock : s.log.world.lock l = {} := by
    have hc := h.sound.counts.count
    have hl := h.sound.counts.latch
    rcases hm : s.log.world.lock l with ⟨count, draining, latch⟩
    rw [hm] at hopen hc hl
    cases (show draining = false from hopen)
    have hcount : count = 1 := by
      apply UInt32.toNat_inj.mp
      rw [hh] at hc
      exact hc
    have hlatch : latch = false := by
      cases latch with
      | false => rfl
      | true => cases (hl.mp rfl).1
    rw [hcount, hlatch]
  have hafter : s.log.world.after (releaseLock l) = s.log.world.setLock l { count := 0, latch := true } := by
    rw [World.after_releaseLock, hlock]
    rfl
  have hm := World.Locks.set h.sound.lock { count := 0, latch := true }
  rw [release_none hh, hafter]
  refine ⟨hm.1, ?_, by rw [hm.2], ⟨1, ?_, ?_⟩, fun f hf => (h.sound.waits f hf).2, [], _, s.returns, rfl,
    ⟨rfl, hlock, rfl⟩, h.returns⟩
  · rw [hm.2]
    exact hb.symm
  · rw [hm.2]
    exact ⟨by rw [hh]; rfl, Nat.le_refl 1⟩
  · rw [noticed_cons, surplus_cons, h.noticed_eq, Return.isNoticed_setLock]
    rfl

theorem Use.intact_or_biasTaken (hu : Use l s s') (h : s.Intact l ∨ s.BiasTaken l) : s'.Intact l ∨
    s'.BiasTaken l := by
  rcases h with h | h
  case inl =>
    cases hu with
    | acquire hf => exact .inl ⟨h.sound.acquire hf, h.returns⟩
    | release =>
      by_cases hh : 0 < s.log.held
      · exact .inl (h.release_held hh)
      have hz := Nat.eq_zero_of_not_pos hh
      cases hb : s.log.begun with
      | true => exact .inl (h.release_closed hz hb)
      | false => exact .inr (h.biasTaken hz hb)
    | drain => exact .inl h.drain
    | resume fs f gs hf hset => exact .inl ⟨h.sound.resume hf hset, h.returns⟩
    | aside w hw => exact .inl ⟨h.sound.aside hw, h.returns⟩
  case inr =>
    right
    cases hu with
    | acquire hf => exact h.acquire hf
    | release => exact h.release
    | drain => exact h.drain
    | resume fs f gs hf hset => exact h.resume hf
    | aside w hw => exact h.aside hw

theorem Uses.intact_or_biasTaken (hu : Uses l s s') (h : s.Intact l) : s'.Intact l ∨ s'.BiasTaken l := by
  induction hu with
  | refl => exact .inl h
  | tail _ hu ih => exact hu.intact_or_biasTaken ih

theorem Intact.count (h : s.Intact l) : (s.log.world.lock l).count.toNat + s.surplus =
    s.log.held + s.noticed + if s.log.begun then 0 else 1 := by
  rw [h.sound.counts.count, h.sound.draining, h.noticed_eq]
  omega

theorem BiasTaken.count (h : s.BiasTaken l) : (s.log.world.lock l).count.toNat + s.surplus =
    s.log.held + s.noticed + if s.log.begun then 0 else 1 := by
  obtain ⟨missing, hs, hn⟩ := h.short
  have hc := hs.count
  rw [h.draining] at hc
  omega

theorem BiasTaken.isDrained (h : s.BiasTaken l) : (s.log.world.lock l).isDrained = s.log.begun := by
  rw [RemoveLock.isDrained, h.latch, h.draining, Bool.and_true]

end ReturnLog

open ReturnLog

/-- Whatever users do with a new lock that never hold more references than it can count. As long as no surplus
release has come to the open lock, each one is reported and changes nothing, no other is, and drains return when
nothing is held. The first that comes to the open lock is not reported and takes the lock's own reference: from then
on drains return whoever holds references. Throughout, what the lock counts is what is held, less what came back in
surplus and was not reported, and that is one reference at most. -/
theorem surplus_releases {w : World} {l : LockRef} {s : ReturnLog} (hl : w.HasLock l) (hw : w.lock l = {})
    (h : ReturnLog.Uses l ⟨{ world := w }, []⟩ s) :
    ((∀ r ∈ s.returns, ¬r.IsSurplusOpen l) → (∀ r ∈ s.returns, r.IsTidy) ∧ (∀ n ∈ s.log.returned, n = 0) ∧
      ((s.log.world.lock l).isDrained = true ↔ s.log.begun = true ∧ s.log.held = 0)) ∧
    ((∃ r ∈ s.returns, r.IsSurplusOpen l) →
      (∃ newer r older, s.returns = newer ++ r :: older ∧ r.TakesBias l ∧ ∀ x ∈ older, x.IsTidy ∧
        ¬x.IsSurplusOpen l) ∧
      (s.log.drain l).returned = s.log.held :: s.log.returned ∧
      ((s.log.world.lock l).isDrained = true ↔ s.log.begun = true)) ∧
    (s.log.world.lock l).count.toNat + s.surplus = s.log.held + s.noticed + (if s.log.begun then 0 else 1) ∧
    s.noticed ≤ s.surplus ∧ s.surplus ≤ s.noticed + 1 := by
  have hnew : Intact l ⟨{ world := w }, []⟩ := ⟨.initial ⟨hl, hw⟩, nofun⟩
  rcases h.intact_or_biasTaken hnew with h | h
  · refine ⟨fun _ => ⟨fun r hr => (h.returns r hr).1, h.sound.returned, ?_⟩, ?_, h.count, ?_⟩
    · rw [h.sound.counts.isDrained, h.sound.draining]
    · rintro ⟨r, hr, hopen⟩
      exact absurd hopen (h.returns r hr).2
    · rw [h.noticed_eq]
      omega
  · refine ⟨fun hnone => ?_, fun _ => ⟨h.bias, ?_, by rw [h.isDrained]⟩, h.count, ?_⟩
    · obtain ⟨newer, r, older, he, ⟨hdue, hlock, -⟩, -⟩ := h.bias
      have hr : r ∈ s.returns := he ▸ List.mem_append_right newer List.mem_cons_self
      exact absurd ⟨hdue, by rw [hlock]⟩ (hnone r hr)
    · rw [h.drain_log]
    · obtain ⟨missing, hs, hn⟩ := h.short
      have hm := hs.missing
      omega

def ReturnLog.fresh : ReturnLog := ⟨{ world := { bench := { locks := .push {} {} } } }, []⟩

/-- A drain waits for the one reference that is held. After that has come back, there is one release too many. -/
theorem surplus_releases_of_late :
    ∃ s, Uses (.free 0) .fresh s ∧ s.surplus = 1 ∧ s.noticed = 1 ∧ s.log.returned = [0] ∧
      ∀ r ∈ s.returns, r.IsTidy := by
  have hacquire : Uses (.free 0) .fresh { ReturnLog.fresh with log := ReturnLog.fresh.log.acquire (.free 0) } :=
    .single (.acquire _ (by decide +kernel))
  have hback := (hacquire.tail (.drain _)).tail (.release _)
  have hreturn := hback.tail (.resume _ [] ⟨.drained (.free 0), fun w => .done w ()⟩ [] rfl (by decide +kernel))
  have h := hreturn.tail (.release _)
  have hs := surplus_releases (w := ReturnLog.fresh.log.world) (l := .free 0) Nat.zero_lt_one rfl h
  exact ⟨_, h, by decide +kernel, by decide +kernel, rfl, (hs.1 (by decide +kernel)).1⟩

/-- One release too many, and a drain returns while a reference is held. Nothing is reported. -/
theorem surplus_release_unnoticed :
    ∃ s, Uses (.free 0) .fresh s ∧ s.surplus = 1 ∧ s.noticed = 0 ∧ s.log.held = 1 ∧ s.log.returned = [1] ∧
      (s.log.world.lock (.free 0)).isDrained = true := by
  have hrelease : Uses (.free 0) .fresh (ReturnLog.fresh.release (.free 0)) := .single (.release _)
  have hacquire := hrelease.tail (.acquire _ (by decide +kernel))
  have h := hacquire.tail (.drain _)
  exact ⟨_, h, by decide +kernel, by decide +kernel, by decide +kernel, by decide +kernel, by decide +kernel⟩

end PnpBus
