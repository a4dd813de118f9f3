/-!
# Remove locks: drain, then destroy

The count starts at one, held by the lock itself. `startDrain` closes the lock
to new references and gives that one back, so the count meets zero only when
draining has begun and the last reference is gone. The latch is set by the
release that brings the count to zero and is never cleared.
-/

namespace PnpBus

structure RemoveLock where
  count : UInt32 := 1
  draining : Bool := false
  latch : Bool := false
  deriving DecidableEq, Inhabited

namespace RemoveLock

/-- One more reference, or none once draining has begun. -/
def acquire? (l : RemoveLock) : Option RemoveLock :=
  if l.draining then none else some { l with count := l.count + 1 }

/-- One reference less, or none if the count is already zero. -/
def release? (l : RemoveLock) : Option RemoveLock :=
  if l.count = 0 then none
  else some { l with count := l.count - 1, latch := l.latch || l.count = 1 }

def close (l : RemoveLock) : RemoveLock := { l with draining := true }

/-- Latched, so an acquire that comes too late cannot make a drained lock look busy. -/
def isDrained (l : RemoveLock) : Bool := l.draining && l.latch

/-- References held by others than the lock itself. -/
def outstanding (l : RemoveLock) : UInt32 :=
  if l.draining then l.count else if l.count = 0 then 0 else l.count - 1

/-- The text in which the lock describes itself. -/
def text (l : RemoveLock) : String :=
  "RemoveLock \x7b outstanding: " ++ toString l.outstanding.toNat ++ ", draining: "
    ++ (if l.draining then "true" else "false") ++ " \x7d"

theorem release?_eq_none {l : RemoveLock} : l.release? = none ↔ l.count = 0 := by
  simp [release?]

theorem eq_of_release? {l m : RemoveLock} (h : l.release? = some m) :
    m = { l with count := l.count - 1, latch := l.latch || l.count = 1 } := by
  unfold release? at h; split at h
  · cases h
  · exact (Option.some.inj h).symm

end RemoveLock

end PnpBus
