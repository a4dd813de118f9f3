/-!
# The PnP life of a device

`PnpState.canBecome` is the table of legal moves. A `Lifecycle` remembers one
state back, so that a pending start, stop or removal can be taken back once
(`Lifecycle.restore`); a move outside the table is an `IllegalMove` and
changes nothing.
-/

namespace PnpBus

inductive PnpState where
  | added
  | startPending
  | started
  | stopPending
  | stopped
  | removePending
  | surpriseRemovePending
  | removed
  | deleted
  deriving DecidableEq, Inhabited

namespace PnpState

def all : List PnpState :=
  [.added, .startPending, .started, .stopPending, .stopped, .removePending, .surpriseRemovePending, .removed,
    .deleted]

def name : PnpState → String
  | added => "Added"
  | startPending => "StartPending"
  | started => "Started"
  | stopPending => "StopPending"
  | stopped => "Stopped"
  | removePending => "RemovePending"
  | surpriseRemovePending => "SurpriseRemovePending"
  | removed => "Removed"
  | deleted => "Deleted"

def canBecome : PnpState → PnpState → Bool
  | added, startPending
  | added, removePending
  | startPending, started
  | started, stopPending
  | started, removePending
  | started, surpriseRemovePending
  | stopPending, stopped
  | stopPending, surpriseRemovePending
  | stopped, startPending
  | stopped, removePending
  | stopped, surpriseRemovePending
  | removePending, removed
  | removePending, surpriseRemovePending
  | surpriseRemovePending, removed
  | surpriseRemovePending, deleted
  | removed, deleted => true
  | _, _ => false

/-- The legal successors, in the order in which the states are listed. -/
def successors (s : PnpState) : List PnpState := all.filter s.canBecome

/-- The query phases of start, stop and removal: the only states a rollback may leave. -/
def isRevocable : PnpState → Bool
  | startPending | stopPending | removePending => true
  | _ => false

theorem mem_all (s : PnpState) : s ∈ all := by cases s <;> decide

theorem mem_successors {s t : PnpState} : t ∈ s.successors ↔ s.canBecome t = true := by
  simp [successors, mem_all]

theorem not_deleted_canBecome (t : PnpState) : deleted.canBecome t = false := by cases t <;> rfl

end PnpState

/-- A refused move, with the state it would have left and the one it would have entered. -/
structure IllegalMove where
  source : PnpState
  target : PnpState
  deriving DecidableEq

structure Lifecycle where
  current : PnpState := .added
  previous : PnpState := .added
  deriving DecidableEq, Inhabited

namespace Lifecycle

def move (m : Lifecycle) (target : PnpState) : Except IllegalMove Lifecycle :=
  if m.current.canBecome target then .ok ⟨target, m.current⟩ else .error ⟨m.current, target⟩

/-- One step back. The remembered state stays as it is. -/
def restore (m : Lifecycle) : Except IllegalMove Lifecycle :=
  if m.current.isRevocable then .ok ⟨m.previous, m.previous⟩ else .error ⟨m.current, m.previous⟩

end Lifecycle

end PnpBus
