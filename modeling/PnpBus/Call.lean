import PnpBus.World

/-!
# Operations, with and without waits

`Act` is an operation that never waits. A `Call` may: its `Run` from a world
is either finished, or stands at a signal that is not up yet and goes on from
whatever the world has become when it is. What happens in between is not the
call's affair, so every wait is a point where other calls may run. On its way
a run may pass through worlds that are worth looking at (`via`), where no
other call can run.
-/

namespace PnpBus

abbrev Act := StateM World

/-- Why a call can never be resumed. -/
inductive Halt where
  /-- It waits for something that nobody is left to do. -/
  | deadlock
  /-- A processor reported itself in a form that is not defined. -/
  | undecodable
  /-- It was given a number that names nothing. -/
  | unknownReference
  deriving DecidableEq

inductive Run (α : Type) where
  | done (w : World) (a : α)
  /-- Passes through `w` and goes on at once. -/
  | via (w : World) (rest : Run α)
  | wait (w : World) (on : Signal) (resume : World → Run α)
  | halt (w : World) (why : Halt)

namespace Run

variable {α β : Type}

def bind : Run α → (α → World → Run β) → Run β
  | done w a, f => f a w
  | via w rest, f => via w (rest.bind f)
  | wait w on resume, f => wait w on fun w' => (resume w').bind f
  | halt w why, _ => halt w why

/-- The world at the point where the run stands. -/
def world : Run α → World
  | done w _ => w
  | via w _ => w
  | wait w _ _ => w
  | halt w _ => w

theorem bind_done (r : Run α) : r.bind (fun a w => done w a) = r := by
  induction r with
  | done w a => rfl
  | via w rest ih => simp only [bind, ih]
  | wait w on resume ih => simp only [bind, ih]
  | halt w why => rfl

theorem bind_assoc {γ : Type} (r : Run α) (f : α → World → Run β) (g : β → World → Run γ) :
    (r.bind f).bind g = r.bind fun a w => (f a w).bind g := by
  induction r with
  | done w a => rfl
  | via w rest ih => simp only [bind, ih]
  | wait w on resume ih => simp only [bind, ih]
  | halt w why => rfl

end Run

def Call (α : Type) : Type := World → Run α

namespace Call

variable {α β : Type}

instance : Monad Call where
  pure a := fun w => .done w a
  bind c f := fun w => (c w).bind f

instance : LawfulMonad Call := LawfulMonad.mk' Call
  (fun c => funext fun w => Run.bind_done (c w))
  (fun _ _ => rfl)
  (fun c f g => funext fun w => Run.bind_assoc (c w) f g)

def ofAct (a : Act α) : Call α := fun w => .done (a w).2 (a w).1

instance : MonadLift Act Call := ⟨ofAct⟩

instance : MonadLift (ExceptT Status Act) (ExceptT Status Call) := ⟨fun a => ExceptT.mk (ofAct a.run)⟩

def halt (why : Halt) : Call α := fun w => .halt w why

/-- Shows the world as it is now. Nothing else runs here. -/
def checkpoint : Call Unit := fun w => .via w (.done w ())

/-- Waits until the signal is up; does not wait at all if it is up already. -/
def await (on : Signal) : Call Unit := fun w =>
  if w.isSet on then .done w () else .wait w on fun w' => .done w' ()

theorem bind_apply (c : Call α) (f : α → Call β) (w : World) : (c >>= f) w = (c w).bind f := rfl

end Call

/-! ## The journal -/

def notify (n : Notice) : Act Unit :=
  modify fun w => w.updateJournal fun j => { j with notices := j.notices ++ [n] }

def noteDiverted (d : DeviceId) : Act Unit :=
  modify fun w => w.updateJournal fun j => { j with diverted := j.diverted ++ [d] }

def noteRun (processor : UInt32) : Act Unit :=
  modify fun w => w.updateJournal fun j => { j with runs := j.runs ++ [processor] }

end PnpBus
