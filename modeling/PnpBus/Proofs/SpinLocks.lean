import PnpBus.Attach
import PnpBus.Processor.Hotplug
import PnpBus.Proofs.Courses

/-!
# Spin locks

Whoever comes upon a spin lock that somebody else holds spins until it is
free, and nobody else runs meanwhile. So a lock that a suspended operation
holds is never freed. A `Span` is a run with the locks that it takes and frees
on its way, and `Span.Rests` says which of them are in hand when it waits.
Operations are `Tidy` if they have no locks of their own in hand then, and
`Tidy.Is` says which running operation is the one whose locks they show.
-/

namespace PnpBus

variable {α β : Type}

/-! ## Locks -/

inductive InnerLock where
  | registry (b : DriverId)
  | pnp (d : DeviceId)
  | power (d : DeviceId)
  | children (d : DeviceId)
  | request (r : RequestId)
  | processors (t : TopologyId)
  | outcome (p : ProbeId)
  | config
  deriving DecidableEq

inductive SpinLock where
  /-- The one on the slot for the topology of a driver. -/
  | slot (b : DriverId)
  | inner (l : InnerLock)
  deriving DecidableEq

def SpinLock.IsInner : SpinLock → Prop
  | slot _ => False
  | inner _ => True

/-! ## Runs that take and free locks -/

inductive Span (α : Type) where
  | done (w : World) (a : α)
  | via (w : World) (rest : Span α)
  | take (l : SpinLock) (rest : Span α)
  | free (l : SpinLock) (rest : Span α)
  | wait (w : World) (on : Signal) (resume : World → Span α)
  | halt (w : World) (why : Halt)

/-- What a run may do before its first wait: which locks it may take, and whether it may give up. -/
structure Licence where
  takes : SpinLock → Prop
  stops : Prop

def Licence.inner : Licence := ⟨SpinLock.IsInner, False⟩

namespace Span

def bind : Span α → (α → World → Span β) → Span β
  | done w a, f => f a w
  | via w rest, f => via w (rest.bind f)
  | take l rest, f => take l (rest.bind f)
  | free l rest, f => free l (rest.bind f)
  | wait w on resume, f => wait w on fun w' => (resume w').bind f
  | halt w why, _ => halt w why

def plain : Span α → Run α
  | done w a => .done w a
  | via w rest => .via w rest.plain
  | take _ rest => rest.plain
  | free _ rest => rest.plain
  | wait w on resume => .wait w on fun w' => (resume w').plain
  | halt w why => .halt w why

theorem plain_bind (x : Span α) (f : α → World → Span β) :
    (x.bind f).plain = x.plain.bind fun a w => (f a w).plain := by
  induction x with
  | done w a => rfl
  | via w rest ih => simp only [bind, plain, Run.bind, ih]
  | take l rest ih => simp only [bind, plain, ih]
  | free l rest ih => simp only [bind, plain, ih]
  | wait w on resume ih => simp only [bind, plain, Run.bind, ih]
  | halt w why => rfl

/-- The run takes no lock that it has in hand, and frees them in the reverse order. It has `kept` in hand whenever
it waits and `base` at the end. Once it has waited it takes only inner locks. -/
def Rests (kept base : List SpinLock) : Licence → List SpinLock → Span α → Prop
  | _, hand, done _ _ => hand = base
  | L, hand, via _ rest => rest.Rests kept base L hand
  | L, hand, take l rest => L.takes l ∧ l ∉ hand ∧ rest.Rests kept base L (l :: hand)
  | L, hand, free l rest => ∃ others, hand = l :: others ∧ rest.Rests kept base L others
  | _, hand, wait _ _ resume => hand = kept ∧ ∀ w, (resume w).Rests kept base .inner hand
  | L, _, halt _ why => L.stops ∧ why = .deadlock

namespace Rests

variable {L : Licence} {kept base base' hand : List SpinLock} {x : Span α}

/-- Any licence may be larger than the inner one. -/
theorem mono (hL : ∀ l, l.IsInner → L.takes l) (h : x.Rests kept base .inner hand) : x.Rests kept base L hand := by
  induction x generalizing hand with
  | done w a => exact h
  | via w rest ih => exact ih h
  | take l rest ih =>
    obtain ⟨hl, hn, h⟩ := h
    exact ⟨hL l hl, hn, ih h⟩
  | free l rest ih =>
    obtain ⟨others, he, h⟩ := h
    exact ⟨others, he, ih h⟩
  | wait w on resume => exact h
  | halt w why => exact h.1.elim

/-- What follows may come after a wait, so only inner locks are left to it. -/
theorem bind {f : α → World → Span β} (hL : ∀ l, l.IsInner → L.takes l) (h : x.Rests kept base L hand)
    (hf : ∀ a w, (f a w).Rests kept base' .inner base) : (x.bind f).Rests kept base' L hand := by
  induction x generalizing hand L with
  | done w a =>
    obtain rfl := h
    exact (hf a w).mono hL
  | via w rest ih => exact ih hL h
  | take l rest ih =>
    obtain ⟨hl, hn, h⟩ := h
    exact ⟨hl, hn, ih hL h⟩
  | free l rest ih =>
    obtain ⟨others, he, h⟩ := h
    exact ⟨others, he, ih hL h⟩
  | wait w on resume ih =>
    obtain ⟨hw, h⟩ := h
    exact ⟨hw, fun w => ih w (fun _ => id) (h w)⟩
  | halt w why => exact h

end Rests

end Span

/-! ## Operations that take and free locks -/

def Guarded (α : Type) : Type := World → Span α

namespace Guarded

instance : Monad Guarded where
  pure a := fun w => .done w a
  bind g f := fun w => (g w).bind fun a w => f a w

def ofAct (a : Act α) : Guarded α := fun w => .done (w.after a) (a w).1

instance : MonadLift Act Guarded := ⟨ofAct⟩

def locked (l : SpinLock) (g : Guarded α) : Guarded α := fun w =>
  .take l ((g w).bind fun a w => .free l (.done w a))

/-! ### What they are without their locks -/

def plain (g : Guarded α) : Call α := fun w => (g w).plain

def Is (g : Guarded α) (c : Call α) : Prop := g.plain = c

namespace Is

variable {g : Guarded α} {f : α → Guarded β} {c : Call α} {k : α → Call β}

theorem pure (a : α) : (Pure.pure a : Guarded α).Is (Pure.pure a) := rfl

theorem act (a : Act α) : (liftM a : Guarded α).Is (liftM a) := rfl

theorem bind (hg : g.Is c) (hf : ∀ a, (f a).Is (k a)) : (g >>= f).Is (c >>= k) := by
  unfold Is at hg
  subst hg
  funext w
  refine (Span.plain_bind (g w) _).trans ?_
  refine congrArg (g w).plain.bind ?_
  funext a w
  exact congrFun (hf a) w

theorem locked (l : SpinLock) (hg : g.Is c) : (Guarded.locked l g).Is c := by
  unfold Is at hg
  subst hg
  funext w
  refine (Span.plain_bind _ _).trans ?_
  exact Run.bind_done _

theorem run_bind {x : ExceptT Status Guarded α} {f : α → ExceptT Status Guarded β} {c : ExceptT Status Call α}
    {k : α → ExceptT Status Call β} (hx : x.run.Is c.run) (hf : ∀ a, (f a).run.Is (k a).run) :
    (x >>= f).run.Is (c >>= k).run := by
  refine bind hx fun r => ?_
  cases r with
  | ok a => exact hf a
  | error s => exact pure _

theorem lift (hg : g.Is c) : (liftM g : ExceptT Status Guarded α).run.Is (liftM c : ExceptT Status Call α).run :=
  bind hg fun _ => pure _

end Is

/-! ### Locks in hand -/

def IsTidy (g : Guarded α) : Prop :=
  ∀ base, (∀ l ∈ base, ¬l.IsInner) → ∀ w, (g w).Rests base base .inner base

/-- What waits under a lock has that lock in hand when it does. -/
theorem IsTidy.locked {g : Guarded α} {L : Licence} {l : SpinLock} (hg : g.IsTidy) (hL : ∀ l, l.IsInner → L.takes l)
    (hl : L.takes l) (hn : ¬l.IsInner) (w : World) : (Guarded.locked l g w).Rests [l] [] L [] := by
  have hbase : ∀ x ∈ [l], ¬x.IsInner := by
    intro x hx
    rw [List.mem_singleton.mp hx]
    exact hn
  refine ⟨hl, List.not_mem_nil, ?_⟩
  refine ((hg [l] hbase w).mono hL).bind hL fun a w => ?_
  exact ⟨[], rfl, rfl⟩

end Guarded

/-! ## Operations that are tidy -/

structure Tidy (α : Type) where
  guarded : Guarded α
  tidy : guarded.IsTidy

namespace Tidy

instance : Monad Tidy where
  pure a := ⟨pure a, fun _ _ _ => rfl⟩
  bind t f := {
    guarded := t.guarded >>= fun a => (f a).guarded
    tidy := fun base hb w => (t.tidy base hb w).bind (fun _ => id) fun a w => (f a).tidy base hb w }

def ofAct (a : Act α) : Tidy α := ⟨.ofAct a, fun _ _ _ => rfl⟩

instance : MonadLift Act Tidy := ⟨ofAct⟩

instance : MonadLift (ExceptT Status Act) (ExceptT Status Tidy) := ⟨fun a => ExceptT.mk (ofAct a.run)⟩

def under (l : InnerLock) (a : Act α) : Tidy α where
  guarded := .locked (.inner l) (.ofAct a)
  tidy base hb _ := ⟨trivial, fun hl => hb _ hl trivial, base, rfl, rfl⟩

def underE (l : InnerLock) (a : ExceptT Status Act α) : ExceptT Status Tidy α := ExceptT.mk (under l a.run)

def checkpoint : Tidy Unit := ⟨fun w => .via w (.done w ()), fun _ _ _ => rfl⟩

def await (on : Signal) : Tidy Unit where
  guarded := fun w => if w.isSet on then .done w () else .wait w on fun w' => .done w' ()
  tidy := by
    intro base hb w
    dsimp only
    split
    · rfl
    · exact ⟨rfl, fun _ => rfl⟩

/-! ## What they are without their locks -/

def Is (t : Tidy α) (c : Call α) : Prop := t.guarded.Is c

namespace Is

variable {t : Tidy α} {f : α → Tidy β} {c : Call α} {k : α → Call β} {a : Act α} {g : α → Act β}

theorem pure (x : α) : (Pure.pure x : Tidy α).Is (Pure.pure x) := rfl

theorem bind (ht : t.Is c) (hf : ∀ x, (f x).Is (k x)) : (t >>= f).Is (c >>= k) := Guarded.Is.bind ht hf

theorem act (a : Act α) : (liftM a : Tidy α).Is (liftM a) := rfl

theorem under (l : InnerLock) (a : Act α) : (Tidy.under l a).Is (liftM a) := Guarded.Is.locked _ (.act a)

/-- Accesses one after the other make a single act for whoever looks only where operations wait. -/
theorem act_bind (ht : t.Is (liftM a)) (hf : ∀ x, (f x).Is (liftM (g x))) : (t >>= f).Is (liftM (a >>= g)) :=
  bind ht hf

theorem forM {f : β → Tidy Unit} {k : β → Call Unit} (hf : ∀ x, (f x).Is (k x)) :
    ∀ xs : List β, (xs.forM f).Is (xs.forM k)
  | [] => pure _
  | x :: xs => bind (hf x) fun _ => forM hf xs

theorem act_forM {f : β → Tidy Unit} {g : β → Act Unit} (hf : ∀ x, (f x).Is (liftM (g x))) :
    ∀ xs : List β, (xs.forM f).Is (liftM (xs.forM g : Act Unit))
  | [] => act (Pure.pure ())
  | x :: xs => act_bind (hf x) fun _ => act_forM hf xs

theorem checkpoint : Tidy.checkpoint.Is Call.checkpoint := rfl

theorem await (on : Signal) : (Tidy.await on).Is (Call.await on) := by
  funext w
  show Span.plain (if w.isSet on then _ else _) = Call.await on w
  unfold Call.await
  split <;> rfl

/-! Operations that can fail. -/

section
variable {x : ExceptT Status Tidy α} {f : α → ExceptT Status Tidy β} {c : ExceptT Status Call α}
  {k : α → ExceptT Status Call β} {e : ExceptT Status Act α} {g : α → ExceptT Status Act β}

theorem ok (a : α) : (Pure.pure a : ExceptT Status Tidy α).run.Is (Pure.pure a : ExceptT Status Call α).run := rfl

theorem error (s : Status) :
    (MonadExcept.throw s : ExceptT Status Tidy α).run.Is (MonadExcept.throw s : ExceptT Status Call α).run := rfl

theorem run_bind (hx : x.run.Is c.run) (hf : ∀ a, (f a).run.Is (k a).run) : (x >>= f).run.Is (c >>= k).run := by
  refine bind hx fun r => ?_
  cases r with
  | ok a => exact hf a
  | error s => exact pure _

theorem run_tryCatch {f : Status → ExceptT Status Tidy α} {k : Status → ExceptT Status Call α} (hx : x.run.Is c.run)
    (hf : ∀ s, (f s).run.Is (k s).run) :
    (MonadExcept.tryCatch x f).run.Is (MonadExcept.tryCatch c k).run := by
  refine bind hx fun r => ?_
  cases r with
  | ok a => exact pure _
  | error s => exact hf s

theorem lift {t : Tidy α} {c : Call α} (ht : t.Is c) :
    (liftM t : ExceptT Status Tidy α).run.Is (liftM c : ExceptT Status Call α).run :=
  bind ht fun _ => pure _

theorem lift_act (a : Act α) :
    (liftM a : ExceptT Status Tidy α).run.Is (liftM a : ExceptT Status Call α).run := lift (act a)

theorem lift_except (e : ExceptT Status Act α) :
    (liftM e : ExceptT Status Tidy α).run.Is (liftM e : ExceptT Status Call α).run := rfl

theorem underE (l : InnerLock) (e : ExceptT Status Act α) :
    (Tidy.underE l e).run.Is (liftM e : ExceptT Status Call α).run := under l _

/-! Accesses that can fail, one after the other. -/

theorem act_error (s : Status) :
    (MonadExcept.throw s : ExceptT Status Tidy α).run.Is
    (liftM (MonadExcept.throw s : ExceptT Status Act α).run) := rfl

theorem act_access (e : ExceptT Status Act α) :
    (liftM e : ExceptT Status Tidy α).run.Is (liftM e.run) := rfl

theorem act_run_tryCatch {f : Status → ExceptT Status Tidy α} {g : Status → ExceptT Status Act α}
    (hx : x.run.Is (liftM e.run)) (hf : ∀ s, (f s).run.Is (liftM (g s).run)) :
    (MonadExcept.tryCatch x f).run.Is (liftM (MonadExcept.tryCatch e g).run) := by
  rw [ExceptT.run_tryCatch e g]
  refine act_bind hx fun r => ?_
  cases r with
  | ok a => exact act (Pure.pure (Except.ok a))
  | error s => exact hf s

end

section
variable {ε : Type} {x : ExceptT ε Tidy α} {f : α → ExceptT ε Tidy β} {e : ExceptT ε Act α}
  {g : α → ExceptT ε Act β}

theorem act_ok (a : α) : (Pure.pure a : ExceptT ε Tidy α).run.Is (liftM (Pure.pure a : ExceptT ε Act α).run) := rfl

theorem act_run_bind (hx : x.run.Is (liftM e.run)) (hf : ∀ a, (f a).run.Is (liftM (g a).run)) :
    (x >>= f).run.Is (liftM (e >>= g).run) := by
  rw [ExceptT.run_bind x, ExceptT.run_bind e]
  refine act_bind hx fun r => ?_
  cases r with
  | ok a => exact hf a
  | error s => exact act (Pure.pure (Except.error s))

theorem act_lift {t : Tidy α} {a : Act α} (ht : t.Is (liftM a)) :
    (liftM t : ExceptT ε Tidy α).run.Is (liftM (liftM a : ExceptT ε Act α).run) := by
  have ha : (liftM a : ExceptT ε Act α).run = a >>= fun x => Pure.pure (Except.ok x) := rfl
  rw [ha]
  exact act_bind ht fun x => act (Pure.pure (Except.ok x))

theorem act_do (a : Act α) (hf : ∀ x, (f x).run.Is (liftM (g x).run)) :
    (liftM (liftM a : Tidy α) >>= f : ExceptT ε Tidy β).run.Is (liftM (liftM a >>= g : ExceptT ε Act β).run) :=
  act_run_bind (act_lift (act a)) hf

theorem act_look (l : InnerLock) (a : Act α) (hf : ∀ x, (f x).run.Is (liftM (g x).run)) :
    (liftM (Tidy.under l a) >>= f : ExceptT ε Tidy β).run.Is (liftM (liftM a >>= g : ExceptT ε Act β).run) :=
  act_run_bind (act_lift (under l a)) hf

end

end Is

end Tidy

end PnpBus
