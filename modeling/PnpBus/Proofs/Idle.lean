import PnpBus.Proofs.Courses
import PnpBus.Proofs.Quiet

/-!
# Calls that concern no device

What goes on aside from devices and requests keeps to any terms, waits
included.
-/

namespace PnpBus

variable {α β : Type} {b : DriverId}

def Act.IsIdle (b : DriverId) (a : Act α) : Prop := ∀ w : World, w.Agrees b (w.after a)

def Call.IsIdle (b : DriverId) (c : Call α) : Prop :=
  ∀ T : Terms, T.regime.driver = b → ∀ v, (c v).Keeps T (fun _ _ => True) v

namespace Run.Keeps

variable {T : Terms} {v w : World}

theorem agrees {a : α} (h : v.Agrees T.regime.driver w) : (done w a).Keeps T (fun _ _ => True) v :=
  .quiet (.aside h) (.of_lifecycle fun x => by rw [World.device, World.device, h.devices]) trivial

theorem except_bind {x : ExceptT Status Call α} {f : α → ExceptT Status Call β} {p : World → Except Status α → Prop}
    (hx : (x.run v).Keeps T p v)
    (hf : ∀ w a, T.Passes v w → p w (.ok a) → ((f a).run w).Keeps T (fun _ _ => True) w) :
    ((x >>= f).run v).Keeps T (fun _ _ => True) v := by
  rw [Call.run_bind]
  refine hx.bind fun w a hw ha => ?_
  cases a with
  | ok a => exact hf w a hw ha
  | error e => exact .same trivial

end Run.Keeps

theorem Run.Along.keeps {T : Terms} {v : World} {p : World → α → Prop} {r : Run α}
    (h : r.Along World.Aside (fun _ _ => True) p v) : r.Keeps T (fun _ _ => True) v := by
  have agrees {w : World} (hs : Relation.ReflTransGen World.Aside v w) :
      (done w ()).Keeps T (fun _ _ => True) v := .agrees ((World.of_steps hs).agrees _)
  induction r generalizing v with
  | done w a => exact agrees h.1
  | via w rest ih => exact fun _ => ih h agrees
  | wait w on resume ih =>
    refine ⟨(agrees h.1).1, fun d hd => .inl ((agrees h.1).2.1 d hd), fun w' _ _ =>
      ih w' (h.2 w' trivial) fun hs => ?_⟩
    exact .agrees ((World.of_steps hs).agrees _)
  | halt w why => trivial

theorem Call.Goes.idle {c : Call α} (h : c.Goes World.Aside fun _ _ => True) : c.IsIdle b :=
  fun _ _ v => (h v).keeps

end PnpBus
