import PnpBus.Processor.Hotplug
import PnpBus.Proofs.Moves

/-!
# The course of a run

A run goes along steps of one kind if they lead it from where it begins to its
first wait, from there on to the next and in the end to its end, whatever
others make of the world meanwhile, as long as they keep to what it may rely
on. Much of what calls do is aside from devices and requests altogether.
-/

namespace PnpBus

variable {α β : Type} {S S' Q Q' : World → World → Prop} {p q : World → α → Prop} {u v w : World}

/-! ## Runs -/

/-- Where no step need be taken and two steps are one, all the steps together are one. -/
theorem World.of_steps [Std.Refl S] [IsTrans World S] (h : Relation.ReflTransGen S v w) : S v w := by
  rwa [Relation.reflTransGen_eq_self] at h

theorem World.keep_steps {I : World → Prop} (hS : ∀ v w, S v w → I v → I w) (h : Relation.ReflTransGen S v w)
    (hv : I v) : I w := by
  induction h with
  | refl => exact hv
  | tail _ h ih => exact hS _ _ h ih

namespace Run

/-- The run, begun in a world, goes on by steps of `S` if others keep to `Q` at its waits. When it is done `p`
holds. -/
def Along (S Q : World → World → Prop) (p : World → α → Prop) : World → Run α → Prop
  | v, .done w a => Relation.ReflTransGen S v w ∧ p w a
  | v, .via _ rest => rest.Along S Q p v
  | v, .wait w _ resume => Relation.ReflTransGen S v w ∧ ∀ w', Q w w' → (resume w').Along S Q p w'
  | _, .halt _ _ => True

namespace Along

variable {r : Run α}

theorem same {a : α} (h : p w a) : (done w a).Along S Q p w := ⟨.refl, h⟩

theorem step {a : α} (hs : S v w) (h : p w a) : (done w a).Along S Q p v := ⟨.single hs, h⟩

theorem imp (h : r.Along S Q p v) (hpq : ∀ w a, p w a → q w a) : r.Along S Q q v := by
  induction r generalizing v with
  | done w a => exact ⟨h.1, hpq w a h.2⟩
  | via w rest ih => exact ih h
  | wait w on resume ih => exact ⟨h.1, fun w' hw => ih w' (h.2 w' hw)⟩
  | halt w why => trivial

theorem mono (hS : ∀ v w, S v w → S' v w) (hQ : ∀ v w, Q' v w → Q v w) (h : r.Along S Q p v) :
    r.Along S' Q' p v := by
  induction r generalizing v with
  | done w a => exact ⟨Relation.ReflTransGen.mono hS _ _ h.1, h.2⟩
  | via w rest ih => exact ih h
  | wait w on resume ih =>
    exact ⟨Relation.ReflTransGen.mono hS _ _ h.1, fun w' hw => ih w' (h.2 w' (hQ w w' hw))⟩
  | halt w why => trivial

theorem «from» (hs : Relation.ReflTransGen S u v) (h : r.Along S Q p v) : r.Along S Q p u := by
  induction r with
  | done w a => exact ⟨hs.trans h.1, h.2⟩
  | via w rest ih => exact ih h
  | wait w on resume => exact ⟨hs.trans h.1, h.2⟩
  | halt w why => trivial

theorem bind {f : α → World → Run β} {q : World → β → Prop} (h : r.Along S Q p v)
    (hf : ∀ w a, p w a → (f a w).Along S Q q w) : (r.bind f).Along S Q q v := by
  induction r generalizing v with
  | done w a => exact (hf w a h.2).from h.1
  | via w rest ih => exact ih h
  | wait w on resume ih => exact ⟨h.1, fun w' hw => ih w' (h.2 w' hw)⟩
  | halt w why => trivial

/-- What steps keep, and others too, holds at the end if it holds at the beginning. -/
theorem keep {I : World → Prop} (hS : ∀ v w, S v w → I v → I w) (hQ : ∀ v w, Q v w → I v → I w)
    (h : r.Along S Q p v) (hv : I v) : r.Along S Q (fun w a => p w a ∧ I w) v := by
  induction r generalizing v with
  | done w a => exact ⟨h.1, h.2, World.keep_steps hS h.1 hv⟩
  | via w rest ih => exact ih h hv
  | wait w on resume ih =>
    exact ⟨h.1, fun w' hw => ih w' (h.2 w' hw) (hQ w w' hw (World.keep_steps hS h.1 hv))⟩
  | halt w why => trivial

theorem except_bind {x : ExceptT Status Call α} {f : α → ExceptT Status Call β} {p : World → Except Status α → Prop}
    (hx : (x.run v).Along S Q p v) (hf : ∀ w a, p w (.ok a) → ((f a).run w).Along S Q (fun _ _ => True) w) :
    ((x >>= f).run v).Along S Q (fun _ _ => True) v := by
  rw [Call.run_bind]
  refine hx.bind fun w a ha => ?_
  cases a with
  | ok a => exact hf w a ha
  | error e => exact .same trivial

end Along

end Run

/-! ## Acts and calls -/

/-- The act is a course of such steps, whatever the world. -/
def Act.Goes (S : World → World → Prop) (a : Act α) : Prop := ∀ w : World, Relation.ReflTransGen S w (w.after a)

/-- Nor does it matter what else others do who keep to `Q`. -/
def Call.Goes (S Q : World → World → Prop) (c : Call α) : Prop := ∀ v, (c v).Along S Q (fun _ _ => True) v

namespace Act.Goes

theorem mono {a : Act α} (hS : ∀ v w, S v w → S' v w) (h : a.Goes S) : a.Goes S' :=
  fun w => Relation.ReflTransGen.mono hS _ _ (h w)

theorem step {a : Act α} (h : ∀ w : World, S w (w.after a)) : a.Goes S := fun w => .single (h w)

theorem bind {a : Act α} {f : α → Act β} (ha : a.Goes S) (hf : ∀ x, (f x).Goes S) : (a >>= f).Goes S :=
  fun w => (ha w).trans (hf _ _)

theorem pure (x : α) : (Pure.pure x : Act α).Goes S := fun _ => .refl

theorem forM {f : β → Act Unit} (hf : ∀ x, (f x).Goes S) : ∀ xs : List β, (xs.forM f : Act Unit).Goes S
  | [] => .pure _
  | x :: xs => .bind (hf x) fun _ => .forM hf xs

theorem run_bind {ε : Type} {x : ExceptT ε Act α} {f : α → ExceptT ε Act β} (hx : (x.run).Goes S)
    (hf : ∀ a, ((f a).run).Goes S) : ((x >>= f).run).Goes S := fun w => by
  rw [World.after, Act.run_bind]
  have := hx w
  rw [World.after] at this
  rcases h : x.run w with ⟨_ | a, w'⟩ <;> rw [h] at this
  · exact this
  · exact this.trans (hf a w')

theorem run_tryCatch {x : ExceptT Status Act α} {f : Status → ExceptT Status Act α} (hx : (x.run).Goes S)
    (hf : ∀ e, ((f e).run).Goes S) : ((tryCatch x f).run).Goes S := fun w => by
  rw [World.after, Act.run_tryCatch]
  have := hx w
  rw [World.after] at this
  rcases h : x.run w with ⟨e | _, w'⟩ <;> rw [h] at this
  · exact this.trans (hf e w')
  · exact this

theorem ok {ε : Type} (x : α) : ((Pure.pure x : ExceptT ε Act α).run).Goes S := fun _ => .refl

theorem throw (e : Status) : ((MonadExcept.throw e : ExceptT Status Act α).run).Goes S := fun _ => .refl

end Act.Goes

namespace Call.Goes

theorem mono {c : Call α} (hS : ∀ v w, S v w → S' v w) (h : c.Goes S Q) : c.Goes S' Q :=
  fun v => (h v).mono hS fun _ _ => id

theorem of_act {a : Act α} (ha : a.Goes S) : (liftM a : Call α).Goes S Q := fun v => ⟨ha v, trivial⟩

theorem pure (x : α) : (Pure.pure x : Call α).Goes S Q := fun _ => .same trivial

theorem bind {c : Call α} {f : α → Call β} (hc : c.Goes S Q) (hf : ∀ x, (f x).Goes S Q) : (c >>= f).Goes S Q :=
  fun v => (hc v).bind fun w x _ => hf x w

theorem run_bind {x : ExceptT Status Call α} {f : α → ExceptT Status Call β} (hx : (x.run).Goes S Q)
    (hf : ∀ a, ((f a).run).Goes S Q) : ((x >>= f).run).Goes S Q := fun v =>
  (hx v).except_bind fun w a _ => hf a w

theorem lift {a : Act α} (ha : a.Goes S) : ((liftM a : ExceptT Status Call α).run).Goes S Q :=
  fun v => ⟨ha v, trivial⟩

theorem lift_except {x : ExceptT Status Act α} (hx : (x.run).Goes S) :
    ((liftM x : ExceptT Status Call α).run).Goes S Q := fun v => ⟨hx v, trivial⟩

theorem lift_call {c : Call α} (hc : c.Goes S Q) : ((liftM c : ExceptT Status Call α).run).Goes S Q :=
  fun v => (hc v).bind fun _ _ _ => .same trivial

theorem throw (e : Status) : ((MonadExcept.throw e : ExceptT Status Call α).run).Goes S Q := fun _ => .same trivial

theorem tryCatch {x : ExceptT Status Call α} {f : Status → ExceptT Status Call α} (hx : (x.run).Goes S Q)
    (hf : ∀ e, ((f e).run).Goes S Q) : ((MonadExcept.tryCatch x f).run).Goes S Q := fun v => by
  rw [Call.run_tryCatch]
  refine (hx v).bind fun w a _ => ?_
  cases a with
  | ok a => exact .same trivial
  | error e => exact hf e w

theorem halt (why : Halt) : (Call.halt why : Call α).Goes S Q := fun _ => trivial

theorem checkpoint : Call.checkpoint.Goes S Q := fun v =>
  show (Run.done v ()).Along S Q (fun _ _ => True) v from .same trivial

theorem await (on : Signal) : (Call.await on).Goes S Q := fun v => by
  rw [Call.await]
  split
  · exact .same trivial
  · exact ⟨.refl, fun _ _ => .same trivial⟩

end Call.Goes

/-! ## What is aside from devices and requests -/

/-- The worlds differ in processors, slots and interceptors, in jobs and notices, at most. -/
structure World.Aside (v w : World) : Prop where
  devices : w.devices = v.devices
  requests : w.requests = v.requests
  clients : w.clients = v.clients
  bench : w.bench = v.bench
  diverted : w.journal.diverted = v.journal.diverted
  drivers : w.drivers.size = v.drivers.size
  registry : ∀ b, (w.driver b).registry = (v.driver b).registry
  standing : ∀ b, (w.driver b).mode = (v.driver b).mode ∧ (w.driver b).activeClaimed = (v.driver b).activeClaimed
  clean : v.IsClean → w.IsClean

namespace World.Aside

/-- No driver changes, and no device. -/
theorem of_eq (hd : w.devices = v.devices) (hr : w.requests = v.requests) (hc : w.clients = v.clients)
    (hb : w.bench = v.bench) (hn : w.journal.notices = v.journal.notices)
    (hj : w.journal.diverted = v.journal.diverted) (hx : w.drivers = v.drivers) : v.Aside w := by
  have hx' (b : DriverId) : w.driver b = v.driver b := by rw [World.driver, World.driver, hx]
  refine ⟨hd, hr, hc, hb, hj, by rw [hx], fun b => by rw [hx'], fun b => by rw [hx']; exact ⟨rfl, rfl⟩, ?_⟩
  rw [IsClean, IsClean, hn]
  exact id

theorem refl (w : World) : w.Aside w := of_eq rfl rfl rfl rfl rfl rfl rfl

theorem trans (h : u.Aside v) (h' : v.Aside w) : u.Aside w where
  devices := h'.devices.trans h.devices
  requests := h'.requests.trans h.requests
  clients := h'.clients.trans h.clients
  bench := h'.bench.trans h.bench
  diverted := h'.diverted.trans h.diverted
  drivers := h'.drivers.trans h.drivers
  registry b := (h'.registry b).trans (h.registry b)
  standing b := ⟨(h'.standing b).1.trans (h.standing b).1, (h'.standing b).2.trans (h.standing b).2⟩
  clean := h'.clean ∘ h.clean

instance : Std.Refl Aside := ⟨refl⟩

instance : IsTrans World Aside := ⟨fun _ _ _ => trans⟩

theorem note (w : World) {n : Notice} (hn : n.isSurplus = false) : w.Aside (w.note n) :=
  ⟨rfl, rfl, rfl, rfl, rfl, rfl, fun _ => rfl, fun _ => ⟨rfl, rfl⟩, (World.Agrees.note (b := 0) w hn).clean⟩

theorem updateDriver (w : World) (x : DriverId) {f : Driver → Driver} (hf : ∀ v, (f v).registry = v.registry)
    (hs : ∀ v, (f v).mode = v.mode ∧ (f v).activeClaimed = v.activeClaimed) : w.Aside (w.updateDriver x f) := by
  refine ⟨rfl, rfl, rfl, rfl, rfl, w.size_updateDriver x f, fun _ => (World.Agrees.updateDriver w x hf).registry,
    fun b => ?_, id⟩
  rw [driver_updateDriver]
  split
  next h => rw [h.1]; exact hs _
  next => exact ⟨rfl, rfl⟩

theorem agrees (h : v.Aside w) (b : DriverId) : v.Agrees b w where
  devices := h.devices
  requests := h.requests
  tokens := by rw [h.clients]
  tickets := by rw [h.clients]
  known := by rw [h.clients]
  gates := by rw [h.bench]
  drivers := Nat.le_of_eq h.drivers.symm
  registry := h.registry b
  clean := h.clean

end World.Aside

structure World.Apart (v w : World) : Prop extends v.Aside w where
  store : w.store = v.store

theorem World.Apart.of_eq (hd : w.devices = v.devices) (hr : w.requests = v.requests) (hc : w.clients = v.clients)
    (hb : w.bench = v.bench) (hn : w.journal.notices = v.journal.notices)
    (hj : w.journal.diverted = v.journal.diverted) (hx : w.drivers = v.drivers)
    (hs : w.store = v.store) : v.Apart w :=
  ⟨.of_eq hd hr hc hb hn hj hx, hs⟩

open World (Aside Apart)

theorem Act.Goes.notify {n : Notice} (hn : n.isSurplus = false) : (notify n).Goes Aside := .step fun w => .note w hn

theorem Act.Goes.notify_apart {n : Notice} (hn : n.isSurplus = false) : (PnpBus.notify n).Goes Apart :=
  .step fun w => ⟨.note w hn, rfl⟩

theorem Act.Goes.aside {a : Act α} (h : a.Goes Apart) : a.Goes Aside := h.mono fun _ _ => Apart.toAside

theorem Call.Goes.aside {c : Call α} (h : c.Goes Apart Q) : c.Goes Aside Q := h.mono fun _ _ => Apart.toAside

/-! ### Processors and topologies -/

theorem sendJob_apart (index : UInt32) (t : TopologyId) (p : ProbeId) : ((sendJob index t p).run).Goes Apart := by
  refine .run_bind (x := liftM (noteRun index)) ?_ fun _ => .run_bind (x := get) (fun _ => .refl) fun w => ?_
  · exact .step fun w => .of_eq rfl rfl rfl rfl rfl rfl rfl rfl
  · split
    · exact .throw _
    · exact .ok _
    · exact .step fun w => .of_eq rfl rfl rfl rfl rfl rfl rfl rfl

theorem probeProcessor_apart (t : TopologyId) (processor : UInt32) :
    ((probeProcessor t processor).run).Goes Apart := by
  refine .run_bind (x := liftM (notify (.probeEntered processor))) (.notify_apart rfl) fun _ => ?_
  refine .run_bind (x := get) (fun _ => .refl) fun w => ?_
  refine .run_bind (x := liftM (w.platform.identify processor)) ?_ fun who => ?_
  · cases w.platform.identify processor <;> exact fun _ => .refl
  refine .run_bind (x := liftM (topology t)) (fun _ => .refl) fun v => ?_
  split
  · exact .run_bind (x := liftM (notify _)) (.notify_apart rfl) fun _ _ => .refl
  refine .run_bind (x := liftM (notify _)) (.notify_apart rfl) fun _ => ?_
  refine .run_bind (x := liftM (notify _)) (.notify_apart rfl) fun _ => ?_
  refine .run_bind (x := liftM (notify _)) (.notify_apart rfl) fun _ => ?_
  refine .run_bind (x := liftM (topology t)) (fun _ => .refl) fun v => ?_
  split
  · refine .run_bind (x := modify _) ?_ fun _ => ?_
    · exact .step fun w => .of_eq rfl rfl rfl rfl rfl rfl rfl rfl
    · exact .step fun w => ⟨.note w rfl, rfl⟩
  · exact fun _ => .refl

theorem job_apart (j : Job) : (j.run).Goes Apart := by
  refine .bind (probeProcessor_apart j.topology j.processor) fun outcome => ?_
  split
  · exact .step fun w => .of_eq rfl rfl rfl rfl rfl rfl rfl rfl
  · exact .step fun w => .of_eq rfl rfl rfl rfl rfl rfl rfl rfl
  · exact .pure _

theorem populate_apart (t : TopologyId) (index : UInt32) : ((populate t index).run).Goes Apart Q := by
  refine .run_bind (.lift (fun _ => .refl)) fun v => ?_
  split
  · refine .run_bind (.lift (.step fun w => .of_eq rfl rfl rfl rfl rfl rfl rfl rfl)) fun p => ?_
    refine .run_bind (.lift_except (sendJob_apart index t p)) fun _ => ?_
    exact .bind (.await _) fun _ => .bind (.of_act (fun _ => .refl)) fun _ => .pure _
  · exact .run_bind (.lift (.notify_apart rfl)) fun _ => .throw _

theorem changeProcessor_apart (t : TopologyId) (index : UInt32) (c : ProcessorChange) :
    ((changeProcessor t index c).run).Goes Apart Q := by
  refine .bind (.of_act (.notify_apart rfl)) fun _ => .bind ?_ fun _ =>
    .bind (.of_act (.notify_apart rfl)) fun _ => .pure _
  cases c with
  | addStart => exact fun v => .step (.of_eq rfl rfl rfl rfl rfl rfl rfl rfl) trivial
  | addComplete => exact populate_apart t index
  | addFailed => exact fun v => .step ⟨.note v rfl, rfl⟩ trivial

theorem registerFrom_apart (t : TopologyId) : ∀ (n : Nat) (index : UInt32),
    ((registerFrom t index n).run).Goes Apart Q
  | 0, _ => .pure _
  | n + 1, index => .run_bind (changeProcessor_apart t index .addStart) fun _ =>
    .run_bind (changeProcessor_apart t index .addComplete) fun _ => registerFrom_apart t n (index + 1)

/-- Whoever comes upon a locked slot can never go on. -/
theorem openSlot_apply (x : DriverId) (w : World) :
    openSlot x w = if (w.driver x).slot.held then .halt w .deadlock else .done w (w.driver x).slot.installed := by
  show (if (w.driver x).slot.held then _ else _ : Call (Option TopologyId)) w = _
  split <;> rfl

theorem openSlot_goes (x : DriverId) : (openSlot x).Goes S Q := fun v => by
  rw [openSlot_apply]
  split
  · trivial
  · exact .same trivial

theorem setSlot_apart (x : DriverId) (slot : TopologySlot) : (setSlot x slot).Goes Apart :=
  .step fun w => ⟨.updateDriver w x (fun _ => rfl) fun _ => ⟨rfl, rfl⟩, rfl⟩

theorem attachTopology_apart (x : DriverId) (firmware : ProcessorTable) (online : UInt32) :
    ((attachTopology x firmware online).run).Goes Apart Q := by
  refine .run_bind (.lift (fun _ => .refl)) fun v => ?_
  split
  · exact .throw _
  refine .run_bind (.lift_call (openSlot_goes x)) fun t => ?_
  split
  · exact .throw _
  refine .run_bind (.lift (.step fun w => .of_eq rfl rfl rfl rfl rfl rfl rfl rfl)) fun t => ?_
  refine .run_bind (.lift (setSlot_apart x _)) fun _ =>
    .run_bind (.tryCatch (registerFrom_apart t _ 0) fun e => ?_) ?_
  · exact .run_bind (.lift (setSlot_apart x {})) fun _ => .throw e
  · exact fun _ => .run_bind (.lift (setSlot_apart x _)) fun _ => .lift (.pure _)

theorem driverProcessorChange_apart (x : DriverId) (index : UInt32) (c : ProcessorChange) :
    ((driverProcessorChange x index c).run).Goes Apart Q := by
  refine .run_bind (.lift_call (openSlot_goes x)) fun t => ?_
  split
  · exact changeProcessor_apart _ _ _
  · exact .throw _

theorem unload_apart (x : DriverId) : ((unload x).run).Goes Apart Q := by
  refine .run_bind (.lift (.notify_apart rfl)) fun _ => .run_bind (.lift (fun _ => .refl)) fun v => ?_
  split
  · refine .run_bind (.lift_call (openSlot_goes x)) fun _ => .run_bind (.lift (setSlot_apart x {})) fun _ => ?_
    exact .lift (.notify_apart rfl)
  · exact .run_bind (.lift (.notify_apart rfl)) fun _ => .throw _

end PnpBus
