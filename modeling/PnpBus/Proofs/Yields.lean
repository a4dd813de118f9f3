import PnpBus.Proofs.HeldSlots

/-!
# What a wait leaves to others

Operations begin, wait and go on in any order. Those that wait have no lock in
hand, except attachments, which have their slots. So no operation ever spins on
an inner lock, and one can be kept from its end only by an attachment that
waits, when it comes to the slot of the same driver.
-/

namespace PnpBus

variable {α : Type} {b : DriverId} {u v w : World}

open World (SameHeld)

/-! ## Marks -/

theorem Operation.holdsSlot (o : Operation α) (hk : o.kept? = none) (v : World) : (o.call v).HoldsSlot none v := by
  have goes {β : Type} {c : Call β} (hc : c.Goes SameHeld fun _ _ => True) : (c v).HoldsSlot none v :=
    .of_along (hc v)
  have act {β : Type} {a : Act β} (ha : a.Goes SameHeld) : ((liftM a : Call β) v).HoldsSlot none v :=
    goes (.of_act ha)
  cases o with
  | access l a h => exact act (.step fun w b => by rw [World.IsHeld, World.IsHeld, h])
  | changePower d c => exact act (changePower_sameHeld d c)
  | dispatch b d r => exact goes (dispatch_sameHeld b d r)
  | complete r s => exact act (completable_sameHeld.complete r s)
  | waitForCompletion r => exact goes (waitForCompletion_goes r)
  | queryId b d t => exact goes (queryId_sameHeld b d t)
  | createPhysical b identity => exact act (createPhysical_sameHeld b identity)
  | attachDevice b d =>
    exact goes (.attachDevice (queryId_sameHeld b d) (fun _ _ => .of_drivers rfl) (attachOver_sameHeld b · d ·))
  | addChild b f identity => exact act (addChild_sameHeld b f identity)
  | drain l => exact goes (.bind (.of_act (closeLock_sameHeld l)) fun _ => .await _)
  | changeProcessor t index c => exact goes (changeProcessor_sameHeld t index c)
  | registerExisting t count => exact goes (registerFrom_sameHeld t _ 0)
  | job j => exact act (job_sameHeld j)
  | openSlot b => exact goes (openSlot_goes b)
  | driverProcessorChange b index c =>
    refine goes (.run_bind (.lift_call (openSlot_goes b)) fun o => ?_)
    cases o with
    | some t => exact changeProcessor_sameHeld t index c
    | none => exact .throw _
  | unload b => exact unload_holdsSlot b v
  | attachTopology b firmware online => cases hk

/-! ## Where runs stop -/

/-- Where a run stops while others hold some locks. Whoever comes upon one of these spins. -/
inductive Stop (α : Type) where
  | ended (w : World) (a : α)
  | waits (w : World) (hand : List SpinLock) (on : Signal) (resume : World → Span α)
  | halted (w : World) (why : Halt)
  | spins (l : SpinLock)

def Span.stop (others : List SpinLock) : List SpinLock → Span α → Stop α
  | _, done w a => .ended w a
  | hand, via _ rest => rest.stop others hand
  | hand, take l rest => if l ∈ hand ++ others then .spins l else rest.stop others (l :: hand)
  | hand, free l rest => rest.stop others (hand.erase l)
  | hand, wait w on resume => .waits w hand on resume
  | _, halt w why => .halted w why

namespace Stop

def Rests (kept base : List SpinLock) (L : Licence) : Stop α → Prop
  | ended _ _ => True
  | waits _ hand _ resume => hand = kept ∧ ∀ w, (resume w).Rests kept base .inner hand
  | halted _ why => L.stops ∧ why = .deadlock
  | spins _ => False

/-- The operation has got all the locks it came to. -/
def Goes : Stop α → Prop
  | ended _ _ | waits _ _ _ _ => True
  | halted _ _ | spins _ => False

theorem Rests.goes {s : Stop α} {kept base : List SpinLock} {L : Licence} (h : s.Rests kept base L)
    (hL : ¬L.stops) :
    s.Goes := by
  cases s with
  | ended w a => trivial
  | waits w hand on resume => trivial
  | halted w why => exact hL h.1
  | spins l => exact h

def Leaves (P : Run α → Prop) : Stop α → Prop
  | ended w a => P (.done w a)
  | waits w _ on resume => P (.wait w on fun w' => (resume w').plain)
  | halted w why => P (.halt w why)
  | spins _ => True

end Stop

namespace Span

variable {others hand kept base : List SpinLock} {L : Licence} {x : Span α}

/-- Whoever may take no lock that others hold does not spin. -/
theorem Rests.stop (h : x.Rests kept base L hand) (ho : ∀ l ∈ others, ¬L.takes l) :
    (x.stop others hand).Rests kept base L := by
  induction x generalizing hand with
  | done w a => trivial
  | via w rest ih => exact ih h
  | take l rest ih =>
    obtain ⟨hl, hn, h⟩ := h
    have hfree : l ∉ hand ++ others := fun hm => (List.mem_append.mp hm).elim hn fun hm => ho l hm hl
    rw [Span.stop, if_neg hfree]
    exact ih h
  | free l rest ih =>
    obtain ⟨hand', rfl, h⟩ := h
    rw [Span.stop, List.erase_cons_head]
    exact ih h
  | wait w on resume => exact h
  | halt w why => exact h

theorem stop_leaves {P : Run α → Prop} (hP : ∀ w rest, P (.via w rest) → P rest) (h : P x.plain) :
    (x.stop others hand).Leaves P := by
  induction x generalizing hand with
  | done w a => exact h
  | via w rest ih => exact ih (hP w rest.plain h)
  | take l rest ih =>
    unfold Span.stop
    split
    · trivial
    · exact ih h
  | free l rest ih => exact ih h
  | wait w on resume => exact h
  | halt w why => exact h

end Span

/-! ## Operations that wait -/

structure Paused where
  {Answer : Type}
  op : Operation Answer
  hand : List SpinLock
  on : Signal
  resume : World → Span Answer

/-- The world between two turns, and the operations that wait in it. -/
structure OperationConfig where
  world : World
  paused : List Paused

namespace Paused

def hands (ps : List Paused) : List SpinLock := ps.flatMap (·.hand)

def slots (ps : List Paused) : List DriverId := ps.filterMap (·.op.kept?)

end Paused

open Paused (hands slots)

def Stop.leave (o : Operation α) (ps : List Paused) : Stop α → Option OperationConfig
  | ended w _ => some ⟨w, ps⟩
  | waits w hand on resume => some ⟨w, ⟨o, hand, on, resume⟩ :: ps⟩
  | halted _ _ | spins _ => none

namespace Stop

variable {o : Operation α} {s : Stop α} {ps : List Paused} {c : OperationConfig}

theorem leave_done {a : α} (h : s.Leaves (· = .done v a)) (hc : s.leave o ps = some c) : c = ⟨v, ps⟩ := by
  cases s with
  | ended w a =>
    cases h
    exact (Option.some.inj hc).symm
  | waits w hand on resume => cases h
  | halted w why => cases h
  | spins l => cases hc

theorem leave_halt {why : Halt} (h : s.Leaves (· = .halt v why)) : s.leave o ps ≠ some c := by
  intro hc
  cases s with
  | ended w a => cases h
  | waits w hand on resume => cases h
  | halted w why => cases hc
  | spins l => cases hc

end Stop

namespace OperationConfig

def start (c : OperationConfig) (o : Operation α) : Stop α := (o.guarded c.world).stop (hands c.paused) []

def resume (w : World) (p : Paused) (others : List Paused) : Stop p.Answer :=
  (p.resume w).stop (hands others) p.hand

inductive Step : OperationConfig → OperationConfig → Prop
  | start {α : Type} {c c' : OperationConfig} (o : Operation α)
      (hb : ∀ b, o.kept? = some b → b < c.world.drivers.size)
    (h : (c.start o).leave o c.paused = some c') : Step c c'
  | resume {c c' : OperationConfig} (p : Paused) (others : List Paused) (hp : c.paused.Perm (p :: others))
    (hset : c.world.isSet p.on = true) (h : (OperationConfig.resume c.world p others).leave p.op others = some c') :
    Step c c'
  /-- Everything else that clients do. -/
  | aside {w w' : World} {ps : List Paused} (h : w.SameHeld w') : Step ⟨w, ps⟩ ⟨w', ps⟩

/-- An attachment of a topology to the driver waits. -/
def IsAttaching (c : OperationConfig) (b : DriverId) : Prop := ∃ p ∈ c.paused, p.op.kept? = some b

/-- Nobody waits and no slot is held at the beginning. -/
def Reached (c : OperationConfig) : Prop := ∃ w : World, (∀ b, ¬w.IsHeld b) ∧ Relation.ReflTransGen Step ⟨w, []⟩ c

end OperationConfig

/-! ## What every step keeps -/

structure Paused.Fair (p : Paused) : Prop where
  hand : p.hand = p.op.kept
  rests : ∀ w, (p.resume w).Rests p.op.kept [] .inner p.hand
  holdsSlot : ∀ w : World, (∀ b, p.op.kept? = some b → w.IsHeld b) → (p.resume w).plain.HoldsSlot p.op.kept? w

structure World.HoldsExactly (w : World) (bs : List DriverId) : Prop where
  held : ∀ b, w.IsHeld b ↔ b ∈ bs
  nodup : bs.Nodup

structure OperationConfig.Sound (c : OperationConfig) : Prop where
  fair : ∀ p ∈ c.paused, p.Fair
  holds : c.world.HoldsExactly (slots c.paused)

theorem World.HoldsExactly.of_sameHeld {bs : List DriverId} (h : v.HoldsExactly bs) (hw : v.SameHeld w) :
    w.HoldsExactly bs where
  held b := (hw b).trans (h.held b)
  nodup := h.nodup

/-- The slot `k` is the first to be let go. -/
theorem World.HoldsExactly.free {k : Option DriverId} {bs : List DriverId} (h : v.HoldsExactly (k.toList ++ bs))
    (hw : ∀ b, w.IsHeld b ↔ v.IsHeld b ∧ k ≠ some b) : w.HoldsExactly bs := by
  obtain ⟨-, hnd, hne⟩ := List.nodup_append.mp h.nodup
  refine ⟨fun b => ?_, hnd⟩
  rw [hw b, h.held b, List.mem_append, Option.mem_toList]
  constructor
  · rintro ⟨hk | hb, hn⟩
    · exact (hn hk).elim
    · exact hb
  · intro hb
    exact ⟨.inr hb, fun hk => hne b (Option.mem_toList.mpr hk) b hb rfl⟩

theorem World.HoldsExactly.mark {bs : List DriverId} (h : v.HoldsExactly bs) (hb : ¬v.IsHeld b)
    (hw : ∀ x, w.IsHeld x ↔ v.IsHeld x ∨ x = b) : w.HoldsExactly (b :: bs) where
  held x := by rw [hw x, h.held x, List.mem_cons, or_comm]
  nodup := List.nodup_cons.mpr ⟨fun hm => hb ((h.held b).mpr hm), h.nodup⟩

theorem slots_cons (p : Paused) (ps : List Paused) : slots (p :: ps) = p.op.kept?.toList ++ slots ps := by
  unfold slots
  rw [List.filterMap_cons]
  cases p.op.kept? <;> rfl

theorem mem_hands {ps : List Paused} (h : ∀ p ∈ ps, p.Fair) {l : SpinLock} :
    l ∈ hands ps ↔ ∃ b ∈ slots ps, l = .slot b := by
  unfold hands slots
  rw [List.mem_flatMap]
  constructor
  · rintro ⟨p, hp, hl⟩
    rw [(h p hp).hand] at hl
    obtain ⟨b, hb, rfl⟩ := List.mem_map.mp hl
    exact ⟨b, List.mem_filterMap.mpr ⟨p, hp, Option.mem_toList.mp hb⟩, rfl⟩
  · rintro ⟨b, hb, rfl⟩
    obtain ⟨p, hp, hk⟩ := List.mem_filterMap.mp hb
    refine ⟨p, hp, ?_⟩
    rw [(h p hp).hand]
    exact List.mem_map_of_mem (Option.mem_toList.mpr hk)

namespace OperationConfig.Sound

variable {c c' : OperationConfig} {ps : List Paused}

theorem leave {o : Operation α} {s : Stop α} {L : Licence} (hp : ∀ p ∈ ps, p.Fair)
    (hu : u.HoldsExactly (o.kept?.toList ++ slots ps)) (hr : s.Rests o.kept [] L)
    (hm : s.Leaves (Run.HoldsSlot o.kept? u)) (hc : s.leave o ps = some c') : c'.Sound := by
  cases s with
  | ended w a =>
    cases hc
    exact ⟨hp, hu.free hm⟩
  | waits w hand on resume =>
    cases hc
    obtain ⟨hh, hrests⟩ := hr
    obtain ⟨hw, hslot⟩ := hm
    refine ⟨fun p hmem => ?_, ?_⟩
    · rcases List.mem_cons.mp hmem with rfl | hmem
      · exact ⟨hh, hrests, hslot⟩
      · exact hp p hmem
    · rw [slots_cons]
      exact hu.of_sameHeld hw
  | halted w why => cases hc
  | spins l => cases hc

/-- No lock that waiting operations have in hand may be taken by one that begins. -/
theorem start_rests (h : c.Sound) (o : Operation α) : (c.start o).Rests o.kept [] (o.licence c.world) := by
  refine (o.rests c.world).stop fun l hl => ?_
  obtain ⟨b, hb, rfl⟩ := (mem_hands h.fair).mp hl
  rintro (hi | ⟨b', -, he, hf⟩)
  · exact hi
  · cases he
    exact Bool.false_ne_true (hf.symm.trans ((h.holds.held b).mpr hb))

theorem resume_rests (h : c.Sound) {p : Paused} (hp : c.paused.Perm (p :: ps)) :
    (OperationConfig.resume c.world p ps).Rests p.op.kept [] .inner := by
  have hf (q : Paused) (hq : q ∈ p :: ps) : q.Fair := h.fair q (hp.mem_iff.mpr hq)
  refine ((hf p List.mem_cons_self).rests c.world).stop fun l hl => ?_
  obtain ⟨b, -, rfl⟩ := (mem_hands fun q hq => hf q (List.mem_cons_of_mem p hq)).mp hl
  exact id

theorem start (h : c.Sound) (o : Operation α) (hb : ∀ b, o.kept? = some b → b < c.world.drivers.size)
    (hc : (c.start o).leave o c.paused = some c') : c'.Sound := by
  have leaves {P : Run α → Prop} (hP : ∀ w rest, P (.via w rest) → P rest) (ho : P (o.call c.world)) :
      (c.start o).Leaves P := by
    rw [← o.plain_guarded] at ho
    exact Span.stop_leaves hP ho
  cases hk : o.kept? with
  | none =>
    refine leave h.fair (u := c.world) ?_ (h.start_rests o) ?_ hc
    · rw [hk]
      exact h.holds
    · rw [hk]
      exact leaves (fun _ _ => id) (o.holdsSlot hk c.world)
  | some b =>
    -- Nothing but an attachment keeps a slot, and it has marked it by the time it waits.
    cases o with
    | attachTopology b' firmware online =>
      obtain rfl : b' = b := Option.some.inj hk
      rcases attachTopology_holdsSlot firmware online (hb b' rfl) with ⟨u, hu, hn, hm⟩ | ⟨e, he⟩ | ⟨w, why, he⟩
      · exact leave h.fair (h.holds.mark hn hu) (h.start_rests _) (leaves (fun _ _ => id) hm) hc
      · obtain rfl := Stop.leave_done (leaves (P := (· = .done c.world (.error e))) nofun he) hc
        exact h
      · exact (Stop.leave_halt (leaves (P := (· = .halt w why)) nofun he) hc).elim
    | _ => cases hk

theorem resume (h : c.Sound) {p : Paused} (hp : c.paused.Perm (p :: ps))
    (hc : (OperationConfig.resume c.world p ps).leave p.op ps = some c') : c'.Sound := by
  have hf (q : Paused) (hq : q ∈ p :: ps) : q.Fair := h.fair q (hp.mem_iff.mpr hq)
  have hu : c.world.HoldsExactly (p.op.kept?.toList ++ slots ps) := by
    have hs : (slots c.paused).Perm (p.op.kept?.toList ++ slots ps) := slots_cons p ps ▸ hp.filterMap _
    exact ⟨fun b => (h.holds.held b).trans hs.mem_iff, hs.nodup_iff.mp h.holds.nodup⟩
  refine leave (fun q hq => hf q (List.mem_cons_of_mem p hq)) hu (h.resume_rests hp) ?_ hc
  refine Span.stop_leaves (fun _ _ => id) ((hf p List.mem_cons_self).holdsSlot c.world fun b hb => ?_)
  exact (hu.held b).mpr (List.mem_append_left _ (by rw [hb]; exact List.mem_singleton_self b))

theorem step (h : c.Sound) (hs : c.Step c') : c'.Sound := by
  cases hs with
  | start o hb hc => exact h.start o hb hc
  | resume p others hp hset hc => exact h.resume hp hc
  | aside hw => exact ⟨h.fair, h.holds.of_sameHeld hw⟩

end OperationConfig.Sound

theorem OperationConfig.Reached.sound {c : OperationConfig} (h : c.Reached) : c.Sound := by
  obtain ⟨w, hw, h⟩ := h
  induction h with
  | refl => exact ⟨nofun, ⟨fun b => ⟨fun hb => (hw b hb).elim, nofun⟩, List.nodup_nil⟩⟩
  | tail _ hs ih => exact ih.step hs

namespace OperationConfig

variable {c : OperationConfig}

theorem Sound.isHeld (h : c.Sound) (b : DriverId) : c.world.IsHeld b ↔ c.IsAttaching b :=
  (h.holds.held b).trans List.mem_filterMap

theorem start_openSlot (h : c.world.IsHeld b) : c.start (.openSlot b) = .halted c.world .deadlock := by
  have ho : Guarded.openSlot b c.world = .halt c.world .deadlock := if_pos h
  show (Guarded.openSlot b c.world).stop _ [] = _
  rw [ho]
  rfl

theorem start_driverProcessorChange (h : c.world.IsHeld b) (index : UInt32) (change : ProcessorChange) :
    c.start (.driverProcessorChange b index change) = .halted c.world .deadlock := by
  have ho : Guarded.openSlot b c.world = .halt c.world .deadlock := if_pos h
  show (((Guarded.openSlot b c.world).bind _).bind _).stop _ [] = _
  rw [ho]
  rfl

end OperationConfig

/-- An operation has no lock in hand when it waits, except an attachment, which has the slot of its driver. So all
others get their locks, whether they begin or go on, unless they come to that slot. There they spin until the
attachment ends. -/
theorem waits_leave_locks {c : OperationConfig} (h : c.Reached) :
    (∀ p ∈ c.paused, p.hand = p.op.kept) ∧
    (∀ {α : Type} (o : Operation α), o.guarded.plain = o.call ∧
      ((∀ b, o.slot? = some b → ¬c.IsAttaching b) → (c.start o).Goes)) ∧
    (∀ p others, c.paused.Perm (p :: others) → (OperationConfig.resume c.world p others).Goes) ∧
    ∀ b, c.IsAttaching b → c.start (.openSlot b) = .halted c.world .deadlock ∧
      ∀ index change, c.start (.driverProcessorChange b index change) = .halted c.world .deadlock := by
  have hs := h.sound
  refine ⟨fun p hp => (hs.fair p hp).hand, fun o => ⟨o.plain_guarded, fun ho => ?_⟩, fun p others hp => ?_,
    fun b hb => ?_⟩
  · refine (hs.start_rests o).goes ?_
    rintro ⟨b, hb, hh⟩
    exact ho b hb ((hs.isHeld b).mp hh)
  · exact (hs.resume_rests hp).goes id
  · have hh := (hs.isHeld b).mpr hb
    exact ⟨OperationConfig.start_openSlot hh, OperationConfig.start_driverProcessorChange hh⟩

def World.bare : World := { drivers := .push {} { service := "S" } }

theorem World.not_isHeld_bare (b : DriverId) : ¬World.bare.IsHeld b := by
  intro h
  obtain rfl : b = 0 := Nat.lt_one_iff.mp h.lt
  exact Bool.false_ne_true h

def OperationConfig.probing : OperationConfig :=
  let o : Operation _ := .attachTopology 0 [] 1
  Option.get ((start ⟨.bare, []⟩ o).leave o []) rfl

theorem OperationConfig.Reached.probing : OperationConfig.probing.Reached := by
  refine ⟨.bare, World.not_isHeld_bare, .single (.start (.attachTopology 0 [] 1) ?_ rfl)⟩
  intro b hb
  obtain rfl : 0 = b := Option.some.inj hb
  exact Nat.zero_lt_one

theorem waits_leave_locks_of_probing :
    OperationConfig.probing.Reached ∧ (∀ p ∈ OperationConfig.probing.paused, p.hand = p.op.kept) ∧
      (OperationConfig.probing.start (.changeProcessor 0 0 .addStart)).Goes ∧
      OperationConfig.probing.start (.openSlot 0) = .halted OperationConfig.probing.world .deadlock := by
  obtain ⟨hand, goes, -, halted⟩ := waits_leave_locks .probing
  exact ⟨.probing, hand, (goes _).2 nofun, (halted 0 ⟨_, List.mem_cons_self, rfl⟩).1⟩

/-- While the attachment waits with the slot in hand, a processor change comes to that slot and spins. -/
theorem attachment_waits_with_slot :
    OperationConfig.probing.Reached ∧ (∃ p ∈ OperationConfig.probing.paused, p.hand = [.slot 0]) ∧
      ∀ index change,
        OperationConfig.probing.start (.driverProcessorChange 0 index change) =
        .halted OperationConfig.probing.world .deadlock :=
  ⟨.probing, ⟨_, List.mem_cons_self, rfl⟩, OperationConfig.start_driverProcessorChange rfl⟩

end PnpBus
