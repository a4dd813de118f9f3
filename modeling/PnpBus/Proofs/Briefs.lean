import PnpBus.Proofs.Mute

/-!
# What a call does to requests and gates

Between two waits a call touches requests and gates by steps of a few kinds. A
call has a `Brief`: the request that it carries, one that it watches, and the
gate that it may enable. It takes references and tickets for the watched
request only as long as that is not complete, and diverts nothing but the
request that it carries. What one step comes to, a whole run comes to
(`Brief.Effect`).
-/

namespace PnpBus

open World (Mute Silent)

variable {u v w : World} {d : DeviceId} {r : RequestId}

/-! ## Briefs and their steps -/

structure Brief where
  carried : Option RequestId := none
  /-- Nothing is taken for this request once it is complete. -/
  watched : Option RequestId := none
  /-- The only gate that may be enabled. -/
  opens : Option GateRef := none

namespace Brief

variable (B : Brief)

def Admits (w : World) (r : RequestId) : Prop := B.watched = some r → (w.request r).completed = false

inductive Step (v : World) : World → Prop
  | mute {w : World} (h : v.Mute w) : Step v w
  | ask (k : Kind) : Step v (v.ask k)
  | inform (r : RequestId) (information : Information) : Step v (v.after (inform r information))
  | regate (g : GateRef) (gate : FilterGate)
      (h : gate.state = .enabled → (v.gate g).state = .enabled ∨ B.opens = some g) : Step v (v.setGate g gate)
  | take (d : DeviceId) (r : RequestId) (hr : B.Admits v r) : Step v (v.take d r)
  | giveBack (d : DeviceId) (r : RequestId) : Step v (v.giveBack d r)
  | letPass (d : DeviceId) (r : RequestId) {gate : FilterGate} (hr : B.Admits v r)
      (hg : (v.gate (.device d)).issue? = some gate) : Step v (v.letPass (.device d) r gate)
  | divert (d : DeviceId) (r : RequestId) (hr : B.carried = some r) (ht : .device d ∈ (v.request r).tickets)
      (hg : (v.gate (.device d)).state = .enabled) : Step v (v.after (noteDiverted d))
  | complete (r : RequestId) (s : Status) : Step v (v.after (complete r s))

abbrev Steps : World → World → Prop := Relation.ReflTransGen B.Step

end Brief

/-! ## What steps come to -/

def Request.IsSpent (q : Request) : Prop := q.completed = true → q.locks = [] ∧ q.tickets = []

/-- Completion is final, and tickets stay until then. -/
structure Request.Proceeds (q q' : Request) : Prop where
  completed : q.completed = true → q'.completed = true
  tickets : ∀ g ∈ q.tickets, q'.completed = true ∨ g ∈ q'.tickets

theorem Request.Proceeds.refl (q : Request) : q.Proceeds q := ⟨id, fun _ => .inr⟩

theorem Request.Proceeds.of_default (q : Request) : Request.Proceeds default q :=
  ⟨fun h => absurd h Bool.false_ne_true, fun _ hg => absurd hg List.not_mem_nil⟩

theorem Request.Proceeds.trans {p q q' : Request} (h : p.Proceeds q) (h' : q.Proceeds q') : p.Proceeds q' where
  completed := h'.completed ∘ h.completed
  tickets g hg := (h.tickets g hg).elim (fun hc => .inl (h'.completed hc)) (h'.tickets g)

def World.HandedTo (w : World) (d : DeviceId) (r : RequestId) : Prop :=
  (w.request r).completed = true ∨ .device d ∈ (w.request r).tickets

structure Brief.Effect (B : Brief) (v w : World) : Prop where
  size : v.requests.size ≤ w.requests.size
  proceeds : ∀ r, (v.request r).Proceeds (w.request r)
  spent : ∀ r, B.watched = some r → (v.request r).IsSpent → (w.request r).IsSpent
  gates : ∀ g, (w.gate g).state = .enabled → (v.gate g).state = .enabled ∨ B.opens = some g
  diverted : ∃ ds, w.journal.diverted = v.journal.diverted ++ ds ∧ ∀ d ∈ ds,
    ((v.gate (.device d)).state = .enabled ∨ B.opens = some (.device d)) ∧ ∃ r, B.carried = some r ∧ w.HandedTo d r

theorem World.HandedTo.later (h : v.HandedTo d r) (hr : (v.request r).Proceeds (w.request r)) : w.HandedTo d r :=
  h.elim (fun hc => .inl (hr.completed hc)) (hr.tickets _)

namespace Brief.Effect

variable {B : Brief}

/-- Nothing was diverted. -/
theorem silent (hs : v.requests.size ≤ w.requests.size) (hr : ∀ r, (v.request r).Proceeds (w.request r))
    (hsp : ∀ r, B.watched = some r → (v.request r).IsSpent → (w.request r).IsSpent)
    (hg : ∀ g, (w.gate g).state = .enabled → (v.gate g).state = .enabled ∨ B.opens = some g)
    (hd : w.journal.diverted = v.journal.diverted) : B.Effect v w :=
  ⟨hs, hr, hsp, hg, [], by rw [hd, List.append_nil], nofun⟩

theorem of_requests (hr : w.requests = v.requests)
    (hg : ∀ g, (w.gate g).state = .enabled → (v.gate g).state = .enabled ∨ B.opens = some g)
    (hd : w.journal.diverted = v.journal.diverted) : B.Effect v w := by
  have hq (r : RequestId) : w.request r = v.request r := by rw [World.request, World.request, hr]
  refine silent (Nat.le_of_eq (by rw [hr])) (fun r => ?_) (fun r _ => ?_) hg hd
  · rw [hq]; exact .refl _
  · rw [hq]; exact id

theorem mute (h : v.Mute w) : B.Effect v w := of_requests h.requests (fun g hg => .inl (h.gates g ▸ hg)) h.diverted

theorem refl (w : World) : B.Effect w w := mute (.refl w)

theorem trans (h : B.Effect u v) (h' : B.Effect v w) : B.Effect u w where
  size := Nat.le_trans h.size h'.size
  proceeds r := (h.proceeds r).trans (h'.proceeds r)
  spent r hr := h'.spent r hr ∘ h.spent r hr
  gates g hg := (h'.gates g hg).elim (h.gates g) .inr
  diverted := by
    obtain ⟨ds, hds, hd⟩ := h.diverted
    obtain ⟨ds', hds', hd'⟩ := h'.diverted
    refine ⟨ds ++ ds', by rw [hds', hds, List.append_assoc], fun d hm => ?_⟩
    rcases List.mem_append.mp hm with hm | hm
    · obtain ⟨hg, r, hr, ht⟩ := hd d hm
      exact ⟨hg, r, hr, ht.later (h'.proceeds r)⟩
    · obtain ⟨hg, hr⟩ := hd' d hm
      exact ⟨hg.elim (h.gates _) .inr, hr⟩

instance : Std.Refl B.Effect := ⟨refl⟩

instance : IsTrans World B.Effect := ⟨fun _ _ _ => trans⟩

theorem updateRequest (r : RequestId) {f : Request → Request} (hf : ∀ q : Request, q.Proceeds (f q))
    (hs : B.watched = some r → (v.request r).IsSpent → (f (v.request r)).IsSpent) :
    B.Effect v (v.updateRequest r f) := by
  refine silent (Nat.le_of_eq (v.requests_size_updateRequest r f).symm) (fun x => ?_) (fun x hx => ?_)
    (fun g => ?_) rfl
  · rw [World.request_updateRequest]
    split
    next h => rw [h.1]; exact hf _
    next => exact .refl _
  · rw [World.request_updateRequest]
    split
    next h => rw [h.1] at hx ⊢; exact hs hx
    next => exact id
  · rw [World.gate_updateRequest]
    exact .inl

theorem setGate (g : GateRef) {gate : FilterGate}
    (h : gate.state = .enabled → (v.gate g).state = .enabled ∨ B.opens = some g) :
    B.Effect v (v.setGate g gate) := by
  refine of_requests (by cases g <;> rfl) (fun x hx => ?_) (by cases g <;> rfl)
  by_cases hxg : x = g
  · subst hxg
    by_cases hg : v.HasGate x
    · rw [World.gate_setGate_self hg] at hx; exact h hx
    · rw [World.gate_of_not_hasGate (mt World.hasGate_setGate.mp hg)] at hx
      rw [World.gate_of_not_hasGate hg]; exact .inl hx
  · rw [World.gate_setGate_of_ne hxg] at hx; exact .inl hx

theorem redeemTicket (g : GateRef) : B.Effect v (v.after (redeemTicket g)) := by
  rw [World.after_redeemTicket]
  split
  next gate h => exact setGate g fun he => .inl (FilterGate.enabled_of_redeem? h he)
  next => exact mute (.note v _)

theorem redeemAll : ∀ (gs : List GateRef) (v : World), B.Effect v (v.after (gs.forM PnpBus.redeemTicket))
  | [], v => refl v
  | g :: gs, _ => (redeemTicket g).trans (redeemAll gs _)

theorem releaseAll : ∀ (ds : List DeviceId) (v : World),
    B.Effect v (v.after (ds.forM fun d => PnpBus.releaseLock (.device d)))
  | [], v => refl v
  | d :: ds, v => (mute (World.of_steps (releaseLock_silent d v)).toMute).trans (releaseAll ds _)

theorem relinquish (v : World) (r : RequestId) :
    B.Effect (v.updateRequest r fun q => { q with locks := [], tickets := [] }) (v.after (relinquish r)) := by
  rw [World.after_relinquish]
  exact (redeemAll _ _).trans (releaseAll _ _)

theorem diverted_eq (h : B.Effect v w) (hb : B.carried = none) : w.journal.diverted = v.journal.diverted := by
  obtain ⟨ds, hds, hd⟩ := h.diverted
  cases ds with
  | nil => rw [hds, List.append_nil]
  | cons d ds =>
    obtain ⟨-, r, hr, -⟩ := hd d List.mem_cons_self
    rw [hb] at hr; cases hr

end Brief.Effect

/-! ## Completion -/

theorem World.requests_complete (h : (w.request r).completed = false) (s : Status) :
    (w.after (complete r s)).requests = (w.updateRequest r fun q =>
      { q with completed := true, status := s, locks := [], tickets := [], signaled := true }).requests := by
  have hr (v : World) (f : Request → Request) : (v.updateRequest r f).requests = v.requests.modify r f := rfl
  rw [after_complete, if_neg (by rw [h]; nofun), hr, (OnlyReleases.relinquish _ r).requests, hr, hr, hr]
  simp only [Table.modify, List.modify_modify_eq]
  rfl

/-- What a request gives back opens no gate, and diverts nothing. -/
theorem World.relinquish_silent (w : World) (r : RequestId) :
    (∀ g, ((w.after (relinquish r)).gate g).state = .enabled → (w.gate g).state = .enabled) ∧
      (w.after (relinquish r)).journal.diverted = w.journal.diverted := by
  have h := Brief.Effect.relinquish (B := {}) w r
  refine ⟨fun g hg => ?_, h.diverted_eq rfl⟩
  have := (h.gates g hg).resolve_right nofun
  rwa [gate_updateRequest] at this

theorem Brief.Effect.complete {B : Brief} (r : RequestId) (s : Status) : B.Effect v (v.after (complete r s)) := by
  by_cases hc : (v.request r).completed = true
  · rw [World.after_complete, if_pos hc]; exact refl v
  have hq := World.requests_complete (Bool.not_eq_true _ ▸ hc) s
  refine (updateRequest r (fun q => ⟨fun _ => rfl, fun _ _ => .inl rfl⟩) fun _ _ _ => ⟨rfl, rfl⟩).trans
    (of_requests hq (fun g hg => .inl ?_) ?_)
  · rw [World.after_complete, if_neg hc, World.gate_updateRequest] at hg
    have := (World.relinquish_silent _ r).1 g hg
    rwa [World.gate_updateRequest] at this ⊢
  · rw [World.after_complete, if_neg hc]
    exact (World.relinquish_silent _ r).2

/-! ## Every step -/

namespace Brief

variable {B : Brief}

theorem Step.effect (h : B.Step v w) : B.Effect v w := by
  cases h with
  | mute h => exact .mute h
  | ask k =>
    have hq (x : RequestId) : (v.ask k).request x = if x = v.requests.size then { kind := k } else v.request x :=
      Table.get_push ..
    have hn : v.request v.requests.size = default := Table.get_of_size_le (Nat.le_refl _)
    have hsize : v.requests.size ≤ (v.ask k).requests.size := by
      rw [World.ask, Table.size_push]; exact Nat.le_succ _
    refine .silent hsize (fun x => ?_) (fun x _ => ?_) (fun g hg => ?_) rfl
    · rw [hq]
      split
      next e => rw [e, hn]; exact .of_default _
      next => exact .refl _
    · rw [hq]
      split
      next => exact fun _ h => absurd h Bool.false_ne_true
      next => exact id
    · exact .inl (by cases g <;> exact hg)
  | inform r information => exact .updateRequest r (fun _ => ⟨id, fun _ => .inr⟩) fun _ => id
  | regate g gate hg => exact .setGate g hg
  | take d r hr =>
    -- what is not complete has nothing to be spent
    refine .trans (.mute (.setLock v d _)) (.updateRequest r (fun _ => ⟨id, fun _ => .inr⟩) fun hw _ hc => ?_)
    exact absurd ((hr hw).symm.trans hc) Bool.false_ne_true
  | giveBack d r =>
    refine .trans
      (.updateRequest r (f := fun q => { q with locks := q.locks.erase d }) (fun _ => ⟨id, fun _ => .inr⟩)
      fun _ hs hc => ?_) (.mute (World.of_steps (releaseLock_silent d _)).toMute)
    obtain ⟨hl, ht⟩ := hs hc
    exact ⟨congrArg (List.erase · d) hl, ht⟩
  | letPass d r hr hg =>
    refine .trans (.setGate (.device d) fun _ => .inl (FilterGate.enabled_of_issue? hg))
      (.updateRequest r (fun _ => ⟨id, fun _ hg => .inr (List.mem_cons_of_mem _ hg)⟩) fun hw _ hc => ?_)
    exact absurd ((hr hw).symm.trans hc) Bool.false_ne_true
  | divert d r hr ht hg =>
    exact {
      size := Nat.le_refl _
      proceeds := fun _ => .refl _
      spent := fun _ _ => id
      gates := fun g hg => .inl (by cases g <;> exact hg)
      diverted := ⟨[d], rfl, fun x hx => by
        cases List.mem_singleton.mp hx
        exact ⟨.inl hg, r, hr, .inr ht⟩⟩ }
  | complete r s => exact .complete r s

theorem Effect.of_steps (h : B.Steps v w) : B.Effect v w :=
  World.of_steps (Relation.ReflTransGen.mono (fun _ _ => Step.effect) _ _ h)

end Brief

end PnpBus
