import PnpBus.Proofs.Briefs
import PnpBus.Proofs.Deliveries
import PnpBus.Proofs.Footprints
import PnpBus.Proofs.Rollback

/-!
# The way of plain I/O

A request for plain I/O goes down its stack until a gate lets it through to the
interceptor, or to the bottom, where nobody knows what to do with it. On its
way it enters one device after the other and does nothing else.
-/

namespace PnpBus

variable {α β : Type} {b : DriverId} {r : RequestId} {k : Kind} {d f x : DeviceId}
  {es fs above rest : List DeviceId} {i : Interceptor} {g : FilterGate} {t : Stack} {u v w : World}

/-! ## Where a run leads -/

/-- The first run comes to the second one, on a way on which nothing else runs. -/
inductive Run.Leads : Run α → Run α → Prop
  | refl (run : Run α) : Leads run run
  | via {w : World} {rest run : Run α} (h : Leads rest run) : Leads (.via w rest) run

namespace Run.Leads

variable {run run' : Run α}

theorem bind (h : run.Leads run') (g : α → World → Run β) : (run.bind g).Leads (run'.bind g) := by
  induction h with
  | refl => exact .refl _
  | via _ ih => exact .via ih

theorem ends {p : World → α → Prop} (h : run.Leads run') (hp : run'.Ends p) : run.Ends p := by
  induction h with
  | refl => exact hp
  | via _ ih => exact ih hp

end Run.Leads

/-! ## On the way -/

/-- From `v` to `w` request `r` has entered the devices `es`, and nothing else has changed. -/
structure World.Reached (r : RequestId) (es : List DeviceId) (v w : World) : Prop extends Entered r es v w where
  lifecycle : ∀ x, (w.device x).lifecycle = (v.device x).lifecycle
  drivers : w.drivers = v.drivers
  diverted : w.journal.diverted = v.journal.diverted

def World.IsOpen (w : World) (f : DeviceId) : Prop :=
  (w.gate (.device f)).state = .enabled ∧ (w.gate (.device f)).inFlight.toNat < 2 ^ 30 - 1

def World.IsLive (w : World) (x : DeviceId) : Prop :=
  (w.device x).state ≠ .deleted ∧ (w.device x).lock.draining = false

instance (w : World) (f : DeviceId) : Decidable (w.IsOpen f) := inferInstanceAs (Decidable (_ ∧ _))

instance (w : World) (x : DeviceId) : Decidable (w.IsLive x) := inferInstanceAs (Decidable (_ ∧ _))

theorem FilterGate.issue?_isSome (g : FilterGate) :
    g.issue?.isSome = true ↔ g.state = .enabled ∧ g.inFlight.toNat < 2 ^ 30 - 1 := by
  have hm : g.inFlight < maxInFlight ↔ g.inFlight.toNat < 2 ^ 30 - 1 := UInt32.lt_iff_toNat_lt
  rw [issue?, ← hm]
  split
  next h => exact iff_of_true rfl h
  next h => exact iff_of_false nofun h

namespace World.Reached

theorem trans (h : Reached r es u v) (h' : Reached r fs v w) (hf : ∀ x ∈ fs, x ∉ es) :
    Reached r (fs ++ es) u w where
  toEntered := h.toEntered.trans h'.toEntered hf
  lifecycle x := (h'.lifecycle x).trans (h.lifecycle x)
  drivers := h'.drivers.trans h.drivers
  diverted := h'.diverted.trans h.diverted

theorem take (hd : d < w.devices.size) (hr : w.Knows r) : Reached r [d] w (w.take d r) where
  toEntered := .take hd hr
  lifecycle x := by
    rw [World.take, device_updateRequest, setLock, device_updateDevice]
    split
    next h => rw [h.1]
    next => rfl
  drivers := rfl
  diverted := rfl

theorem gate (h : Reached r es v w) (x : DeviceId) : w.gate (.device x) = v.gate (.device x) := by
  rw [World.gate, World.gate, h.device x]
  rfl

theorem isOpen (h : Reached r es v w) : w.IsOpen x ↔ v.IsOpen x := by
  rw [IsOpen, IsOpen, h.gate]

theorem isLive (h : Reached r es v w) (hx : v.IsLive x) : w.IsLive x := by
  refine ⟨?_, ?_⟩
  · rw [Device.state, h.lifecycle]
    exact hx.1
  · rw [h.device x]
    show (if x ∈ es then (v.device x).lock.lend else (v.device x).lock).draining = false
    split <;> exact hx.2

end World.Reached

/-! ## Through a stack -/

theorem functional_io (hk : k.isIo = true) (below : Call Status) :
    functional b d r below k w = transfer b d r below w := by
  cases k <;> first | rfl | cases hk

theorem physical_io (hk : k.isIo = true) : physical b d r k w = .done w .notSupported := by
  cases k <;> first | rfl | cases hk

/-- The request enters the top of the stack. -/
theorem admitted_leads {handler : Call Status} {run : Run Status} (hx : v.IsLive d)
    (h : (handler (v.take d r)).Leads run) : (admitted d r k handler v).Leads run := by
  rw [admitted_ok (enter_open r k hx.1 (by rw [hx.2]; nofun))]
  exact .via h

theorem transfer_closed {below : Call Status} (h : (w.driver b).interceptor = none ∨ ¬w.IsOpen d) :
    transfer b d r below w = below w := by
  rw [transfer_apply]
  split
  · rfl
  next i hi =>
    have hg : (w.gate (.device d)).issue? = none := by
      rw [← Option.not_isSome_iff_eq_none, FilterGate.issue?_isSome]
      exact h.resolve_left (by rw [hi]; nofun)
    rw [hg]

theorem transfer_open {below : Call Status} (hi : (w.driver b).interceptor = some i)
    (hg : (w.gate (.device d)).issue? = some g) :
    transfer b d r below w = divert i d r below (w.letPass (.device d) r g) := by
  rw [transfer_apply, hi, hg]

/-- Whoever is further down a linked stack is somebody else. -/
theorem World.Linked.top_not_mem {d : DeviceId} {lower : Stack} (h : w.Linked (.functional d lower)) :
    d ∉ lower.members := fun hd => Nat.lt_irrefl d (Nat.lt_of_le_of_lt (h.2.2.2.le_top d hd) h.2.2.1)

theorem World.Linked.nodup_layers : ∀ {t : Stack}, w.Linked t → t.layers.Nodup
  | .physical _, _ => List.nodup_nil
  | .functional d lower, h => by
    have hd : d ∉ lower.layers := fun hd => h.top_not_mem (Stack.mem_members_of_layers hd)
    exact List.nodup_cons.mpr ⟨hd, nodup_layers h.2.2.2⟩

/-- Down to the first open gate, where the interceptor takes over. -/
theorem deliver_diverted (hk : k.isIo = true) (hi : (v.driver b).interceptor = some i) (hl : v.Linked t)
    (hr : v.Knows r) (hx : ∀ x ∈ t.members, v.IsLive x) (ht : t.layers = above ++ f :: rest)
    (ho : ∀ x ∈ above, ¬v.IsOpen x) (hg : (v.gate (.device f)).issue? = some g) :
    ∃ lower w, lower.layers = rest ∧ v.Reached r (above ++ [f]).reverse w ∧
      (deliver b r k t v).Leads (divert i f r (deliver b r k lower) (w.letPass (.device f) r g)) := by
  induction t generalizing v above with
  | physical d => cases above <;> cases ht
  | functional d lower ih =>
    have htake : v.Reached r [d] (v.take d r) := .take hl.1 hr
    have hd : v.IsLive d := hx d List.mem_cons_self
    have hi' : ((v.take d r).driver b).interceptor = some i := hi
    cases above with
    | nil =>
      obtain ⟨rfl, hlower⟩ : d = f ∧ lower.layers = rest := List.cons.inj ht
      refine ⟨lower, v.take d r, hlower, htake, admitted_leads hd ?_⟩
      rw [functional_io hk, transfer_open hi' (by rw [htake.gate]; exact hg)]
      exact .refl _
    | cons a above =>
      obtain ⟨rfl, hlower⟩ : d = a ∧ lower.layers = above ++ f :: rest := List.cons.inj ht
      have hc : ¬(v.take d r).IsOpen d := fun h => ho d List.mem_cons_self (htake.isOpen.mp h)
      obtain ⟨below, w, hrest, hw, hrun⟩ := ih hi' (htake.linked hl.2.2.2) (htake.knows hr)
        (fun x hm => htake.isLive (hx x (List.mem_cons_of_mem d hm))) hlower
        (fun x hm h => ho x (List.mem_cons_of_mem d hm) (htake.isOpen.mp h)) (by rw [htake.gate]; exact hg)
      refine ⟨below, w, hrest, ?_, admitted_leads hd ?_⟩
      -- whoever is entered further down is not entered for the second time
      · have hne (x : DeviceId) (hm : x ∈ (above ++ [f]).reverse) : x ∉ [d] := by
          rw [List.mem_reverse] at hm
          have hlayer : x ∈ lower.layers := by
            rw [hlower]
            rcases List.mem_append.mp hm with hm | hm
            · exact List.mem_append_left _ hm
            · rw [List.mem_singleton.mp hm]
              exact List.mem_append_right _ List.mem_cons_self
          rw [List.mem_singleton]
          rintro rfl
          exact hl.top_not_mem (Stack.mem_members_of_layers hlayer)
        rw [List.cons_append, List.reverse_cons]
        exact htake.trans hw hne
      · rw [functional_io hk, transfer_closed (.inr hc)]
        exact hrun

/-- Where no gate is open the bottom has to answer. -/
theorem deliver_undiverted (hk : k.isIo = true) (hl : v.Linked t) (hr : v.Knows r)
    (hx : ∀ x ∈ t.members, v.IsLive x)
    (ho : (v.driver b).interceptor = none ∨ ∀ x ∈ t.layers, ¬v.IsOpen x) :
    ∃ w, (deliver b r k t v).Leads (physical b t.bottom r k w) ∧ v.Reached r t.members.reverse w := by
  induction t generalizing v with
  | physical d => exact ⟨v.take d r, admitted_leads (hx d List.mem_cons_self) (.refl _), .take hl.1 hr⟩
  | functional d lower ih =>
    have htake : v.Reached r [d] (v.take d r) := .take hl.1 hr
    have hc : ((v.take d r).driver b).interceptor = none ∨ ¬(v.take d r).IsOpen d :=
      ho.imp_right fun ho h => ho d List.mem_cons_self (htake.isOpen.mp h)
    obtain ⟨w, hrun, hw⟩ := ih (htake.linked hl.2.2.2) (htake.knows hr)
      (fun x hm => htake.isLive (hx x (List.mem_cons_of_mem d hm)))
      (ho.imp_right fun ho x hm h => ho x (List.mem_cons_of_mem d hm) (htake.isOpen.mp h))
    refine ⟨w, admitted_leads (hx d List.mem_cons_self) ?_, ?_⟩
    · rw [functional_io hk, transfer_closed hc]
      exact hrun
    · have hne (x : DeviceId) (hm : x ∈ lower.members.reverse) : x ∉ [d] := by
        rw [List.mem_singleton]
        rintro rfl
        exact hl.top_not_mem (List.mem_reverse.mp hm)
      show v.Reached r (d :: lower.members).reverse w
      rw [List.reverse_cons]
      exact htake.trans hw hne

/-! ## Nobody moves -/

def World.SamePosture (v w : World) : Prop := ∀ x, (w.device x).posture = (v.device x).posture

namespace World.SamePosture

theorem trans (h : u.SamePosture v) (h' : v.SamePosture w) : u.SamePosture w := fun x => (h' x).trans (h x)

instance : Std.Refl SamePosture := ⟨fun _ _ => rfl⟩

instance : IsTrans World SamePosture := ⟨fun _ _ _ => trans⟩

theorem setLock (w : World) (l : LockRef) (m : RemoveLock) : w.SamePosture (w.setLock l m) := by
  intro x
  cases l with
  | device d =>
    rw [World.setLock, device_updateDevice]
    split
    next h => rw [h.1]; rfl
    next => rfl
  | free n => rfl

theorem setGate (w : World) (g : GateRef) (gate : FilterGate) : w.SamePosture (w.setGate g gate) := by
  intro x
  cases g with
  | device d =>
    rw [World.setGate, device_updateDevice]
    split
    next h =>
      rw [h.1, Device.posture, Device.posture]
      simp
    next => rfl
  | free n => rfl

end World.SamePosture

open World (SamePosture)

theorem completable_samePosture : Completable SamePosture where
  note _ _ _ := rfl
  request _ _ _ _ := rfl
  gate := SamePosture.setGate
  release d := .releaseLock (fun _ _ _ => rfl) fun w => SamePosture.setLock w (.device d)

theorem World.SamePosture.settle (w : World) (r : RequestId) (s : Status) : w.SamePosture (w.after (settle r s)) :=
  World.of_steps (settle_along (completable_samePosture.complete r s) w)

theorem divert_samePosture {below : Call Status} (hb : ∀ v, (below v).Ends fun w _ => v.SamePosture w)
    (i : Interceptor) :
    (divert i d r below v).Ends fun w _ => v.SamePosture w := by
  have hv : v.SamePosture (v.divert i d r) := by
    rw [World.divert]
    split <;> exact fun _ => rfl
  rw [divert_apply]
  split
  · exact hv
  · exact hv
  · exact hv.trans (World.of_steps (completable_samePosture.complete r _ _))
  · exact (hb _).bind fun w s hw => hv.trans (hw.trans (.settle w r s))

/-- Whoever answers, and whoever is asked. -/
theorem deliver_samePosture (hk : k.isIo = true) (b : DriverId) (r : RequestId) :
    ∀ (t : Stack) (v : World), (deliver b r k t v).Ends fun w _ => v.SamePosture w := by
  have enter {d : DeviceId} {handler : Call Status} {v : World}
      (hh : (handler (v.take d r)).Ends fun w _ => (v.take d r).SamePosture w) :
      (admitted d r k handler v).Ends fun w _ => v.SamePosture w := by
    by_cases hg : (v.device d).state = .deleted
    · rw [admitted_error (enter_gone r k hg)]
      exact fun _ => rfl
    by_cases hc : (v.device d).lock.draining = true
    · rw [admitted_error (enter_closed r k hg hc)]
      exact fun _ => rfl
    rw [admitted_ok (enter_open r k hg hc)]
    exact hh.imp fun w _ hw => (SamePosture.setLock v (.device d) _).trans hw
  intro t
  induction t with
  | physical d => exact fun v => enter (by rw [physical_io hk]; exact fun _ => rfl)
  | functional d lower ih =>
    intro v
    refine enter ?_
    rw [functional_io hk, transfer_apply]
    split
    · exact ih _
    · split
      · exact ih _
      next g _ => exact (divert_samePosture ih _).imp fun w _ hw => (SamePosture.setGate _ (.device d) g).trans hw

/-! ## Who gets the request -/

/-- What the interceptor finds. -/
theorem World.Reached.letPass (h : World.Reached r es v w) (hr : v.Knows r) (hq : v.request r = { kind := k })
    (f : DeviceId) (g : FilterGate) :
    (w.letPass (.device f) r g).request r = { kind := k, locks := es, tickets := [.device f] } ∧
      (w.letPass (.device f) r g).journal.diverted = v.journal.diverted ∧
        v.SamePosture (w.letPass (.device f) r g) ∧
      ∀ x, ((w.letPass (.device f) r g).device x).lock =
        if x ∈ es then (v.device x).lock.lend else (v.device x).lock := by
  have hk : (w.setGate (.device f) g).Knows r := h.knows hr
  refine ⟨?_, h.diverted, fun x => ?_, fun x => ?_⟩
  · rw [World.letPass, request_updateRequest, if_pos ⟨rfl, hk⟩]
    show { w.request r with tickets := .device f :: (w.request r).tickets } = _
    rw [h.request, hq]
    show Request.mk _ _ _ _ _ (es ++ []) _ = _
    rw [List.append_nil]
  · refine (SamePosture.setGate w (.device f) g x).trans ?_
    rw [h.device x, Device.posture, Device.posture, h.lifecycle]
  · show ((w.setGate (.device f) g).device x).lock = _
    rw [lock_setGate, h.device x]

/-- An interceptor that has the request has been noted, and may have said how much it moves. -/
theorem World.exists_information_divert (w : World) (i : Interceptor) (f : DeviceId) (r : RequestId) :
    (w.divert i f r).journal.diverted = w.journal.diverted ++ [f] ∧
      ∃ information, (w.divert i f r).request r = { w.request r with information } := by
  rw [divert]
  split
  next n _ =>
    refine ⟨rfl, ?_⟩
    rw [show ((w.after (noteDiverted f)).after (inform r (.bytes n))).request r = _ from request_updateRequest ..]
    split
    · exact ⟨.bytes n, rfl⟩
    · exact ⟨_, rfl⟩
  next => exact ⟨rfl, _, rfl⟩

theorem World.request_complete (hr : w.Knows r) (hc : (w.request r).completed = false) (s : Status) :
    (w.after (complete r s)).request r =
      { w.request r with completed := true, status := s, locks := [], tickets := [], signaled := true } := by
  rw [request, requests_complete hc s]
  exact (request_updateRequest ..).trans (if_pos ⟨rfl, hr⟩)

theorem World.diverted_complete (w : World) (r : RequestId) (s : Status) :
    (w.after (complete r s)).journal.diverted = w.journal.diverted := by
  rw [after_complete]
  split
  · rfl
  · exact (relinquish_silent _ r).2

theorem World.diverted_settle (w : World) (r : RequestId) (s : Status) :
    (w.after (settle r s)).journal.diverted = w.journal.diverted := by
  by_cases h : s = .pending
  · rw [h]
    rfl
  · exact (congrArg (fun p => p.2.journal.diverted) (settle_of_ne r h w)).trans (w.diverted_complete r s)

/-- An interceptor that keeps the request answers that it is pending. -/
theorem divert_kept {below : Call Status} (hi : i.diversion = .park ∨ i.diversion = .answer .pending) (v : World) :
    divert i f r below v = .done (v.divert i f r) .pending := by
  rw [divert_apply]
  rcases hi with hi | hi <;> rw [hi]

/-- An interceptor that does not send the request on is the last one that gets it. -/
theorem divert_last {below : Call Status} (hi : i.diversion ≠ .forward) (v : World) :
    (divert i f r below v).Ends fun w _ => w.journal.diverted = v.journal.diverted ++ [f] := by
  have hv : (v.divert i f r).journal.diverted = v.journal.diverted ++ [f] :=
    (v.exists_information_divert i f r).1
  rw [divert_apply]
  split
  · exact hv
  · exact hv
  · exact (World.diverted_complete ..).trans hv
  next h => exact absurd h hi

theorem Stack.exists_highest {p : DeviceId → Prop} (h : ∃ x ∈ t.layers, p x) :
    ∃ above f rest, t.layers = above ++ f :: rest ∧ (∀ x ∈ above, ¬p x) ∧ p f := by
  classical
  obtain ⟨f, hf⟩ :=
    Option.isSome_iff_exists.mp (List.find?_isSome (p := fun x => decide (p x)).mpr (by simpa using h))
  obtain ⟨hp, above, rest, ht, ho⟩ := List.find?_eq_some_iff_append.mp hf
  exact ⟨above, f, rest, ht, fun x hx => by simpa using ho x hx, by simpa using hp⟩

/-- Plain I/O that is sent into a linked stack of live devices goes to the interceptor at the highest layer whose
gate is open, and nowhere else unless the interceptor sends it on: the request has then entered the devices down to
that layer and holds one ticket, and if the interceptor keeps it, it stays so. Without an interceptor or an open
gate the bottom answers that it is not supported, and the request is completed and holds nothing. No device moves,
whatever the interceptor does. -/
theorem transfer_is_routed (hr : w.Knows r) (hq : w.request r = { kind := k }) (hk : k.isIo = true)
    (hl : w.Linked (w.stack d)) (hx : ∀ x ∈ (w.stack d).members, w.IsLive x) :
    (∀ i, (w.driver b).interceptor = some i → (∃ x ∈ (w.stack d).layers, w.IsOpen x) →
      ∃ above f lower, (w.stack d).layers = above ++ f :: lower.layers ∧ (∀ x ∈ above, ¬w.IsOpen x) ∧ w.IsOpen f ∧
      (above ++ [f]).Nodup ∧
      (∃ v, (dispatch b d r w).Leads
        ((divert i f r (deliver b r k lower) v).bind fun s u => .done (u.after (settle r s)) s) ∧
        v.request r = { kind := k, locks := (above ++ [f]).reverse, tickets := [.device f] } ∧
        v.journal.diverted = w.journal.diverted ∧ w.SamePosture v ∧
        ∀ x, (v.device x).lock = if x ∈ above ++ [f] then (w.device x).lock.lend else (w.device x).lock) ∧
      (i.diversion ≠ .forward → (dispatch b d r w).Ends fun u _ => u.journal.diverted = w.journal.diverted ++ [f]) ∧
      (i.diversion = .park ∨ i.diversion = .answer .pending → (dispatch b d r w).Ends fun u s => s = .pending ∧
        u.journal.diverted = w.journal.diverted ++ [f] ∧ (u.request r).completed = false ∧
        (u.request r).locks = (above ++ [f]).reverse ∧ (u.request r).tickets = [.device f])) ∧
    (((w.driver b).interceptor = none ∨ ∀ x ∈ (w.stack d).layers, ¬w.IsOpen x) →
      (∃ v, (dispatch b d r w).Leads
        ((physical b (w.stack d).bottom r k v).bind fun s u => .done (u.after (settle r s)) s) ∧
        physical b (w.stack d).bottom r k v = .done v .notSupported) ∧
      (dispatch b d r w).Ends fun u s => s = .notSupported ∧ u.journal.diverted = w.journal.diverted ∧
        u.request r = { kind := k, status := .notSupported, completed := true, signaled := true }) ∧
    (dispatch b d r w).Ends fun u _ => w.SamePosture u := by
  have hkind : (w.request r).kind = k := by rw [hq]
  rw [dispatch_apply, hkind]
  refine ⟨fun i hi ho => ?_, fun ho => ?_, ?_⟩
  · obtain ⟨above, f, rest, ht, ho, hf⟩ := Stack.exists_highest ho
    obtain ⟨g, hg⟩ := Option.isSome_iff_exists.mp ((FilterGate.issue?_isSome _).mpr hf)
    obtain ⟨lower, v, rfl, hv, hrun⟩ := deliver_diverted hk hi hl hr hx ht ho hg
    obtain ⟨hreq, hdiv, hposture, hlock⟩ := hv.letPass hr hq f g
    have hn : (above ++ [f]).Nodup := by
      have hlayers := hl.nodup_layers
      rw [ht, ← List.singleton_append, ← List.append_assoc] at hlayers
      exact (List.nodup_append.mp hlayers).1
    refine ⟨above, f, lower, ht, ho, hf, hn, ⟨_, hrun.bind _, hreq, hdiv, hposture, fun x => ?_⟩, fun hn => ?_,
      fun hp => ?_⟩
    · rw [hlock]
      simp only [List.mem_reverse]
    · refine (hrun.bind _).ends ((divert_last hn _).bind fun u s hu => ?_)
      exact (u.diverted_settle r s).trans (hu.trans (by rw [hdiv]))
    -- what the interceptor says about the request does not touch what it holds
    · obtain ⟨hj, information, hi⟩ := (v.letPass (.device f) r g).exists_information_divert i f r
      rw [hreq] at hi
      refine (hrun.bind _).ends ?_
      rw [divert_kept hp]
      refine ⟨rfl, hdiv ▸ hj, ?_⟩
      show (World.request (World.divert _ _ _ _) r).completed = _ ∧
          (World.request (World.divert _ _ _ _) r).locks = _ ∧
        (World.request (World.divert _ _ _ _) r).tickets = _
      rw [hi]
      exact ⟨rfl, rfl, rfl⟩
  · obtain ⟨v, hrun, hv⟩ := deliver_undiverted hk hl hr hx ho
    have hreq := hv.request
    rw [hq] at hreq
    have hs : v.after (settle r .notSupported) = v.after (complete r .notSupported) :=
      congrArg Prod.snd (settle_of_ne r (by decide) v)
    refine ⟨⟨v, hrun.bind _, physical_io hk⟩, (hrun.bind _).ends ?_⟩
    rw [physical_io hk]
    show _ ∧ _ ∧ _
    rw [hs, World.diverted_complete, World.request_complete (hv.knows hr) (by rw [hreq]), hreq]
    exact ⟨rfl, hv.diverted, rfl⟩
  · exact (deliver_samePosture hk b r _ w).bind fun u s hu => hu.trans (.settle u r s)

def World.tapped : World :=
  let driver : Driver := { service := "S", interceptor := some { diversion := .park } }
  let w : World := { drivers := Table.push {} driver, requests := Table.push {} { kind := .create } }
  ((w.enroll 0 ⟨"A", ""⟩ (.physical none)).enroll 0 ⟨"A", ""⟩
    (.functional { lower := .physical 0, active := true }))
    |>.enroll 0 ⟨"B", ""⟩ (.functional { lower := .functional 1 (.physical 0), active := false })
    |>.setGate (.device 2) (.ofState .disabled)

theorem World.tapped_linked : World.tapped.Linked (World.tapped.stack 2) :=
  ⟨by decide +kernel, rfl, by decide, by decide +kernel, rfl, by decide, by decide +kernel, rfl⟩

/-- The layer below gets the request, which has then entered both. -/
theorem transfer_is_routed_of_disabled_top :
    (dispatch 0 2 0 World.tapped).Ends fun u s => s = .pending ∧ u.journal.diverted = [1] ∧
      (u.request 0).completed = false ∧ (u.request 0).locks = [1, 2] ∧ (u.request 0).tickets = [.device 1] := by
  have hopen : ∃ x ∈ (World.tapped.stack 2).layers, World.tapped.IsOpen x := by decide +kernel
  have hlive : ∀ x ∈ (World.tapped.stack 2).members, World.tapped.IsLive x := by decide +kernel
  have hrouted :=
    transfer_is_routed (w := World.tapped) (r := 0) (b := 0) Nat.one_pos rfl rfl World.tapped_linked hlive
  obtain ⟨above, f, lower, ht, ho, hf, -, -, -, hp⟩ := hrouted.1 _ rfl hopen
  obtain ⟨rfl, rfl⟩ : above = [2] ∧ f = 1 := by
    have ht : [2, 1] = above ++ f :: lower.layers := ht
    match above, ht, ho with
    | [], ht, _ =>
      obtain rfl : 2 = f := (List.cons.inj ht).1
      exact absurd hf (by decide +kernel)
    | [x], ht, _ =>
      obtain ⟨hx, ht⟩ := List.cons.inj ht
      exact ⟨hx ▸ rfl, (List.cons.inj ht).1.symm⟩
    | x :: y :: rest, ht, _ => cases rest <;> cases (List.cons.inj (List.cons.inj ht).2).2
  exact hp (.inl rfl)

end PnpBus
