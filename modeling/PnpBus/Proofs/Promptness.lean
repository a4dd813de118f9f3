import PnpBus.Proofs.Attachments
import PnpBus.Proofs.Routes

/-!
# Only a removal waits

Whatever states the devices of a stack are in, whoever holds references and
whatever the interceptor does, a request that is no removal comes back without
a wait. A PnP or power request comes back with an answer, not with the promise
of one, and is complete then: it has given back the references that it took on
its way, and it never had a ticket.
-/

namespace PnpBus

variable {P : World → World → Prop} {b : DriverId} {d : DeviceId} {r : RequestId} {k : Kind}
  {m : Minor} {s : Status} {es fs : List DeviceId} {t : Stack} {u v w x : World} {below : Call Status}

/-! ## What a request does on its way -/

namespace World

/-- From `v` to `w` request `r` has entered the devices `es`, and otherwise has done no more than to move devices,
to change their power and to collect information. -/
structure Visited (r : RequestId) (es : List DeviceId) (v w : World) : Prop where
  devices : w.devices.size = v.devices.size
  requests : w.requests.size = v.requests.size
  request : w.request r = { v.request r with
    locks := es ++ (v.request r).locks
    information := (w.request r).information }
  device : ∀ x, w.device x = { v.device x with
    lifecycle := (w.device x).lifecycle
    power := (w.device x).power
    lock := if x ∈ es then (v.device x).lock.lend else (v.device x).lock }
  bench : w.bench = v.bench

namespace Visited

theorem trans (h : Visited r es u v) (h' : Visited r fs v w) (hf : ∀ x ∈ fs, x ∉ es) :
    Visited r (fs ++ es) u w where
  devices := h'.devices.trans h.devices
  requests := h'.requests.trans h.requests
  request := by rw [h'.request, h.request, List.append_assoc]
  device x := by
    rw [h'.device x, h.device x]
    by_cases hx : x ∈ fs
    · simp [hx, hf x hx]
    · simp [hx]
  bench := h'.bench.trans h.bench

/-- Without an entry. -/
theorem of_devices (hs : w.devices.size = v.devices.size) (hr : w.requests = v.requests) (hb : w.bench = v.bench)
    (hd : ∀ x, w.device x = { v.device x with
      lifecycle := (w.device x).lifecycle
      power := (w.device x).power }) : Visited r [] v w where
  devices := hs
  requests := by rw [hr]
  request := by rw [World.request, hr]; rfl
  device x := by simpa only [List.not_mem_nil, if_false] using hd x
  bench := hb

theorem refl (w : World) : Visited r [] w w := of_devices rfl rfl rfl fun _ => rfl

theorem note (w : World) (n : Notice) : Visited r [] w (w.note n) := of_devices rfl rfl rfl fun _ => rfl

theorem updateDevice (w : World) (d : DeviceId) {f : Device → Device}
    (hf : ∀ v, f v = { v with lifecycle := (f v).lifecycle, power := (f v).power }) :
    Visited r [] w (w.updateDevice d f) := by
  refine of_devices (w.size_updateDevice d f) rfl rfl fun x => ?_
  rw [device_updateDevice]
  split
  next hx => rw [hx.1]; exact hf _
  next => rfl

theorem inform (w : World) (information : Information) : Visited r [] w (w.after (inform r information)) := by
  refine ⟨rfl, w.requests_size_updateRequest r _, ?_, fun _ => ?_, rfl⟩
  · rw [show (w.after (PnpBus.inform r information)).request r = _ from request_updateRequest ..]
    split <;> rfl
  · simp only [List.not_mem_nil, if_false]
    rfl

theorem take (hd : d < w.devices.size) (hr : w.Knows r) : Visited r [d] w (w.take d r) where
  devices := (Entered.take hd hr).devices
  requests := (Entered.take hd hr).requests
  request := by rw [(Entered.take hd hr).request]
  device x := by rw [(Entered.take hd hr).device x]
  bench := rfl

theorem knows (h : Visited r es v w) (hr : v.Knows r) : w.Knows r := by
  rw [Knows, h.requests]; exact hr

theorem gate (h : Visited r es v w) (g : GateRef) : w.gate g = v.gate g := by
  cases g with
  | device x => rw [World.gate, World.gate, h.device x]; rfl
  | free n => rw [World.gate, World.gate, h.bench]

theorem linked (h : Visited r es v w) : v.Linked t → w.Linked t := by
  refine Linked.mono (Nat.le_of_eq h.devices.symm) fun d _ => ?_
  rw [h.device d]; rfl

/-- What a device does by itself while the request is there. -/
theorem answerable (k : Kind) (d : DeviceId) : Answerable (Visited r []) k r d where
  note := note
  inform information := .step fun w => .inform w information
  move _ t := .step fun w => by
    rw [after]
    by_cases h : (w.device d).state.canBecome t = true
    · rw [moveDevice_ok h]; exact updateDevice w d fun _ => rfl
    · rw [moveDevice_error h]; exact note w _
  restore _ := .step fun w => by
    rw [after]
    by_cases h : (w.device d).state.isRevocable = true
    · rw [restoreDevice_ok h]; exact updateDevice w d fun _ => rfl
    · rw [restoreDevice_error h]; exact note w _
  power c := .step fun w => by
    rw [after]
    by_cases h : (w.device d).state = .deleted
    · rw [changePower_error c h]; exact refl w
    · rw [changePower_ok c h]; exact updateDevice w d fun _ => rfl

instance : Std.Refl (Visited r []) := ⟨refl⟩

instance : IsTrans World (Visited r []) := ⟨fun _ _ _ h h' => h.trans h' nofun⟩

end Visited

end World

open World (Visited)

/-! ## At each level -/

def Call.Replies (P : World → World → Prop) (c : Call Status) : Prop :=
  ∀ v, (c v).Ends fun w s => s ≠ .pending ∧ P v w

structure World.Surrounds (r : RequestId) (P : World → World → Prop) : Prop where
  alone : ∀ {v w}, Visited r [] v w → P v w
  before : ∀ {u v w}, Visited r [] u v → P v w → P u w
  after : ∀ {u v w}, P u v → Visited r [] v w → P u w

theorem cancel_ne_pending (d : DeviceId) (q : PnpState) (w : World) : ((cancel d q).run w).1 ≠ .error .pending := by
  by_cases h : (w.device d).state = q
  · rw [cancel_of_eq h]
    by_cases hr : (w.device d).state.isRevocable = true
    · rw [restoreDevice_ok hr]; nofun
    · rw [restoreDevice_error hr]; nofun
  · rw [cancel_of_ne h]; nofun

section
variable (hP : World.Surrounds r P) (hb : below.Replies P)
include hP hb

theorem moveThen_replies (d : DeviceId) (q : PnpState) : (moveThen d q below).Replies P := by
  intro v
  by_cases h : (v.device d).state.canBecome q = true
  · rw [moveThen_ok d v below h]
    exact (hb _).imp fun w s hw => ⟨hw.1, hP.before (.updateDevice v d fun _ => rfl) hw.2⟩
  · rw [moveThen_error d v below h]
    exact ⟨nofun, hP.alone (.note v _)⟩

theorem forwardOrRollBack_replies (d : DeviceId) : (forwardOrRollBack d below).Replies P := by
  intro v
  rw [forwardOrRollBack_apply]
  refine (hb v).bind fun w s hw => ?_
  split
  · exact hw
  · have hrestore := (Visited.answerable (r := r) (.pnp .startDevice) d).restore rfl
    exact ⟨hw.1, hP.after (hP.after hw.2 (.note w _)) (World.of_steps (hrestore _))⟩

theorem forwardThenCancel_replies (d : DeviceId) (q : PnpState) : (forwardThenCancel d q below).Replies P := by
  intro v
  rw [forwardThenCancel_apply]
  refine (hb v).bind fun w s hw => ⟨?_, ?_⟩
  · have hc := cancel_ne_pending d q w
    split
    · exact hw.1
    next e he => exact fun h => hc (he.trans (congrArg Except.error h))
  · exact hP.after hw.2 (World.of_steps ((Visited.answerable (.pnp .startDevice) d).cancel rfl q w))

theorem functionalMinor_replies (b : DriverId) (d : DeviceId) (hm : m ≠ .removeDevice) :
    Call.Replies P (functionalMinor b d r below m) := by
  cases m with
  | startDevice =>
    intro v
    rw [functionalMinor_startDevice]
    refine moveThen_replies hP ?_ d _ v
    intro w
    refine (forwardOrRollBack_replies hP hb d w).bind fun w' s hw => ?_
    split
    · have hmove := (Visited.answerable (r := r) (.pnp .startDevice) d).move rfl .started
      refine ⟨?_, hP.after hw.2 (World.of_steps (hmove w'))⟩
      by_cases h : (w'.device d).state.canBecome .started = true
      · rw [moveDevice_ok h]; nofun
      · rw [moveDevice_error h]; nofun
    · exact hw
  | queryStopDevice => exact moveThen_replies hP (forwardOrRollBack_replies hP hb d) d _
  | cancelStopDevice => exact forwardThenCancel_replies hP hb d _
  | stopDevice => exact moveThen_replies hP hb d _
  | queryRemoveDevice => exact moveThen_replies hP (forwardOrRollBack_replies hP hb d) d _
  | cancelRemoveDevice => exact forwardThenCancel_replies hP hb d _
  | removeDevice => exact absurd rfl hm
  | surpriseRemoval => exact moveThen_replies hP hb d _
  | queryId i => exact hb
  | queryRelations i =>
    cases i with
    | bus => exact fun v => ⟨nofun, hP.alone ((Visited.note v _).trans (.inform _ _) nofun)⟩
    | _ => exact hb

theorem functional_replies (b : DriverId) (d : DeviceId) (hk : k.isIo = false) (hr : k ≠ .pnp .removeDevice) :
    (functional b d r below k).Replies P := by
  intro v
  cases k with
  | pnp m =>
    rw [functional_pnp]
    refine (functionalMinor_replies hP hb b d (fun e => hr (congrArg Kind.pnp e)) _).imp fun w s hw => ?_
    exact ⟨hw.1, hP.before (.note v _) hw.2⟩
  | power c =>
    have hpower := World.of_steps ((Visited.answerable (r := r) (.power c) d).power c v)
    rw [functional_power]
    by_cases h : (v.device d).state = .deleted
    · rw [World.after, changePower_error c h] at hpower ⊢
      exact ⟨fun he => (by cases he), hP.alone hpower⟩
    · rw [World.after, changePower_ok c h] at hpower ⊢
      exact (hb _).imp fun w s hw => ⟨hw.1, hP.before hpower hw.2⟩
  | _ => cases hk

end

theorem physicalMinor_replies (b : DriverId) (d : DeviceId) (hm : m ≠ .removeDevice) (v : World) :
    ((physicalMinor b d r m).run v).Ends fun _ a => a ≠ .error .pending := by
  have move (q : PnpState) (w : World) : ((moveDevice d q).run w).1 ≠ .error .pending := by
    by_cases h : (w.device d).state.canBecome q = true
    · rw [moveDevice_ok h]; exact fun he => by cases he
    · rw [moveDevice_error h]; exact fun he => by cases he
  cases m with
  | startDevice =>
    rw [physicalMinor, Call.run_bind, Call.run_lift]
    by_cases h : (v.device d).state.canBecome .startPending = true
    · rw [moveDevice_ok h]; exact move .started _
    · rw [moveDevice_error h]; exact fun he => by cases he
  | removeDevice => exact absurd rfl hm
  | queryStopDevice => exact move _ v
  | cancelStopDevice => exact cancel_ne_pending d _ v
  | stopDevice => exact move _ v
  | queryRemoveDevice => exact move _ v
  | cancelRemoveDevice => exact cancel_ne_pending d _ v
  | surpriseRemoval => exact move _ v
  | queryId i => exact fun he => by cases he
  | queryRelations i => cases i <;> exact fun he => by cases he

theorem physical_replies (b : DriverId) (d : DeviceId) (hk : k.isIo = false) (hr : k ≠ .pnp .removeDevice) :
    (physical b d r k).Replies (Visited r []) := by
  intro v
  have hends : (physical b d r k v).Ends fun _ s => s ≠ .pending := by
    cases k with
    | pnp m =>
      rw [physical_pnp]
      refine (physicalMinor_replies b d (fun e => hr (congrArg Kind.pnp e)) _).bind fun w a ha => ?_
      cases a with
      | ok _ => exact nofun
      | error e => exact fun h => ha (congrArg Except.error h)
    | power c =>
      rw [physical_power]
      by_cases h : (v.device d).state = .deleted
      · rw [changePower_error c h]; exact nofun
      · rw [changePower_ok c h]; exact nofun
    | _ => cases hk
  have halong := (Visited.answerable (r := r) k d).physical (Q := fun _ _ => True) b hr v
  exact (halong.ends hends).imp fun w s h => ⟨h.2, World.of_steps h.1⟩

/-! ## Through a stack -/

def World.Visits (r : RequestId) (t : Stack) (v w : World) : Prop :=
  v.Linked t → v.Knows r → ∃ es ⊆ t.members, es.Nodup ∧ Visited r es v w

theorem World.surrounds_visits (r : RequestId) (t : Stack) : World.Surrounds r (World.Visits r t) where
  alone h _ _ := ⟨[], List.nil_subset _, List.nodup_nil, h⟩
  before h h' hl hr := by
    obtain ⟨es, hsub, hn, he⟩ := h' (h.linked hl) (h.knows hr)
    exact ⟨es, hsub, hn, by simpa only [List.append_nil] using h.trans he fun _ _ => List.not_mem_nil⟩
  after h h' hl hr := by
    obtain ⟨es, hsub, hn, he⟩ := h hl hr
    exact ⟨es, hsub, hn, he.trans h' nofun⟩

/-- The device at the top is entered before the rest of the stack, which it is not part of. -/
theorem World.Linked.enters {lower : Stack} (hl : v.Linked (.functional d lower)) (hsub : es ⊆ lower.members)
    (hn : es.Nodup) :
    es ++ [d] ⊆ (Stack.functional d lower).members ∧ (es ++ [d]).Nodup ∧ ∀ x ∈ es, x ∉ [d] := by
  have hd (x : DeviceId) (hx : x ∈ es) : x ≠ d := fun e => hl.top_not_mem (e ▸ hsub hx)
  refine ⟨fun x hx => ?_, ?_, fun x hx hm => hd x hx (List.mem_singleton.mp hm)⟩
  · rcases List.mem_append.mp hx with hx | hx
    · exact List.mem_cons_of_mem d (hsub hx)
    · rw [List.mem_singleton.mp hx]; exact List.mem_cons_self
  · refine List.nodup_append.mpr ⟨hn, by simp, fun x hx y hy e => ?_⟩
    exact hd x hx (e.trans (List.mem_singleton.mp hy))

theorem World.Visits.after_take {lower : Stack} (h : (v.take d r).Visits r lower w) :
    v.Visits r (.functional d lower) w := by
  intro hl hr
  have htake : Visited r [d] v (v.take d r) := .take hl.1 hr
  obtain ⟨es, hsub, hn, he⟩ := h (htake.linked hl.2.2.2) (htake.knows hr)
  obtain ⟨hsub', hn', hd⟩ := hl.enters hsub hn
  exact ⟨es ++ [d], hsub', hn', htake.trans he hd⟩

theorem admitted_replies {handler : Call Status} (hP : ∀ v w, Visited r [] v w → P v w)
    (hh : (handler (v.take d r)).Ends fun w s => s ≠ .pending ∧ P v w) :
    (admitted d r k handler v).Ends fun w s => s ≠ .pending ∧ P v w := by
  by_cases hg : (v.device d).state = .deleted
  · rw [admitted_error (enter_gone r k hg)]
    exact ⟨nofun, hP _ _ (.note v _)⟩
  by_cases hc : (v.device d).lock.draining = true
  · rw [admitted_error (enter_closed r k hg hc)]
    exact ⟨nofun, hP _ _ (.refl v)⟩
  rw [admitted_ok (enter_open r k hg hc)]
  exact hh

theorem deliver_replies (hk : k.isIo = false) (hr : k ≠ .pnp .removeDevice) (b : DriverId) (r : RequestId) :
    ∀ t : Stack, (deliver b r k t).Replies (World.Visits r t)
  | .physical d => fun v => by
    refine admitted_replies (fun _ _ => (World.surrounds_visits r _).alone) ?_
    refine (physical_replies b d hk hr _).imp fun w s hw => ⟨hw.1, fun hl hr => ?_⟩
    exact ⟨[d], List.Subset.refl _, by simp, (Visited.take hl.1 hr).trans hw.2 nofun⟩
  | .functional d lower => fun v => by
    have hb := deliver_replies hk hr b r lower
    refine admitted_replies (fun _ _ => (World.surrounds_visits r _).alone) ?_
    exact (functional_replies (World.surrounds_visits r lower) hb b d hk hr _).imp fun w s hw =>
      ⟨hw.1, hw.2.after_take⟩

theorem deliver_prompt (hk : k ≠ .pnp .removeDevice) (b : DriverId) (r : RequestId) (t : Stack) (v : World) :
    (deliver b r k t v).Ends fun _ _ => True := by
  cases hi : k.isIo with
  | false => exact (deliver_replies hi hk b r t v).imp fun _ _ _ => trivial
  | true => exact (deliver_samePosture hi b r t v).imp fun _ _ _ => trivial

theorem dispatch_answers (hk : (w.request r).kind.isIo = false) (hrem : (w.request r).kind ≠ .pnp .removeDevice) :
    (dispatch b d r w).Ends fun _ s => s ≠ .pending := by
  rw [dispatch_apply]
  exact (deliver_replies hk hrem b r _ w).bind fun _ _ h => h.1

/-! ## When the answer is there -/

/-- Without a ticket to give back, completion does not touch a gate. -/
theorem World.gate_complete (ht : (w.request r).tickets = []) (s : Status) (g : GateRef) :
    (w.after (complete r s)).gate g = w.gate g := by
  have same (w : World) (f : Request → Request) : (w.updateRequest r f).gate g = w.gate g := by cases g <;> rfl
  rw [after_complete]
  split
  · rfl
  · have hu : ((w.updateRequest r fun q => { q with completed := true, status := s }).request r).tickets = [] := by
      rw [request_updateRequest]
      split <;> exact ht
    rw [same, after_relinquish, hu]
    refine ((World.of_steps (Act.Goes.forM releaseLock_silent _ _)).gates g).trans ?_
    exact (same (w.updateRequest r _) _).trans (same w _)

/-- A fresh request that is completed gives back what it took on its way, and nothing else. -/
theorem World.Visited.completed (h : Visited r es w u) (hq : w.request r = { kind := k }) (hr : w.Knows r)
    (hn : es.Nodup) (hsize : ∀ x ∈ es, x < w.devices.size) (s : Status) :
    (u.after (complete r s)).request r =
      { kind := k, status := s, information := (u.request r).information, completed := true, signaled := true } ∧
    (∀ g, (u.after (complete r s)).gate g = w.gate g) ∧
    ∀ x, (u.after (complete r s)).device x = { w.device x with
      lifecycle := (u.device x).lifecycle
      power := (u.device x).power
      lock := if x ∈ es then (w.device x).lock.lend.giveBack else (w.device x).lock } := by
  have hrequest := h.request
  rw [hq] at hrequest
  have hc : (u.request r).completed = false := by rw [hrequest]
  have ht : (u.request r).tickets = [] := by rw [hrequest]
  have hlocks : (u.request r).locks = es := by rw [hrequest]; exact List.append_nil es
  refine ⟨?_, fun g => ?_, fun x => ?_⟩
  · rw [World.request_complete (h.knows hr) hc, hrequest]
  · rw [World.gate_complete ht]
    exact h.gate g
  · rw [World.device_completeAll (h.knows hr) hc ht hlocks hn (fun x hx => h.devices ▸ hsize x hx) s x, h.device x]
    by_cases hx : x ∈ es <;> simp only [hx, if_true, if_false]

/-- A fresh PnP or power request, not to remove, is answered and completed with the answer. Then it holds nothing,
and nobody else holds more or less than before. -/
theorem dispatch_replies (hr : w.Knows r) (hq : w.request r = { kind := k }) (hk : k.isIo = false)
    (hrem : k ≠ .pnp .removeDevice) (hl : w.Linked (w.stack d)) : (dispatch b d r w).Ends fun u s => s ≠ .pending ∧
      (∃ information, u.request r = { kind := k, status := s, information, completed := true, signaled := true }) ∧
      (∀ g, u.gate g = w.gate g) ∧
      ∀ x, (w.device x).lock.count + 1 ≠ 0 → (u.device x).lock.outstanding = (w.device x).lock.outstanding := by
  rw [dispatch_apply, hq]
  refine (deliver_replies hk hrem b r _ w).bind fun u s ⟨hs, hu⟩ => ?_
  obtain ⟨es, hsub, hn, he⟩ := hu hl hr
  have hsettle : u.after (settle r s) = u.after (complete r s) := congrArg Prod.snd (settle_of_ne r hs u)
  obtain ⟨hrequest, hgate, hdevice⟩ := he.completed hq hr hn (fun x hx => hl.size_of_mem x (hsub hx)) s
  show _ ∧ _ ∧ _ ∧ _
  rw [hsettle]
  refine ⟨hs, ⟨_, hrequest⟩, hgate, fun x hx => ?_⟩
  rw [hdevice x]
  by_cases hxe : x ∈ es
  · simp only [if_pos hxe]
    exact RemoveLock.outstanding_giveBack hx
  · simp only [if_neg hxe]

/-! ## Those who ask -/

theorem Run.Ends.bind_congr {α β : Type} {run : Run α} {f g : α → World → Run β}
    (h : run.Ends fun w a => f a w = g a w) : run.bind f = run.bind g := by
  induction run with
  | done w a => exact h
  | via w rest ih => exact congrArg (Run.via w) (ih h)
  | wait w on resume => exact h.elim
  | halt w why => exact h.elim

/-- An identity query never comes to its wait for the completion. -/
theorem queryId_prompt (b : DriverId) (d : DeviceId) (i : IdType) : queryId b d i = (do
    let r ← newRequest (.pnp (.queryId i))
    takeId r (← dispatch b d r)) := by
  refine ExceptT.ext (funext fun w => ?_)
  rw [queryId, Call.run_bind, Call.run_bind, Call.run_act]
  simp only [Run.bind]
  rw [Call.run_bind, Call.run_bind, Call.run_call, Run.bind_assoc, Run.bind_assoc]
  have hq := congrArg Request.kind (request_ask w (.pnp (.queryId i)))
  have hanswers : (dispatch b d w.requests.size (w.ask (.pnp (.queryId i)))).Ends fun _ s => s ≠ .pending :=
    dispatch_answers (by rw [hq]; rfl) (by rw [hq]; exact fun he => by cases he)
  refine Run.Ends.bind_congr (hanswers.imp fun u s hs => ?_)
  simp only [Run.bind]
  rw [if_neg hs]
  rfl

/-- Whatever the world is like, a request that is no removal comes back without a wait. A fresh PnP or power request
comes back with an answer: it is complete with just that status and signaled, it holds nothing, each gate is as it
was, and each lock has as many references out as before, provided that it could count one more. So an identity query
is its request and nothing else, and an attachment never waits either. -/
theorem only_removal_waits (b : DriverId) (d : DeviceId) :
    (∀ (w : World) r, (w.request r).kind ≠ .pnp .removeDevice → (dispatch b d r w).Ends fun _ _ => True) ∧
    (∀ (w : World) r k, w.Knows r → w.request r = { kind := k } → k.isIo = false → k ≠ .pnp .removeDevice →
      w.Linked (w.stack d) → (dispatch b d r w).Ends fun u s => s ≠ .pending ∧
        (∃ information,
          u.request r = { kind := k, status := s, information, completed := true, signaled := true }) ∧
        (∀ g, u.gate g = w.gate g) ∧
        ∀ x, (w.device x).lock.count + 1 ≠ 0 → (u.device x).lock.outstanding = (w.device x).lock.outstanding) ∧
    (∀ i, queryId b d i = (do
      let r ← newRequest (.pnp (.queryId i))
      takeId r (← dispatch b d r))) ∧
    ∀ w, ((attachDevice b d).run w).Ends fun _ _ => True := by
  refine ⟨fun w r hk => ?_, fun w r k hr hq hk hrem hl => dispatch_replies hr hq hk hrem hl, queryId_prompt b d,
    fun w => (attachDevice_ends b d w).imp fun _ _ _ => trivial⟩
  rw [dispatch_apply]
  exact (deliver_prompt hk b r _ w).bind fun _ _ _ => trivial

def World.barred : World := (World.tapped.ask (.pnp .startDevice)).after (closeLock (.device 0))

/-- The start is refused at the bottom, and complete nevertheless. -/
theorem only_removal_waits_of_barred :
    (dispatch 0 2 1 World.barred).Ends fun u s => s = .noSuchDevice ∧ (∃ information, u.request 1 =
      { kind := .pnp .startDevice, status := s, information, completed := true, signaled := true }) ∧
      (u.device 2).lock.outstanding = 0 := by
  have hl : World.barred.Linked (World.barred.stack 2) :=
    ⟨by decide +kernel, rfl, by decide, by decide +kernel, rfl, by decide, by decide +kernel, rfl⟩
  have hwaits := (only_removal_waits 0 2).2.1 World.barred 1 (.pnp .startDevice) Nat.one_lt_two rfl rfl nofun hl
  have hs : (dispatch 0 2 1 World.barred).Ends fun _ s => s = .noSuchDevice := by decide +kernel
  refine (hwaits.and hs).imp ?_
  rintro u _ ⟨⟨-, hu, -, hx⟩, rfl⟩
  exact ⟨rfl, hu, hx 2 (by decide +kernel)⟩

/-- With one reference more than the lock of the device can count, the count comes round to zero, and it stays
there. -/
theorem answer_loses_references : Reaches (.free 0) ⟨.crowded (2 ^ 32 - 2), []⟩ ∧
    (World.crowded (2 ^ 32 - 2)).tokensOn 0 = 2 ^ 32 - 2 ∧
    ((World.crowded (2 ^ 32 - 2)).device 0).lock.outstanding.toNat = 2 ^ 32 - 2 ∧
    (dispatch 0 0 0 ((World.crowded (2 ^ 32 - 2)).ask (.power (.device .d3)))).Ends fun w s =>
      s = .success ∧ (w.device 0).lock.outstanding = 0 :=
  ⟨World.reaches_crowded _, World.tokensOn_crowded _, by decide +kernel, by decide +kernel⟩

end PnpBus
