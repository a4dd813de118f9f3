import PnpBus.Proofs.Overflows
import PnpBus.Proofs.Transparency

/-!
# All devices of a stack agree to a query, or none has moved

When the request that went down a stack and back has completed, nothing but
lifecycles has changed, and no reference is missing.
-/

namespace PnpBus

variable {b : DriverId} {r : RequestId} {ds : List DeviceId} {m : Minor} {q target : PnpState}
  {s : Status} {v w : World}

theorem World.Queried.complete (h : v.Queried r target ds ds w s) (hq : (v.request r).locks = [])
    (ht : (v.request r).tickets = []) (hc : (v.request r).completed = false) (hr : v.Knows r)
    (hs : ∀ d ∈ ds, d < v.devices.size) (x : DeviceId) :
    ((w.after (PnpBus.complete r s)).device x).lifecycle = (w.device x).lifecycle ∧
      (x ∉ ds → (w.after (PnpBus.complete r s)).device x = v.device x) ∧
      ((v.device x).lock.count + 1 ≠ 0 →
        ((w.after (PnpBus.complete r s)).device x).lock.outstanding = (v.device x).lock.outstanding) := by
  obtain ⟨es, hsub, hn, he⟩ := h.entered
  rw [he.complete hq ht hc hr hn (fun d hd => hs d (hsub hd)) s x]
  refine ⟨rfl, fun hx => ?_, fun hl => ?_⟩
  · have hxe : x ∉ es := fun e => hx (hsub e)
    rw [he.device x, h.others x hx, if_neg hxe, if_neg hxe]
  · rw [he.device x]
    by_cases hxe : x ∈ es
    · simp only [if_pos hxe]; exact RemoveLock.outstanding_giveBack hl
    · simp only [if_neg hxe]

/-- Whatever states the devices of a stack are in, a start or a query that is sent to the top ends without a wait.
If it succeeds all devices of the stack are in the target state, and otherwise each is in the state that it was in.
No other device changes, and each lock has as many references out as before, provided that it could count one
more. -/
theorem query_all_or_nothing {t : Stack} (hm : m.query? = some (q, target)) (ht : w.stack t.top = t)
    (hl : w.Linked t) : (send b t.top (.pnp m) w).Ends fun w' s =>
      (s = .success → ∀ x ∈ t.members, (w'.device x).state = target) ∧
      (s ≠ .success → ∀ x ∈ t.members, (w'.device x).state = (w.device x).state) ∧
      (∀ x ∉ t.members, w'.device x = w.device x) ∧
      ∀ x, (w.device x).lock.count + 1 ≠ 0 → (w'.device x).lock.outstanding = (w.device x).lock.outstanding := by
  have hq := request_ask w (.pnp m)
  have hr := knows_ask w (.pnp m)
  have hl' : (w.ask (.pnp m)).Linked t := (World.Passing.ask (b := b) w _).later.linked hl
  show (dispatch b t.top w.requests.size (w.ask (.pnp m))).Ends _
  rw [dispatch_apply, hq, show (w.ask (.pnp m)).stack t.top = t from ht]
  refine (deliver_queried hm hl' hr).bind fun w' s hw => ?_
  have hp : s ≠ .pending := fun e => by
    have := hw.refusal (by rw [e]; nofun)
    rw [e] at this; cases this
  show _ ∧ _
  rw [World.after, settle_of_ne _ hp]
  have hx := hw.complete (by rw [hq]) (by rw [hq]) (by rw [hq]) hr (hl'.size_of_mem ·)
  refine ⟨fun hs x hm => ?_, fun hs x hm => ?_, fun x hm => (hx x).2.1 hm, fun x => (hx x).2.2⟩
  · rw [Device.state, (hx x).1]; exact hw.agreed hs x hm
  · rw [Device.state, (hx x).1]; exact hw.fallen hs x hm

/-- The physical device at the bottom is deleted, so the layers over it fall back. -/
theorem query_all_or_nothing_of_layered :
    (send 0 2 (.pnp .startDevice) (World.layered.setLifecycle 0 ⟨.deleted, .removed⟩)).Ends fun w' s =>
      (s = .success → ∀ x ∈ [2, 1, 0], (w'.device x).state = .started) ∧
      (s ≠ .success → ∀ x ∈ [2, 1, 0],
        (w'.device x).state = ((World.layered.setLifecycle 0 ⟨.deleted, .removed⟩).device x).state) ∧
      (w'.device 2).lock.outstanding =
        ((World.layered.setLifecycle 0 ⟨.deleted, .removed⟩).device 2).lock.outstanding :=
  (query_all_or_nothing (t := .functional 2 (.functional 1 (.physical 0))) rfl rfl
    ⟨by decide, rfl, by decide, by decide, rfl, by decide, by decide, rfl⟩).imp fun _ _ h =>
      ⟨h.1, h.2.1, h.2.2.2 2 (by decide +kernel)⟩

/-- With one reference more than the lock of the device can count, the count comes round to zero, and it stays
there. -/
theorem start_loses_references : Reaches (.free 0) ⟨.crowded (2 ^ 32 - 2), []⟩ ∧
    (World.crowded (2 ^ 32 - 2)).tokensOn 0 = 2 ^ 32 - 2 ∧
    ((World.crowded (2 ^ 32 - 2)).device 0).lock.outstanding.toNat = 2 ^ 32 - 2 ∧
    (send 0 0 (.pnp .startDevice) (World.crowded (2 ^ 32 - 2))).Ends fun w s =>
      s = .success ∧ (w.device 0).lock.outstanding = 0 :=
  ⟨World.reaches_crowded _, World.tokensOn_crowded _, by decide +kernel, by decide +kernel⟩

end PnpBus
