import PnpBus.Proofs.Tickets

/-!
# Accounts: every reference and every ticket is held by somebody

A lock `Counts` the references on its device, and the word of a gate the
tickets that are out. A world is balanced up to what has left its holder and
is still to be given back; a move begins and ends with nothing pending.
-/

namespace PnpBus

/-! ## Locks by themselves -/

/-- The lock has seen `n` references that are not back yet. -/
structure RemoveLock.Counts (l : RemoveLock) (n : Nat) : Prop where
  count : l.count.toNat = n + if l.draining then 0 else 1
  latch : l.latch = true ↔ l.draining = true ∧ n = 0

namespace RemoveLock.Counts

variable {l : RemoveLock} {n : Nat}

theorem default : Counts {} 0 := ⟨rfl, by simp⟩

theorem outstanding (h : l.Counts n) : l.outstanding.toNat = n := by
  have hc := h.count
  unfold RemoveLock.outstanding
  cases hd : l.draining <;> simp only [hd, if_true, if_false, Bool.false_eq_true] at hc ⊢
  · have h0 : l.count ≠ 0 := fun e => by simp [e] at hc
    rw [if_neg h0, UInt32.toNat_sub_of_le _ _ (by rw [UInt32.le_iff_toNat_le]; simp; omega)]
    simp; omega
  · exact hc

theorem acquired (h : l.Counts n) (ho : l.draining = false) (hn : n + 1 < 2 ^ 32 - 1) :
    Counts { l with count := l.count + 1 } (n + 1) := by
  have hc := h.count
  have hl := h.latch
  simp only [ho, Bool.false_eq_true, if_false] at hc
  refine ⟨?_, by simpa [ho] using hl⟩
  simp only [UInt32.toNat_add, hc, ho]
  simp; omega

theorem released (h : l.Counts (n + 1)) :
    ∃ m, l.release? = some m ∧ m.Counts n ∧ m.draining = l.draining := by
  have hc := h.count
  have h0 : l.count ≠ 0 := fun e => by simp [e] at hc; omega
  have hs : (l.count - 1).toNat = l.count.toNat - 1 := by
    rw [UInt32.toNat_sub_of_le _ _ (by rw [UInt32.le_iff_toNat_le]; simp; omega)]; simp
  have h1 : l.count = 1 ↔ l.count.toNat = 1 := by rw [← UInt32.toNat_inj]; rfl
  have hl : l.latch = false := by
    rw [← Bool.not_eq_true]; intro e; exact absurd (h.latch.mp e).2 (by omega)
  refine ⟨_, if_neg h0, ⟨?_, ?_⟩, rfl⟩
  · simp only [hs]; omega
  · simp only [hl, Bool.false_or, decide_eq_true_eq, h1]
    cases hd : l.draining <;> simp only [hd, if_true, if_false, Bool.false_eq_true] at hc ⊢
    · simp; omega
    · simp; omega

theorem close (h : l.Counts n) (ho : l.draining = false) : l.close.Counts (n + 1) := by
  have hl : l.latch = false := by
    rw [← Bool.not_eq_true]; intro e; exact absurd (h.latch.mp e).1 (by simp [ho])
  exact ⟨by simpa [RemoveLock.close, ho] using h.count, by simp [RemoveLock.close, hl]⟩

end RemoveLock.Counts

/-! ## Worlds -/

namespace World

variable {w w' : World} {ls : List DeviceId} {ts : List GateRef} {d : DeviceId} {g : GateRef}

@[simp] theorem lock_setGate (gate : FilterGate) (x : DeviceId) :
    ((w.setGate g gate).device x).lock = (w.device x).lock := by
  cases g with
  | device d =>
    simp only [setGate, device_updateDevice]
    split
    next h => rw [h.1]; simp
    next => rfl
  | free n => rfl

/-- Everything is accounted for but the references `ls` and the tickets `ts`, which are on their way back. -/
structure Balanced (ls : List DeviceId) (ts : List GateRef) (w : World) : Prop where
  locks : ∀ d, (w.device d).lock.Counts (w.tokensOn d + ls.count d)
  gates : ∀ g, (w.gate g).inFlight.toNat = w.ticketsOn g + ts.count g
  clean : w.IsClean

theorem tokensOn_congr (hr : w'.requests = w.requests) (hc : w'.clients.tokens = w.clients.tokens) :
    w'.tokensOn d = w.tokensOn d := by rw [tokensOn, tokensOn, hr, hc]

@[simp] theorem tokensOn_updateDevice (x : DeviceId) (f : Device → Device) :
    (w.updateDevice x f).tokensOn d = w.tokensOn d := rfl

@[simp] theorem tokensOn_setGate (x : GateRef) (gate : FilterGate) :
    (w.setGate x gate).tokensOn d = w.tokensOn d := by cases x <;> rfl

theorem tokensOn_updateRequest {r : RequestId} (hr : w.Knows r) (f : Request → Request) :
    (w.updateRequest r f).tokensOn d + (w.request r).locks.count d =
      w.tokensOn d + (f (w.request r)).locks.count d := by
  have := Table.sum_modify hr f (·.locks.count d)
  simp only [tokensOn, updateRequest, request] at this ⊢
  omega

theorem tokensOn_take {r : RequestId} (hr : w.Knows r) : (w.take d r).tokensOn d = w.tokensOn d + 1 := by
  have := tokensOn_updateRequest (d := d) (w := w.setLock (.device d)
    { (w.device d).lock with count := (w.device d).lock.count + 1 }) hr fun q => { q with locks := d :: q.locks }
  rw [List.count_cons_self, setLock, tokensOn_updateDevice, request_updateDevice] at this
  rw [take, setLock]; omega

theorem tokensOn_pushToken : (w.pushToken d).tokensOn d = w.tokensOn d + 1 := by
  simp [tokensOn, pushToken, updateClients, setLock, Nat.add_assoc]

theorem Balanced.tickets (h : w.Balanced ls ts) : w.Ticketed FilterGate.Counts ts := h.gates

theorem Balanced.congr (h : w.Balanced ls ts) (hl : ∀ d, (w'.device d).lock = (w.device d).lock)
    (hg : ∀ g, w'.gate g = w.gate g) (hd : ∀ d, w'.tokensOn d = w.tokensOn d)
    (ht : ∀ g, w'.ticketsOn g = w.ticketsOn g) (hc : w.IsClean → w'.IsClean) : w'.Balanced ls ts where
  locks d := by rw [hl, hd]; exact h.locks d
  gates := h.tickets.congr hg ht
  clean := hc h.clean

theorem Balanced.size_of_pending (h : w.Balanced ls ts) (hd : 0 < w.tokensOn d + ls.count d) :
    d < w.devices.size := by
  refine Nat.lt_of_not_le fun hs => ?_
  have hc := (h.locks d).count
  rw [device, Table.get_of_size_le hs] at hc
  have : 1 = w.tokensOn d + ls.count d + 1 := hc
  omega

/-! ## Giving back -/

theorem Balanced.setLock {m : RemoveLock} {ls' : List DeviceId} (h : w.Balanced ls ts) (hd : d < w.devices.size)
    (hm : m.Counts (w.tokensOn d + ls'.count d)) (hl : ∀ x ≠ d, ls'.count x = ls.count x) :
    (w.setLock (.device d) m).Balanced ls' ts where
  locks x := by
    simp only [World.setLock, device_updateDevice, tokensOn_updateDevice]
    by_cases hx : x = d
    · subst hx; rw [if_pos ⟨rfl, hd⟩]; exact hm
    · rw [if_neg fun c => hx c.1, hl x hx]; exact h.locks x
  gates := h.tickets.setLock d m
  clean := h.clean

theorem Balanced.releaseLock (h : w.Balanced (d :: ls) ts) :
    (w.after (releaseLock (.device d))).Balanced ls ts := by
  have hc := h.locks d
  rw [List.count_cons_self, ← Nat.add_assoc] at hc
  obtain ⟨m, hm, hn, -⟩ := hc.released
  rw [after_releaseLock, show w.lock (.device d) = (w.device d).lock from rfl, hm]
  exact h.setLock (h.size_of_pending (by rw [List.count_cons_self]; omega)) hn fun x hx =>
    (List.count_cons_of_ne (Ne.symm hx)).symm

theorem Balanced.redeemTicket (h : w.Balanced ls (g :: ts)) : (w.after (redeemTicket g)).Balanced ls ts := by
  obtain ⟨gate, hr, hg⟩ := h.tickets.redeem? FilterGate.tally_counts
  rw [after_redeemTicket, hr]
  refine ⟨fun x => ?_, hg, by cases g <;> exact h.clean⟩
  rw [lock_setGate, tokensOn_setGate]
  exact h.locks x

theorem Balanced.releaseAll : ∀ {w : World} (ds : List DeviceId), w.Balanced (ds ++ ls) ts →
    (w.after (ds.forM fun d => PnpBus.releaseLock (.device d))).Balanced ls ts
  | _, [], h => h
  | _, _ :: ds, h => Balanced.releaseAll ds h.releaseLock

theorem Balanced.redeemAll : ∀ {w : World} (gs : List GateRef), w.Balanced ls (gs ++ ts) →
    (w.after (gs.forM PnpBus.redeemTicket)).Balanced ls ts
  | _, [], h => h
  | _, _ :: gs, h => Balanced.redeemAll gs h.redeemTicket

/-! ## Changing hands -/

theorem Balanced.handOver {r : RequestId} {f : Request → Request} {ls' : List DeviceId} {ts' : List GateRef}
    (h : w.Balanced ls ts) (hr : w.Knows r)
    (hl : ∀ d, (f (w.request r)).locks.count d + ls'.count d = (w.request r).locks.count d + ls.count d)
    (ht : ∀ g, (f (w.request r)).tickets.count g + ts'.count g = (w.request r).tickets.count g + ts.count g) :
    (w.updateRequest r f).Balanced ls' ts' where
  locks d := by
    have := tokensOn_updateRequest (d := d) hr f
    have hl := hl d
    rw [device_updateRequest,
      show (w.updateRequest r f).tokensOn d + ls'.count d = w.tokensOn d + ls.count d by omega]
    exact h.locks d
  gates := h.tickets.handOver hr ht
  clean := h.clean

theorem Balanced.updateClients {f : Clients → Clients} {ls' : List DeviceId} {ts' : List GateRef}
    (h : w.Balanced ls ts)
    (hl : ∀ d, (f w.clients).tokens.sum (·.toList.count d) + ls'.count d =
      w.clients.tokens.sum (·.toList.count d) + ls.count d)
    (ht : ∀ g, (f w.clients).tickets.sum (·.toList.count g) + ts'.count g =
      w.clients.tickets.sum (·.toList.count g) + ts.count g) :
    (w.updateClients f).Balanced ls' ts' where
  locks d := by
    have hl := hl d
    rw [show (w.updateClients f).tokensOn d + ls'.count d = w.tokensOn d + ls.count d by
      simp only [tokensOn, World.updateClients]; omega]
    exact h.locks d
  gates := h.tickets.updateClients ht
  clean := h.clean

theorem Balanced.relinquish {r : RequestId} (h : w.Balanced [] []) (hr : w.Knows r) :
    (w.after (relinquish r)).Balanced [] [] := by
  rw [after_relinquish]
  refine Balanced.releaseAll _ (Balanced.redeemAll _ (h.handOver hr (fun d => ?_) (fun g => ?_)))
  · simp
  · simp

/-! ## Every move keeps the accounts -/

theorem Balanced.agrees {b : DriverId} (h : w.Balanced [] []) (ha : w.Agrees b w') : w'.Balanced [] [] :=
  h.congr (fun d => by rw [device, ha.devices]; rfl) (fun _ => gate_congr ha.devices ha.gates)
    (fun _ => tokensOn_congr ha.requests ha.tokens) (fun _ => ticketsOn_congr ha.requests ha.tickets) ha.clean

theorem Balanced.updateDevice (h : w.Balanced ls ts) (d : DeviceId) {f : Device → Device}
    (hl : ∀ v, (f v).lock = v.lock) (hg : ∀ v, (f v).layer?.map (·.gate) = v.layer?.map (·.gate)) :
    (w.updateDevice d f).Balanced ls ts := by
  refine h.congr (fun x => ?_) (fun _ => gate_updateDevice hg) (fun _ => rfl) (fun _ => rfl) id
  rw [device_updateDevice]
  split
  next hx => rw [hl, hx.1]
  next => rfl

theorem Balanced.enroll (h : w.Balanced [] []) (b : DriverId) (identity : Identity) {extension : Extension}
    (hx : extension.IsFresh w) : (w.enroll b identity extension).Balanced [] [] := by
  have hd (x : DeviceId) : (w.enroll b identity extension).device x =
      if x = w.devices.size then { identity, extension } else w.device x := Table.get_push ..
  have hn : w.device w.devices.size = default := Table.get_of_size_le (Nat.le_refl _)
  refine ⟨fun x => ?_, h.tickets.enroll b identity hx, h.clean⟩
  have := h.locks x
  rw [hd]
  split
  next hs => rw [hs, hn] at this; rw [hs]; exact this
  next => exact this

theorem Balanced.acquire (h : w.Balanced [] ts) (hd : d < w.devices.size) (ho : ¬w.IsClosed d)
    (hf : w.tokensOn d + 1 < 2 ^ 32 - 1) :
    (w.setLock (.device d) { (w.device d).lock with count := (w.device d).lock.count + 1 }).Balanced [d] ts := by
  have hc := h.locks d
  rw [List.count_nil, Nat.add_zero] at hc
  refine h.setLock hd ?_ fun x hx => by simp [Ne.symm hx]
  rw [List.count_singleton_self]
  exact hc.acquired (by simpa [IsClosed] using ho) hf

theorem Balanced.issue {gate : FilterGate} (h : w.Balanced ls ts) (hg : w.HasGate g)
    (hi : (w.gate g).issue? = some gate) : (w.setGate g gate).Balanced ls (g :: ts) where
  locks d := by rw [lock_setGate, tokensOn_setGate]; exact h.locks d
  gates := h.tickets.issue FilterGate.tally_counts hg hi
  clean := by cases g <;> exact h.clean

theorem Balanced.regate {gate : FilterGate} {wanted : FilterState} (h : w.Balanced [] []) (hg : w.HasGate g)
    (hq : (w.gate g).request? wanted = some gate) : (w.setGate g gate).Balanced [] [] where
  locks d := by rw [lock_setGate, tokensOn_setGate]; exact h.locks d
  gates := h.tickets.regate FilterGate.tally_counts hg hq
  clean := by cases g <;> exact h.clean

theorem Balanced.close (h : w.Balanced [] []) (hd : d < w.devices.size) (ho : ¬w.IsClosed d) :
    (w.after (closeLock (.device d))).Balanced [] [] := by
  have ho : (w.device d).lock.draining = false := by simpa [IsClosed] using ho
  rw [after_closeLock, lock_device, if_neg (by simp [ho])]
  refine Balanced.releaseLock (h.setLock hd ?_ fun x hx => by simp [Ne.symm hx])
  rw [List.count_singleton_self]
  exact (h.locks d).close ho

theorem Balanced.retire (h : w.Balanced [] []) (d : DeviceId) (b : DriverId) : (w.retire d b).Balanced [] [] := by
  have hl : ((w.setLifecycle d ⟨.deleted, (w.device d).state.beforeDeletion⟩).after (leaveParent d)).Balanced
      [] [] := by
    have hs :=
      h.updateDevice d (f := fun v => { v with lifecycle := ⟨.deleted, (w.device d).state.beforeDeletion⟩ })
      (fun _ => rfl) (fun _ => rfl)
    rw [after_leaveParent]
    split
    · exact hs.updateDevice _ (fun v => v.lock_updateLayer _) fun v => by
        rw [v.layer?_updateLayer, Option.map_map]; rfl
    · exact hs
  exact hl.congr (fun _ => rfl) (fun _ => rfl) (fun _ => rfl) (fun _ => rfl) id

theorem Balanced.complete {r : RequestId} (h : w.Balanced [] []) (hr : w.Knows r) (s : Status) :
    (w.after (complete r s)).Balanced [] [] := by
  rw [after_complete]
  split
  · exact h
  · have h₁ := h.handOver (f := fun q => { q with completed := true, status := s }) hr (fun _ => rfl) fun _ => rfl
    have h₂ := h₁.relinquish (r := r) (by simpa using hr)
    refine h₂.handOver ?_ (fun _ => rfl) fun _ => rfl
    rw [Knows, (OnlyReleases.relinquish _ r).requests]
    simpa [Knows] using hr

theorem Balanced.giveBack {r : RequestId} (h : w.Balanced [] []) (hr : d ∈ (w.request r).locks) :
    (w.giveBack d r).Balanced [] [] := by
  have hk : w.Knows r := Nat.lt_of_not_le fun hs => by
    rw [request, Table.get_of_size_le hs] at hr; cases hr
  refine Balanced.releaseLock (h.handOver hk (fun x => ?_) fun _ => rfl)
  by_cases hx : x = d
  · subst hx
    have := List.count_pos_iff.mpr hr
    rw [List.count_erase_self, List.count_singleton_self, List.count_nil]; omega
  · rw [List.count_erase_of_ne hx, List.count_singleton, if_neg (by simpa using Ne.symm hx), List.count_nil]

theorem Transfer.balanced {R : Regime} (hb : R.bounded) (ht : Transfer R w w') (h : w.Balanced [] []) :
    w'.Balanced [] [] := by
  cases ht with
  | aside ha => exact h.agrees ha
  | flag d f => exact h.updateDevice d (fun _ => rfl) (fun _ => rfl)
  | repower d f => exact h.updateDevice d (fun _ => rfl) (fun _ => rfl)
  | ask k =>
    refine h.congr (fun _ => rfl) (fun _ => rfl) (fun d => ?_) (fun g => ?_) id
    · simp [tokensOn, ask]
    · simp [ticketsOn, ask]
  | know r hr => exact h.updateClients (fun _ => rfl) fun _ => rfl
  | inform r hr information => exact h.handOver hr (fun _ => rfl) fun _ => rfl
  | take d r hd hr ho hf =>
    refine (h.acquire hd ho ?_).handOver hr (fun x => ?_) fun _ => rfl
    · rw [← tokensOn_take hr]; exact hf hb d
    · simp [List.count_cons]
  | giveBack d r hr => exact h.giveBack hr
  | letPass d r hr hl hg =>
    exact (h.issue (g := .device d) hl hg).handOver hr (fun _ => rfl) fun x => by simp [List.count_cons]
  | complete r hr s => exact h.complete hr s
  | relinquish r hr => exact h.relinquish hr
  | pushToken d hd ho hf =>
    refine (h.acquire hd ho ?_).updateClients (fun x => ?_) fun _ => rfl
    · rw [← tokensOn_pushToken]; exact hf hb d
    · simp
  | dropToken n d hn => exact Balanced.releaseLock (h.updateClients (fun x => sum_modify_none hn x) fun _ => rfl)
  | pushTicket d hl hg => exact (h.issue (g := .device d) hl hg).updateClients (fun _ => rfl) fun x => by simp
  | dropTicket n g hn => exact Balanced.redeemTicket (h.updateClients (fun _ => rfl) fun x => sum_modify_none hn x)
  | regate d wanted hl hg => exact h.regate (g := .device d) hl hg

theorem Move.balanced {R : Regime} {p : Prop} (hb : R.bounded) (hm : Move R p w w') (h : w.Balanced [] []) :
    w'.Balanced [] [] := by
  cases hm with
  | transfer ht => exact Transfer.balanced hb ht h
  | enroll identity extension hx hc hf => exact h.enroll _ identity hx
  | adopt d identity hl hf =>
    have hx : Extension.IsFresh w (.physical (some d)) := fun f e => Option.some.inj e ▸ size_of_layer? hl
    exact (h.enroll _ identity hx).updateDevice d (fun v => v.lock_updateLayer _) fun v => by
      rw [v.layer?_updateLayer, Option.map_map]; rfl
  | takeChildren d hr =>
    exact h.updateDevice d (fun v => v.lock_updateLayer _) fun v => by
      rw [v.layer?_updateLayer, Option.map_map]; rfl
  | shift d m ho hg hc hm => exact h.updateDevice d (fun _ => rfl) (fun _ => rfl)
  | close d hr hd ho hl => exact h.close hd ho
  | retire d hr hd hg hl => exact h.retire d _

end World

end PnpBus
