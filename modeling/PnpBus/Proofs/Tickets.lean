import PnpBus.Proofs.Standing

/-!
# Every ticket that is out is held

Requests and clients hold the tickets of a gate, but for those on their way
back. There is more than one way to read off a gate how many are out; each
`Tally` follows the same moves.
-/

namespace PnpBus

/-! ## Gates by themselves -/

namespace FilterGate

theorem toNat_inFlight (g : FilterGate) : g.inFlight.toNat = g.word.toNat % 2 ^ 30 := by
  show (g.word &&& maxInFlight).toNat = _
  rw [UInt32.toNat_and]
  exact Nat.and_two_pow_sub_one_eq_mod _ 30

theorem toNat_inFlight_pack (s : FilterState) {n : UInt32} (h : n.toNat < 2 ^ 30) :
    (pack s n).inFlight.toNat = n.toNat := by
  have hs : (s.bits <<< 30).toNat % 2 ^ 30 = 0 := by cases s <;> rfl
  rw [toNat_inFlight]
  show ((s.bits <<< 30) ||| n).toNat % 2 ^ 30 = n.toNat
  rw [UInt32.toNat_or, Nat.or_mod_two_pow, hs, Nat.zero_or, Nat.mod_eq_of_lt h]

theorem toNat_inFlight_lt (g : FilterGate) : g.inFlight.toNat < 2 ^ 30 := by
  rw [toNat_inFlight]; exact Nat.mod_lt _ (by decide)

variable {g g' : FilterGate}

theorem inFlight_issue? (h : g.issue? = some g') : g'.inFlight.toNat = g.inFlight.toNat + 1 := by
  unfold issue? at h
  split at h
  next hg =>
    have hlt : g.inFlight.toNat < 2 ^ 30 - 1 := hg.2
    cases h
    rw [toNat_inFlight] at hlt ⊢
    rw [toNat_inFlight, UInt32.toNat_add]
    simp only [UInt32.reduceToNat]
    omega
  next => cases h

theorem inFlight_request? {s : FilterState} (h : g.request? s = some g') :
    g'.inFlight.toNat = g.inFlight.toNat := by
  unfold request? at h
  split at h
  · cases h
  · cases h; exact toNat_inFlight_pack _ g.toNat_inFlight_lt

theorem redeem?_of_succ {n : Nat} (h : g.inFlight.toNat = n + 1) :
    ∃ g', g.redeem? = some g' ∧ g'.inFlight.toNat = n := by
  have h0 : g.inFlight ≠ 0 := fun e => by simp [e] at h
  have hs : (g.inFlight - 1).toNat = n := by
    rw [UInt32.toNat_sub_of_le _ _ (by rw [UInt32.le_iff_toNat_le]; simp; omega)]; simp; omega
  unfold redeem?
  rw [if_neg h0]
  split
  next hp =>
    refine ⟨_, rfl, ?_⟩
    have : g.inFlight.toNat = 1 := by rw [hp.2]; rfl
    rw [ofState, toNat_inFlight_pack _ (by decide)]
    simp; omega
  next =>
    refine ⟨_, rfl, ?_⟩
    have := g.toNat_inFlight_lt
    rw [toNat_inFlight_pack _ (by omega), hs]

/-- `P` reads off a gate how many tickets are out. -/
structure Tally (P : FilterGate → Nat → Prop) : Prop where
  none : P default 0
  /-- A gate that nobody has touched has none out. -/
  eq_zero : ∀ {n}, P default n → n = 0
  issued : ∀ {g g' n}, P g n → g.issue? = some g' → P g' (n + 1)
  redeemed : ∀ {g n}, P g (n + 1) → ∃ g', g.redeem? = some g' ∧ P g' n
  requested : ∀ {g g' n s}, P g n → g.request? s = some g' → P g' n

def Counts (g : FilterGate) (n : Nat) : Prop := g.inFlight.toNat = n

theorem tally_counts : Tally Counts where
  none := rfl
  eq_zero := Eq.symm
  issued h hi := (inFlight_issue? hi).trans (congrArg (· + 1) h)
  redeemed := redeem?_of_succ
  requested h hr := (inFlight_request? hr).trans h

end FilterGate

/-! ## Gates of a world -/

namespace World

variable {w w' : World} {ts : List GateRef} {d : DeviceId} {g : GateRef} {r : RequestId}

/-- Only functional devices have a gate; setting another one changes nothing. -/
def HasGate (w : World) : GateRef → Prop
  | .device d => (w.device d).layer?.isSome
  | .free n => n < w.bench.gates.size

theorem gate_of_not_hasGate (h : ¬w.HasGate g) : w.gate g = default := by
  cases g with
  | device d =>
    have : (w.device d).layer? = none := by simpa [HasGate] using h
    simp [gate, this]
  | free n => exact Table.get_of_size_le (by simpa [HasGate] using h)

theorem gate_updateDevice {f : Device → Device}
    (hf : ∀ v, (f v).layer?.map (·.gate) = v.layer?.map (·.gate)) :
    (w.updateDevice d f).gate g = w.gate g := by
  cases g with
  | device x =>
    simp only [gate, device_updateDevice]
    split
    next h => rw [hf, h.1]
    next => rfl
  | free n => rfl

theorem gate_updateRequest (w : World) (r : RequestId) (f : Request → Request) (g : GateRef) :
    (w.updateRequest r f).gate g = w.gate g := by cases g <;> rfl

theorem gate_updateClients (w : World) (f : Clients → Clients) (g : GateRef) :
    (w.updateClients f).gate g = w.gate g := by cases g <;> rfl

theorem gate_note (w : World) (n : Notice) : (w.note n).gate g = w.gate g := by cases g <;> rfl

theorem gate_setLock (w : World) (d : DeviceId) (lock : RemoveLock) :
    (w.setLock (.device d) lock).gate g = w.gate g :=
  gate_updateDevice fun _ => rfl

theorem gate_releaseLock (w : World) (d : DeviceId) : (w.after (releaseLock (.device d))).gate g = w.gate g := by
  rw [after_releaseLock]
  split
  · exact gate_setLock w d _
  · exact gate_note w _

theorem gate_setGate_of_ne {x : GateRef} (h : x ≠ g) (gate : FilterGate) :
    (w.setGate g gate).gate x = w.gate x := by
  cases g with
  | device d =>
    cases x with
    | device x => simp [World.gate, setGate, device_updateDevice, show x ≠ d from fun e => h (e ▸ rfl)]
    | free n => rfl
  | free n =>
    cases x with
    | device x => rfl
    | free x => simp [World.gate, setGate, updateBench, show n ≠ x from fun e => h (e ▸ rfl)]

theorem gate_setGate_self (h : w.HasGate g) (gate : FilterGate) : (w.setGate g gate).gate g = gate := by
  cases g with
  | device d =>
    obtain ⟨layer, hl⟩ := Option.isSome_iff_exists.mp h
    simp [World.gate, setGate, device_updateDevice, size_of_layer? h, hl]
  | free n => simp [World.gate, setGate, updateBench, Table.get_modify_self h]

theorem gate_congr (hd : w'.devices = w.devices) (hb : w'.bench.gates = w.bench.gates) : w'.gate g = w.gate g := by
  cases g with
  | device d => simp only [gate, device, hd]
  | free n => simp only [gate, hb]

/-- The gate of a new layer is the one that a device has that is not there. -/
theorem gate_enroll (w : World) (b : DriverId) (identity : Identity) {extension : Extension}
    (hx : ∀ layer, extension = .functional layer → layer.gate = {}) :
    (w.enroll b identity extension).gate g = w.gate g := by
  cases g with
  | free n => rfl
  | device d =>
    have hd : (w.enroll b identity extension).device d =
        if d = w.devices.size then { identity, extension } else w.device d := Table.get_push ..
    rw [gate, gate, hd]
    split
    next h =>
      rw [h, device, Table.get_of_size_le (Nat.le_refl _)]
      cases extension with
      | physical parent => rfl
      | functional layer => exact hx layer rfl
    next => rfl

theorem ticketsOn_congr (hr : w'.requests = w.requests) (hc : w'.clients.tickets = w.clients.tickets) :
    w'.ticketsOn g = w.ticketsOn g := by rw [ticketsOn, ticketsOn, hr, hc]

@[simp] theorem ticketsOn_setGate (x : GateRef) (gate : FilterGate) :
    (w.setGate x gate).ticketsOn g = w.ticketsOn g := by cases x <;> rfl

theorem ticketsOn_updateRequest {r : RequestId} (hr : w.Knows r) (f : Request → Request) :
    (w.updateRequest r f).ticketsOn g + (w.request r).tickets.count g =
      w.ticketsOn g + (f (w.request r)).tickets.count g := by
  have := Table.sum_modify hr f (·.tickets.count g)
  simp only [ticketsOn, updateRequest, request] at this ⊢
  omega

theorem sum_modify_none {α : Type} [DecidableEq α] {t : Table (Option α)} {n : Nat} {a : α} (hn : t.get n = some a)
    (x : α) : (t.modify n fun _ => none).sum (·.toList.count x) + [a].count x = t.sum (·.toList.count x) := by
  have hs : n < t.size := Nat.lt_of_not_le fun hs => by rw [Table.get_of_size_le hs] at hn; cases hn
  have := Table.sum_modify hs (fun _ => none) (·.toList.count x)
  simpa [hn] using this

/-! ## Tickets that are out -/

def Ticketed (P : FilterGate → Nat → Prop) (ts : List GateRef) (w : World) : Prop :=
  ∀ g, P (w.gate g) (w.ticketsOn g + ts.count g)

namespace Ticketed

section
variable {P : FilterGate → Nat → Prop}

theorem congr (h : w.Ticketed P ts) (hg : ∀ g, w'.gate g = w.gate g) (ht : ∀ g, w'.ticketsOn g = w.ticketsOn g) :
    w'.Ticketed P ts := fun g => by
  rw [hg, ht]; exact h g

/-- One gate is set to show its new count. -/
theorem setGate {gate : FilterGate} {ts' : List GateRef} (h : w.Ticketed P ts) (hg : w.HasGate g)
    (hp : P gate (w.ticketsOn g + ts'.count g)) (hts : ∀ x ≠ g, ts'.count x = ts.count x) :
    (w.setGate g gate).Ticketed P ts' := fun x => by
  rw [ticketsOn_setGate]
  by_cases hx : x = g
  · subst hx; rw [gate_setGate_self hg]; exact hp
  · rw [gate_setGate_of_ne hx, hts x hx]; exact h x

theorem setLock (h : w.Ticketed P ts) (d : DeviceId) (lock : RemoveLock) :
    (w.setLock (.device d) lock).Ticketed P ts := h.congr (fun _ => gate_setLock w d lock) fun _ => rfl

theorem releaseLock (h : w.Ticketed P ts) (d : DeviceId) : (w.after (releaseLock (.device d))).Ticketed P ts :=
  h.congr (fun _ => gate_releaseLock w d) fun _ =>
    ticketsOn_congr (OnlyReleases.releaseLock w d).requests (by rw [(OnlyReleases.releaseLock w d).clients])

theorem releaseAll : ∀ {w : World} (ds : List DeviceId), w.Ticketed P ts →
    (w.after (ds.forM fun d => PnpBus.releaseLock (.device d))).Ticketed P ts
  | _, [], h => h
  | _, d :: ds, h => releaseAll ds (h.releaseLock d)

/-- A request may take over what is on its way, or put on its way what it holds. -/
theorem handOver {f : Request → Request} {ts' : List GateRef} (h : w.Ticketed P ts) (hr : w.Knows r)
    (ht : ∀ g, (f (w.request r)).tickets.count g + ts'.count g = (w.request r).tickets.count g + ts.count g) :
    (w.updateRequest r f).Ticketed P ts' := fun g => by
  have hsum := ticketsOn_updateRequest (g := g) hr f
  have ht := ht g
  have hn : (w.updateRequest r f).ticketsOn g + ts'.count g = w.ticketsOn g + ts.count g := by omega
  rw [gate_updateRequest, hn]
  exact h g

theorem updateClients {f : Clients → Clients} {ts' : List GateRef} (h : w.Ticketed P ts)
    (ht : ∀ g, (f w.clients).tickets.sum (·.toList.count g) + ts'.count g =
      w.clients.tickets.sum (·.toList.count g) + ts.count g) :
    (w.updateClients f).Ticketed P ts' := fun g => by
  have ht := ht g
  have hn : (w.updateClients f).ticketsOn g + ts'.count g = w.ticketsOn g + ts.count g := by
    simp only [ticketsOn, World.updateClients]
    omega
  rw [gate_updateClients, hn]
  exact h g

theorem updateDevice (h : w.Ticketed P ts) (d : DeviceId) {f : Device → Device}
    (hf : ∀ v, (f v).layer?.map (·.gate) = v.layer?.map (·.gate)) : (w.updateDevice d f).Ticketed P ts :=
  h.congr (fun _ => gate_updateDevice hf) fun _ => rfl

theorem updateLayer (h : w.Ticketed P ts) (d : DeviceId) {f : Layer → Layer}
    (hf : ∀ layer, (f layer).gate = layer.gate) : (w.updateDevice d fun v => v.updateLayer f).Ticketed P ts :=
  h.updateDevice d fun v => by
    rw [v.layer?_updateLayer, Option.map_map]
    exact congrArg (v.layer?.map ·) (funext hf)

theorem enroll (h : w.Ticketed P ts) (b : DriverId) (identity : Identity) {extension : Extension}
    (hx : extension.IsFresh w) : (w.enroll b identity extension).Ticketed P ts :=
  h.congr (fun _ => gate_enroll w b identity fun layer e => by subst e; exact hx.2.2) fun _ => rfl

end

variable {P : FilterGate → Nat → Prop} (hP : FilterGate.Tally P)
include hP

theorem hasGate (h : w.Ticketed P (g :: ts)) : w.HasGate g := by
  refine Classical.byContradiction fun hg => ?_
  have hc := h g
  rw [gate_of_not_hasGate hg, List.count_cons_self] at hc
  exact absurd (hP.eq_zero hc) (Nat.succ_ne_zero _)

theorem redeem? (h : w.Ticketed P (g :: ts)) :
    ∃ gate, (w.gate g).redeem? = some gate ∧ (w.setGate g gate).Ticketed P ts := by
  have hc := h g
  rw [List.count_cons_self] at hc
  obtain ⟨gate, hr, hp⟩ := hP.redeemed hc
  exact ⟨gate, hr, h.setGate (h.hasGate hP) hp fun x hx => (List.count_cons_of_ne (Ne.symm hx)).symm⟩

theorem redeemTicket (h : w.Ticketed P (g :: ts)) : (w.after (redeemTicket g)).Ticketed P ts := by
  obtain ⟨gate, hr, h'⟩ := h.redeem? hP
  rw [after_redeemTicket, hr]
  exact h'

theorem redeemAll : ∀ {w : World} (gs : List GateRef), w.Ticketed P (gs ++ ts) →
    (w.after (gs.forM PnpBus.redeemTicket)).Ticketed P ts
  | _, [], h => h
  | _, _ :: gs, h => redeemAll gs (h.redeemTicket hP)

theorem relinquish (h : w.Ticketed P []) (hr : w.Knows r) : (w.after (relinquish r)).Ticketed P [] := by
  rw [after_relinquish]
  refine releaseAll _ (redeemAll hP _ (h.handOver hr fun g => ?_))
  simp

theorem complete (h : w.Ticketed P []) (hr : w.Knows r) (s : Status) : (w.after (complete r s)).Ticketed P [] := by
  rw [after_complete]
  split
  · exact h
  · have h₁ := h.handOver (f := fun q => { q with completed := true, status := s }) hr fun _ => rfl
    have h₂ := h₁.relinquish hP (r := r) (by simpa using hr)
    refine h₂.handOver ?_ fun _ => rfl
    rw [Knows, (OnlyReleases.relinquish _ r).requests]
    simpa [Knows] using hr

theorem issue {gate : FilterGate} (h : w.Ticketed P ts) (hg : w.HasGate g) (hi : (w.gate g).issue? = some gate) :
    (w.setGate g gate).Ticketed P (g :: ts) := by
  refine h.setGate hg ?_ fun x hx => List.count_cons_of_ne (Ne.symm hx)
  rw [List.count_cons_self, ← Nat.add_assoc]
  exact hP.issued (h g) hi

theorem regate {gate : FilterGate} {wanted : FilterState} (h : w.Ticketed P ts) (hg : w.HasGate g)
    (hq : (w.gate g).request? wanted = some gate) : (w.setGate g gate).Ticketed P ts :=
  h.setGate hg (hP.requested (h g) hq) fun _ _ => rfl

end Ticketed

/-! ## Every move keeps the count -/

section
variable {P : FilterGate → Nat → Prop} (hP : FilterGate.Tally P) {R : Regime}
include hP

theorem Transfer.ticketed (ht : Transfer R w w') (h : w.Ticketed P []) : w'.Ticketed P [] := by
  cases ht with
  | aside ha =>
    exact h.congr (fun _ => gate_congr ha.devices ha.gates) fun _ => ticketsOn_congr ha.requests ha.tickets
  | flag d f => exact h.updateDevice d fun _ => rfl
  | repower d f => exact h.updateDevice d fun _ => rfl
  | ask k =>
    refine h.congr (fun g => by cases g <;> rfl) fun g => ?_
    simp [ticketsOn, ask]
  | know r hr => exact h.updateClients fun _ => rfl
  | inform r hr information => exact h.handOver hr fun _ => rfl
  | take d r hd hr ho hf => exact (h.setLock d _).handOver hr fun _ => rfl
  | giveBack d r hr =>
    have hk : w.Knows r := Nat.lt_of_not_le fun hs => by
      rw [request, Table.get_of_size_le hs] at hr; cases hr
    exact (h.handOver (f := fun q => { q with locks := q.locks.erase d }) hk fun _ => rfl).releaseLock d
  | letPass d r hr hl hg => exact (h.issue hP (g := .device d) hl hg).handOver hr fun x => by simp [List.count_cons]
  | complete r hr s => exact h.complete hP hr s
  | relinquish r hr => exact h.relinquish hP hr
  | pushToken d hd ho hf => exact (h.setLock d _).updateClients fun _ => rfl
  | dropToken n d hn => exact (h.updateClients fun _ => rfl).releaseLock d
  | pushTicket d hl hg => exact (h.issue hP (g := .device d) hl hg).updateClients fun x => by simp
  | dropTicket n g hn => exact (h.updateClients fun x => sum_modify_none hn x).redeemTicket hP
  | regate d wanted hl hg => exact h.regate hP (g := .device d) hl hg

theorem Move.ticketed {p : Prop} (hm : Move R p w w') (h : w.Ticketed P []) : w'.Ticketed P [] := by
  cases hm with
  | transfer ht => exact Transfer.ticketed hP ht h
  | enroll identity extension hx hc hf => exact h.enroll _ identity hx
  | adopt d identity hl hf =>
    have hx : Extension.IsFresh w (.physical (some d)) := fun f e => Option.some.inj e ▸ size_of_layer? hl
    exact (h.enroll _ identity hx).updateLayer d fun _ => rfl
  | takeChildren d hr => exact h.updateLayer d fun _ => rfl
  | shift d m ho hg hc hm => exact h.updateDevice d fun _ => rfl
  | close d hr hd ho hl =>
    rw [after_closeLock, lock_device, if_neg (show ¬(w.device d).lock.draining = true from ho)]
    exact (h.setLock d _).releaseLock d
  | retire d hr hd hg hl =>
    have hs : (w.setLifecycle d ⟨.deleted, (w.device d).state.beforeDeletion⟩).Ticketed P [] :=
      h.updateDevice d fun _ => rfl
    -- the registry is no concern of gates
    refine Ticketed.congr (w := (w.setLifecycle d _).after (leaveParent d)) ?_
      (fun g => by cases g <;> rfl) fun _ => rfl
    rw [after_leaveParent]
    split
    · exact hs.updateLayer _ fun _ => rfl
    · exact hs

end

end World

theorem Evolves.ticketed {P : FilterGate → Nat → Prop} (hP : FilterGate.Tally P) {R : Regime}
    {p : Prop} {v w : World} (h : Evolves R p v w) (hv : v.Ticketed P []) : w.Ticketed P [] := by
  induction h with
  | refl => exact hv
  | tail _ hm ih => exact World.Move.ticketed hP hm ih

end PnpBus
