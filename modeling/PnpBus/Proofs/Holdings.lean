import PnpBus.Proofs.Logbooks
import PnpBus.Proofs.WholeRuns

/-!
# What complete requests hold, and what disabled gates let pass

A request gives everything back when it completes and takes nothing more, as
long as nobody sends it on its way again. Until then it keeps the ticket of
each interceptor that it was handed, and a disabled gate has no ticket out.
-/

namespace PnpBus

variable {R : Regime} {l l' : Logbook} {d : DeviceId} {r : RequestId}

def parkedRequest : List Play := [
  .begin (.device (.create "A" "" (some 0))),
  .begin (.device (.attach 0 (some 0))),
  .begin (.driver (.setInterceptor { diversion := .park } (some 0))),
  .begin (.request (.send 1 .create (some 0))),
  .begin (.bench (.requestGate (.device 1) .disabled)),
  .begin (.request (.complete 0 .success))]

theorem parkedRequest_isPermitted : ∀ p ∈ parkedRequest, p.IsPermitted ⟨0, True, True⟩ := by
  simp [parkedRequest, Play.IsPermitted, Command.IsPermitted, Command.IsMild]

/-! ## Complete requests -/

theorem Logged.spent (h : Logged R l) : ∀ r ∉ l.again, (l.world.request r).IsSpent := by
  refine h.induct (fun w hw r _ hc => ?_) fun hs ih r hr => hs.spent r hr (ih r fun hm => hr (hs.again r hm))
  rw [World.request, hw.requests] at hc
  cases hc

/-- Throughout a run, a complete request holds neither a reference nor a ticket, unless a command that carries it
began or went on when it was complete already. -/
theorem completed_holds_nothing (h : Logged R l) (hr : r ∉ l.again) (hc : (l.world.request r).completed = true) :
    (l.world.request r).locks = [] ∧ (l.world.request r).tickets = [] := h.spent r hr hc

theorem completed_holds_nothing_of_parked :
    ∃ l, Logged ⟨0, True, True⟩ l ∧ l.handed = [(some 2, 1)] ∧ (l.world.request 2).completed = true ∧
      (l.world.request 2).locks = [] ∧ (l.world.request 2).tickets = [] := by
  obtain ⟨l, hl, h⟩ := Logged.of_play World.isFresh_initial parkedRequest_isPermitted
    (q := fun l => l.handed = [(some 2, 1)] && (l.again.isEmpty && (l.world.request 2).completed))
      (by decide +kernel)
  simp only [Bool.and_eq_true, List.isEmpty_iff, decide_eq_true_eq] at h
  exact ⟨l, hl, h.1, h.2.2, completed_holds_nothing hl (by rw [h.2.1]; exact nofun) h.2.2⟩

def completedResent : List Play := [
  .begin (.device (.create "A" "" (some 0))),
  .begin (.request (.send 0 .create (some 0))),
  .begin (.request (.resend 0 0 (some 0)))]

theorem completed_resent_holds_lock :
    ∃ c, Reaches ⟨0, True, False⟩ c ∧ c.suspended = [] ∧ (c.world.request 0).completed = true ∧
      (c.world.request 0).locks = [0] := by
  obtain ⟨c, hc, h⟩ := Reaches.of_play (R := ⟨0, True, False⟩) (l := completedResent) World.isFresh_initial
    (by simp [completedResent, Play.IsPermitted, Command.IsPermitted])
    (q := fun c => c.suspended.isEmpty && ((c.world.request 0).completed && (c.world.request 0).locks = [0]))
    (by decide +kernel)
  simp only [Bool.and_eq_true, List.isEmpty_iff, decide_eq_true_eq] at h
  exact ⟨c, hc, h⟩

/-! ## Disabled gates -/

theorem World.not_mem_of_disabled {w : World} {g : GateRef}
    (h : w.Ticketed (fun g n => ∃ t : Turnstile, g.Shows t ∧ t.out = n) []) (hg : (w.gate g).state = .disabled)
    (r : RequestId) : g ∉ (w.request r).tickets := by
  obtain ⟨t, hs, ht⟩ := h g
  rw [hs.state, Turnstile.state_eq_disabled] at hg
  rw [hg.2, List.count_nil, Nat.add_zero, ticketsOn, eq_comm, Nat.add_eq_zero_iff] at ht
  exact List.count_eq_zero.mp (Table.of_sum_eq_zero ht.1 rfl r)

/-- What was handed to an interceptor keeps its ticket until it is complete or nobody wants it any more. -/
theorem Logged.handed (h : Logged R l) :
    ∀ x ∈ l.handed, ∃ r, x.1 = some r ∧ (r ∈ l.dropped ∨ l.world.HandedTo x.2 r) := by
  refine h.induct (P := fun l => ∀ x ∈ l.handed, ∃ r, x.1 = some r ∧ (r ∈ l.dropped ∨ l.world.HandedTo x.2 r))
    (fun _ _ => nofun) fun {l l'} _ hs ih x hx => ?_
  obtain ⟨new, hnew, hh⟩ := hs.handed
  rw [hnew, List.mem_append] at hx
  rcases hx with hx | hx
  · obtain ⟨r, hr, hd⟩ := ih x hx
    refine ⟨r, hr, ?_⟩
    by_cases hm : r ∈ l'.dropped
    · exact .inl hm
    · exact .inr ((hd.resolve_left fun h => hm (hs.dropped r h)).later (hs.proceeds r hm))
  · obtain ⟨-, r, hr, hd⟩ := hh x hx
    exact ⟨r, hr, .inr hd⟩

/-- What was handed to the interceptor of `d`. -/
def Logbook.handedFor (l : Logbook) (d : DeviceId) : List (Option RequestId) :=
  (l.handed.filter (·.2 = d)).map (·.1)

theorem Logbook.mem_handedFor {q : Option RequestId} : q ∈ l.handedFor d ↔ (q, d) ∈ l.handed := by
  simp [handedFor]

/-- One page leads to another, and nobody asks for the gate of `d` to be enabled. -/
def LeavesShut (R : Regime) (d : DeviceId) (l l' : Logbook) : Prop :=
  ∃ begun, Entry R begun l l' ∧ begun ≠ some (.bench (.requestGate (.device d) .enabled))

theorem LeavesShut.shut (h : LeavesShut R d l l') (hl : l.Faithful R)
    (hd : (l.world.gate (.device d)).state ≠ .enabled) :
    l'.Faithful R ∧ (l'.world.gate (.device d)).state ≠ .enabled ∧ l'.handedFor d = l.handedFor d := by
  obtain ⟨begun, he, hb⟩ := h
  obtain ⟨hs, hf⟩ := he.leads hl
  have ho : begun.bind (·.opens) ≠ some (.device d) := fun h => by
    obtain ⟨c, rfl, hc⟩ := Option.bind_eq_some_iff.mp h
    exact hb (congrArg some (Command.eq_of_opens hc))
  refine ⟨hf, fun h => (hs.gates _ h).elim hd ho, ?_⟩
  obtain ⟨new, hnew, hh⟩ := hs.handed
  have hnone : new.filter (·.2 = d) = [] := List.filter_eq_nil_iff.mpr fun x hx => by
    rw [decide_eq_true_eq]
    rintro rfl
    exact (hh x hx).1.elim hd ho
  rw [Logbook.handedFor, hnew, List.filter_append, hnone, List.append_nil, Logbook.handedFor]

/-- Throughout a run, when the gate of a device is disabled, whatever was handed to the interceptor for that device
is a request that is complete or that nobody wants any more. From then on nothing is handed to the interceptor for
that device until somebody asks for the gate to be enabled. -/
theorem disabled_gate_lets_nothing_pass (h : Logged R l) (hd : (l.world.gate (.device d)).state = .disabled) :
    (∀ q ∈ l.handedFor d, ∃ r, q = some r ∧ (r ∈ l.dropped ∨ (l.world.request r).completed = true)) ∧
    ∀ l', Relation.ReflTransGen (LeavesShut R d) l l' →
      (l'.world.gate (.device d)).state ≠ .enabled ∧ l'.handedFor d = l.handedFor d := by
  have hout (r : RequestId) : .device d ∉ (l.world.request r).tickets :=
    World.not_mem_of_disabled (h.reaches.ticketed FilterGate.tally_shows) hd r
  refine ⟨fun q hq => ?_, fun l' hl => ?_⟩
  · obtain ⟨r, hr, hh⟩ := h.handed (q, d) (Logbook.mem_handedFor.mp hq)
    exact ⟨r, hr, hh.imp_right fun h' => h'.resolve_right (hout r)⟩
  · suffices l'.Faithful R ∧ (l'.world.gate (.device d)).state ≠ .enabled ∧
        l'.handedFor d = l.handedFor d from this.2
    induction hl with
    | refl => exact ⟨h.faithful, by rw [hd]; exact nofun, rfl⟩
    | tail _ hs ih =>
      obtain ⟨hf, hg, hh⟩ := hs.shut ih.1 ih.2.1
      exact ⟨hf, hg, hh.trans ih.2.2⟩

theorem disabled_gate_lets_nothing_pass_of_parked :
    ∃ l, Logged ⟨0, True, True⟩ l ∧ (l.world.gate (.device 1)).state = .disabled ∧ l.handedFor 1 = [some 2] ∧
      (l.world.request 2).completed = true ∧
      ∀ l', Relation.ReflTransGen (LeavesShut ⟨0, True, True⟩ 1) l l' → l'.handedFor 1 = [some 2] := by
  obtain ⟨l, hl, h⟩ := Logged.of_play World.isFresh_initial parkedRequest_isPermitted
    (q := fun l => (l.world.gate (.device 1)).state = .disabled && (l.handedFor 1 = [some 2] && l.dropped.isEmpty))
    (by decide +kernel)
  simp only [Bool.and_eq_true, List.isEmpty_iff, decide_eq_true_eq] at h
  obtain ⟨hd, hh, hdrop⟩ := h
  obtain ⟨hout, hlater⟩ := disabled_gate_lets_nothing_pass hl hd
  obtain ⟨r, hr, hc⟩ := hout (some 2) (by rw [hh]; exact List.mem_singleton.mpr rfl)
  cases hr
  exact ⟨l, hl, hd, hh, hc.resolve_left (by rw [hdrop]; exact nofun), fun l' h => (hlater l' h).2.trans hh⟩

end PnpBus
