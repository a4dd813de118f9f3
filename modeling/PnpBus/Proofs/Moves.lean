import Mathlib.Algebra.Group.Nat.Defs
import Mathlib.Logic.Relation
import PnpBus.Proofs.Acts

/-!
# Moves: what can happen to a world at once

Every operation of a driver's clients is made of moves. Between two moves the
accounts are in order: a reference is taken together with the token for it, a
request gives back all it holds when it completes, and a device is deleted,
taken off its parent's list and unregistered in one go.
-/

namespace PnpBus

def PnpState.isLeaving : PnpState → Bool
  | removePending | surpriseRemovePending => true
  | _ => false

def PnpState.beforeDeletion : PnpState → PnpState
  | removePending => removed
  | s => s

def Notice.isSurplus : Notice → Bool
  | surplusRelease | surplusTicket => true
  | _ => false

namespace PnpState

variable {s t : PnpState}

theorem ne_deleted_of_canBecome (h : s.canBecome t = true) : s ≠ .deleted := fun e => by
  rw [e, not_deleted_canBecome] at h; cases h

theorem leaving_of_canBecome (h : s.canBecome t = true) (hs : s.isLeaving = true) :
    t = .surpriseRemovePending ∨ t = .removed ∨ t = .deleted := by
  cases s <;> cases t <;> simp_all [canBecome, isLeaving]

/-- Where a rollback leads to is a state of rest. -/
theorem rests_of_canBecome (h : s.canBecome t = true) (ht : t.isRevocable = true) :
    s = .added ∨ s = .started ∨ s = .stopped := by
  cases s <;> cases t <;> simp_all [canBecome, isRevocable]

end PnpState

structure Lifecycle.IsOrderly (m : Lifecycle) : Prop where
  current : m.current ≠ .removed
  previous : m.previous ≠ .deleted
  /-- What can be taken back was entered from the state that it falls back to. -/
  revocable : m.current.isRevocable = true → m.previous.canBecome m.current = true

namespace Lifecycle.IsOrderly

variable {m : Lifecycle} {s t : PnpState}

theorem moved (h : s.canBecome t = true) (ht : t ≠ .removed) : IsOrderly ⟨t, s⟩ :=
  ⟨ht, PnpState.ne_deleted_of_canBecome h, fun _ => h⟩

theorem rests (h : m.IsOrderly) (hm : m.current.isRevocable = true) :
    m.previous = .added ∨ m.previous = .started ∨ m.previous = .stopped :=
  PnpState.rests_of_canBecome (h.revocable hm) hm

theorem restored (h : m.IsOrderly) (hm : m.current.isRevocable = true) : IsOrderly ⟨m.previous, m.previous⟩ := by
  obtain hp | hp | hp := h.rests hm <;> rw [hp] <;> exact ⟨nofun, nofun, nofun⟩

end Lifecycle.IsOrderly

namespace World

variable (w : World) (d : DeviceId)

/-! ## Leaving, closed, gone -/

def IsLeaving : Prop := (w.device d).state.isLeaving = true

def IsGone : Prop := (w.device d).state = .deleted

def IsDeparting : Prop := w.IsLeaving d ∨ w.IsGone d

variable {w d} in
theorem not_departing (hl : (w.device d).state.isLeaving = false) (hg : (w.device d).state ≠ .deleted) :
    ¬w.IsDeparting d := by
  rintro (h | h)
  · rw [IsLeaving, hl] at h; cases h
  · exact hg h

def IsChild (c : DeviceId) : Prop := (w.device c).parent? = some d ∧ ¬w.IsGone c

def IsClosed : Prop := (w.device d).lock.draining = true

def Knows (r : RequestId) : Prop := r < w.requests.size

@[simp] theorem knows_updateDevice (f : Device → Device) {r : RequestId} :
    (w.updateDevice d f).Knows r ↔ w.Knows r :=
  Iff.rfl

@[simp] theorem knows_updateRequest (x : RequestId) (f : Request → Request) {r : RequestId} :
    (w.updateRequest x f).Knows r ↔ w.Knows r := by rw [Knows, Knows, requests_size_updateRequest]

/-- What a request to a stack relies on: its members are devices of the right role, and each layer is younger than
what is below it. -/
def Linked : Stack → Prop
  | .physical d => d < w.devices.size ∧ (w.device d).role = .physical
  | .functional d lower => d < w.devices.size ∧ (w.device d).role = .functional ∧ lower.top < d ∧ Linked lower

/-- What driver `b` has registered under a key. -/
def lookup (b : DriverId) (key : DeviceKey) : Option DeviceId :=
  (w.driver b).registry.findRole? key.identity key.role

/-! ## Who holds what -/

/-- References in the hands of requests and clients. -/
def tokensOn : Nat :=
  w.requests.sum (·.locks.count d) + w.clients.tokens.sum (·.toList.count d)

def ticketsOn (g : GateRef) : Nat :=
  w.requests.sum (·.tickets.count g) + w.clients.tickets.sum (·.toList.count g)

def Fits : Prop := ∀ d, w.tokensOn d < 2 ^ 32 - 1

/-- Neither a lock nor a gate was ever released without a reference or a ticket. -/
def IsClean : Prop := .surplusRelease ∉ w.journal.notices ∧ .surplusTicket ∉ w.journal.notices

/-! ## Worlds after a move -/

def enroll (b : DriverId) (identity : Identity) (extension : Extension) : World :=
  { w with devices := w.devices.push { identity, extension } }.updateDriver b fun v =>
    { v with registry := v.registry.insert ⟨identity, extension.role⟩ w.devices.size }

def setChildren (children : List DeviceId) : World :=
  w.updateDevice d fun v => v.updateLayer fun layer => { layer with children }

def adopt (b : DriverId) (identity : Identity) : World :=
  (w.enroll b identity (.physical (some d))).updateDevice d fun v =>
    v.updateLayer fun layer => { layer with children := layer.children ++ [w.devices.size] }

def giveBack (r : RequestId) : World :=
  (w.updateRequest r fun q => { q with locks := q.locks.erase d }).after (releaseLock (.device d))

def retire (b : DriverId) : World :=
  ((w.setLifecycle d ⟨.deleted, (w.device d).state.beforeDeletion⟩).after (leaveParent d)).updateDriver b fun v =>
    { v with registry := v.registry.erase (w.device d).key }

def ask (k : Kind) : World := { w with requests := w.requests.push { kind := k } }

def pushToken : World :=
  (w.setLock (.device d) { (w.device d).lock with count := (w.device d).lock.count + 1 }).updateClients fun c =>
    { c with tokens := c.tokens.push (some d) }

def dropToken (n : Nat) : World :=
  (w.updateClients fun c => { c with tokens := c.tokens.modify n fun _ => none }).after (releaseLock (.device d))

def pushTicket (g : GateRef) (gate : FilterGate) : World :=
  (w.setGate g gate).updateClients fun c => { c with tickets := c.tickets.push (some g) }

def dropTicket (n : Nat) (g : GateRef) : World :=
  (w.updateClients fun c => { c with tickets := c.tickets.modify n fun _ => none }).after (redeemTicket g)

def letPass (g : GateRef) (r : RequestId) (gate : FilterGate) : World :=
  (w.setGate g gate).updateRequest r fun q => { q with tickets := g :: q.tickets }

structure Agrees (b : DriverId) (w w' : World) : Prop where
  devices : w'.devices = w.devices
  requests : w'.requests = w.requests
  tokens : w'.clients.tokens = w.clients.tokens
  tickets : w'.clients.tickets = w.clients.tickets
  known : w'.clients.requests = w.clients.requests
  gates : w'.bench.gates = w.bench.gates
  drivers : w.drivers.size ≤ w'.drivers.size
  registry : (w'.driver b).registry = (w.driver b).registry
  clean : w.IsClean → w'.IsClean

end World

theorem knows_ask (w : World) (k : Kind) : (w.ask k).Knows w.requests.size := by
  rw [World.Knows, World.ask, Table.size_push]; exact Nat.lt_succ_self _

theorem request_ask (w : World) (k : Kind) : (w.ask k).request w.requests.size = { kind := k } :=
  Table.get_push_size ..

namespace World.Agrees

variable {b : DriverId} {u v w : World}

theorem note (w : World) {n : Notice} (hn : n.isSurplus = false) : w.Agrees b (w.note n) := by
  refine ⟨rfl, rfl, rfl, rfl, rfl, rfl, Nat.le_refl _, rfl, fun hc => ?_⟩
  have hm {m : Notice} (hm : m.isSurplus = true) : m ∉ w.journal.notices → m ∉ (w.note n).journal.notices := by
    intro h h'
    refine (List.mem_append.mp h').elim h fun e => ?_
    rw [← List.mem_singleton.mp e, hm] at hn; cases hn
  exact ⟨hm rfl hc.1, hm rfl hc.2⟩

theorem trans (h : u.Agrees b v) (h' : v.Agrees b w) : u.Agrees b w where
  devices := h'.devices.trans h.devices
  requests := h'.requests.trans h.requests
  tokens := h'.tokens.trans h.tokens
  tickets := h'.tickets.trans h.tickets
  known := h'.known.trans h.known
  gates := h'.gates.trans h.gates
  drivers := Nat.le_trans h.drivers h'.drivers
  registry := h'.registry.trans h.registry
  clean := h'.clean ∘ h.clean

theorem updateDriver (w : World) (x : DriverId) {f : Driver → Driver} (hf : ∀ v, (f v).registry = v.registry) :
    w.Agrees b (w.updateDriver x f) := by
  refine ⟨rfl, rfl, rfl, rfl, rfl, rfl, Nat.le_of_eq (w.size_updateDriver x f).symm, ?_, id⟩
  rw [driver_updateDriver]
  split
  next h => rw [hf, h.1]
  next => rfl

end World.Agrees

def Extension.IsFresh (w : World) : Extension → Prop
  | .physical parent => ∀ f ∈ parent, f < w.devices.size
  | .functional layer => w.Linked layer.lower ∧ layer.children = [] ∧ layer.gate = {}

def Extension.isChild : Extension → Bool
  | .physical parent => parent.isSome
  | .functional _ => false

/-! ## Moves -/

structure Regime where
  driver : DriverId
  /-- No device ever has more references than its lock can count. -/
  bounded : Prop
  /-- A removal under way is never taken back. -/
  sparing : Prop

inductive Transfer (R : Regime) (w : World) : World → Prop
  | aside {w' : World} (h : w.Agrees R.driver w') : Transfer R w w'
  | flag (d : DeviceId) (f : UInt32 → UInt32) :
      Transfer R w (w.updateDevice d fun v => { v with flags := f v.flags })
  | repower (d : DeviceId) (f : Power → Power) :
      Transfer R w (w.updateDevice d fun v => { v with power := f v.power })
  -- requests
  | ask (k : Kind) : Transfer R w (w.ask k)
  | know (r : RequestId) (hr : w.Knows r) :
      Transfer R w (w.updateClients fun c => { c with requests := c.requests ++ [r] })
  | inform (r : RequestId) (hr : w.Knows r) (information : Information) :
      Transfer R w (w.updateRequest r fun q => { q with information })
  | take (d : DeviceId) (r : RequestId) (hd : d < w.devices.size) (hr : w.Knows r) (ho : ¬w.IsClosed d)
      (hf : R.bounded → (w.take d r).Fits) : Transfer R w (w.take d r)
  | giveBack (d : DeviceId) (r : RequestId) (hr : d ∈ (w.request r).locks) : Transfer R w (w.giveBack d r)
  | letPass (d : DeviceId) (r : RequestId) {gate : FilterGate} (hr : w.Knows r) (hl : (w.device d).layer?.isSome)
      (hg : (w.gate (.device d)).issue? = some gate) : Transfer R w (w.letPass (.device d) r gate)
  | complete (r : RequestId) (hr : w.Knows r) (s : Status) : Transfer R w (w.after (complete r s))
  | relinquish (r : RequestId) (hr : w.Knows r) : Transfer R w (w.after (relinquish r))
  -- what clients hold
  | pushToken (d : DeviceId) (hd : d < w.devices.size) (ho : ¬w.IsClosed d)
      (hf : R.bounded → (w.pushToken d).Fits) : Transfer R w (w.pushToken d)
  | dropToken (n : Nat) (d : DeviceId) (hn : w.clients.tokens.get n = some d) : Transfer R w (w.dropToken d n)
  | pushTicket (d : DeviceId) {gate : FilterGate} (hl : (w.device d).layer?.isSome)
      (hg : (w.gate (.device d)).issue? = some gate) : Transfer R w (w.pushTicket (.device d) gate)
  | dropTicket (n : Nat) (g : GateRef) (hn : w.clients.tickets.get n = some g) : Transfer R w (w.dropTicket n g)
  | regate (d : DeviceId) (wanted : FilterState) {gate : FilterGate} (hl : (w.device d).layer?.isSome)
      (hg : (w.gate (.device d)).request? wanted = some gate) : Transfer R w (w.setGate (.device d) gate)

inductive Move (R : Regime) (removing : Prop) (w : World) : World → Prop
  | transfer {w' : World} (h : Transfer R w w') : Move R removing w w'
  | enroll (identity : Identity) (extension : Extension) (hx : extension.IsFresh w) (hc : extension.isChild = false)
      (hf : w.lookup R.driver ⟨identity, extension.role⟩ = none) :
      Move R removing w (w.enroll R.driver identity extension)
  | adopt (d : DeviceId) (identity : Identity) (hl : (w.device d).layer?.isSome)
      (hf : w.lookup R.driver ⟨identity, .physical⟩ = none) : Move R removing w (w.adopt d R.driver identity)
  | takeChildren (d : DeviceId) (hr : removing) : Move R removing w (w.setChildren d [])
  | shift (d : DeviceId) (m : Lifecycle) (ho : ¬w.IsClosed d) (hg : ¬w.IsGone d) (hc : m.current ≠ .deleted)
      (hm : m.IsOrderly) : Move R removing w (w.setLifecycle d m)
  | close (d : DeviceId) (hr : removing) (hd : d < w.devices.size) (ho : ¬w.IsClosed d)
      (hl : R.sparing ∨ (w.device d).role = .physical → w.IsDeparting d) :
      Move R removing w (w.after (closeLock (.device d)))
  | retire (d : DeviceId) (hr : removing) (hd : d < w.devices.size) (hg : ¬w.IsGone d)
      (hl : (w.device d).lock.isDrained = true) : Move R removing w (w.retire d R.driver)

def Evolves (R : Regime) (removing : Prop) : World → World → Prop := Relation.ReflTransGen (Move R removing)

theorem Move.mono {R : Regime} {p q : Prop} {w w' : World} (hpq : p → q) (h : Move R p w w') : Move R q w w' := by
  cases h with
  | transfer h => exact .transfer h
  | enroll identity extension hx hc hf => exact .enroll identity extension hx hc hf
  | adopt d identity hl hf => exact .adopt d identity hl hf
  | takeChildren d hr => exact .takeChildren d (hpq hr)
  | shift d m ho hg hc hm => exact .shift d m ho hg hc hm
  | close d hr hd ho hl => exact .close d (hpq hr) hd ho hl
  | retire d hr hd hg hl => exact .retire d (hpq hr) hd hg hl

namespace Evolves

variable {R : Regime} {p q : Prop} {u v w : World}

theorem refl (w : World) : Evolves R p w w := Relation.ReflTransGen.refl

theorem trans (h : Evolves R p u v) (h' : Evolves R p v w) : Evolves R p u w := Relation.ReflTransGen.trans h h'

theorem of_move (h : Move R p v w) : Evolves R p v w := Relation.ReflTransGen.single h

theorem mono (hpq : p → q) (h : Evolves R p v w) : Evolves R q v w := by
  induction h with
  | refl => exact refl v
  | tail _ h ih => exact ih.trans (of_move (h.mono hpq))

end Evolves

end PnpBus
