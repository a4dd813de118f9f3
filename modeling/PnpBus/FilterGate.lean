/-!
# Filter gates: who may divert a request, and how a gate closes

A gate is one word, two bits of state above thirty bits of count. Disabling a
gate with tickets out leaves it `pending`; the ticket that brings the count to
zero disables it in the same update, so a disabled gate never has a ticket
out. Enabling it again takes the request to disable back.
-/

namespace PnpBus

inductive FilterState where
  | enabled
  | pending
  | disabled
  deriving DecidableEq, Inhabited

namespace FilterState

def all : List FilterState := [.enabled, .pending, .disabled]

def name : FilterState → String
  | enabled => "Enabled"
  | pending => "Pending"
  | disabled => "Disabled"

def bits : FilterState → UInt32
  | enabled => 0
  | pending => 1
  | disabled => 2

def ofBits (b : UInt32) : FilterState :=
  if b = 0 then enabled else if b = 1 then pending else disabled

theorem ofBits_bits (s : FilterState) : ofBits s.bits = s := by cases s <;> rfl

end FilterState

structure FilterGate where
  word : UInt32 := 0
  deriving DecidableEq, Inhabited

namespace FilterGate

/-- The largest count that the low thirty bits hold. -/
def maxInFlight : UInt32 := 0x3FFFFFFF

def pack (s : FilterState) (n : UInt32) : FilterGate := ⟨(s.bits <<< 30) ||| n⟩

def ofState (s : FilterState) : FilterGate := pack s 0

def state (g : FilterGate) : FilterState := .ofBits (g.word >>> 30)

/-- Tickets issued and not yet returned. -/
def inFlight (g : FilterGate) : UInt32 := g.word &&& maxInFlight

/-- The state a gate settles in when `wanted` is asked of it. -/
def settled (g : FilterGate) (wanted : FilterState) : FilterState :=
  match wanted, g.state with
  | .enabled, _ => .enabled
  | _, .disabled => .disabled
  | _, _ => if g.inFlight = 0 then .disabled else .pending

/-- Asks for a state. `pending` is where a gate arrives by itself and cannot be asked for. -/
def request? (g : FilterGate) : FilterState → Option FilterGate
  | .pending => none
  | wanted => some (pack (g.settled wanted) g.inFlight)

/-- The gate with one more ticket out, if it is enabled and can count it. -/
def issue? (g : FilterGate) : Option FilterGate :=
  if g.state = .enabled ∧ g.inFlight < maxInFlight then some ⟨g.word + 1⟩ else none

/-- The gate with one ticket returned, if one was out. -/
def redeem? (g : FilterGate) : Option FilterGate :=
  if g.inFlight = 0 then none
  else if g.state = .pending ∧ g.inFlight = 1 then some (ofState .disabled)
  else some (pack g.state (g.inFlight - 1))

theorem request?_eq_none {g : FilterGate} {s : FilterState} : g.request? s = none ↔ s = .pending := by
  cases s <;> simp [request?]

end FilterGate

end PnpBus
