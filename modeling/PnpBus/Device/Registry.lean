import PnpBus.Device.Record

/-!
# The device registry of a driver

A registry holds at most one device per identity and role. A physical device
and the functional one over it share an identity, and their roles keep them
apart; a look-up without a role prefers the functional one.
-/

namespace PnpBus

structure DeviceKey where
  identity : Identity
  role : Role
  deriving DecidableEq

structure DeviceRegistry where
  entries : List (DeviceKey × DeviceId) := []

namespace DeviceRegistry

def size (r : DeviceRegistry) : Nat := r.entries.length

def isEmpty (r : DeviceRegistry) : Bool := r.entries.isEmpty

def findRole? (r : DeviceRegistry) (id : Identity) (role : Role) : Option DeviceId := r.entries.lookup ⟨id, role⟩

def find? (r : DeviceRegistry) (id : Identity) : Option DeviceId :=
  (r.findRole? id .functional).or (r.findRole? id .physical)

/-- Adds a device under a key that is free. -/
def insert (r : DeviceRegistry) (key : DeviceKey) (d : DeviceId) : DeviceRegistry := ⟨(key, d) :: r.entries⟩

def erase (r : DeviceRegistry) (key : DeviceKey) : DeviceRegistry := ⟨r.entries.filter (·.1 ≠ key)⟩

def devices (r : DeviceRegistry) : List DeviceId := r.entries.map (·.2)

theorem findRole?_insert (r : DeviceRegistry) (key : DeviceKey) (d : DeviceId) (id : Identity) (role : Role) :
    (r.insert key d).findRole? id role = if ⟨id, role⟩ = key then some d else r.findRole? id role := by
  unfold findRole? insert
  rw [List.lookup_cons]
  by_cases h : (⟨id, role⟩ : DeviceKey) = key
  · simp [h]
  · rw [if_neg h, show ((⟨id, role⟩ : DeviceKey) == key) = false by simpa using h]

theorem findRole?_erase (r : DeviceRegistry) (key : DeviceKey) (id : Identity) (role : Role) :
    (r.erase key).findRole? id role = if ⟨id, role⟩ = key then none else r.findRole? id role := by
  unfold findRole? erase
  obtain ⟨entries⟩ := r
  induction entries with
  | nil => simp
  | cons e entries ih =>
    obtain ⟨k, d⟩ := e
    simp only [List.filter_cons, List.lookup_cons] at ih ⊢
    by_cases hk : k = key
    · subst hk
      by_cases h : (⟨id, role⟩ : DeviceKey) = k
      · simpa [h] using ih
      · simpa [h, show ((⟨id, role⟩ : DeviceKey) == k) = false by simpa using h] using ih
    · by_cases h : (⟨id, role⟩ : DeviceKey) = k
      · simp [hk, h]
      · simpa [hk, List.lookup_cons, show ((⟨id, role⟩ : DeviceKey) == k) = false by simpa using h] using ih

theorem findRole?_of_isEmpty {r : DeviceRegistry} (h : r.isEmpty = true) (id : Identity) (role : Role) :
    r.findRole? id role = none := by
  rw [isEmpty, List.isEmpty_iff] at h
  rw [findRole?, h, List.lookup_nil]

/-- A registry that is not empty knows something. -/
theorem exists_of_not_isEmpty {r : DeviceRegistry} (h : r.isEmpty = false) :
    ∃ (key : DeviceKey) (d : DeviceId), r.findRole? key.identity key.role = some d := by
  obtain ⟨entries⟩ := r
  cases entries with
  | nil => cases h
  | cons e entries => exact ⟨e.1, e.2, List.lookup_cons_self⟩

end DeviceRegistry

end PnpBus
