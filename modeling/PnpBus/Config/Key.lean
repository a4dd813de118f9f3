import PnpBus.Config.Data

/-!
# The key tree

A key holds named values and named sub-keys, both in name order. Paths are
segments between slashes and empty segments do not count, so a path without a
segment names no key at all. Every operation follows the segments of its path
and leaves the tree as it was when it fails.
-/

namespace PnpBus

/-! ## Named entries in name order -/

abbrev Entries (α : Type) := List (String × α)

namespace Entries

variable {α : Type}

def get? : Entries α → String → Option α
  | [], _ => none
  | (k, v) :: es, name => if name = k then some v else get? es name

/-- Replaces the entry of that name, or adds one in its place in the order. -/
def insert : Entries α → String → α → Entries α
  | [], name, v => [(name, v)]
  | (k, w) :: es, name, v =>
    if name = k then (k, v) :: es
    else if name < k then (name, v) :: (k, w) :: es
    else (k, w) :: insert es name v

def erase : Entries α → String → Entries α
  | [], _ => []
  | (k, w) :: es, name => if name = k then es else (k, w) :: erase es name

theorem get?_insert (es : Entries α) (name other : String) (v : α) :
    (es.insert name v).get? other = if other = name then some v else es.get? other := by
  induction es with
  | nil => rfl
  | cons e es ih =>
    obtain ⟨k, w⟩ := e
    simp only [insert]
    split
    · subst_vars; by_cases h : other = k <;> simp [get?, h]
    · split
      · simp only [get?]
      · simp only [get?, ih]
        by_cases h : other = k
        · subst h; simp [show other ≠ name from fun h => by simp_all]
        · simp [h]

end Entries

/-! ## Keys -/

inductive Key where
  | mk (values : List (String × Data)) (subKeys : List (String × Key))

namespace Key

def empty : Key := mk [] []

def values : Key → Entries Data
  | mk vs _ => vs

def subKeys : Key → Entries Key
  | mk _ ks => ks

def withValues : Key → Entries Data → Key
  | mk _ ks, vs => mk vs ks

def withSubKeys : Key → Entries Key → Key
  | mk vs _, ks => mk vs ks

end Key

def segmentsFrom (current : List Char) : List Char → List String
  | [] => if current = [] then [] else [String.ofList current]
  | c :: cs =>
    if c = '/' then
      if current = [] then segmentsFrom [] cs else String.ofList current :: segmentsFrom [] cs
    else segmentsFrom (current ++ [c]) cs

/-- The non-empty pieces of a path between its slashes. -/
def segments (path : String) : List String := segmentsFrom [] path.toList

/-! ## Operations along a list of segments -/

namespace Key

def find? (root : Entries Key) : List String → Option Key
  | [] => none
  | [s] => root.get? s
  | s :: ss => (root.get? s).bind fun k => find? k.subKeys ss

/-- Replaces the key at the end of the segments, if it is there. -/
def replaceAt (f : Key → Key) (root : Entries Key) : List String → Option (Entries Key)
  | [] => none
  | [s] => (root.get? s).map fun k => root.insert s (f k)
  | s :: ss => do
    let k ← root.get? s
    let below ← replaceAt f k.subKeys ss
    return root.insert s (k.withSubKeys below)

/-- Adds an empty key, and the keys on the way to it, unless it is there already. -/
def createAt (root : Entries Key) : List String → Except StoreError (Entries Key)
  | [] => .ok root
  | [s] => if (root.get? s).isSome then .error .keyAlreadyExists else .ok (root.insert s empty)
  | s :: ss => do
    let k := (root.get? s).getD empty
    let below ← createAt k.subKeys ss
    return root.insert s (k.withSubKeys below)

end Key

/-! ## Trees -/

structure KeyTree where
  root : Entries Key := []

namespace KeyTree

def find? (t : KeyTree) (path : String) : Option Key := Key.find? t.root (segments path)

def keyExists (t : KeyTree) (path : String) : Bool := (t.find? path).isSome

def getValue (t : KeyTree) (path name : String) : Except StoreError Data :=
  match t.find? path with
  | none => .error .keyNotFound
  | some k => match k.values.get? name with
    | none => .error .valueNotFound
    | some d => .ok d

def setValue (t : KeyTree) (path name : String) (d : Data) : Except StoreError KeyTree :=
  match Key.replaceAt (fun k => k.withValues (k.values.insert name d)) t.root (segments path) with
  | none => .error .keyNotFound
  | some root => .ok ⟨root⟩

/-- The tree without that value, and whether it was there. -/
def deleteValue (t : KeyTree) (path name : String) : Except StoreError (KeyTree × Bool) :=
  match t.find? path with
  | none => .error .keyNotFound
  | some k =>
    let erased := Key.replaceAt (fun k => k.withValues (k.values.erase name)) t.root (segments path)
    .ok (⟨erased.getD t.root⟩, (k.values.get? name).isSome)

def createKey (t : KeyTree) (path : String) : Except StoreError KeyTree := do
  return ⟨← Key.createAt t.root (segments path)⟩

end KeyTree

end PnpBus
