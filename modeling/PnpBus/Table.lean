/-!
# Numbered tables

A table gives out numbers from zero in the order of arrival and never takes
one back. Reading a number that was not given out yields the default value,
and changing it changes nothing.
-/

namespace PnpBus

structure Table (α : Type) where
  items : List α := []

namespace Table

variable {α : Type}

instance : Inhabited (Table α) := ⟨{}⟩

def size (t : Table α) : Nat := t.items.length

def get [Inhabited α] (t : Table α) (i : Nat) : α := (t.items[i]?).getD default

/-- The table with one item more, which takes the number `t.size`. -/
def push (t : Table α) (a : α) : Table α := ⟨t.items ++ [a]⟩

def modify (t : Table α) (i : Nat) (f : α → α) : Table α := ⟨t.items.modify i f⟩

def numbers (t : Table α) : List Nat := List.range t.size

/-- The values of `f` at all items, added up. -/
def sum (t : Table α) (f : α → Nat) : Nat := t.items.foldr (fun a n => f a + n) 0

@[simp] theorem size_push (t : Table α) (a : α) : (t.push a).size = t.size + 1 := by simp [size, push]

@[simp] theorem size_modify (t : Table α) (i : Nat) (f : α → α) : (t.modify i f).size = t.size := by
  simp [size, modify]

theorem sum_le_sum {f g : α → Nat} (h : ∀ a, f a ≤ g a) (t : Table α) : t.sum f ≤ t.sum g := by
  obtain ⟨items⟩ := t
  induction items with
  | nil => exact Nat.le_refl _
  | cons a items ih => exact Nat.add_le_add (h a) ih

@[simp] theorem sum_push (t : Table α) (a : α) (f : α → Nat) : (t.push a).sum f = t.sum f + f a := by
  obtain ⟨items⟩ := t
  induction items with
  | nil => simp [sum, push]
  | cons x items ih =>
    simp only [sum, push, List.cons_append, List.foldr_cons] at ih ⊢
    omega

theorem sum_append (xs ys : List α) (f : α → Nat) :
    (⟨xs ++ ys⟩ : Table α).sum f = (⟨xs⟩ : Table α).sum f + (⟨ys⟩ : Table α).sum f := by
  induction xs with
  | nil => exact (Nat.zero_add _).symm
  | cons x xs ih =>
    simp only [sum, List.cons_append, List.foldr_cons] at ih ⊢
    omega

theorem sum_replicate (n : Nat) (a : α) (f : α → Nat) : (⟨List.replicate n a⟩ : Table α).sum f = n * f a := by
  induction n with
  | zero => exact (Nat.zero_mul _).symm
  | succ n ih =>
    simp only [sum, List.replicate_succ, List.foldr_cons] at ih ⊢
    rw [ih, Nat.succ_mul, Nat.add_comm]

variable [Inhabited α]

@[simp] theorem get_push_size (t : Table α) (a : α) : (t.push a).get t.size = a := by
  simp [get, push, size]

theorem get_push_of_lt {t : Table α} {i : Nat} (h : i < t.size) (a : α) : (t.push a).get i = t.get i := by
  simp only [size] at h
  simp [get, push, List.getElem?_append_left h]

theorem get_of_size_le {t : Table α} {i : Nat} (h : t.size ≤ i) : t.get i = default := by
  simp only [size] at h
  simp [get, List.getElem?_eq_none h]

theorem get_modify_self {t : Table α} {i : Nat} (h : i < t.size) (f : α → α) :
    (t.modify i f).get i = f (t.get i) := by
  simp only [size] at h
  simp [get, modify, h]

@[simp] theorem get_modify_of_ne {t : Table α} {i j : Nat} (h : i ≠ j) (f : α → α) :
    (t.modify i f).get j = t.get j := by
  simp [get, modify, h]

theorem get_modify (t : Table α) (i j : Nat) (f : α → α) :
    (t.modify i f).get j = if j = i ∧ i < t.size then f (t.get i) else t.get j := by
  by_cases hj : j = i
  · subst hj
    by_cases h : j < t.size
    · rw [get_modify_self h, if_pos ⟨rfl, h⟩]
    · rw [if_neg fun c => h c.2, get_of_size_le (by simpa using Nat.le_of_not_lt h),
        get_of_size_le (Nat.le_of_not_lt h)]
  · rw [get_modify_of_ne (Ne.symm hj), if_neg fun c => hj c.1]

theorem get_push (t : Table α) (i : Nat) (a : α) : (t.push a).get i = if i = t.size then a else t.get i := by
  by_cases hi : i = t.size
  · subst hi; simp
  · rw [if_neg hi]
    rcases Nat.lt_or_ge i t.size with h | h
    · exact get_push_of_lt h a
    · rw [get_of_size_le h, get_of_size_le (by simp; omega)]

theorem ext_get {s t : Table α} (hs : s.size = t.size) (h : ∀ i, s.get i = t.get i) : s = t := by
  obtain ⟨xs⟩ := s
  obtain ⟨ys⟩ := t
  refine congrArg Table.mk (List.ext_getElem hs fun i hx hy => ?_)
  have hi := h i
  rwa [get, get, List.getElem?_eq_getElem hx, List.getElem?_eq_getElem hy] at hi

/-- A change tells nothing of what it would have made of another item. -/
theorem modify_congr (t : Table α) (i : Nat) {f g : α → α} (h : f (t.get i) = g (t.get i)) :
    t.modify i f = t.modify i g := by
  refine ext_get (by rw [size_modify, size_modify]) fun x => ?_
  rw [get_modify, get_modify, h]

/-- A change of one item shows in a sum as the difference at that item. -/
theorem sum_modify {t : Table α} {i : Nat} (h : i < t.size) (g : α → α) (f : α → Nat) :
    (t.modify i g).sum f + f (t.get i) = t.sum f + f (g (t.get i)) := by
  obtain ⟨items⟩ := t
  induction items generalizing i with
  | nil => exact absurd h (Nat.not_lt_zero i)
  | cons a items ih =>
    cases i with
    | zero => simp [sum, modify, get]; omega
    | succ i =>
      have := ih (i := i) (by simpa [size] using h)
      simp only [sum, modify, get, List.modify_succ_cons, List.foldr_cons,
        List.getElem?_cons_succ] at this ⊢
      omega

theorem of_sum_eq_zero {t : Table α} {f : α → Nat} (h : t.sum f = 0) (hd : f default = 0) (i : Nat) :
    f (t.get i) = 0 := by
  by_cases hi : i < t.size
  · -- the sum without this item is no greater
    have hs := sum_modify hi (fun _ => default) f
    rw [h, hd] at hs
    exact Nat.eq_zero_of_add_eq_zero_left hs
  · rw [get_of_size_le (Nat.le_of_not_lt hi), hd]

end Table

end PnpBus
