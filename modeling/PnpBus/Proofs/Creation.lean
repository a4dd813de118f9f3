import PnpBus.Proofs.Keys

/-!
# What the creation of a key promises

`createKey` refuses a key that is there already and makes every other one, so
that values can be stored in it at once. The exception is a path without a
segment: it is accepted, and there is no key afterwards.
-/

namespace PnpBus

/-! ## Paths without a segment -/

theorem segmentsFrom_ne_nil {cs current : List Char} (h : current ≠ []) : segmentsFrom current cs ≠ [] := by
  induction cs generalizing current with
  | nil => simp [segmentsFrom, h]
  | cons c cs ih =>
    simp only [segmentsFrom]
    split
    · simp
    · apply ih
      simp

theorem segmentsFrom_eq_nil {cs : List Char} : segmentsFrom [] cs = [] ↔ ∀ c ∈ cs, c = '/' := by
  induction cs with
  | nil => simp [segmentsFrom]
  | cons c cs ih =>
    by_cases hc : c = '/'
    · simp [segmentsFrom, hc, ih]
    · simp only [segmentsFrom, hc, if_false, List.mem_cons, forall_eq_or_imp, false_and, iff_false]
      apply segmentsFrom_ne_nil
      simp

theorem segments_eq_nil {path : String} : segments path = [] ↔ ∀ c ∈ path.toList, c = '/' := segmentsFrom_eq_nil

namespace KeyTree

variable {t t' : KeyTree} {path name : String} {p : List String} {d : Data}

/-! ## Creating a key -/

theorem createKey_apply (t : KeyTree) (path : String) :
    t.createKey path = (Key.createAt t.root (segments path)).map KeyTree.mk := by
  unfold createKey
  cases Key.createAt t.root (segments path) <;> rfl

theorem keyExists_top (hp : segments path ≠ []) : t.keyExists path = (t.top.at? (segments path)).isSome := by
  rw [keyExists, find?, at?_top hp]

theorem keyExists_rootless (hp : segments path = []) : t.keyExists path = false := by
  rw [keyExists, find?, hp]
  rfl

theorem createKey_rootless (hp : segments path = []) : t.createKey path = .ok t := by
  rw [createKey_apply, hp]
  rfl

theorem createKey_error {e : StoreError} (h : t.createKey path = .error e) :
    e = .keyAlreadyExists ∧ t.keyExists path = true := by
  by_cases hp : segments path = []
  · rw [createKey_rootless hp] at h
    cases h
  · have hc := createIn_top (t := t) hp
    rw [createKey_apply] at h
    cases hr : Key.createAt t.root (segments path) with
    | ok root => rw [hr] at h; cases h
    | error e' =>
      rw [hr] at h hc
      cases h
      rw [keyExists_top hp]
      exact Key.createIn_error hc

theorem createKey_ok (h : t.createKey path = .ok t') :
    t.keyExists path = false ∧ (segments path ≠ [] → t'.keyExists path = true) := by
  by_cases hp : segments path = []
  · exact ⟨keyExists_rootless hp, fun hn => absurd hp hn⟩
  · have hc := createIn_top (t := t) hp
    rw [createKey_apply] at h
    cases hr : Key.createAt t.root (segments path) with
    | error e => rw [hr] at h; cases h
    | ok root =>
      rw [hr] at h hc
      cases h
      obtain ⟨hnone, hall⟩ := Key.createIn_ok hc
      have hnew := congrArg Option.isSome (hall (segments path))
      rw [if_pos (List.prefix_refl _), Option.isSome_map] at hnew
      rw [Option.bind_some] at hnone
      rw [keyExists_top hp, keyExists_top hp, hnone, hnew]
      exact ⟨rfl, fun _ => rfl⟩

/-! ## Storing a value -/

theorem setValue_rootless (hp : segments path = []) (name : String) (d : Data) :
    t.setValue path name d = .error .keyNotFound := by
  rw [setValue, hp]
  rfl

theorem getValue_setValue (h : t.keyExists path = true) (name : String) (d : Data) :
    ∃ t', t.setValue path name d = .ok t' ∧ t'.getValue path name = .ok d := by
  have hp : segments path ≠ [] := by
    intro hp
    rw [keyExists_rootless hp] at h
    cases h
  rw [keyExists_top hp] at h
  have hs := isSome_replaceAt (t := t) (fun k => k.withValues (k.values.insert name d)) hp
  rw [present_flat, ← at?_top hp, h] at hs
  obtain ⟨root, hr⟩ := Option.isSome_iff_exists.mp hs
  refine ⟨⟨root⟩, by rw [setValue, hr], ?_⟩
  obtain ⟨k, hk⟩ := Option.isSome_iff_exists.mp h
  have hv := Key.values_replaceIn (fun k => Key.subKeys_withValues ..) ((replaceIn_top hp).trans (congrArg _ hr))
    (segments path)
  rw [if_pos rfl, hk, at?_top hp, Option.map_some, Key.values_withValues] at hv
  obtain ⟨k', hk', hv⟩ := Option.map_eq_some_iff.mp hv
  rw [getValue, find?, hk']
  simp only [hv, Entries.get?_insert, if_true]

end KeyTree

/-- Whatever tree and path: creation fails if and only if the key is there, and then for that reason. It succeeds
only for a key that is not there, which is there afterwards and takes values, provided that the path names a key at
all. A path of nothing but slashes names none: it is accepted, the tree stays as it is, and a value finds no key. -/
theorem creation_of_named_key (t : KeyTree) (path : String) :
    (t.createKey path = .error .keyAlreadyExists ↔ t.keyExists path = true) ∧
    (∀ e, t.createKey path = .error e → e = .keyAlreadyExists) ∧
    ∀ t', t.createKey path = .ok t' → t.keyExists path = false ∧
      ((∃ c ∈ path.toList, c ≠ '/') → t'.keyExists path = true ∧ ∀ name d, ∃ t'',
        t'.setValue path name d = .ok t'' ∧ t''.getValue path name = .ok d) ∧
      ((∀ c ∈ path.toList, c = '/') → t' = t ∧ t'.keyExists path = false ∧ ∀ name d,
        t'.setValue path name d = .error .keyNotFound) := by
  refine ⟨⟨fun h => (KeyTree.createKey_error h).2, fun h => ?_⟩, fun e h => (KeyTree.createKey_error h).1,
    fun t' h => ?_⟩
  · cases hc : t.createKey path with
    | error e => rw [(KeyTree.createKey_error hc).1]
    | ok t' =>
      rw [(KeyTree.createKey_ok hc).1] at h
      cases h
  · obtain ⟨habsent, hthere⟩ := KeyTree.createKey_ok h
    refine ⟨habsent, fun hn => ?_, fun hs => ?_⟩
    · have hp : segments path ≠ [] := by
        intro hp
        obtain ⟨c, hc, hne⟩ := hn
        exact hne (segments_eq_nil.mp hp c hc)
      exact ⟨hthere hp, KeyTree.getValue_setValue (hthere hp)⟩
    · have hp := segments_eq_nil.mpr hs
      rw [KeyTree.createKey_rootless hp] at h
      cases h
      exact ⟨rfl, KeyTree.keyExists_rootless hp, KeyTree.setValue_rootless hp⟩

/-- The creation of `//` in an empty tree succeeds, but neither is there a key then nor can it take a value. -/
theorem creation_without_key : ∃ t', KeyTree.createKey {} "//" = .ok t' ∧ t'.keyExists "//" = false ∧
    t'.setValue "//" "N" (.u32 1) = .error .keyNotFound := by
  have hp : segments "//" = [] := by decide +kernel
  exact ⟨{}, KeyTree.createKey_rootless hp, KeyTree.keyExists_rootless hp, KeyTree.setValue_rootless hp _ _⟩

end PnpBus
