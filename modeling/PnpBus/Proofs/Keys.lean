import Mathlib.Data.String.Basic
import PnpBus.Proofs.Acts
import PnpBus.Script.Configuration

/-!
# The key tree is a flat store

A flat store knows a path by its segments: which paths are there, and what is
stored under the names there. The key tree answers every command as the flat
store does that it shows. Its entries are kept in order, so that a key is
known by what it shows.
-/

namespace PnpBus

/-! ## Entries in order -/

namespace Entries

variable {α : Type} {es : Entries α} {name other : String} {v : α}

def Sorted (es : Entries α) : Prop := es.Pairwise (·.1 < ·.1)

theorem mem_of_get? : ∀ {es : Entries α}, es.get? name = some v → (name, v) ∈ es
  | (k, w) :: es, h => by
    rw [get?] at h
    split at h
    · cases h; subst name; exact List.mem_cons_self
    · exact List.mem_cons_of_mem _ (mem_of_get? h)

theorem get?_eq_none (h : ∀ e ∈ es, e.1 ≠ name) : es.get? name = none := by
  cases hg : es.get? name with
  | none => rfl
  | some v => exact absurd rfl (h _ (mem_of_get? hg))

theorem mem_insert : ∀ {es : Entries α} {e : String × α}, e ∈ es.insert name v → e = (name, v) ∨ e ∈ es
  | [], e, h => .inl (List.mem_singleton.mp h)
  | (k, w) :: es, e, h => by
    simp only [insert] at h
    split at h
    · subst name
      exact (List.mem_cons.mp h).imp id (List.mem_cons_of_mem _)
    · split at h
      · exact List.mem_cons.mp h
      · rcases List.mem_cons.mp h with rfl | h
        · exact .inr List.mem_cons_self
        · exact (mem_insert h).imp id (List.mem_cons_of_mem _)

theorem mem_of_mem_erase : ∀ {es : Entries α} {e : String × α}, e ∈ es.erase name → e ∈ es
  | (k, w) :: es, e, h => by
    simp only [erase] at h
    split at h
    · exact List.mem_cons_of_mem _ h
    · exact (List.mem_cons.mp h).elim (fun e => e ▸ List.mem_cons_self) fun h =>
        List.mem_cons_of_mem _ (mem_of_mem_erase h)

theorem Sorted.insert (h : es.Sorted) : (es.insert name v).Sorted := by
  induction es with
  | nil => exact List.pairwise_singleton ..
  | cons e es ih =>
    obtain ⟨k, w⟩ := e
    obtain ⟨hk, hs⟩ := List.pairwise_cons.mp h
    simp only [Entries.insert]
    split
    · exact List.pairwise_cons.mpr ⟨hk, hs⟩
    next hne =>
      split
      next hlt =>
        refine List.pairwise_cons.mpr ⟨fun e he => ?_, h⟩
        rcases List.mem_cons.mp he with rfl | he
        · exact hlt
        · exact lt_trans hlt (hk e he)
      next hle =>
        refine List.pairwise_cons.mpr ⟨fun e he => ?_, ih hs⟩
        rcases mem_insert he with rfl | he
        · exact lt_of_le_of_ne (not_lt.mp hle) (Ne.symm hne)
        · exact hk e he

theorem Sorted.erase (h : es.Sorted) : (es.erase name).Sorted := by
  induction es with
  | nil => exact h
  | cons e es ih =>
    obtain ⟨k, w⟩ := e
    obtain ⟨hk, hs⟩ := List.pairwise_cons.mp h
    simp only [Entries.erase]
    split
    · exact hs
    · exact List.pairwise_cons.mpr ⟨fun e he => hk e (mem_of_mem_erase he), ih hs⟩

theorem Sorted.get?_tail {k : String} {w : α} (h : Sorted ((k, w) :: es)) : es.get? k = none :=
  get?_eq_none fun e he => ne_of_gt ((List.pairwise_cons.mp h).1 e he)

theorem Sorted.get?_erase (h : es.Sorted) (other : String) :
    (es.erase name).get? other = if other = name then none else es.get? other := by
  induction es with
  | nil => simp [Entries.erase, get?]
  | cons e es ih =>
    obtain ⟨k, w⟩ := e
    have ih := ih (List.pairwise_cons.mp h).2
    simp only [Entries.erase]
    by_cases hk : name = k
    · subst hk
      by_cases ho : other = name
      · subst ho; simp [h.get?_tail]
      · simp [get?, ho]
    · rw [if_neg hk, get?, get?, ih]
      by_cases ho : other = k
      · subst ho; simp [Ne.symm hk]
      · simp [ho]

/-- Entering again what is there changes nothing. -/
theorem Sorted.insert_get? (h : es.Sorted) (hg : es.get? name = some v) : es.insert name v = es := by
  induction es with
  | nil => cases hg
  | cons e es ih =>
    obtain ⟨k, w⟩ := e
    obtain ⟨hk, hs⟩ := List.pairwise_cons.mp h
    rw [get?] at hg
    simp only [Entries.insert]
    split at hg
    next he => cases hg; rw [if_pos he]
    next he =>
      rw [if_neg he, if_neg (lt_asymm (hk _ (mem_of_get? hg))), ih hs hg]

theorem Sorted.ext {es fs : Entries α} (h : es.Sorted) (h' : fs.Sorted) (hg : ∀ name, es.get? name = fs.get? name) :
    es = fs := by
  induction es generalizing fs with
  | nil =>
    cases fs with
    | nil => rfl
    | cons f fs => have := hg f.1; simp [get?] at this
  | cons e es ih =>
    cases fs with
    | nil => have := hg e.1; simp [get?] at this
    | cons f fs =>
      obtain ⟨k, v⟩ := e
      obtain ⟨l, w⟩ := f
      have hk := (List.pairwise_cons.mp h).1
      have hl := (List.pairwise_cons.mp h').1
      -- each of the two first names is found in both lists
      have hkl : k = l := by
        by_contra hne
        have h₁ := hg k
        have h₂ := hg l
        simp only [get?, if_true, if_neg hne, if_neg (Ne.symm hne)] at h₁ h₂
        exact lt_asymm (hk _ (mem_of_get? h₂)) (hl _ (mem_of_get? h₁.symm))
      subst hkl
      have hv := hg k
      simp only [get?, if_true, Option.some.injEq] at hv
      subst hv
      refine congrArg _ (ih (List.pairwise_cons.mp h).2 (List.pairwise_cons.mp h').2 fun name => ?_)
      by_cases hn : name = k
      · rw [hn, h.get?_tail, h'.get?_tail]
      · simpa [get?, hn] using hg name

end Entries

/-! ## Walking down a tree -/

namespace Key

variable {k k' : Key} {root : Entries Key} {s : String} {p q : List String} {f : Key → Key}

def at? (k : Key) : List String → Option Key
  | [] => some k
  | s :: ss => find? k.subKeys (s :: ss)

theorem find?_cons (root : Entries Key) (s : String) (p : List String) :
    find? root (s :: p) = (root.get? s).bind (·.at? p) := by
  cases p with
  | nil => simp [find?, at?]
  | cons _ _ => rfl

theorem at?_cons (k : Key) (s : String) (p : List String) : k.at? (s :: p) = (k.subKeys.get? s).bind (·.at? p) :=
  find?_cons ..

theorem at?_append : ∀ (p : List String) {k : Key}, k.at? (p ++ q) = (k.at? p).bind (·.at? q)
  | [], _ => rfl
  | s :: p, k => by
    rw [List.cons_append, at?_cons, at?_cons, Option.bind_assoc]
    exact Option.bind_congr fun c _ => at?_append p

theorem at?_root (hp : p ≠ []) : (mk [] root).at? p = find? root p := by
  cases p with
  | nil => exact absurd rfl hp
  | cons _ _ => rfl

def replaceIn (f : Key → Key) (k : Key) : List String → Option Key
  | [] => some (f k)
  | s :: ss => (replaceAt f k.subKeys (s :: ss)).map k.withSubKeys

theorem replaceAt_cons (f : Key → Key) (root : Entries Key) (s : String) (p : List String) :
    replaceAt f root (s :: p) = (root.get? s).bind fun k => (k.replaceIn f p).map (root.insert s ·) := by
  cases p with
  | nil => cases h : root.get? s <;> simp [replaceAt, replaceIn, h]
  | cons x xs =>
    cases h : root.get? s with
    | none => simp [replaceAt, h]
    | some k => cases hk : replaceAt f k.subKeys (x :: xs) <;> simp [replaceAt, replaceIn, h, hk]

def createIn (o : Option Key) : List String → Except StoreError Key
  | [] => if o.isSome then .error .keyAlreadyExists else .ok empty
  | s :: ss => (createAt (o.getD empty).subKeys (s :: ss)).map (o.getD empty).withSubKeys

theorem createAt_cons (root : Entries Key) (s : String) (p : List String) :
    createAt root (s :: p) = (createIn (root.get? s) p).map (root.insert s ·) := by
  cases p with
  | nil => rw [createAt, createIn]; split <;> rfl
  | cons x xs =>
    show (do let below ← createAt ((root.get? s).getD empty).subKeys (x :: xs); _ : Except StoreError _) = _
    cases h : createAt ((root.get? s).getD empty).subKeys (x :: xs) <;> rw [createIn, h] <;> rfl

/-! ### What keys show -/

theorem subKeys_withSubKeys (k : Key) (ks : Entries Key) : (k.withSubKeys ks).subKeys = ks := by cases k; rfl

theorem values_withSubKeys (k : Key) (ks : Entries Key) : (k.withSubKeys ks).values = k.values := by cases k; rfl

theorem subKeys_withValues (k : Key) (vs : Entries Data) : (k.withValues vs).subKeys = k.subKeys := by cases k; rfl

theorem values_withValues (k : Key) (vs : Entries Data) : (k.withValues vs).values = vs := by cases k; rfl

/-- What is stored under a name is seen from the values. -/
theorem bind_values (o : Option Key) (name : String) :
    o.bind (·.values.get? name) = (o.map values).bind (Entries.get? · name) := by cases o <;> rfl

theorem isSome_replaceIn : ∀ (p : List String) {k : Key}, (k.replaceIn f p).isSome = (k.at? p).isSome
  | [], _ => rfl
  | s :: p, k => by
    rw [replaceIn, Option.isSome_map, replaceAt_cons, at?_cons]
    cases k.subKeys.get? s with
    | none => rfl
    | some c => simpa using isSome_replaceIn p

/-- Where values are replaced at one path, all others stay. -/
theorem values_replaceIn (hf : ∀ k, (f k).subKeys = k.subKeys) : ∀ {p : List String} {k k' : Key},
    k.replaceIn f p = some k' → ∀ q, (k'.at? q).map values =
      if q = p then (k.at? p).map fun c => (f c).values else (k.at? q).map values
  | [], k, k', h, q => by
    cases h
    cases q with
    | nil => rfl
    | cons x q => rw [at?_cons, at?_cons, hf]; simp
  | s :: p, k, k', h, q => by
    rw [replaceIn, replaceAt_cons, Option.map_eq_some_iff] at h
    obtain ⟨ks, h, rfl⟩ := h
    obtain ⟨c, hc, h⟩ := Option.bind_eq_some_iff.mp h
    obtain ⟨c', hc', rfl⟩ := Option.map_eq_some_iff.mp h
    cases q with
    | nil => simp [at?, values_withSubKeys]
    | cons x q =>
      rw [at?_cons, at?_cons, at?_cons, subKeys_withSubKeys, Entries.get?_insert, hc]
      by_cases hx : x = s
      · subst hx
        rw [if_pos rfl, hc]
        simpa using values_replaceIn hf hc' q
      · simp [hx]

theorem createIn_cons (o : Option Key) (s : String) (p : List String) :
    createIn o (s :: p) = (createIn ((o.getD empty).subKeys.get? s) p).map fun c =>
      (o.getD empty).withSubKeys ((o.getD empty).subKeys.insert s c) := by
  rw [createIn, createAt_cons]
  cases createIn ((o.getD empty).subKeys.get? s) p <;> rfl

theorem at?_getD_cons (o : Option Key) (s : String) (p : List String) :
    (o.getD empty).at? (s :: p) = o.bind (·.at? (s :: p)) := by
  cases o with
  | none => simp [at?_cons, empty, subKeys, Entries.get?]
  | some k => rfl

theorem createIn_error : ∀ {p : List String} {o : Option Key} {e : StoreError}, createIn o p = .error e →
    e = .keyAlreadyExists ∧ (o.bind (·.at? p)).isSome
  | [], o, e, h => by
    rw [createIn] at h
    split at h
    next ho =>
      cases h
      exact ⟨rfl, by simpa [at?] using ho⟩
    next => cases h
  | s :: p, o, e, h => by
    rw [createIn_cons] at h
    cases hc : createIn ((o.getD empty).subKeys.get? s) p with
    | ok c => rw [hc] at h; cases h
    | error e' =>
      rw [hc] at h
      cases h
      obtain ⟨rfl, hs⟩ := createIn_error hc
      rw [← at?_getD_cons, at?_cons]
      exact ⟨rfl, hs⟩

/-- A new key is empty, and so are those on the way to it that were not there. -/
theorem createIn_ok : ∀ {p : List String} {o : Option Key} {k : Key}, createIn o p = .ok k →
    o.bind (·.at? p) = none ∧ ∀ q, (k.at? q).map values =
      if q <+: p then some (((o.bind (·.at? q)).map values).getD []) else (o.bind (·.at? q)).map values
  | [], o, k, h => by
    rw [createIn] at h
    split at h
    next => cases h
    next ho =>
      cases h
      cases o with
      | some c => exact absurd rfl ho
      | none =>
        refine ⟨rfl, fun q => ?_⟩
        cases q with
        | nil => rfl
        | cons x q => simp [at?_cons, empty, subKeys, Entries.get?]
  | s :: p, o, k, h => by
    rw [createIn_cons] at h
    cases hc : createIn ((o.getD empty).subKeys.get? s) p with
    | error e => rw [hc] at h; cases h
    | ok c =>
      rw [hc] at h
      cases h
      obtain ⟨hnone, hall⟩ := createIn_ok hc
      rw [← at?_getD_cons, at?_cons]
      refine ⟨hnone, fun q => ?_⟩
      cases q with
      | nil =>
        simp only [at?, Option.map_some, values_withSubKeys, List.nil_prefix, if_true]
        cases o <;> rfl
      | cons x q =>
        rw [← at?_getD_cons, at?_cons, at?_cons, subKeys_withSubKeys, Entries.get?_insert]
        by_cases hx : x = s
        · subst hx
          rw [if_pos rfl]
          simpa [List.cons_prefix_cons] using hall q
        · simp [hx, List.cons_prefix_cons]

/-! ### Keys in order -/

inductive Ordered : Key → Prop
  | mk {vs : List (String × Data)} {ks : List (String × Key)} (hv : Entries.Sorted vs) (hk : Entries.Sorted ks)
      (h : ∀ e ∈ ks, e.2.Ordered) : Ordered (.mk vs ks)

namespace Ordered

theorem empty : Key.empty.Ordered := .mk .nil .nil nofun

theorem values (h : k.Ordered) : k.values.Sorted := by cases h; assumption

theorem subKeys (h : k.Ordered) : k.subKeys.Sorted := by cases h; assumption

theorem sub (h : k.Ordered) (hs : k.subKeys.get? s = some k') : k'.Ordered := by
  cases h with
  | mk _ _ h => exact h _ (Entries.mem_of_get? hs)

theorem at? : ∀ {p : List String} {k : Key}, k.Ordered → k.at? p = some k' → k'.Ordered
  | [], k, h, hp => by cases hp; exact h
  | s :: p, k, h, hp => by
    rw [at?_cons] at hp
    obtain ⟨c, hc, hp⟩ := Option.bind_eq_some_iff.mp hp
    exact Ordered.at? (h.sub hc) hp

theorem withValues (h : k.Ordered) {vs : Entries Data} (hv : vs.Sorted) : (k.withValues vs).Ordered := by
  cases h with
  | mk _ hk h => exact .mk hv hk h

theorem insert (h : k.Ordered) (hc : k'.Ordered) : (k.withSubKeys (k.subKeys.insert s k')).Ordered := by
  cases h with
  | mk hv hk h =>
    refine .mk hv hk.insert fun e he => ?_
    rcases Entries.mem_insert he with rfl | he
    · exact hc
    · exact h e he

theorem replaceIn (hf : ∀ {k : Key}, k.Ordered → (f k).Ordered) : ∀ {p : List String} {k k' : Key}, k.Ordered →
    k.replaceIn f p = some k' → k'.Ordered
  | [], k, k', h, he => by cases he; exact hf h
  | s :: p, k, k', h, he => by
    rw [Key.replaceIn, replaceAt_cons, Option.map_eq_some_iff] at he
    obtain ⟨ks, he, rfl⟩ := he
    obtain ⟨c, hc, he⟩ := Option.bind_eq_some_iff.mp he
    obtain ⟨c', hc', rfl⟩ := Option.map_eq_some_iff.mp he
    exact h.insert (replaceIn hf (h.sub hc) hc')

theorem createIn : ∀ {p : List String} {o : Option Key} {k : Key}, (∀ c ∈ o, c.Ordered) → createIn o p = .ok k →
    k.Ordered
  | [], o, k, _, he => by
    rw [Key.createIn] at he
    split at he <;> cases he
    exact empty
  | s :: p, o, k, h, he => by
    have ho : (o.getD Key.empty).Ordered := by
      cases o with
      | none => exact empty
      | some c => exact h c rfl
    rw [createIn_cons] at he
    cases hc : Key.createIn ((o.getD Key.empty).subKeys.get? s) p with
    | error e => rw [hc] at he; cases he
    | ok c =>
      rw [hc] at he
      cases he
      exact ho.insert (createIn (fun c hc => ho.sub hc) hc)

end Ordered

end Key

/-! ## Flat stores -/

/-- Which paths are there, and what is stored under the names there. -/
@[ext]
structure Contents where
  present : List String → Bool
  value : List String → String → Option Data

namespace Contents

/-- What there is from `p` on downwards. -/
def below (m : Contents) (p : List String) : Contents := ⟨fun q => m.present (p ++ q), fun q => m.value (p ++ q)⟩

def of (find : List String → Option Key) : Contents :=
  ⟨fun p => (find p).isSome, fun p name => (find p).bind (·.values.get? name)⟩

end Contents

/-- The paths that are there have a segment, and whatever leads to one is there too. -/
structure FlatStore extends Contents where
  rooted : present [] = false
  closed : ∀ p q, p ≠ [] → present (p ++ q) = true → present p = true
  absent : ∀ p, present p = false → ∀ name, value p name = none

def pieces (path : String) : List String := ((path.toList.splitOn '/').filter (· ≠ [])).map String.ofList

namespace FlatStore

theorem ext {m n : FlatStore} (h : m.toContents = n.toContents) : m = n := by
  cases m; cases n; cases h; rfl

def empty : FlatStore := ⟨⟨fun _ => false, fun _ _ => none⟩, rfl, nofun, fun _ _ _ => rfl⟩

def create (m : FlatStore) (p : List String) : FlatStore where
  present q := m.present q || (!q.isEmpty && q.isPrefixOf p)
  value := m.value
  rooted := by simp [m.rooted]
  closed q q' hq h := by
    rw [Bool.or_eq_true] at h ⊢
    refine h.imp (m.closed q q' hq) fun h => ?_
    simp only [Bool.and_eq_true, List.isPrefixOf_iff_prefix] at h ⊢
    exact ⟨by simpa using hq, (List.prefix_append q q').trans h.2⟩
  absent q h := m.absent q (Bool.or_eq_false_iff.mp h).1

def put (m : FlatStore) (p : List String) (name : String) (d : Option Data) : FlatStore where
  present := m.present
  value q other := if m.present q ∧ q = p ∧ other = name then d else m.value q other
  rooted := m.rooted
  closed := m.closed
  absent q h other := by simp [h, m.absent q h]

end FlatStore

/-! ## Commands -/

inductive Answer where
  | stored (r : Except StoreError Unit)
  | value (r : Except StoreError Data)
  | erased (r : Except StoreError Bool)
  | flag (b : Bool)
  | subtree (m : Option Contents)
  | other

def Key.contents (k : Key) : Contents := .of k.at?

def Answer.of : Reply → Answer
  | .stored r => .stored r
  | .value r => .value r
  | .erased r => .erased r
  | .flag b => .flag b
  | .subtree k => .subtree (k.map Key.contents)
  | _ => .other

def ConfigCommand.path? : ConfigCommand → Option String
  | .create path | .set path _ _ | .get path _ | .delete path _ | .exists path | .dump path => some path
  | _ => none

def ConfigCommand.NamesKey (c : ConfigCommand) : Prop := ∃ path, c.path? = some path ∧ pieces path ≠ []

def ConfigCommand.respell (path : String) : ConfigCommand → ConfigCommand
  | .create _ => .create path
  | .set _ name d => .set path name d
  | .get _ name => .get path name
  | .delete _ name => .delete path name
  | .exists _ => .exists path
  | .dump _ => .dump path
  | c => c

def ConfigCommand.Writes (p : List String) (name : String) : ConfigCommand → Prop
  | .set path other _ | .delete path other => pieces path = p ∧ other = name
  | _ => False

namespace FlatStore

def answer : ConfigCommand → StateM FlatStore Answer
  | .create path => fun m =>
    if m.present (pieces path) then (.stored (.error .keyAlreadyExists), m)
    else (.stored (.ok ()), m.create (pieces path))
  | .set path name d => fun m =>
    if m.present (pieces path) then (.stored (.ok ()), m.put (pieces path) name (some d))
    else (.stored (.error .keyNotFound), m)
  | .get path name => fun m =>
    if m.present (pieces path) then
      (.value ((m.value (pieces path) name).elim (.error .valueNotFound) .ok), m)
    else (.value (.error .keyNotFound), m)
  | .delete path name => fun m =>
    if m.present (pieces path) then
      (.erased (.ok (m.value (pieces path) name).isSome), m.put (pieces path) name none)
    else (.erased (.error .keyNotFound), m)
  | .exists path => fun m => (.flag (m.present (pieces path)), m)
  | .dump path => fun m =>
    (.subtree (if m.present (pieces path) then some (m.below (pieces path)) else none), m)
  | _ => fun m => (.other, m)

end FlatStore

/-! ## Segments -/

theorem segmentsFrom_eq : ∀ (cs current : List Char), segmentsFrom current cs =
    ((cs.splitOnPPrepend (· == '/') current.reverse).filter (· ≠ [])).map String.ofList
  | [], current => by by_cases h : current = [] <;> simp [segmentsFrom, List.splitOnPPrepend_nil, h]
  | c :: cs, current => by
    rw [segmentsFrom]
    by_cases hc : c = '/'
    · rw [List.splitOnPPrepend_cons_pos (by simpa using hc), if_pos hc, segmentsFrom_eq cs []]
      by_cases h : current = [] <;> simp [h]
    · rw [List.splitOnPPrepend_cons_neg (by simpa using hc), if_neg hc, segmentsFrom_eq cs]
      simp

theorem segments_eq (path : String) : segments path = pieces path := segmentsFrom_eq path.toList []

/-! ## What the tree shows -/

namespace KeyTree

variable {t : KeyTree} {p q : List String}

def top (t : KeyTree) : Key := .mk [] t.root

def IsOrdered (t : KeyTree) : Prop := t.top.Ordered

theorem at?_top (hp : p ≠ []) : t.top.at? p = Key.find? t.root p := Key.at?_root hp

theorem find?_append (hp : p ≠ []) (q : List String) :
    Key.find? t.root (p ++ q) = (Key.find? t.root p).bind (·.at? q) := by
  rw [← at?_top hp, ← at?_top (by simp [hp]), Key.at?_append]

def flat (t : KeyTree) : FlatStore where
  toContents := .of (Key.find? t.root)
  rooted := rfl
  closed p q hp h := by
    have h : (Key.find? t.root (p ++ q)).isSome := h
    rw [find?_append hp] at h
    exact Option.isSome_of_isSome_bind h
  absent p h name := by
    have h : (Key.find? t.root p).isSome = false := h
    rw [Option.isSome_eq_false_iff, Option.isNone_iff_eq_none] at h
    simp [Contents.of, h]

theorem present_flat (t : KeyTree) (p : List String) : t.flat.present p = (Key.find? t.root p).isSome := rfl

theorem value_flat (t : KeyTree) (p : List String) (name : String) :
    t.flat.value p name = (Key.find? t.root p).bind (·.values.get? name) := rfl

/-- A key that is found shows what the tree shows below its path. -/
theorem contents_of_find? {k : Key} (hp : p ≠ []) (hk : Key.find? t.root p = some k) :
    k.contents = t.flat.below p := by
  refine Contents.ext (funext fun q => ?_) (funext fun q => funext fun name => ?_)
  · show (k.at? q).isSome = (Key.find? t.root (p ++ q)).isSome
    rw [find?_append hp, hk, Option.bind_some]
  · show (k.at? q).bind (·.values.get? name) = (Key.find? t.root (p ++ q)).bind (·.values.get? name)
    rw [find?_append hp, hk, Option.bind_some]

theorem flat_eq {t' : KeyTree} {m : FlatStore} (h : ∀ q, t'.flat.present q = m.present q)
    (h' : ∀ q name, t'.flat.value q name = m.value q name) : t'.flat = m :=
  FlatStore.ext (Contents.ext (funext h) (funext fun q => funext (h' q)))

/-! ### Values -/

theorem replaceIn_top {f : Key → Key} (hp : p ≠ []) :
    t.top.replaceIn f p = (Key.replaceAt f t.root p).map fun root => (KeyTree.mk root).top := by
  cases p with
  | nil => exact absurd rfl hp
  | cons _ _ => rfl

/-- Keys can be replaced where there are any. -/
theorem isSome_replaceAt (f : Key → Key) (hp : p ≠ []) : (Key.replaceAt f t.root p).isSome = t.flat.present p := by
  have hi := congrArg Option.isSome (replaceIn_top (t := t) (f := f) hp)
  rw [Key.isSome_replaceIn, at?_top hp, Option.isSome_map] at hi
  exact hi.symm

section
variable {name : String} {o : Option Data} {g : Entries Data → Entries Data} {root : Entries Key}
  (hg : ∀ vs : Entries Data, vs.Sorted →
    (g vs).Sorted ∧ ∀ other, (g vs).get? other = if other = name then o else vs.get? other)
  (ht : t.IsOrdered) (hp : p ≠ [])
  (h : Key.replaceAt (fun k => k.withValues (g k.values)) t.root p = some root)
include hg ht hp h

theorem ordered_replaceAt : (KeyTree.mk root).IsOrdered := by
  have hr := replaceIn_top (t := t) (f := fun k => k.withValues (g k.values)) hp
  exact Key.Ordered.replaceIn (fun hk => hk.withValues (hg _ hk.values).1) ht (hr.trans (congrArg _ h))

theorem flat_replaceAt : (KeyTree.mk root).flat = t.flat.put p name o := by
  have hr : t.top.replaceIn (fun k => k.withValues (g k.values)) p = some (KeyTree.mk root).top :=
    (replaceIn_top hp).trans (congrArg _ h)
  have hv (q : List String) (hq : q ≠ []) : (Key.find? root q).map Key.values =
      if q = p then (Key.find? t.root q).map fun k => g k.values else (Key.find? t.root q).map Key.values := by
    have := Key.values_replaceIn (fun k => Key.subKeys_withValues ..) hr q
    rw [at?_top hq, at?_top hq, at?_top hp] at this
    rw [this]
    by_cases he : q = p
    · simp [he, Key.values_withValues]
    · simp [he]
  refine flat_eq (fun q => ?_) fun q other => ?_
  · show (Key.find? root q).isSome = (Key.find? t.root q).isSome
    by_cases hq : q = []
    · rw [hq]; rfl
    · rw [← Option.isSome_map (f := Key.values), hv q hq]
      split <;> simp
  · show (Key.find? root q).bind (·.values.get? other) =
      if (Key.find? t.root q).isSome ∧ q = p ∧ other = name then o
        else (Key.find? t.root q).bind (·.values.get? other)
    by_cases hq : q = []
    · rw [hq, if_neg (by simp [Key.find?])]; rfl
    rw [Key.bind_values, hv q hq]
    by_cases hqp : q = p
    · subst hqp
      cases hk : Key.find? t.root q with
      | none => simp
      | some k =>
        have hk : k.Ordered := Key.Ordered.at? ht (by rw [at?_top hq, hk])
        simp [(hg _ hk.values).2]
    · simp [hqp, Key.bind_values]

end

theorem setValue_eq {path : String} (name : String) (d : Data) (ht : t.IsOrdered) (hp : segments path ≠ []) :
    (t.flat.present (segments path) = true ∧ ∃ t', t.setValue path name d = .ok t' ∧ t'.IsOrdered ∧
      t'.flat = t.flat.put (segments path) name (some d)) ∨
    (t.flat.present (segments path) = false ∧ t.setValue path name d = .error .keyNotFound) := by
  have hg (vs : Entries Data) (hs : vs.Sorted) : (vs.insert name d).Sorted ∧
      ∀ other, (vs.insert name d).get? other = if other = name then some d else vs.get? other :=
    ⟨hs.insert, fun other => vs.get?_insert name other d⟩
  rw [← isSome_replaceAt (fun k => k.withValues (k.values.insert name d)) hp, setValue]
  cases h : Key.replaceAt (fun k => k.withValues (k.values.insert name d)) t.root (segments path) with
  | none => exact .inr ⟨rfl, rfl⟩
  | some root => exact .inl ⟨rfl, _, rfl, ordered_replaceAt hg ht hp h, flat_replaceAt hg ht hp h⟩

theorem deleteValue_eq {path : String} (name : String) (ht : t.IsOrdered) (hp : segments path ≠ []) :
    (t.flat.present (segments path) = true ∧ ∃ t', t.deleteValue path name =
      .ok (t', (t.flat.value (segments path) name).isSome) ∧ t'.IsOrdered ∧
        t'.flat = t.flat.put (segments path) name none) ∨
    (t.flat.present (segments path) = false ∧ t.deleteValue path name = .error .keyNotFound) := by
  have hg (vs : Entries Data) (hs : vs.Sorted) : (vs.erase name).Sorted ∧
      ∀ other, (vs.erase name).get? other = if other = name then none else vs.get? other :=
    ⟨hs.erase, hs.get?_erase⟩
  have hi := isSome_replaceAt (t := t) (fun k => k.withValues (k.values.erase name)) hp
  rw [present_flat] at hi ⊢
  rw [value_flat, deleteValue, find?]
  cases hk : Key.find? t.root (segments path) with
  | none => exact .inr ⟨rfl, rfl⟩
  | some k =>
    rw [hk] at hi
    cases h : Key.replaceAt (fun k => k.withValues (k.values.erase name)) t.root (segments path) with
    | none => rw [h] at hi; cases hi
    | some root => exact .inl ⟨rfl, _, rfl, ordered_replaceAt hg ht hp h, flat_replaceAt hg ht hp h⟩

theorem getValue_eq (t : KeyTree) (path name : String) : t.getValue path name =
    if t.flat.present (segments path) then (t.flat.value (segments path) name).elim (.error .valueNotFound) .ok
    else .error .keyNotFound := by
  rw [present_flat, value_flat, getValue, find?]
  cases Key.find? t.root (segments path) with
  | none => rfl
  | some k => cases h : k.values.get? name <;> simp [h]

/-! ### Keys -/

theorem createIn_top (hp : p ≠ []) :
    Key.createIn (some t.top) p = (Key.createAt t.root p).map fun root => (KeyTree.mk root).top := by
  cases p with
  | nil => exact absurd rfl hp
  | cons _ _ => rfl

theorem createKey_eq {path : String} (ht : t.IsOrdered) (hp : segments path ≠ []) :
    (t.flat.present (segments path) = true ∧ t.createKey path = .error .keyAlreadyExists) ∨
    (t.flat.present (segments path) = false ∧ ∃ t', t.createKey path = .ok t' ∧ t'.IsOrdered ∧
      t'.flat = t.flat.create (segments path)) := by
  have hc := createIn_top (t := t) hp
  have he : t.createKey path = (Key.createAt t.root (segments path)).map KeyTree.mk := by
    rw [createKey]; cases Key.createAt t.root (segments path) <;> rfl
  rw [present_flat, he, ← at?_top hp]
  cases h : Key.createAt t.root (segments path) with
  | error e =>
    rw [h] at hc
    obtain ⟨rfl, hs⟩ := Key.createIn_error hc
    exact .inl ⟨hs, rfl⟩
  | ok root =>
    rw [h] at hc
    obtain ⟨hnone, hall⟩ := Key.createIn_ok hc
    have hnone : t.top.at? (segments path) = none := hnone
    refine .inr ⟨by rw [hnone]; rfl, _, rfl, Key.Ordered.createIn (fun c hc => Option.some.inj hc ▸ ht) hc, ?_⟩
    have hv (q : List String) (hq : q ≠ []) : (Key.find? root q).map Key.values =
        if q <+: segments path then some (((Key.find? t.root q).map Key.values).getD [])
        else (Key.find? t.root q).map Key.values := by
      have := hall q
      rwa [at?_top hq, Option.bind_some, at?_top hq] at this
    refine flat_eq (fun q => ?_) fun q name => ?_
    · show (Key.find? root q).isSome = ((Key.find? t.root q).isSome || (!q.isEmpty && q.isPrefixOf (segments path)))
      by_cases hq : q = []
      · rw [hq]; rfl
      · rw [← Option.isSome_map (f := Key.values), hv q hq]
        by_cases hpre : q <+: segments path
        · rw [if_pos hpre, List.isPrefixOf_iff_prefix.mpr hpre]
          simp [hq]
        · rw [if_neg hpre, Bool.eq_false_of_not_eq_true (mt List.isPrefixOf_iff_prefix.mp hpre)]
          simp
    · show (Key.find? root q).bind (·.values.get? name) = (Key.find? t.root q).bind (·.values.get? name)
      by_cases hq : q = []
      · rw [hq]; rfl
      rw [Key.bind_values, Key.bind_values, hv q hq]
      cases Key.find? t.root q <;> by_cases hpre : q <+: segments path <;> simp [hpre, Entries.get?]

end KeyTree

def Key.createInPlace (root : Entries Key) : List String → Entries Key × Except StoreError Unit
  | [] => (root, .ok ())
  | [s] => if (root.get? s).isSome then (root, .error .keyAlreadyExists) else (root.insert s empty, .ok ())
  | s :: ss =>
    let k := (root.get? s).getD empty
    let (below, r) := createInPlace k.subKeys ss
    (root.insert s (k.withSubKeys below), r)

/-- Where the last key is there already, so are all the others. -/
theorem Key.createInPlace_eq : ∀ {p : List String} {k : Key}, k.Ordered → createInPlace k.subKeys p =
    match createAt k.subKeys p with
    | .ok root => (root, .ok ())
    | .error e => (k.subKeys, .error e)
  | [], k, _ => rfl
  | [s], k, _ => by rw [createInPlace, createAt]; split <;> rfl
  | s :: x :: p, k, h => by
    have ho : ((k.subKeys.get? s).getD empty).Ordered := by
      cases hs : k.subKeys.get? s with
      | none => exact .empty
      | some c => exact h.sub hs
    have hat : createAt k.subKeys (s :: x :: p) =
        ((createAt ((k.subKeys.get? s).getD empty).subKeys (x :: p)).map
          ((k.subKeys.get? s).getD empty).withSubKeys).map (k.subKeys.insert s ·) := by
      rw [createAt_cons]; rfl
    have hin : createInPlace k.subKeys (s :: x :: p) =
        (k.subKeys.insert s (((k.subKeys.get? s).getD empty).withSubKeys
          (createInPlace ((k.subKeys.get? s).getD empty).subKeys (x :: p)).1),
          (createInPlace ((k.subKeys.get? s).getD empty).subKeys (x :: p)).2) := rfl
    rw [hin, createInPlace_eq ho, hat]
    cases hc : createAt ((k.subKeys.get? s).getD empty).subKeys (x :: p) with
    | ok root => rfl
    | error e =>
      have he : createIn (k.subKeys.get? s) (x :: p) = .error e := by
        show (createAt _ _).map _ = _
        rw [hc]; rfl
      obtain ⟨-, hi⟩ := createIn_error he
      cases hs : k.subKeys.get? s with
      | none => rw [hs] at hi; cases hi
      | some c =>
        have hw : c.withSubKeys c.subKeys = c := by cases c; rfl
        simp only [Option.getD_some, hw, h.subKeys.insert_get? hs]
        rfl

/-- Keys in order are known by what they show. -/
theorem Key.Ordered.ext {k k' : Key} (h : k.Ordered) (h' : k'.Ordered)
    (hc : k.contents = k'.contents) : k = k' := by
  induction h generalizing k' with
  | @mk vs ks hv hk _ ih =>
    cases h' with
    | @mk vs' ks' hv' hk' h' =>
      have hval (p : List String) (name : String) := congrFun (congrFun (congrArg Contents.value hc) p) name
      have hpre (p : List String) := congrFun (congrArg Contents.present hc) p
      simp only [contents, Contents.of] at hval hpre
      have hat (vs : Entries Data) (ks : Entries Key) (s : String) (p : List String) :
          (Key.mk vs ks).at? (s :: p) = (ks.get? s).bind (·.at? p) := at?_cons ..
      refine congr (congrArg Key.mk (hv.ext hv' fun name => hval [] name)) (hk.ext hk' fun s => ?_)
      have hs := hpre [s]
      rw [hat, hat] at hs
      cases hg : Entries.get? ks s with
      | none =>
        rw [hg] at hs
        cases hg' : Entries.get? ks' s with
        | none => rfl
        | some c' => rw [hg'] at hs; cases hs
      | some c =>
        rw [hg] at hs
        cases hg' : Entries.get? ks' s with
        | none => rw [hg'] at hs; cases hs
        | some c' =>
          refine congrArg some (ih _ (Entries.mem_of_get? hg) (h' _ (Entries.mem_of_get? hg')) ?_)
          -- what the sub-keys show is what is shown below them
          refine Contents.ext (funext fun p => ?_) (funext fun p => funext fun name => ?_)
          · have := hpre (s :: p)
            simp only [hat, hg, hg', Option.bind_some] at this
            exact this
          · have := hval (s :: p) name
            simp only [hat, hg, hg', Option.bind_some] at this
            exact this

/-! ## Whole sequences of commands -/

def Reply.IsRefusal : Reply → Prop
  | .stored (.error _) | .value (.error _) | .erased (.error _) | .subtree none => True
  | _ => False

section
variable {w : World} {path name : String}

theorem updateTree_ok (t : KeyTree) (w : World) :
    updateTree (.ok t) w = (.stored (.ok ()), { w with store := { w.store with tree := t } }) := rfl

theorem updateTree_error (e : StoreError) (w : World) : updateTree (.error e) w = (.stored (.error e), w) := rfl

theorem performConfig_create : performConfig (.create path) w = updateTree (w.store.tree.createKey path) w := rfl

theorem performConfig_set {d : Data} :
    performConfig (.set path name d) w = updateTree (w.store.tree.setValue path name d) w := rfl

theorem performConfig_get : performConfig (.get path name) w = (.value (w.store.tree.getValue path name), w) := rfl

theorem performConfig_delete {t : KeyTree} {b : Bool} (h : w.store.tree.deleteValue path name = .ok (t, b)) :
    performConfig (.delete path name) w = (.erased (.ok b), { w with store := { w.store with tree := t } }) := by
  simp only [performConfig, Act.bind_apply, Act.get_apply, h]
  rfl

theorem performConfig_delete_error {e : StoreError} (h : w.store.tree.deleteValue path name = .error e) :
    performConfig (.delete path name) w = (.erased (.error e), w) := by
  simp only [performConfig, Act.bind_apply, Act.get_apply, h]
  rfl

end
section
variable {w : World} {c : ConfigCommand} {cs : List ConfigCommand}

theorem performConfig_answer (hw : w.store.tree.IsOrdered) (hc : c.NamesKey) :
    FlatStore.answer c w.store.tree.flat =
    (Answer.of (performConfig c w).1, (performConfig c w).2.store.tree.flat) ∧
      (performConfig c w).2.store.tree.IsOrdered ∧
      ((performConfig c w).1.IsRefusal → (performConfig c w).2 = w) := by
  obtain ⟨path, hpath, hp⟩ := hc
  rw [← segments_eq] at hp
  cases c with
  | create x =>
    cases hpath
    simp only [FlatStore.answer, ← segments_eq, performConfig_create]
    obtain ⟨hpre, he⟩ | ⟨hpre, t', he, ht', hf⟩ := KeyTree.createKey_eq hw hp
    · rw [if_pos hpre, he, updateTree_error]
      exact ⟨rfl, hw, fun _ => rfl⟩
    · rw [if_neg (by rw [hpre]; nofun), he, updateTree_ok, ← hf]
      exact ⟨rfl, ht', fun h => h.elim⟩
  | set x name d =>
    cases hpath
    simp only [FlatStore.answer, ← segments_eq, performConfig_set]
    obtain ⟨hpre, t', he, ht', hf⟩ | ⟨hpre, he⟩ := KeyTree.setValue_eq name d hw hp
    · rw [if_pos hpre, he, updateTree_ok, ← hf]
      exact ⟨rfl, ht', fun h => h.elim⟩
    · rw [if_neg (by rw [hpre]; nofun), he, updateTree_error]
      exact ⟨rfl, hw, fun _ => rfl⟩
  | get x name =>
    cases hpath
    have he := w.store.tree.getValue_eq path name
    refine ⟨?_, hw, fun _ => rfl⟩
    rw [performConfig_get, he]
    simp only [FlatStore.answer, ← segments_eq]
    split <;> rfl
  | delete x name =>
    cases hpath
    simp only [FlatStore.answer, ← segments_eq]
    obtain ⟨hpre, t', he, ht', hf⟩ | ⟨hpre, he⟩ := KeyTree.deleteValue_eq name hw hp
    · rw [if_pos hpre, performConfig_delete he, ← hf]
      exact ⟨rfl, ht', fun h => h.elim⟩
    · rw [if_neg (by rw [hpre]; nofun), performConfig_delete_error he]
      exact ⟨rfl, hw, fun _ => rfl⟩
  | «exists» x =>
    cases hpath
    refine ⟨?_, hw, fun h => h.elim⟩
    simp only [FlatStore.answer, ← segments_eq]
    rfl
  | dump x =>
    cases hpath
    refine ⟨?_, hw, fun _ => rfl⟩
    simp only [FlatStore.answer, ← segments_eq]
    show (Answer.subtree _, _) = (Answer.subtree ((Key.find? w.store.tree.root (segments path)).map _), _)
    rw [KeyTree.present_flat]
    cases hk : Key.find? w.store.tree.root (segments path) with
    | none => rfl
    | some k =>
      have hb := KeyTree.contents_of_find? hp hk
      simp only [Option.isSome_some, if_true, ← hb, Option.map_some]
      rfl
  | _ => cases hpath

theorem mapM_cons_apply {σ α β : Type} (f : α → StateM σ β) (a : α) (l : List α) (x : σ) :
    (a :: l).mapM f x = ((f a x).1 :: (l.mapM f (f a x).2).1, (l.mapM f (f a x).2).2) := by
  rw [List.mapM_cons]; rfl

theorem mapM_performConfig : ∀ {cs : List ConfigCommand} {w : World}, w.store.tree.IsOrdered →
    (∀ c ∈ cs, c.NamesKey) →
    cs.mapM FlatStore.answer w.store.tree.flat =
      ((cs.mapM performConfig w).1.map Answer.of, (cs.mapM performConfig w).2.store.tree.flat) ∧
    (cs.mapM performConfig w).2.store.tree.IsOrdered
  | [], w, hw, _ => ⟨rfl, hw⟩
  | c :: cs, w, hw, hc => by
    obtain ⟨he, hw', -⟩ := performConfig_answer hw (hc c List.mem_cons_self)
    obtain ⟨hes, hw''⟩ := mapM_performConfig hw' fun d hd => hc d (List.mem_cons_of_mem _ hd)
    rw [mapM_cons_apply, mapM_cons_apply, he, hes]
    exact ⟨rfl, hw''⟩

theorem performConfig_respell {path path' : String} (h : c.path? = some path) (hp : pieces path' = pieces path) :
    performConfig (c.respell path') = performConfig c := by
  rw [← segments_eq, ← segments_eq] at hp
  cases c <;> cases h <;>
    simp only [ConfigCommand.respell, performConfig, KeyTree.createKey, KeyTree.setValue, KeyTree.getValue,
      KeyTree.deleteValue, KeyTree.keyExists, KeyTree.find?, hp]

/-- No command changes what is stored elsewhere. -/
theorem value_answer (m : FlatStore) {p : List String} {name : String} (h : ¬ c.Writes p name) :
    (FlatStore.answer c m).2.value p name = m.value p name := by
  have hput (path other : String) (d : Option Data) (h : ¬ (pieces path = p ∧ other = name)) :
      (m.put (pieces path) other d).value p name = m.value p name :=
    if_neg fun hn => h ⟨hn.2.1.symm, hn.2.2.symm⟩
  cases c <;> simp only [FlatStore.answer] <;> try split
  all_goals first | rfl | exact hput _ _ _ h

theorem isOrdered_empty : KeyTree.IsOrdered {} := .empty

theorem flat_empty : KeyTree.flat {} = .empty := by
  refine KeyTree.flat_eq (fun q => ?_) fun q name => ?_
  · cases q with
    | nil => rfl
    | cons s q => rw [KeyTree.present_flat, Key.find?_cons]; rfl
  · cases q with
    | nil => rfl
    | cons s q => rw [KeyTree.value_flat, Key.find?_cons]; rfl

end

/-- From an empty tree on, every reply is the flat store's. A key that is found
is the only one in order with what the flat store holds below its path. Paths
of the same pieces do the same, a command changes nothing stored elsewhere, a
refused one changes nothing, and adding keys on the way down comes to the
same, also where it is refused at its end. -/
theorem key_tree_refines_flat_store {w : World} {cs : List ConfigCommand} (hw : w.store.tree = {})
    (hcs : ∀ c ∈ cs, c.NamesKey) :
    let v := (cs.mapM performConfig w).2
    cs.mapM FlatStore.answer .empty = ((cs.mapM performConfig w).1.map Answer.of, v.store.tree.flat) ∧
    (∀ p k, Key.find? v.store.tree.root p = some k → k.Ordered ∧ k.contents = v.store.tree.flat.below p ∧
      ∀ k' : Key, k'.Ordered → k'.contents = v.store.tree.flat.below p → k' = k) ∧
    (∀ p, Key.createInPlace v.store.tree.root p = match Key.createAt v.store.tree.root p with
      | .ok root => (root, .ok ())
      | .error e => (v.store.tree.root, .error e)) ∧
    ∀ c : ConfigCommand, c.NamesKey →
      (∀ path path', c.path? = some path → pieces path' = pieces path →
        performConfig (c.respell path') v = performConfig c v) ∧
      (∀ p name, ¬ c.Writes p name →
        (performConfig c v).2.store.tree.flat.value p name = v.store.tree.flat.value p name) ∧
      ((performConfig c v).1.IsRefusal → (performConfig c v).2 = v) := by
  intro v
  obtain ⟨hans, hv⟩ := mapM_performConfig (w := w) (by rw [hw]; exact isOrdered_empty) hcs
  rw [hw, flat_empty] at hans
  refine ⟨hans, fun p k hk => ?_, fun p => Key.createInPlace_eq hv, fun c hc => ⟨fun path path' h hp => ?_, ?_, ?_⟩⟩
  · have hp : p ≠ [] := by rintro rfl; cases hk
    have hko : k.Ordered := Key.Ordered.at? hv (by rw [KeyTree.at?_top hp, hk])
    have hkc := KeyTree.contents_of_find? hp hk
    exact ⟨hko, hkc, fun k' hk' hc' => hk'.ext hko (hc'.trans hkc.symm)⟩
  · rw [performConfig_respell h hp]
  · intro p name hn
    rw [← value_answer v.store.tree.flat hn, (performConfig_answer hv hc).1]
  · exact (performConfig_answer hv hc).2.2

def nested : List ConfigCommand :=
  [.create "A/B", .create "/A/", .set "/A//B/" "Port" (.u32 7), .get "A/B" "Port", .delete "A" "Port"]

theorem key_tree_refines_flat_store_nested : (∀ c ∈ nested, c.NamesKey) ∧
    (nested.mapM FlatStore.answer .empty).1 =
      [.stored (.ok ()), .stored (.error .keyAlreadyExists), .stored (.ok ()), .value (.ok (.u32 7)),
        .erased (.ok false)] := by
  have hcs : ∀ c ∈ nested, c.NamesKey := by
    simp only [nested, List.forall_mem_cons]
    refine ⟨⟨_, rfl, ?_⟩, ⟨_, rfl, ?_⟩, ⟨_, rfl, ?_⟩, ⟨_, rfl, ?_⟩, ⟨_, rfl, ?_⟩, nofun⟩ <;>
      rw [← segments_eq] <;> decide
  obtain ⟨hans, -⟩ := key_tree_refines_flat_store (w := {}) rfl hcs
  rw [hans]
  exact ⟨hcs, rfl⟩

end PnpBus
