import PnpBus.Proofs.Keys
import PnpBus.Proofs.Logbooks
import PnpBus.Proofs.Stores

/-!
# Driver entry and the reboot flag

A driver that starts looks at two keys of its service. It may add the second
one, and flags a reboot there if its peer has another version. The flag stays
up whatever anybody does afterwards, writes to that very value apart.
-/

namespace PnpBus

variable {v w : World} {s s' : Store} {m service key path : String} {flags : UInt32} {peer : Version}
  {p : List String}

/-! ## Keys of a service -/

theorem segmentsFrom_append (ys : List Char) : ∀ xs current,
    segmentsFrom current (xs ++ '/' :: ys) = segmentsFrom current xs ++ segmentsFrom [] ys
  | [], current => by
    simp only [List.nil_append, segmentsFrom, if_true]
    split <;> rfl
  | x :: xs, current => by
    rw [List.cons_append, segmentsFrom, segmentsFrom, segmentsFrom_append ys xs, segmentsFrom_append ys xs]
    split
    · split <;> rfl
    · rfl

theorem segments_join (a b : String) : segments (a ++ "/" ++ b) = segments a ++ segments b := by
  have h : (a ++ "/" ++ b).toList = a.toList ++ '/' :: b.toList := by simp
  rw [segments, h, segmentsFrom_append]
  rfl

theorem segments_serviceKey_ne_nil (service : String) : segments (serviceKey service) ≠ [] := by
  have h : segments (serviceKey service) = segments servicesRoot ++ segments service := segments_join ..
  rw [h, show segments servicesRoot = ["SYSTEM", "CurrentControlSet", "Services"] by decide]
  simp

theorem segments_parametersKey (service : String) :
    segments (parametersKey service) = segments (serviceKey service) ++ ["Parameters"] := by
  have h : parametersKey service = serviceKey service ++ "/" ++ "Parameters" := by
    rw [parametersKey, String.append_assoc]; rfl
  rw [h, segments_join]
  rfl

theorem segments_statusKey (service : String) :
    segments (statusKey service) = segments (serviceKey service) ++ ["Status"] := by
  have h : statusKey service = serviceKey service ++ "/" ++ "Status" := by
    rw [statusKey, String.append_assoc]; rfl
  rw [h, segments_join]
  rfl

/-- Where a key is there, adding one beside it adds nothing else. -/
theorem FlatStore.present_create_beside {f : FlatStore} {base : List String} {a x : String} (hb : base ≠ [])
    (ha : f.present (base ++ [a]) = true) (q : List String) :
    (f.create (base ++ [x])).present q = true ↔ f.present q = true ∨ q = base ++ [x] := by
  have hbase : f.present base = true := f.closed base [a] hb ha
  have hcreate :
      (f.create (base ++ [x])).present q = (f.present q || (!q.isEmpty && q.isPrefixOf (base ++ [x]))) := rfl
  rw [hcreate, Bool.or_eq_true, Bool.and_eq_true, List.isPrefixOf_iff_prefix]
  constructor
  · rintro (h | ⟨hq, h⟩)
    · exact .inl h
    -- what leads to the new key leads to its sibling, too
    · rcases List.prefix_concat_iff.mp h with h | ⟨r, rfl⟩
      · exact .inr h
      · exact .inl (f.closed q r (by simpa using hq) hbase)
  · rintro (h | rfl)
    · exact .inl h
    · exact .inr ⟨by simp, List.prefix_refl _⟩

/-! ## Stores without failures -/

namespace Store

theorem createKey_faultless (hf : s.faults = {}) :
    s.createKey path = (s.tree.createKey path).map fun tree => { s with tree } := by
  obtain ⟨tree, faults⟩ := s
  cases hf
  show (do return { tree := ← tree.createKey path } : Except StoreError Store) = _
  cases tree.createKey path <;> rfl

theorem setValue_faultless {name : String} {d : Data} (hf : s.faults = {}) :
    s.setValue path name d = (s.tree.setValue path name d).map fun tree => { s with tree } := by
  obtain ⟨tree, faults⟩ := s
  cases hf
  show (do return { tree := ← tree.setValue path name d } : Except StoreError Store) = _
  cases tree.setValue path name d <;> rfl

/-- No failures are injected, and the tree is as operations make it. -/
structure IsPlain (s : Store) : Prop where
  faults : s.faults = {}
  ordered : s.tree.IsOrdered

def withStatus (s : Store) (service : String) : Except StoreError Store :=
  if s.keyExists (statusKey service) then .ok s else s.createKey (statusKey service)

theorem keyExists_eq (s : Store) (path : String) : s.keyExists path = s.tree.flat.present (segments path) := rfl

theorem withStatus_ok (h : s.IsPlain) (hp : s.keyExists (parametersKey service) = true) :
    ∃ s', s.withStatus service = .ok s' ∧ s'.IsPlain ∧
      (∀ q, s'.tree.flat.present q = true ↔ s.tree.flat.present q = true ∨ q = segments (statusKey service)) ∧
      ∀ q, s'.tree.flat.value q = s.tree.flat.value q := by
  rw [withStatus, keyExists_eq]
  split
  next hk => exact ⟨s, rfl, h, fun q => ⟨.inl, fun hq => hq.elim id fun e => e ▸ hk⟩, fun _ => rfl⟩
  next hk =>
    have hne : segments (statusKey service) ≠ [] := by rw [segments_statusKey]; simp
    rw [createKey_faultless h.faults]
    obtain ⟨hk', -⟩ | ⟨-, t, ht, ho, hflat⟩ := KeyTree.createKey_eq h.ordered hne
    · exact absurd hk' hk
    · rw [ht]
      refine ⟨_, rfl, ⟨h.faults, ho⟩, fun q => ?_, fun q => by rw [hflat]; rfl⟩
      rw [keyExists_eq, segments_parametersKey] at hp
      rw [hflat, segments_statusKey]
      exact FlatStore.present_create_beside (segments_serviceKey_ne_nil service) hp q

/-- A value can be set under a key that is there. -/
theorem setValue_ok (h : s.IsPlain) (hk : s.keyExists path = true) (name : String) (d : Data) :
    ∃ s', s.setValue path name d = .ok s' ∧ s'.IsPlain ∧
    s'.tree.flat = s.tree.flat.put (segments path) name (some d) := by
  have hp : segments path ≠ [] := by
    intro e
    rw [keyExists_eq, e, s.tree.flat.rooted] at hk
    cases hk
  rw [setValue_faultless h.faults]
  obtain ⟨-, t, ht, ho, hflat⟩ | ⟨hk', -⟩ := KeyTree.setValue_eq name d h.ordered hp
  · rw [ht]; exact ⟨_, rfl, ⟨h.faults, ho⟩, hflat⟩
  · rw [keyExists_eq, hk'] at hk; cases hk

theorem setValue_absent {name : String} {d : Data} (h : s.IsPlain) (hk : s.keyExists path = false) :
    s.setValue path name d = .error .keyNotFound := by
  rw [setValue_faultless h.faults]
  by_cases hp : segments path = []
  · rw [KeyTree.setValue, hp]; rfl
  obtain ⟨hk', -⟩ | ⟨-, he⟩ := KeyTree.setValue_eq name d h.ordered hp
  · rw [keyExists_eq, hk'] at hk; cases hk
  · rw [he]; rfl

end Store

/-! ## Acts of a driver that starts -/

theorem createKey_ok (h : w.store.createKey path = .ok s) :
    (createKey path).run w = (.ok (), { w with store := s }) := by
  simp only [createKey, Act.run_bind, Act.run_get, h]
  rfl

theorem requestReboot_ok (h : w.store.setValue key needReboot (.u32 1) = .ok s) :
    requestReboot key w = ((), { w with store := s }) := by
  simp only [requestReboot, Act.bind_apply, Act.get_apply, h]
  rfl

theorem requestReboot_error {e : StoreError} (h : w.store.setValue key needReboot (.u32 1) = .error e) :
    requestReboot key w = ((), w.note (.rebootNotFlagged key e)) := by
  simp only [requestReboot, Act.bind_apply, Act.get_apply, h]
  rfl

theorem checkPeer_current : (checkPeer m Version.current key).run w = (.ok (), w) := by
  rw [checkPeer, if_pos rfl]
  rfl

theorem checkPeer_stale (hp : peer ≠ Version.current) :
    (checkPeer m peer key).run w =
      (.error .incompatibleVersion, (w.note (.incompatible m peer)).after (requestReboot key)) := by
  simp only [checkPeer, if_neg hp, Act.run_bind, Act.run_lift, Act.notify_apply]
  rfl

theorem startDriver_safe (h : isSafeBoot flags = true) :
    (startDriver service flags peer).run w = (.ok w.drivers.size,
      { ((w.note .entered).note (.safeBoot service)).note .left with
        drivers := w.drivers.push { service, mode := .safeBoot } }) := by
  simp only [startDriver, Act.run_bind, Act.run_lift, Act.notify_apply, h, if_true]
  rfl

theorem startDriver_missing (h : isSafeBoot flags = false)
    (hp : w.store.keyExists (parametersKey service) = false) :
    (startDriver service flags peer).run w = (.error .notFound,
      ((w.note .entered).note (.starting service)).note (.missingKey service (parametersKey service))) := by
  have hp' : ((w.note .entered).note (.starting service)).store.keyExists (parametersKey service) = false := hp
  simp only [startDriver, Act.run_bind, Act.run_lift, Act.notify_apply, h, Act.run_get, hp', Bool.false_eq_true,
    if_false, Act.run_throw]

def findMode (service : String) (peer : Version) : ExceptT Status Act Mode :=
  tryCatch (do
    checkPeer service peer (statusKey service)
    pure Mode.operational) fun e => do
    notify (.runningDegraded service e)
    pure Mode.degraded

theorem startDriver_ready {mode : Mode} (h : isSafeBoot flags = false)
    (hp : w.store.keyExists (parametersKey service) = true) (hs : w.store.withStatus service = .ok s)
    (hm : (findMode service peer).run { (w.note .entered).note (.starting service) with store := s } =
      (.ok mode, v)) :
    (startDriver service flags peer).run w =
      (.ok v.drivers.size, { v.note .left with drivers := v.drivers.push { service, mode } }) := by
  have hp' : ((w.note .entered).note (.starting service)).store.keyExists (parametersKey service) = true := hp
  rw [findMode] at hm
  rw [Store.withStatus] at hs
  split at hs
  next hk =>
    cases hs
    have hk' : ((w.note .entered).note (.starting service)).store.keyExists (statusKey service) = true := hk
    change (tryCatch _ _ : ExceptT Status Act Mode).run ((w.note .entered).note (.starting service)) = _ at hm
    simp only [startDriver, Act.run_bind, Act.run_lift, Act.notify_apply, h, Act.run_get, hp', hk',
      Bool.false_eq_true, if_false, if_true, hm]
    rfl
  next hk =>
    have hs' : ((w.note .entered).note (.starting service)).store.createKey (statusKey service) = .ok s := hs
    have hk' : ¬((w.note .entered).note (.starting service)).store.keyExists (statusKey service) = true := hk
    simp only [startDriver, Act.run_bind, Act.run_lift, Act.notify_apply, h, Act.run_get, hp', if_neg hk',
      Bool.false_eq_true, if_false, if_true, createKey_ok hs', hm]
    rfl

/-! ## What a start leaves behind -/

structure Store.Marked (s : Store) (p : List String) (flagged : Prop) (s' : Store) : Prop extends s'.IsPlain where
  flag : flagged → s'.tree.flat.value p needReboot = some (.u32 1)
  value : ∀ q name, ¬(flagged ∧ q = p ∧ name = needReboot) → s'.tree.flat.value q name = s.tree.flat.value q name

theorem Store.setValue_marked {flagged : Prop} (h : s.IsPlain) (hk : s.keyExists path = true) (hf : flagged) :
    ∃ s', s.setValue path needReboot (.u32 1) = .ok s' ∧ s'.tree.flat.present = s.tree.flat.present ∧
      s.Marked (segments path) flagged s' := by
  obtain ⟨s', hs, hplain, hflat⟩ := setValue_ok h hk needReboot (.u32 1)
  refine ⟨s', hs, by rw [hflat]; rfl, { hplain with flag := fun _ => ?_, value := fun q name hn => ?_ }⟩
  · rw [hflat]; exact if_pos ⟨hk, rfl, rfl⟩
  · rw [hflat]; exact if_neg fun hc => hn ⟨hf, hc.2⟩

def Mode.of (peer : Version) : Mode := if peer = Version.current then .operational else .degraded

theorem findMode_marked (hw : w.store.IsPlain) (hk : w.store.keyExists (statusKey service) = true)
    (peer : Version) :
    ∃ v, (findMode service peer).run w = (.ok (.of peer), v) ∧ v.drivers = w.drivers ∧
      v.store.tree.flat.present = w.store.tree.flat.present ∧
      w.store.Marked (segments (statusKey service)) (peer ≠ Version.current) v.store := by
  by_cases hv : peer = Version.current
  · refine ⟨w, ?_, rfl, rfl, { hw with flag := fun hn => absurd hv hn, value := fun _ _ _ => rfl }⟩
    subst hv
    simp only [findMode, Act.run_tryCatch, Act.run_bind, checkPeer_current]
    rfl
  · obtain ⟨s, hs, hpre, hmark⟩ := Store.setValue_marked hw hk hv
    have hr : (w.note (.incompatible service peer)).store.setValue (statusKey service) needReboot
        (.u32 1) = .ok s := hs
    refine ⟨{ w.note (.incompatible service peer) with store := s }.note
      (.runningDegraded service .incompatibleVersion), ?_, rfl, hpre, hmark⟩
    simp only [findMode, Act.run_tryCatch, Act.run_bind, checkPeer_stale hv, World.after, requestReboot_ok hr,
      Mode.of, if_neg hv]
    rfl

theorem startDriver_marked (hw : w.store.IsPlain) (h : isSafeBoot flags = false)
    (hp : w.store.keyExists (parametersKey service) = true) (peer : Version) :
    ∃ v, (startDriver service flags peer).run w = (.ok w.drivers.size, v) ∧
      v.drivers = w.drivers.push { service, mode := .of peer } ∧
      (∀ q, v.store.tree.flat.present q = true ↔
        w.store.tree.flat.present q = true ∨ q = segments (statusKey service)) ∧
      w.store.Marked (segments (statusKey service)) (peer ≠ Version.current) v.store := by
  obtain ⟨s, hs, hplain, hpre, hval⟩ := Store.withStatus_ok hw hp
  obtain ⟨v, hm, hd, hpres, hmark⟩ :=
    findMode_marked (w := { (w.note .entered).note (.starting service) with store := s })
    hplain ((hpre _).mpr (.inr rfl)) peer
  have hd : v.drivers = w.drivers := hd
  refine ⟨{ v.note .left with drivers := w.drivers.push { service, mode := .of peer } },
    by rw [startDriver_ready h hp hs hm, hd], rfl, fun q => ?_, { hmark with value := ?_ }⟩
  · show v.store.tree.flat.present q = true ↔ _
    rw [hpres]
    exact hpre q
  · intro q name hn
    exact (hmark.value q name hn).trans (congrFun (hval q) name)

/-! ## Stores with the flag up -/

/-- The flag is a number other than zero. -/
theorem Store.needsReboot_eq (hf : s.faults = {}) : s.needsReboot path =
    (s.tree.flat.value (segments path) needReboot).any fun d => d.asU32.toOption.any (· != 0) := by
  have hg : s.getValue path needReboot = s.tree.getValue path needReboot := by rw [getValue, hf]; rfl
  rw [needsReboot, hg, KeyTree.getValue_eq]
  cases hp : s.tree.flat.present (segments path) with
  | false => rw [s.tree.flat.absent _ hp]; rfl
  | true =>
    cases s.tree.flat.value (segments path) needReboot with
    | none => rfl
    | some d =>
      have hbind : ((.ok d : Except StoreError Data) >>= Data.asU32) = d.asU32 := rfl
      rw [if_pos rfl, Option.elim_some, hbind, Option.any_some]
      cases d.asU32 <;> rfl

structure Store.Flagged (p : List String) (s : Store) : Prop extends s.IsPlain where
  value : s.tree.flat.value p needReboot = some (.u32 1)

namespace Store.Flagged

theorem present (h : s.Flagged p) : s.tree.flat.present p = true := by
  by_contra hn
  have := s.tree.flat.absent _ (Bool.not_eq_true _ ▸ hn) needReboot
  rw [h.value] at this
  cases this

theorem ne_nil (h : s.Flagged p) : p ≠ [] := fun e => by
  have hp := h.present
  rw [e, s.tree.flat.rooted] at hp
  cases hp

theorem needsReboot (h : s.Flagged (segments path)) : s.needsReboot path = true := by
  rw [Store.needsReboot_eq h.faults, h.value]
  rfl

theorem marked (h : s.Flagged p) {q : List String} {flagged : Prop} (hs : s.Marked q flagged s') :
    s'.Flagged p := by
  refine { hs with value := ?_ }
  by_cases hc : flagged ∧ p = q ∧ needReboot = needReboot
  · rw [hc.2.1]; exact hs.flag hc.1
  · rw [hs.value p _ hc, h.value]

end Store.Flagged

/-- Whoever writes to the flag decides whether it is still up. -/
theorem Store.Flagged.put (h : s.Flagged (segments key)) {t : KeyTree} {o : Option Data}
    (ht : t.flat = s.tree.flat.put (segments key) needReboot o) :
    ({ s with tree := t } : Store).needsReboot key = o.any fun d => d.asU32.toOption.any (· != 0) := by
  have hv : t.flat.value (segments key) needReboot = o := by rw [ht]; exact if_pos ⟨h.present, rfl, rfl⟩
  rw [Store.needsReboot_eq (s := { s with tree := t }) h.faults]
  exact congrArg _ hv

theorem performConfig_set_needsReboot (hv : v.store.Flagged (segments key)) (hp : segments path = segments key)
    (d : Data) : (performConfig (.set path needReboot d) v).2.store.needsReboot key =
      d.asU32.toOption.any (· != 0) := by
  rw [performConfig_set]
  obtain ⟨-, t, ht, -, hflat⟩ | ⟨hk, -⟩ := KeyTree.setValue_eq needReboot d hv.ordered (hp ▸ hv.ne_nil)
  · rw [ht, updateTree_ok]
    exact hv.put (hp ▸ hflat)
  · rw [hp, hv.present] at hk; cases hk

theorem performConfig_delete_needsReboot (hv : v.store.Flagged (segments key)) (hp : segments path = segments key) :
    (performConfig (.delete path needReboot) v).2.store.needsReboot key = false := by
  obtain ⟨-, t, ht, -, hflat⟩ | ⟨hk, -⟩ := KeyTree.deleteValue_eq needReboot hv.ordered (hp ▸ hv.ne_nil)
  · rw [performConfig_delete ht]
    exact hv.put (hp ▸ hflat)
  · rw [hp, hv.present] at hk; cases hk

theorem requestReboot_flagged (hv : v.store.Flagged p) (path : String) :
    (v.after (requestReboot path)).store.Flagged p := by
  cases hk : v.store.keyExists path with
  | false =>
    rw [World.after, requestReboot_error (Store.setValue_absent hv.toIsPlain hk)]
    exact hv
  | true =>
    obtain ⟨s, hs, -, hmark⟩ := Store.setValue_marked hv.toIsPlain hk trivial
    rw [World.after, requestReboot_ok hs]
    exact hv.marked hmark

/-- The command writes to the very value, or makes the store fail. -/
def Command.Clears (p : List String) : Command → Prop
  | .config (.inject _) => True
  | .config c => c.Writes p needReboot
  | _ => False

theorem startDriver_flagged (hv : v.store.Flagged p) :
    (v.after (startDriver service flags peer).run).store.Flagged p := by
  rw [World.after]
  cases hf : isSafeBoot flags with
  | true => rw [startDriver_safe hf]; exact hv
  | false =>
    cases hk : v.store.keyExists (parametersKey service) with
    | false => rw [startDriver_missing hf hk]; exact hv
    | true =>
      obtain ⟨w, hr, -, -, hm⟩ := startDriver_marked hv.toIsPlain hf hk peer
      rw [hr]
      exact hv.marked hm

/-- A path that names no key is refused, or nothing is added for it. -/
theorem performConfig_rootless {c : ConfigCommand} (hc : c.path? = some path) (hp : segments path = []) :
    (performConfig c w).2 = w := by
  cases c with
  | create x =>
    cases hc
    rw [performConfig_create, KeyTree.createKey, hp]
    rfl
  | set x name d =>
    cases hc
    rw [performConfig_set, KeyTree.setValue, hp]
    rfl
  | delete x name =>
    cases hc
    have he : w.store.tree.deleteValue path name = .error .keyNotFound := by
      rw [KeyTree.deleteValue, KeyTree.find?, hp]
      rfl
    rw [performConfig_delete_error he]
  | get x name => rfl
  | «exists» x => rfl
  | dump x => rfl
  | _ => cases hc

theorem performConfig_faults {c : ConfigCommand} (hc : c.path? = some path) :
    (performConfig c w).2.store.faults = w.store.faults := by
  have update (o : Except StoreError KeyTree) : (updateTree o w).2.store.faults = w.store.faults := by
    cases o <;> rfl
  cases c with
  | create x => exact update _
  | set x name d => exact update _
  | delete x name =>
    cases he : w.store.tree.deleteValue x name with
    | error e => rw [performConfig_delete_error he]
    | ok t => rw [performConfig_delete he]
  | get x name => rfl
  | «exists» x => rfl
  | dump x => rfl
  | _ => cases hc

theorem performConfig_flagged {c : ConfigCommand} (hc : ¬(Command.config c).Clears p) (hv : v.store.Flagged p) :
    (performConfig c v).2.store.Flagged p := by
  cases hpath : c.path? with
  | some path =>
    by_cases hp : segments path = []
    · rw [performConfig_rootless hpath hp]; exact hv
    have hn : ¬c.Writes p needReboot := by cases c <;> first | exact hc | cases hpath
    obtain ⟨hans, hord, -⟩ := performConfig_answer hv.ordered ⟨path, hpath, by rwa [← segments_eq]⟩
    refine ⟨⟨(performConfig_faults hpath).trans hv.faults, hord⟩, ?_⟩
    have hval := value_answer v.store.tree.flat hn
    rw [hans] at hval
    exact hval.trans hv.value
  | none =>
    cases c with
    | inject f => exact absurd trivial hc
    | checkPeer m peer path =>
      show (v.after (checkPeer m peer path).run).store.Flagged p
      by_cases hpeer : peer = Version.current
      · rw [World.after, hpeer, checkPeer_current]; exact hv
      · rw [World.after, checkPeer_stale hpeer]
        exact requestReboot_flagged (v := v.note (.incompatible m peer)) hv path
    | requestReboot path => exact requestReboot_flagged hv path
    | needsReboot path => exact hv
    | _ => cases hpath

theorem perform_start (o : Option Version) (v : World) : ∃ a, perform (.driver (.start service flags o)) v =
    .done (v.after (startDriver service flags (o.getD Version.current)).run) a := by
  rcases h : (startDriver service flags (o.getD Version.current)).run v with ⟨e | b, w⟩
  · refine ⟨.driver (.error e), ?_⟩
    simp only [perform, performDriver, Call.bind_apply, Call.lift_apply, World.after, h]
    rfl
  · refine ⟨.driver (.ok (b, (w.driver b).mode)), ?_⟩
    simp only [perform, performDriver, Call.bind_apply, Call.lift_apply, World.after, h]
    rfl

theorem perform_flagged {c : Command} (hc : c.Configures) (hn : ¬c.Clears p) (hv : v.store.Flagged p) :
    (perform c v).world.store.Flagged p := by
  cases c with
  | config c => exact performConfig_flagged hn hv
  | driver c =>
    cases c with
    | start service flags o =>
      obtain ⟨a, ha⟩ := perform_start o v
      rw [ha]
      exact startDriver_flagged hv
    | _ => exact hc.elim
  | _ => exact hc.elim

/-- A command about the configuration never waits, and neither does a start. -/
theorem perform_done {c : Command} (hc : c.Configures) (v : World) : ∃ w a, perform c v = .done w a := by
  cases c with
  | config c => exact ⟨_, _, rfl⟩
  | driver c =>
    cases c with
    | start service flags o => exact ⟨_, perform_start o v⟩
    | _ => exact hc.elim
  | _ => exact hc.elim

/-! ## Anybody's commands -/

inductive Pass (allowed : Command → Prop) : Config → Config → Prop
  | begin {w : World} {fs : List Suspended} {run : Run Reply} (c : Command) (hc : allowed c)
      (hl : (perform c w).Lands (fun _ => True) run) :
      Pass allowed ⟨w, fs⟩ ⟨run.world, Suspended.ofRun (c.sent w) run ++ fs⟩
  | resume {w : World} {fs gs : List Suspended} {run : Run Reply} (f : Suspended) (hset : w.isSet f.on = true)
      (hl : (f.resume w).Lands (fun _ => True) run) :
      Pass allowed ⟨w, fs ++ f :: gs⟩ ⟨run.world, Suspended.ofRun f.sent run ++ (fs ++ gs)⟩
  | work {w w' : World} {fs : List Suspended} {j : Job} {js : List Job} (hj : w.jobs = j :: js)
      (hr : j.run { w with jobs := js } = (none, w')) : Pass allowed ⟨w, fs⟩ ⟨w', fs⟩
  | drop {w : World} {fs : List Suspended} (r : RequestId) : Pass allowed ⟨w, fs⟩ ⟨w.after (relinquish r), fs⟩
  | tidy {w : World} {fs : List Suspended} (journal : Journal) (inHand : List DeviceId) :
      Pass allowed ⟨w, fs⟩ ⟨{ w with journal, inHand }, fs⟩

abbrev Passes (allowed : Command → Prop) : Config → Config → Prop := Relation.ReflTransGen (Pass allowed)

def Suspended.IsSteady (f : Suspended) : Prop :=
  ∀ w, (f.resume w).Along World.Unwritten (fun _ _ => True) (fun _ _ => True) w

section
variable {allowed : Command → Prop} {c c' : Config} {fs : List Suspended}

/-- Where a call that does not write stops, it has not written, and will not if it waits there. -/
theorem steady_of_along (sent : Option (Stack × Kind)) {run : Run Reply}
    (h : run.Along World.Unwritten (fun _ _ => True) (fun _ _ => True) v) (hs : run.IsStopped) :
    run.world.store = v.store ∧ ∀ f ∈ Suspended.ofRun sent run, f.IsSteady := by
  obtain ⟨w, a, rfl⟩ | ⟨w, on, resume, rfl⟩ := hs
  · exact ⟨World.of_steps h.1, nofun⟩
  · refine ⟨World.of_steps h.1, fun f hf => ?_⟩
    rw [List.mem_singleton.mp hf]
    exact fun w' => h.2 w' trivial

/-- One thing changes the store only if it is a command that configures, which is done then. -/
theorem Pass.steady (hp : Pass allowed c c') (hs : ∀ f ∈ c.suspended, f.IsSteady) :
    (∀ f ∈ c'.suspended, f.IsSteady) ∧ (c'.world.store = c.world.store ∨
      ∃ x, allowed x ∧ x.Configures ∧ c'.world = (perform x c.world).world) := by
  cases hp with
  | @begin w fs run x hx hl =>
    by_cases hc : x.Configures
    · obtain ⟨w', a, ha⟩ := perform_done hc w
      rw [ha] at hl
      cases hl
      exact ⟨hs, .inr ⟨x, hx, hc, by rw [ha]⟩⟩
    · have ⟨hstore, hnew⟩ := steady_of_along (x.sent w) ((perform_unwritten hc w).lands hl) hl.stops
      exact ⟨fun f hf => (List.mem_append.mp hf).elim (hnew f) (hs f), .inl hstore⟩
  | @resume w fs gs run f hset hl =>
    have hf := hs f (List.mem_append_right fs List.mem_cons_self)
    have ⟨hstore, hnew⟩ := steady_of_along f.sent ((hf w).lands hl) hl.stops
    exact ⟨fun g hg => (List.mem_append.mp hg).elim (hnew g) fun hg =>
      hs g (Config.mem_of_mem_without g hg), .inl hstore⟩
  | @work w w' fs j js hj hr =>
    have hstore := World.of_steps ((job_apart j).silent.unwritten { w with jobs := js })
    rw [World.after, hr] at hstore
    exact ⟨hs, .inl hstore⟩
  | drop r => exact ⟨hs, .inl (World.of_steps (completable_unwritten.relinquish r _))⟩
  | tidy journal inHand => exact ⟨hs, .inl rfl⟩

theorem Passes.steady (hp : Passes allowed c c') (hs : ∀ f ∈ c.suspended, f.IsSteady) :
    ∀ f ∈ c'.suspended, f.IsSteady := by
  induction hp with
  | refl => exact hs
  | tail _ hp ih => exact (hp.steady ih).1

theorem Passes.flagged (hp : Passes (¬·.Clears p) c c') (hs : ∀ f ∈ c.suspended, f.IsSteady)
    (hc : c.world.store.Flagged p) : c'.world.store.Flagged p := by
  induction hp with
  | refl => exact hc
  | @tail c' c'' hpre hp ih =>
    -- nobody who waits will write, so that only what is begun has to be looked at
    rcases (hp.steady (Passes.steady hpre hs)).2 with h | ⟨x, hx, hconf, hw⟩
    · rw [h]; exact ih
    · rw [hw]; exact perform_flagged hconf hx ih

theorem Pass.configure {x : Command} (hx : allowed x) (hc : x.Configures) (w : World) (fs : List Suspended) :
    Pass allowed ⟨w, fs⟩ ⟨(perform x w).world, fs⟩ := by
  obtain ⟨w', a, ha⟩ := perform_done hc w
  have hl : (perform x w).Lands (fun _ => True) (.done w' a) := by rw [ha]; exact .done trivial
  rw [ha]
  exact .begin x hx hl

end

/-- In safe mode a driver comes up and leaves the configuration alone; without its parameters it does not come up
and leaves it alone too. Otherwise it comes up, degraded if its peer has another version, with its status key there
afterwards and the flag in that key if it is degraded, and nothing else different. From then on the flag is up,
whatever commands anybody runs, in each other's waits or not, until one writes to that value. A value that is no
number other than zero takes the flag down then, and so does a deletion. -/
theorem degraded_start_requests_reboot {w v : World} {outcome : Except Status DriverId} (service : String)
    (flags : UInt32) (peer : Version) (hw : w.store.IsPlain)
    (hr : (startDriver service flags peer).run w = (outcome, v)) :
    let p := pieces (statusKey service)
    (isSafeBoot flags = true →
      outcome = .ok w.drivers.size ∧ (v.driver w.drivers.size).mode = .safeBoot ∧ v.store = w.store) ∧
    (isSafeBoot flags = false → w.store.keyExists (parametersKey service) = false →
      outcome = .error .notFound ∧ v.drivers = w.drivers ∧ v.store = w.store) ∧
    (isSafeBoot flags = false → w.store.keyExists (parametersKey service) = true →
      outcome = .ok w.drivers.size ∧
      (v.driver w.drivers.size).mode = (if peer = Version.current then .operational else .degraded) ∧
      v.store.IsPlain ∧
      (∀ q, v.store.tree.flat.present q = true ↔ w.store.tree.flat.present q = true ∨ q = p) ∧
      ∀ q name, v.store.tree.flat.value q name =
        if peer ≠ Version.current ∧ q = p ∧ name = needReboot then some (.u32 1)
          else w.store.tree.flat.value q name) ∧
    ((v.driver w.drivers.size).mode = .degraded → ∀ u fs, Passes (fun _ => True) ⟨u, []⟩ ⟨w, fs⟩ →
      ∀ c, Passes (¬·.Clears p) ⟨v, fs⟩ c → c.world.store.needsReboot (statusKey service) = true ∧
        ∀ path, pieces path = p →
          (∀ d, (performConfig (.set path needReboot d) c.world).2.store.needsReboot (statusKey service) =
            d.asU32.toOption.any (· != 0)) ∧
          (performConfig (.delete path needReboot) c.world).2.store.needsReboot (statusKey service) = false) := by
  intro p
  have hp : p = segments (statusKey service) := (segments_eq _).symm
  have hnew {d : Driver} (h : v.drivers = w.drivers.push d) : v.driver w.drivers.size = d := by
    rw [World.driver, h, Table.get_push_size]
  cases hf : isSafeBoot flags with
  | true =>
    cases hr.symm.trans (startDriver_safe hf)
    rw [hnew rfl]
    refine ⟨fun _ => ⟨rfl, rfl, rfl⟩, fun h => ?_, fun h => ?_, fun h => ?_⟩ <;> cases h
  | false =>
    cases hk : w.store.keyExists (parametersKey service) with
    | false =>
      have hs := hr.symm.trans (startDriver_missing hf hk)
      injection hs with ho hv
      have hd : v.drivers = w.drivers := by rw [hv]; rfl
      refine ⟨fun h => ?_, fun _ _ => ⟨ho, hd, by rw [hv]; rfl⟩, fun _ h => ?_, fun h => ?_⟩
      · cases h
      · cases h
      · rw [World.driver, hd, Table.get_of_size_le (Nat.le_refl _)] at h
        cases h
    | true =>
      obtain ⟨v', hv', hd, hpre, hmark⟩ := startDriver_marked hw hf hk peer
      cases hr.symm.trans hv'
      rw [hnew hd, hp]
      refine ⟨fun h => ?_, fun _ h => ?_, fun _ _ => ⟨rfl, rfl, hmark.toIsPlain, hpre, fun q name => ?_⟩,
        fun hm u fs hu c hc => ?_⟩
      · cases h
      · cases h
      · split
        next h => rw [h.2.1, h.2.2]; exact hmark.flag h.1
        next h => exact hmark.value q name h
      · have hv : peer ≠ Version.current := by
          intro e
          rw [Mode.of, if_pos e] at hm
          cases hm
        have hsteady := hu.steady fun f hf => absurd hf List.not_mem_nil
        have hflagged := hc.flagged hsteady { hmark with value := hmark.flag hv }
        refine ⟨hflagged.needsReboot, fun path hpath => ?_⟩
        rw [← segments_eq] at hpath
        exact ⟨performConfig_set_needsReboot hflagged hpath, performConfig_delete_needsReboot hflagged hpath⟩

def World.parametrized : World := (performConfig (.create (parametersKey "a//b")) {}).2

theorem World.isPlain_parametrized : World.parametrized.store.IsPlain := by
  refine ⟨rfl, (performConfig_answer isOrdered_empty ⟨_, rfl, ?_⟩).2.1⟩
  rw [← segments_eq, segments_parametersKey]
  simp

/-- The peer is of another tree. A second start, with a peer of this one, and the deletion of another value
follow. -/
theorem degraded_start_requests_reboot_of_stale_peer :
    let w := World.parametrized
    let v := w.after (startDriver "a//b" 0 ⟨0, 2, 0, 0⟩).run
    ∃ c, Passes (¬·.Clears (pieces (statusKey "a//b"))) ⟨v, []⟩ c ∧ c.world.drivers.size = 2 ∧
      c.world.store.needsReboot (statusKey "a//b") = true ∧
      (performConfig (.set (statusKey "a/b") needReboot (.str "1")) c.world).2.store.needsReboot
        (statusKey "a//b") =
        false := by
  intro w v
  have hlast := (degraded_start_requests_reboot "a//b" 0 ⟨0, 2, 0, 0⟩ World.isPlain_parametrized rfl).2.2.2
    (by decide +kernel) w [] .refl
  have h₁ : Passes (¬·.Clears (pieces (statusKey "a//b"))) ⟨v, []⟩ _ :=
    .single (.configure (x := .driver (.start "a//b" 0 none)) nofun trivial v [])
  have h₂ := h₁.tail (.configure (x := .config (.delete (statusKey "a//b") "Other")) ?_ trivial _ [])
  · obtain ⟨hup, hwritten⟩ := hlast _ h₂
    exact ⟨_, h₂, by decide +kernel, hup, (hwritten (statusKey "a/b") (by decide +kernel)).1 (.str "1")⟩
  · exact fun h => absurd h.2 (by decide)

end PnpBus
