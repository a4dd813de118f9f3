import PnpBus.Proofs.Terms

/-!
# Falling back

A start and the queries to stop and to remove move a layer first and then go
on to the rest of the stack. If any level refuses, each level above it falls
back to where it was. The devices may be in any states before that, and may
be closed or deleted.
-/

namespace PnpBus

variable {b : DriverId} {r : RequestId} {d x : DeviceId} {ds es : List DeviceId} {m : Minor} {q target : PnpState}
  {s : Status} {u v w : World}

/-- The state in which a layer waits for the rest of the stack, and the one it is in when all have agreed. -/
def Minor.query? : Minor → Option (PnpState × PnpState)
  | .startDevice => some (.startPending, .started)
  | .queryStopDevice => some (.stopPending, .stopPending)
  | .queryRemoveDevice => some (.removePending, .removePending)
  | _ => none

theorem Minor.isRevocable_of_query? (h : m.query? = some (q, target)) : q.isRevocable = true := by
  cases m <;> cases h <;> rfl

/-! ## One reference, out and back -/

namespace RemoveLock

variable {l : RemoveLock}

def lend (l : RemoveLock) : RemoveLock := { l with count := l.count + 1 }

def giveBack (l : RemoveLock) : RemoveLock := l.release?.getD l

/-- A lock that is not at its limit lends a reference and gets it back. -/
theorem outstanding_giveBack (h : l.count + 1 ≠ 0) : l.lend.giveBack.outstanding = l.outstanding := by
  have hr : l.lend.release? = some { l.lend with count := l.count + 1 - 1, latch := l.latch || l.count + 1 = 1 } :=
    if_neg h
  rw [giveBack, hr, Option.getD_some, UInt32.add_sub_cancel]
  rfl

end RemoveLock

namespace World

theorem device_giveBack (hd : d < w.devices.size) (x : DeviceId) :
    (w.after (releaseLock (.device d))).device x =
      { w.device x with lock := if x = d then (w.device x).lock.giveBack else (w.device x).lock } := by
  rw [after_releaseLock, lock_device]
  by_cases hx : x = d
  · subst hx
    rw [if_pos rfl, RemoveLock.giveBack]
    cases (w.device x).lock.release? with
    | none => rfl
    | some l => exact (device_updateDevice ..).trans (if_pos ⟨rfl, hd⟩)
  · rw [if_neg hx]
    cases (w.device d).lock.release? with
    | none => rfl
    | some l => exact (device_updateDevice ..).trans (if_neg fun e => hx e.1)

theorem device_giveBackAll : ∀ (es : List DeviceId) {w : World}, es.Nodup → (∀ d ∈ es, d < w.devices.size) →
    ∀ x, (w.after (es.forM fun d => releaseLock (.device d))).device x =
      { w.device x with lock := if x ∈ es then (w.device x).lock.giveBack else (w.device x).lock }
  | [], w, _, _, x => by simp only [List.not_mem_nil, if_false]; rfl
  | d :: es, w, hn, hs, x => by
    obtain ⟨hd, hn⟩ := List.nodup_cons.mp hn
    have hsize := (OnlyReleases.releaseLock w d).sameStanding.size
    have ih := device_giveBackAll es (w := w.after (releaseLock (.device d))) hn
      (fun y hy => hsize ▸ hs y (List.mem_cons_of_mem d hy)) x
    rw [after, Act.forM_cons]
    rw [after] at ih
    rw [ih, device_giveBack (hs d List.mem_cons_self)]
    by_cases hx : x = d
    · subst hx; simp [hd]
    · simp [hx]

/-- A request that is completed gives back what it holds. -/
theorem device_completeAll (hr : w.Knows r) (hc : (w.request r).completed = false) (ht : (w.request r).tickets = [])
    (hl : (w.request r).locks = es) (hn : es.Nodup) (hs : ∀ d ∈ es, d < w.devices.size) (s : Status)
    (x : DeviceId) :
    (w.after (complete r s)).device x = { w.device x with
      lock := if x ∈ es then (w.device x).lock.giveBack else (w.device x).lock } := by
  have hu : (w.updateRequest r fun q => { q with completed := true, status := s }).request r =
      { w.request r with completed := true, status := s, locks := es } := by
    rw [request_updateRequest, if_pos ⟨rfl, hr⟩, ← hl]
  rw [after_complete, if_neg (by rw [hc]; nofun), device_updateRequest, after_relinquish, hu]
  simp only [ht]
  exact device_giveBackAll es (w := (w.updateRequest r _).updateRequest r _) hn hs x

/-! ## What a query touches -/

structure Entered (r : RequestId) (es : List DeviceId) (v w : World) : Prop where
  devices : w.devices.size = v.devices.size
  requests : w.requests.size = v.requests.size
  request : w.request r = { v.request r with locks := es ++ (v.request r).locks }
  device : ∀ x, w.device x = { v.device x with
    lifecycle := (w.device x).lifecycle
    lock := if x ∈ es then (v.device x).lock.lend else (v.device x).lock }

namespace Entered

theorem trans {fs : List DeviceId} (h : Entered r es u v) (h' : Entered r fs v w) (hf : ∀ x ∈ fs, x ∉ es) :
    Entered r (fs ++ es) u w where
  devices := h'.devices.trans h.devices
  requests := h'.requests.trans h.requests
  request := by rw [h'.request, h.request, List.append_assoc]
  device x := by
    rw [h'.device x, h.device x]
    by_cases hx : x ∈ fs
    · simp [hx, hf x hx]
    · simp [hx]

theorem refl (w : World) : Entered r [] w w :=
  ⟨rfl, rfl, rfl, fun _ => by simp only [List.not_mem_nil, if_false]⟩

theorem note (w : World) (n : Notice) : Entered r [] w (w.note n) :=
  ⟨rfl, rfl, rfl, fun _ => by simp only [List.not_mem_nil, if_false]; rfl⟩

theorem setLifecycle (w : World) (d : DeviceId) (m : Lifecycle) : Entered r [] w (w.setLifecycle d m) := by
  refine ⟨w.size_updateDevice d _, rfl, rfl, fun x => ?_⟩
  rw [World.setLifecycle, device_updateDevice]
  split
  next h => rw [h.1]; rfl
  next => rfl

theorem take (hd : d < w.devices.size) (hr : w.Knows r) : Entered r [d] w (w.take d r) := by
  refine ⟨?_, ?_, ?_, fun x => ?_⟩
  · rw [World.take, devices_updateRequest]; exact w.size_updateDevice d _
  · rw [World.take, requests_size_updateRequest]; rfl
  · rw [World.take, request_updateRequest, if_pos ⟨rfl, hr⟩]; rfl
  · rw [World.take, device_updateRequest, setLock, device_updateDevice]
    by_cases hx : x = d
    · subst hx
      rw [if_pos ⟨rfl, hd⟩, if_pos (List.mem_singleton.mpr rfl)]
      rfl
    · rw [if_neg fun e => hx e.1, if_neg fun e => hx (List.mem_singleton.mp e)]

theorem knows (h : Entered r es v w) {r' : RequestId} (hr : v.Knows r') : w.Knows r' := by
  rw [Knows, h.requests]; exact hr

theorem linked (h : Entered r es v w) {t : Stack} : v.Linked t → w.Linked t := by
  refine Linked.mono (Nat.le_of_eq h.devices.symm) fun d _ => ?_
  rw [h.device d]; rfl

theorem complete (h : Entered r es v w) (hq : (v.request r).locks = []) (ht : (v.request r).tickets = [])
    (hc : (v.request r).completed = false) (hr : v.Knows r) (hn : es.Nodup) (hs : ∀ d ∈ es, d < v.devices.size)
    (s : Status) (x : DeviceId) : (w.after (complete r s)).device x = { w.device x with
      lock := if x ∈ es then (w.device x).lock.giveBack else (w.device x).lock } := by
  refine device_completeAll (h.knows hr) ?_ ?_ ?_ hn (fun d hd => h.devices ▸ hs d hd) s x
  · rw [h.request]; exact hc
  · rw [h.request]; exact ht
  · rw [h.request, hq, List.append_nil]

end Entered

/-! ## Agreed or fallen back -/

/-- Between `v` and `w` the devices `ds` were asked to reach `target`, and the answer was `s`. Those that the
request has entered meanwhile are among `ms`. -/
structure Queried (r : RequestId) (target : PnpState) (ms ds : List DeviceId) (v w : World)
    (s : Status) : Prop where
  entered : ∃ es ⊆ ms, es.Nodup ∧ Entered r es v w
  others : ∀ x ∉ ds, (w.device x).lifecycle = (v.device x).lifecycle
  refusal : s ≠ .success → s.isSuccess = false
  agreed : s = .success → ∀ x ∈ ds, (w.device x).state = target
  /-- What can still be taken back falls back to the state that it was asked in. -/
  remembered : s = .success → target.isRevocable = true → ∀ x ∈ ds,
    (w.device x).lifecycle.previous = (v.device x).state
  fallen : s ≠ .success → ∀ x ∈ ds, (w.device x).state = (v.device x).state

namespace Queried

variable {ms : List DeviceId}

theorem refused (hs : s.isSuccess = false) (h : Entered r [] v w)
    (hl : ∀ x, (w.device x).lifecycle = (v.device x).lifecycle) : Queried r target ms ds v w s where
  entered := ⟨[], List.nil_subset ms, List.nodup_nil, h⟩
  others x _ := hl x
  refusal _ := hs
  agreed e := by rw [e] at hs; cases hs
  remembered e := by rw [e] at hs; cases hs
  fallen _ x _ := congrArg Lifecycle.current (hl x)

theorem rested (h : Queried r target ms ds v w s) (ht : target ≠ .startPending) (x : DeviceId)
    (hx : w.IsStarting x) :
    v.IsStarting x := by
  rw [IsStarting] at hx ⊢
  by_cases hm : x ∈ ds
  · by_cases hs : s = .success
    · rw [h.agreed hs x hm] at hx; exact absurd hx ht
    · rw [← h.fallen hs x hm]; exact hx
  · rw [Device.state, ← h.others x hm]; exact hx

/-- The device `d` goes from `v` to `v'` before the devices `ds` are asked, and from `w` to `w'` after it. -/
theorem extend {v' w' : World} (h : Queried r target ms ds v' w s) (hd : d ∉ ds)
    (hv : Entered r [] v v') (hvx : ∀ x ≠ d, (v'.device x).lifecycle = (v.device x).lifecycle)
    (hw : Entered r [] w w') (hwx : ∀ x ≠ d, (w'.device x).lifecycle = (w.device x).lifecycle)
    (ha : s = .success → (w'.device d).state = target)
    (hp : s = .success → target.isRevocable = true → (w'.device d).lifecycle.previous = (v.device d).state)
    (hf : s ≠ .success → (w'.device d).state = (v.device d).state) :
    Queried r target ms (d :: ds) v w' s where
  entered := by
    obtain ⟨es, hsub, hn, he⟩ := h.entered
    refine ⟨es, hsub, hn, ?_⟩
    have he := (hv.trans he fun _ _ => List.not_mem_nil).trans hw nofun
    rwa [List.nil_append, List.append_nil] at he
  others x hx := by
    obtain ⟨hxd, hxs⟩ := not_or.mp fun e => hx (List.mem_cons.mpr e)
    rw [hwx x hxd, h.others x hxs, hvx x hxd]
  refusal := h.refusal
  agreed hs x hx := by
    rcases List.mem_cons.mp hx with rfl | hx
    · exact ha hs
    · rw [Device.state, hwx x fun e => hd (e ▸ hx)]
      exact h.agreed hs x hx
  remembered hs ht x hx := by
    rcases List.mem_cons.mp hx with rfl | hx
    · exact hp hs ht
    · have hxd : x ≠ d := fun e => hd (e ▸ hx)
      rw [hwx x hxd, Device.state, ← hvx x hxd]
      exact h.remembered hs ht x hx
  fallen hs x hx := by
    rcases List.mem_cons.mp hx with rfl | hx
    · exact hf hs
    · have hxd : x ≠ d := fun e => hd (e ▸ hx)
      rw [Device.state, hwx x hxd, Device.state, ← hvx x hxd]
      exact h.fallen hs x hx

theorem of_note {n : Notice} (h : Queried r target ms ds (v.note n) w s) : Queried r target ms ds v w s where
  entered := by
    obtain ⟨es, hsub, hn, he⟩ := h.entered
    have he := (Entered.note v n).trans he fun _ _ => List.not_mem_nil
    rw [List.append_nil] at he
    exact ⟨es, hsub, hn, he⟩
  others := h.others
  refusal := h.refusal
  agreed := h.agreed
  remembered := h.remembered
  fallen := h.fallen

theorem then_note (h : Queried r target ms ds v w s) (n : Notice) : Queried r target ms ds v (w.note n) s where
  entered := h.entered.imp fun _ h => ⟨h.1, h.2.1, h.2.2.trans (.note w n) nofun⟩
  others := h.others
  refusal := h.refusal
  agreed := h.agreed
  remembered := h.remembered
  fallen := h.fallen

/-- The request has entered `d` before. -/
theorem after_take (h : Queried r target ms ds (v.take d r) w s) (hd : d < v.devices.size) (hr : v.Knows r)
    (hm : d ∉ ms) : Queried r target (d :: ms) ds v w s := by
  have hl (x : DeviceId) : ((v.take d r).device x).lifecycle = (v.device x).lifecycle := by
    rw [World.take, device_updateRequest, setLock, device_updateDevice]
    split
    next e => rw [e.1]
    next => rfl
  refine ⟨?_, fun x hx => (h.others x hx).trans (hl x), h.refusal, h.agreed, fun hs ht x hx => ?_,
    fun hs x hx => ?_⟩
  · obtain ⟨es, hsub, hn, he⟩ := h.entered
    have hde (x : DeviceId) (hx : x ∈ es) : x ∉ [d] := fun e => hm (List.mem_singleton.mp e ▸ hsub hx)
    refine ⟨es ++ [d], fun x hx => ?_, List.nodup_append.mpr ⟨hn, by simp, ?_⟩, (Entered.take hd hr).trans he hde⟩
    rcases List.mem_append.mp hx with hx | hx
    · exact List.mem_cons_of_mem d (hsub hx)
    · exact List.mem_cons.mpr (.inl (List.mem_singleton.mp hx))
    · exact fun x hx y hy e => hde x hx (e ▸ hy)
  · rw [h.remembered hs ht x hx, Device.state, hl x]; rfl
  · rw [h.fallen hs x hx, Device.state, hl x]; rfl

end Queried

end World

/-! ## One level -/

def confirm (d : DeviceId) (q target : PnpState) (s : Status) (w : World) : Run Status :=
  if s = .success ∧ q ≠ target then
    .done (w.after (moveDevice d target).run) (.ofResult ((moveDevice d target).run w).1)
  else .done w s

theorem confirm_same (d : DeviceId) (q : PnpState) : confirm d q q = fun s w => .done w s := by
  funext s w
  exact if_neg fun h => h.2 rfl

def askBelow (d : DeviceId) (q target : PnpState) (below : Call Status) : Call Status := fun w =>
  (forwardOrRollBack d below w).bind (confirm d q target)

theorem askBelow_same (d : DeviceId) (q : PnpState) (below : Call Status) :
    askBelow d q q below = forwardOrRollBack d below := by
  funext w
  rw [askBelow, confirm_same]
  exact Run.bind_done _

theorem functionalMinor_query (hm : m.query? = some (q, target)) (below : Call Status) :
    functionalMinor b d r below m v = moveThen d q (askBelow d q target below) v := by
  cases m with
  | startDevice =>
    cases hm
    rw [functionalMinor_startDevice]
    congr 1
    funext w
    rw [askBelow]
    congr 1
    funext s w'
    by_cases h : s = .success <;> simp [confirm, h]
  | queryStopDevice => cases hm; rw [askBelow_same]; rfl
  | queryRemoveDevice => cases hm; rw [askBelow_same]; rfl
  | _ => cases hm

theorem Minor.canBecome_of_query? (hm : m.query? = some (q, target)) (h : q ≠ target) :
    q.canBecome target = true := by
  cases m <;> cases hm <;> first | rfl | exact absurd rfl h

theorem Minor.eq_of_revocable (hm : m.query? = some (q, target)) (h : target.isRevocable = true) : q = target := by
  cases m <;> cases hm <;> first | rfl | cases h

theorem confirm_ends (hm : m.query? = some (q, target)) (hd : d < w.devices.size) (hq : (w.device d).state = q) :
    ∃ w', confirm d q target .success w = .done w' .success ∧ World.Entered r [] w w' ∧
      (∀ x ≠ d, (w'.device x).lifecycle = (w.device x).lifecycle) ∧ (w'.device d).state = target ∧
      (target.isRevocable = true → w' = w) := by
  by_cases h : q = target
  · subst h
    exact ⟨w, by rw [confirm_same], .refl w, fun _ _ => rfl, hq, fun _ => rfl⟩
  · have hc : (w.device d).state.canBecome target = true := by rw [hq]; exact Minor.canBecome_of_query? hm h
    refine ⟨w.setLifecycle d ⟨target, (w.device d).state⟩, ?_, .setLifecycle w d _, fun x hx => ?_,
      ?_, fun ht => ?_⟩
    · rw [confirm, if_pos ⟨rfl, h⟩, World.after, moveDevice_ok hc]; rfl
    · exact w.lifecycle_of_ne _ hx
    · exact World.state_setLifecycle hd _
    · exact absurd (Minor.eq_of_revocable hm ht) h

theorem fallBack {n : Notice} {t : PnpState} (hd : d < w.devices.size) (hl : (w.device d).lifecycle = ⟨q, t⟩)
    (hq : q.isRevocable = true) : ∃ w', (w.note n).after (restoreDevice d).run = w' ∧ World.Entered r [] w w' ∧
      (∀ x ≠ d, (w'.device x).lifecycle = (w.device x).lifecycle) ∧ (w'.device d).state = t := by
  have hr : ((w.note n).device d).state.isRevocable = true := by
    show (w.device d).lifecycle.current.isRevocable = true
    rw [hl]; exact hq
  refine ⟨_, congrArg Prod.snd (restoreDevice_ok hr), (World.Entered.note w n).trans (.setLifecycle _ d _) nofun,
    fun x hx => World.lifecycle_of_ne _ _ hx, ?_⟩
  refine (World.state_setLifecycle (w := w.note n) hd _).trans ?_
  show (w.device d).lifecycle.previous = t
  rw [hl]

/-- A layer moves, asks below and falls back if it has to. -/
theorem functionalMinor_queried {below : Call Status} {ms : List DeviceId} (hm : m.query? = some (q, target))
    (hs : d < v.devices.size) (hd : d ∉ ds)
    (hb : ∀ w, World.Entered r [] v w → (below w).Ends fun w' s => w.Queried r target ms ds w' s) :
    (functionalMinor b d r below m v).Ends fun w s => v.Queried r target ms (d :: ds) w s := by
  rw [functionalMinor_query hm]
  by_cases hc : (v.device d).state.canBecome q = true
  case neg =>
    rw [moveThen_error d v _ hc]
    exact .refused rfl (.note v _) fun _ => rfl
  rw [moveThen_ok d v _ hc, askBelow, forwardOrRollBack_apply, Run.bind_assoc]
  have hv : World.Entered r [] v (v.setLifecycle d ⟨q, (v.device d).state⟩) := .setLifecycle v d _
  have hvx (x : DeviceId) (hx : x ≠ d) := v.lifecycle_of_ne ⟨q, (v.device d).state⟩ hx
  refine (hb _ hv).bind fun w s hw => ?_
  -- nobody below has touched the device itself
  have hl : (w.device d).lifecycle = ⟨q, (v.device d).state⟩ := by
    rw [hw.others d hd, World.setLifecycle, World.device_updateDevice, if_pos ⟨rfl, hs⟩]
  have hsize : d < w.devices.size := by
    obtain ⟨es, -, -, he⟩ := hw.entered
    rw [he.devices, hv.devices]; exact hs
  by_cases hsucc : s = .success
  · subst hsucc
    obtain ⟨w', hw', he, hx, ht, hp⟩ := confirm_ends (r := r) hm hsize (congrArg Lifecycle.current hl)
    rw [if_pos (show Status.success.isSuccess = true from rfl)]
    show (confirm d q target .success w).Ends _
    rw [hw']
    refine hw.extend hd hv hvx he hx (fun _ => ht) (fun _ h => ?_) fun h => absurd rfl h
    rw [hp h, hl]
  · obtain ⟨w', hw', he, hx, ht⟩ := fallBack (r := r) hsize hl (Minor.isRevocable_of_query? hm)
    rw [if_neg (by rw [hw.refusal hsucc]; decide), hw']
    show (confirm d q target s w').Ends _
    rw [confirm, if_neg fun h => hsucc h.1]
    exact hw.extend hd hv hvx he hx (fun h => absurd h hsucc) (fun h => absurd h hsucc) fun _ => ht

theorem physicalMinor_queried (hm : m.query? = some (q, target)) (hs : d < v.devices.size) :
    ((physicalMinor b d r m).run v).Ends fun w a => v.Queried r target [] [d] w (.ofResult a) := by
  by_cases hc : (v.device d).state.canBecome q = true
  · have hv : World.Entered r [] v (v.setLifecycle d ⟨q, (v.device d).state⟩) := .setLifecycle v d _
    obtain ⟨w, hw, he, hx, ht, hp⟩ := confirm_ends (r := r) hm (hv.devices ▸ hs) (World.state_setLifecycle hs _)
    have hq : v.Queried r target [] [d] w .success := by
      refine ⟨⟨[], fun _ => id, List.nodup_nil, hv.trans he nofun⟩, fun x hxd => ?_, nofun, fun _ x hxd => ?_,
        fun _ h x hxd => ?_, fun h => absurd rfl h⟩
      · have hxd : x ≠ d := fun e => hxd (List.mem_singleton.mpr e)
        exact (hx x hxd).trans (v.lifecycle_of_ne _ hxd)
      · rw [List.mem_singleton.mp hxd]; exact ht
      · rw [List.mem_singleton.mp hxd, hp h, World.setLifecycle, World.device_updateDevice, if_pos ⟨rfl, hs⟩]
    cases m with
    | startDevice =>
      cases hm
      rw [physicalMinor, Call.run_bind, Call.run_lift, World.after, moveDevice_ok hc]
      rw [confirm, if_pos ⟨rfl, by decide⟩] at hw
      injection hw with hw hs
      show v.Queried r .started [] [d] (World.after _ (moveDevice d .started).run)
        (.ofResult ((moveDevice d .started).run _).1)
      rw [hw, hs]
      exact hq
    | queryStopDevice =>
      cases hm
      rw [confirm_same] at hw
      cases hw
      rw [physicalMinor, Call.run_lift, World.after, moveDevice_ok hc]
      exact hq
    | queryRemoveDevice =>
      cases hm
      rw [confirm_same] at hw
      cases hw
      rw [physicalMinor, Call.run_lift, World.after, moveDevice_ok hc]
      exact hq
    | _ => cases hm
  · have hq (n : Notice) : v.Queried r target [] [d] (v.note n) .invalidState :=
      .refused rfl (.note v n) fun _ => rfl
    cases m with
    | startDevice =>
      cases hm
      rw [physicalMinor, Call.run_bind, Call.run_lift, World.after, moveDevice_error hc]
      exact hq _
    | queryStopDevice => cases hm; rw [physicalMinor, Call.run_lift, World.after, moveDevice_error hc]; exact hq _
    | queryRemoveDevice => cases hm; rw [physicalMinor, Call.run_lift, World.after, moveDevice_error hc]; exact hq _
    | _ => cases hm

/-! ## Whole stacks -/

theorem admitted_queried {ms : List DeviceId} {k : Kind} {handler : Call Status} (hs : d < v.devices.size)
    (hr : v.Knows r)
    (hm : d ∉ ms) (hh : ∀ w, World.Entered r [d] v w → (handler w).Ends fun w' s => w.Queried r target ms ds w' s) :
    (admitted d r k handler v).Ends fun w s => v.Queried r target (d :: ms) ds w s := by
  by_cases hg : (v.device d).state = .deleted
  · rw [admitted_error (enter_gone r k hg)]
    exact .refused rfl (.note v _) fun _ => rfl
  by_cases hc : (v.device d).lock.draining = true
  · rw [admitted_error (enter_closed r k hg hc)]
    exact .refused rfl (.refl v) fun _ => rfl
  · rw [admitted_ok (enter_open r k hg hc)]
    exact (hh _ (.take hs hr)).imp fun w s hw => hw.after_take hs hr hm

/-- A query to a stack, from the device at the top down to where it is refused, and back. -/
theorem deliver_queried (hm : m.query? = some (q, target)) : ∀ {t : Stack} {v : World}, v.Linked t → v.Knows r →
    (deliver b r (.pnp m) t v).Ends fun w s => v.Queried r target t.members t.members w s
  | .physical d, v, hl, hr => admitted_queried hl.1 hr List.not_mem_nil fun w hw => by
    rw [physical_pnp]
    refine (physicalMinor_queried (b := b) (r := r) hm (hw.devices ▸ hl.1)).bind fun w' a ha => ?_
    have ha := ha.of_note
    cases a with
    | ok => exact ha
    | error e => exact ha.then_note _
  | .functional d lower, v, ⟨hs, _, hlt, hl⟩, hr => by
    have hd : d ∉ lower.members := fun hx => absurd (hl.le_top d hx) (Nat.not_le_of_lt hlt)
    refine admitted_queried hs hr hd fun w hw => ?_
    rw [functional_pnp]
    refine (functionalMinor_queried hm (hw.devices ▸ hs) hd fun u hu => ?_).imp fun w' s hw' => hw'.of_note
    have hu := (hw.trans (.note w _) nofun).trans hu nofun
    exact deliver_queried hm (hu.linked hl) (hu.knows hr)

end PnpBus
