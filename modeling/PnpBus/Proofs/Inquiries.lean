import PnpBus.Proofs.Promptness

/-!
# Asking a stack who it is

Layers hand an identity query on without a look at it, so whoever asks at any
level hears from the physical device at the bottom, or that some device on the
way is not there any more. Either way the question leaves no trace but itself.
-/

namespace PnpBus

variable {b : DriverId} {d : DeviceId} {r : RequestId} {m : Minor} {s : Status} {es fs : List DeviceId} {t : Stack}
  {u v w : World}

def Minor.isInquiry : Minor → Bool
  | queryId _ | queryRelations .target => true
  | _ => false

namespace World

/-- What the bottom of a stack answers. Hardware ids and compatible ids are a list, of nothing but the device id. -/
def reply (w : World) (t : Stack) : Minor → Information
  | .queryId .deviceId => .id (w.device t.bottom).identity.deviceId
  | .queryId .instanceId => .id (w.device t.bottom).identity.instanceId
  | .queryId .hardwareIds | .queryId .compatibleIds => .ids [(w.device t.bottom).identity.deviceId]
  | _ => .relations [t.bottom]

/-- What is found out about the bottom of a stack by asking for one id. A list is not an id. -/
def idOf (w : World) (t : Stack) : IdType → Except Status String
  | .deviceId => .ok (w.device t.bottom).identity.deviceId
  | .instanceId => .ok (w.device t.bottom).identity.instanceId
  | .hardwareIds | .compatibleIds => .error .notSupported

/-- Nothing has come of what happened between `v` and `w` but requests: no PnP or power state, no list, no registry
and no gate has changed, and references that were taken are back. -/
structure Undisturbed (v w : World) : Prop where
  drivers : w.drivers = v.drivers
  size : w.devices.size = v.devices.size
  device : ∀ x, w.device x = { v.device x with lock := (w.device x).lock }
  lock : ∀ x, (v.device x).lock.Returned (w.device x).lock
  gate : ∀ g, w.gate g = v.gate g

namespace Undisturbed

theorem of_devices (hd : w.devices = v.devices) (hb : w.drivers = v.drivers) (hg : w.bench = v.bench) :
    v.Undisturbed w := by
  have hx (x : DeviceId) : w.device x = v.device x := by rw [World.device, World.device, hd]
  refine ⟨hb, by rw [hd], fun x => by rw [hx], fun x => by rw [hx]; exact .refl _, fun g => ?_⟩
  exact gate_congr hd (by rw [hg])

theorem trans (h : u.Undisturbed v) (h' : v.Undisturbed w) : u.Undisturbed w where
  drivers := h'.drivers.trans h.drivers
  size := h'.size.trans h.size
  device x := by rw [h'.device x, h.device x]
  lock x := (h.lock x).trans (h'.lock x)
  gate g := (h'.gate g).trans (h.gate g)

theorem linked (h : v.Undisturbed w) : v.Linked t → w.Linked t := by
  refine Linked.mono (Nat.le_of_eq h.size.symm) fun d _ => ?_
  rw [h.device d]; rfl

theorem stack (h : v.Undisturbed w) (d : DeviceId) : w.stack d = v.stack d := by
  rw [World.stack, World.stack, h.device d]

theorem isLive (h : v.Undisturbed w) (x : DeviceId) : w.IsLive x ↔ v.IsLive x := by
  rw [IsLive, IsLive, (h.lock x).1, h.device x]
  rfl

end Undisturbed

/-! ## On the way -/

structure Heard (r : RequestId) (es : List DeviceId) (v w : World) : Prop extends Visited r es v w where
  posture : v.SamePosture w
  drivers : w.drivers = v.drivers

namespace Heard

theorem trans (h : Heard r es u v) (h' : Heard r fs v w) (hf : ∀ x ∈ fs, x ∉ es) : Heard r (fs ++ es) u w where
  toVisited := h.toVisited.trans h'.toVisited hf
  posture := h.posture.trans h'.posture
  drivers := h'.drivers.trans h.drivers

theorem refl (w : World) : Heard r [] w w := ⟨.refl w, fun _ => rfl, rfl⟩

theorem note (w : World) (n : Notice) : Heard r [] w (w.note n) := ⟨.note w n, fun _ => rfl, rfl⟩

theorem inform (w : World) (information : Information) : Heard r [] w (w.after (inform r information)) :=
  ⟨.inform w information, fun _ => rfl, rfl⟩

theorem take (hd : d < w.devices.size) (hr : w.Knows r) : Heard r [d] w (w.take d r) :=
  ⟨.take hd hr, SamePosture.setLock w (.device d) _, rfl⟩

theorem isLive (h : Heard r es v w) (x : DeviceId) : w.IsLive x ↔ v.IsLive x := by
  have hs : (w.device x).state = (v.device x).state := congrArg (·.lifecycle.current) (h.posture x)
  have hl : (w.device x).lock.draining = (v.device x).lock.draining := by
    rw [h.device x]
    show (if x ∈ es then (v.device x).lock.lend else (v.device x).lock).draining = _
    split <;> rfl
  rw [IsLive, IsLive, hs, hl]

theorem reply (h : Heard r es v w) (t : Stack) (m : Minor) : w.reply t m = v.reply t m := by
  have hi : (w.device t.bottom).identity = (v.device t.bottom).identity := by rw [h.device]
  cases m with
  | queryId i => cases i <;> simp only [World.reply, hi]
  | _ => rfl

end Heard

structure Inquired (r : RequestId) (t : Stack) (m : Minor) (v w : World) (s : Status) : Prop where
  heard : ∃ es ⊆ t.members, es.Nodup ∧ Heard r es v w
  told : (∀ x ∈ t.members, v.IsLive x) → s = .success ∧ (w.request r).information = v.reply t m
  refused : (∃ x ∈ t.members, ¬v.IsLive x) → s = .noSuchDevice

namespace Inquired

/-- The device at the top is not there any more. -/
theorem of_dead (hd : ¬v.IsLive t.top) (h : Heard r [] v w) : v.Inquired r t m w .noSuchDevice where
  heard := ⟨[], List.nil_subset _, List.nodup_nil, h⟩
  told hx := absurd (hx _ t.top_mem_members) hd
  refused _ := rfl

theorem of_note {n : Notice} (h : (v.note n).Inquired r t m w s) : v.Inquired r t m w s where
  heard := by
    obtain ⟨es, hsub, hn, he⟩ := h.heard
    exact ⟨es, hsub, hn, by simpa using (Heard.note v n).trans he fun _ _ => List.not_mem_nil⟩
  told := h.told
  refused := h.refused

/-- The layer at the top has been entered, and has handed the question on. -/
theorem extend {lower : Stack} (hl : v.Linked (.functional d lower)) (hr : v.Knows r) (hd : v.IsLive d)
    (h : (v.take d r).Inquired r lower m w s) : v.Inquired r (.functional d lower) m w s := by
  have htake : Heard r [d] v (v.take d r) := .take hl.1 hr
  refine ⟨?_, fun hx => ?_, ?_⟩
  · obtain ⟨es, hsub, hn, he⟩ := h.heard
    obtain ⟨hsub', hn', hd'⟩ := hl.enters hsub hn
    exact ⟨es ++ [d], hsub', hn', htake.trans he hd'⟩
  · obtain ⟨rfl, hi⟩ := h.told fun x hm => (htake.isLive x).mpr (hx x (List.mem_cons_of_mem d hm))
    exact ⟨rfl, hi.trans (htake.reply lower m)⟩
  · rintro ⟨x, hm, hx⟩
    rcases List.mem_cons.mp hm with rfl | hm
    · exact absurd hd hx
    · exact h.refused ⟨x, hm, mt (htake.isLive x).mp hx⟩

end Inquired

end World

open World (Heard Inquired Undisturbed)

theorem admitted_inquired {k : Kind} {handler : Call Status}
    (hh : v.IsLive t.top → (handler (v.take t.top r)).Ends (v.Inquired r t m)) :
    (admitted t.top r k handler v).Ends (v.Inquired r t m) := by
  by_cases hg : (v.device t.top).state = .deleted
  · rw [admitted_error (enter_gone r k hg)]
    exact .of_dead (fun h => h.1 hg) (.note v _)
  by_cases hc : (v.device t.top).lock.draining = true
  · rw [admitted_error (enter_closed r k hg hc)]
    exact .of_dead (fun h => by rw [h.2] at hc; cases hc) (.refl v)
  rw [admitted_ok (enter_open r k hg hc)]
  exact hh ⟨hg, by simpa using hc⟩

theorem physicalMinor_inquired (b : DriverId) (d : DeviceId) (hm : m.isInquiry = true) (v : World) :
    (physicalMinor b d r m).run v = .done (v.after (inform r (v.reply (.physical d) m))) (.ok ()) := by
  cases m with
  | queryId i => cases i <;> rfl
  | queryRelations i => cases i <;> first | rfl | cases hm
  | _ => cases hm

theorem functionalMinor_inquired (b : DriverId) (d : DeviceId) (below : Call Status) (hm : m.isInquiry = true) :
    functionalMinor b d r below m = below := by
  cases m with
  | queryId i => rfl
  | queryRelations i => cases i <;> first | rfl | cases hm
  | _ => cases hm

/-- The question goes down to the bottom, or to the first device that is not there any more. -/
theorem deliver_inquired (b : DriverId) (hm : m.isInquiry = true) : ∀ {t : Stack} {v : World}, v.Linked t →
    v.Knows r → (deliver b r (.pnp m) t v).Ends (v.Inquired r t m)
  | .physical d, v, hl, hr => admitted_inquired (t := .physical d) fun hd => by
    have htake : Heard r [d] v (v.take d r) := .take hl.1 hr
    rw [physical_pnp, physicalMinor_inquired b d hm]
    have hnote := htake.trans (.note _ (.physicalAsked ((v.take d r).device d).identity.deviceId m)) nofun
    refine ⟨⟨[d], List.Subset.refl _, by simp, hnote.trans (.inform _ _) nofun⟩, fun _ => ⟨rfl, ?_⟩, ?_⟩
    · rw [← hnote.reply]
      show (World.request (World.updateRequest _ r _) r).information = _
      rw [World.request_updateRequest, if_pos ⟨rfl, hnote.knows hr⟩]
      rfl
    · rintro ⟨x, hx, hn⟩
      rw [List.mem_singleton.mp hx] at hn
      exact absurd hd hn
  | .functional d lower, v, hl, hr => admitted_inquired (t := .functional d lower) fun hd => by
    have htake : Heard r [d] v (v.take d r) := .take hl.1 hr
    have hn := htake.trans (.note _ (.functionalAsked ((v.take d r).device d).identity.deviceId m)) nofun
    rw [functional_pnp, functionalMinor_inquired b d _ hm]
    exact (deliver_inquired b hm (hn.linked hl.2.2.2) (hn.knows hr)).imp fun w s hw => hw.of_note.extend hl hr hd

/-! ## Asking -/

/-- The request is complete with the answer, and has given back what it took. -/
theorem World.Inquired.complete (h : w.Inquired r t m u s) (hr : w.Knows r) (hq : w.request r = { kind := .pnp m })
    (hl : w.Linked t) (s' : Status) : w.Undisturbed (u.after (complete r s')) ∧
    (u.after (complete r s')).request r =
      { kind := .pnp m, status := s', information := (u.request r).information, completed := true,
        signaled := true } := by
  obtain ⟨es, hsub, hn, he⟩ := h.heard
  obtain ⟨hrequest, hgate, hx⟩ := he.completed hq hr hn (fun x hx => hl.size_of_mem x (hsub hx)) s'
  have hpower (x : DeviceId) : (u.device x).power = (w.device x).power := congrArg (·.power) (he.posture x)
  have hlife (x : DeviceId) : (u.device x).lifecycle = (w.device x).lifecycle :=
    congrArg (·.lifecycle) (he.posture x)
  refine ⟨⟨?_, ?_, fun x => ?_, fun x => ?_, hgate⟩, hrequest⟩
  · rw [World.drivers_complete, he.drivers]
  · exact (World.Passing.complete (b := 0) u r s').sameStanding.size.trans he.devices
  · rw [hx x, hpower, hlife]
  · rw [hx x]
    by_cases hxe : x ∈ es
    · simp only [if_pos hxe]
      exact .giveBack _
    · simp only [if_neg hxe]
      exact .refl _

theorem dispatch_inquired (hr : w.Knows r) (hq : w.request r = { kind := .pnp m }) (hm : m.isInquiry = true)
    (hl : w.Linked (w.stack d)) : (dispatch b d r w).Ends fun u s => w.Undisturbed u ∧
      ((∀ x ∈ (w.stack d).members, w.IsLive x) → s = .success ∧ u.request r =
        { kind := .pnp m, status := s, information := w.reply (w.stack d) m, completed := true,
          signaled := true }) ∧
      ((∃ x ∈ (w.stack d).members, ¬w.IsLive x) → s = .noSuchDevice) := by
  rw [dispatch_apply, hq]
  refine (deliver_inquired b hm hl hr).bind fun u s hu => ?_
  have hs : s ≠ .pending := by
    by_cases hx : ∀ x ∈ (w.stack d).members, w.IsLive x
    · rw [(hu.told hx).1]; nofun
    · rw [hu.refused (by simpa using hx)]; nofun
  have hsettle : u.after (settle r s) = u.after (complete r s) := congrArg Prod.snd (settle_of_ne r hs u)
  show _ ∧ _ ∧ _
  rw [hsettle]
  obtain ⟨hw, hrequest⟩ := hu.complete hr hq hl s
  refine ⟨hw, fun hx => ⟨(hu.told hx).1, ?_⟩, hu.refused⟩
  rw [hrequest, (hu.told hx).2]

theorem takeId_success {t : Stack} {i : IdType} (h : (w.request r).information = v.reply t (.queryId i)) :
    (takeId r .success).run w = (v.idOf t i, w.updateRequest r fun q => { q with information := .none }) := by
  have hr : (liftM (request r) : ExceptT Status Act Request).run w = (.ok (w.request r), w) := rfl
  rw [takeId, if_pos (by decide), Act.run_bind, hr]
  dsimp only
  rw [h]
  cases i <;> rfl

theorem queryId_inquired (b : DriverId) (i : IdType) (hl : w.Linked (w.stack d)) :
    ((queryId b d i).run w).Ends fun u a => w.Undisturbed u ∧
      ((∀ x ∈ (w.stack d).members, w.IsLive x) → a = w.idOf (w.stack d) i) ∧
      ((∃ x ∈ (w.stack d).members, ¬w.IsLive x) → a = .error .noSuchDevice) := by
  rw [queryId_prompt, Call.run_bind]
  show Run.Ends _ ((do takeId w.requests.size (← dispatch b d w.requests.size) :
    ExceptT Status Call String).run (w.ask (.pnp (.queryId i))))
  have hasked : w.Undisturbed (w.ask (.pnp (.queryId i))) := .of_devices rfl rfl rfl
  rw [Call.run_bind, Call.run_call, Run.bind_assoc]
  refine (dispatch_inquired (knows_ask w _) (request_ask w _) rfl (hasked.linked hl)).bind
    fun u s ⟨hu, htold, hgone⟩ => ?_
  have htaken : u.Undisturbed (u.updateRequest w.requests.size fun q => { q with information := .none }) :=
    .of_devices rfl rfl rfl
  show w.Undisturbed ((takeId w.requests.size s).run u).2 ∧ (_ → ((takeId w.requests.size s).run u).1 = _) ∧
    (_ → ((takeId w.requests.size s).run u).1 = _)
  by_cases hx : ∀ x ∈ (w.stack d).members, w.IsLive x
  · obtain ⟨rfl, hrequest⟩ := htold hx
    rw [takeId_success (by rw [hrequest])]
    refine ⟨hasked.trans (hu.trans htaken), fun _ => rfl, fun ⟨x, hm, hn⟩ => absurd (hx x hm) hn⟩
  · obtain rfl := hgone (show ∃ x ∈ (w.stack d).members, ¬w.IsLive x by simpa using hx)
    exact ⟨hasked.trans hu, fun h => absurd h hx, fun _ => rfl⟩

/-- The bottom of the stack decides, unless some device is not there any more. -/
theorem arbitrate_inquired (b : DriverId) (selection : Option Selection) (hl : w.Linked (w.stack d)) :
    ((arbitrate selection (queryId b d)).run w).Ends fun u a => w.Undisturbed u ∧
      ((∀ x ∈ (w.stack d).members, w.IsLive x) →
        a = .ok (selection.any (·.names (w.device (w.stack d).bottom).identity))) ∧
      (selection.isSome → (∃ x ∈ (w.stack d).members, ¬w.IsLive x) → a = .error .noSuchDevice) := by
  cases selection with
  | none => exact ⟨.of_devices rfl rfl rfl, fun _ => rfl, fun h => by cases h⟩
  | some s =>
    rw [arbitrate, Call.run_bind]
    refine (queryId_inquired b .deviceId hl).bind fun u a ha => ?_
    obtain ⟨hu, htold, hgone⟩ := ha
    by_cases hx : ∀ x ∈ (w.stack d).members, w.IsLive x
    case neg =>
      cases hgone (by simpa using hx)
      exact ⟨hu, fun h => absurd h hx, fun _ _ => rfl⟩
    cases htold hx
    -- the first question has changed nothing that the second one asks for
    have hstack := hu.stack d
    have hxu : ∀ x ∈ (u.stack d).members, u.IsLive x := fun x hm => (hu.isLive x).mpr (hx x (hstack ▸ hm))
    show Run.Ends _ ((queryId b d .instanceId >>= _ : ExceptT Status Call Bool).run u)
    rw [Call.run_bind]
    refine (queryId_inquired b .instanceId (hstack ▸ hu.linked hl)).bind fun u' a ha' => ?_
    obtain ⟨hu', htold', -⟩ := ha'
    cases htold' hxu
    refine ⟨hu.trans hu', fun _ => ?_, fun _ hgone' => ?_⟩
    case refine_2 =>
      obtain ⟨x, hm, hn⟩ := hgone'
      exact absurd (hx x hm) hn
    rw [hstack, hu.device]
    rfl

/-- Whoever asks a stack who it is, at whichever level, is answered by the physical device at its bottom if all
devices from that level down are there and open, and is told that there is no such device otherwise. In either case
the question leaves no trace. So the configuration decides about a stack as it does about the device at the bottom,
and nobody is asked if nothing is configured. -/
theorem inquiries_see_through (b : DriverId) (d : DeviceId) (w : World) (hl : w.Linked (w.stack d)) :
    (∀ r m, w.Knows r → w.request r = { kind := .pnp m } → m.isInquiry = true →
      (dispatch b d r w).Ends fun u s => w.Undisturbed u ∧
        ((∀ x ∈ (w.stack d).members, w.IsLive x) → s = .success ∧ u.request r =
          { kind := .pnp m, status := s, information := w.reply (w.stack d) m, completed := true,
            signaled := true }) ∧
        ((∃ x ∈ (w.stack d).members, ¬w.IsLive x) → s = .noSuchDevice)) ∧
    (∀ i, ((queryId b d i).run w).Ends fun u a => w.Undisturbed u ∧
      ((∀ x ∈ (w.stack d).members, w.IsLive x) → a = w.idOf (w.stack d) i) ∧
      ((∃ x ∈ (w.stack d).members, ¬w.IsLive x) → a = .error .noSuchDevice)) ∧
    (∀ selection, ((arbitrate selection (queryId b d)).run w).Ends fun u a => w.Undisturbed u ∧
      ((∀ x ∈ (w.stack d).members, w.IsLive x) →
        a = .ok (selection.any (·.names (w.device (w.stack d).bottom).identity))) ∧
      (selection.isSome → (∃ x ∈ (w.stack d).members, ¬w.IsLive x) → a = .error .noSuchDevice)) ∧
    (arbitrate none (queryId b d)).run w = .done w (.ok false) :=
  ⟨fun _ _ hr hq hm => dispatch_inquired hr hq hm hl, fun i => queryId_inquired b i hl,
    fun selection => arbitrate_inquired b selection hl, rfl⟩

def World.quizzed (i : IdType) : World := World.tapped.ask (.pnp (.queryId i))

/-- The questions go through both layers. -/
theorem inquiries_see_through_of_quizzed :
    ((dispatch 0 2 1 (World.quizzed .deviceId)).Ends fun u s =>
      s = .success ∧ (u.request 1).information = .id "A" ∧ (World.quizzed .deviceId).Undisturbed u) ∧
    (dispatch 0 2 1 (World.quizzed .hardwareIds)).Ends fun u s =>
      s = .success ∧ (u.request 1).information = .ids ["A"] ∧ (World.quizzed .hardwareIds).Undisturbed u := by
  have asked (i : IdType) : (dispatch 0 2 1 (World.quizzed i)).Ends fun u s => s = .success ∧
      (u.request 1).information = (World.quizzed i).reply ((World.quizzed i).stack 2) (.queryId i) ∧
      (World.quizzed i).Undisturbed u := by
    have hl : (World.quizzed i).Linked ((World.quizzed i).stack 2) := World.tapped_linked
    have hlive : ∀ x ∈ ((World.quizzed i).stack 2).members, (World.quizzed i).IsLive x := by
      show ∀ x ∈ (World.tapped.stack 2).members, World.tapped.IsLive x
      decide +kernel
    have hanswered := (inquiries_see_through 0 2 (World.quizzed i) hl).1 1 _ (knows_ask World.tapped _)
      (request_ask World.tapped _) rfl
    refine hanswered.imp fun u s ⟨hu, htold, _⟩ => ?_
    obtain ⟨hs, hrequest⟩ := htold hlive
    exact ⟨hs, by rw [hrequest], hu⟩
  have hdevice :
      (World.quizzed .deviceId).reply ((World.quizzed .deviceId).stack 2) (.queryId .deviceId) = .id "A" := by
    decide +kernel
  have hhardware : (World.quizzed .hardwareIds).reply ((World.quizzed .hardwareIds).stack 2)
      (.queryId .hardwareIds) =
      .ids ["A"] := by decide +kernel
  exact ⟨hdevice ▸ asked .deviceId, hhardware ▸ asked .hardwareIds⟩

/-- With one reference more than the lock of the device can count, the count comes round to zero, and it stays
there. -/
theorem inquiry_loses_references : Reaches (.free 0) ⟨.crowded (2 ^ 32 - 2), []⟩ ∧
    (World.crowded (2 ^ 32 - 2)).tokensOn 0 = 2 ^ 32 - 2 ∧
    ((World.crowded (2 ^ 32 - 2)).device 0).lock.outstanding.toNat = 2 ^ 32 - 2 ∧
    ((queryId 0 0 .deviceId).run (World.crowded (2 ^ 32 - 2))).Ends fun w a =>
      a = .ok "A" ∧ (w.device 0).lock.outstanding = 0 :=
  ⟨World.reaches_crowded _, World.tokensOn_crowded _, by decide +kernel, by decide +kernel⟩

end PnpBus
