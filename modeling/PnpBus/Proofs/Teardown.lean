import Mathlib.Data.List.Sort
import PnpBus.Proofs.Families
import PnpBus.Proofs.Overflows
import PnpBus.Proofs.Transparency

/-!
# Taking down a quiet stack

A removal that nobody holds up ends at once. It deletes the devices of the
stack and the children that its layers have listed, and touches nothing else.
This is so wherever a run has led to, also if clients have put devices on top
of others that the driver would not have put there.
-/

namespace PnpBus

variable {R : Regime} {b : DriverId} {r : RequestId} {c d x : DeviceId} {ds : List DeviceId}
  {p : Posture} {t : Stack} {u v w : World}

/-! ## Children that nobody uses -/

structure World.Unused (b : DriverId) (r : RequestId) (w : World) (d : DeviceId) : Prop where
  stands : ∃ p, w.Stands b r p 0 d
  counted : (w.device d).lock.count = 0 → (w.device d).lock.latch = true

theorem World.Spares.unused (h : Spares b r ds v w) (hd : d ∉ ds) (hu : v.Unused b r d) : w.Unused b r d where
  stands := hu.stands.imp fun _ hs => h.stands hd hs
  counted := by rw [h.lock d hd]; exact hu.counted

namespace World.Unused

theorem abandonQuery (h : v.Unused b r d) :
    ∃ w, (abandonQuery d).run v = (.ok (), w) ∧ Spares b r [d] v w ∧ w.Unused b r d := by
  obtain ⟨p, hst⟩ := h.stands
  by_cases hq : v.IsQueried d
  · have hr : (v.device d).state.isRevocable = true := by rcases hq with e | e <;> rw [e] <;> rfl
    have hp : p.lifecycle.current ≠ .deleted := by
      rw [← hst.state]
      rcases hq with e | e <;> rw [e] <;> nofun
    generalize hn : v.note (.queryAbandoned (v.device d).identity.deviceId (v.device d).state) = v₁
    have hv : v₁.device d = v.device d := hn ▸ rfl
    have hs₁ (ds : List DeviceId) : Spares b r ds v v₁ := hn ▸ .note v _
    have ⟨hs, hst'⟩ := ((hs₁ []).stands List.not_mem_nil hst).setLifecycle hp
      ⟨(v.device d).lifecycle.previous, (v.device d).lifecycle.previous⟩
    rw [abandonQuery_queried hq, hn, restoreDevice_ok (by rw [hv]; exact hr), hv]
    refine ⟨_, rfl, (hs₁ [d]).trans hs, ⟨_, hst'⟩, ?_⟩
    rw [World.setLifecycle, device_updateDevice, if_pos ⟨rfl, hn ▸ hst.size⟩, hv]
    exact h.counted
  · rw [abandonQuery_idle (fun e => hq (.inl e)) fun e => hq (.inr e)]
    exact ⟨v, rfl, .refl v, h⟩

theorem tearDown (h : v.Unused b r d) : ((tearDown b d).run v).Ends fun w _ => Spares b r [d] v w := by
  obtain ⟨v₁, hv₁, hs₁, h₁⟩ := h.abandonQuery
  obtain ⟨p, hst⟩ := h₁.stands
  rw [PnpBus.tearDown, Call.run_bind, Call.run_lift, World.after, hv₁]
  show ((do enterRemoval d; drainAndDelete b d : ExceptT Status Call Unit).run v₁).Ends _
  rw [Call.run_bind, Call.run_lift, World.after]
  cases hl : p.lifecycle.leave? with
  | none =>
    obtain ⟨w, hw, hs⟩ := hst.enterRemoval_error hl
    rw [hw]
    exact hs₁.trans hs.of_nil
  | some m =>
    obtain ⟨v₂, hv₂, hs₂, hst₂, hlock, hm⟩ := hst.enterRemoval_ok hl
    obtain ⟨w, hw, hs, -⟩ := hst₂.drainAndDelete (by rw [hlock]; exact h₁.counted) hm
    rw [hv₂]
    show ((drainAndDelete b d).run v₂).Ends _
    rw [hw]
    exact (hs₁.trans hs₂).trans hs

end World.Unused

theorem World.Drained.drain (h : v.Drained b p d) : drain (.device d) v = .done v () := by
  have hd := h.drained
  rw [RemoveLock.isDrained, Bool.and_eq_true] at hd
  have hc : v.after (closeLock (.device d)) = v := by rw [after_closeLock, lock_device, if_pos hd.1]
  show (let w := v.after (closeLock (.device d))
    if w.isSet (.drained (.device d)) then Run.done w () else .wait w (.drained (.device d)) fun w =>
      .done w ()) = _
  rw [hc]
  exact if_pos hd.2

/-- A device that is drained already is deleted at once. -/
theorem World.Drained.tearDown (h : v.Drained b p d) (hl : p.lifecycle.current.isLeaving = true) :
    ((tearDown b d).run v).Ends fun w _ => Spares b r [d] v w := by
  have hx : v.IsLeaving d := by
    unfold IsLeaving Device.state
    rw [h.lifecycle]
    exact hl
  have hq {t : PnpState} (ht : t.isLeaving = false) : (v.device d).state ≠ t := by
    intro e
    unfold IsLeaving at hx
    rw [e, ht] at hx
    cases hx
  obtain ⟨w, hw, hs, -⟩ := h.finishRemoval (r := r) hl
  rw [PnpBus.tearDown, Call.run_bind, Call.run_lift, World.after, abandonQuery_idle (hq rfl) (hq rfl)]
  show ((do enterRemoval d; drainAndDelete b d : ExceptT Status Call Unit).run v).Ends _
  rw [Call.run_bind, Call.run_lift, World.after, enterRemoval_leaving hx]
  show ((drainAndDelete b d).run v).Ends _
  rw [PnpBus.drainAndDelete, Call.run_bind, Call.run_call, h.drain]
  show Spares b r [d] v ((PnpBus.finishRemoval b d).run v).2
  rw [hw]
  exact hs

def World.Disposable (b : DriverId) (r : RequestId) (w : World) (d : DeviceId) : Prop :=
  w.Unused b r d ∨ ∃ p : Posture, w.Drained b p d ∧ p.lifecycle.current.isLeaving = true

theorem World.Spares.disposable (h : Spares b r ds v w) (hd : d ∉ ds) : v.Disposable b r d → w.Disposable b r d
  | .inl hu => .inl (h.unused hd hu)
  | .inr ⟨p, hp, hl⟩ => .inr ⟨p, h.drained hd hp, hl⟩

theorem World.Disposable.tearDownChild (h : v.Disposable b r d) :
    (tearDownChild b d v).Ends fun w _ => Spares b r [d] v w := by
  have hletGo (w : World) : Spares b r [d] w (w.after (letGo d)) :=
    .agrees ⟨rfl, rfl, rfl, rfl, rfl, rfl, Nat.le_refl _, rfl, id⟩
  have ht : ((tearDown b d).run v).Ends fun w _ => Spares b r [d] v w := by
    rcases h with h | ⟨p, h, hl⟩
    · exact h.tearDown
    · exact h.tearDown hl
  refine ht.bind fun w a hs => ?_
  cases a with
  | ok => exact hs.trans (hletGo w)
  | error e => exact (hs.trans (.note w (.childNotTornDown (w.device d).identity.deviceId e))).trans (hletGo _)

theorem tearDownAll_ends : ∀ {cs : List DeviceId} {v : World}, cs.Nodup → (∀ c ∈ cs, v.Disposable b r c) →
    ((cs.forM (tearDownChild b) : Call Unit) v).Ends fun w _ => World.Spares b r cs v w
  | [], v, _, _ => .refl v
  | c :: cs, v, hn, hu => by
    obtain ⟨hc, hn⟩ := List.nodup_cons.mp hn
    refine (hu c List.mem_cons_self).tearDownChild.bind fun w _ hs => ?_
    refine (tearDownAll_ends hn fun x hx => ?_).imp fun w' _ hs' => ?_
    · refine hs.disposable (fun e => ?_) (hu x (List.mem_cons_of_mem c hx))
      exact hc (List.mem_singleton.mp e ▸ hx)
    · exact (hs.of_mem List.mem_cons_self).trans (hs'.mono fun x => List.mem_cons_of_mem c)

/-! ## Stacks that nobody uses -/

/-- What a removal of the stack takes with it: the devices of the stack, and the children that its layers have
listed. -/
def World.family (w : World) (t : Stack) : List DeviceId :=
  t.members ++ t.layers.flatMap fun y => (w.device y).children

theorem World.mem_family : x ∈ w.family t ↔ x ∈ t.members ∨ ∃ y ∈ t.layers, x ∈ (w.device y).children := by
  rw [family, List.mem_append, List.mem_flatMap]

theorem World.mem_family_self (w : World) (d : DeviceId) : d ∈ w.family (w.stack d) := by
  have hd := Stack.top_mem_members (w.stack d)
  rw [w.top_stack] at hd
  exact mem_family.mpr (.inl hd)

theorem World.mem_family_functional {lower : Stack} :
    x ∈ w.family (.functional d lower) ↔ x = d ∨ x ∈ (w.device d).children ∨ x ∈ w.family lower := by
  rw [mem_family, mem_family]
  constructor
  · rintro (hx | ⟨y, hy, hx⟩)
    · exact (List.mem_cons.mp hx).imp_right fun hx => .inr (.inl hx)
    · rcases List.mem_cons.mp hy with rfl | hy
      · exact .inr (.inl hx)
      · exact .inr (.inr (.inr ⟨y, hy, hx⟩))
  · rintro (rfl | hx | hx | ⟨y, hy, hx⟩)
    · exact .inl List.mem_cons_self
    · exact .inr ⟨d, List.mem_cons_self, hx⟩
    · exact .inl (List.mem_cons_of_mem d hx)
    · exact .inr ⟨y, List.mem_cons_of_mem d hy, hx⟩

namespace World

structure Arranged (t : Stack) (v : World) : Prop where
  linked : v.Linked t
  children : ∀ y ∈ t.layers, ∀ c ∈ (v.device y).children, (v.device c).parent? = some y ∧ y < c
  nodup : ∀ y ∈ t.layers, (v.device y).children.Nodup

structure Clear (b : DriverId) (r : RequestId) (t : Stack) (v : World) : Prop extends Arranged t v where
  members : ∀ x ∈ t.members, ∃ p m, v.Stands b r p 0 x ∧ p.lifecycle.leave? = some m
  unused : ∀ y ∈ t.layers, ∀ c ∈ (v.device y).children, v.Unused b r c

structure Cleared (t : Stack) (w : World) : Prop where
  members : ∀ x ∈ t.members, w.IsGone x
  childless : ∀ y ∈ t.layers, (w.device y).children = []

theorem Spares.arranged (h : Spares b r ds v u) (hc : v.Arranged t) : u.Arranged t where
  linked := h.later.linked hc.linked
  children y hy c hm := by
    obtain ⟨hp, hlt⟩ := hc.children y hy c ((h.children y).subset hm)
    have hs : c < v.devices.size := by
      refine Nat.lt_of_not_le fun hs => ?_
      rw [device_of_size_le hs] at hp
      cases hp
    exact ⟨(h.later.device c hs).parent.trans hp, hlt⟩
  nodup y hy := (hc.nodup y hy).sublist (h.children y)

theorem Spares.clear (h : Spares b r ds v u) (hd : ∀ x ∈ v.family t, x ∉ ds) (hc : v.Clear b r t) :
    u.Clear b r t where
  toArranged := h.arranged hc.toArranged
  members x hx := by
    obtain ⟨p, m, hst, hm⟩ := hc.members x hx
    exact ⟨p, m, h.stands (hd x (mem_family.mpr (.inl hx))) hst, hm⟩
  unused y hy c hm := by
    have hm := (h.children y).subset hm
    exact h.unused (hd c (mem_family.mpr (.inr ⟨y, hy, hm⟩))) (hc.unused y hy c hm)

theorem Spares.family (h : Spares b r ds v u) (hx : x ∈ u.family t) : x ∈ v.family t := by
  refine mem_family.mpr ((mem_family.mp hx).imp_right fun ⟨y, hy, hx⟩ => ⟨y, hy, (h.children y).subset hx⟩)

namespace Arranged

variable {lower : Stack}

theorem rest (h : v.Arranged (.functional d lower)) : v.Arranged lower where
  linked := h.linked.2.2.2
  children y hy := h.children y (List.mem_cons_of_mem d hy)
  nodup y hy := h.nodup y (List.mem_cons_of_mem d hy)

theorem lt (h : v.Arranged (.functional d lower)) (hx : x ∈ lower.members) : x < d :=
  Nat.lt_of_le_of_lt (h.linked.2.2.2.le_top x hx) h.linked.2.2.1

/-- A functional device is nobody's child. -/
theorem not_mem_family (h : v.Arranged (.functional d lower)) : d ∉ v.family lower := by
  intro hm
  rcases mem_family.mp hm with hm | ⟨y, hy, hm⟩
  · exact Nat.lt_irrefl d (h.lt hm)
  · have hp := Device.role_of_parent? (h.rest.children y hy d hm).1
    rw [h.linked.2.1] at hp
    cases hp

theorem child_not_mem (h : v.Arranged (.functional d lower)) (hc : c ∈ (v.device d).children) :
    c ≠ d ∧ c ∉ v.family lower := by
  obtain ⟨hp, hlt⟩ := h.children d List.mem_cons_self c hc
  refine ⟨Nat.ne_of_gt hlt, fun hm => ?_⟩
  rcases mem_family.mp hm with hm | ⟨y, hy, hm⟩
  · exact Nat.lt_irrefl d (Nat.lt_trans hlt (h.lt hm))
  · -- it has one parent only
    have hy' := (h.rest.children y hy c hm).1
    rw [hp] at hy'
    have hlt := h.lt (Stack.mem_members_of_layers hy)
    rw [Option.some.inj hy'] at hlt
    exact Nat.lt_irrefl y hlt

end Arranged

theorem Clear.below {lower : Stack} (h : v.Clear b r (.functional d lower)) : v.Clear b r lower where
  toArranged := h.toArranged.rest
  members x hx := h.members x (List.mem_cons_of_mem d hx)
  unused y hy := h.unused y (List.mem_cons_of_mem d hy)

end World

section
variable {lower : Stack} {below : Call Status} {m : Lifecycle}

/-- A functional device that can leave is deleted, and its children with it, if the rest of the stack spares
them. -/
theorem World.Arranged.removeFunctional {q : World → World → Status → Prop} (ha : v.Arranged (.functional d lower))
    (hc : ∀ c ∈ (v.device d).children, v.Disposable b r c) (hs : Spares b r [d] v w) (hst : w.Stands b r p 1 d)
    (hr : w.Knows r) (hm : p.lifecycle.leave? = some m)
    (hb : ∀ u es, Spares b r es v u → (∀ x ∈ v.family lower, x ∉ es) → u.Knows r →
      (below u).Ends fun u' s => Spares b r (v.family lower) u u' ∧ q u u' s) :
    (removeFunctional b d r below w).Ends fun w' s =>
      s = .success ∧ Spares b r (v.family (.functional d lower)) v w' ∧ w'.IsGone d ∧ (w'.device d).children = [] ∧
      ∃ u u' s, q u u' s ∧ Spares b r [d] u' w' := by
  have hsub := hs.children d
  have hd := ha.not_mem_family
  have hdc : d ∉ (w.device d).children := fun hm => (ha.child_not_mem (hsub.subset hm)).1 rfl
  have hmine {u u' : World} (hu : Spares b r [d] u u') : Spares b r (d :: (w.device d).children) u u' :=
    hu.of_mem List.mem_cons_self
  refine (removeFunctional_clears (q := fun u u' s => Spares b r (v.family lower) u u' ∧ q u u' s) hst hr hm hdc hd
    (fun u cs hcs hu => ?_) fun u hu => ?_).imp ?_
  · -- the children are others than the device, and nobody uses them
    have hv {c : DeviceId} (hm : c ∈ cs) : c ∈ (v.device d).children := hsub.subset (hcs.subset hm)
    refine (tearDownAll_ends ((ha.nodup d List.mem_cons_self).sublist (hcs.trans hsub)) fun c hm => ?_).imp
      fun u' _ hs => hs.mono fun x hx => hcs.subset hx
    refine (hs.trans hu).disposable (fun e => ?_) (hc c (hv hm))
    exact (ha.child_not_mem (hv hm)).1 (List.mem_singleton.mp e)
  · have hr := hu.later.knows hr
    refine (hb u _ ((hmine hs).trans hu) (fun x hx hm => ?_) hr).imp fun u' s h => ⟨h.1, h⟩
    rcases List.mem_cons.mp hm with rfl | hm
    · exact hd hx
    · exact (ha.child_not_mem (hsub.subset hm)).2 hx
  · rintro w' s ⟨rfl, hg, hnil, u, u', s, hs₁, ⟨hs₂, hq⟩, hs₃⟩
    have hall {u u' : World} (hu : Spares b r (d :: (w.device d).children) u u') :
        Spares b r (v.family (.functional d lower)) u u' := by
      refine hu.mono fun x hx => mem_family_functional.mpr ?_
      exact (List.mem_cons.mp hx).imp_right fun hx => .inl (hsub.subset hx)
    have hlow : Spares b r (v.family (.functional d lower)) u u' :=
      hs₂.mono fun x hx => mem_family_functional.mpr (.inr (.inr hx))
    have hgone : w'.IsGone d := congrArg (fun p : Posture => p.lifecycle.current) hg
    exact ⟨rfl, (((hall (hmine hs)).trans (hall hs₁)).trans hlow).trans (hall (hmine hs₃)), hgone, hnil, u,
      u', s, hq, hs₃⟩

theorem World.Clear.removeFunctional (hc : v.Clear b r (.functional d lower)) (hs : Spares b r [d] v w)
    (hst : w.Stands b r p 1 d) (hr : w.Knows r) (hm : p.lifecycle.leave? = some m)
    (hb : ∀ u, u.Clear b r lower → u.Knows r → (below u).Ends fun u' s =>
      s = .success ∧ Spares b r (u.family lower) u u' ∧ u'.Cleared lower) :
    (removeFunctional b d r below w).Ends fun w' s =>
      s = .success ∧ Spares b r (v.family (.functional d lower)) v w' ∧ w'.Cleared (.functional d lower) := by
  refine (hc.toArranged.removeFunctional (q := fun _ u' _ => u'.Cleared lower)
    (fun c hm => .inl (hc.unused d List.mem_cons_self c hm)) hs hst hr hm fun u es hu hlow hr => ?_).imp ?_
  · refine (hb u (hu.clear hlow hc.below) hr).imp fun u' s h => ?_
    exact ⟨h.2.1.mono fun x hx => hu.family hx, h.2.2⟩
  · rintro w' s ⟨rfl, hsp, hg, hnil, u, u', s, hcl, hs₃⟩
    refine ⟨rfl, hsp, fun x hx => ?_, fun y hy => ?_⟩
    · rcases List.mem_cons.mp hx with rfl | hx
      · exact hg
      · exact hs₃.later.gone (hcl.members x hx)
    · rcases List.mem_cons.mp hy with rfl | hy
      · exact hnil
      · exact hs₃.childless (hcl.childless y hy)

end

/-- A removal takes down a stack that nothing holds up, and does not wait. -/
theorem deliver_clears : ∀ {t : Stack} {v : World}, v.Clear b r t → v.Knows r →
    (deliver b r (.pnp .removeDevice) t v).Ends fun w s =>
      s = .success ∧ World.Spares b r (v.family t) v w ∧ w.Cleared t
  | .physical d, v, hc, hr => by
    obtain ⟨p, m, hst, hm⟩ := hc.members d List.mem_cons_self
    have hp := Lifecycle.ne_deleted_of_leave? hm
    have he : (Kind.pnp .removeDevice).answer p = (.success, ⟨⟨.deleted, m.current.beforeDeletion⟩, p.power⟩) := by
      rw [Kind.answer, Minor.answer, hm]
    obtain ⟨w, hw, hs, hst⟩ := hst.admitted hp hr (.pnp .removeDevice) (physical b d r (.pnp .removeDevice))
    rw [deliver, hw]
    refine (physical_ends hst hp (hs.later.knows hr) (.pnp .removeDevice)).imp fun w' s h => ?_
    refine ⟨h.status.trans (by rw [he]), (hs.trans h.spares).mono fun x => List.mem_append_left _, fun x hx => ?_,
      fun _ hy => absurd hy List.not_mem_nil⟩
    have hg := (h.rests x hx).posture
    rw [he] at hg
    exact congrArg (·.lifecycle.current) hg
  | .functional d lower, v, hc, hr => by
    obtain ⟨p, m, hst, hm⟩ := hc.members d List.mem_cons_self
    obtain ⟨w, hw, hs, hst⟩ := hst.admitted (Lifecycle.ne_deleted_of_leave? hm) hr (.pnp .removeDevice)
      (functional b d r (deliver b r (.pnp .removeDevice) lower) (.pnp .removeDevice))
    rw [deliver, hw]
    have hn (ds : List DeviceId) : World.Spares b r ds w
      (w.note (.functionalAsked (w.device d).identity.deviceId .removeDevice)) := .note w _
    show (functional b d r _ _ w).Ends _
    rw [functional_pnp]
    exact hc.removeFunctional (hs.trans (hn [d])) ((hn []).stands List.not_mem_nil hst) (hs.later.knows hr) hm
      fun _ => deliver_clears

/-- A new request takes the stack down, and changes no device outside the family of the stack. -/
theorem dispatch_clears (hc : v.Clear b r (v.stack d)) (hr : v.Knows r)
    (hq : v.request r = { kind := .pnp .removeDevice }) :
    (dispatch b d r v).Ends fun w s =>
      s = .success ∧ w.Cleared (v.stack d) ∧ w.devices.size = v.devices.size ∧
      ∀ x ∉ v.family (v.stack d), (w.device x).posture = (v.device x).posture ∧
        (w.device x).lock = (v.device x).lock := by
  rw [dispatch_apply, hq]
  refine (deliver_clears hc hr).bind fun w s ⟨he, hs, hcl⟩ => ?_
  subst he
  have hp := World.Passing.complete (b := b) w r .success
  show _ ∧ _
  rw [World.after, settle_of_ne r (by decide)]
  refine ⟨rfl, ⟨fun x hx => hp.later.gone (hcl.members x hx), fun y hy => ?_⟩,
    hp.sameStanding.size.trans hs.devices, fun x hx => ?_⟩
  · rw [(hp.sameStanding.device y).children]; exact hcl.childless y hy
  · -- the request has nothing left of a device outside the family
    have hm : x ∉ (w.request r).locks := by
      rw [← List.count_eq_zero, hs.held x hx, hq]; rfl
    rw [World.device_complete_of_not_mem hm (by rw [hs.completed, hq]) (by rw [hs.tickets, hq]) (hs.later.knows hr)]
    exact ⟨hs.posture x hx, hs.lock x hx⟩

/-! ## What the registry and the lists of children tell -/

namespace World

theorem Sane.lookup_eq_some (h : w.Sane R) {key : DeviceKey} :
    w.lookup R.driver key = some x ↔ x < w.devices.size ∧ (w.device x).key = key ∧ ¬w.IsGone x := by
  constructor
  · intro he
    obtain ⟨hx, rfl⟩ := h.entries key x he
    exact ⟨hx, rfl, (h.registered x hx).mp he⟩
  · rintro ⟨hx, rfl, hg⟩
    exact (h.registered x hx).mpr hg

theorem Sane.arranged (h : w.Sane R) (hd : d < w.devices.size) : w.Arranged (w.stack d) where
  linked := h.linked d hd
  children y _ x hx := ⟨(h.children y x hx).1, h.parents x y (h.children y x hx).1⟩
  nodup y _ := (h.sorted y).imp Nat.ne_of_lt

theorem Sane.mem_children (h : w.Sane R) (hn : ∀ x, ¬w.IsDue x) : x ∈ (w.device d).children ↔ w.IsChild d x :=
  ⟨h.children d x, fun hx => Classical.byContradiction fun hl => hn x (.inr ⟨d, hx, hl⟩)⟩

/-- If nothing is left half removed, the children that the layers had listed are gone with them. -/
theorem Cleared.family_gone (h : w.Cleared t) (hv : v.Sane R) (hw : w.Sane R) (hl : v.Later w)
    (hn : ∀ x, ¬w.IsDue x) : ∀ x ∈ v.family t, w.IsGone x := by
  intro x hx
  rcases mem_family.mp hx with hx | ⟨y, hy, hx⟩
  · exact h.members x hx
  · -- if it were still there, its parent would list it
    refine Classical.byContradiction fun hg => ?_
    have hc := hv.children y x hx
    have hc' : w.IsChild y x := ⟨(hl.device x hc.size).parent.trans hc.1, hg⟩
    rw [← hw.mem_children hn, h.childless y hy] at hc'
    cases hc'

section
variable (hv : v.Sane R) (hw : w.Sane R) (hl : v.Later w) (hn : w.devices.size = v.devices.size)
  (hg : ∀ x < v.devices.size, w.IsGone x ↔ v.IsGone x ∨ x ∈ ds)
include hv hw hl hn hg

theorem lookup_eq_filter (key : DeviceKey) :
    w.lookup R.driver key = (v.lookup R.driver key).filter (· ∉ ds) := by
  refine Option.ext fun x => ?_
  rw [Option.filter_eq_some_iff, decide_eq_true_eq, hv.lookup_eq_some, hw.lookup_eq_some, hn]
  constructor
  · rintro ⟨hx, hk, hgone⟩
    rw [hg x hx, not_or] at hgone
    exact ⟨⟨hx, (hl.device x hx).key ▸ hk, hgone.1⟩, hgone.2⟩
  · rintro ⟨⟨hx, hk, hgone⟩, hm⟩
    refine ⟨hx, (hl.device x hx).key.trans hk, ?_⟩
    rw [hg x hx, not_or]
    exact ⟨hgone, hm⟩

theorem children_eq_filter (hdue : ∀ x, ¬v.IsDue x) (hdue' : ∀ x, ¬w.IsDue x) (d : DeviceId) :
    (w.device d).children = (v.device d).children.filter (· ∉ ds) := by
  refine List.Pairwise.eq_of_mem_iff (hw.sorted d) ((hv.sorted d).filter _) fun x => ?_
  rw [List.mem_filter, decide_eq_true_eq, hv.mem_children hdue, hw.mem_children hdue']
  constructor
  · intro hx
    have hs : x < v.devices.size := hn ▸ hx.size
    have hgone := hx.2
    rw [hg x hs, not_or] at hgone
    exact ⟨⟨(hl.device x hs).parent.symm.trans hx.1, hgone.1⟩, hgone.2⟩
  · rintro ⟨hx, hm⟩
    refine ⟨(hl.device x hx.size).parent.trans hx.1, ?_⟩
    rw [hg x hx.size, not_or]
    exact ⟨hx.2, hm⟩

end

end World

/-! ## Wherever a run has led to -/

/-- A turn, or a client registers a functional device over one that is there. -/
inductive Growth (R : Regime) : Config → Config → Prop
  | turn {c c' : Config} (h : Turn R c c') : Growth R c c'
  | register {w : World} {fs : List Suspended} (identity : Identity) (d : DeviceId) (active : Bool)
      (hd : d < w.devices.size) :
      Growth R ⟨w, fs⟩ ⟨w.after (registerOver R.driver identity d active).run, fs⟩

/-- A run leads to `c` in which clients also build stacks of their own. -/
def Grows (R : Regime) (c : Config) : Prop :=
  ∃ w : World, w.IsFresh R.driver ∧ Relation.ReflTransGen (Growth R) ⟨w, []⟩ c

theorem Growth.sound {c c' : Config} (h : Growth R c c') (hs : c.Sound R) : c'.Sound R := by
  cases h with
  | turn h => exact h.sound hs
  | register identity d active hd => exact hs.smooth (registerOver_smooth hs.sane hd identity active)

theorem Grows.sound {c : Config} (h : Grows R c) : c.Sound R := by
  obtain ⟨w, hw, h⟩ := h
  induction h with
  | refl => exact hw.sound
  | tail _ hg ih => exact hg.sound ih

theorem Reaches.grows {c : Config} (h : Reaches R c) : Grows R c := by
  obtain ⟨w, hw, h⟩ := h
  exact ⟨w, hw, h.lift id fun _ _ => .turn⟩

namespace Config.Sound

variable {c : Config} (h : c.Sound R) (hb : R.bounded) (hq : ∀ f ∈ c.suspended, ¬f.IsRemoval)
include h

theorem not_due (hq : ∀ f ∈ c.suspended, ¬f.IsRemoval) (x : DeviceId) : ¬c.world.IsDue x := fun hx => by
  obtain ⟨f, hf, hr, -⟩ := h.due x hx
  exact hq f hf hr

include hb

theorem counts (ht : c.world.tokensOn x = 0) : (c.world.device x).lock.Counts 0 := by
  have hc := (h.balanced hb).locks x
  rwa [List.count_nil, Nat.add_zero, ht] at hc

theorem present (hx : x < c.world.devices.size) (hg : ¬c.world.IsGone x) (ho : ¬c.world.IsClosed x)
    (ht : c.world.tokensOn x = 0) :
    c.world.Present R.driver (c.world.device x).posture 0 x ∧ (c.world.device x).lock.count ≠ 0 := by
  have ho := Bool.eq_false_of_not_eq_true ho
  have h1 : (c.world.device x).lock.count.toNat = 1 := by rw [(h.counts hb ht).count, ho]; rfl
  refine ⟨⟨hx, rfl, (h.sane.registered x hx).mpr hg, ho, .inr h1⟩, fun h0 => ?_⟩
  rw [h0] at h1
  cases h1

theorem unused (hx : x < c.world.devices.size) (hg : ¬c.world.IsGone x) (ho : ¬c.world.IsClosed x)
    (ht : c.world.tokensOn x = 0) (k : Kind) :
    (c.world.ask k).Stands R.driver c.world.requests.size (c.world.device x).posture 0 x ∧
      (c.world.ask k).Unused R.driver c.world.requests.size x := by
  obtain ⟨hp, hn⟩ := h.present hb hx hg ho ht
  have hst : (c.world.ask k).Stands R.driver c.world.requests.size (c.world.device x).posture 0 x := by
    refine ⟨⟨hp.size, rfl, hp.registered, hp.lends⟩, ?_⟩
    rw [request_ask]; rfl
  exact ⟨hst, ⟨_, hst⟩, fun h0 => absurd h0 hn⟩

include hq

theorem clear (hd : d < c.world.devices.size)
    (hm : ∀ x ∈ (c.world.stack d).members, (c.world.device x).state ≠ .stopPending ∧
      (c.world.device x).state ≠ .deleted ∧ (c.world.device x).lock.draining = false)
    (ht : ∀ x ∈ c.world.family (c.world.stack d), c.world.tokensOn x = 0) (k : Kind) :
    (c.world.ask k).Clear R.driver c.world.requests.size (c.world.stack d) where
  toArranged := by
    have ha := h.sane.arranged hd
    exact ⟨(World.Passing.ask (b := R.driver) c.world k).later.linked ha.linked, ha.children, ha.nodup⟩
  members x hx := by
    obtain ⟨hp, hg, ho⟩ := hm x hx
    obtain ⟨m, hleave⟩ := (h.sane.sound x).orderly.exists_leave (h.rested x) hp hg
    have hs := (h.sane.linked d hd).size_of_mem x hx
    refine ⟨_, m, (h.unused hb hs hg (fun e => ?_) (ht x (World.mem_family.mpr (.inl hx))) k).1, hleave⟩
    rw [World.IsClosed, ho] at e; cases e
  unused y hy x hx := by
    have hc := h.sane.children y x hx
    refine (h.unused hb hc.size hc.2 (fun ho => ?_) (ht x (World.mem_family.mpr (.inr ⟨y, hy, hx⟩))) k).2
    -- a closed child is on its way out, and some removal would be under way
    have hl := ((h.sane.sound x).closing (.inr hc.physical) ho).resolve_right hc.2
    exact h.not_due hq x (.inl ⟨ho, hl⟩)

end Config.Sound

/-- Whatever stack a run has led to, if no removal is under way, its devices are open and not asked to stop, and
nobody has a reference to them or to the children that they have listed, then a new removal that is sent to the
stack succeeds without a wait. It deletes the devices and those children, and takes just these off the registry and
off all lists of children. All other devices are as they were. -/
theorem quiet_stack_removed {c : Config} (hb : R.bounded) (h : Grows R c) (hq : ∀ f ∈ c.suspended, ¬f.IsRemoval)
    (hd : d < c.world.devices.size)
    (hm : ∀ x ∈ (c.world.stack d).members, (c.world.device x).state ≠ .stopPending ∧
      (c.world.device x).state ≠ .deleted ∧ (c.world.device x).lock.draining = false)
    (ht : ∀ x ∈ c.world.family (c.world.stack d), c.world.tokensOn x = 0) :
    (send R.driver d (.pnp .removeDevice) c.world).Ends fun w s => s = .success ∧
      (∀ x ∈ c.world.family (c.world.stack d), (w.device x).state = .deleted) ∧
      (∀ key, w.lookup R.driver key =
        (c.world.lookup R.driver key).filter (· ∉ c.world.family (c.world.stack d))) ∧
      (∀ x, (w.device x).children =
        (c.world.device x).children.filter (· ∉ c.world.family (c.world.stack d))) ∧
      w.devices.size = c.world.devices.size ∧
      ∀ x ∉ c.world.family (c.world.stack d), (w.device x).lifecycle = (c.world.device x).lifecycle ∧
        (w.device x).power = (c.world.device x).power ∧ (w.device x).lock = (c.world.device x).lock := by
  have hs := h.sound
  have hclear := hs.clear hb hq hd hm ht (.pnp .removeDevice)
  have hdue := hs.not_due hq
  have hask := World.Passing.ask (b := R.driver) c.world (.pnp .removeDevice)
  have hreq := request_ask c.world (.pnp .removeDevice)
  have hknows := knows_ask c.world (.pnp .removeDevice)
  have hkeeps :=
    dispatch_keeps_of (R := .free R.driver) (hask.sane hs.sane).relax hknows hd (congrArg Request.kind hreq)
  refine (hkeeps.ends id (dispatch_clears hclear hknows hreq)).imp ?_
  rintro w s ⟨hown, hdue', rfl, hcl, hsize, hframe⟩
  have hw : w.Sane (.free R.driver) := hown.1.sane (hask.sane hs.sane).relax
  have hlater : c.world.Later w := hask.later.trans hown.1.later
  have hdue' (x : DeviceId) : ¬w.IsDue x := fun hx => hdue x (hdue' x hx)
  have hfamily := hcl.family_gone hs.sane.relax hw hlater hdue'
  have hgone (x : DeviceId) (_ : x < c.world.devices.size) :
      w.IsGone x ↔ c.world.IsGone x ∨ x ∈ c.world.family (c.world.stack d) := by
    by_cases hx : x ∈ c.world.family (c.world.stack d)
    · exact iff_of_true (hfamily x hx) (.inr hx)
    · rw [or_iff_left hx]
      exact Eq.congr_left (congrArg (·.lifecycle.current) (hframe x hx).1)
  refine ⟨rfl, hfamily, World.lookup_eq_filter (R := .free R.driver) hs.sane.relax hw hlater hsize hgone,
    World.children_eq_filter hs.sane.relax hw hlater hsize hgone hdue hdue', hsize, fun x hx => ?_⟩
  obtain ⟨hp, hl⟩ := hframe x hx
  exact ⟨congrArg Posture.lifecycle hp, congrArg Posture.power hp, hl⟩

def childAboutToStop : List Play := [
  .begin (.device (.create "A" "" (some 0))),
  .begin (.device (.attach 0 (some 0))),
  .begin (.device (.addChild 1 "B" "" (some 0))),
  .begin (.request (.send 2 (.pnp .startDevice) (some 0))),
  .begin (.request (.send 2 (.pnp .queryStopDevice) (some 0)))]

def World.withLayer (w : World) : World := w.after (registerOver 0 ⟨"C", ""⟩ 1 false).run

theorem quiet_stack_removed_of_layer :
    ∃ c, Grows ⟨0, True, False⟩ c ∧ (c.world.device 2).state = .stopPending ∧
      (send 0 3 (.pnp .removeDevice) c.world).Ends fun w s => s = .success ∧
        (∀ x ∈ [3, 1, 0, 2], (w.device x).state = .deleted) ∧ w.devices.size = 4 := by
  obtain ⟨⟨w, fs⟩, hc, h⟩ := Reaches.of_play (R := ⟨0, True, False⟩) (l := childAboutToStop) World.isFresh_initial
    (by simp [childAboutToStop, Play.IsPermitted, Command.IsPermitted])
    (q := fun c => c.suspended.isEmpty && decide (1 < c.world.devices.size ∧
      let w := c.world.withLayer
      w.devices.size = 4 ∧ (w.device 2).state = .stopPending ∧ w.family (w.stack 3) = [3, 1, 0, 2] ∧
        (∀ x ∈ (w.stack 3).members, (w.device x).state ≠ .stopPending ∧ (w.device x).state ≠ .deleted ∧
          (w.device x).lock.draining = false) ∧
        ∀ x ∈ w.family (w.stack 3), w.tokensOn x = 0)) (by decide +kernel)
  rw [Bool.and_eq_true, List.isEmpty_iff, decide_eq_true_eq] at h
  obtain ⟨rfl, h1, hn, hp, hf, hm, ht⟩ := h
  have hg : Grows ⟨0, True, False⟩ ⟨w.withLayer, []⟩ := by
    obtain ⟨u, hu, hg⟩ := hc.grows
    exact ⟨u, hu, hg.tail (.register ⟨"C", ""⟩ 1 false h1)⟩
  have hq : ∀ f ∈ ([] : List Suspended), ¬f.IsRemoval := fun _ hf => absurd hf List.not_mem_nil
  have hd := quiet_stack_removed trivial hg hq (Nat.lt_of_lt_of_eq (by decide : 3 < 4) hn.symm) hm ht
  refine ⟨_, hg, hp, hd.imp fun w' s h => ?_⟩
  obtain ⟨hs, hgone, -, -, hsize, -⟩ := h
  exact ⟨hs, hf ▸ hgone, hsize.trans hn⟩

/-- A functional device with a child, and another device. Clients have taken so many references to the child that
the count came round to zero, and have given them back. -/
def World.miscounted : World := (World.initial.played [
  .begin (.device (.create "A" "" (some 0))),
  .begin (.device (.attach 0 (some 0))),
  .begin (.device (.addChild 1 "B" "" (some 0))),
  .begin (.device (.create "C" "" (some 0)))]).giveUpTokens 2 (2 ^ 32 - 1)

theorem World.reaches_miscounted : Reaches (.free 0) ⟨.miscounted, []⟩ := by
  refine .giveUpTokens (.played World.isFresh_initial ?_ (by decide +kernel)) (by decide +kernel)
    (by decide +kernel) rfl
    (by decide +kernel)
  simp [Play.IsPermitted, Command.IsPermitted, Regime.free]

theorem World.tokensOn_miscounted (h : d < 4) : World.miscounted.tokensOn d = 0 := by
  rw [miscounted, tokensOn_giveUpTokens]
  revert d
  decide +kernel

/-- Nobody has a reference to the stack or to the child, but the count of the child will not come to zero again. -/
theorem quiet_stack_not_removed : Grows (.free 0) ⟨.miscounted, []⟩ ∧
    (∀ x ∈ (World.miscounted.stack 1).members, (World.miscounted.device x).state ≠ .stopPending ∧
      (World.miscounted.device x).state ≠ .deleted ∧ (World.miscounted.device x).lock.draining = false) ∧
    (∀ x ∈ World.miscounted.family (World.miscounted.stack 1), World.miscounted.tokensOn x = 0) ∧
    ¬(send 0 1 (.pnp .removeDevice) World.miscounted).Ends fun _ _ => True := by
  have hf : World.miscounted.family (World.miscounted.stack 1) = [1, 0, 2] := by decide +kernel
  refine ⟨World.reaches_miscounted.grows, by decide +kernel, fun x hx => World.tokensOn_miscounted ?_,
    by decide +kernel⟩
  rw [hf] at hx
  revert x
  decide

end PnpBus
