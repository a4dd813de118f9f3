import PnpBus.Proofs.Locality
import PnpBus.Proofs.Teardown

/-!
# Requests that do not meet

A new request to a stack that nobody uses is answered at once, whatever it
asks for. Two such requests whose devices have nothing to do with each other
can be dispatched in either order: each finds what it looks at as the other
one left it untouched, and all that they change in common are lists of
children, which lose what is deleted.
-/

namespace PnpBus

variable {α : Type} {R : Regime} {A : World → World → Prop} {b : DriverId} {r q : RequestId} {d x : DeviceId}
  {ds es : List DeviceId} {t : Stack} {u v w : World}

/-! ## Removals of stacks that nobody uses -/

structure World.Idle (b : DriverId) (r : RequestId) (t : Stack) (v : World) : Prop extends v.Arranged t where
  members : ∀ x ∈ t.members, v.IsGone x ∨ v.IsClosed x ∨ ∃ p, v.Stands b r p 0 x
  disposable : ∀ y ∈ t.layers, ∀ c ∈ (v.device y).children, v.Disposable b r c

namespace World

theorem Spares.idle (h : Spares b r ds v u) (hd : ∀ x ∈ v.family t, x ∉ ds) (hi : v.Idle b r t) : u.Idle b r t where
  toArranged := h.arranged hi.toArranged
  members x hx := by
    have hd := hd x (mem_family.mpr (.inl hx))
    obtain hg | hc | ⟨p, hst⟩ := hi.members x hx
    · exact .inl (h.later.gone hg)
    · refine .inr (.inl ?_)
      unfold IsClosed
      rw [h.lock x hd]
      exact hc
    · exact .inr (.inr ⟨p, h.stands hd hst⟩)
  disposable y hy c hm := by
    have hm := (h.children y).subset hm
    exact h.disposable (hd c (mem_family.mpr (.inr ⟨y, hy, hm⟩))) (hi.disposable y hy c hm)

theorem Idle.below {lower : Stack} (h : v.Idle b r (.functional d lower)) : v.Idle b r lower where
  toArranged := h.toArranged.rest
  members x hx := h.members x (List.mem_cons_of_mem d hx)
  disposable y hy := h.disposable y (List.mem_cons_of_mem d hy)

/-- A device refuses the request at once, or it stands in its way. -/
theorem Idle.admitted {k : Kind} {handler : Call Status} (h : v.Idle b r t) (hx : x ∈ t.members) (hr : v.Knows r)
    (hh : ∀ w p, Spares b r [x] v w → w.Stands b r p 1 x → p.lifecycle.current ≠ .deleted →
      (handler w).Ends fun w' _ => Spares b r (v.family t) v w') :
    (admitted x r k handler v).Ends fun w _ => Spares b r (v.family t) v w := by
  by_cases hg : (v.device x).state = .deleted
  · rw [admitted_error (enter_gone r k hg)]
    exact .note v _
  by_cases hc : (v.device x).lock.draining = true
  · rw [admitted_error (enter_closed r k hg hc)]
    exact .refl v
  obtain h | h | ⟨p, hst⟩ := h.members x hx
  · exact absurd h hg
  · exact absurd h hc
  have hp : p.lifecycle.current ≠ .deleted := by
    rw [← hst.state]
    exact hg
  obtain ⟨w, hw, hs, hst⟩ := hst.admitted hp hr k handler
  rw [hw]
  exact hh w p hs hst hp

end World

theorem deliver_idle : ∀ {t : Stack} {v : World}, v.Idle b r t → v.Knows r →
    (deliver b r (.pnp .removeDevice) t v).Ends fun w _ => World.Spares b r (v.family t) v w
  | .physical d, v, hi, hr => by
    refine hi.admitted List.mem_cons_self hr fun w p hs hst hp => ?_
    refine (physical_ends hst hp (hs.later.knows hr) (.pnp .removeDevice)).imp fun w' s h => ?_
    exact (hs.trans h.spares).mono fun x => List.mem_append_left _
  | .functional d lower, v, hi, hr => by
    refine hi.admitted List.mem_cons_self hr fun w p hs hst hp => ?_
    have hmine {w : World} (hs : World.Spares b r [d] v w) :
        World.Spares b r (v.family (.functional d lower)) v w :=
      hs.of_mem (World.mem_family_functional.mpr (.inl rfl))
    have hn (ds : List DeviceId) : World.Spares b r ds w
      (w.note (.functionalAsked (w.device d).identity.deviceId .removeDevice)) := .note w _
    have hs := hs.trans (hn [d])
    have hst := (hn []).stands List.not_mem_nil hst
    rw [functional_pnp]
    show (removeFunctional b d r _ _).Ends _
    cases hm : p.lifecycle.leave? with
    | none =>
      obtain ⟨u, hu, hsu⟩ := hst.enterRemoval_error hm
      rw [removeFunctional_error b d r _ hu]
      exact hmine (hs.trans hsu.of_nil)
    | some m =>
      refine (hi.toArranged.removeFunctional (q := fun _ _ _ => True) (hi.disposable d List.mem_cons_self) hs hst
        (hs.later.knows hr) hm fun u es hu hlow hr => ?_).imp fun w' s h => h.2.1
      refine (deliver_idle (hu.idle hlow hi.below) hr).imp fun u' s h => ⟨?_, trivial⟩
      exact h.mono fun x hx => hu.family hx

/-! ## New requests -/

/-- Request `r` is new, and nobody has a reference to the devices that it is going to pass, nor to the children that
they list. -/
structure World.Ready (w : World) (d : DeviceId) (r : RequestId) : Prop where
  device : d < w.devices.size
  request : w.Knows r
  fresh : ∃ kind, w.request r = { kind }
  unused : ∀ x ∈ w.family (w.stack d), w.tokensOn x = 0

/-- What belongs to a stack lists nothing that does not. -/
theorem World.Sane.family_closed (h : w.Sane R) (hd : d < w.devices.size) (hx : x ∈ w.family (w.stack d)) :
    ∀ c ∈ (w.device x).children, c ∈ w.family (w.stack d) := by
  intro c hc
  have hf : (w.device x).role = .functional := by
    cases hp : (w.device x).role with
    | physical => rw [Device.children_of_physical hp] at hc; cases hc
    | functional => rfl
  rcases mem_family.mp hx with hm | ⟨y, _, hm⟩
  · exact mem_family.mpr (.inr ⟨x, (h.linked d hd).mem_layers hm hf, hc⟩)
  · -- a child has no children
    rw [(h.children y x hm).physical] at hf
    cases hf

/-- A new request is about to pass devices that are alike in its own world. -/
theorem World.Ready.alike (h : w.Ready d r) (hs : w.Sane R) : w.Alike R.driver (w.family (w.stack d)) r w where
  size := rfl
  device _ _ := rfl
  requests := rfl
  request := rfl
  drivers := rfl
  interceptor := rfl
  found _ _ _ := Iff.rfl
  children x hx := hs.family_closed h.device hx
  locks x hx := by
    obtain ⟨kind, he⟩ := h.fresh
    rw [he] at hx
    cases hx
  tickets g hg := by
    obtain ⟨kind, he⟩ := h.fresh
    rw [he] at hg
    cases hg

theorem Config.Sound.idle {c : Config} (h : c.Sound R) (hb : R.bounded) (hr : c.world.Ready d r) :
    c.world.Idle R.driver r (c.world.stack d) where
  toArranged := h.sane.arranged hr.device
  members x hx := by
    have hs := (h.sane.linked d hr.device).size_of_mem x hx
    by_cases hg : c.world.IsGone x
    · exact .inl hg
    by_cases hc : c.world.IsClosed x
    · exact .inr (.inl hc)
    obtain ⟨kind, he⟩ := hr.fresh
    refine .inr (.inr ⟨_, (h.present hb hs hg hc (hr.unused x (World.mem_family.mpr (.inl hx)))).1, ?_⟩)
    rw [he]
    rfl
  disposable y hy x hx := by
    have hchild := h.sane.children y x hx
    have ht := hr.unused x (World.mem_family.mpr (.inr ⟨y, hy, hx⟩))
    by_cases hc : c.world.IsClosed x
    · -- it is on its way out, and there is nothing to wait for
      have hl := ((h.sane.sound x).closing (.inr hchild.physical) hc).resolve_right hchild.2
      have hlatch := (h.counts hb ht).latch.mpr ⟨hc, rfl⟩
      refine .inr ⟨_, ⟨hchild.size, rfl, (h.sane.registered x hchild.size).mpr hchild.2, ?_⟩, hl⟩
      exact Bool.and_eq_true _ _ ▸ ⟨hc, hlatch⟩
    · obtain ⟨kind, he⟩ := hr.fresh
      obtain ⟨hp, hn⟩ := h.present hb hchild.size hchild.2 hc ht
      refine .inl ⟨⟨_, hp, ?_⟩, fun h0 => absurd h0 hn⟩
      rw [he]
      rfl

theorem Config.Sound.dispatch_ends {c : Config} (h : c.Sound R) (hb : R.bounded) (hr : c.world.Ready d r) :
    (dispatch R.driver d r c.world).Ends fun _ _ => True := by
  by_cases hk : (c.world.request r).kind = .pnp .removeDevice
  · rw [dispatch_apply, hk]
    exact (deliver_idle (h.idle hb hr) hr.request).bind fun _ _ _ => trivial
  · have hq := dispatch_quick (R := .free R.driver) (P := fun _ => False) rfl hk h.sane.relax hr.request hr.device
      fun _ _ _ => id
    have hm :=
      dispatch_mirrors (hr.alike h.sane) (c.world.mem_family_self d) fun x hx => World.mem_family.mpr (.inl hx)
    exact (hm.ends_of_quick (R := .free R.driver) id hq).imp fun _ _ _ => trivial

/-! ## What a request has left alone -/

namespace World

/-- The worlds have the same devices, and these differ outside `ds` only in that lists of children have lost what is
deleted. -/
structure Prunes (ds : List DeviceId) (v w : World) : Prop where
  size : w.devices.size = v.devices.size
  device : ∀ x ∉ ds,
    w.device x = (v.device x).withChildren ((v.device x).children.filter fun c => (w.device c).state ≠ .deleted)

theorem Prunes.trans (h : u.Prunes ds v) (h' : v.Prunes es w) (hg : ∀ x, v.IsGone x → w.IsGone x) :
    u.Prunes (ds ++ es) w := by
  refine ⟨h'.size.trans h.size, fun x hx => ?_⟩
  rw [List.mem_append, not_or] at hx
  have hc : (v.device x).children = (u.device x).children.filter fun c => (v.device c).state ≠ .deleted := by
    rw [h.device x hx.1, ← Device.filter_children, Device.children_filter]
  rw [h'.device x hx.2, hc, List.filter_filter, h.device x hx.1, Device.withChildren_withChildren]
  refine congrArg _ (List.filter_congr fun c _ => ?_)
  rw [← Bool.decide_and, decide_eq_decide]
  exact and_iff_left_of_imp (mt (hg c))

namespace Confined

theorem children_eq_filter (h : v.Confined ds r w) (hv : v.Sane R) (hw : w.Sane R) (hx : x ∉ ds) :
    (w.device x).children = (v.device x).children.filter fun c => (w.device c).state ≠ .deleted := by
  refine List.Pairwise.eq_of_mem_iff (hw.sorted x) ((hv.sorted x).filter _) fun c => ?_
  rw [List.mem_filter, decide_eq_true_eq]
  exact ⟨fun hc => ⟨(h.children x).subset hc, (hw.children x c hc).2⟩,
    fun ⟨hc, hg⟩ => (h.kept x hx c hc).resolve_right fun hc => hg hc.2⟩

theorem prunes (h : v.Confined ds r w) (hv : v.Sane R) (hw : w.Sane R) : v.Prunes ds w :=
  ⟨h.size, fun x hx => h.children_eq_filter hv hw hx ▸ h.device x hx⟩

/-- A device that is the parent of none of them has not changed at all. -/
theorem same (h : v.Confined ds r w) (hv : v.Sane R) (hx : x ∉ ds) (hp : ∀ c ∈ ds, (v.device c).parent? ≠ some x) :
    w.device x = v.device x := by
  have hs := h.children x
  have hc : (w.device x).children = (v.device x).children := by
    refine List.Pairwise.eq_of_mem_iff ((hv.sorted x).sublist hs) (hv.sorted x) fun c =>
      ⟨(hs.subset ·), fun hc => ?_⟩
    exact (h.kept x hx c hc).resolve_right fun hm => hp c hm.1 (hv.children x c hc).1
  have hd := h.device x hx
  rwa [hc, Device.withChildren_self] at hd

end Confined

/-- The stacks have no device and no listed child in common, and nothing that belongs to one of them is the parent
of anything that belongs to the other. -/
structure Separate (w : World) (s t : Stack) : Prop where
  disjoint : ∀ x ∈ w.family s, x ∉ w.family t
  left : ∀ x ∈ w.family s, ∀ c ∈ w.family t, (w.device c).parent? ≠ some x
  right : ∀ x ∈ w.family t, ∀ c ∈ w.family s, (w.device c).parent? ≠ some x

theorem Separate.symm {s t : Stack} (h : w.Separate s t) : w.Separate t s where
  disjoint x hx hs := h.disjoint x hs hx
  left := h.right
  right := h.left

/-- A request to another stack has left everything as a new request finds it. -/
theorem Confined.alike (h : v.Confined (v.family t) q w) (hv : v.Sane R) (hw : w.Sane R)
    (hr : v.Ready d r) (hn : r ≠ q) (hs : v.Separate (v.stack d) t) : v.Alike R.driver (v.family (v.stack d)) r w :=
  have same (x : DeviceId) (hx : x ∈ v.family (v.stack d)) : w.device x = v.device x :=
    h.same hv (hs.disjoint x hx) (hs.left x hx)
  { hr.alike hv with
    size := h.size
    device := same
    requests := h.requests
    request := h.request r hn
    drivers := h.drivers
    interceptor := h.interceptor R.driver
    found := fun x hx key => by
      rw [hv.lookup_eq_some, hw.lookup_eq_some, h.size, IsGone, same x hx]
      exact Iff.rfl }

end World

/-! ## Two requests, one after the other -/

/-- A new request is answered in the same way wherever it finds its devices alike, and nowhere does it change
anything else. -/
theorem dispatch_alike {v' : World} {s : Status} (hr : v.Ready d r) (h : v.Alike b (v.family (v.stack d)) r w)
    (hw : w.Sane (.free b)) (he : (dispatch b d r v).EndsIn v' s) :
    ∃ w', (dispatch b d r w).EndsIn w' s ∧ w'.Sane (.free b) ∧
    World.Twins b (v.family (v.stack d)) r v w v' w' := by
  have hm := dispatch_mirrors h (v.mem_family_self d) fun x hx => World.mem_family.mpr (.inl hx)
  have hknows : w.Knows r := Nat.lt_of_lt_of_eq hr.request h.requests.symm
  have hd : d < w.devices.size := Nat.lt_of_lt_of_eq hr.device h.size.symm
  have hkeeps := dispatch_keeps_of (R := .free b) hw hknows hd rfl
  obtain ⟨w', s', hends, hown, -, _, ⟨rfl, rfl⟩, ht⟩ := (hkeeps.ends id (hm.ends he)).exists_endsIn
  exact ⟨w', hends, hown.1.sane hw, ht⟩

theorem Config.Sound.dispatched {c : Config} (h : c.Sound R) (hb : R.bounded) (hr : c.world.Ready d r) :
    ∃ w s, (dispatch R.driver d r c.world).EndsIn w s ∧ w.Sane (.free R.driver) ∧
      c.world.Confined (c.world.family (c.world.stack d)) r w := by
  have hs := h.sane.relax
  obtain ⟨w, s, he, -⟩ := (h.dispatch_ends hb hr).exists_endsIn
  obtain ⟨w', he', hs', ht⟩ := dispatch_alike hr (hr.alike hs) hs he
  exact ⟨w', s, he', hs', ht.right⟩

/-- World `w` has the devices `ds` and the request `q` from `w₁`, the devices `es` and the request `r` from `w₂`,
and the rest from `v`, where lists of children have lost what is deleted. -/
structure World.Joins (ds es : List DeviceId) (q r : RequestId) (v w₁ w₂ w : World) : Prop where
  prunes : v.Prunes (ds ++ es) w
  left : ∀ x ∈ ds, w.device x = w₁.device x
  right : ∀ x ∈ es, w.device x = w₂.device x
  requests : w.requests.size = v.requests.size
  request : ∀ p, p ≠ q → p ≠ r → w.request p = v.request p
  requestLeft : w.request q = w₁.request q
  requestRight : w.request r = w₂.request r

namespace World.Joins

variable {w₁ w₂ w' : World}

theorem symm (h : Joins ds es q r v w₁ w₂ w) : Joins es ds r q v w₂ w₁ w where
  prunes := ⟨h.prunes.size, fun x hx => h.prunes.device x (mt (List.perm_append_comm.mem_iff).mp hx)⟩
  left := h.right
  right := h.left
  requests := h.requests
  request p hr hq := h.request p hq hr
  requestLeft := h.requestRight
  requestRight := h.requestLeft

section
variable (h : Joins ds es q r v w₁ w₂ w) (h' : Joins ds es q r v w₁ w₂ w')
include h h'

theorem state_eq (x : DeviceId) : (w'.device x).state = (w.device x).state := by
  by_cases hd : x ∈ ds
  · rw [h.left x hd, h'.left x hd]
  by_cases he : x ∈ es
  · rw [h.right x he, h'.right x he]
  have hx : x ∉ ds ++ es := fun hm => (List.mem_append.mp hm).elim hd he
  rw [h.prunes.device x hx, h'.prunes.device x hx, Device.state_withChildren, Device.state_withChildren]

theorem devices_eq : w'.devices = w.devices := by
  refine Table.ext_get (h'.prunes.size.trans h.prunes.size.symm) fun x => show w'.device x = w.device x from ?_
  by_cases hd : x ∈ ds
  · rw [h.left x hd, h'.left x hd]
  by_cases he : x ∈ es
  · rw [h.right x he, h'.right x he]
  have hx : x ∉ ds ++ es := fun hm => (List.mem_append.mp hm).elim hd he
  rw [h.prunes.device x hx, h'.prunes.device x hx]
  exact congrArg _ (List.filter_congr fun c _ => by rw [h.state_eq h' c])

theorem requests_eq : w'.requests = w.requests := by
  refine Table.ext_get (h'.requests.trans h.requests.symm) fun p => show w'.request p = w.request p from ?_
  by_cases hq : p = q
  · rw [hq, h.requestLeft, h'.requestLeft]
  by_cases hr : p = r
  · rw [hr, h.requestRight, h'.requestRight]
  rw [h.request p hq hr, h'.request p hq hr]

end

end World.Joins

/-- A new request does the same after a request to another stack as before it. -/
theorem World.Confined.joins {w₁ w₂ : World} {s : Status} (h : v.Confined (v.family t) q w₁) (hv : v.Sane (.free b))
    (hw : w₁.Sane (.free b)) (hr : v.Ready d r) (hn : r ≠ q) (hs : v.Separate (v.stack d) t)
    (he : (dispatch b d r v).EndsIn w₂ s) :
    ∃ w, (dispatch b d r w₁).EndsIn w s ∧ w.Sane (.free b) ∧ w₁.Prunes (v.family (v.stack d)) w ∧
      Joins (v.family t) (v.family (v.stack d)) q r v w₁ w₂ w := by
  have ha := h.alike hv hw hr hn hs
  obtain ⟨w, hends, hsane, ht⟩ := dispatch_alike hr ha hw he
  have hp := ht.right.prunes hw hsane
  refine ⟨w, hends, hsane, hp, (h.prunes hv hw).trans hp ht.right.gone, fun x hx => ?_, ht.alike.device,
    ht.right.requests.trans h.requests, fun p hq hr => (ht.right.request p hr).trans (h.request p hq),
    ht.right.request q hn.symm, ht.alike.request⟩
  -- a device of the other stack is the parent of none of these
  refine ht.right.same hw (fun hm => hs.disjoint x hm hx) fun c hc => ?_
  rw [ha.device c hc]
  exact hs.right x hx c hc

/-! ## Wherever a run has led to -/

inductive Preparation (R : Regime) : Config → Config → Prop
  | growth {c c' : Config} (h : Growth R c c') : Preparation R c c'
  | ask {w : World} {fs : List Suspended} (k : Kind) : Preparation R ⟨w, fs⟩ ⟨w.ask k, fs⟩

def Prepares (R : Regime) (c : Config) : Prop :=
  ∃ w : World, w.IsFresh R.driver ∧ Relation.ReflTransGen (Preparation R) ⟨w, []⟩ c

theorem Prepares.sound {c : Config} (h : Prepares R c) : c.Sound R := by
  obtain ⟨w, hw, h⟩ := h
  induction h with
  | refl => exact hw.sound
  | tail _ hp ih =>
    cases hp with
    | growth h => exact h.sound ih
    | ask k => exact ih.smooth (ask_smooth _ k)

theorem Grows.prepares {c : Config} (h : Grows R c) : Prepares R c := by
  obtain ⟨w, hw, h⟩ := h
  exact ⟨w, hw, h.lift id fun _ _ => .growth⟩

/-- Wherever a run has led to, two new requests to stacks that have nothing to do with each other, and that nobody
has a reference to, are both answered at once, whatever they ask for. Each of them is given the same answer
whichever comes first, and the devices, the requests and the registry are the same in the end. No device outside of
the family of its stack is changed by a request, but for lists of children, which lose what is deleted. -/
theorem independent_dispatches_commute {c : Config} {d₁ d₂ : DeviceId} {r₁ r₂ : RequestId} (hb : R.bounded)
    (h : Prepares R c) (h₁ : c.world.Ready d₁ r₁) (h₂ : c.world.Ready d₂ r₂) (hr : r₁ ≠ r₂)
    (hs : c.world.Separate (c.world.stack d₁) (c.world.stack d₂)) :
    ∃ w₁ w₂ w w' s₁ s₂,
      ((dispatch R.driver d₁ r₁ c.world).EndsIn w₁ s₁ ∧ c.world.Prunes (c.world.family (c.world.stack d₁)) w₁) ∧
      ((dispatch R.driver d₂ r₂ w₁).EndsIn w s₂ ∧ w₁.Prunes (c.world.family (c.world.stack d₂)) w) ∧
      ((dispatch R.driver d₂ r₂ c.world).EndsIn w₂ s₂ ∧ c.world.Prunes (c.world.family (c.world.stack d₂)) w₂) ∧
      ((dispatch R.driver d₁ r₁ w₂).EndsIn w' s₁ ∧ w₂.Prunes (c.world.family (c.world.stack d₁)) w') ∧
      w'.devices = w.devices ∧ w'.requests = w.requests ∧
      ∀ key, w'.lookup R.driver key = w.lookup R.driver key := by
  have hv := h.sound.sane.relax
  obtain ⟨w₁, s₁, he₁, hs₁, hc₁⟩ := h.sound.dispatched hb h₁
  obtain ⟨w₂, s₂, he₂, hs₂, hc₂⟩ := h.sound.dispatched hb h₂
  obtain ⟨w, he, hw, hp, hj⟩ := hc₁.joins hv hs₁ h₂ hr.symm hs.symm he₂
  obtain ⟨w', he', hw', hp', hj'⟩ := hc₂.joins hv hs₂ h₁ hr hs he₁
  have hdevices := hj.devices_eq hj'.symm
  refine ⟨w₁, w₂, w, w', s₁, s₂, ⟨he₁, hc₁.prunes hv hs₁⟩, ⟨he, hp⟩, ⟨he₂, hc₂.prunes hv hs₂⟩, ⟨he', hp'⟩, hdevices,
    hj.requests_eq hj'.symm, fun key => Option.ext fun x => ?_⟩
  have hdevice : w'.device x = w.device x := by unfold World.device; rw [hdevices]
  have hl : w.lookup R.driver key = some x ↔ _ := hw.lookup_eq_some
  have hl' : w'.lookup R.driver key = some x ↔ _ := hw'.lookup_eq_some
  rw [hdevices, World.IsGone, hdevice] at hl'
  exact hl'.trans hl.symm

def World.withRemovals (w : World) : World := (w.ask (.pnp .removeDevice)).ask (.pnp .removeDevice)

theorem World.request_withRemovals (w : World) : w.withRemovals.Knows (w.requests.size + 1) ∧
    w.withRemovals.request w.requests.size = { kind := .pnp .removeDevice } ∧
    w.withRemovals.request (w.requests.size + 1) = { kind := .pnp .removeDevice } := by
  have hs : (w.ask (.pnp .removeDevice)).requests.size = w.requests.size + 1 := Table.size_push ..
  refine ⟨hs ▸ knows_ask (w.ask (.pnp .removeDevice)) _, ?_, hs ▸ request_ask (w.ask (.pnp .removeDevice)) _⟩
  exact (Table.get_push_of_lt (hs ▸ Nat.lt_succ_self _) _).trans (request_ask w _)

theorem Grows.withRemovals {fs : List Suspended} (h : Grows R ⟨w, fs⟩) : Prepares R ⟨w.withRemovals, fs⟩ := by
  obtain ⟨u, hu, h⟩ := h.prepares
  exact ⟨u, hu, (h.tail (.ask _)).tail (.ask _)⟩

theorem World.ready_withRemovals (hd : d < w.devices.size) (hr : r = w.requests.size ∨ r = w.requests.size + 1)
    (ht : ∀ x ∈ w.family (w.stack d), w.tokensOn x = 0) : w.withRemovals.Ready d r := by
  obtain ⟨hk, hr₀, hr₁⟩ := w.request_withRemovals
  refine ⟨hd, ?_, ?_, fun x hx => ?_⟩
  · rcases hr with rfl | rfl
    · exact Nat.lt_of_succ_lt hk
    · exact hk
  · rcases hr with rfl | rfl
    · exact ⟨_, hr₀⟩
    · exact ⟨_, hr₁⟩
  · show ((w.requests.push _).push _).sum _ + _ = 0
    rw [Table.sum_push, Table.sum_push]
    exact ht x hx

/-- Two children of one device are removed. -/
theorem independent_dispatches_commute_of_siblings :
    ∃ c, Prepares ⟨0, True, False⟩ c ∧ (c.world.device 1).children = [2, 3] ∧ ∃ w₁ w₂ w w' s₁ s₂,
      (dispatch 0 2 2 c.world).EndsIn w₁ s₁ ∧ (dispatch 0 3 3 w₁).EndsIn w s₂ ∧
      (dispatch 0 3 3 c.world).EndsIn w₂ s₂ ∧ (dispatch 0 2 2 w₂).EndsIn w' s₁ ∧
      w'.devices = w.devices ∧ (w.device 1).children = [] := by
  obtain ⟨⟨w, fs⟩, hc, h⟩ := Reaches.of_play (R := ⟨0, True, False⟩) World.isFresh_initial
    (l := [.begin (.device (.create "A" "" (some 0))), .begin (.device (.attach 0 (some 0))),
      .begin (.device (.addChild 1 "B" "" (some 0))), .begin (.device (.addChild 1 "C" "" (some 0)))])
    (by simp [Play.IsPermitted, Command.IsPermitted])
    (q := fun c => decide (let w := c.world.withRemovals
      c.world.requests.size = 2 ∧ w.devices.size = 4 ∧ (w.device 1).children = [2, 3] ∧
      w.family (w.stack 2) = [2] ∧ w.family (w.stack 3) = [3] ∧
      c.world.tokensOn 2 = 0 ∧ c.world.tokensOn 3 = 0 ∧ (w.device 2).parent? = some 1 ∧
        (w.device 3).parent? = some 1 ∧
      (dispatch 0 2 2 w).Ends fun w _ => (dispatch 0 3 3 w).Ends fun w _ => (w.device 1).children = []))
    (by decide +kernel)
  rw [decide_eq_true_eq] at h
  obtain ⟨hreqs, hsize, hlist, hf₂, hf₃, ht₂, ht₃, hp₂, hp₃, hends⟩ := h
  have ready {d r : Nat} (hd : d < 4) (hr : r = w.requests.size ∨ r = w.requests.size + 1)
      (hf : w.family (w.stack d) = [d]) (ht : w.tokensOn d = 0) : w.withRemovals.Ready d r := by
    refine World.ready_withRemovals (hsize ▸ hd) hr fun x hx => ?_
    rw [hf] at hx
    rw [List.mem_singleton.mp hx]
    exact ht
  have hs : w.withRemovals.Separate (w.withRemovals.stack 2) (w.withRemovals.stack 3) := by
    constructor <;> simp [hf₂, hf₃, hp₂, hp₃]
  obtain ⟨w₁, w₂, u, u', s₁, s₂, h₁, h₂, h₁', h₂', hd, -⟩ := independent_dispatches_commute trivial
    hc.grows.withRemovals (ready (d := 2) (r := 2) (by decide) (.inl hreqs.symm) hf₂ ht₂)
    (ready (d := 3) (r := 3) (by decide) (.inr (by rw [hreqs])) hf₃ ht₃) (by decide) hs
  exact ⟨_, hc.grows.withRemovals, hlist, w₁, w₂, u, u', s₁, s₂, h₁.1, h₂.1, h₁'.1, h₂'.1, hd,
    h₂.1.post (h₁.1.post hends)⟩

/-- Two physical devices, and a lock that was acquired without a token. -/
def World.bolted : World := World.initial.played [
  .begin (.device (.create "A" "" (some 0))),
  .begin (.device (.create "B" "" (some 0))),
  .begin (.bench (.acquire (.device 0)))]

/-- One of two stacks that have nothing to do with each other is never removed, because of a count that came round
to zero in the one case, and in the other because of a reference that nobody has. -/
theorem independent_dispatch_never_ends :
    (Prepares (.free 0) ⟨World.miscounted.withRemovals, []⟩ ∧ World.miscounted.withRemovals.Ready 1 2 ∧
      World.miscounted.withRemovals.Ready 3 3 ∧
      World.miscounted.withRemovals.Separate (World.miscounted.withRemovals.stack 1)
        (World.miscounted.withRemovals.stack 3) ∧
      ¬(dispatch 0 1 2 World.miscounted.withRemovals).Ends fun _ _ => True) ∧
    World.bolted.withRemovals.Ready 0 0 ∧ World.bolted.withRemovals.Ready 1 1 ∧
      World.bolted.withRemovals.Separate (World.bolted.withRemovals.stack 0) (World.bolted.withRemovals.stack 1) ∧
      ¬(dispatch 0 0 0 World.bolted.withRemovals).Ends fun _ _ => True := by
  have miscounted {d r : Nat} (hd : d < 4) (hr : r = 2 ∨ r = 3)
      (hf : ∀ x ∈ World.miscounted.family (World.miscounted.stack d), x < 4) :
        World.miscounted.withRemovals.Ready d r := by
    have hreqs : World.miscounted.requests.size = 2 := by decide +kernel
    refine World.ready_withRemovals ?_ (hreqs.symm ▸ hr) fun x hx => World.tokensOn_miscounted (hf x hx)
    rw [show World.miscounted.devices.size = 4 by decide +kernel]
    exact hd
  have hf₁ : World.miscounted.withRemovals.family (World.miscounted.withRemovals.stack 1) = [1, 0, 2] := by
    decide +kernel
  have hf₃ : World.miscounted.withRemovals.family (World.miscounted.withRemovals.stack 3) = [3] := by decide +kernel
  have bolted {d r : Nat} (hd : d < World.bolted.devices.size) (hr : r = 0 ∨ r = 1)
      (ht : ∀ x ∈ World.bolted.family (World.bolted.stack d), World.bolted.tokensOn x = 0) :
      World.bolted.withRemovals.Ready d r := by
    have hreqs : World.bolted.requests.size = 0 := by decide +kernel
    exact World.ready_withRemovals hd (hreqs.symm ▸ hr) ht
  refine ⟨⟨World.reaches_miscounted.grows.withRemovals, ?_, ?_, ?_, by decide +kernel⟩, ?_, ?_, ?_,
    by decide +kernel⟩
  · exact miscounted (by decide) (.inl rfl) (by decide +kernel)
  · exact miscounted (by decide) (.inr rfl) (by decide +kernel)
  · constructor <;> rw [hf₁, hf₃] <;> decide +kernel
  · exact bolted (by decide +kernel) (.inl rfl) (by decide +kernel)
  · exact bolted (by decide +kernel) (.inr rfl) (by decide +kernel)
  · constructor <;> decide +kernel

end PnpBus
