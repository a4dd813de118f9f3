import PnpBus.Proofs.Bypasses
import PnpBus.Proofs.Lifespans

/-!
# A cancel undoes its query

Each device remembers one state, the one that it was in when it was asked to
stop or to be removed. Until the cancel comes, the devices of the stack may
get any requests but those that confirm the query: what moves nothing, cancels
that are about the other query, and what is refused. None of these touches
what the devices remember, although they may be in different states before.
-/

namespace PnpBus

variable {R : Regime} {b : DriverId} {d x : DeviceId} {k : Kind} {m : Minor} {s : Status} {t : Stack}
  {pre u v w : World} {c : Config}

/-! ## Stacks in stacks -/

namespace World

def Nested (w : World) : Prop := ∀ d layer, (w.device d).layer? = some layer → w.stack layer.lower.top = layer.lower

theorem stack_eq_functional {lower : Stack} :
    w.stack d = .functional d lower ↔ (w.device d).layer?.map (·.lower) = some lower := by
  unfold stack Device.layer?
  cases (w.device d).extension <;> simp

/-- What stands under a device of a stack is part of the stack. -/
theorem Nested.members_subset (hn : w.Nested) : ∀ {t : Stack}, w.stack t.top = t → ∀ x ∈ t.members,
    (w.stack x).members ⊆ t.members
  | .physical d, ht, x, hx => by
    obtain rfl := List.mem_singleton.mp hx
    rw [show w.stack x = .physical x from ht]
    exact fun _ => id
  | .functional d lower, ht, x, hx => by
    rcases List.mem_cons.mp hx with rfl | hx
    · rw [show w.stack x = .functional x lower from ht]
      exact fun _ => id
    · obtain ⟨layer, hl, rfl⟩ := Option.map_eq_some_iff.mp (stack_eq_functional.mp ht)
      exact fun y hy => List.mem_cons_of_mem d (hn.members_subset (hn d layer hl) x hx hy)

end World

theorem Grows.nested (h : Grows R c) : c.world.Nested := by
  intro d layer hl
  have hlinked := h.sound.sane.linked d (World.size_of_layer? (by rw [hl]; rfl))
  rw [World.stack_eq_functional.mpr (by rw [hl]; rfl)] at hlinked
  obtain ⟨w, hw, h⟩ := h
  refine (Growth.agesAndGrows_of_steps h fun _ hf => absurd hf List.not_mem_nil).1.rooted d ?_ layer
    hl hlinked.2.2.1
  exact Nat.le_of_not_lt (hw.not_lt d)

/-! ## Whole requests -/

theorem send_apply (b : DriverId) (d : DeviceId) (k : Kind) (w : World) :
    send b d k w = (deliver b w.requests.size k (w.stack d) (w.ask k)).bind fun s w' =>
      .done (w'.after (settle w.requests.size s)) s := by
  show dispatch b d w.requests.size (w.ask k) = _
  rw [dispatch_apply, request_ask]
  rfl

/-- Wherever a request is sent to, it leaves a world that may go on. -/
theorem send_own {p : World → Status → Prop} (hs : v.Sane (.free b)) (hd : d < v.devices.size)
    (he : (send b d k v).Ends p) : (send b d k v).Ends fun w _ => w.Sane (.free b) ∧ v.Later w := by
  have hask : World.Passing b v (v.ask k) := .ask v k
  have hkeeps := dispatch_keeps_of (R := .free b) (hask.sane hs) (knows_ask v k) (d := d) hd
    (congrArg Request.kind (request_ask v k))
  refine (hkeeps.ends id he).imp fun w s h => ?_
  exact ⟨h.1.1.sane (hask.sane hs), hask.later.trans h.1.1.later⟩

theorem sameStanding_ask (w : World) (k : Kind) : w.SameStanding (w.ask k) :=
  (World.Passing.ask (b := 0) w k).sameStanding

/-- What moves nothing on its way down the stack and back has moved nothing in the end. -/
theorem sameStanding_of_endsIn {p : World → World → Prop} (he : (send b d k v).EndsIn w s)
    (h : (deliver b v.requests.size k (v.stack d) (v.ask k)).Along World.SameStanding p
      (fun _ _ => True) (v.ask k)) :
    v.SameStanding w := by
  have hsend : (send b d k v).Along World.SameStanding p (fun _ _ => True) v := by
    rw [send_apply]
    refine Run.Along.from (.single (sameStanding_ask v k)) (h.bind fun w s _ => ?_)
    exact .step (.settle w _ s) trivial
  exact World.of_steps (he.post (hsend.ends he)).1

theorem send_granted (hs : m ≠ .startDevice) (hr : m ≠ .removeDevice) (hl : v.Linked (v.stack d))
    (hg : ∀ x ∈ (v.stack d).members, v.Grants m x) :
    (send b d (.pnp m) v).Ends (v.Granted m (v.stack d).members) := by
  have hk := sameStanding_ask v (.pnp m)
  have hl := (World.Passing.ask (b := b) v (.pnp m)).later.linked hl
  have hg (x : DeviceId) (hx : x ∈ (v.stack d).members) : (v.ask (.pnp m)).Grants m x :=
    ⟨(hg x hx).present, (hg x hx).opened, (hg x hx).success⟩
  rw [send_apply]
  refine (deliver_granted hs hr hl (knows_ask v _) hg).bind fun w s hw => ?_
  exact (hw.of_sameStanding hk).then_sameStanding (.settle w _ s)

theorem send_leaving {p : World → Status → Prop} (hs : v.Sane (.free b)) (hd : d < v.devices.size)
    (ho : ¬v.IsClosed d) (hx : v.IsLeaving d) (he : (send b d (.pnp .removeDevice) v).Ends p) :
    (send b d (.pnp .removeDevice) v).Ends fun _ s => s = .success := by
  have hask : World.Passing b v (v.ask (.pnp .removeDevice)) := .ask v _
  have htop := v.top_stack d
  rw [send_apply] at he ⊢
  refine (deliver_leaving (hask.sane hs) (knows_ask v _) (hask.later.linked (hs.linked d hd)) ?_ ?_ he.of_bind).bind
    fun w s h => h
  · rw [htop]; exact ho
  · rw [htop]; exact hx

/-! ## Queries and what may come in between -/

inductive Query where
  | stop
  | remove
  deriving DecidableEq

namespace Query

def ask : Query → Minor
  | stop => .queryStopDevice
  | remove => .queryRemoveDevice

def cancel : Query → Minor
  | stop => .cancelStopDevice
  | remove => .cancelRemoveDevice

def pending : Query → PnpState
  | stop => .stopPending
  | remove => .removePending

def other : Query → Query
  | stop => remove
  | remove => stop

variable (q : Query) {p : PnpState}

theorem query?_ask : q.ask.query? = some (q.pending, q.pending) := by cases q <;> rfl

theorem pending_revocable : q.pending.isRevocable = true := by cases q <;> rfl

theorem answer_cancel (l : Lifecycle) : q.cancel.answer l = (.success, l.takeBack q.pending) := by cases q <;> rfl

theorem takeBack_pending : (⟨q.pending, p⟩ : Lifecycle).takeBack q.pending = ⟨p, p⟩ := if_pos rfl

theorem takeBack_other : (⟨q.pending, p⟩ : Lifecycle).takeBack q.other.pending = ⟨q.pending, p⟩ :=
  if_neg (by cases q <;> nofun)

/-- What a device that has been asked refuses, whatever it remembers, and what it does not refuse. -/
theorem answer_pending (hm : ¬(Kind.pnp m).isStill = true) :
    (∀ p, (m.answer ⟨q.pending, p⟩).1 = .invalidState) ∨
    (m ≠ .startDevice ∧ m ≠ .removeDevice ∧ ∀ p, (m.answer ⟨q.pending, p⟩).1 = .success) ∨
    (q = .remove ∧ m = .removeDevice) := by
  cases q <;> cases m <;> first
    | exact absurd rfl hm
    | exact .inl fun _ => rfl
    | exact .inr (.inr ⟨rfl, rfl⟩)
    | exact .inr (.inl ⟨nofun, nofun, fun _ => rfl⟩)

end Query

namespace World

/-- Some device of `ds` gets a request that does not go on with the query: one that moves nothing, a cancel that is
about the other query, or one that is refused. -/
inductive Interim (b : DriverId) (ds : List DeviceId) (q : Query) (v w : World) : Prop
  | still {x : DeviceId} {k : Kind} {s : Status} (hx : x ∈ ds) (hk : k.isStill = true)
      (h : (send b x k v).EndsIn w s)
  | cancel {x : DeviceId} {s : Status} (hx : x ∈ ds) (h : (send b x (.pnp q.other.cancel) v).EndsIn w s)
  | refused {x : DeviceId} {m : Minor} {s : Status} (hx : x ∈ ds) (h : (send b x (.pnp m) v).EndsIn w s)
      (hs : s ≠ .success)

structure Asked (b : DriverId) (q : Query) (t : Stack) (pre w : World) : Prop where
  sane : w.Sane (.free b)
  later : pre.Later w
  opened : ∀ x ∈ t.members, (w.device x).lock.draining = false
  asked : ∀ x ∈ t.members, (w.device x).lifecycle = ⟨q.pending, (pre.device x).state⟩

namespace Asked

variable {q : Query}

theorem sameStanding (h : Asked b q t pre v) (hs : w.Sane (.free b)) (hl : v.Later w) (hk : v.SameStanding w) :
    Asked b q t pre w where
  sane := hs
  later := h.later.trans hl
  opened x hx := (hk.device x).draining.trans (h.opened x hx)
  asked x hx := (hk.device x).lifecycle.trans (h.asked x hx)

/-- What a waiting device does not refuse, it grants. -/
theorem grants (h : Asked b q t pre v) (hx : x ∈ t.members)
    (hm : ∀ p, (m.answer ⟨q.pending, p⟩).1 = .success) : v.Grants m x where
  present := by
    unfold Device.state
    rw [h.asked x hx]
    cases q <;> nofun
  opened := by rw [h.opened x hx]; nofun
  success := by rw [h.asked x hx]; exact hm _

theorem cancel_granted (h : Asked b q t pre v) (hl : v.Linked (v.stack x)) (hx : (v.stack x).members ⊆ t.members)
    (q' : Query) : (send b x (.pnp q'.cancel) v).Ends (v.Granted q'.cancel (v.stack x).members) := by
  refine send_granted ?_ ?_ hl fun y hy => h.grants (hx hy) fun p => ?_
  · cases q' <;> nofun
  · cases q' <;> nofun
  · rw [Query.answer_cancel]

/-- The other cancel finds nothing to take back. -/
theorem granted (h : Asked b q t pre v) (hg : v.Granted q.other.cancel (v.stack x).members w s)
    (hs : w.Sane (.free b)) (hl : v.Later w) : Asked b q t pre w where
  sane := hs
  later := h.later.trans hl
  opened y hy := (hg.draining y).trans (h.opened y hy)
  asked y hy := by
    by_cases hm : y ∈ (v.stack x).members
    · rw [hg.taken y hm, h.asked y hy, Query.answer_cancel, Query.takeBack_other]
    · rw [hg.others y hm, h.asked y hy]

end Asked

section
variable {q : Query} (hn : pre.Nested) (ht : pre.stack t.top = t) (hlinked : pre.Linked t)
include hn ht hlinked

theorem Asked.interim (h : Asked b q t pre v) (hi : v.Interim b t.members q w) : Asked b q t pre w := by
  have size {x : DeviceId} (hx : x ∈ t.members) : x < v.devices.size :=
    Nat.lt_of_lt_of_le (hlinked.size_of_mem x hx) h.later.devices
  have below {x : DeviceId} (hx : x ∈ t.members) : (v.stack x).members ⊆ t.members := by
    rw [h.later.stack (hlinked.size_of_mem x hx)]
    exact hn.members_subset ht x hx
  have linked {x : DeviceId} (hx : x ∈ t.members) : v.Linked (v.stack x) := h.sane.linked x (size hx)
  have own {x : DeviceId} {k : Kind} {s : Status} (hx : x ∈ t.members) (he : (send b x k v).EndsIn w s) :
      w.Sane (.free b) ∧ v.Later w := he.post (send_own h.sane (size hx) he)
  cases hi with
  | @still x k s hx hk he =>
    obtain ⟨hs, hl⟩ := own hx he
    exact h.sameStanding hs hl (sameStanding_of_endsIn (p := fun _ _ => True) he (deliver_still hk b _ _ _))
  | @cancel x s hx he =>
    obtain ⟨hs, hl⟩ := own hx he
    exact h.granted (he.post (h.cancel_granted (linked hx) (below hx) q.other)) hs hl
  | @refused x m s hx he hne =>
    obtain ⟨hs, hl⟩ := own hx he
    by_cases hk : (Kind.pnp m).isStill = true
    · exact h.sameStanding hs hl (sameStanding_of_endsIn (p := fun _ _ => True) he (deliver_still hk b _ _ _))
    obtain hm | ⟨hstart, hremove, hm⟩ | ⟨rfl, rfl⟩ := q.answer_pending hk
    · refine h.sameStanding hs hl (sameStanding_of_endsIn (p := fun _ _ => True) he (deliver_refused ?_))
      rw [World.top_stack]
      show (m.answer (v.device x).lifecycle).1 = _
      rw [h.asked x hx]
      exact hm _
    · have hg := he.post (send_granted hstart hremove (linked hx) fun y hy => h.grants (below hx hy) hm)
      exact absurd hg.status hne
    · -- the device is on its way out, so a removal would not have been refused
      have ho : ¬v.IsClosed x := by
        unfold World.IsClosed
        rw [h.opened x hx]
        nofun
      have hleaving : v.IsLeaving x := by
        unfold World.IsLeaving Device.state
        rw [h.asked x hx]
        rfl
      exact absurd (he.post (send_leaving h.sane (size hx) ho hleaving he)) hne

theorem Asked.interims (h : Asked b q t pre v) (hi : Relation.ReflTransGen (Interim b t.members q) v w) :
    Asked b q t pre w := by
  induction hi with
  | refl => exact h
  | tail _ hi ih => exact ih.interim hn ht hlinked hi

end

/-- If the stack agrees to the query, all its devices have been asked. -/
theorem asked_of_query (hs : pre.Sane (.free b)) (hd : d < pre.devices.size)
    (hl : ∀ x ∈ (pre.stack d).members, (pre.device x).lock.draining = false) (q : Query) :
    (send b d (.pnp q.ask) pre).Ends fun v s => s = .success → Asked b q (pre.stack d) pre v := by
  have hlinked := (Passing.ask (b := b) pre (.pnp q.ask)).later.linked (hs.linked d hd)
  have hq : (send b d (.pnp q.ask) pre).Ends fun v s => s = .success → ∀ x ∈ (pre.stack d).members,
      (v.device x).lock.draining = false ∧ (v.device x).lifecycle = ⟨q.pending, (pre.device x).state⟩ := by
    rw [send_apply]
    refine (deliver_queried q.query?_ask hlinked (knows_ask pre _)).bind fun w s hw hsucc x hx => ?_
    have hk := (SameStanding.settle w pre.requests.size s).device x
    obtain ⟨es, -, -, he⟩ := hw.entered
    constructor
    · rw [hk.draining, he.device x]
      split <;> exact hl x hx
    · rw [hk.lifecycle]
      show (⟨(w.device x).state, (w.device x).lifecycle.previous⟩ : Lifecycle) = _
      rw [hw.agreed hsucc x hx, hw.remembered hsucc q.pending_revocable x hx]
      rfl
  refine (hq.and (send_own hs hd hq)).imp fun v s ⟨hx, hs, hlater⟩ hsucc => ?_
  exact ⟨hs, hlater, fun x hm => (hx hsucc x hm).1, fun x hm => (hx hsucc x hm).2⟩

end World

/-- Wherever a run has led to, if all devices of a stack take requests and the stack agrees to stop or to be
removed, then after any requests to its devices that move nothing, are refused or cancel the other query, the cancel
succeeds and takes each device back to the state that it was in. These states may differ. -/
theorem cancel_undoes_query (h : Grows R c) (hd : d < c.world.devices.size)
    (hl : ∀ x ∈ (c.world.stack d).members,
      (c.world.device x).state ≠ .deleted ∧ (c.world.device x).lock.draining = false) (q : Query) :
    (send R.driver d (.pnp q.ask) c.world).Ends fun v s => s = .success →
      ∀ w, Relation.ReflTransGen (World.Interim R.driver (c.world.stack d).members q) v w →
        (send R.driver d (.pnp q.cancel) w).Ends fun w' s' => s' = .success ∧
          ∀ x ∈ (c.world.stack d).members, (w'.device x).state = (c.world.device x).state := by
  have hs := h.sound.sane.relax
  refine (World.asked_of_query hs hd (fun x hx => (hl x hx).2) q).imp fun v s hv hsucc w hw => ?_
  have hasked := (hv hsucc).interims h.nested (by rw [World.top_stack]) (hs.linked d hd) hw
  have hstack : w.stack d = c.world.stack d := hasked.later.stack hd
  have hlinked := hasked.sane.linked d (Nat.lt_of_lt_of_le hd hasked.later.devices)
  have hcancel := hasked.cancel_granted hlinked (by rw [hstack]; exact fun _ => id) q
  rw [hstack] at hcancel
  refine hcancel.imp fun w' s' hg => ⟨hg.status, fun x hx => ?_⟩
  unfold Device.state
  rw [hg.taken x hx, hasked.asked x hx, Query.answer_cancel, Query.takeBack_pending]
  rfl

def unevenStack : List Play := [
  .begin (.device (.create "A" "" (some 0))),
  .begin (.device (.attach 0 (some 0))),
  .begin (.request (.send 0 (.pnp .startDevice) (some 0)))]

theorem cancel_undoes_query_of_uneven :
    ∃ c, Grows ⟨0, True, False⟩ c ∧ (c.world.device 1).state = .added ∧ (c.world.device 0).state = .started ∧
      (send 0 1 (.pnp .queryRemoveDevice) c.world).Ends fun v s => s = .success ∧
        (send 0 0 (.pnp .startDevice) v).Ends fun u s => s = .invalidState ∧
          (send 0 1 (.pnp .cancelStopDevice) u).Ends fun w _ =>
            (send 0 1 (.pnp .cancelRemoveDevice) w).Ends fun w' s => s = .success ∧
              (w'.device 1).state = .added ∧ (w'.device 0).state = .started := by
  obtain ⟨c, hc, h⟩ := Reaches.of_play (R := ⟨0, True, False⟩) (l := unevenStack) World.isFresh_initial
    (by simp [unevenStack, Play.IsPermitted, Command.IsPermitted])
    (q := fun c => decide (1 < c.world.devices.size ∧ (c.world.device 1).state = .added ∧
      (c.world.device 0).state = .started ∧ (c.world.stack 1).members = [1, 0] ∧
      (∀ x ∈ (c.world.stack 1).members, (c.world.device x).state ≠ .deleted ∧
        (c.world.device x).lock.draining = false) ∧
      (send 0 1 (.pnp .queryRemoveDevice) c.world).Ends fun v s => s = Status.success ∧
        (send 0 0 (.pnp .startDevice) v).Ends fun u s => s = Status.invalidState ∧
          (send 0 1 (.pnp .cancelStopDevice) u).Ends fun _ _ => True)) (by decide +kernel)
  rw [decide_eq_true_eq] at h
  obtain ⟨hd, h1, h0, hm, hl, hsend⟩ := h
  refine ⟨c, hc.grows, h1, h0, (hsend.and (cancel_undoes_query hc.grows hd hl .remove)).imp ?_⟩
  rintro v s ⟨⟨hs, hstart⟩, hcancel⟩
  refine ⟨hs, hstart.endsIn.imp ?_⟩
  rintro u s' ⟨⟨hs', hother⟩, hu⟩
  refine ⟨hs', hother.endsIn.imp fun w _ hw => ?_⟩
  have hin : Relation.ReflTransGen (World.Interim 0 (c.world.stack 1).members .remove) v w := by
    rw [hm]
    refine (Relation.ReflTransGen.single ?_).tail (.cancel (by decide) hw.2)
    exact .refused (by decide) hu (by rw [hs']; decide)
  refine (hcancel hs w hin).imp fun w' s'' hw' => ⟨hw'.1, ?_, ?_⟩
  · rw [← h1]; exact hw'.2 1 (by rw [hm]; decide)
  · rw [← h0]; exact hw'.2 0 (by rw [hm]; decide)

end PnpBus
