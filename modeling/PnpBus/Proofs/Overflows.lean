import PnpBus.Proofs.Interleaving

/-!
# More references than a lock can count

A lock counts in 32 bits, and taking a reference does not ask whether there is
room for one more. Where nothing bounds a run, a client can take so many that
the count comes round to zero. What is given back after that is refused, so
the count stays wrong when all references are gone.
-/

namespace PnpBus

variable {R : Regime} {b : DriverId} {c : Command} {d : DeviceId} {v w : World} {fs : List Suspended} {n : Nat}

/-! ## Runs that nothing bounds -/

theorem Run.Ends.lands {α : Type} {p : World → Prop} {q : World → α → Prop} (hp : ∀ w, p w) {run : Run α}
    (h : run.Ends q) : ∃ w a, run.Lands p (.done w a) ∧ q w a := by
  induction run with
  | done w a => exact ⟨w, a, .done (hp w), h⟩
  | via w rest ih =>
    obtain ⟨u, a, hl, hq⟩ := ih h
    exact ⟨u, a, .via (hp w) hl, hq⟩
  | wait | halt => exact h.elim

/-- A command that ends has been run. -/
theorem Reaches.ends {q : World → Reply → Prop} (h : Reaches (.free b) ⟨w, fs⟩) (hc : c.IsPermitted b)
    (he : (perform c w).Ends q) : ∃ u a, Reaches (.free b) ⟨u, fs⟩ ∧ q u a := by
  obtain ⟨u, a, hl, hq⟩ := he.lands (p := (Regime.free b).fits) fun _ hb => hb.elim
  obtain ⟨v, hv, ht⟩ := h
  exact ⟨u, a, ⟨v, hv, ht.tail (.begin c hc False.elim hl)⟩, hq⟩

theorem Reaches.tidied (h : Reaches R ⟨w, fs⟩) : Reaches R ⟨{ w with journal := {} }, fs⟩ := by
  obtain ⟨v, hv, ht⟩ := h
  exact ⟨v, hv, ht.tail (.tidy {} w.inHand ⟨nofun, nofun⟩)⟩

def World.played (w : World) (ps : List Play) : World :=
  { (((⟨w, []⟩ : Config).play ps).map (·.world)).getD w with journal := {} }

theorem Reaches.played {ps : List Play} (hw : w.IsFresh R.driver) (hp : ∀ p ∈ ps, p.IsPermitted R)
    (hq : ((⟨w, []⟩ : Config).play ps).any (·.suspended.isEmpty) = true) : Reaches R ⟨w.played ps, []⟩ := by
  obtain ⟨⟨u, gs⟩, hc, hgs⟩ := (Option.any_eq_true _ _).mp hq
  obtain rfl := List.isEmpty_iff.mp hgs
  rw [World.played, hc]
  exact Reaches.tidied ⟨w, hw, Turns.of_play hp hc⟩

/-! ## Taking references -/

def Device.lendMore (v : Device) (n : Nat) : Device := { v with lock.count := v.lock.count + UInt32.ofNat n }

theorem Device.lendMore_zero (v : Device) : v.lendMore 0 = v := by
  rw [lendMore, show UInt32.ofNat 0 = 0 from rfl, UInt32.add_zero]

theorem Device.lendMore_succ (v : Device) (n : Nat) : (v.lendMore n).lendMore 1 = v.lendMore (n + 1) := by
  show Device.mk _ _ _ _ _ (RemoveLock.mk (v.lock.count + UInt32.ofNat n + UInt32.ofNat 1) _ _) = _
  rw [UInt32.add_assoc, ← UInt32.ofNat_add]
  rfl

namespace World

def withTokens (w : World) (ts : List (Option DeviceId)) : World :=
  { w with clients := { w.clients with tokens := ⟨ts⟩ } }

def takeTokens (w : World) (d : DeviceId) (n : Nat) : World :=
  (w.updateDevice d (·.lendMore n)).withTokens (w.clients.tokens.items ++ List.replicate n (some d))

theorem takeTokens_zero (w : World) (d : DeviceId) : w.takeTokens d 0 = w := by
  have hd : w.updateDevice d (·.lendMore 0) = w := by
    rw [updateDevice, Table.modify, funext Device.lendMore_zero]
    exact congrArg (fun items => { w with devices := ⟨items⟩ }) (List.modify_id ..)
  rw [takeTokens, hd, List.replicate_zero, List.append_nil]
  rfl

theorem pushToken_takeTokens (w : World) (d : DeviceId) (n : Nat) :
    (w.takeTokens d n).pushToken d = w.takeTokens d (n + 1) := by
  have hd : ((w.takeTokens d n).pushToken d).devices = w.devices.modify d (·.lendMore (n + 1)) := by
    refine (Table.modify_congr (w.takeTokens d n).devices d (g := (·.lendMore 1)) rfl).trans ?_
    show Table.mk ((w.devices.items.modify d (·.lendMore n)).modify d (·.lendMore 1)) = _
    rw [List.modify_modify_eq]
    exact congrArg Table.mk (congrArg (w.devices.items.modify d) (funext fun v => v.lendMore_succ n))
  have ht : ((w.takeTokens d n).pushToken d).clients.tokens =
      ⟨w.clients.tokens.items ++ List.replicate (n + 1) (some d)⟩ := by
    rw [List.replicate_succ', ← List.append_assoc]
    rfl
  have h : (w.takeTokens d n).pushToken d =
    { w with
      devices := ((w.takeTokens d n).pushToken d).devices
      clients := { w.clients with tokens := ((w.takeTokens d n).pushToken d).clients.tokens } } := rfl
  rw [h, hd, ht]
  rfl

theorem draining_takeTokens (w : World) (d : DeviceId) (n : Nat) :
    ((w.takeTokens d n).device d).lock.draining = (w.device d).lock.draining := by
  show ((w.devices.modify d _).get d).lock.draining = _
  rw [Table.get_modify]
  split <;> rfl

theorem isKnown_takeTokens (w : World) (d : DeviceId) (n : Nat) : (w.takeTokens d n).isKnown d = w.isKnown d := by
  show (decide (d < (w.devices.modify d _).size) && _) = _
  rw [Table.size_modify]
  rfl

end World

/-- Nothing keeps a client from taking one reference more. -/
theorem Reaches.takeTokens (h : Reaches (.free b) ⟨w, fs⟩) (hk : w.isKnown d = true)
    (ho : (w.device d).lock.draining = false) (n : Nat) : Reaches (.free b) ⟨w.takeTokens d n, fs⟩ := by
  induction n with
  | zero => rwa [World.takeTokens_zero]
  | succ n ih =>
    have hopen : ¬(w.takeTokens d n).IsClosed d := by
      rw [World.IsClosed, World.draining_takeTokens, ho]
      exact Bool.false_ne_true
    have he : (perform (.device (.acquire d)) (w.takeTokens d n)).Ends fun u _ => u = w.takeTokens d (n + 1) := by
      show (((needDevice d) (w.takeTokens d n)).bind _).Ends _
      rw [needDevice_apply, World.isKnown_takeTokens, hk, if_pos rfl]
      show Run.Ends _ (Run.bind (.done ((w.takeTokens d n).after (acquireToken d).run) _) _)
      rw [World.after, acquireToken_open hopen]
      exact World.pushToken_takeTokens w d n
    obtain ⟨u, a, hu, rfl⟩ := ih.ends (c := .device (.acquire d)) trivial he
    exact hu

/-! ## Giving them back -/

section
variable {ts us : List (Option DeviceId)}

theorem World.after_dropToken (hz : (w.device d).lock.count = 0) :
    (w.withTokens (ts ++ some d :: us)).after (PnpBus.dropToken ts.length) =
      (w.withTokens (ts ++ none :: us)).note .surplusRelease := by
  have hget : (w.withTokens (ts ++ some d :: us)).clients.tokens.get ts.length = some d := by
    simp [withTokens, Table.get]
  have hmodify : (ts ++ some d :: us).modify ts.length (fun _ => none) = ts ++ none :: us := by
    rw [List.modify_eq_take_drop]
    simp
  have hdrop : (w.withTokens (ts ++ some d :: us)).after (PnpBus.dropToken ts.length) =
      ((w.withTokens (ts ++ some d :: us)).updateClients fun c =>
        { c with tokens := c.tokens.modify ts.length fun _ => none }).after (releaseLock (.device d)) := by
    simp only [after, PnpBus.dropToken, Act.bind_apply, Act.get_apply]
    rw [hget]
    rfl
  have hrelease : ((w.withTokens (ts ++ some d :: us)).updateClients fun c =>
      { c with tokens := c.tokens.modify ts.length fun _ => none }) = w.withTokens (ts ++ none :: us) := by
    rw [← hmodify]; rfl
  rw [hdrop, hrelease, after_releaseLock]
  have hl : ((w.withTokens (ts ++ none :: us)).lock (.device d)).release? = none :=
    RemoveLock.release?_eq_none.mpr hz
  rw [hl]

/-- A reference is given back that the lock does not count. -/
theorem Reaches.dropToken (h : Reaches (.free b) ⟨w.withTokens (ts ++ some d :: us), fs⟩)
    (hz : (w.device d).lock.count = 0) (hj : w.journal = {}) :
    Reaches (.free b) ⟨w.withTokens (ts ++ none :: us), fs⟩ := by
  have hlt : ts.length < (w.withTokens (ts ++ some d :: us)).clients.tokens.size := by
    simp [World.withTokens, Table.size]
  have he : (perform (.device (.dropToken ts.length)) (w.withTokens (ts ++ some d :: us))).Ends fun u _ =>
      u = (w.withTokens (ts ++ none :: us)).note .surplusRelease := by
    have hensure : ensure (ts.length < (w.withTokens (ts ++ some d :: us)).clients.tokens.size) =
        (pure () : Call Unit) := if_pos (decide_eq_true hlt)
    show (((ensure (ts.length < (w.withTokens (ts ++ some d :: us)).clients.tokens.size))
      (w.withTokens (ts ++ some d :: us))).bind _).Ends _
    rw [hensure]
    exact World.after_dropToken hz
  obtain ⟨u, a, hu, rfl⟩ := h.ends (c := .device (.dropToken ts.length)) trivial he
  have hu := hu.tidied
  rwa [show ({ (w.withTokens (ts ++ none :: us)).note .surplusRelease with journal := {} } : World) =
    w.withTokens (ts ++ none :: us) by rw [← hj]; rfl] at hu

theorem Reaches.dropTokens (hz : (w.device d).lock.count = 0) (hj : w.journal = {}) : ∀ {n : Nat}
    {ts : List (Option DeviceId)}, Reaches (.free b) ⟨w.withTokens (ts ++ List.replicate n (some d)), fs⟩ →
    Reaches (.free b) ⟨w.withTokens (ts ++ List.replicate n none), fs⟩
  | 0, _, h => h
  | n + 1, ts, h => by
    have hrest : Reaches (.free b) ⟨w.withTokens (ts ++ none :: List.replicate n (some d)), fs⟩ := h.dropToken hz hj
    rw [List.append_cons] at hrest
    rw [List.replicate_succ, List.append_cons]
    exact hrest.dropTokens hz hj

end

/-- Clients have taken so many references to device `d` that the count came round to zero, and given them back. -/
def World.giveUpTokens (w : World) (d : DeviceId) (n : Nat) : World :=
  (w.takeTokens d n).withTokens (w.clients.tokens.items ++ List.replicate n none)

theorem Reaches.giveUpTokens (h : Reaches (.free b) ⟨w, fs⟩) (hk : w.isKnown d = true)
    (ho : (w.device d).lock.draining = false) (hj : w.journal = {})
    (hn : (w.device d).lock.count + UInt32.ofNat n = 0) :
    Reaches (.free b) ⟨w.giveUpTokens d n, fs⟩ := by
  have hd : d < w.devices.size := by
    rw [World.isKnown, Bool.and_eq_true] at hk
    exact of_decide_eq_true hk.1
  have hz : ((w.takeTokens d n).device d).lock.count = 0 := by
    show ((w.updateDevice d (·.lendMore n)).device d).lock.count = 0
    rw [World.device_updateDevice, if_pos ⟨rfl, hd⟩]
    exact hn
  exact (h.takeTokens hk ho n).dropTokens hz hj

theorem World.tokensOn_takeTokens (w : World) (d : DeviceId) (n : Nat) :
    (w.takeTokens d n).tokensOn d = w.tokensOn d + n := by
  show _ + Table.sum ⟨w.clients.tokens.items ++ List.replicate n (some d)⟩ _ = _
  rw [Table.sum_append, Table.sum_replicate, Option.toList_some, List.count_singleton_self, Nat.mul_one,
    ← Nat.add_assoc]
  rfl

theorem World.tokensOn_giveUpTokens (w : World) (d x : DeviceId) (n : Nat) :
    (w.giveUpTokens d n).tokensOn x = w.tokensOn x := by
  show _ + Table.sum ⟨w.clients.tokens.items ++ List.replicate n none⟩ _ = _
  rw [Table.sum_append, Table.sum_replicate]
  rfl

/-- One physical device, to which clients have `n` references. -/
def World.crowded (n : Nat) : World :=
  (World.initial.played [.begin (.device (.create "A" "" (some 0)))]).takeTokens 0 n

theorem World.reaches_crowded (n : Nat) : Reaches (.free 0) ⟨.crowded n, []⟩ := by
  have h : Reaches (.free 0) ⟨World.initial.played [.begin (.device (.create "A" "" (some 0)))], []⟩ :=
    .played World.isFresh_initial (by simp [Play.IsPermitted, Command.IsPermitted, Regime.free]) (by decide +kernel)
  exact h.takeTokens (by decide +kernel) (by decide +kernel) n

theorem World.tokensOn_crowded (n : Nat) : (World.crowded n).tokensOn 0 = n := by
  have h : (World.initial.played [.begin (.device (.create "A" "" (some 0)))]).tokensOn 0 = 0 := by decide +kernel
  rw [crowded, tokensOn_takeTokens, h, Nat.zero_add]

end PnpBus
