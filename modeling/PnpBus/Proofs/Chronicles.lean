import PnpBus.Proofs.Births
import PnpBus.Proofs.WholeRuns

/-!
# Runs that are recounted

A chronicle tells which commands began in a run, where each of them was when
it landed, and with which answer. Meanwhile the configuration of the driver
may become another one. What the driver has handed out can be read off the
chronicle: it hands out one active device at most.
-/

namespace PnpBus

variable {R : Regime} {K : DeviceId → Prop} {u v w : World} {b : DriverId} {d f : DeviceId} {l l' : Logbook}

/-! ## Events -/

/-- A command that began, and where it landed. -/
structure Event where
  command : Command
  before : World
  landed : Run Reply

namespace Event

/-- The functional device that an attachment has handed out. -/
def attached? (e : Event) : Option DeviceId :=
  match e.command, e.landed with
  | .device (.attach _ _), .done _ (.device (.ok f)) => f
  | _, _ => none

def adopted? (e : Event) (f : DeviceId) : Option DeviceId :=
  match e.command, e.landed with
  | .device (.addChild x _ _ _), .done _ (.device (.ok c)) => if x = f then c else none
  | _, _ => none

/-- An active device was handed out. -/
def activates (e : Event) : Bool := e.attached?.any fun f => (e.landed.world.device f).layer?.any (·.active)

/-- A device was to be attached that the configuration names. -/
def isNamed (b : DriverId) (e : Event) : Bool :=
  match e.command with
  | .device (.attach d _) => e.before.selects b d
  | _ => false

/-- Nothing was attached, and no child added. -/
def IsRefused (e : Event) : Prop :=
  match e.command with
  | .device (.attach _ _) => ∃ w, e.landed = .done w (.device (.ok none))
  | .device (.addChild _ _ _ _) => ∃ w s, e.landed = .done w (.device (.error s))
  | _ => True

/-- A removal was sent to the stack that `f` is on top of. -/
def Removes (e : Event) (f : DeviceId) : Prop :=
  ∃ x ∈ e.command.sent e.before, x.2 = .pnp .removeDevice ∧ x.1.top = f

instance (e : Event) (f : DeviceId) : Decidable (e.Removes f) :=
  inferInstanceAs (Decidable (∃ x ∈ e.command.sent e.before, x.2 = .pnp .removeDevice ∧ x.1.top = f))

inductive Does (b : DriverId) (K : DeviceId → Prop) : Event → Prop
  | ages {c : Command} {v : World} {run : Run Reply} (hc : ¬c.Creates) (hw : v.Ages K run.world) :
      Does b K ⟨c, v, run⟩
  | notCreated {deviceId instanceId : String} {v w : World} {e : Status} (hw : v.Calm w) :
      Does b K ⟨.device (.create deviceId instanceId (some b)), v, .done w (.device (.error e))⟩
  | created {deviceId instanceId : String} {v w : World} (identity : Identity)
      (hw : (v.enroll b identity (.physical none)).Calm w) :
      Does b K ⟨.device (.create deviceId instanceId (some b)), v, .done w (.device (.ok (some v.devices.size)))⟩
  | attaches {d : DeviceId} {v w : World} {x : Except Status (Option DeviceId)} (hx : v.Attached b d w x) :
      Does b K ⟨.device (.attach d (some b)), v, .done w (.device x)⟩
  | notAdopted {f : DeviceId} {deviceId instanceId : String} {v w : World} {e : Status} (hw : v.Calm w) :
      Does b K ⟨.device (.addChild f deviceId instanceId (some b)), v, .done w (.device (.error e))⟩
  | adopted {f : DeviceId} {deviceId instanceId : String} {v w : World} (identity : Identity) {layer : Layer}
      (hl : (v.device f).layer? = some layer) (ha : layer.active = true) (hw : (v.adopt f b identity).Calm w) :
      Does b K ⟨.device (.addChild f deviceId instanceId (some b)), v,
        .done w (.device (.ok (some v.devices.size)))⟩

/-- Whatever is left of the command, too, ages what others leave to it. -/
theorem does {c : Command} {fit : World → Prop} {run : Run Reply} (hc : c.IsPermitted b)
    (hl : (perform c v).Lands fit run) (hs : World.Spared K (c.sent v)) (hv : v.Unlisted K) :
    Does b K ⟨c, v, run⟩ ∧ ∀ f ∈ Suspended.ofRun (c.sent v) run, f.Ages K := by
  by_cases hcr : c.Creates
  case neg =>
    obtain ⟨hw, hf⟩ := (perform_ages hc hcr hs hv).landed hl (c.sent v)
    exact ⟨.ages hcr hw, hf⟩
  have ended {w : World} {a : Reply} (h : Does b K ⟨c, v, .done w a⟩) :
      Does b K ⟨c, v, .done w a⟩ ∧ ∀ f ∈ Suspended.ofRun (c.sent v) (.done w a), f.Ages K :=
    ⟨h, fun _ hf => absurd hf List.not_mem_nil⟩
  cases c with
  | device c =>
    cases c with
    | create deviceId instanceId x =>
      cases hc
      obtain ⟨w, a, rfl, ⟨hw, e, rfl⟩ | ⟨identity, rfl, hw⟩⟩ := (perform_create deviceId instanceId v).lands hl
      · exact ended (.notCreated hw)
      · exact ended (.created identity hw)
    | attach d x =>
      cases hc
      obtain ⟨w, a, rfl, x, rfl, hx⟩ := (perform_attach d v).lands hl
      exact ended (.attaches hx)
    | addChild f deviceId instanceId x =>
      cases hc
      obtain ⟨w, a, rfl, ⟨hw, e, rfl⟩ | ⟨identity, layer, rfl, hlayer, ha, hw⟩⟩ :=
        (perform_addChild f deviceId instanceId v).lands hl
      · exact ended (.notAdopted hw)
      · exact ended (.adopted identity hlayer ha hw)
    | _ => exact hcr.elim
  | _ => exact hcr.elim

end Event

/-! ## The claim to the active device -/

section
variable (w : World) (d : DeviceId) (matched : Bool)

theorem World.standing_enroll (b : DriverId) (identity : Identity) (extension : Extension) :
    ((w.enroll b identity extension).driver b).mode = (w.driver b).mode ∧
      ((w.enroll b identity extension).driver b).activeClaimed = (w.driver b).activeClaimed := by
  unfold World.enroll
  rw [World.driver_updateDriver]
  split <;> exact ⟨rfl, rfl⟩

theorem World.standing_overlay (hb : b < w.drivers.size) :
    ((w.overlay b d matched).driver b).mode = (w.driver b).mode ∧
      ((w.overlay b d matched).driver b).activeClaimed = (matched || (w.driver b).activeClaimed) := by
  unfold World.overlay
  rw [(World.standing_enroll ..).1, (World.standing_enroll ..).2]
  cases matched with
  | true => rw [if_pos rfl, World.driver_setClaim, if_pos ⟨rfl, hb⟩]; exact ⟨rfl, rfl⟩
  | false => exact ⟨rfl, rfl⟩

theorem World.active_overlay :
    ((w.overlay b d matched).device w.devices.size).layer?.any (·.active) =
    (matched && !(w.driver b).activeClaimed) := by
  have hs : (if matched then w.after (setClaim b true) else w).devices.size = w.devices.size := by split <;> rfl
  unfold World.overlay
  rw [World.device_enroll, if_pos hs.symm]
  rfl

end

theorem World.standing_attached {matched : Bool} (hb : b < v.drivers.size) (hu : v.Calm u)
    (hw : (u.overlay b d matched).Calm w) :
    (w.driver b).mode = (v.driver b).mode ∧
      (w.driver b).activeClaimed = (matched || (v.driver b).activeClaimed) := by
  have ho := World.standing_overlay u d matched (Nat.lt_of_lt_of_eq hb hu.drivers.symm)
  rw [(hw.standing b).1, ho.1, (hu.standing b).1, (hw.standing b).2, ho.2, (hu.standing b).2]
  exact ⟨rfl, rfl⟩

namespace Event

variable {e : Event}

theorem creates_of_attached? (h : e.attached? = some f) : e.command.Creates := by
  unfold attached? at h
  split at h
  next hc _ => rw [hc]; trivial
  next => cases h

theorem activates_of_not_creates (h : ¬e.command.Creates) : e.activates = false := by
  unfold activates
  cases hf : e.attached? with
  | none => rfl
  | some f => exact absurd (creates_of_attached? hf) h

/-- An active device is handed out if the configuration names it and the claim was free. -/
theorem activates_attached {x : Option DriverId} {u : World} (hu : v.Calm u)
    (hw : (u.overlay b d (v.selects b d)).Calm w) :
    (⟨.device (.attach d x), v, .done w (.device (.ok (some v.devices.size)))⟩ : Event).activates =
      (v.selects b d && !(v.driver b).activeClaimed) := by
  show (w.device v.devices.size).layer?.any (·.active) = _
  rw [Device.any_active_eq_of_shape (hw.device _).shape, ← hu.size, World.active_overlay, (hu.standing b).2]

namespace Does

/-- The claim is taken just when an active device is handed out. -/
theorem standing (h : e.Does b K) (hb : b < e.before.drivers.size) :
    (e.landed.world.driver b).mode = (e.before.driver b).mode ∧
      (e.landed.world.driver b).activeClaimed.toNat =
      (e.before.driver b).activeClaimed.toNat + e.activates.toNat := by
  have kept {u : World} (hw : ∀ x, (e.landed.world.driver x).mode = (u.driver x).mode ∧
      (e.landed.world.driver x).activeClaimed = (u.driver x).activeClaimed)
      (hu : (u.driver b).mode = (e.before.driver b).mode ∧
        (u.driver b).activeClaimed = (e.before.driver b).activeClaimed) (ha : e.activates = false) :
      (e.landed.world.driver b).mode = (e.before.driver b).mode ∧
        (e.landed.world.driver b).activeClaimed.toNat =
          (e.before.driver b).activeClaimed.toNat + e.activates.toNat := by
    rw [(hw b).1, (hw b).2, hu.1, hu.2, ha]
    exact ⟨rfl, rfl⟩
  cases h with
  | ages hc hw => exact kept hw.standing ⟨rfl, rfl⟩ (activates_of_not_creates hc)
  | notCreated hw => exact kept hw.standing ⟨rfl, rfl⟩ rfl
  | created identity hw => exact kept hw.standing (World.standing_enroll ..) rfl
  | @attaches d v w x hx =>
    cases hx with
    | declined hm hw => exact kept hw.standing ⟨rfl, rfl⟩ rfl
    | failed hm hw => exact kept hw.standing ⟨rfl, rfl⟩ rfl
    | @attached u w hm hp hu hw =>
      obtain ⟨hmode, hclaim⟩ := World.standing_attached hb hu hw
      refine ⟨hmode, ?_⟩
      rw [activates_attached hu hw]
      refine (congrArg Bool.toNat hclaim).trans ?_
      generalize v.selects b d = matched
      cases matched <;> cases (v.driver b).activeClaimed <;> rfl
  | notAdopted hw => exact kept hw.standing ⟨rfl, rfl⟩ rfl
  | adopted identity hl ha hw => exact kept hw.standing (World.standing_enroll ..) rfl

theorem named (h : e.Does b K) (hn : e.isNamed b = true) (ha : e.attached?.isSome) :
    e.activates = !(e.before.driver b).activeClaimed := by
  cases h with
  | ages hc hw => exact absurd (creates_of_attached? (Option.some_get ha).symm) hc
  | @attaches d v w x hx =>
    have hs : v.selects b d = true := hn
    cases hx with
    | declined hm hw => cases ha
    | failed hm hw => cases ha
    | attached hm hp hu hw => rw [activates_attached hu hw, hs, Bool.true_and]
  | _ => cases hn

/-- Where the driver attaches nothing, there are no functional devices that could have children. -/
theorem refused (h : e.Does b K) (hm : (e.before.driver b).mode ≠ .operational)
    (hp : ∀ d, (e.before.device d).role = .physical) :
    (∀ d, (e.landed.world.device d).role = .physical) ∧ e.IsRefused := by
  have still {K : DeviceId → Prop} {u w : World} (hw : u.Ages K w) (hu : ∀ d, (u.device d).role = .physical)
      (d : DeviceId) :
      (w.device d).role = .physical := (Device.role_eq_of_shape (hw.device d).shape).trans (hu d)
  cases h with
  | @ages c v run hc hw =>
    refine ⟨still hw hp, ?_⟩
    unfold IsRefused
    split
    next hc' => cases hc'; exact absurd trivial hc
    next hc' => cases hc'; exact absurd trivial hc
    next => trivial
  | notCreated hw => exact ⟨still hw hp, trivial⟩
  | created identity hw =>
    refine ⟨still hw fun d => ?_, trivial⟩
    rw [World.device_enroll]
    split
    · rfl
    · exact hp d
  | attaches hx =>
    cases hx with
    | declined hm hw => exact ⟨still hw hp, _, rfl⟩
    | failed hm' hw => exact absurd hm' hm
    | attached hm' hp hu hw => exact absurd hm' hm
  | notAdopted hw => exact ⟨still hw hp, _, _, rfl⟩
  | @adopted f _ _ v w identity layer hl ha hw =>
    have hf : (v.device f).role = .physical := hp f
    unfold Device.role at hf
    unfold Device.layer? at hl
    cases he : (v.device f).extension <;> rw [he] at hf hl <;> cases hl
    cases hf

end Does

end Event

/-! ## Layers in a chronicle

Clients that only attach devices build no stacks of their own. -/

namespace World

def Shallow (w : World) : Prop := ∀ d t, (w.device d).layer?.map (·.lower) = some t → ∃ p, t = .physical p

theorem Ages.shallow (h : v.Ages K w) (hv : v.Shallow) : w.Shallow := fun d t ht =>
  hv d t (Device.map_lower_eq_of_shape (h.device d).shape ▸ ht)

theorem Shallow.enroll (h : w.Shallow) (b : DriverId) (identity : Identity) {extension : Extension}
    (he : ∀ layer, extension = .functional layer → ∃ p, layer.lower = .physical p) :
    (w.enroll b identity extension).Shallow := by
  intro d t ht
  rw [device_enroll] at ht
  split at ht
  · cases extension with
    | physical parent => cases ht
    | functional layer => exact Option.some.inj ht ▸ he layer rfl
  · exact h d t ht

theorem Shallow.adopt (h : w.Shallow) (f : DeviceId) (b : DriverId) (identity : Identity) :
    (w.adopt f b identity).Shallow := by
  intro d t ht
  unfold World.adopt at ht
  rw [device_updateDevice] at ht
  have hs : (w.enroll b identity (.physical (some f))).Shallow := h.enroll b identity nofun
  refine hs d t ?_
  split at ht
  next hd =>
    rw [Device.layer?_updateLayer, Option.map_map] at ht
    rw [hd.1]
    exact ht
  next => exact ht

theorem Shallow.overlay (h : w.Shallow) (b : DriverId) (d : DeviceId) (matched : Bool) :
    (w.overlay b d matched).Shallow := by
  refine Shallow.enroll ?_ _ _ fun layer hl => ⟨d, ?_⟩
  · split <;> exact h
  · cases hl; rfl

theorem Shallow.stack (h : w.Shallow) (d : DeviceId) :
    w.stack d = .physical d ∨ ∃ p, w.stack d = .functional d (.physical p) := by
  have ht := h d
  unfold Device.layer? at ht
  unfold World.stack
  cases he : (w.device d).extension with
  | physical parent => exact .inl rfl
  | functional layer =>
    rw [he] at ht
    obtain ⟨p, hp⟩ := ht layer.lower rfl
    exact .inr ⟨p, congrArg _ hp⟩

/-- A functional device is in no stack but its own. -/
theorem Shallow.eq_of_mem (h : w.Shallow) (hw : w.Sane R) {x : DeviceId} (hx : x ∈ (w.stack d).members)
    (hf : x < w.devices.size → (w.device x).role = .functional) : x = d := by
  rcases h.stack d with hs | ⟨p, hs⟩
  · rw [hs] at hx
    exact List.mem_singleton.mp hx
  · have hd : d < w.devices.size := by
      refine Nat.lt_of_not_le fun hd => ?_
      rw [World.stack, device_of_size_le hd] at hs
      cases hs
    have hl := hw.linked d hd
    rw [hs] at hx hl
    refine (List.mem_cons.mp hx).resolve_right fun hx => ?_
    cases List.mem_singleton.mp hx
    obtain ⟨-, -, -, hp, hrole⟩ := hl
    rw [hf hp] at hrole
    cases hrole

end World

theorem Event.Does.shallow {e : Event} (h : e.Does b K) (hv : e.before.Shallow) : e.landed.world.Shallow := by
  cases h with
  | ages hc hw => exact hw.shallow hv
  | notCreated hw => exact hw.shallow hv
  | created identity hw => exact hw.shallow (World.Shallow.enroll hv _ _ nofun)
  | attaches hx =>
    cases hx with
    | declined hm hw => exact hw.shallow hv
    | failed hm hw => exact hw.shallow hv
    | attached hm hp hu hw => exact hw.shallow (World.Shallow.overlay (hu.shallow hv) _ _ _)
  | notAdopted hw => exact hw.shallow hv
  | adopted identity hl ha hw => exact hw.shallow (World.Shallow.adopt hv _ _ _)

/-! ## Chronicles -/

/-- The chronicle of a run that has led to the logbook. -/
inductive Chronicle (R : Regime) : Logbook → List Event → Prop
  | fresh {w : World} (hw : w.IsFresh R.driver) (hc : (w.driver R.driver).activeClaimed = false) :
      Chronicle R ⟨w, [], [], [], []⟩ []
  | begin {l : Logbook} {es : List Event} {run : Run Reply} (h : Chronicle R l es) (c : Command)
      (hc : c.IsPermitted R.driver) (hs : R.sparing → ∀ f ∈ l.config.suspended, f.IsSpared (c.sent l.world))
      (hl : (perform c l.world).Lands R.fits run) :
      Chronicle R (l.carry (c.carries l.world) (c.sent l.world) run) (es ++ [⟨c, l.world, run⟩])
  | goOn {l l' : Logbook} {es : List Event} (h : Chronicle R l es) (he : Entry R none l l') : Chronicle R l' es
  /-- The configuration becomes another one, whatever it was. -/
  | configure {l : Logbook} {es : List Event} (h : Chronicle R l es) (store : Store) :
      Chronicle R { l with world := { l.world with store } } es

theorem Chronicle.sound {es : List Event} (h : Chronicle R l es) : l.config.Sound R := by
  induction h with
  | fresh hw hc => exact hw.sound
  | begin h c hc hs hl ih => exact (Entry.begin c hc hs hl).turn.sound ih
  | goOn h he ih => exact he.turn.sound ih
  | configure h store ih => exact ih.smooth (.agrees ⟨rfl, rfl, rfl, rfl, rfl, rfl, Nat.le_refl _, rfl, id⟩)

theorem Logbook.mem_errands_carry {request : Option RequestId} {sent : Option (Stack × Kind)} {run : Run Reply}
    {e : Errand} (he : e ∈ (l.carry request sent run).errands) : e.task ∈ Suspended.ofRun sent run ∨
    e ∈ l.errands := by
  refine (List.mem_append.mp he).imp_left fun he => ?_
  obtain ⟨f, hf, rfl⟩ := List.mem_map.mp he
  exact hf

theorem Command.exists_stack {c : Command} {t : Stack} {k : Kind} (h : c.sent w = some (t, k)) :
    ∃ d, t = w.stack d := by
  cases c with
  | request c =>
    cases c with
    | send d k b => cases h; exact ⟨d, rfl⟩
    | resend n d b =>
      obtain ⟨r, -, hr⟩ := Option.map_eq_some_iff.mp h
      cases hr
      exact ⟨d, rfl⟩
    | _ => cases h
  | _ => cases h

theorem World.Later.functional (h : v.Later w)
    (hK : ∀ f, K f → f < w.devices.size → (w.device f).role = .functional) (f : DeviceId) (hf : K f)
    (hs : f < v.devices.size) : (v.device f).role = .functional :=
  (h.device f hs).role ▸ hK f hf (Nat.lt_of_lt_of_le hs h.devices)

/-- What holds to begin with and is kept by everything that happens holds of every chronicle, if all of `K` are
functional devices that no removal was sent to. -/
theorem Chronicle.induct {P : World → List Event → Prop} {es : List Event} (h : Chronicle R l es)
    (hK : ∀ f, K f → f < l.world.devices.size → (l.world.device f).role = .functional)
    (hn : ∀ e ∈ es, ∀ f, K f → ¬e.Removes f)
    (fresh : ∀ w : World, w.IsFresh R.driver → (w.driver R.driver).activeClaimed = false → P w [])
    (does : ∀ {e : Event} {es}, e.before.Sane R → e.Does R.driver K → P e.before es → P e.landed.world (es ++ [e]))
    (ages : ∀ {v w : World} {es}, w.Sane R → v.Ages K w → P v es → P w es) : P l.world es := by
  suffices (∀ e ∈ l.errands, e.task.Ages K) ∧ l.world.Shallow ∧ P l.world es from this.2.2
  induction h with
  | @fresh w hw hc =>
    refine ⟨nofun, fun d t ht => ?_, fresh w hw hc⟩
    rw [hw.device] at ht
    cases ht
  | @begin l es run h c hc hs hl ih =>
    have hsane := h.sound.sane
    have hlater := ((Entry.begin c hc hs hl).turn.fair h.sound.toFair).2.later
    have hK' := hlater.functional hK
    obtain ⟨ha, hshallow, hP⟩ := ih hK' fun e he => hn e (List.mem_append_left _ he)
    have hspared : World.Spared K (c.sent l.world) := by
      intro t ht x hx hf
      obtain ⟨d, rfl⟩ := Command.exists_stack ht
      have hxd := hshallow.eq_of_mem hsane hx (hK' x hf)
      refine hn _ (List.mem_append_right es List.mem_cons_self) x hf ⟨_, ht, rfl, ?_⟩
      rw [World.top_stack, hxd]
    obtain ⟨hdoes, hf⟩ := Event.does hc hl hspared (hsane.unlisted hK')
    refine ⟨fun e he => ?_, hdoes.shallow hshallow, does hsane hdoes hP⟩
    exact (Logbook.mem_errands_carry he).elim (hf _) (ha e)
  | goOn h he ih =>
    have hturn := he.turn
    have hsane := h.sound.sane
    have hK' := (hturn.fair h.sound.toFair).2.later.functional hK
    obtain ⟨ha, hshallow, hP⟩ := ih hK' hn
    obtain ⟨hw, hf⟩ := he.ages (fun _ hc => nomatch hc) (hsane.unlisted hK') ha
    exact ⟨hf, hw.shallow hshallow, ages (hturn.sound h.sound).sane hw hP⟩
  | @configure l es h store ih =>
    obtain ⟨ha, hshallow, hP⟩ := ih hK hn
    exact ⟨ha, hshallow, ages (v := l.world) (w := { l.world with store }) (h.configure store).sound.sane
      (.of_devices rfl rfl fun _ => ⟨rfl, rfl⟩) hP⟩

/-! ## Playing a run that is recounted -/

inductive Scene where
  | play (p : Play)
  | configure (store : Store)

namespace Logbook

def enact (l : Logbook) : Scene → Option (Logbook × List Event)
  | .play (.begin c) => (perform c l.world).land.map fun run =>
    (l.carry (c.carries l.world) (c.sent l.world) run, [⟨c, l.world, run⟩])
  | .play .resume => (l.playOne .resume).map (·, [])
  | .configure store => some ({ l with world := { l.world with store } }, [])

def enactAll (l : Logbook) : List Scene → Option (Logbook × List Event)
  | [] => some (l, [])
  | s :: ss => (l.enact s).bind fun (l, es) => (l.enactAll ss).map fun (l, es') => (l, es ++ es')

end Logbook

def Scene.IsPermitted (R : Regime) : Scene → Prop
  | .play p => p.IsPermitted R
  | .configure _ => True

section
variable {es es' : List Event}

theorem Chronicle.enact {s : Scene} (h : Chronicle R l es) (hs : s.IsPermitted R)
    (he : l.enact s = some (l', es')) :
    Chronicle R l' (es ++ es') := by
  cases s with
  | play p =>
    cases p with
    | begin c =>
      obtain ⟨run, hrun, he⟩ := Option.map_eq_some_iff.mp he
      cases he
      exact h.begin c hs.1 (fun hsp f _ => (hs.2 hsp).spares _ f) (Run.lands_land hrun)
    | resume =>
      obtain ⟨l', hl, he⟩ := Option.map_eq_some_iff.mp he
      cases he
      rw [List.append_nil]
      exact h.goOn (Entry.of_playOne (p := .resume) trivial hl)
  | configure store =>
    cases he
    rw [List.append_nil]
    exact h.configure store

theorem Chronicle.enactAll : ∀ {ss : List Scene} {l : Logbook} {es es' : List Event}, Chronicle R l es →
    (∀ s ∈ ss, s.IsPermitted R) → l.enactAll ss = some (l', es') → Chronicle R l' (es ++ es')
  | [], l, es, es', h, _, he => by
    cases he
    rwa [List.append_nil]
  | s :: ss, l, es, es', h, hs, he => by
    obtain ⟨⟨l₁, es₁⟩, h₁, he⟩ := Option.bind_eq_some_iff.mp he
    obtain ⟨⟨l₂, es₂⟩, h₂, he⟩ := Option.map_eq_some_iff.mp he
    cases he
    rw [← List.append_assoc]
    exact (h.enact (hs s List.mem_cons_self) h₁).enactAll (fun s hm => hs s (List.mem_cons_of_mem _ hm)) h₂

theorem Chronicle.of_enact {s : List Scene} {q : Logbook × List Event → Bool} (hw : w.IsFresh R.driver)
    (hc : (w.driver R.driver).activeClaimed = false) (hs : ∀ x ∈ s, x.IsPermitted R)
    (hq : ((⟨w, [], [], [], []⟩ : Logbook).enactAll s).any q = true) :
    ∃ l es, Chronicle R l es ∧ q (l, es) = true := by
  obtain ⟨⟨l, es⟩, he, hq⟩ := (Option.any_eq_true _ _).mp hq
  exact ⟨l, es, (Chronicle.fresh hw hc).enactAll hs he, hq⟩

end

/-! ## One active device -/

section
variable {es : List Event}

/-- What every chronicle keeps, whatever devices come and go. -/
theorem Chronicle.induct_any {P : World → List Event → Prop} (h : Chronicle R l es)
    (fresh : ∀ w : World, w.IsFresh R.driver → (w.driver R.driver).activeClaimed = false → P w [])
    (does : ∀ {e : Event} {es}, e.before.Sane R → e.Does R.driver (fun _ => False) → P e.before es →
      P e.landed.world (es ++ [e]))
    (ages : ∀ {v w : World} {es}, w.Sane R → v.Ages (fun _ => False) w → P v es → P w es) : P l.world es :=
  h.induct (fun _ hf => hf.elim) (fun _ _ _ hf => hf.elim) fresh does ages

/-- The claim is taken as soon as an active device was handed out. -/
theorem Chronicle.claims (h : Chronicle R l es) :
    es.countP Event.activates = (l.world.driver R.driver).activeClaimed.toNat := by
  apply h.induct_any (P := fun w es => es.countP Event.activates = (w.driver R.driver).activeClaimed.toNat)
  · intro w _ hc
    rw [hc]
    rfl
  · intro e es hs he hP
    rw [List.countP_append, List.countP_singleton, hP, (he.standing hs.driver).2]
    cases e.activates <;> rfl
  · intro v w es _ hw hP
    rw [hP, (hw.standing R.driver).2]

/-- Every event of a chronicle happens after a shorter one. -/
theorem Chronicle.exists_prefix (h : Chronicle R l es) {es₁ es₂ : List Event} {e : Event}
    (he : es = es₁ ++ e :: es₂) :
    ∃ l, Chronicle R l es₁ ∧ e.before = l.world ∧ e.Does R.driver fun _ => False := by
  induction h generalizing es₂ with
  | fresh hw hc => cases es₁ <;> cases he
  | @begin l es run h c hc hs hl ih =>
    rcases List.eq_nil_or_concat es₂ with rfl | ⟨es₂, e', rfl⟩
    · obtain ⟨rfl, hlast⟩ := List.append_inj' he rfl
      obtain rfl := List.singleton_inj.mp hlast
      have hdoes := (Event.does hc hl (K := fun _ => False) (fun _ _ _ _ => id) (World.unlisted_nothing _)).1
      exact ⟨l, h, rfl, hdoes⟩
    · rw [List.concat_eq_append, ← List.cons_append, ← List.append_assoc] at he
      exact ih (List.append_inj' he rfl).1
  | goOn h _ ih => exact ih he
  | configure h store ih => exact ih he

theorem Chronicle.bare (h : Chronicle R l es) (hm : (l.world.driver R.driver).mode ≠ .operational) (d : DeviceId) :
    (l.world.device d).role = .physical := by
  refine h.induct_any (P := fun w _ => (w.driver R.driver).mode ≠ .operational → ∀ d, (w.device d).role = .physical)
    ?_ ?_ ?_ hm d
  · intro w hw _ _ d
    rw [hw.device]
    rfl
  · intro e es hs he hP hm
    rw [(he.standing hs.driver).1] at hm
    exact (he.refused hm (hP hm)).1
  · intro v w es _ hw hP hm d
    rw [(hw.standing R.driver).1] at hm
    exact (Device.role_eq_of_shape (hw.device d).shape).trans (hP hm d)

/-- Throughout the life of a driver, whatever becomes of its devices and of its configuration, it hands out an
active device at most once. A device that the configuration names is attached inactive only if an active one was
handed out before. And a driver that is not operational attaches nothing, so that children cannot be added
either. -/
theorem active_device_once (h : Chronicle R l es) :
    es.countP Event.activates ≤ 1 ∧
    (∀ es₁ e es₂, es = es₁ ++ e :: es₂ → e.isNamed R.driver = true → e.attached?.isSome → e.activates = false →
      ∃ e' ∈ es₁, e'.activates = true) ∧
    ∀ e ∈ es, (e.before.driver R.driver).mode ≠ .operational → e.IsRefused := by
  refine ⟨h.claims ▸ Bool.toNat_le _, fun es₁ e es₂ he hm ha hn => ?_, fun e he hm => ?_⟩
  · obtain ⟨l, h, hb, hd⟩ := h.exists_prefix he
    -- the claim had been taken before
    have hclaimed := hd.named hm ha
    rw [hn, hb, Bool.false_eq, Bool.not_eq_false'] at hclaimed
    have hc := h.claims
    rw [hclaimed] at hc
    exact List.countP_pos_iff.mp (by rw [hc]; exact Nat.zero_lt_one)
  · obtain ⟨es₁, es₂, rfl⟩ := List.append_of_mem he
    obtain ⟨l, h, hb, hd⟩ := h.exists_prefix rfl
    refine (hd.refused hm fun d => ?_).2
    rw [hb] at hm ⊢
    exact h.bare hm d

def attachedAgain : List Scene := [
  .play (.begin (.device (.create "A" "" (some 0)))),
  .play (.begin (.device (.attach 0 (some 0)))),
  .play (.begin (.request (.send 1 (.pnp .removeDevice) (some 0)))),
  .play (.begin (.device (.create "a" "" (some 0)))),
  .play (.begin (.device (.attach 2 (some 0))))]

theorem active_device_once_of_again :
    ∃ l es, Chronicle ⟨0, True, False⟩ l es ∧ (l.world.device 1).state = .deleted ∧ es.countP Event.activates ≤ 1 ∧
      ∃ e ∈ es.take 4, e.activates = true := by
  obtain ⟨l, es, h, hq⟩ := Chronicle.of_enact (R := ⟨0, True, False⟩) (s := attachedAgain) World.isFresh_initial rfl
    (by simp [attachedAgain, Scene.IsPermitted, Play.IsPermitted, Command.IsPermitted])
    (q := fun x => (x.1.world.device 1).state = .deleted &&
      x.2[4]?.any fun e => e.isNamed 0 && (e.attached?.isSome && !e.activates)) (by decide +kernel)
  simp only [Bool.and_eq_true, decide_eq_true_eq] at hq
  obtain ⟨hd, hq⟩ := hq
  obtain ⟨e, he, hq⟩ := (Option.any_eq_true _ _).mp hq
  simp only [Bool.and_eq_true, Bool.not_eq_true'] at hq
  obtain ⟨hn, ha, hi⟩ := hq
  obtain ⟨hlt, rfl⟩ := List.getElem?_eq_some_iff.mp he
  have hes : es = es.take 4 ++ es[4] :: es.drop 5 := by rw [List.getElem_cons_drop, List.take_append_drop]
  have ho := active_device_once h
  exact ⟨l, es, h, hd, ho.1, ho.2.1 _ _ _ hes hn ha hi⟩

end

end PnpBus
