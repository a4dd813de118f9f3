import Mathlib.Logic.Function.Basic
import PnpBus.Proofs.Locks
import PnpBus.Proofs.Removals
import PnpBus.Proofs.Commands

/-!
# What a device registry lists

A registry knows its devices by identity and role, and identities come back:
a device that left and the one that took its place differ in nothing but who
they are. A `RosterLog` keeps, besides the world, which devices were ever
registered, which of them left, and what is held of their locks.
-/

namespace PnpBus

variable {b : DriverId} {d x : DeviceId} {v w : World} {identity : Identity} {extension : Extension}

/-! ## Entries -/

namespace DeviceRegistry

variable {r : DeviceRegistry} {key : DeviceKey}

theorem mem_entries_of_lookup {es : List (DeviceKey × DeviceId)} (h : es.lookup key = some d) : (key, d) ∈ es := by
  obtain ⟨before, after, rfl, -⟩ := List.lookup_eq_some_iff.mp h
  exact List.mem_append_right _ List.mem_cons_self

theorem lookup_of_mem_entries {es : List (DeviceKey × DeviceId)} (hn : (es.map (·.1)).Nodup) (h : (key, d) ∈ es) :
    es.lookup key = some d := by
  obtain ⟨before, after, rfl⟩ := List.append_of_mem h
  rw [List.map_append, List.map_cons, List.nodup_append] at hn
  refine List.lookup_eq_some_iff.mpr ⟨before, after, rfl, fun e he => bne_iff_ne.mpr fun hk => ?_⟩
  exact hn.2.2 e.1 (List.mem_map_of_mem he) key List.mem_cons_self hk.symm

theorem findRole?_eq_some (hn : (r.entries.map (·.1)).Nodup) (key : DeviceKey) :
    r.findRole? key.identity key.role = some d ↔ (key, d) ∈ r.entries :=
  ⟨mem_entries_of_lookup, lookup_of_mem_entries hn⟩

theorem mem_devices : d ∈ r.devices ↔ ∃ key, (key, d) ∈ r.entries := by
  simp [devices]

end DeviceRegistry

/-! ## Registries in a world -/

structure World.SameRoster (b : DriverId) (v w : World) : Prop where
  drivers : v.drivers.size ≤ w.drivers.size
  devices : v.devices.size ≤ w.devices.size
  registry : (w.driver b).registry = (v.driver b).registry
  key : ∀ x < v.devices.size, (w.device x).key = (v.device x).key

def World.OtherLocks (d : DeviceId) (v w : World) : Prop := ∀ x ≠ d, (w.device x).lock = (v.device x).lock

/-- Registry `b` lists those of the `born` that have not `left`, each once and under its own key. -/
structure World.HasRoster (b : DriverId) (born left : List DeviceId) (w : World) : Prop where
  driver : b < w.drivers.size
  members : born.Perm ((w.driver b).registry.devices ++ left)
  fresh : born.Nodup
  known : ∀ d ∈ born, d < w.devices.size
  keyed : ∀ e ∈ (w.driver b).registry.entries, e.1 = (w.device e.2).key
  distinct : ((w.driver b).registry.entries.map (·.1)).Nodup

theorem unregister_held (hl : (w.device d).lock.isDrained = false) :
    (unregister b d).run w = (.error .busy, w.note (.unregisterHeld (w.device d).identity.deviceId)) := by
  have hl : ¬(w.device d).lock.isDrained = true := by rw [hl]; nofun
  simp only [unregister, Act.run_bind, Act.run_lift, Act.device_apply, if_neg hl]
  rfl

namespace World

theorem SameRoster.note (w : World) (n : Notice) : w.SameRoster b (w.note n) :=
  ⟨Nat.le_refl _, Nat.le_refl _, rfl, fun _ _ => rfl⟩

theorem SameRoster.trans {u : World} (h : u.SameRoster b v) (h' : v.SameRoster b w) : u.SameRoster b w where
  drivers := Nat.le_trans h.drivers h'.drivers
  devices := Nat.le_trans h.devices h'.devices
  registry := h'.registry.trans h.registry
  key x hx := (h'.key x (Nat.lt_of_lt_of_le hx h.devices)).trans (h.key x hx)

theorem SameRoster.setLock (w : World) (d : DeviceId) (m : RemoveLock) :
    w.SameRoster b (w.setLock (.device d) m) where
  drivers := Nat.le_refl _
  devices := Nat.le_of_eq (size_updateDevice w d _).symm
  registry := rfl
  key x _ := by
    rw [World.setLock, device_updateDevice]
    split
    next h => rw [h.1]; rfl
    next => rfl

theorem SameRoster.releaseLock (w : World) (d : DeviceId) : w.SameRoster b (w.after (releaseLock (.device d))) := by
  rw [after_releaseLock]
  split
  · exact .setLock w d _
  · exact .note w _

theorem SameRoster.closeLock (w : World) (d : DeviceId) : w.SameRoster b (w.after (closeLock (.device d))) := by
  rw [after_closeLock]
  split
  · exact ⟨Nat.le_refl _, Nat.le_refl _, rfl, fun _ _ => rfl⟩
  · exact (SameRoster.setLock w d _).trans (.releaseLock _ d)

theorem OtherLocks.setLock (w : World) (d : DeviceId) (m : RemoveLock) :
    w.OtherLocks d (w.setLock (.device d) m) := by
  intro x hx
  rw [World.setLock, device_updateDevice, if_neg fun h => hx h.1]

theorem OtherLocks.releaseLock (w : World) (d : DeviceId) : w.OtherLocks d (w.after (releaseLock (.device d))) := by
  rw [after_releaseLock]
  split
  · exact .setLock w d _
  · exact fun _ _ => rfl

theorem OtherLocks.closeLock (w : World) (d : DeviceId) : w.OtherLocks d (w.after (closeLock (.device d))) := by
  rw [after_closeLock]
  split
  · exact fun _ _ => rfl
  · exact fun x hx => (OtherLocks.releaseLock _ d x hx).trans (OtherLocks.setLock w d _ x hx)

namespace HasRoster

variable {born left : List DeviceId} (h : w.HasRoster b born left)
include h

theorem locks (hd : d ∈ born) : w.Locks (.device d) (w.device d).lock := ⟨h.known d hd, rfl⟩

theorem mem_born : x ∈ born ↔ x ∈ (w.driver b).registry.devices ∨ x ∈ left := by
  rw [h.members.mem_iff, List.mem_append]

theorem disjoint (hx : x ∈ left) : x ∉ (w.driver b).registry.devices := by
  intro hr
  exact (List.nodup_append.mp (h.members.nodup_iff.mp h.fresh)).2.2 x hr x hx rfl

theorem nodup : (w.driver b).registry.devices.Nodup :=
  (List.nodup_append.mp (h.members.nodup_iff.mp h.fresh)).1

/-- What is registered stands under its own key, and under no other. -/
theorem mem_entries {key : DeviceKey} :
    (key, x) ∈ (w.driver b).registry.entries ↔ x ∈ (w.driver b).registry.devices ∧ (w.device x).key = key := by
  rw [DeviceRegistry.mem_devices]
  constructor
  · exact fun he => ⟨⟨key, he⟩, (h.keyed _ he).symm⟩
  · rintro ⟨⟨key', he⟩, rfl⟩
    have hk : key' = (w.device x).key := h.keyed _ he
    rwa [← hk]

theorem findRole? (key : DeviceKey) : (w.driver b).registry.findRole? key.identity key.role = some x ↔
    x ∈ (w.driver b).registry.devices ∧ (w.device x).key = key := by
  rw [DeviceRegistry.findRole?_eq_some h.distinct, h.mem_entries]

theorem same (hw : w.SameRoster b v) : v.HasRoster b born left where
  driver := Nat.lt_of_lt_of_le h.driver hw.drivers
  members := by rw [hw.registry]; exact h.members
  fresh := h.fresh
  known d hd := Nat.lt_of_lt_of_le (h.known d hd) hw.devices
  keyed e he := by
    rw [hw.registry] at he
    have hx : e.2 ∈ (w.driver b).registry.devices := DeviceRegistry.mem_devices.mpr ⟨e.1, he⟩
    rw [hw.key e.2 (h.known e.2 (h.mem_born.mpr (.inl hx)))]
    exact h.keyed e he
  distinct := by rw [hw.registry]; exact h.distinct

/-! ### Joining -/

theorem register_occupied (ho : ∃ x, (⟨identity, extension.role⟩, x) ∈ (w.driver b).registry.entries) :
    (register b identity extension).run w = (.error .alreadyExists, w) := by
  obtain ⟨x, hx⟩ := ho
  have hf := (DeviceRegistry.findRole?_eq_some h.distinct _).mpr hx
  exact register_error (Option.isSome_iff_exists.mpr ⟨x, hf⟩)

theorem register_free (ho : ∀ x, (⟨identity, extension.role⟩, x) ∉ (w.driver b).registry.entries) :
    (register b identity extension).run w =
      (.ok w.devices.size, (w.enroll b identity extension).note (.registered extension.role identity)) := by
  refine register_ok (Option.eq_none_iff_forall_ne_some.mpr fun x hx => ho x ?_)
  exact (DeviceRegistry.findRole?_eq_some h.distinct _).mp hx

theorem entries_enroll : ((w.enroll b identity extension).driver b).registry.entries =
    (⟨identity, extension.role⟩, w.devices.size) :: (w.driver b).registry.entries := by
  rw [enroll, driver_updateDriver, if_pos ⟨rfl, h.driver⟩]
  rfl

theorem not_born : w.devices.size ∉ born := fun hs => Nat.lt_irrefl _ (h.known _ hs)

theorem enroll (ho : ∀ x, (⟨identity, extension.role⟩, x) ∉ (w.driver b).registry.entries) :
    (w.enroll b identity extension).HasRoster b (w.devices.size :: born) left where
  driver := by rw [World.enroll, size_updateDriver]; exact h.driver
  members := by
    rw [DeviceRegistry.devices, h.entries_enroll]
    exact h.members.cons _
  fresh := List.nodup_cons.mpr ⟨h.not_born, h.fresh⟩
  known d hd := by
    rw [size_enroll]
    rcases List.mem_cons.mp hd with rfl | hd
    · exact Nat.lt_succ_self _
    · exact Nat.lt_succ_of_lt (h.known d hd)
  keyed e he := by
    rw [h.entries_enroll] at he
    rcases List.mem_cons.mp he with rfl | he
    · rw [device_enroll, if_pos rfl]; rfl
    · have hx : e.2 ∈ (w.driver b).registry.devices := DeviceRegistry.mem_devices.mpr ⟨e.1, he⟩
      have hne : e.2 ≠ w.devices.size := fun hs => h.not_born (hs ▸ h.mem_born.mpr (.inl hx))
      rw [device_enroll, if_neg hne]
      exact h.keyed e he
  distinct := by
    rw [h.entries_enroll, List.map_cons, List.nodup_cons]
    refine ⟨fun hk => ?_, h.distinct⟩
    obtain ⟨e, he, hk⟩ := List.mem_map.mp hk
    refine ho e.2 ?_
    rw [← show e.1 = ⟨identity, extension.role⟩ from hk]
    exact he

/-! ### Leaving -/

theorem entries_erase (hd : d ∈ (w.driver b).registry.devices) :
    ((w.driver b).registry.erase (w.device d).key).entries = (w.driver b).registry.entries.filter (·.2 ≠ d) := by
  refine List.filter_congr fun e he => decide_eq_decide.mpr (not_congr ⟨fun hk => ?_, fun hk => ?_⟩)
  -- nobody else stands under the key
  · have hd := h.mem_entries.mpr ⟨hd, rfl⟩
    rw [← hk] at hd
    have h₁ := DeviceRegistry.lookup_of_mem_entries h.distinct he
    have h₂ := DeviceRegistry.lookup_of_mem_entries h.distinct hd
    exact Option.some.inj (h₁.symm.trans h₂)
  · rw [h.keyed e he, hk]

theorem entries_leave (hd : d ∈ (w.driver b).registry.devices) :
    ((w.updateDriver b fun v => { v with registry := v.registry.erase (w.device d).key }).driver
      b).registry.entries =
      (w.driver b).registry.entries.filter (·.2 ≠ d) := by
  rw [driver_updateDriver, if_pos ⟨rfl, h.driver⟩]
  exact h.entries_erase hd

/-- A registered device leaves. -/
theorem leave (hd : d ∈ (w.driver b).registry.devices) :
    (w.updateDriver b fun v => { v with registry := v.registry.erase (w.device d).key }).HasRoster b born
    (d :: left) where
  driver := by rw [size_updateDriver]; exact h.driver
  members := by
    have he :
        (w.driver b).registry.devices.erase d = ((w.driver b).registry.entries.filter (·.2 ≠ d)).map (·.2) := by
      rw [h.nodup.erase_eq_filter, DeviceRegistry.devices, List.filter_map]
      exact congrArg _ (List.filter_congr fun e _ => by by_cases hx : e.2 = d <;> simp [hx])
    rw [DeviceRegistry.devices, h.entries_leave hd, ← he]
    exact h.members.trans (((List.perm_cons_erase hd).append_right left).trans List.perm_middle.symm)
  fresh := h.fresh
  known := h.known
  keyed e he := by
    rw [h.entries_leave hd] at he
    exact h.keyed e (List.mem_filter.mp he).1
  distinct := by
    rw [h.entries_leave hd]
    exact h.distinct.sublist (List.filter_sublist.map _)

theorem unregister_listed (hl : (w.device d).lock.isDrained = true) (hd : d ∈ (w.driver b).registry.devices) :
    (unregister b d).run w =
      (.ok (), w.updateDriver b fun v => { v with registry := v.registry.erase (w.device d).key }) :=
  unregister_ok hl ((h.findRole? _).mpr ⟨hd, rfl⟩)

theorem unregister_unlisted (hl : (w.device d).lock.isDrained = true) (hd : d ∉ (w.driver b).registry.devices) :
    (unregister b d).run w = (.error .notFound, w) := by
  have hf : ¬(w.driver b).registry.findRole? (w.device d).identity (w.device d).role = some d :=
    fun hf => hd ((h.findRole? (w.device d).key).mp hf).1
  simp only [unregister, Act.run_bind, Act.run_lift, Act.device_apply, if_pos hl, Act.driver_apply, if_neg hf]
  rfl

/-! ### Look-ups -/

theorem find? : (w.driver b).registry.find? identity = some d ↔
    (⟨identity, .functional⟩, d) ∈ (w.driver b).registry.entries ∨
    (⟨identity, .physical⟩, d) ∈ (w.driver b).registry.entries ∧
      ∀ x, (⟨identity, .functional⟩, x) ∉ (w.driver b).registry.entries := by
  have hrole (role : Role) (x : DeviceId) : (w.driver b).registry.findRole? identity role = some x ↔
      (⟨identity, role⟩, x) ∈ (w.driver b).registry.entries :=
    DeviceRegistry.findRole?_eq_some h.distinct ⟨identity, role⟩
  rw [DeviceRegistry.find?, ← hrole, ← hrole]
  cases hf : (w.driver b).registry.findRole? identity .functional with
  | some f =>
    rw [Option.some_or]
    refine ⟨.inl, fun hd => hd.resolve_right fun hn => ?_⟩
    exact hn.2 f ((hrole _ _).mp hf)
  | none =>
    rw [Option.none_or]
    refine ⟨fun hd => .inr ⟨hd, fun x hx => ?_⟩, fun hd => (hd.resolve_left nofun).1⟩
    rw [(hrole _ _).mpr hx] at hf
    cases hf

end HasRoster

end World

/-! ## Records and their users -/

/-- What was done to one registry and to the locks of its devices. -/
structure RosterLog where
  world : World
  /-- Every device that was ever registered, the newest first. -/
  born : List DeviceId := []
  left : List DeviceId := []
  /-- References that were taken and are not back yet. -/
  held : DeviceId → Nat := fun _ => 0
  /-- A drain of their lock was begun. -/
  begun : List DeviceId := []
  drainers : List Drainer := []

namespace RosterLog

def register (s : RosterLog) (b : DriverId) (identity : Identity) (extension : Extension) : RosterLog :=
  match (PnpBus.register b identity extension).run s.world with
  | (.ok d, w) => { s with world := w, born := d :: s.born }
  | (.error _, w) => { s with world := w }

def unregister (s : RosterLog) (b : DriverId) (d : DeviceId) : RosterLog :=
  match (PnpBus.unregister b d).run s.world with
  | (.ok _, w) => { s with world := w, left := d :: s.left }
  | (.error _, w) => { s with world := w }

def acquire (s : RosterLog) (d : DeviceId) : RosterLog :=
  match (acquireLock (.device d)).run s.world with
  | (.ok _, w) => { s with world := w, held := Function.update s.held d (s.held d + 1) }
  | (.error _, w) => { s with world := w }

def release (s : RosterLog) (d : DeviceId) : RosterLog :=
  { s with world := s.world.after (releaseLock (.device d)), held := Function.update s.held d (s.held d - 1) }

def goOn (s : RosterLog) : Run Unit → RosterLog
  | .done w _ => { s with world := w }
  | .via _ rest => s.goOn rest
  | .wait w on resume => { s with world := w, drainers := ⟨on, resume⟩ :: s.drainers }
  | .halt w _ => { s with world := w }

def drain (s : RosterLog) (d : DeviceId) : RosterLog :=
  { s with begun := d :: s.begun }.goOn (PnpBus.drain (.device d) s.world)

/-- Something happens to the registry of `b`, to a device that it has known, or around them. `Fair` users give back
only what they took, and never hold more references than a lock can count. -/
inductive Turn (b : DriverId) (fair : Prop) : RosterLog → RosterLog → Prop
  | register (s : RosterLog) (identity : Identity) (extension : Extension) :
      Turn b fair s (s.register b identity extension)
  | unregister (s : RosterLog) (d : DeviceId) : Turn b fair s (s.unregister b d)
  | acquire (s : RosterLog) (d : DeviceId) (hd : d ∈ s.born) (h : fair → (s.acquire d).held d < 2 ^ 32 - 1) :
      Turn b fair s (s.acquire d)
  | release (s : RosterLog) (d : DeviceId) (hd : d ∈ s.born) (h : fair → 0 < s.held d) : Turn b fair s (s.release d)
  | drain (s : RosterLog) (d : DeviceId) (hd : d ∈ s.born) : Turn b fair s (s.drain d)
  | resume (s : RosterLog) (fs : List Drainer) (f : Drainer) (gs : List Drainer) (hf : s.drainers = fs ++ f :: gs)
      (hset : s.world.isSet f.on = true) : Turn b fair s ({ s with drainers := fs ++ gs }.goOn (f.resume s.world))
  | aside (s : RosterLog) (w : World) (hw : s.world.SameRoster b w)
      (hl : ∀ d ∈ s.born, (w.device d).lock = (s.world.device d).lock) : Turn b fair s { s with world := w }

abbrev Turns (b : DriverId) (fair : Prop) : RosterLog → RosterLog → Prop := Relation.ReflTransGen (Turn b fair)

structure Counted (s : RosterLog) (d : DeviceId) : Prop where
  counts : (s.world.device d).lock.Counts (s.held d)
  draining : (s.world.device d).lock.draining = true ↔ d ∈ s.begun

structure Sound (b : DriverId) (fair : Prop) (s : RosterLog) : Prop where
  lists : s.world.HasRoster b s.born s.left
  waits : ∀ f ∈ s.drainers, ∀ w, f.resume w = .done w ()
  unused : ∀ d ∉ s.born, s.held d = 0 ∧ d ∉ s.begun
  counted : fair → ∀ d ∈ s.born, s.Counted d

theorem Counted.isDrained {s : RosterLog} (h : s.Counted d) :
    (s.world.device d).lock.isDrained = true ↔ d ∈ s.begun ∧ s.held d = 0 := by
  rw [h.counts.isDrained, h.draining]

theorem Counted.of_eq {s s' : RosterLog} (h : s.Counted d) (hl : (s'.world.device d).lock = (s.world.device d).lock)
    (hh : s'.held d = s.held d) (hb : d ∈ s'.begun ↔ d ∈ s.begun) : s'.Counted d :=
  ⟨by rw [hl, hh]; exact h.counts, by rw [hl, hb]; exact h.draining⟩

namespace Sound

variable {fair : Prop} {s s' : RosterLog}

theorem initial (hb : b < w.drivers.size) (he : (w.driver b).registry.isEmpty = true) :
    Sound b fair { world := w } where
  lists := by
    have he : (w.driver b).registry.entries = [] := List.isEmpty_iff.mp he
    refine ⟨hb, ?_, List.nodup_nil, nofun, ?_, ?_⟩
    · rw [DeviceRegistry.devices, he]
      exact .refl _
    · rw [he]
      nofun
    · rw [he]
      exact List.nodup_nil
  waits := nofun
  unused _ _ := ⟨rfl, List.not_mem_nil⟩
  counted _ := nofun

variable (h : s.Sound b fair)
include h

theorem register (identity : Identity) (extension : Extension) :
    (s.register b identity extension).Sound b fair := by
  rw [RosterLog.register]
  by_cases ho : ∃ x, (⟨identity, extension.role⟩, x) ∈ (s.world.driver b).registry.entries
  · rw [h.lists.register_occupied ho]
    exact h
  · have ho := not_exists.mp ho
    rw [h.lists.register_free ho]
    refine ⟨(h.lists.enroll ho).same (.note _ _), h.waits, fun d hd => ?_, fun hf d hd => ?_⟩
    · exact h.unused d fun hb => hd (List.mem_cons_of_mem _ hb)
    · have hd' :
          (((s.world.enroll b identity extension).note (.registered extension.role identity)).device d).lock =
          if d = s.world.devices.size then {} else (s.world.device d).lock := by
        show ((s.world.enroll b identity extension).device d).lock = _
        rw [World.device_enroll]
        split <;> rfl
      by_cases hn : d = s.world.devices.size
      · obtain ⟨hh, hg⟩ := h.unused d (hn ▸ h.lists.not_born)
        rw [if_pos hn] at hd'
        refine ⟨?_, ?_⟩
        · rw [hd', hh]
          exact .default
        · rw [hd']
          exact iff_of_false nofun hg
      · have hc := h.counted hf d ((List.mem_cons.mp hd).resolve_left hn)
        rw [if_neg hn] at hd'
        exact hc.of_eq hd' rfl .rfl

theorem unregister (d : DeviceId) : (s.unregister b d).Sound b fair := by
  rw [RosterLog.unregister]
  cases hl : (s.world.device d).lock.isDrained with
  | false =>
    rw [unregister_held hl]
    exact ⟨h.lists.same (.note _ _), h.waits, h.unused, fun hf x hx => (h.counted hf x hx).of_eq rfl rfl .rfl⟩
  | true =>
    by_cases hd : d ∈ (s.world.driver b).registry.devices
    · rw [h.lists.unregister_listed hl hd]
      exact ⟨h.lists.leave hd, h.waits, h.unused, fun hf x hx => (h.counted hf x hx).of_eq rfl rfl .rfl⟩
    · rw [h.lists.unregister_unlisted hl hd]
      exact h

/-- Something is done to the lock of one device. -/
theorem use (hd : d ∈ s.born) (hb : s'.born = s.born) (hleft : s'.left = s.left)
    (hw : s.world.SameRoster b s'.world) (hl : s.world.OtherLocks d s'.world)
    (hx : ∀ x ≠ d, s'.held x = s.held x ∧ (x ∈ s'.begun ↔ x ∈ s.begun))
    (hf : ∀ f ∈ s'.drainers, ∀ w, f.resume w = .done w ()) (hself : fair → s'.Counted d) : s'.Sound b fair where
  lists := by rw [hb, hleft]; exact h.lists.same hw
  waits := hf
  unused x hxb := by
    rw [hb] at hxb
    obtain ⟨hh, hg⟩ := hx x fun e => hxb (e ▸ hd)
    rw [hh, hg]
    exact h.unused x hxb
  counted hfair x hxb := by
    rw [hb] at hxb
    by_cases hxd : x = d
    · exact hxd ▸ hself hfair
    · obtain ⟨hh, hg⟩ := hx x hxd
      exact (h.counted hfair x hxb).of_eq (hl x hxd) hh hg

theorem acquire (hd : d ∈ s.born) (hb : fair → (s.acquire d).held d < 2 ^ 32 - 1) : (s.acquire d).Sound b fair := by
  have hm := h.lists.locks hd
  rw [RosterLog.acquire] at hb ⊢
  cases hdr : (s.world.device d).lock.draining with
  | true =>
    rw [hm.acquireLock_closed hdr]
    exact h
  | false =>
    rw [hm.acquireLock_open hdr] at hb ⊢
    refine h.use hd rfl rfl (.setLock _ _ _) (.setLock _ _ _) ?_ h.waits fun hf => ?_
    · exact fun x hx => ⟨Function.update_of_ne hx _ _, Iff.rfl⟩
    · have hc := h.counted hf d hd
      have hs :=
        (World.Locks.set hm.1 { (s.world.device d).lock with count := (s.world.device d).lock.count + 1 }).2
      have hb := hb hf
      rw [World.lock_device] at hs
      simp only [Function.update_self] at hb
      refine ⟨?_, ?_⟩
      · show RemoveLock.Counts _ (Function.update s.held d (s.held d + 1) d)
        rw [hs, Function.update_self]
        exact hc.counts.acquired hdr hb
      · show RemoveLock.draining _ = true ↔ _
        rw [hs]
        exact hc.draining

theorem release (hd : d ∈ s.born) (hb : fair → 0 < s.held d) : (s.release d).Sound b fair := by
  have hm := (h.lists.locks hd).releaseLock
  refine h.use hd rfl rfl (.releaseLock _ _) (.releaseLock _ _) ?_ h.waits fun hf => ?_
  · exact fun x hx => ⟨Function.update_of_ne hx _ _, Iff.rfl⟩
  · have hc := h.counted hf d hd
    have hr : (s.world.device d).lock.Counts (s.held d - 1 + 1) := by
      rw [Nat.sub_add_cancel (hb hf)]
      exact hc.counts
    obtain ⟨hcount, hdr⟩ := hr.released_getD
    have hs := hm.2
    rw [World.lock_device] at hs
    refine ⟨?_, ?_⟩
    · show RemoveLock.Counts _ (Function.update s.held d (s.held d - 1) d)
      rw [RosterLog.release, hs, Function.update_self]
      exact hcount
    · rw [RosterLog.release, hs, hdr]
      exact hc.draining

theorem drain (hd : d ∈ s.born) : (s.drain d).Sound b fair := by
  have hm := (h.lists.locks hd).closeLock
  have hs : Sound b fair { s with begun := d :: s.begun, world := s.world.after (closeLock (.device d)) } := by
    refine h.use hd rfl rfl (.closeLock _ _) (.closeLock _ _) ?_ h.waits fun hf => ?_
    · exact fun x hx => ⟨rfl, by rw [List.mem_cons, or_iff_right hx]⟩
    · obtain ⟨hcount, hdr⟩ := (h.counted hf d hd).counts.closed
      have hs := hm.2
      rw [World.lock_device] at hs
      exact ⟨by rw [hs]; exact hcount, by rw [hs]; exact iff_of_true hdr List.mem_cons_self⟩
  -- who waits for the lock has nothing more to do to it
  rw [RosterLog.drain, drain_apply]
  split
  · exact hs
  · refine ⟨hs.lists, fun f hf => ?_, hs.unused, fun hf x hx => (hs.counted hf x hx).of_eq rfl rfl .rfl⟩
    rcases List.mem_cons.mp hf with rfl | hf
    · exact fun _ => rfl
    · exact hs.waits f hf

theorem resume {fs gs : List Drainer} {f : Drainer} (hf : s.drainers = fs ++ f :: gs) :
    ({ s with drainers := fs ++ gs }.goOn (f.resume s.world)).Sound b fair := by
  have hw := h.waits
  rw [hf] at hw
  rw [hw f (List.mem_append_right fs List.mem_cons_self)]
  refine ⟨h.lists, fun g hg => hw g ?_, h.unused, fun hf x hx => (h.counted hf x hx).of_eq rfl rfl .rfl⟩
  rw [List.mem_append, List.mem_cons]
  exact (List.mem_append.mp hg).imp_right .inr

theorem aside (hw : s.world.SameRoster b w) (hl : ∀ d ∈ s.born, (w.device d).lock = (s.world.device d).lock) :
    Sound b fair { s with world := w } where
  lists := h.lists.same hw
  waits := h.waits
  unused := h.unused
  counted hf d hd := (h.counted hf d hd).of_eq (hl d hd) rfl .rfl

end Sound

variable {fair : Prop} {s s' : RosterLog}

theorem Turn.sound (ht : Turn b fair s s') (h : s.Sound b fair) : s'.Sound b fair := by
  cases ht with
  | register identity extension => exact h.register identity extension
  | unregister d => exact h.unregister d
  | acquire d hd hb => exact h.acquire hd hb
  | release d hd hb => exact h.release hd hb
  | drain d hd => exact h.drain hd
  | resume fs f gs hf => exact h.resume hf
  | aside w hw hl => exact h.aside hw hl

theorem Turns.sound (ht : Turns b fair s s') (h : s.Sound b fair) : s'.Sound b fair := by
  induction ht with
  | refl => exact h
  | tail _ ht ih => exact ht.sound ih

theorem left_goOn (s : RosterLog) (m : Run Unit) : (s.goOn m).left = s.left := by
  induction m with
  | via _ _ ih => exact ih
  | _ => rfl

theorem Turn.left (ht : Turn b fair s s') (hd : d ∈ s.left) : d ∈ s'.left := by
  cases ht with
  | register => rw [RosterLog.register]; split <;> exact hd
  | unregister =>
    rw [RosterLog.unregister]
    split
    · exact List.mem_cons_of_mem _ hd
    · exact hd
  | acquire => rw [RosterLog.acquire]; split <;> exact hd
  | release => exact hd
  | drain => rw [RosterLog.drain, left_goOn]; exact hd
  | resume => rw [left_goOn]; exact hd
  | aside => exact hd

theorem Turns.left (ht : Turns b fair s s') (hd : d ∈ s.left) : d ∈ s'.left := by
  induction ht with
  | refl => exact hd
  | tail _ ht ih => exact ht.left ih

end RosterLog

/-! ## Every course of a registry -/

/-- Whatever is done to a registry that was empty and to the locks of its devices, it lists those that registered
and did not leave, each under its own key. A key that is taken is refused, and a free one gets a new device. What
leaves is drained and stands under its key itself, which one that left before does not do, whoever stands there now.
A look-up finds the functional device if there is one. -/
theorem registry_tells_records_apart {fair : Prop} {s : RosterLog} (hb : b < w.drivers.size)
    (he : (w.driver b).registry.isEmpty = true) (h : RosterLog.Turns b fair { world := w } s) :
    (∀ e ∈ (s.world.driver b).registry.entries, e.1 = (s.world.device e.2).key) ∧
    (s.world.driver b).registry.devices.Nodup ∧
    (∀ d ∈ s.left, ∀ s', RosterLog.Turns b fair s s' → d ∉ (s'.world.driver b).registry.devices) ∧
    (∀ identity extension,
      ((∃ x, (⟨identity, extension.role⟩, x) ∈ (s.world.driver b).registry.entries) →
        (register b identity extension).run s.world = (.error .alreadyExists, s.world)) ∧
      ((∀ x, (⟨identity, extension.role⟩, x) ∉ (s.world.driver b).registry.entries) →
        ∃ d v, (register b identity extension).run s.world = (.ok d, v) ∧ d ∉ s.born ∧
          v.device d = { identity, extension } ∧ (∀ x ≠ d, v.device x = s.world.device x) ∧
          (v.driver b).registry.entries = (⟨identity, extension.role⟩, d) :: (s.world.driver b).registry.entries)) ∧
    (∀ d,
      ((s.world.device d).lock.isDrained = false →
        ∃ n : Notice, (unregister b d).run s.world = (.error .busy, s.world.note n)) ∧
      ((s.world.device d).lock.isDrained = true →
        ((s.world.device d).key, d) ∉ (s.world.driver b).registry.entries →
        (unregister b d).run s.world = (.error .notFound, s.world)) ∧
      ((s.world.device d).lock.isDrained = true →
        ((s.world.device d).key, d) ∈ (s.world.driver b).registry.entries →
        ∃ v, (unregister b d).run s.world = (.ok (), v) ∧ v.devices = s.world.devices ∧
          (v.driver b).registry.entries = (s.world.driver b).registry.entries.filter (·.2 ≠ d))) ∧
    (∀ identity d, (s.world.driver b).registry.find? identity = some d ↔
      (⟨identity, .functional⟩, d) ∈ (s.world.driver b).registry.entries ∨
      (⟨identity, .physical⟩, d) ∈ (s.world.driver b).registry.entries ∧
        ∀ x, (⟨identity, .functional⟩, x) ∉ (s.world.driver b).registry.entries) ∧
    (fair → ∀ d ∈ s.born, ((s.world.device d).lock.isDrained = true ↔ d ∈ s.begun ∧ s.held d = 0)) := by
  have hs := h.sound (.initial hb he)
  have hl := hs.lists
  have hmem (d : DeviceId) : ((s.world.device d).key, d) ∈ (s.world.driver b).registry.entries ↔
      d ∈ (s.world.driver b).registry.devices := hl.mem_entries.trans (and_iff_left rfl)
  refine ⟨hl.keyed, hl.nodup, fun d hd s' h' => ?_, fun identity extension => ⟨hl.register_occupied, fun ho => ?_⟩,
    fun d => ⟨fun hd => ⟨_, unregister_held hd⟩, fun hd hm => ?_, fun hd hm => ?_⟩, fun identity d => hl.find?,
    fun hf d hd => (hs.counted hf d hd).isDrained⟩
  · exact (h'.sound hs).lists.disjoint (h'.left hd)
  · refine ⟨_, _, hl.register_free ho, hl.not_born, ?_, fun x hx => ?_, hl.entries_enroll⟩
    · exact (World.device_enroll s.world b identity extension _).trans (if_pos rfl)
    · exact (World.device_enroll s.world b identity extension x).trans (if_neg hx)
  · exact hl.unregister_unlisted hd fun hr => hm ((hmem d).mpr hr)
  · exact ⟨_, hl.unregister_listed hd ((hmem d).mp hm), rfl, hl.entries_leave ((hmem d).mp hm)⟩

def RosterLog.vacant : RosterLog := { world := { drivers := .push {} { service := "bus" } } }

def RosterLog.replaced (identity : Identity) : RosterLog :=
  let s := ((vacant.register 0 identity (.physical none)).acquire 0).drain 0
  ((s.release 0).unregister 0 0).register 0 identity (.physical none)

/-- The first device cannot be unregistered again, and its successor is found. -/
theorem registry_tells_records_apart_of_replaced :
    ∃ s, RosterLog.Turns 0 True .vacant s ∧ s.left = [0] ∧
    (unregister 0 0).run s.world = (.error .notFound, s.world) ∧
    (s.world.driver 0).registry.find? ⟨"ACPI", "0"⟩ = some 1 := by
  have h₁ :
      RosterLog.Turns 0 True .vacant ((RosterLog.vacant.register 0 ⟨"ACPI", "0"⟩ (.physical none)).acquire 0) :=
    (Relation.ReflTransGen.single (.register _ _ _)).tail
      (.acquire _ 0 (by decide +kernel) fun _ => by decide +kernel)
  have h : RosterLog.Turns 0 True .vacant (.replaced ⟨"ACPI", "0"⟩) :=
    ((((h₁.tail (.drain _ 0 (by decide +kernel))).tail (.release _ 0 (by decide +kernel) fun _ => by
      decide +kernel)).tail (.unregister _ 0)).tail (.register _ _ _))
  have he : ((RosterLog.replaced ⟨"ACPI", "0"⟩).world.driver 0).registry.entries =
      [(⟨⟨"ACPI", "0"⟩, .physical⟩, 1)] := by decide +kernel
  obtain ⟨-, -, -, -, hu, hf, -⟩ := registry_tells_records_apart (w := RosterLog.vacant.world) (b := 0)
    (by decide +kernel) (by decide +kernel) h
  refine ⟨_, h, by decide +kernel, (hu 0).2.1 (by decide +kernel) (by decide +kernel), (hf _ 1).mpr (.inr ?_)⟩
  rw [he]
  exact ⟨List.mem_cons_self, fun x hx => by cases List.mem_singleton.mp hx⟩

end PnpBus
