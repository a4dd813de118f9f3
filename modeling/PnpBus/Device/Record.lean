import PnpBus.Device.Identity
import PnpBus.FilterGate
import PnpBus.Lifecycle
import PnpBus.Power
import PnpBus.RemoveLock

/-!
# Device records and stacks

A `Stack` names the devices that a request passes on its way down: functional
layers over one physical device. A `Device` is everything that is known about
one of them; what depends on its role is in its `Extension`.
-/

namespace PnpBus

abbrev DeviceId := Nat

/-! ## Stacks -/

inductive Stack where
  | physical (d : DeviceId)
  | functional (d : DeviceId) (lower : Stack)
  deriving DecidableEq

namespace Stack

def top : Stack → DeviceId
  | physical d => d
  | functional d _ => d

def bottom : Stack → DeviceId
  | physical d => d
  | functional _ lower => lower.bottom

/-- From the top to the bottom. -/
def members : Stack → List DeviceId
  | physical d => [d]
  | functional d lower => d :: lower.members

/-- The functional devices, from the top. -/
def layers : Stack → List DeviceId
  | physical _ => []
  | functional d lower => d :: lower.layers

theorem top_mem_members (s : Stack) : s.top ∈ s.members := by cases s <;> simp [top, members]

end Stack

/-! ## Records -/

/-- What a functional device has besides: the stack below it, its filter gate and the children it listed. -/
structure Layer where
  lower : Stack
  /-- Decided when the layer is attached and never again. -/
  active : Bool
  gate : FilterGate := {}
  children : List DeviceId := []

inductive Extension where
  /-- The parent is the functional device that enumerated this one, if there is one. -/
  | physical (parent : Option DeviceId)
  | functional (layer : Layer)

def Extension.role : Extension → Role
  | physical _ => .physical
  | functional _ => .functional

namespace Flags

def initializing : UInt32 := 1

/-- The two flags that have a meaning; the other bits are kept but not shown. -/
def known : UInt32 := 3

end Flags

structure Device where
  identity : Identity
  extension : Extension
  lifecycle : Lifecycle := {}
  power : Power := {}
  flags : UInt32 := Flags.initializing
  lock : RemoveLock := {}

namespace Device

instance : Inhabited Device := ⟨{ identity := ⟨"", ""⟩, extension := .physical none }⟩

def role (v : Device) : Role := v.extension.role

def state (v : Device) : PnpState := v.lifecycle.current

def layer? (v : Device) : Option Layer :=
  match v.extension with
  | .physical _ => none
  | .functional layer => some layer

def parent? (v : Device) : Option DeviceId :=
  match v.extension with
  | .physical parent => parent
  | .functional _ => none

def updateLayer (v : Device) (f : Layer → Layer) : Device :=
  match v.extension with
  | .physical _ => v
  | .functional layer => { v with extension := .functional (f layer) }

def children (v : Device) : List DeviceId := (v.layer?.map (·.children)).getD []

def knownFlags (v : Device) : UInt32 := v.flags &&& Flags.known

theorem layer?_of_functional {v : Device} (h : v.role = .functional) : v.layer?.isSome = true := by
  unfold role at h
  unfold layer?
  cases he : v.extension with
  | physical parent => rw [he] at h; cases h
  | functional layer => rfl

/-! A change to the layer leaves alone what is outside of it, and the role. -/

variable (v : Device) (f : Layer → Layer)

@[simp] theorem layer?_updateLayer : (v.updateLayer f).layer? = v.layer?.map f := by
  unfold updateLayer layer?; cases h : v.extension <;> simp [h]

@[simp] theorem role_updateLayer : (v.updateLayer f).role = v.role := by
  unfold updateLayer role; cases h : v.extension <;> simp only [h, Extension.role]

@[simp] theorem parent?_updateLayer : (v.updateLayer f).parent? = v.parent? := by
  unfold updateLayer parent?; cases h : v.extension <;> simp only [h]

@[simp] theorem identity_updateLayer : (v.updateLayer f).identity = v.identity := by
  unfold updateLayer; cases v.extension <;> rfl

@[simp] theorem lifecycle_updateLayer : (v.updateLayer f).lifecycle = v.lifecycle := by
  unfold updateLayer; cases v.extension <;> rfl

@[simp] theorem power_updateLayer : (v.updateLayer f).power = v.power := by
  unfold updateLayer; cases v.extension <;> rfl

@[simp] theorem lock_updateLayer : (v.updateLayer f).lock = v.lock := by
  unfold updateLayer; cases v.extension <;> rfl

end Device

end PnpBus
