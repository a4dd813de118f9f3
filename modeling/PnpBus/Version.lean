/-!
# Module versions

Modules built from different trees must not mix: a peer is compatible only
when all four numbers agree with `Version.current`.
-/

namespace PnpBus

structure Version where
  major : UInt32
  minor : UInt32
  micro : UInt32
  build : UInt32
  deriving DecidableEq, Inhabited

namespace Version

def current : Version := ⟨0, 1, 0, 0⟩

def text (v : Version) : String :=
  ".".intercalate [toString v.major.toNat, toString v.minor.toNat, toString v.micro.toNat, toString v.build.toNat]

end Version

end PnpBus
