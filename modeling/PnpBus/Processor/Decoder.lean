import PnpBus.Processor.Cpu

/-!
# The decoder that commands run with

It follows what is documented of the leaves. A leaf is there if leaf 0 names
it or a higher one. The type of a level of leaf 0xB is zero where there is no
level, and cannot be decoded above five.
-/

namespace PnpBus

def littleEndian (n : UInt32) : List UInt8 :=
  [n.toUInt8, (n >>> 8).toUInt8, (n >>> 16).toUInt8, (n >>> 24).toUInt8]

namespace Registers

/-- The bytes of the vendor's name, in leaf 0. -/
def vendorBytes (r : Registers) : ByteArray :=
  ⟨(littleEndian r.ebx ++ littleEndian r.edx ++ littleEndian r.ecx).toArray⟩

/-- The type of a level, in leaf 0xB. -/
def levelType (r : Registers) : UInt32 := (r.ecx >>> 8) &&& 0xFF

end Registers

namespace CpuDecoder

def documented : CpuDecoder where
  vendor? cpuid := return some ((String.fromUTF8? (cpuid 0 0).vendorBytes).getD "InvalidVendorString")
  wideApicId? cpuid :=
    if (cpuid 0 0).eax < 0xB ∨ (cpuid 0xB 0).levelType = 0 then return none
    else if (cpuid 0xB 0).levelType ≤ 5 then return some (cpuid 0xB 0).edx
    else throw .undecodable
  apicId? cpuid := return if (cpuid 0 0).eax < 1 then none else some ((cpuid 1 0).ebx >>> 24).toUInt8

end CpuDecoder

end PnpBus
