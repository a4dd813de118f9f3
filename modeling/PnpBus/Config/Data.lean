import PnpBus.Status
import PnpBus.Text.Quoted

/-! # Configuration values -/

namespace PnpBus

inductive Data where
  | u32 (n : UInt32)
  | u64 (n : UInt64)
  | bool (b : Bool)
  | str (s : String)
  deriving DecidableEq

namespace Data

def asString : Data → Except StoreError String
  | str s => .ok s
  | _ => .error .badType

/-- A truth value reads as a number, a wide number does not. -/
def asU32 : Data → Except StoreError UInt32
  | u32 n => .ok n
  | bool b => .ok (if b then 1 else 0)
  | _ => .error .badType

/-- The value with its kind, as log lines show it. -/
def text : Data → String
  | u32 n => "U32(" ++ toString n.toNat ++ ")"
  | u64 n => "U64(" ++ toString n.toNat ++ ")"
  | bool b => "Bool(" ++ (if b then "true" else "false") ++ ")"
  | str s => "Str(" ++ Text.quote s ++ ")"

end Data

end PnpBus
