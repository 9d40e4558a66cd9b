/-!
# Hexadecimal digits
-/

namespace LspClient.Text

/-- The value of a hexadecimal digit, given as its ASCII byte. -/
def hexValue? (b : UInt8) : Option Nat :=
  if 0x30 ≤ b && b ≤ 0x39 then some (b.toNat - 0x30)
  else if 0x41 ≤ b && b ≤ 0x46 then some (b.toNat - 0x41 + 10)
  else if 0x61 ≤ b && b ≤ 0x66 then some (b.toNat - 0x61 + 10)
  else none

/-- The value of a hexadecimal digit. -/
def hexCharValue? (c : Char) : Option Nat :=
  if c.toNat < 0x80 then hexValue? c.toUInt8 else none

/-- The number that digits of a base up to sixteen write; no digits write zero. -/
def numberIn? (base : Nat) (digits : List Char) : Option Nat :=
  digits.foldlM
    (fun n c => (hexCharValue? c).bind fun d => if d < base then some (n * base + d) else none) 0

end LspClient.Text
