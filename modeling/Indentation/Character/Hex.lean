/-!
# Hexadecimal digits

## Main definitions

* `Character.hexValue?` — the value of a hexadecimal digit
* `Character.ofHexValues` — the number with given hexadecimal digits
-/

namespace Indentation.Character

/-- The value of a hexadecimal digit, in uppercase or lowercase. -/
def hexValue? (c : Char) : Option Nat :=
  if '0' ≤ c && c ≤ '9' then some (c.toNat - 48)
  else if 'a' ≤ c && c ≤ 'f' then some (c.toNat - 87)
  else if 'A' ≤ c && c ≤ 'F' then some (c.toNat - 55)
  else none

/-- The number with the given hexadecimal digits, most significant first. -/
def ofHexValues (values : List Nat) : Nat :=
  values.foldl (fun number value => 16 * number + value) 0

end Indentation.Character
