import Appliance.Secret

/-!
# Base 64

Octets as text: three octets are four digits to the base of 64, and two or one at
the end are three or two digits and equals signs up to four characters.
-/

namespace Appliance.Text.Base64

/-- The digits. -/
def alphabet : List Char :=
  "ABCDEFGHIJKLMNOPQRSTUVWXYZabcdefghijklmnopqrstuvwxyz0123456789+/".toList

/-- The digit of a value. -/
def digit (n : Nat) : Char := alphabet[n % 64]?.getD 'A'

/-- The characters of some octets. -/
def encode : Octets → List Char
  | [] => []
  | [a] =>
    let n := 65536 * a.toNat
    [digit (n / 262144), digit (n / 4096), '=', '=']
  | [a, b] =>
    let n := 65536 * a.toNat + 256 * b.toNat
    [digit (n / 262144), digit (n / 4096), digit (n / 64), '=']
  | a :: b :: c :: rest =>
    let n := 65536 * a.toNat + 256 * b.toNat + c.toNat
    digit (n / 262144) :: digit (n / 4096) :: digit (n / 64) :: digit n :: encode rest

end Appliance.Text.Base64
