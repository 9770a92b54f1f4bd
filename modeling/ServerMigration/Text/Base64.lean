import ServerMigration.Text.Utf8

/-!
# Base64

Three bytes are written as four characters of an alphabet of sixty-four; a last group of one or two
bytes is filled up with `=`.

## Main definitions

* `base64` : bytes in that form.
-/

namespace ServerMigration.Text

/-- The character for a number below sixty-four. -/
def base64Digit (n : Nat) : Char :=
  if n < 26 then Char.ofNat ('A'.toNat + n)
  else if n < 52 then Char.ofNat ('a'.toNat + (n - 26))
  else if n < 62 then Char.ofNat ('0'.toNat + (n - 52))
  else if n = 62 then '+'
  else '/'

/-- Bytes as characters of the alphabet. -/
def base64 : List UInt8 → List Char
  | [] => []
  | [a] =>
    let n := a.toNat * 16
    [base64Digit (n / 64), base64Digit (n % 64), '=', '=']
  | [a, b] =>
    let n := (a.toNat * 256 + b.toNat) * 4
    [base64Digit (n / 4096), base64Digit (n / 64 % 64), base64Digit (n % 64), '=']
  | a :: b :: c :: bytes =>
    let n := (a.toNat * 256 + b.toNat) * 256 + c.toNat
    base64Digit (n / 262144) :: base64Digit (n / 4096 % 64) :: base64Digit (n / 64 % 64)
      :: base64Digit (n % 64) :: base64 bytes

theorem length_base64 (bytes : List UInt8) :
    (base64 bytes).length = (bytes.length + 2) / 3 * 4 := by
  fun_induction base64 bytes with
  | case1 => rfl
  | case2 => simp
  | case3 => simp
  | case4 a b c bytes n ih => simp only [List.length_cons, ih]; omega

end ServerMigration.Text
