/-!
# Base 64

The text of a byte sequence in the standard alphabet: three bytes give four digits, and a last group
of one or two bytes is filled up with `=`.
-/

namespace RepoCollector.Text

/-- The digit for a number below 64. -/
def base64Digit (n : Nat) : Char :=
  if n < 26 then Char.ofNat (65 + n)
  else if n < 52 then Char.ofNat (97 + (n - 26))
  else if n < 62 then Char.ofNat (48 + (n - 52))
  else if n = 62 then '+'
  else '/'

/-- The digits of a byte sequence, bytes given as numbers. -/
def base64 : List Nat → List Char
  | [] => []
  | [a] => [base64Digit (a / 4), base64Digit (a % 4 * 16), '=', '=']
  | [a, b] =>
    [base64Digit (a / 4), base64Digit (a % 4 * 16 + b / 16), base64Digit (b % 16 * 4), '=']
  | a :: b :: c :: rest =>
    base64Digit (a / 4) :: base64Digit (a % 4 * 16 + b / 16) ::
      base64Digit (b % 16 * 4 + c / 64) :: base64Digit (c % 64) :: base64 rest

/-- The bytes of a string, as numbers. -/
def bytesOf (s : String) : List Nat :=
  s.toUTF8.toList.map UInt8.toNat

/-- The base 64 text of a string's bytes. -/
def base64Of (s : String) : String :=
  String.ofList (base64 (bytesOf s))

end RepoCollector.Text
