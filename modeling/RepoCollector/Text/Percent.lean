import RepoCollector.Text.Base64

/-!
# Percent encoding

A text as one segment of a URL: letters, digits and `-`, `.`, `_`, `~` stand for themselves, every
other byte is a percent sign and two hexadecimal digits.
-/

namespace RepoCollector.Text

/-- The bytes that stand for themselves in a URL segment. -/
def isUnreserved (byte : Nat) : Bool :=
  (48 ≤ byte && byte ≤ 57) || (65 ≤ byte && byte ≤ 90) || (97 ≤ byte && byte ≤ 122) ||
    byte == 45 || byte == 46 || byte == 95 || byte == 126

/-- The upper case hexadecimal digit for a number below 16. -/
def upperHexDigit (n : Nat) : Char :=
  if n < 10 then Char.ofNat (48 + n) else Char.ofNat (55 + n)

/-- How one byte is written in a URL segment. -/
def percentByte (byte : Nat) : List Char :=
  if isUnreserved byte then [Char.ofNat byte]
  else ['%', upperHexDigit (byte / 16), upperHexDigit (byte % 16)]

/-- A text as a segment of a URL. -/
def percentEncoded (s : String) : String :=
  String.ofList ((bytesOf s).flatMap percentByte)

end RepoCollector.Text
