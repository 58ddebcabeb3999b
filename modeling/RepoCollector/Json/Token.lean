/-!
# The words of JSON

A JSON text is cut into words: brackets, commas, colons, literals, numbers and string literals, with
white space between them.  `words` fails on a character that begins no word, on a string literal
that is not closed or holds a control character or an unknown escape, and on a run of number
characters that is not a number.

A string literal is kept as a list of pieces, because an escape may give one half of a character
beyond the basic plane.  `decodePieces` joins such halves and fails on a half that stands alone; a
literal that nobody reads may hold one.
-/

namespace RepoCollector.Json

/-- A part of a string literal: a character, or a sixteen bit unit given by its number. -/
inductive Piece where
  | char (c : Char)
  | unit (code : Nat)
deriving DecidableEq, Repr

/-- A word of a JSON text. -/
inductive Token where
  | openArray
  | closeArray
  | openObject
  | closeObject
  | comma
  | colon
  | null
  | bool (value : Bool)
  | number (lexeme : List Char)
  | string (pieces : List Piece)
deriving DecidableEq, Repr

/-- The white space between words. -/
def isSpace (c : Char) : Bool :=
  c == ' ' || c == '\n' || c == '\t' || c == '\r'

/-- The characters that occur in numbers. -/
def isNumberChar (c : Char) : Bool :=
  c.isDigit || c == '-' || c == '+' || c == '.' || c == 'e' || c == 'E'

/-- The value of a hexadecimal digit. -/
def hexValue? (c : Char) : Option Nat :=
  if '0' ≤ c ∧ c ≤ '9' then some (c.toNat - 48)
  else if 'a' ≤ c ∧ c ≤ 'f' then some (c.toNat - 87)
  else if 'A' ≤ c ∧ c ≤ 'F' then some (c.toNat - 55)
  else none

/-- The number written by four hexadecimal digits. -/
def hexUnit? (a b c d : Char) : Option Nat := do
  let a ← hexValue? a
  let b ← hexValue? b
  let c ← hexValue? c
  let d ← hexValue? d
  return ((a * 16 + b) * 16 + c) * 16 + d

/-- The character that a short escape stands for. -/
def shortEscape? (c : Char) : Option Char :=
  match c with
  | '"' => some '"'
  | '\\' => some '\\'
  | '/' => some '/'
  | 'b' => some '\x08'
  | 'f' => some '\x0c'
  | 'n' => some '\n'
  | 'r' => some '\r'
  | 't' => some '\t'
  | _ => none

/-- Reads a string literal whose opening quote has been read.  Gives its pieces and the rest. -/
def literal? : List Char → Option (List Piece × List Char)
  | [] => none
  | '"' :: rest => some ([], rest)
  | '\\' :: 'u' :: a :: b :: c :: d :: rest => do
    let code ← hexUnit? a b c d
    let (pieces, rest) ← literal? rest
    return (.unit code :: pieces, rest)
  | '\\' :: e :: rest => do
    let c ← shortEscape? e
    let (pieces, rest) ← literal? rest
    return (.char c :: pieces, rest)
  | c :: rest =>
    if c.toNat < 0x20 ∨ c = '\\' then none
    else do
      let (pieces, rest) ← literal? rest
      return (.char c :: pieces, rest)

theorem length_lt_of_literal? {cs rest : List Char} {pieces : List Piece}
    (read : literal? cs = some (pieces, rest)) : rest.length < cs.length := by
  fun_induction literal? cs generalizing pieces rest with
  | case1 => simp at read
  | case2 => simp_all
  | case3 a b c d tail ih =>
    simp only [Option.bind_eq_bind, Option.bind_eq_some_iff, Option.pure_def,
      Option.some.injEq, Prod.mk.injEq, Prod.exists] at read
    obtain ⟨code, found, front, back, step, eq, rfl⟩ := read
    have := ih step
    simp only [List.length_cons]
    omega
  | case4 e tail notUnit ih =>
    simp only [Option.bind_eq_bind, Option.bind_eq_some_iff, Option.pure_def,
      Option.some.injEq, Prod.mk.injEq, Prod.exists] at read
    obtain ⟨code, found, front, back, step, eq, rfl⟩ := read
    have := ih step
    simp only [List.length_cons]
    omega
  | case5 => simp at read
  | case6 c tail notQuote notUnit notEscape plain ih =>
    simp only [Option.bind_eq_bind, Option.bind_eq_some_iff, Option.pure_def,
      Option.some.injEq, Prod.mk.injEq, Prod.exists] at read
    obtain ⟨front, back, step, eq, rfl⟩ := read
    have := ih step
    simp only [List.length_cons]
    omega

/-- The digits at the front of a text, at least one, and the rest. -/
def digits? (cs : List Char) : Option (List Char) :=
  match cs with
  | c :: rest => if c.isDigit then some (rest.dropWhile Char.isDigit) else none
  | [] => none

/-- What may follow the whole part of a number: a fraction, an exponent, both or neither. -/
def isNumberTail (cs : List Char) : Bool :=
  let afterFraction : Option (List Char) :=
    match cs with
    | '.' :: rest => digits? rest
    | _ => some cs
  match afterFraction with
  | none => false
  | some [] => true
  | some (e :: rest) =>
    (e == 'e' || e == 'E') &&
      digits? (match rest with
        | '+' :: more => more
        | '-' :: more => more
        | _ => rest) == some []

/-- Whether a text is a number: an optional minus sign, a whole part without leading zeros, and
what may follow it. -/
def isNumber (cs : List Char) : Bool :=
  let unsigned := match cs with
    | '-' :: rest => rest
    | _ => cs
  match unsigned with
  | [] => false
  | '0' :: rest => isNumberTail rest
  | c :: rest => c.isDigit && isNumberTail (rest.dropWhile Char.isDigit)

/-- The literal that a run of letters spells. -/
def literalWord? (letters : List Char) : Option Token :=
  if letters = ['n', 'u', 'l', 'l'] then some .null
  else if letters = ['t', 'r', 'u', 'e'] then some (.bool true)
  else if letters = ['f', 'a', 'l', 's', 'e'] then some (.bool false)
  else none

/-- The word made of one character. -/
def mark? (c : Char) : Option Token :=
  match c with
  | '[' => some .openArray
  | ']' => some .closeArray
  | '\x7b' => some .openObject
  | '\x7d' => some .closeObject
  | ',' => some .comma
  | ':' => some .colon
  | _ => none

/-- The first word of a text that begins with `c`, and the rest. -/
def word? (c : Char) (cs : List Char) : Option (Token × List Char) :=
  if c = '"' then (literal? cs).map fun (pieces, rest) => (.string pieces, rest)
  else
    match mark? c with
    | some token => some (token, cs)
    | none =>
      if c.isAlpha then do
        let token ← literalWord? (c :: cs.takeWhile Char.isAlpha)
        return (token, cs.dropWhile Char.isAlpha)
      else
        let lexeme := c :: cs.takeWhile isNumberChar
        if isNumber lexeme then some (.number lexeme, cs.dropWhile isNumberChar) else none

theorem length_le_of_word? {c : Char} {cs rest : List Char} {token : Token}
    (read : word? c cs = some (token, rest)) : rest.length ≤ cs.length := by
  unfold word? at read
  split at read
  · simp only [Option.map_eq_some_iff, Prod.mk.injEq, Prod.exists] at read
    obtain ⟨pieces, back, found, rfl, rfl⟩ := read
    exact Nat.le_of_lt (length_lt_of_literal? found)
  · split at read
    · simp only [Option.some.injEq, Prod.mk.injEq] at read
      obtain ⟨_, rfl⟩ := read
      exact Nat.le_refl _
    · split at read
      · simp only [Option.bind_eq_bind, Option.bind_eq_some_iff, Option.pure_def,
          Option.some.injEq, Prod.mk.injEq] at read
        obtain ⟨_, _, _, rfl⟩ := read
        exact (List.dropWhile_sublist _).length_le
      · simp only [Option.ite_none_right_eq_some, Option.some.injEq, Prod.mk.injEq] at read
        obtain ⟨_, _, rfl⟩ := read
        exact (List.dropWhile_sublist _).length_le

/-- The words of a text. -/
def words : List Char → Option (List Token)
  | [] => some []
  | c :: cs =>
    if isSpace c then words cs
    else
      match _read : word? c cs with
      | none => none
      | some (token, rest) => (words rest).map (token :: ·)
termination_by cs => cs.length
decreasing_by
  · simp
  · have := length_le_of_word? _read
    simp only [List.length_cons]
    omega

/-- The character for a number that is no half of a pair. -/
def unitChar? (code : Nat) : Option Char :=
  if code < 0xD800 ∨ (0xDFFF < code ∧ code < 0x110000) then some (Char.ofNat code) else none

/-- The character written by two halves. -/
def pairChar? (high low : Nat) : Option Char :=
  if 0xD800 ≤ high ∧ high ≤ 0xDBFF ∧ 0xDC00 ≤ low ∧ low ≤ 0xDFFF then
    some (Char.ofNat (0x10000 + (high - 0xD800) * 0x400 + (low - 0xDC00)))
  else none

/-- The characters of a string literal, if no half of a pair stands alone in it. -/
def decodePieces : List Piece → Option (List Char)
  | [] => some []
  | .char c :: rest => (decodePieces rest).map (c :: ·)
  | .unit high :: .unit low :: rest =>
    match pairChar? high low with
    | some c => (decodePieces rest).map (c :: ·)
    | none => do
      let c ← unitChar? high
      let cs ← decodePieces (.unit low :: rest)
      return c :: cs
  | .unit code :: rest => do
    let c ← unitChar? code
    let cs ← decodePieces rest
    return c :: cs

end RepoCollector.Json
