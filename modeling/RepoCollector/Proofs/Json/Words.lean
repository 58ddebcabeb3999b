import RepoCollector.Json.Value
import RepoCollector.Proofs.Number.Signed

/-! # Written words

How the words of a JSON text may be written: blanks between them, numerals, string literals
(`RepoCollector.Json.IsNumeral`, `RepoCollector.Json.IsLiteral`).  A word that is written is read,
whatever comes after it, as long as a literal is not followed by another letter and a numeral not by
another of its characters (`RepoCollector.Json.scan_numeral`, `RepoCollector.Json.scan_literal`).

A text is *spelled* by the pieces of a string literal when each of its characters is written for
itself, by its number, or by the numbers of two halves (`RepoCollector.Json.spells_of_decodePieces`,
`RepoCollector.Json.Spells.decode`).  Every text has a literal
(`RepoCollector.Json.exists_isLiteral`).
-/

namespace RepoCollector.Json

/-! ## Blanks and ends -/

/-- White space, or none. -/
def IsBlank (blank : List Char) : Prop :=
  ∀ c ∈ blank, c = ' ' ∨ c = '\n' ∨ c = '\t' ∨ c = '\r'

/-- No name and no numeral goes on into the text. -/
def Ends (rest : List Char) : Prop :=
  ∀ c ∈ rest.head?, c.isAlpha = false ∧ isNumberChar c = false

/-- What the machine makes of the words of a text. -/
def scan (state : Reading) (text : List Char) : Option Reading :=
  (words text).bind state.takeAll

theorem isSpace_iff {c : Char} :
    isSpace c = true ↔ c = ' ' ∨ c = '\n' ∨ c = '\t' ∨ c = '\r' := by
  simp only [isSpace, Bool.or_eq_true, beq_iff_eq, or_assoc]

/-- No letter and no character of a number is a mark. -/
theorem classes_of_mark {c : Char} {token : Token} (mark : mark? c = some token) :
    c.isAlpha = false ∧ isNumberChar c = false := by
  unfold mark? at mark
  split at mark <;> cases mark <;> exact ⟨rfl, rfl⟩

theorem words_space {c : Char} {cs : List Char} (space : isSpace c = true) :
    words (c :: cs) = words cs := by
  rw [words, if_pos space]

theorem words_word {c : Char} {cs rest : List Char} {token : Token} (begins : isSpace c = false)
    (read : word? c cs = some (token, rest)) :
    words (c :: cs) = (words rest).map (token :: ·) := by
  rw [words, if_neg (ne_true_of_eq_false begins)]
  split
  next none => cases none.symm.trans read
  next found =>
    cases found.symm.trans read
    rfl

theorem scan_nil (state : Reading) : scan state [] = some state := by
  rw [scan, words]
  rfl

theorem scan_word {state : Reading} {c : Char} {cs rest : List Char} {token : Token}
    (begins : isSpace c = false) (read : word? c cs = some (token, rest)) :
    scan state (c :: cs) = (state.take token).bind (scan · rest) := by
  rw [scan, words_word begins read]
  cases found : words rest with
  | none => cases taken : state.take token <;> simp [scan, found]
  | some tokens => simp [scan, found, Reading.takeAll]

theorem scan_blank (state : Reading) {blank : List Char} (isBlank : IsBlank blank)
    (rest : List Char) : scan state (blank ++ rest) = scan state rest := by
  induction blank with
  | nil => rfl
  | cons c cs ih =>
      have space : isSpace c = true := isSpace_iff.mpr (isBlank c List.mem_cons_self)
      rw [List.cons_append, scan, words_space space]
      exact ih fun d member => isBlank d (List.mem_cons_of_mem c member)

theorem ends_nil : Ends [] := fun _ none => nomatch none

theorem ends_mark {c : Char} {token : Token} (mark : mark? c = some token) (rest : List Char) :
    Ends (c :: rest) := by
  intro d head
  cases head
  exact classes_of_mark mark

theorem Ends.blank {rest : List Char} (ends : Ends rest) {blank : List Char}
    (isBlank : IsBlank blank) : Ends (blank ++ rest) := by
  cases blank with
  | nil => exact ends
  | cons c cs =>
      intro d head
      cases head
      obtain rfl | rfl | rfl | rfl := isBlank c List.mem_cons_self <;> exact ⟨rfl, rfl⟩

theorem scan_mark (state : Reading) {c : Char} {token : Token} (mark : mark? c = some token)
    (rest : List Char) : scan state (c :: rest) = (state.take token).bind (scan · rest) := by
  unfold mark? at mark
  split at mark <;> cases mark <;> exact scan_word rfl rfl

/-! ## Names of values -/

theorem takeWhile_append_of_ends {keep : Char → Bool} {front rest : List Char}
    (kept : ∀ c ∈ front, keep c = true) (ends : ∀ c ∈ rest.head?, keep c = false) :
    (front ++ rest).takeWhile keep = front ∧ (front ++ rest).dropWhile keep = rest := by
  rw [List.takeWhile_append_of_pos kept, List.dropWhile_append_of_pos kept]
  cases rest with
  | nil => exact ⟨List.append_nil front, rfl⟩
  | cons c cs =>
      have stops := ne_true_of_eq_false (ends c rfl)
      rw [List.takeWhile_cons_of_neg stops, List.dropWhile_cons_of_neg stops]
      exact ⟨List.append_nil front, rfl⟩

/-- The names of the values that have one. -/
def nameOf? : Token → Option (List Char)
  | .null => some ['n', 'u', 'l', 'l']
  | .bool true => some ['t', 'r', 'u', 'e']
  | .bool false => some ['f', 'a', 'l', 's', 'e']
  | _ => none

theorem scan_name (state : Reading) {token : Token} {name rest : List Char}
    (named : nameOf? token = some name) (ends : Ends rest) :
    scan state (name ++ rest) = (state.take token).bind (scan · rest) := by
  obtain ⟨c, cs, rfl, begins, plain, noMark, letter, letters, word⟩ : ∃ c cs, name = c :: cs ∧
      isSpace c = false ∧ c ≠ '"' ∧ mark? c = none ∧ c.isAlpha = true ∧
      (∀ d ∈ cs, d.isAlpha = true) ∧ literalWord? (c :: cs) = some token := by
    unfold nameOf? at named
    split at named <;> cases named <;>
      exact ⟨_, _, rfl, rfl, by decide, rfl, rfl, List.all_eq_true.mp rfl, rfl⟩
  obtain ⟨takes, drops⟩ := takeWhile_append_of_ends letters fun d head => (ends d head).1
  rw [List.cons_append]
  apply scan_word begins
  rw [word?, if_neg plain, noMark]
  dsimp only
  rw [if_pos letter, takes, drops, word]
  rfl

/-! ## Numerals -/

def IsDigits (text : List Char) : Prop := text ≠ [] ∧ ∀ c ∈ text, c.isDigit = true

/-- The whole part of a numeral has no leading zeros. -/
inductive IsWhole : List Char → Prop where
  | zero : IsWhole ['0']
  | digits {c : Char} {cs : List Char} (leads : c ≠ '0') (digits : IsDigits (c :: cs)) :
      IsWhole (c :: cs)

inductive IsFraction : List Char → Prop where
  | none : IsFraction []
  | point {digits : List Char} (isDigits : IsDigits digits) : IsFraction ('.' :: digits)

inductive IsExponent : List Char → Prop where
  | none : IsExponent []
  | power {mark : Char} {sign digits : List Char} (isMark : mark = 'e' ∨ mark = 'E')
      (isSign : sign = [] ∨ sign = ['+'] ∨ sign = ['-']) (isDigits : IsDigits digits) :
      IsExponent (mark :: (sign ++ digits))

/-- **How a number may be written.** -/
inductive IsNumeral : List Char → Prop where
  | parts {sign whole fraction exponent : List Char} (isSign : sign = [] ∨ sign = ['-'])
      (isWhole : IsWhole whole) (isFraction : IsFraction fraction)
      (isExponent : IsExponent exponent) :
      IsNumeral (sign ++ (whole ++ (fraction ++ exponent)))

theorem digits?_append {digits rest : List Char} (isDigits : IsDigits digits)
    (ends : ∀ c ∈ rest.head?, c.isDigit = false) : digits? (digits ++ rest) = some rest := by
  obtain ⟨filled, all⟩ := isDigits
  cases digits with
  | nil => exact absurd rfl filled
  | cons c cs =>
      obtain ⟨first, others⟩ := List.forall_mem_cons.mp all
      rw [List.cons_append, digits?, if_pos first, (takeWhile_append_of_ends others ends).2]

theorem IsExponent.head {exponent : List Char} (isExponent : IsExponent exponent) :
    ∀ c ∈ exponent.head?, c.isDigit = false := by
  cases isExponent with
  | none => exact fun _ none => nomatch none
  | power isMark =>
      intro c head
      cases head
      obtain rfl | rfl := isMark <;> rfl

theorem IsFraction.head {fraction exponent : List Char} (isFraction : IsFraction fraction)
    (isExponent : IsExponent exponent) :
    ∀ c ∈ (fraction ++ exponent).head?, c.isDigit = false := by
  cases isFraction with
  | none => exact isExponent.head
  | point =>
      intro c head
      cases head
      rfl

theorem isNumberTail_of_isExponent {exponent : List Char} (isExponent : IsExponent exponent) :
    isNumberTail exponent = true := by
  cases isExponent with
  | none => rfl
  | @power mark sign digits isMark isSign isDigits =>
      have read : digits? digits = some [] := by
        have read : digits? (digits ++ []) = some [] :=
          digits?_append isDigits fun _ none => nomatch none
        rwa [List.append_nil] at read
      obtain rfl | rfl | rfl := isSign
      · obtain ⟨filled, all⟩ := isDigits
        cases digits with
        | nil => exact absurd rfl filled
        | cons c cs =>
            -- A digit is no sign, so none is taken off the front.
            obtain ⟨plus, minus⟩ : c ≠ '+' ∧ c ≠ '-' := by
              have digit := all c List.mem_cons_self
              constructor <;> rintro rfl <;> cases digit
            obtain rfl | rfl := isMark <;> simp [isNumberTail, plus, minus, read]
      · obtain rfl | rfl := isMark <;> simp [isNumberTail, read]
      · obtain rfl | rfl := isMark <;> simp [isNumberTail, read]

theorem isNumberTail_append {fraction exponent : List Char} (isFraction : IsFraction fraction)
    (isExponent : IsExponent exponent) : isNumberTail (fraction ++ exponent) = true := by
  have tail := isNumberTail_of_isExponent isExponent
  cases isFraction with
  | none => exact tail
  | point isDigits =>
      have read := digits?_append isDigits isExponent.head
      cases isExponent with
      | none => simp only [List.cons_append, isNumberTail, read]
      | power isMark =>
          rw [List.cons_append, ← tail]
          obtain rfl | rfl := isMark
          · simp only [isNumberTail, read]
            rfl
          · simp only [isNumberTail, read]
            rfl

theorem isNumber_of_isNumeral {numeral : List Char} (isNumeral : IsNumeral numeral) :
    isNumber numeral = true := by
  obtain @⟨sign, whole, fraction, exponent, isSign, isWhole, isFraction, isExponent⟩ := isNumeral
  have tail := isNumberTail_append isFraction isExponent
  have bare : isNumber (whole ++ (fraction ++ exponent)) = true ∧
      isNumber ('-' :: (whole ++ (fraction ++ exponent))) = true := by
    cases isWhole with
    | zero => exact ⟨tail, tail⟩
    | @digits c cs leads isDigits =>
        obtain ⟨first, others⟩ := List.forall_mem_cons.mp isDigits.2
        have minus : c ≠ '-' := by
          rintro rfl
          cases first
        have drops := (takeWhile_append_of_ends others (isFraction.head isExponent)).2
        constructor <;> simp [isNumber, minus, first, drops, tail]
  obtain rfl | rfl := isSign
  · exact bare.1
  · exact bare.2

theorem isNumberChar_of_isDigit {c : Char} (digit : c.isDigit = true) : isNumberChar c = true := by
  simp only [isNumberChar, digit, Bool.true_or]

theorem isNumberChar_of_mem {numeral : List Char} (isNumeral : IsNumeral numeral) :
    ∀ c ∈ numeral, isNumberChar c = true := by
  have digits {text : List Char} (isDigits : IsDigits text) : ∀ c ∈ text, isNumberChar c = true :=
    fun c member => isNumberChar_of_isDigit (isDigits.2 c member)
  obtain ⟨isSign, isWhole, isFraction, isExponent⟩ := isNumeral
  simp only [List.forall_mem_append]
  refine ⟨?_, ?_, ?_, ?_⟩
  · obtain rfl | rfl := isSign <;> exact List.all_eq_true.mp rfl
  · cases isWhole with
    | zero => exact List.all_eq_true.mp rfl
    | digits _ isDigits => exact digits isDigits
  · cases isFraction with
    | none => exact fun _ member => absurd member List.not_mem_nil
    | point isDigits => exact List.forall_mem_cons.mpr ⟨rfl, digits isDigits⟩
  · cases isExponent with
    | none => exact fun _ member => absurd member List.not_mem_nil
    | power isMark isSign isDigits =>
        refine List.forall_mem_cons.mpr ⟨?_, List.forall_mem_append.mpr ⟨?_, digits isDigits⟩⟩
        · obtain rfl | rfl := isMark <;> rfl
        · obtain rfl | rfl | rfl := isSign <;> exact List.all_eq_true.mp rfl

theorem IsNumeral.begins {numeral : List Char} (isNumeral : IsNumeral numeral) :
    ∃ c cs, numeral = c :: cs ∧ (c = '-' ∨ c.isDigit = true) := by
  obtain ⟨isSign, isWhole, _, _⟩ := isNumeral
  obtain rfl | rfl := isSign
  · cases isWhole with
    | zero => exact ⟨_, _, rfl, .inr rfl⟩
    | digits _ isDigits => exact ⟨_, _, rfl, .inr (isDigits.2 _ List.mem_cons_self)⟩
  · exact ⟨_, _, rfl, .inl rfl⟩

theorem isAlpha_of_isDigit {c : Char} (digit : c.isDigit = true) : c.isAlpha = false := by
  have range := toNat_of_isDigit digit
  rw [← Bool.not_eq_true]
  intro letter
  obtain upper | lower := Bool.or_eq_true_iff.mp letter
  · have above : 'A'.val ≤ c.val := (of_decide_eq_true upper).1
    have beyond : 65 ≤ c.toNat := UInt32.le_iff_toNat_le.mp above
    omega
  · have above : 'a'.val ≤ c.val := of_decide_eq_true (Bool.and_eq_true_iff.mp lower).1
    have beyond : 97 ≤ c.toNat := UInt32.le_iff_toNat_le.mp above
    omega

/-- No other word begins as a numeral does. -/
theorem begins_numeral {c : Char} (begins : c = '-' ∨ c.isDigit = true) :
    isSpace c = false ∧ c ≠ '"' ∧ mark? c = none ∧ c.isAlpha = false := by
  obtain rfl | digit := begins
  · decide
  · refine ⟨?_, ?_, ?_, isAlpha_of_isDigit digit⟩
    · rw [← Bool.not_eq_true, isSpace_iff]
      rintro (rfl | rfl | rfl | rfl) <;> cases digit
    · rintro rfl
      cases digit
    · rw [Option.eq_none_iff_forall_ne_some]
      intro token mark
      cases (classes_of_mark mark).2.symm.trans (isNumberChar_of_isDigit digit)

theorem scan_numeral (state : Reading) {numeral rest : List Char} (isNumeral : IsNumeral numeral)
    (ends : Ends rest) :
    scan state (numeral ++ rest) = (state.take (.number numeral)).bind (scan · rest) := by
  obtain ⟨c, cs, rfl, begins⟩ := isNumeral.begins
  obtain ⟨noSpace, noQuote, noMark, noLetter⟩ := begins_numeral begins
  obtain ⟨_, others⟩ := List.forall_mem_cons.mp (isNumberChar_of_mem isNumeral)
  obtain ⟨takes, drops⟩ := takeWhile_append_of_ends others fun d head => (ends d head).2
  rw [List.cons_append]
  apply scan_word noSpace
  rw [word?, if_neg noQuote, noMark]
  dsimp only
  rw [if_neg (ne_true_of_eq_false noLetter), takes, drops,
    if_pos (isNumber_of_isNumeral isNumeral)]

/-! ## String literals -/

/-- The hexadecimal digits, each one at its value. -/
def hexDigits : List Char :=
  ['0', '1', '2', '3', '4', '5', '6', '7', '8', '9', 'a', 'b', 'c', 'd', 'e', 'f']

/-- The digit may be a capital letter. -/
def IsHexDigit (digit : Char) (n : Nat) : Prop :=
  hexDigits[n]? = some digit ∨ (hexDigits.map Char.toUpper)[n]? = some digit

/-- The letters of the short escapes, and what they stand for. -/
def shortEscapes : List (Char × Char) :=
  [('"', '"'), ('\\', '\\'), ('/', '/'), ('b', '\x08'), ('f', '\x0c'), ('n', '\n'), ('r', '\r'),
    ('t', '\t')]

/-- How a part of a string literal may be written. -/
inductive IsPiece : Piece → List Char → Prop where
  | plain {c : Char} (printable : 0x20 ≤ c.toNat) (quote : c ≠ '"') (escape : c ≠ '\\') :
      IsPiece (.char c) [c]
  | short {e c : Char} (known : (e, c) ∈ shortEscapes) : IsPiece (.char c) ['\\', e]
  | unit {a b c d : Char} {i j k l : Nat} (first : IsHexDigit a i) (second : IsHexDigit b j)
      (third : IsHexDigit c k) (fourth : IsHexDigit d l) :
      IsPiece (.unit (((i * 16 + j) * 16 + k) * 16 + l)) ['\\', 'u', a, b, c, d]

/-- **How the inside of a string literal may be written.** -/
inductive IsLiteral : List Piece → List Char → Prop where
  | nil : IsLiteral [] []
  | cons {piece : Piece} {pieces : List Piece} {text rest : List Char}
      (isPiece : IsPiece piece text) (isLiteral : IsLiteral pieces rest) :
      IsLiteral (piece :: pieces) (text ++ rest)

theorem hexValue?_of_isHexDigit {digit : Char} {n : Nat} (isHexDigit : IsHexDigit digit n) :
    hexValue? digit = some n := by
  have small : ∀ n : Fin 16, hexValue? hexDigits[n] = some n.val := by decide
  have capital : ∀ n : Fin 16, hexValue? (hexDigits.map Char.toUpper)[n] = some n.val := by decide
  obtain found | found := isHexDigit
  · obtain ⟨bound, rfl⟩ := List.getElem?_eq_some_iff.mp found
    exact small ⟨n, bound⟩
  · obtain ⟨bound, rfl⟩ := List.getElem?_eq_some_iff.mp found
    exact capital ⟨n, bound⟩

theorem shortEscape?_of_mem {e c : Char} (known : (e, c) ∈ shortEscapes) :
    shortEscape? e = some c ∧ e ≠ 'u' := by
  simp only [shortEscapes, List.mem_cons, List.not_mem_nil, or_false, Prod.mk.injEq] at known
  obtain ⟨rfl, rfl⟩ | ⟨rfl, rfl⟩ | ⟨rfl, rfl⟩ | ⟨rfl, rfl⟩ | ⟨rfl, rfl⟩ | ⟨rfl, rfl⟩ | ⟨rfl, rfl⟩ |
    ⟨rfl, rfl⟩ := known <;> decide

theorem literal?_piece {piece : Piece} {text : List Char} (isPiece : IsPiece piece text)
    (rest : List Char) : literal? (text ++ rest) =
      (literal? rest).map fun (pieces, rest) => (piece :: pieces, rest) := by
  cases isPiece with
  | @plain c printable quote escape =>
      change literal? (c :: rest) = _
      rw [literal?, if_neg (not_or.mpr ⟨Nat.not_lt.mpr printable, escape⟩)]
      · cases literal? rest <;> rfl
      · exact quote
      · exact fun _ _ _ _ _ same _ => escape same
      · exact fun _ _ same _ => escape same
  | @short e c known =>
      obtain ⟨found, other⟩ := shortEscape?_of_mem known
      change literal? ('\\' :: e :: rest) = _
      rw [literal?, found]
      · cases literal? rest <;> rfl
      · exact fun _ _ _ _ _ same _ => other same
  | @unit a b c d i j k l first second third fourth =>
      have unit : hexUnit? a b c d = some (((i * 16 + j) * 16 + k) * 16 + l) := by
        rw [hexUnit?, hexValue?_of_isHexDigit first, hexValue?_of_isHexDigit second,
          hexValue?_of_isHexDigit third, hexValue?_of_isHexDigit fourth]
        rfl
      change literal? ('\\' :: 'u' :: a :: b :: c :: d :: rest) = _
      rw [literal?, unit]
      cases literal? rest <;> rfl

theorem literal?_append {pieces : List Piece} {text : List Char} (isLiteral : IsLiteral pieces text)
    (rest : List Char) : literal? (text ++ '"' :: rest) = some (pieces, rest) := by
  induction isLiteral with
  | nil => rw [List.nil_append, literal?]
  | cons isPiece _ ih => rw [List.append_assoc, literal?_piece isPiece, ih, Option.map_some]

theorem scan_literal (state : Reading) {pieces : List Piece} {text : List Char}
    (isLiteral : IsLiteral pieces text) (rest : List Char) :
    scan state ('"' :: (text ++ '"' :: rest)) =
      (state.take (.string pieces)).bind (scan · rest) := by
  apply scan_word rfl
  rw [word?, if_pos rfl, literal?_append isLiteral, Option.map_some]

/-! ## Spellings -/

/-- **How a text may be spelled by the pieces of a literal.**  A character beyond the basic plane
may be given by the numbers of its two halves. -/
inductive Spells : List Char → List Piece → Prop where
  | nil : Spells [] []
  | plain {c : Char} {text : List Char} {pieces : List Piece} (rest : Spells text pieces) :
      Spells (c :: text) (.char c :: pieces)
  | unit {c : Char} {text : List Char} {pieces : List Piece} (rest : Spells text pieces) :
      Spells (c :: text) (.unit c.toNat :: pieces)
  | pair {c : Char} {text : List Char} {pieces : List Piece} {high low : Nat}
      (highBound : high < 0x400) (lowBound : low < 0x400)
      (value : c.toNat = 0x10000 + high * 0x400 + low) (rest : Spells text pieces) :
      Spells (c :: text) (.unit (0xD800 + high) :: .unit (0xDC00 + low) :: pieces)

theorem toNat_of_ofNat {n : Nat} (isChar : n.isValidChar) : (Char.ofNat n).toNat = n := by
  rw [Char.ofNat, dif_pos isChar]
  rfl

theorem unitChar?_eq_some_iff {code : Nat} {c : Char} :
    unitChar? code = some c ↔ code = c.toNat := by
  rw [unitChar?, Option.ite_none_right_eq_some, Option.some.injEq]
  constructor
  · rintro ⟨isChar, rfl⟩
    exact (toNat_of_ofNat isChar).symm
  · rintro rfl
    exact ⟨c.valid, Char.ofNat_toNat c⟩

theorem pairChar?_eq_some_iff {high low : Nat} {c : Char} : pairChar? high low = some c ↔
    ∃ i j, i < 0x400 ∧ j < 0x400 ∧ high = 0xD800 + i ∧ low = 0xDC00 + j ∧
      c.toNat = 0x10000 + i * 0x400 + j := by
  rw [pairChar?, Option.ite_none_right_eq_some, Option.some.injEq]
  constructor
  · rintro ⟨halves, rfl⟩
    refine ⟨high - 0xD800, low - 0xDC00, by omega, by omega, by omega, by omega, ?_⟩
    exact toNat_of_ofNat (.inr (by omega))
  · rintro ⟨i, j, _, _, rfl, rfl, value⟩
    refine ⟨by omega, ?_⟩
    rw [Nat.add_sub_cancel_left, Nat.add_sub_cancel_left, ← value, Char.ofNat_toNat]

theorem spells_of_decodePieces {pieces : List Piece} {text : List Char}
    (decoded : decodePieces pieces = some text) : Spells text pieces := by
  fun_induction decodePieces pieces generalizing text with
  | case1 =>
      cases decoded
      exact .nil
  | case2 c rest ih =>
      obtain ⟨others, found, rfl⟩ := Option.map_eq_some_iff.mp decoded
      exact .plain (ih found)
  | case3 high low rest c joined ih =>
      obtain ⟨others, found, rfl⟩ := Option.map_eq_some_iff.mp decoded
      obtain ⟨i, j, highBound, lowBound, rfl, rfl, value⟩ := pairChar?_eq_some_iff.mp joined
      exact .pair highBound lowBound value (ih found)
  | case4 high low rest alone ih =>
      obtain ⟨c, unit, more⟩ := Option.bind_eq_some_iff.mp decoded
      obtain ⟨others, found, same⟩ := Option.bind_eq_some_iff.mp more
      cases same
      rw [unitChar?_eq_some_iff.mp unit]
      exact .unit (ih found)
  | case5 code rest alone ih =>
      obtain ⟨c, unit, more⟩ := Option.bind_eq_some_iff.mp decoded
      obtain ⟨others, found, same⟩ := Option.bind_eq_some_iff.mp more
      cases same
      rw [unitChar?_eq_some_iff.mp unit]
      exact .unit (ih found)

theorem Spells.decode {pieces : List Piece} {text : List Char} (spells : Spells text pieces) :
    decodePieces pieces = some text := by
  induction spells with
  | nil => rfl
  | plain _ ih => rw [decodePieces, ih, Option.map_some]
  | @unit c text pieces _ ih =>
      have unit : unitChar? c.toNat = some c := unitChar?_eq_some_iff.mpr rfl
      cases pieces with
      | nil =>
          rw [decodePieces, unit, ih]
          · rfl
          · exact nofun
      | cons next others =>
          cases next with
          | char d =>
              rw [decodePieces, unit, ih]
              · rfl
              · exact nofun
          | unit low =>
              -- A character is no half of a pair.
              have alone : pairChar? c.toNat low = none := by
                rw [pairChar?, if_neg]
                have valid : c.toNat.isValidChar := c.valid
                omega
              rw [decodePieces, alone]
              dsimp only
              rw [unit, ih]
              rfl
  | pair highBound lowBound value _ ih =>
      rw [decodePieces, pairChar?_eq_some_iff.mpr ⟨_, _, highBound, lowBound, rfl, rfl, value⟩]
      dsimp only
      rw [ih, Option.map_some]

/-- No control character, quote or backslash. -/
def isPlain (c : Char) : Bool :=
  0x20 ≤ c.toNat ∧ c ≠ '"' ∧ c ≠ '\\'

/-- A text of plain characters is its own literal. -/
theorem isLiteral_plain {text : List Char} (plain : text.all isPlain = true) :
    IsLiteral (text.map .char) text := by
  induction text with
  | nil => exact .nil
  | cons c text ih =>
      obtain ⟨first, others⟩ := Bool.and_eq_true_iff.mp plain
      obtain ⟨printable, quote, escape⟩ := of_decide_eq_true first
      exact .cons (.plain printable quote escape) (ih others)

theorem spells_plain (text : List Char) : Spells text (text.map .char) := by
  induction text with
  | nil => exact .nil
  | cons c text ih => exact .plain ih

/-! ## Every text has a literal -/

theorem exists_isHexDigit {n : Nat} (small : n < 16) : ∃ digit, IsHexDigit digit n :=
  ⟨hexDigits[n], .inl (List.getElem?_eq_getElem small)⟩

theorem exists_isPiece (c : Char) :
    ∃ piece text, IsPiece piece text ∧ (piece = .char c ∨ piece = .unit c.toNat) := by
  by_cases quote : c = '"'
  · subst quote
    exact ⟨_, _, .short (e := '"') List.mem_cons_self, .inl rfl⟩
  by_cases escape : c = '\\'
  · subst escape
    exact ⟨_, _, .short (e := '\\') (List.mem_cons_of_mem _ List.mem_cons_self), .inl rfl⟩
  by_cases printable : 0x20 ≤ c.toNat
  · exact ⟨_, _, .plain printable quote escape, .inl rfl⟩
  · obtain ⟨zero, isZero⟩ := exists_isHexDigit (Nat.zero_lt_succ 15)
    obtain ⟨third, isThird⟩ := exists_isHexDigit (n := c.toNat / 16) (by omega)
    obtain ⟨fourth, isFourth⟩ := exists_isHexDigit (Nat.mod_lt c.toNat (Nat.zero_lt_succ 15))
    refine ⟨_, _, .unit isZero isZero isThird isFourth, .inr (congrArg Piece.unit ?_)⟩
    omega

theorem exists_isLiteral (text : List Char) :
    ∃ pieces literal, Spells text pieces ∧ IsLiteral pieces literal := by
  induction text with
  | nil => exact ⟨[], [], .nil, .nil⟩
  | cons c text ih =>
      obtain ⟨pieces, literal, spells, isLiteral⟩ := ih
      obtain ⟨piece, written, isPiece, rfl | rfl⟩ := exists_isPiece c
      · exact ⟨_, _, .plain spells, .cons isPiece isLiteral⟩
      · exact ⟨_, _, .unit spells, .cons isPiece isLiteral⟩

end RepoCollector.Json
