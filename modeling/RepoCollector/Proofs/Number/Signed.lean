import Mathlib.Data.Nat.Digits.Defs
import RepoCollector.Number.Signed

/-! # Written numbers

What a text must be like to be read as a number: decimal digits, with a sign in front of them or
without one, and a number that fits (`RepoCollector.signed64?_eq_some_iff`).
-/

namespace RepoCollector

/-- The text is made of decimal digits, the first one counting most. -/
structure IsDecimal (text : List Char) (n : Nat) : Prop where
  filled : text ≠ []
  digits : ∀ c ∈ text, c.isDigit = true
  value : n = Nat.ofDigits 10 (text.reverse.map fun c => c.toNat - '0'.toNat)

theorem foldl_digits (text : List Char) (start : Nat) :
    text.foldl (fun number c => number * 10 + (c.toNat - 48)) start =
      Nat.ofDigits 10 (text.reverse.map fun c => c.toNat - '0'.toNat) +
        start * 10 ^ text.length := by
  induction text generalizing start with
  | nil =>
      rw [List.foldl_nil, List.length_nil, Nat.pow_zero, Nat.mul_one]
      exact (Nat.zero_add start).symm
  | cons c text ih =>
      rw [List.foldl_cons, ih, List.reverse_cons, List.map_append, Nat.ofDigits_append,
        List.length_map, List.length_reverse, List.length_cons, List.map_cons, List.map_nil,
        Nat.ofDigits_singleton, Nat.pow_succ, Nat.add_mul]
      change _ + (start * 10 * 10 ^ text.length + (c.toNat - 48) * 10 ^ text.length) =
        _ + 10 ^ text.length * (c.toNat - 48) + _
      ring

theorem decimal?_eq_some_iff {text : List Char} {n : Nat} :
    decimal? text = some n ↔ IsDecimal text n := by
  unfold decimal?
  rw [foldl_digits, Nat.zero_mul, Nat.add_zero, Option.ite_none_left_eq_some, not_or, not_not,
    List.all_eq_true, Option.some.injEq]
  constructor
  · rintro ⟨⟨filled, digits⟩, value⟩
    exact ⟨filled, digits, value.symm⟩
  · rintro ⟨filled, digits, value⟩
    exact ⟨⟨filled, digits⟩, value.symm⟩

theorem toNat_of_isDigit {c : Char} (digit : c.isDigit = true) : 48 ≤ c.toNat ∧ c.toNat ≤ 57 := by
  simp only [Char.isDigit, Bool.and_eq_true, decide_eq_true_eq, ge_iff_le,
    UInt32.le_iff_toNat_le] at digit
  exact digit

theorem IsDecimal.ne_sign {text : List Char} {n : Nat} (decimal : IsDecimal text n) {sign : Char}
    {rest : List Char} (begins : text = sign :: rest) : sign ≠ '-' ∧ sign ≠ '+' := by
  have digit := decimal.digits sign (begins ▸ List.mem_cons_self)
  constructor
  · rintro rfl
    cases digit
  · rintro rfl
    cases digit

/-- The text is a decimal number with a sign or without one. -/
inductive IsSigned : List Char → Int → Prop where
  | plain {digits : List Char} {n : Nat} (decimal : IsDecimal digits n) : IsSigned digits n
  | plus {digits : List Char} {n : Nat} (decimal : IsDecimal digits n) : IsSigned ('+' :: digits) n
  | minus {digits : List Char} {n : Nat} (decimal : IsDecimal digits n) :
      IsSigned ('-' :: digits) (-n)

theorem IsSigned.of_mem {text : List Char} {n : Int} (signed : IsSigned text n) {c : Char}
    (member : c ∈ text) : c = '+' ∨ c = '-' ∨ c.isDigit = true := by
  cases signed with
  | plain decimal => exact .inr (.inr (decimal.digits c member))
  | plus decimal =>
      obtain rfl | member := List.mem_cons.mp member
      · exact .inl rfl
      · exact .inr (.inr (decimal.digits c member))
  | minus decimal =>
      obtain rfl | member := List.mem_cons.mp member
      · exact .inr (.inl rfl)
      · exact .inr (.inr (decimal.digits c member))

/-- The range of the signed numbers of 64 bits. -/
def FitsSigned64 (n : Int) : Prop := -2 ^ 63 ≤ n ∧ n < 2 ^ 63

theorem fitsSigned64_iff {n : Int} : fitsSigned64 n = true ↔ FitsSigned64 n := by
  unfold fitsSigned64 FitsSigned64 greatestSigned64
  rw [decide_eq_true_iff]
  omega

private theorem map_decimal?_eq_some_iff {digits : List Char} {sign : Int → Int} {n : Int} :
    (decimal? digits >>= fun size => (pure (size : Int) : Option Int)).map sign = some n ↔
      ∃ size : Nat, IsDecimal digits size ∧ sign size = n := by
  cases read : decimal? digits with
  | none =>
      refine iff_of_false nofun ?_
      rintro ⟨size, decimal, _⟩
      cases read.symm.trans (decimal?_eq_some_iff.mpr decimal)
  | some size =>
      constructor
      · intro found
        exact ⟨size, decimal?_eq_some_iff.mp read, Option.some.inj found⟩
      · rintro ⟨other, decimal, rfl⟩
        cases read.symm.trans (decimal?_eq_some_iff.mpr decimal)
        rfl

/-- **A signed number of 64 bits is read from its decimal forms, and from nothing else.** -/
theorem signed64?_eq_some_iff {text : List Char} {n : Int} :
    signed64? text = some n ↔ IsSigned text n ∧ FitsSigned64 n := by
  unfold signed64?
  rw [Option.filter_eq_some_iff, fitsSigned64_iff]
  refine and_congr_left fun _ => ?_
  constructor
  · intro found
    split at found
    next =>
      obtain ⟨size, decimal, rfl⟩ := map_decimal?_eq_some_iff.mp found
      exact .minus decimal
    next =>
      obtain ⟨size, decimal, rfl⟩ := map_decimal?_eq_some_iff.mp found
      exact .plus decimal
    next =>
      obtain ⟨size, decimal, rfl⟩ := map_decimal?_eq_some_iff.mp found
      exact .plain decimal
  · intro signed
    cases signed with
    | minus decimal | plus decimal => exact map_decimal?_eq_some_iff.mpr ⟨_, decimal, rfl⟩
    | plain decimal =>
        split
        next => exact absurd rfl (decimal.ne_sign rfl).1
        next => exact absurd rfl (decimal.ne_sign rfl).2
        next => exact map_decimal?_eq_some_iff.mpr ⟨_, decimal, rfl⟩

end RepoCollector
