import RepoCollector.Backoff
import RepoCollector.Proofs.Number.Doubles

/-! # Durations as doubles

A duration becomes a double by a quotient and a sum, each off by less than a unit of its last digit,
and is read back to the nearest nanosecond.  Below `2 ^ 23` seconds these errors are too small to
change it (`RepoCollector.toDuration_ofDuration`).  A backoff between equal bounds makes its way
through doubles with every delay, and hands out the same one each time
(`RepoCollector.Backoff.next_fst_of_equal`).
-/

namespace RepoCollector

open Float.Model Float.Model.UnpackedFloat

/-- A positive double with all of its digits. -/
structure Reads (x : Float) (b : Binary) : Prop where
  normal : b.IsNormal
  unpack : x.toModel.unpack = .finite .positive b.digits b.exponent normal.filled

variable {x y : Float} {b c : Binary}

theorem reads_pack (normal : b.IsNormal) :
    Reads (.ofModel (.pack (.finite .positive b.digits b.exponent normal.filled))) b :=
  ⟨normal, normal.unpack_pack .positive⟩

theorem Reads.ofFloat (reads : Reads x b) : Binary.ofFloat x = b := by
  refine Binary.ofFloat_of_unpack x b ?_
  rw [reads.unpack]
  rfl

/-! ## Whole numbers -/

/-- The parts of a whole number. -/
def Binary.ofNat (n : Nat) : Binary :=
  ⟨n * 2 ^ (52 - n.log2), n.log2 - 52⟩

theorem Binary.isNormal_ofNat {n : Nat} (some : 0 < n) (small : n < 2 ^ 53) :
    (ofNat n).IsNormal := by
  have size : n.log2 < 53 := (Nat.log2_lt some.ne').mpr small
  have whole : n.log2 + (52 - n.log2) = 52 := by omega
  have scale := Nat.two_pow_pos (52 - n.log2)
  refine ⟨?_, ?_, ?_, ?_⟩
  · calc 2 ^ 52 = 2 ^ n.log2 * 2 ^ (52 - n.log2) := by rw [← Nat.pow_add, whole]
      _ ≤ n * 2 ^ (52 - n.log2) := Nat.mul_le_mul_right _ (Nat.log2_self_le some.ne')
  · calc n * 2 ^ (52 - n.log2) < 2 ^ (n.log2 + 1) * 2 ^ (52 - n.log2) :=
          Nat.mul_lt_mul_of_pos_right Nat.lt_log2_self scale
      _ = 2 ^ 53 := by rw [← Nat.pow_add, Nat.add_right_comm, whole]
  · change (-1074 : Int) ≤ n.log2 - 52
    omega
  · change (n.log2 - 52 : Int) ≤ 971
    omega

theorem Binary.value_ofNat {n : Nat} (small : n < 2 ^ 53) : (ofNat n).value = n := by
  have size : n.log2 ≤ 52 := by
    obtain rfl | some := n.eq_zero_or_pos
    · decide
    · exact Nat.le_of_lt_succ ((Nat.log2_lt some.ne').mpr small)
  have exponent : (n.log2 - 52 : Int) = -((52 - n.log2 : Nat) : Int) := by omega
  rw [value, ofNat, exponent, zpow_neg, zpow_natCast, Nat.cast_mul, Nat.cast_pow, Nat.cast_ofNat]
  field_simp

theorem reads_ofNat {n : Nat} (some : 0 < n) (small : n < 2 ^ 53) :
    Reads (UInt64.ofNat n).toFloat (.ofNat n) := by
  have normal := Binary.isNormal_ofNat some small
  have size : n.log2 < 53 := (Nat.log2_lt some.ne').mpr small
  have target : Format.binary64.targetExponent (totalExponent n 0) = n.log2 - 52 := by
    simp only [Format.targetExponent, totalExponent, Format.mantissaBits, Format.minExponent]
    omega
  have shift : (0 - (n.log2 - 52 : Int)).toNat = 52 - n.log2 := by omega
  have exponent : (0 - (52 - n.log2 : Nat) : Int) = n.log2 - 52 := by omega
  have rounded : UnpackedFloat.normalize .binary64 n 0 .positive =
      .finite .positive (Binary.ofNat n).digits (Binary.ofNat n).exponent normal.filled := by
    rw [normalize_natCast some, UnpackedFloat.round, target, decreaseExponent, shift]
    dsimp only
    rw [exponent, Nat.shiftLeft_eq]
    exact roundWithAccuracy_of_isNormal normal .positive
  have fits : 2 ^ 53 < 2 ^ 64 := Nat.pow_lt_pow_right Nat.one_lt_two (by decide)
  have whole : (UInt64.ofNat n).toNat = n := UInt64.toNat_ofNat_of_lt' (small.trans fits)
  have packed : (UInt64.ofNat n).toFloat =
      .ofModel (.pack (UnpackedFloat.normalize .binary64 (UInt64.ofNat n).toNat 0 .positive)) := rfl
  rw [packed, whole, rounded]
  exact reads_pack normal

theorem reads_billion : Reads 1000000000.0 (.ofNat 1000000000) :=
  ⟨Binary.isNormal_ofNat (by decide) (by decide), rfl⟩

/-! ## Sums and quotients -/

theorem divCore_eq (normal : b.IsNormal) (other : c.IsNormal)
    (least : -1000 ≤ b.exponent - c.exponent) :
    divCore .binary64 b.digits b.exponent c.digits c.exponent =
      (b.digits * 2 ^ 53 / c.digits, b.exponent - c.exponent - 53,
        accuracyOfFraction (b.digits * 2 ^ 53 % c.digits) c.digits) := by
  have target : min (b.exponent - c.exponent) (Format.binary64.targetExponent
      (totalExponent b.digits b.exponent - totalExponent c.digits c.exponent)) =
        b.exponent - c.exponent - 53 := by
    simp only [Format.targetExponent, totalExponent, normal.log2, other.log2, Format.mantissaBits,
      Format.minExponent]
    omega
  have shift : (b.exponent - c.exponent - (b.exponent - c.exponent - 53)).toNat = 53 := by omega
  rw [divCore, target, shift, Nat.shiftLeft_eq]

/-- A quotient is off by less than a unit of its last digit. -/
theorem Reads.exists_div (reads : Reads x b) (others : Reads y c)
    (least : -1000 ≤ b.exponent - c.exponent) (greatest : b.exponent - c.exponent ≤ 1000) :
    ∃ d, Reads (x / y) d ∧
      |d.value - b.value / c.value| ≤ 2 ^ (b.exponent - c.exponent - 53) := by
  have normal := reads.normal
  have other := others.normal
  have most : b.digits * 2 ^ 53 / c.digits < 2 ^ 54 := by
    rw [Nat.div_lt_iff_lt_mul other.filled]
    calc b.digits * 2 ^ 53 < 2 ^ 53 * 2 ^ 53 := Nat.mul_lt_mul_of_pos_right normal.high (by decide)
      _ = 2 ^ 54 * 2 ^ 52 := by norm_num
      _ ≤ 2 ^ 54 * c.digits := Nat.mul_le_mul_left _ other.low
  have low : 2 ^ 52 ≤ b.digits * 2 ^ 53 / c.digits := by
    rw [Nat.le_div_iff_mul_le other.filled]
    exact Nat.mul_le_mul normal.low other.high.le
  obtain ⟨count, one, low, high⟩ : ∃ count ≤ 1, 2 ^ (52 + count) ≤ b.digits * 2 ^ 53 / c.digits ∧
      b.digits * 2 ^ 53 / c.digits < 2 ^ (53 + count) := by
    by_cases short : b.digits * 2 ^ 53 / c.digits < 2 ^ 53
    · exact ⟨0, Nat.zero_le 1, low, short⟩
    · exact ⟨1, le_rfl, Nat.le_of_not_lt short, most⟩
  have least' : -1074 ≤ b.exponent - c.exponent - 53 + count := by omega
  have greatest' : b.exponent - c.exponent - 53 + count ≤ 970 := by omega
  obtain ⟨d, full, rounded, near⟩ :=
    exists_roundWithAccuracy .positive low high least' greatest'
  refine ⟨d, ?_, ?_⟩
  · have packed : x / y =
        .ofModel (.pack (UnpackedFloat.div .binary64 x.toModel.unpack y.toModel.unpack)) := rfl
    rw [packed, reads.unpack, others.unpack, UnpackedFloat.div, divCore_eq normal other least]
    have positive : (Sign.positive / Sign.positive : Sign) = .positive := rfl
    dsimp only
    rw [positive, rounded]
    exact reads_pack full
  · have same : ((b.digits * 2 ^ 53 : Nat) / c.digits * 2 ^ (b.exponent - c.exponent - 53) : ℚ) =
        b.value / c.value := by
      have some : (c.digits : ℚ) ≠ 0 := Nat.cast_ne_zero.mpr other.filled.ne'
      rw [Binary.value, Binary.value, zpow_sub₀ two_ne_zero, zpow_sub₀ two_ne_zero, Nat.cast_mul,
        Nat.cast_pow, Nat.cast_ofNat]
      field_simp
    rw [same] at near
    refine near.trans ?_
    have power : (2 : ℚ) ^ (b.exponent - c.exponent - 53 + count) ≤
        2 ^ (b.exponent - c.exponent - 53 + 1) :=
      zpow_le_zpow_right₀ one_le_two (by omega)
    rw [zpow_add_one₀ two_ne_zero] at power
    linarith

/-- The digits in front of a lower power of two. -/
def Binary.aligned (b : Binary) (exponent : Int) : Nat :=
  b.digits <<< (b.exponent - exponent).toNat

theorem Binary.le_aligned (b : Binary) (exponent : Int) : b.digits ≤ b.aligned exponent := by
  rw [aligned, Nat.shiftLeft_eq]
  exact Nat.le_mul_of_pos_right _ (Nat.two_pow_pos _)

theorem Binary.value_aligned {exponent : Int} (b : Binary) (below : exponent ≤ b.exponent) :
    (b.aligned exponent * 2 ^ exponent : ℚ) = b.value := by
  have whole : b.exponent = (b.exponent - exponent).toNat + exponent := by omega
  rw [value, aligned, Nat.shiftLeft_eq, Nat.cast_mul, Nat.cast_pow, Nat.cast_ofNat, mul_assoc,
    ← zpow_natCast, ← zpow_add₀ two_ne_zero, ← whole]

/-- A sum is off by at most half a unit of its last digit. -/
theorem Reads.exists_add {power : Int} (reads : Reads x b) (others : Reads y c)
    (bound : b.value + c.value < 2 ^ (power + 1)) (greatest : power ≤ 1000) :
    ∃ d, Reads (x + y) d ∧ |d.value - (b.value + c.value)| ≤ 1 / 2 * 2 ^ (power - 52) := by
  have normal := reads.normal
  have other := others.normal
  let exponent := min b.exponent c.exponent
  let total := b.aligned exponent + c.aligned exponent
  have least : -1074 ≤ exponent := le_min normal.least other.least
  have value : (total * 2 ^ exponent : ℚ) = b.value + c.value := by
    rw [Nat.cast_add, add_mul, b.value_aligned (min_le_left _ _),
      c.value_aligned (min_le_right _ _)]
  have large : 2 ^ 52 ≤ total :=
    normal.low.trans ((b.le_aligned exponent).trans (Nat.le_add_right _ _))
  have some : 0 < total := Nat.lt_of_lt_of_le (Nat.two_pow_pos _) large
  obtain ⟨count, size⟩ := Nat.exists_eq_add_of_le ((Nat.le_log2 some.ne').mpr large)
  have low : 2 ^ (52 + count) ≤ total := ((Nat.log2_eq_iff some.ne').mp size).1
  -- the first digit of the sum stands below the bound
  have within : exponent + count ≤ power - 52 := by
    have first : (2 : ℚ) ^ (exponent + count + 52) < 2 ^ (power + 1) := by
      refine lt_of_le_of_lt ?_ bound
      rw [← value, add_assoc, zpow_add₀ two_ne_zero, mul_comm]
      have low : (2 ^ (52 + count) : ℚ) ≤ total := by exact_mod_cast low
      refine mul_le_mul_of_nonneg_right ?_ (zpow_pos two_pos exponent).le
      rwa [← zpow_natCast, Nat.cast_add, add_comm] at low
    have below := (zpow_lt_zpow_iff_right₀ one_lt_two).mp first
    omega
  have least' : -1074 ≤ exponent + count := by omega
  have greatest' : exponent + count ≤ 970 := by omega
  obtain ⟨d, full, rounded, near⟩ := exists_round .positive size least' greatest'
  refine ⟨d, ?_, ?_⟩
  · have packed : x + y =
        .ofModel (.pack (UnpackedFloat.add .binary64 x.toModel.unpack y.toModel.unpack)) := rfl
    have sum : UnpackedFloat.add .binary64 x.toModel.unpack y.toModel.unpack =
        UnpackedFloat.normalize .binary64 total exponent .positive := by
      rw [reads.unpack, others.unpack]
      rfl
    rw [packed, sum, normalize_natCast some, rounded]
    exact reads_pack full
  · rw [value] at near
    have scale : (2 : ℚ) ^ (exponent + count) ≤ 2 ^ (power - 52) :=
      zpow_le_zpow_right₀ one_le_two within
    linarith

/-! ## Doubles near a number -/

/-- The double is zero, or positive with all of its digits, and off by no more than an error. -/
def Near (x : Float) (number error : ℚ) : Prop :=
  (x.toModel.unpack = .zero .positive ∧ |number| ≤ error) ∨
    ∃ b, Reads x b ∧ |b.value - number| ≤ error

variable {number other error otherError : ℚ}

theorem near_ofNat {n : Nat} (small : n < 2 ^ 53) : Near (UInt64.ofNat n).toFloat n 0 := by
  obtain rfl | some := n.eq_zero_or_pos
  · refine Or.inl ⟨rfl, ?_⟩
    rw [Nat.cast_zero, abs_zero]
  · refine Or.inr ⟨_, reads_ofNat some small, ?_⟩
    rw [Binary.value_ofNat small, sub_self, abs_zero]

theorem near_billionths {n : Nat} (small : n < 1000000000) :
    Near ((UInt64.ofNat n).toFloat / 1000000000.0) (n / 1000000000) (1 / 2 ^ 53) := by
  obtain rfl | some := n.eq_zero_or_pos
  · refine Or.inl ⟨rfl, ?_⟩
    norm_num
  · have fits : n < 2 ^ 53 := by omega
    have size : n.log2 < 30 := (Nat.log2_lt some.ne').mpr (by omega)
    have billion : (Binary.ofNat 1000000000).exponent = -23 := rfl
    have exponent : (Binary.ofNat n).exponent = n.log2 - 52 := rfl
    obtain ⟨b, reads, near⟩ := (reads_ofNat some fits).exists_div reads_billion
      (by rw [billion, exponent]; omega) (by rw [billion, exponent]; omega)
    rw [Binary.value_ofNat fits, Binary.value_ofNat (by decide), billion, exponent,
      Nat.cast_ofNat] at near
    refine Or.inr ⟨b, reads, near.trans ?_⟩
    calc (2 : ℚ) ^ ((n.log2 - 52 : Int) - -23 - 53) ≤ 2 ^ (-53 : Int) :=
          zpow_le_zpow_right₀ one_le_two (by omega)
      _ = 1 / 2 ^ 53 := by norm_num

theorem Near.add {power : Int} (near : Near x number error) (others : Near y other otherError)
    (bound : number + error + (other + otherError) < 2 ^ (power + 1)) (greatest : power ≤ 1000) :
    Near (x + y) (number + other) (error + otherError + 1 / 2 * 2 ^ (power - 52)) := by
  have packed : x + y =
      .ofModel (.pack (UnpackedFloat.add .binary64 x.toModel.unpack y.toModel.unpack)) := rfl
  have unit : (0 : ℚ) ≤ 1 / 2 * 2 ^ (power - 52) := by positivity
  obtain ⟨zero, small⟩ | ⟨b, reads, near⟩ := near
  · obtain ⟨otherZero, otherSmall⟩ | ⟨c, others, near⟩ := others
    · rw [zero, otherZero] at packed
      refine Or.inl ⟨?_, ?_⟩
      · rw [packed]
        rfl
      · have both := abs_add_le number other
        linarith
    · rw [zero, others.unpack] at packed
      refine Or.inr ⟨c, packed ▸ reads_pack others.normal, ?_⟩
      have apart := abs_sub (c.value - other) number
      rw [sub_sub, add_comm other] at apart
      linarith
  · obtain ⟨otherZero, otherSmall⟩ | ⟨c, others, otherNear⟩ := others
    · rw [reads.unpack, otherZero] at packed
      refine Or.inr ⟨b, packed ▸ reads_pack reads.normal, ?_⟩
      have apart := abs_sub (b.value - number) other
      rw [sub_sub] at apart
      linarith
    · have most := (abs_le.mp near).2
      have otherMost := (abs_le.mp otherNear).2
      obtain ⟨d, sum, rounded⟩ := reads.exists_add others (by linarith) greatest
      refine Or.inr ⟨d, sum, ?_⟩
      calc |d.value - (number + other)|
          = |d.value - (b.value + c.value) + ((b.value - number) + (c.value - other))| := by
            congr 1
            ring
        _ ≤ |d.value - (b.value + c.value)| + (|b.value - number| + |c.value - other|) :=
            (abs_add_le _ _).trans (by gcongr; exact abs_add_le _ _)
        _ ≤ error + otherError + 1 / 2 * 2 ^ (power - 52) := by linarith

theorem Near.abs_value_sub_le (near : Near x number error) :
    |(Binary.ofFloat x).value - number| ≤ error := by
  obtain ⟨zero, small⟩ | ⟨b, reads, near⟩ := near
  · have parts : Binary.ofFloat x = ⟨0, -1074⟩ := by
      refine Binary.ofFloat_of_unpack x _ ?_
      rw [zero]
      rfl
    rw [parts, Binary.value, Nat.cast_zero, zero_mul, zero_sub, abs_neg]
    exact small
  · rwa [reads.ofFloat]

theorem Binary.abs_scaled_sub_le (b : Binary) (scale : Nat) :
    |(b.scaled scale : ℚ) - b.value * scale| ≤ 1 / 2 := by
  rw [scaled, value]
  split
  next whole =>
    have exponent : b.exponent = (b.exponent.toNat : Int) := (Int.toNat_of_nonneg whole).symm
    have exact : ((b.digits * 2 ^ b.exponent.toNat * scale : Nat) : ℚ) =
        b.digits * 2 ^ b.exponent * scale := by
      conv_rhs => rw [exponent, zpow_natCast]
      push_cast
      rfl
    change |((b.digits * 2 ^ b.exponent.toNat * scale : Nat) : ℚ) - _| ≤ _
    rw [exact, sub_self, abs_zero]
    norm_num
  next negative =>
    have exponent : b.exponent = -((-b.exponent).toNat : Int) := by omega
    have near := abs_roundQuotient_sub_le (b.digits * scale) (Nat.two_pow_pos (-b.exponent).toNat)
    have same : ((b.digits * scale : Nat) / (2 ^ (-b.exponent).toNat : Nat) : ℚ) =
        b.digits * 2 ^ b.exponent * scale := by
      conv_rhs => rw [exponent, zpow_neg, zpow_natCast]
      push_cast
      ring
    rw [same] at near
    exact near

/-- A double that is near enough to a whole number of units is read as that number. -/
theorem Near.scaled {scale whole : Nat} (near : Near x number error)
    (enough : |number * scale - whole| + error * scale < 1 / 2) :
    (Binary.ofFloat x).scaled scale = whole := by
  have rounded := Binary.abs_scaled_sub_le (Binary.ofFloat x) scale
  have value : |(Binary.ofFloat x).value * scale - number * scale| ≤ error * scale := by
    rw [← sub_mul, abs_mul, Nat.abs_cast]
    exact mul_le_mul_of_nonneg_right near.abs_value_sub_le (Nat.cast_nonneg scale)
  have close : |((Binary.ofFloat x).scaled scale : ℚ) - whole| < 1 := by
    calc |((Binary.ofFloat x).scaled scale : ℚ) - whole|
        = |((Binary.ofFloat x).scaled scale - (Binary.ofFloat x).value * scale) +
            (((Binary.ofFloat x).value * scale - number * scale) + (number * scale - whole))| := by
          congr 1
          ring
      _ ≤ |((Binary.ofFloat x).scaled scale - (Binary.ofFloat x).value * scale : ℚ)| +
            (|(Binary.ofFloat x).value * scale - number * scale| + |number * scale - whole|) :=
          (abs_add_le _ _).trans (by gcongr; exact abs_add_le _ _)
      _ < 1 := by linarith
  have low : (whole : ℚ) < (Binary.ofFloat x).scaled scale + 1 := by linarith [(abs_lt.mp close).1]
  have high : ((Binary.ofFloat x).scaled scale : ℚ) < whole + 1 := by linarith [(abs_lt.mp close).2]
  have low : whole < (Binary.ofFloat x).scaled scale + 1 := by exact_mod_cast low
  have high : (Binary.ofFloat x).scaled scale < whole + 1 := by exact_mod_cast high
  omega

/-- **Durations survive the way through doubles** if they are shorter than 97 days. -/
theorem toDuration_ofDuration {d : Duration} (short : d.secs < 2 ^ 23) :
    Seconds.toDuration (Seconds.ofDuration d : Float) = d := by
  have fraction : d.subsecNanos < 1000000000 := Nat.mod_lt _ (by decide)
  have secs : (d.secs : ℚ) + 1 ≤ 2 ^ 23 := by exact_mod_cast short
  have nanos : (d.subsecNanos : ℚ) + 1 ≤ 1000000000 := by exact_mod_cast fraction
  have fits : 2 ^ 23 < 2 ^ 53 := Nat.pow_lt_pow_right Nat.one_lt_two (by decide)
  have bound : (d.secs + 0 + (d.subsecNanos / 1000000000 + 1 / 2 ^ 53) : ℚ) <
      2 ^ ((22 : Int) + 1) := by
    norm_num at secs ⊢
    linarith
  have near : Near (Seconds.ofDuration d) _ _ :=
    (near_ofNat (short.trans fits)).add (near_billionths fraction) bound (by decide)
  have whole : ((d.secs + d.subsecNanos / 1000000000 : ℚ) * (1000000000 : Nat)) = d.nanos := by
    conv_rhs => rw [← d.secs_subsecNanos, Duration.ofParts, Duration.nanosPerSec]
    push_cast
    ring
  have read : (Binary.ofFloat (Seconds.ofDuration d)).scaled 1000000000 = d.nanos := by
    refine near.scaled ?_
    rw [whole, sub_self, abs_zero]
    norm_num
  exact congrArg Duration.mk read

/-! ## Backoffs between equal bounds -/

namespace Backoff

variable {backoff : Backoff Float}

theorem ceiling_eq_or_le (backoff : Backoff Float) :
    backoff.ceiling = Seconds.ofDuration backoff.greatest ∨
      backoff.ceiling ≤ Seconds.ofDuration backoff.greatest := by
  unfold ceiling
  dsimp only
  split
  next below => exact Or.inr below
  next => exact Or.inl rfl

theorem seconds_of_equal (equal : backoff.greatest = backoff.least) (draw : Option Float) :
    backoff.seconds draw =
      if backoff.ceiling < (Seconds.ofDuration backoff.least : Float) then
        Seconds.ofDuration backoff.least
      else backoff.ceiling := by
  have above : ¬(Seconds.ofDuration backoff.least : Float) < backoff.ceiling := by
    obtain same | below := ceiling_eq_or_le backoff
    · rw [same, equal]
      exact not_lt_self _
    · rw [equal] at below
      exact not_lt_of_le below
  cases draw <;> simp only [seconds, equal, if_neg above]

/-- Between equal bounds every delay is the bound, as far as doubles can tell, whatever the draw. -/
theorem next_fst_of_equal (equal : backoff.greatest = backoff.least) (draw : Option Float) :
    (backoff.next draw).1 = Seconds.toDuration (Seconds.ofDuration backoff.least : Float) := by
  rw [next, seconds_of_equal equal]
  split
  next => rfl
  next least =>
    obtain same | below := ceiling_eq_or_le backoff
    · rw [same, equal]
    · rw [equal] at below
      exact congrArg (fun parts => Duration.mk (parts.scaled 1000000000))
        (ofFloat_eq_of_le below least)

end Backoff

end RepoCollector
