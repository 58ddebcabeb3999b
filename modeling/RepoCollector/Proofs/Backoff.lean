import RepoCollector.Backoff
import RepoCollector.Proofs.Number.Doubles

/-! # The law of a backoff

Read in exact numbers, a backoff hands out delays that begin at the least one and grow by its factor
until they reach the greatest one, where they stay until it starts over
(`RepoCollector.Backoff.delays_grow_until_capped`).  Nothing of that depends on how often it is
asked: beyond the greatest exponent, and beyond the greatest count of attempts, the delays only stop
growing.

The factor is what a double stands for, if this is a number not below one
(`RepoCollector.Backoff.value_effectiveFactor`).
-/

namespace RepoCollector

open Float.Model Float.Model.UnpackedFloat

/-! ## Factors -/

/-- The number that a double stands for, if it stands for one. -/
def number? (x : Float) : Option ℚ :=
  match x.toModel.unpack with
  | .finite .positive digits exponent _ => some (digits * 2 ^ exponent)
  | .finite .negative digits exponent _ => some (-(digits * 2 ^ exponent))
  | .zero _ => some 0
  | .infinity _ | .notANumber => none

theorem unpack_one :
    (1.0 : Float).toModel.unpack = .finite .positive (2 ^ 52) (-52) (Nat.two_pow_pos 52) := rfl

/-- A finite double has 53 digits at most, and as many unless its exponent is the least one. -/
theorem digits_of_unpack {x : Float} {sign : Sign} {digits : Nat} {exponent : Int}
    {filled : 0 < digits} (unpack : x.toModel.unpack = .finite sign digits exponent filled) :
    digits < 2 ^ 53 ∧ (exponent = -1074 ∨ 2 ^ 52 ≤ digits) := by
  have short := (Binary.fraction x).isLt
  rw [Binary.unpack_eq] at unpack
  split at unpack
  · split at unpack <;> cases unpack
  · split at unpack
    · split at unpack
      · cases unpack
        exact ⟨short.trans (by decide), .inl rfl⟩
      · cases unpack
    · cases unpack
      exact ⟨by omega, .inr (Nat.le_add_left _ _)⟩

/-- How a double compares with one follows from its exponent and digits. -/
theorem one_le_iff {x : Float} {digits : Nat} {exponent : Int} {filled : 0 < digits}
    (unpack : x.toModel.unpack = .finite .positive digits exponent filled) :
    1.0 ≤ x ↔ (1 : ℚ) ≤ digits * 2 ^ exponent := by
  obtain ⟨short, long⟩ := digits_of_unpack unpack
  have compared : (1.0 : Float) ≤ x ↔ -52 < exponent ∨ (exponent = -52 ∧ 2 ^ 52 ≤ digits) := by
    rw [le_iff, unpack_one, unpack]
    change some ((compare (-52) exponent).then (compare (2 ^ 52) digits)) = _ ∨
      some ((compare (-52) exponent).then (compare (2 ^ 52) digits)) = _ ↔ _
    rw [Option.some.injEq, Option.some.injEq, Ordering.then_eq_lt, Ordering.then_eq_eq,
      Int.compare_eq_lt, Int.compare_eq_eq, Nat.compare_eq_lt, Nat.compare_eq_eq]
    omega
  rw [compared]
  constructor
  · intro large
    have many : 2 ^ 52 ≤ digits := by omega
    have least : (-52 : Int) ≤ exponent := by omega
    calc (1 : ℚ) = 2 ^ 52 * 2 ^ (-52 : Int) := by norm_num
      _ ≤ digits * 2 ^ exponent := by
        refine mul_le_mul ?_ (zpow_le_zpow_right₀ one_le_two least) (by positivity) (by positivity)
        exact_mod_cast many
  · intro large
    by_contra small
    have short' : (digits : ℚ) < 2 ^ 53 := by exact_mod_cast short
    refine absurd large (not_le_of_gt ?_)
    obtain below | ⟨rfl, few⟩ : exponent ≤ -53 ∨ exponent = -52 ∧ digits < 2 ^ 52 := by omega
    · calc (digits * 2 ^ exponent : ℚ) ≤ digits * 2 ^ (-53 : Int) :=
            mul_le_mul_of_nonneg_left (zpow_le_zpow_right₀ one_le_two below) (by positivity)
        _ < 2 ^ 53 * 2 ^ (-53 : Int) := mul_lt_mul_of_pos_right short' (by positivity)
        _ = 1 := by norm_num
    · have few : (digits : ℚ) < 2 ^ 52 := by exact_mod_cast few
      calc (digits * 2 ^ (-52 : Int) : ℚ) < 2 ^ 52 * 2 ^ (-52 : Int) :=
            mul_lt_mul_of_pos_right few (by positivity)
        _ = 1 := by norm_num

namespace Backoff

/-- The factor by which delays grow: the number that a double stands for, and one if that is less or
if it stands for none. -/
def growth (factor : Float) : ℚ :=
  max ((number? factor).getD 1) 1

theorem one_le_growth (factor : Float) : 1 ≤ growth factor := le_max_right _ _

private theorem effectiveFactor_of_not {factor : Float} (small : ¬1.0 ≤ factor) :
    effectiveFactor factor = 1.0 := by
  refine if_neg fun large => small ?_
  rw [Bool.and_eq_true, decide_eq_true_iff] at large
  exact large.2

private theorem value_one : (Binary.ofFloat 1.0).value = 1 := by
  rw [Binary.ofFloat_of_unpack 1.0 ⟨2 ^ 52, -52⟩ (by rw [unpack_one]; rfl), Binary.value]
  norm_num

/-- **The factor in effect.** -/
theorem value_effectiveFactor (factor : Float) :
    (Binary.ofFloat (effectiveFactor factor)).value = growth factor := by
  unfold growth number?
  cases unpack : factor.toModel.unpack with
  | notANumber | infinity =>
      have infinite : factor.isFinite = false := by
        change factor.toModel.unpack.isFinite = false
        rw [unpack]
        rfl
      rw [effectiveFactor, infinite, Bool.false_and, if_neg Bool.false_ne_true, value_one]
      exact (max_self 1).symm
  | zero sign =>
      have small : ¬1.0 ≤ factor := by
        rw [le_iff, unpack_one, unpack]
        exact not_or.mpr ⟨nofun, nofun⟩
      rw [effectiveFactor_of_not small, value_one]
      exact (max_eq_right zero_le_one).symm
  | finite sign digits exponent filled =>
      cases sign with
      | negative =>
          have small : ¬1.0 ≤ factor := by
            rw [le_iff, unpack_one, unpack]
            exact not_or.mpr ⟨nofun, nofun⟩
          rw [effectiveFactor_of_not small, value_one]
          have negative : -(digits * 2 ^ exponent : ℚ) ≤ 1 := by
            have positive : (0 : ℚ) ≤ digits * 2 ^ exponent := by positivity
            linarith
          exact (max_eq_right negative).symm
      | positive =>
          by_cases large : 1.0 ≤ factor
          · have finite : factor.isFinite = true := by
              change factor.toModel.unpack.isFinite = true
              rw [unpack]
              rfl
            have kept : effectiveFactor factor = factor := by
              refine if_pos ?_
              rw [finite, Bool.true_and]
              exact decide_eq_true large
            rw [kept, Binary.ofFloat_of_unpack factor ⟨digits, exponent⟩ (by rw [unpack]; rfl)]
            exact (max_eq_left ((one_le_iff unpack).mp large)).symm
          · rw [effectiveFactor_of_not large, value_one]
            exact (max_eq_right (lt_of_not_ge (mt (one_le_iff unpack).mpr large)).le).symm

end Backoff

/-! ## Seconds as exact numbers -/

/-- An exact number of seconds is read to the nearest nanosecond. -/
instance : Seconds ℚ where
  ofDuration d := d.nanos / 1000000000
  toDuration x := ⟨roundQuotient (x * 1000000000).num.toNat (x * 1000000000).den⟩

theorem ofDuration_nonneg (d : Duration) : (0 : ℚ) ≤ Seconds.ofDuration d := by
  change (0 : ℚ) ≤ d.nanos / 1000000000
  positivity

theorem ofDuration_longer (a b : Duration) :
    (Seconds.ofDuration (a.longer b) : ℚ) = max (Seconds.ofDuration b) (Seconds.ofDuration a) := by
  change ((max a.nanos b.nanos : Nat) : ℚ) / 1000000000 =
    max (b.nanos / 1000000000 : ℚ) (a.nanos / 1000000000)
  rw [Nat.cast_max, max_div_div_right (by norm_num), max_comm]

/-- What is read lies within half a nanosecond. -/
theorem abs_toDuration_sub_le {x : ℚ} (nonneg : 0 ≤ x) :
    |((Seconds.toDuration x).nanos : ℚ) - x * 1000000000| ≤ 1 / 2 := by
  have positive : 0 ≤ (x * 1000000000).num := Rat.num_nonneg.mpr (by positivity)
  have near := abs_roundQuotient_sub_le (x * 1000000000).num.toNat (x * 1000000000).den_pos
  have same : ((x * 1000000000).num.toNat / (x * 1000000000).den : ℚ) = x * 1000000000 := by
    have whole : (((x * 1000000000).num.toNat : Nat) : ℚ) = (x * 1000000000).num := by
      exact_mod_cast congrArg (Int.cast (R := ℚ)) (Int.toNat_of_nonneg positive)
    rw [whole, Rat.num_div_den]
  rw [same] at near
  exact near

/-- What is read does not fall when a number grows. -/
theorem toDuration_mono {x y : ℚ} (nonneg : 0 ≤ x) (le : x ≤ y) :
    (Seconds.toDuration x).nanos ≤ (Seconds.toDuration y).nanos := by
  obtain rfl | less := le.eq_or_lt
  · exact Nat.le_refl _
  · have first := (abs_le.mp (abs_toDuration_sub_le nonneg)).2
    have second := (abs_le.mp (abs_toDuration_sub_le (nonneg.trans le))).1
    have below : ((Seconds.toDuration x).nanos : ℚ) < (Seconds.toDuration y).nanos + 1 := by
      linarith
    exact Nat.le_of_lt_succ (by exact_mod_cast below)

theorem toDuration_ofDuration_exact (d : Duration) :
    Seconds.toDuration (Seconds.ofDuration d : ℚ) = d := by
  have near := abs_le.mp (abs_toDuration_sub_le (ofDuration_nonneg d))
  have same : (Seconds.ofDuration d : ℚ) * 1000000000 = d.nanos :=
    div_mul_cancel₀ _ (by norm_num)
  rw [same] at near
  have low : (d.nanos : ℚ) < (Seconds.toDuration (Seconds.ofDuration d : ℚ)).nanos + 1 := by
    linarith
  have high : ((Seconds.toDuration (Seconds.ofDuration d : ℚ)).nanos : ℚ) < d.nanos + 1 := by
    linarith
  have low : d.nanos < (Seconds.toDuration (Seconds.ofDuration d : ℚ)).nanos + 1 := by
    exact_mod_cast low
  have high : (Seconds.toDuration (Seconds.ofDuration d : ℚ)).nanos < d.nanos + 1 := by
    exact_mod_cast high
  have equal : (Seconds.toDuration (Seconds.ofDuration d : ℚ)).nanos = d.nanos := by omega
  exact congrArg Duration.mk equal

/-! ## One delay -/

theorem powerFrom_eq (result base : ℚ) (exponent : Nat) :
    powerFrom result base exponent = result * base ^ exponent := by
  induction exponent using Nat.strong_induction_on generalizing result base with
  | _ exponent ih =>
      have split := Nat.div_add_mod exponent 2
      have step : powerFrom result base exponent =
          if exponent / 2 = 0 then (if exponent % 2 = 1 then result * base else result)
          else powerFrom (if exponent % 2 = 1 then result * base else result) (base * base)
            (exponent / 2) := by
        rw [powerFrom]
      have odd : (if exponent % 2 = 1 then result * base else result) =
          result * base ^ (exponent % 2) := by
        obtain even | odd := Nat.mod_two_eq_zero_or_one exponent
        · rw [even, if_neg (by decide), pow_zero, mul_one]
        · rw [odd, if_pos rfl, pow_one]
      have whole : base ^ exponent = base ^ (exponent % 2) * (base * base) ^ (exponent / 2) := by
        rw [← sq, ← pow_mul, ← pow_add, Nat.add_comm, split]
      rw [step, odd, whole]
      split
      next none => rw [none, pow_zero, mul_one]
      next some => rw [ih _ (by omega), mul_assoc]

namespace Backoff

variable {b : Backoff ℚ}

/-- The least delay, in seconds. -/
def low (b : Backoff ℚ) : ℚ := Seconds.ofDuration b.least

/-- The greatest delay, in seconds. -/
def high (b : Backoff ℚ) : ℚ := Seconds.ofDuration b.greatest

/-- The bounds are in order, and the factor does not make delays shorter. -/
structure IsOrdered (b : Backoff ℚ) : Prop where
  bounds : b.low ≤ b.high
  factor : 1 ≤ b.factor

theorem ceiling_eq (b : Backoff ℚ) :
    b.ceiling = min b.high (b.low * b.factor ^ min b.attempt exponentLimit) := by
  unfold ceiling
  dsimp only
  rw [powerFrom_eq, one_mul]
  change (if b.low * b.factor ^ _ ≤ b.high then _ else b.high) = _
  split
  next below => exact (min_eq_right below).symm
  next above => exact (min_eq_left (not_le.mp above).le).symm

theorem IsOrdered.low_le_ceiling (ordered : b.IsOrdered) : b.low ≤ b.ceiling := by
  rw [ceiling_eq]
  refine le_min ordered.bounds ?_
  exact le_mul_of_one_le_right (ofDuration_nonneg _) (one_le_pow₀ ordered.factor)

theorem ceiling_le_high (b : Backoff ℚ) : b.ceiling ≤ b.high := by
  rw [ceiling_eq]
  exact min_le_left _ _

/-- The delay with jitter, or without it. -/
def spread (b : Backoff ℚ) (draw : Option ℚ) : ℚ :=
  match draw with
  | some share => if b.low < b.ceiling then share * (b.ceiling - b.low) + b.low else b.ceiling
  | none => b.ceiling

/-- A draw below one places a delay between the least one and the one without jitter. -/
theorem IsOrdered.spread_mem (ordered : b.IsOrdered) {share : ℚ} (nonneg : 0 ≤ share)
    (below : share < 1) : b.low ≤ b.spread (some share) ∧ b.spread (some share) ≤ b.ceiling := by
  have room := sub_nonneg.mpr ordered.low_le_ceiling
  have some : 0 ≤ share * (b.ceiling - b.low) := mul_nonneg nonneg room
  have most : share * (b.ceiling - b.low) ≤ b.ceiling - b.low :=
    mul_le_of_le_one_left room below.le
  unfold spread
  dsimp only
  split
  next => constructor <;> linarith
  next => exact ⟨ordered.low_le_ceiling, le_rfl⟩

/-- A delay within the bounds is left as it is. -/
theorem seconds_eq {draw : Option ℚ} (least : b.low ≤ b.spread draw)
    (most : b.spread draw ≤ b.high) : b.seconds draw = b.spread draw := by
  have clamped : b.seconds draw = if b.spread draw < b.low then b.low
      else if b.high < b.spread draw then b.high else b.spread draw := by
    cases draw <;> rfl
  rw [clamped, if_neg (not_lt.mpr least), if_neg (not_lt.mpr most)]

theorem IsOrdered.seconds_none (ordered : b.IsOrdered) : b.seconds none = b.ceiling :=
  seconds_eq ordered.low_le_ceiling b.ceiling_le_high

theorem IsOrdered.seconds_mem (ordered : b.IsOrdered) {share : ℚ} (nonneg : 0 ≤ share)
    (below : share < 1) :
    b.low ≤ b.seconds (some share) ∧ b.seconds (some share) ≤ b.seconds none := by
  obtain ⟨least, most⟩ := ordered.spread_mem nonneg below
  rw [ordered.seconds_none, seconds_eq least (most.trans b.ceiling_le_high)]
  exact ⟨least, most⟩

/-! ## Sequences of delays -/

/-- The backoff with its factor read as an exact number. -/
def rational (b : Backoff Float) : Backoff ℚ :=
  { b with factor := (Binary.ofFloat b.factor).value }

/-- What can be asked of a backoff. -/
inductive Request where
  /-- A delay, with a draw for its jitter if there is to be any. -/
  | next (draw : Option ℚ)
  | reset

def Request.isNext : Request → Bool
  | .next _ => true
  | .reset => false

def serve (b : Backoff ℚ) : Request → Backoff ℚ
  | .next draw => (b.next draw).2
  | .reset => b.reset

/-- The backoff after some requests, the first one first. -/
def after (b : Backoff ℚ) (requests : List Request) : Backoff ℚ :=
  requests.foldl serve b

/-- How many delays were handed out since the last reset. -/
def handedOut (requests : List Request) : Nat :=
  (requests.rtakeWhile Request.isNext).length

@[simp]
theorem handedOut_next (requests : List Request) (draw : Option ℚ) :
    handedOut (requests ++ [.next draw]) = handedOut requests + 1 := by
  rw [handedOut, List.rtakeWhile_concat_pos _ _ _ rfl, List.length_append]
  rfl

@[simp]
theorem handedOut_reset (requests : List Request) : handedOut (requests ++ [.reset]) = 0 := by
  rw [handedOut, List.rtakeWhile_concat_neg _ _ _ Bool.false_ne_true]
  rfl

theorem handedOut_append {requests later : List Request}
    (nexts : ∀ request ∈ later, request.isNext = true) :
    handedOut (requests ++ later) = handedOut requests + later.length := by
  induction later using List.reverseRecOn with
  | nil => rw [List.append_nil, List.length_nil, Nat.add_zero]
  | append_singleton later request ih =>
      have earlier := ih fun other member => nexts other (List.mem_append_left _ member)
      cases request with
      | reset => cases nexts .reset (List.mem_append_right _ List.mem_cons_self)
      | next draw =>
          rw [← List.append_assoc, handedOut_next, earlier, List.length_append]
          rfl

/-- The requests change nothing but the count of attempts. -/
theorem after_eq (b : Backoff ℚ) (fresh : b.attempt = 0) (requests : List Request) :
    b.after requests = { b with attempt := min (handedOut requests) attemptLimit } := by
  induction requests using List.reverseRecOn with
  | nil =>
      obtain ⟨_, _, _, _⟩ := b
      cases fresh
      rfl
  | append_singleton requests request ih =>
      rw [after, List.foldl_append, List.foldl_cons, List.foldl_nil]
      change (b.after requests).serve request = _
      rw [ih]
      cases request with
      | reset =>
          rw [handedOut_reset]
          rfl
      | next draw =>
          rw [handedOut_next]
          refine congrArg (fun count => { b with attempt := count }) ?_
          change min (min (handedOut requests) attemptLimit + 1) attemptLimit = _
          omega

/-- Delays that stay between bounds, and without jitter do not become shorter until the next reset,
whatever was asked before. -/
structure IsCapped {α : Type} [LE α] (low high : α) (delay : List Request → Option ℚ → α) :
    Prop where
  least : ∀ requests, low ≤ delay requests none
  most : ∀ requests, delay requests none ≤ high
  grows : ∀ requests later, (∀ request ∈ later, request.isNext = true) →
    delay requests none ≤ delay (requests ++ later) none
  stays : ∀ requests later, (∀ request ∈ later, request.isNext = true) →
    delay requests none = high → delay (requests ++ later) none = high
  jitter : ∀ requests share, 0 ≤ share → share < 1 →
    low ≤ delay requests (some share) ∧ delay requests (some share) ≤ delay requests none

section Law

variable (least greatest : Duration) (factor : Float) (requests : List Request)

theorem isOrdered_rational : (make least greatest factor).rational.IsOrdered where
  bounds := by
    change (Seconds.ofDuration least : ℚ) ≤ Seconds.ofDuration (greatest.longer least)
    rw [ofDuration_longer]
    exact le_max_left _ _
  factor := by
    change 1 ≤ (Binary.ofFloat (effectiveFactor factor)).value
    rw [value_effectiveFactor]
    exact one_le_growth factor

theorem isOrdered_after : ((make least greatest factor).rational.after requests).IsOrdered := by
  have ordered := isOrdered_rational least greatest factor
  rw [after_eq _ rfl]
  exact ⟨ordered.bounds, ordered.factor⟩

theorem low_after :
    ((make least greatest factor).rational.after requests).low = Seconds.ofDuration least := by
  rw [after_eq _ rfl]
  rfl

/-- The delay without jitter after some requests. -/
theorem seconds_after :
    ((make least greatest factor).rational.after requests).seconds none =
      min (max (Seconds.ofDuration least) (Seconds.ofDuration greatest))
        (Seconds.ofDuration least * growth factor ^ min (handedOut requests) exponentLimit) := by
  have counted : min (min (handedOut requests) attemptLimit) exponentLimit =
      min (handedOut requests) exponentLimit := by
    have limits : exponentLimit ≤ attemptLimit := by decide
    omega
  rw [(isOrdered_after least greatest factor requests).seconds_none, after_eq _ rfl, ceiling_eq]
  change min (Seconds.ofDuration (greatest.longer least) : ℚ)
    (Seconds.ofDuration least * (Binary.ofFloat (effectiveFactor factor)).value ^
      min (min (handedOut requests) attemptLimit) exponentLimit) = _
  rw [ofDuration_longer, value_effectiveFactor, counted]

theorem isCapped_seconds :
    IsCapped (Seconds.ofDuration least : ℚ)
      (max (Seconds.ofDuration least) (Seconds.ofDuration greatest))
      fun requests draw => ((make least greatest factor).rational.after requests).seconds draw := by
  have grows (requests later : List Request) (nexts : ∀ request ∈ later, request.isNext = true) :
      ((make least greatest factor).rational.after requests).seconds none ≤
        ((make least greatest factor).rational.after (requests ++ later)).seconds none := by
    rw [seconds_after, seconds_after, handedOut_append nexts]
    refine min_le_min_left _ (mul_le_mul_of_nonneg_left ?_ (ofDuration_nonneg least))
    exact pow_le_pow_right₀ (one_le_growth factor) (min_le_min_right _ (Nat.le_add_right _ _))
  have most (requests : List Request) :
      ((make least greatest factor).rational.after requests).seconds none ≤
        max (Seconds.ofDuration least) (Seconds.ofDuration greatest) := by
    rw [seconds_after]
    exact min_le_left _ _
  refine ⟨fun requests => ?_, most, grows, ?_, fun requests share nonneg below => ?_⟩
  · have ordered := isOrdered_after least greatest factor requests
    rw [ordered.seconds_none, ← low_after least greatest factor requests]
    exact ordered.low_le_ceiling
  · intro requests later nexts reached
    exact le_antisymm (most _) (reached ▸ grows requests later nexts)
  · have ordered := isOrdered_after least greatest factor requests
    rw [← low_after least greatest factor requests]
    exact ordered.seconds_mem nonneg below

/-- Rounding to nanoseconds keeps delays between their bounds, and growing. -/
theorem IsCapped.toDuration {low high : ℚ} {delay : List Request → Option ℚ → ℚ}
    (capped : IsCapped low high delay) (nonneg : 0 ≤ low) :
    IsCapped (Seconds.toDuration low).nanos (Seconds.toDuration high).nanos
      fun requests draw => (Seconds.toDuration (delay requests draw)).nanos := by
  have positive (requests : List Request) : 0 ≤ delay requests none :=
    nonneg.trans (capped.least requests)
  have most (requests : List Request) := toDuration_mono (positive requests) (capped.most requests)
  have grows (requests later : List Request) (nexts : ∀ request ∈ later, request.isNext = true) :=
    toDuration_mono (positive requests) (capped.grows requests later nexts)
  refine ⟨fun requests => ?_, most, grows, ?_, fun requests share low below => ?_⟩
  · exact toDuration_mono nonneg (capped.least requests)
  · intro requests later nexts reached
    exact le_antisymm (most _) (reached ▸ grows requests later nexts)
  · obtain ⟨least, most⟩ := capped.jitter requests share low below
    exact ⟨toDuration_mono nonneg least, toDuration_mono (nonneg.trans least) most⟩

theorem toDuration_max : (Seconds.toDuration (max (Seconds.ofDuration least)
      (Seconds.ofDuration greatest) : ℚ)).nanos = max least.nanos greatest.nanos := by
  rw [← ofDuration_longer, toDuration_ofDuration_exact]
  exact Nat.max_comm _ _

/-- **The law of the sequence.**  Of any sequence of requests, a backoff counts the delays since the
last reset, up to the greatest number of its counter.  The delay without jitter that comes next is
the least delay times the growth factor to the power of this count, up to the greatest exponent, as
long as this is no more than the greatest delay, or the least one if that is greater.  So it stays
between these two, does not become shorter until the next reset, and stays at the greatest one once
it is there; with jitter, it lies between the least delay and the one without.  What is handed out
is that number of seconds to the nearest nanosecond, and the same holds of it. -/
theorem delays_grow_until_capped :
    let start := (make least greatest factor).rational
    let low : ℚ := Seconds.ofDuration least
    let high : ℚ := max low (Seconds.ofDuration greatest)
    (∀ requests, (start.after requests).attempt = min (handedOut requests) attemptLimit) ∧
    (∀ requests, (start.after requests).seconds none =
      min high (low * growth factor ^ min (handedOut requests) exponentLimit)) ∧
    (IsCapped low high fun requests draw => (start.after requests).seconds draw) ∧
    (∀ requests, |(((start.after requests).next none).1.nanos : ℚ) -
      (start.after requests).seconds none * 1000000000| ≤ 1 / 2) ∧
    (IsCapped least.nanos (max least.nanos greatest.nanos) fun requests draw =>
      ((start.after requests).next draw).1.nanos) := by
  intro start low high
  have capped := isCapped_seconds least greatest factor
  refine ⟨fun requests => ?_, seconds_after least greatest factor, capped, fun requests => ?_, ?_⟩
  · rw [after_eq start rfl]
  · exact abs_toDuration_sub_le ((ofDuration_nonneg least).trans (capped.least requests))
  · have rounded := capped.toDuration (ofDuration_nonneg least)
    rw [toDuration_max, toDuration_ofDuration_exact] at rounded
    exact rounded

end Law

/-- The delays of a provider that is given no other backoff: half a second, two seconds, and then
five. -/
example (requests : List Request) : (standard.rational.after requests).seconds none =
    min 5 (1 / 2 * 4 ^ min (handedOut requests) exponentLimit) := by
  have four : growth defaultFactor = 4 := by
    have read : number? 4.0 = some (2 ^ 52 * 2 ^ (-50 : Int)) := by rfl
    rw [growth, defaultFactor, read]
    norm_num
  have least : (Seconds.ofDuration defaultLeast : ℚ) = 1 / 2 := by
    change ((500 * 1000000 : Nat) / 1000000000 : ℚ) = 1 / 2
    norm_num
  have greatest : (Seconds.ofDuration defaultGreatest : ℚ) = 5 := by
    change ((5 * 1000000000 : Nat) / 1000000000 : ℚ) = 5
    norm_num
  rw [standard, seconds_after, four, least, greatest, max_eq_right (by norm_num)]

end Backoff

end RepoCollector
