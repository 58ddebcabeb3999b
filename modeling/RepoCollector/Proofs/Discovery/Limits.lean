import RepoCollector.Discovery.RateLimit
import RepoCollector.Proofs.Number.Signed
import RepoCollector.Proofs.Text

/-! # How long a limit lasts

A header tells a number of seconds if its value is a signed number of 64 bits with spaces and tabs
around it (`RepoCollector.Headers.number?_eq_some_iff`).  The first header with a name is the one
that counts, even if a later one could be read.

The delay is what the headers tell, to the second, unless the limit was lifted so long ago that the
number of seconds since then does not fit 64 bits (`RepoCollector.rateLimitDelay_exact`,
`RepoCollector.rateLimitDelay_overflows`).
-/

namespace RepoCollector

namespace Headers

/-- What may stand around a number in the value of a header. -/
def IsPadding (text : List Char) : Prop :=
  ∀ c ∈ text, c = ' ' ∨ c = '\t'

/-- The value of a header is a signed number of 64 bits, and padding. -/
def Spells (value : String) (n : Int) : Prop :=
  ∃ lead text trail, value.toList = lead ++ (text ++ trail) ∧ IsPadding lead ∧ IsPadding trail ∧
    IsSigned text n ∧ FitsSigned64 n

/-- The first header with a name, which is given in lower case, has a value. -/
def First (headers : Headers) (name value : String) : Prop :=
  ∃ before spelling after, headers = before ++ (spelling, value) :: after ∧
    spelling.toLower = name ∧ ∀ header ∈ before, header.1.toLower ≠ name

/-- The first header with a name tells a number. -/
def Tells (headers : Headers) (name : String) (n : Int) : Prop :=
  ∃ value, headers.First name value ∧ Spells value n

theorem first?_eq_some_iff {headers : Headers} {name value : String} :
    headers.first? name = some value ↔ headers.First name value := by
  unfold first? First
  rw [Option.map_eq_some_iff]
  simp only [List.find?_eq_some_iff_append, decide_eq_true_eq, Bool.not_eq_true',
    decide_eq_false_iff_not]
  constructor
  · rintro ⟨⟨spelling, _⟩, ⟨same, before, after, whole, others⟩, rfl⟩
    exact ⟨before, spelling, after, whole, same, others⟩
  · rintro ⟨before, spelling, after, whole, same, others⟩
    exact ⟨(spelling, value), ⟨same, before, after, whole, others⟩, rfl⟩

/-! ## Values -/

/-- A character that can be read is blank only if it is a space or a tab. -/
theorem isPadding_of_isReadable {value : String} {text : List Char}
    (readable : isReadable value = true) (part : text ⊆ value.toList)
    (blank : ∀ c ∈ text, Text.isBlank c = true) : IsPadding text := by
  intro c member
  have visible := List.all_eq_true.mp readable c (part member)
  have blank := blank c member
  simp only [Bool.or_eq_true, Bool.and_eq_true, decide_eq_true_eq] at visible
  obtain ⟨low, high⟩ | tab := visible
  · left
    simp only [Text.isBlank, Bool.or_eq_true, Bool.and_eq_true, decide_eq_true_eq, beq_iff_eq]
      at blank
    refine Char.toNat_inj.mp ?_
    change c.toNat = 32
    omega
  · exact .inr tab

theorem isBlank_of_isPadding {text : List Char} (padding : IsPadding text) :
    ∀ c ∈ text, Text.isBlank c = true := by
  intro c member
  obtain rfl | rfl := padding c member <;> rfl

theorem isBlank_eq_false_of_mem {text : List Char} {n : Int} (signed : IsSigned text n) {c : Char}
    (member : c ∈ text) : Text.isBlank c = false := by
  obtain rfl | rfl | digit := signed.of_mem member
  · rfl
  · rfl
  · have range := toNat_of_isDigit digit
    simp only [Text.isBlank, Bool.or_eq_false_iff, Bool.and_eq_false_iff, decide_eq_false_iff_not,
      beq_eq_false_iff_ne]
    omega

theorem isReadable_of_spells {value : String} {n : Int} (spells : Spells value n) :
    isReadable value = true := by
  obtain ⟨lead, text, trail, whole, before, after, signed, _⟩ := spells
  have padding {part : List Char} (padded : IsPadding part) {c : Char} (member : c ∈ part) :
      ((32 ≤ c.toNat && c.toNat < 127) || c = '\t') = true := by
    obtain rfl | rfl := padded c member <;> rfl
  refine List.all_eq_true.mpr fun c member => ?_
  rw [whole, List.mem_append, List.mem_append] at member
  obtain leads | inside | trails := member
  · exact padding before leads
  · obtain rfl | rfl | digit := signed.of_mem inside
    · rfl
    · rfl
    · have range := toNat_of_isDigit digit
      simp only [Bool.or_eq_true, Bool.and_eq_true, decide_eq_true_eq]
      omega
  · exact padding after trails

theorem trim_of_isSigned {lead text trail : List Char} {n : Int} (before : IsPadding lead)
    (signed : IsSigned text n) (after : IsPadding trail) :
    Text.trim (lead ++ (text ++ trail)) = text := by
  have leads : Text.trim (lead ++ (text ++ trail)) = Text.trim (text ++ trail) := by
    rw [Text.trim, Text.trim, Text.trimWhere, Text.trimWhere,
      List.dropWhile_append_of_pos (isBlank_of_isPadding before)]
  rw [leads]
  refine Text.trimWhere_append_of_all ?_ ?_ (isBlank_of_isPadding after)
  · exact fun c first => isBlank_eq_false_of_mem signed (List.mem_of_head? first)
  · exact fun c last => isBlank_eq_false_of_mem signed (List.mem_of_getLast? last)

theorem spells_iff {value : String} {n : Int} :
    Spells value n ↔ isReadable value = true ∧ signed64? (Text.trim value.toList) = some n := by
  constructor
  · intro spells
    refine ⟨isReadable_of_spells spells, ?_⟩
    obtain ⟨lead, text, trail, whole, before, after, signed, fits⟩ := spells
    rw [whole, trim_of_isSigned before signed after]
    exact signed64?_eq_some_iff.mpr ⟨signed, fits⟩
  · rintro ⟨readable, read⟩
    obtain ⟨signed, fits⟩ := signed64?_eq_some_iff.mp read
    obtain ⟨lead, trail, whole, before, after⟩ :=
      Text.exists_append_trimWhere Text.isBlank value.toList
    refine ⟨lead, _, trail, whole, ?_, ?_, signed, fits⟩
    · refine isPadding_of_isReadable readable ?_ before
      rw [whole]
      exact List.subset_append_left _ _
    · refine isPadding_of_isReadable readable ?_ after
      rw [whole]
      exact List.subset_append_of_subset_right _ (List.subset_append_right _ _)

/-- **A header is read as the number that its value spells, and as nothing else.** -/
theorem number?_eq_some_iff {headers : Headers} {name : String} {n : Int} :
    headers.number? name = some n ↔ headers.Tells name n := by
  unfold number? text? Tells
  simp only [Option.bind_eq_some_iff, Option.filter_eq_some_iff, first?_eq_some_iff, spells_iff,
    and_assoc]

theorem number?_eq_none_iff {headers : Headers} {name : String} :
    headers.number? name = none ↔ ¬∃ n, headers.Tells name n := by
  rw [Option.eq_none_iff_forall_ne_some, not_exists]
  exact forall_congr' fun n => not_congr number?_eq_some_iff

end Headers

/-! ## Delays -/

theorem secondsUntil_of_le {reset now : Int} (fits : FitsSigned64 reset) (later : 0 ≤ now)
    (recent : now ≤ reset + 2 ^ 63) : secondsUntil reset now = .ok (max (reset - now) 1).toNat := by
  have fits : FitsSigned64 (reset - now) := by
    unfold FitsSigned64 at fits ⊢
    omega
  exact if_pos (fitsSigned64_iff.mpr fits)

theorem secondsUntil_of_lt {reset now : Int} (long : reset + 2 ^ 63 < now) :
    secondsUntil reset now = .error .subtraction := by
  refine if_neg (mt fitsSigned64_iff.mp ?_)
  unfold FitsSigned64
  omega

/-- **The delay is what the headers tell.**  A number of seconds in `retry-after` is the delay, and
none is negative.  Without one, the delay lasts until the second in `x-ratelimit-reset`, a second at
least; it can be computed exactly if no more than `2 ^ 63` seconds have passed since then.  Without
either there is none. -/
theorem rateLimitDelay_exact {headers : Headers} {now : Int} (later : 0 ≤ now) :
    (∀ seconds, headers.Tells "retry-after" seconds →
      rateLimitDelay headers now = .ok (some (.ofSecs (max seconds 0).toNat))) ∧
    ((¬∃ seconds, headers.Tells "retry-after" seconds) →
      (∀ reset, headers.Tells "x-ratelimit-reset" reset →
        (now ≤ reset + 2 ^ 63 →
          rateLimitDelay headers now = .ok (some (.ofSecs (max (reset - now) 1).toNat))) ∧
        (reset + 2 ^ 63 < now → rateLimitDelay headers now = .error .subtraction)) ∧
      ((¬∃ reset, headers.Tells "x-ratelimit-reset" reset) →
        rateLimitDelay headers now = .ok none)) := by
  unfold rateLimitDelay
  refine ⟨fun seconds told => ?_, fun untold => ⟨fun reset told => ?_, fun unset => ?_⟩⟩
  · rw [Headers.number?_eq_some_iff.mpr told]
  · have fits : FitsSigned64 reset := by
      obtain ⟨_, _, _, _, _, _, _, _, _, fits⟩ := told
      exact fits
    rw [Headers.number?_eq_none_iff.mpr untold, Headers.number?_eq_some_iff.mpr told]
    dsimp only
    refine ⟨fun recent => ?_, fun long => ?_⟩
    · rw [secondsUntil_of_le fits later recent]
    · rw [secondsUntil_of_lt long]
  · rw [Headers.number?_eq_none_iff.mpr untold, Headers.number?_eq_none_iff.mpr unset]

/-- A delay that cannot be read, one that can be but comes too late, and a limit that is lifted. -/
def pastLimit : Headers :=
  [("Retry-After", "soon"), ("retry-after", "7"), ("X-RateLimit-Reset", "\t+1060 ")]

theorem pastLimit_reset : pastLimit.Tells "x-ratelimit-reset" 1060 :=
  Headers.number?_eq_some_iff.mp (by decide +kernel)

theorem pastLimit_delay : ¬∃ seconds, pastLimit.Tells "retry-after" seconds :=
  Headers.number?_eq_none_iff.mp (by decide +kernel)

/-- A limit that was lifted at second 1060 makes wait a second at second 5000. -/
theorem rateLimitDelay_exact_past : (0 : Int) ≤ 5000 ∧
    rateLimitDelay pastLimit 5000 = .ok (some (.ofSecs 1)) :=
  ⟨by decide, (((rateLimitDelay_exact (by decide)).2 pastLimit_delay).1 1060 pastLimit_reset).1
    (by decide)⟩

/-- A limit that was lifted at the least second there is. -/
def ancientLimit : Headers := [("x-ratelimit-reset", "-9223372036854775808")]

/-- **A limit can have been lifted too long ago.**  A second after second zero the number of seconds
since the least second does not fit 64 bits, and no delay is computed, although the limit was
lifted long ago and a second would do. -/
theorem rateLimitDelay_overflows :
    ancientLimit.Tells "x-ratelimit-reset" (-2 ^ 63) ∧
    (¬∃ seconds, ancientLimit.Tells "retry-after" seconds) ∧
    rateLimitDelay ancientLimit 1 = .error .subtraction ∧
    rateLimitDelay ancientLimit 1 ≠ .ok (some (.ofSecs (max (-2 ^ 63 - 1 : Int) 1).toNat)) := by
  refine ⟨Headers.number?_eq_some_iff.mp ?_, Headers.number?_eq_none_iff.mp ?_, ?_, ?_⟩
  · decide +kernel
  · decide +kernel
  · decide +kernel
  · decide +kernel

end RepoCollector
