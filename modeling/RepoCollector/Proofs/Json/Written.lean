import RepoCollector.Proofs.Json.Words

/-! # Written values

How a JSON value may be written: blanks may stand in front of every word and behind it, the items of
an array and the members of an object are in order, and strings and numbers keep their pieces and
characters (`RepoCollector.Json.Writes`).  Every text that writes a value is read as this value
(`RepoCollector.Json.ofText?_of_writes`).
-/

namespace RepoCollector.Json

/-- What a part of a text stands for. -/
inductive Phrase where
  | value (value : Json)
  /-- The items of an array, at least one. -/
  | items (items : List Json)
  | member (member : List Piece × Json)
  /-- The members of an object, at least one. -/
  | members (members : List (List Piece × Json))

/-- **How values may be written.** -/
inductive Writes : Phrase → List Char → Prop where
  | null : Writes (.value .null) ['n', 'u', 'l', 'l']
  | yes : Writes (.value (.bool true)) ['t', 'r', 'u', 'e']
  | no : Writes (.value (.bool false)) ['f', 'a', 'l', 's', 'e']
  | number {numeral : List Char} (isNumeral : IsNumeral numeral) :
      Writes (.value (.number numeral)) numeral
  | string {pieces : List Piece} {text : List Char} (isLiteral : IsLiteral pieces text) :
      Writes (.value (.string pieces)) ('"' :: (text ++ ['"']))
  | emptyArray {blank : List Char} (isBlank : IsBlank blank) :
      Writes (.value (.array [])) ('[' :: (blank ++ [']']))
  | array {items : List Json} {text : List Char} (writes : Writes (.items items) text) :
      Writes (.value (.array items)) ('[' :: (text ++ [']']))
  | emptyObject {blank : List Char} (isBlank : IsBlank blank) :
      Writes (.value (.object [])) ('\x7b' :: (blank ++ ['\x7d']))
  | object {members : List (List Piece × Json)} {text : List Char}
      (writes : Writes (.members members) text) :
      Writes (.value (.object members)) ('\x7b' :: (text ++ ['\x7d']))
  | blanks {value : Json} {before text after : List Char} (isBefore : IsBlank before)
      (writes : Writes (.value value) text) (isAfter : IsBlank after) :
      Writes (.value value) (before ++ (text ++ after))
  | item {value : Json} {text : List Char} (writes : Writes (.value value) text) :
      Writes (.items [value]) text
  | items {value : Json} {values : List Json} {text more : List Char}
      (writes : Writes (.value value) text) (others : Writes (.items values) more) :
      Writes (.items (value :: values)) (text ++ ',' :: more)
  | member {key : List Piece} {value : Json} {before name after text : List Char}
      (isBefore : IsBlank before) (isLiteral : IsLiteral key name) (isAfter : IsBlank after)
      (writes : Writes (.value value) text) :
      Writes (.member (key, value)) (before ++ '"' :: (name ++ '"' :: (after ++ ':' :: text)))
  | last {member : List Piece × Json} {text : List Char} (writes : Writes (.member member) text) :
      Writes (.members [member]) text
  | members {member : List Piece × Json} {members : List (List Piece × Json)}
      {text more : List Char} (writes : Writes (.member member) text)
      (others : Writes (.members members) more) :
      Writes (.members (member :: members)) (text ++ ',' :: more)

open Reading

/-- What the machine makes of a part of a text, whatever is open and whatever comes after it.  Items
and members are read up to the end of their array or object. -/
def Reads : Phrase → List Char → Prop
  | .value value, text => ∀ frames expect rest, expect = .value ∨ expect = .firstItem → Ends rest →
      scan ⟨frames, expect⟩ (text ++ rest) = (deliver value frames).bind (scan · rest)
  | .items items, text => ∀ done frames expect rest, expect = .value ∨ expect = .firstItem →
      scan ⟨.array done :: frames, expect⟩ (text ++ ']' :: rest) =
        (deliver (.array (done.reverse ++ items)) frames).bind (scan · rest)
  | .member member, text => ∀ done frames expect rest, expect = .key ∨ expect = .firstKey →
      Ends rest → scan ⟨.object done :: frames, expect⟩ (text ++ rest) =
        scan ⟨.object (member :: done) :: frames, .separator⟩ rest
  | .members members, text => ∀ done frames expect rest, expect = .key ∨ expect = .firstKey →
      scan ⟨.object done :: frames, expect⟩ (text ++ '\x7d' :: rest) =
        (deliver (.object (done.reverse ++ members)) frames).bind (scan · rest)

variable {frames : List Frame} {expect : Expect} {token : Token} {rest : List Char}

theorem take_value (awaited : expect = .value ∨ expect = .firstItem) (token : Token)
    (other : token ≠ .closeArray) : take ⟨frames, expect⟩ token = takeValue frames token := by
  obtain rfl | rfl := awaited
  · rfl
  · exact if_neg other

theorem take_key (awaited : expect = .key ∨ expect = .firstKey) (key : List Piece) :
    take ⟨frames, expect⟩ (.string key) = some ⟨.member key :: frames, .colon⟩ := by
  obtain rfl | rfl := awaited <;> rfl

theorem scan_openArray (awaited : expect = .value ∨ expect = .firstItem) (rest : List Char) :
    scan ⟨frames, expect⟩ ('[' :: rest) = scan ⟨.array [] :: frames, .firstItem⟩ rest := by
  rw [scan_mark _ rfl, take_value awaited .openArray nofun]
  rfl

theorem scan_openObject (awaited : expect = .value ∨ expect = .firstItem) (rest : List Char) :
    scan ⟨frames, expect⟩ ('\x7b' :: rest) = scan ⟨.object [] :: frames, .firstKey⟩ rest := by
  rw [scan_mark _ rfl, take_value awaited .openObject nofun]
  rfl

theorem reads_name {value : Json} {name : List Char} (token : Token)
    (named : nameOf? token = some name)
    (takes : ∀ frames, takeValue frames token = deliver value frames) :
    Reads (.value value) name := by
  intro frames expect rest awaited ends
  have other : token ≠ .closeArray := by
    rintro rfl
    cases named
  rw [scan_name _ named ends, take_value awaited token other, takes]

/-- **What is written is read.** -/
theorem Writes.reads {phrase : Phrase} {text : List Char} (writes : Writes phrase text) :
    Reads phrase text := by
  -- What comes after a value is a blank, a mark or nothing, so the value's last word ends there.
  induction writes with
  | null => exact reads_name .null rfl fun _ => rfl
  | yes => exact reads_name (.bool true) rfl fun _ => rfl
  | no => exact reads_name (.bool false) rfl fun _ => rfl
  | number isNumeral =>
      intro frames expect rest awaited ends
      rw [scan_numeral _ isNumeral ends, take_value awaited (.number _) nofun]
      rfl
  | @string pieces text isLiteral =>
      intro frames expect rest awaited _
      rw [List.cons_append, List.append_assoc, List.singleton_append, scan_literal _ isLiteral,
        take_value awaited (.string _) nofun]
      rfl
  | emptyArray isBlank =>
      intro frames expect rest awaited _
      rw [List.cons_append, List.append_assoc, List.singleton_append, scan_openArray awaited,
        scan_blank _ isBlank, scan_mark _ rfl]
      rfl
  | array _ ih =>
      intro frames expect rest awaited _
      rw [List.cons_append, List.append_assoc, List.singleton_append, scan_openArray awaited,
        ih [] _ _ _ (.inr rfl)]
      rfl
  | emptyObject isBlank =>
      intro frames expect rest awaited _
      rw [List.cons_append, List.append_assoc, List.singleton_append, scan_openObject awaited,
        scan_blank _ isBlank, scan_mark _ rfl]
      rfl
  | object _ ih =>
      intro frames expect rest awaited _
      rw [List.cons_append, List.append_assoc, List.singleton_append, scan_openObject awaited,
        ih [] _ _ _ (.inr rfl)]
      rfl
  | blanks isBefore _ isAfter ih =>
      intro frames expect rest awaited ends
      rw [List.append_assoc, List.append_assoc, scan_blank _ isBefore,
        ih _ _ _ awaited (ends.blank isAfter)]
      simp only [scan_blank _ isAfter]
  | item _ ih =>
      intro done frames expect rest awaited
      rw [ih _ _ _ awaited (ends_mark rfl rest), deliver, Option.bind_some, scan_mark _ rfl,
        ← List.reverse_cons]
      rfl
  | items _ _ ih others =>
      intro done frames expect rest awaited
      rw [List.append_assoc, List.cons_append, ih _ _ _ awaited (ends_mark rfl _), deliver,
        Option.bind_some, scan_mark _ rfl]
      change scan ⟨.array (_ :: done) :: frames, .value⟩ _ = _
      rw [others _ _ _ _ (.inl rfl), List.reverse_cons, List.append_assoc, List.singleton_append]
  | member isBefore isLiteral isAfter _ ih =>
      intro done frames expect rest awaited ends
      simp only [List.append_assoc, List.cons_append]
      rw [scan_blank _ isBefore, scan_literal _ isLiteral, take_key awaited, Option.bind_some,
        scan_blank _ isAfter, scan_mark _ rfl]
      change scan ⟨_, .value⟩ _ = _
      rw [ih _ _ _ (.inl rfl) ends]
      rfl
  | last _ ih =>
      intro done frames expect rest awaited
      rw [ih _ _ _ _ awaited (ends_mark rfl rest), scan_mark _ rfl, ← List.reverse_cons]
      rfl
  | members _ _ ih others =>
      intro done frames expect rest awaited
      rw [List.append_assoc, List.cons_append, ih _ _ _ _ awaited (ends_mark rfl _),
        scan_mark _ rfl]
      change scan ⟨.object (_ :: done) :: frames, .key⟩ _ = _
      rw [others _ _ _ _ (.inl rfl), List.reverse_cons, List.append_assoc, List.singleton_append]

/-- A text that writes a value is read as this value. -/
theorem ofText?_of_writes {value : Json} {text : List Char} (writes : Writes (.value value) text) :
    ofText? text = some value := by
  have whole := writes.reads [] .value [] (.inl rfl) ends_nil
  rw [List.append_nil, deliver, Option.bind_some, scan_nil] at whole
  obtain ⟨tokens, cut, taken⟩ := Option.bind_eq_some_iff.mp whole
  rw [ofText?, cut]
  change (takeAll ⟨[], .value⟩ tokens).bind _ = _
  rw [taken]
  rfl

/-! ## Arrays and objects can be written -/

theorem isBlank_nil : IsBlank [] := fun _ member => absurd member List.not_mem_nil

theorem exists_writes_array {items : List Json}
    (written : ∀ item ∈ items, ∃ text, Writes (.value item) text) :
    ∃ text, Writes (.value (.array items)) text := by
  cases items with
  | nil => exact ⟨_, .emptyArray isBlank_nil⟩
  | cons first rest =>
      suffices whole : ∃ text, Writes (.items (first :: rest)) text by
        obtain ⟨text, writes⟩ := whole
        exact ⟨_, .array writes⟩
      induction rest generalizing first with
      | nil =>
          obtain ⟨text, writes⟩ := written first List.mem_cons_self
          exact ⟨_, .item writes⟩
      | cons second rest ih =>
          obtain ⟨here, others⟩ := List.forall_mem_cons.mp written
          obtain ⟨text, writes⟩ := here
          obtain ⟨more, writesMore⟩ := ih second others
          exact ⟨_, .items writes writesMore⟩

theorem exists_writes_object {members : List (List Piece × Json)}
    (written : ∀ member ∈ members, ∃ text, Writes (.member member) text) :
    ∃ text, Writes (.value (.object members)) text := by
  cases members with
  | nil => exact ⟨_, .emptyObject isBlank_nil⟩
  | cons first rest =>
      suffices whole : ∃ text, Writes (.members (first :: rest)) text by
        obtain ⟨text, writes⟩ := whole
        exact ⟨_, .object writes⟩
      induction rest generalizing first with
      | nil =>
          obtain ⟨text, writes⟩ := written first List.mem_cons_self
          exact ⟨_, .last writes⟩
      | cons second rest ih =>
          obtain ⟨here, others⟩ := List.forall_mem_cons.mp written
          obtain ⟨text, writes⟩ := here
          obtain ⟨more, writesMore⟩ := ih second others
          exact ⟨_, .members writes writesMore⟩

end RepoCollector.Json
