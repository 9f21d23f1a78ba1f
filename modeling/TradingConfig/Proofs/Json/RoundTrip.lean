/-
  TradingConfig.Proofs.Json.RoundTrip
  ────────────────────────────────
  **THE INDENTED TEXT OF A VALUE READS BACK.**

  The reader inverts the indented form of every value that nests within the
  limit and whose numbers are integers of 64 bits (`Fits`).  What is read is
  the canonical value (`ofText_prettyText_newLine`): the reader sorts the
  members of an object, so the order in which they were written is lost, and
  nothing else.

    • `value_indented` — the induction over the value, for any fuel that
      the length of the text allows and whatever follows the text,
    • `ofText_prettyText`, `ofText_prettyText_newLine` — a whole text, without
      and with a new line after it.
-/
import TradingConfig.Json.Reader
import TradingConfig.Proofs.Json.Scalar

namespace TradingConfig.Json

/-! ## §1. Values that are read back. -/

mutual

/-- Whether at most `room` arrays and objects lie inside of each other and
every number is an integer that keeps its kind. -/
def Fits (room : Nat) : Json → Prop
  | .null | .bool _ | .str _ => True
  | .num (.int n) => InRange n
  | .num (.float _) => False
  | .arr items => 0 < room ∧ ItemsFit (room - 1) items
  | .obj members => 0 < room ∧ MembersFit (room - 1) members

/-- Whether every item fits. -/
def ItemsFit (room : Nat) : List Json → Prop
  | [] => True
  | item :: rest => Fits room item ∧ ItemsFit room rest

/-- Whether the value of every member fits. -/
def MembersFit (room : Nat) : List (String × Json) → Prop
  | [] => True
  | (_, value) :: rest => Fits room value ∧ MembersFit room rest

end

theorem itemsFit_iff {room : Nat} {items : List Json} :
    ItemsFit room items ↔ ∀ item ∈ items, Fits room item := by
  induction items with
  | nil => simp [ItemsFit]
  | cons item rest ih => simp [ItemsFit, ih]

/-! ## §2. Blanks. -/

theorem skipBlank_newLine (level : Nat) (rest : List Symbol) :
    skipBlank ((newLine level).map Symbol.char ++ rest) = skipBlank rest := by
  have blank : ∀ s ∈ (newLine level).map Symbol.char, isBlank s = true := by
    intro s member
    obtain ⟨c, inLine, rfl⟩ := List.mem_map.mp member
    rcases List.mem_cons.mp inLine with rfl | space
    · rfl
    · rw [(List.mem_replicate.mp space).2]
      rfl
  exact List.dropWhile_append_of_pos blank

theorem skipBlank_of_not_blank {s : Symbol} (notBlank : isBlank s = false) (rest : List Symbol) :
    skipBlank (s :: rest) = s :: rest := by
  simp [skipBlank, notBlank]

/-- A blank in front of a value is skipped. -/
theorem value_space (fuel room : Nat) (input : List Symbol) :
    value fuel room (.char ' ' :: input) = value fuel room input := by
  have skip : skipBlank (.char ' ' :: input) = skipBlank input := rfl
  cases fuel with
  | zero => unfold value; rfl
  | succ fuel => unfold value; rw [skip]

/-- A new line ends a numeral. -/
theorem endsNumeral_newLine (level : Nat) (rest : List Symbol) :
    EndsNumeral ((newLine level).map Symbol.char ++ rest) := by
  show digit? (.char '\n') = none ∧ _ ∧ _ ∧ _
  decide

/-- Further items, or the new line behind the last one, end a numeral. -/
theorem endsNumeral_indentedItems (level outer : Nat) (items : List Json) (rest : List Symbol) :
    EndsNumeral ((indentedItems level items).map Symbol.char
      ++ ((newLine outer).map Symbol.char ++ rest)) := by
  cases items with
  | nil => exact endsNumeral_newLine outer rest
  | cons item more =>
    show digit? (.char ',') = none ∧ _ ∧ _ ∧ _
    decide

/-- Further members, or the new line behind the last one, end a numeral. -/
theorem endsNumeral_indentedMembers (level outer : Nat) (members : List (String × Json))
    (rest : List Symbol) :
    EndsNumeral ((indentedMembers level members).map Symbol.char
      ++ ((newLine outer).map Symbol.char ++ rest)) := by
  cases members with
  | nil => exact endsNumeral_newLine outer rest
  | cons member more =>
    show digit? (.char ',') = none ∧ _ ∧ _ ∧ _
    decide

/-! ## §3. The first character of a value. -/

theorem isBlank_of_isDigit {c : Char} (isDigit : c.isDigit = true) : isBlank (.char c) = false := by
  simp only [isBlank, Bool.or_eq_false_iff, decide_eq_false_iff_not]
  refine ⟨⟨⟨?_, ?_⟩, ?_⟩, ?_⟩ <;> rintro rfl <;> revert isDigit <;> decide

/-- The text of a value starts with no blank and with no closing bracket. -/
theorem indented_head (level : Nat) {room : Nat} {v : Json} (fits : Fits room v) :
    ∃ c tail, indented level v = c :: tail ∧ isBlank (.char c) = false ∧ c ≠ ']' := by
  match v with
  | .null => exact ⟨_, _, rfl, rfl, by decide⟩
  | .bool true => exact ⟨_, _, rfl, rfl, by decide⟩
  | .bool false => exact ⟨_, _, rfl, rfl, by decide⟩
  | .str text => exact ⟨_, _, rfl, rfl, by decide⟩
  | .num (.int (.negSucc n)) => exact ⟨_, _, rfl, rfl, by decide⟩
  | .num (.int (.ofNat n)) =>
    show ∃ c tail, Nat.toDigits 10 n = c :: tail ∧ _
    cases digits : Nat.toDigits 10 n with
    | nil => exact absurd digits Nat.toDigits_ne_nil
    | cons d ds =>
      have member : d ∈ Nat.toDigits 10 n := digits ▸ List.mem_cons_self
      have isDigit : d.isDigit = true :=
        Nat.isDigit_of_mem_toDigits (by decide) (by decide) member
      refine ⟨d, ds, rfl, isBlank_of_isDigit isDigit, ?_⟩
      rintro rfl
      revert isDigit
      decide
  | .num (.float x) => exact fits.elim
  | .arr [] => exact ⟨_, _, rfl, rfl, by decide⟩
  | .arr (item :: rest) => exact ⟨_, _, rfl, rfl, by decide⟩
  | .obj [] => exact ⟨_, _, rfl, rfl, by decide⟩
  | .obj ((key, item) :: rest) => exact ⟨_, _, rfl, rfl, by decide⟩

/-- Enough fuel for the text of a value is enough for one step. -/
theorem exists_fuel {level fuel room : Nat} {v : Json} (fits : Fits room v)
    (enough : (indented level v).length ≤ fuel) : ∃ k, fuel = k + 1 := by
  obtain ⟨c, tail, text, _⟩ := indented_head level fits
  rw [text, List.length_cons] at enough
  exact ⟨fuel - 1, by omega⟩

/-- Blanks in front of the text of a value are all that is skipped. -/
theorem skipBlank_indented (level : Nat) {room : Nat} {v : Json} (fits : Fits room v)
    (rest : List Symbol) :
    skipBlank ((indented level v).map Symbol.char ++ rest)
      = (indented level v).map Symbol.char ++ rest := by
  obtain ⟨c, tail, text, notBlank, _⟩ := indented_head level fits
  rw [text]
  exact skipBlank_of_not_blank notBlank _

/-! ## §4. One step of each reader. -/

/-- A value that starts with a digit is a number. -/
theorem value_of_digit {c : Char} (isDigit : c.isDigit = true) (fuel room : Nat)
    (rest : List Symbol) :
    value (fuel + 1) room (.char c :: rest) = number false (.char c :: rest) := by
  have skip := skipBlank_of_not_blank (isBlank_of_isDigit isDigit) rest
  have digit := digit?_of_isDigit isDigit
  unfold value
  rw [skip]
  split
  case h_9 start tail _ _ _ _ _ _ _ same =>
    obtain ⟨rfl, rfl⟩ := List.cons.inj same
    rw [digit]
    rfl
  case h_1 same => exact absurd same (List.cons_ne_nil _ _)
  -- every other pattern starts with a character that is no digit
  all_goals
    rename_i same
    obtain rfl := Symbol.char.inj (List.cons.inj same).1
    exact absurd isDigit (by decide)

/-- An integer, with its minus if it has one. -/
theorem value_intText (n : Int) (fuel room : Nat) (rest : List Symbol) (range : InRange n)
    (ends : EndsNumeral rest) :
    value (fuel + 1) room ((intText n).map Symbol.char ++ rest) = .ok (.num (.int n), rest) := by
  cases n with
  | ofNat m =>
    have read := number_toDigits false m range (by simp) ends
    show value (fuel + 1) room ((Nat.toDigits 10 m).map Symbol.char ++ rest) = _
    cases digits : Nat.toDigits 10 m with
    | nil => exact absurd digits Nat.toDigits_ne_nil
    | cons d ds =>
      have member : d ∈ Nat.toDigits 10 m := digits ▸ List.mem_cons_self
      have isDigit : d.isDigit = true :=
        Nat.isDigit_of_mem_toDigits (by decide) (by decide) member
      rw [digits] at read
      rw [List.map_cons, List.cons_append, value_of_digit isDigit]
      exact read
  | negSucc m =>
    have read := number_toDigits true (m + 1) range (by omega) ends
    unfold value
    exact read

/-- An array after its opening bracket. -/
theorem value_arr {fuel room : Nat} {input rest : List Symbol} {items : List Json}
    (read : arrayItems fuel room input = .ok (items, rest)) :
    value (fuel + 1) (room + 1) (.char '[' :: input) = .ok (.arr items, rest) := by
  unfold value
  show (arrayItems fuel room input >>= _) = _
  rw [read]
  rfl

/-- An object after its opening brace. -/
theorem value_obj {fuel room : Nat} {input rest : List Symbol} {members : List (String × Json)}
    (read : objectMembers fuel room input = .ok (members, rest)) :
    value (fuel + 1) (room + 1) (.char '{' :: input)
      = .ok (.obj (KeyedList.ofPairs members), rest) := by
  unfold value
  show (objectMembers fuel room input >>= _) = _
  rw [read]
  rfl

section

variable {fuel room level : Nat} {item : Json} {items : List Json} {after rest : List Symbol}

/-- The text of an item on a new line starts with no blank and no closing
bracket, once the new line is skipped. -/
theorem skipBlank_newLine_indented (level : Nat) (fits : Fits room item) (after : List Symbol) :
    ∃ c tail, (indented level item).map Symbol.char ++ after = .char c :: tail ∧ c ≠ ']'
      ∧ skipBlank ((newLine level).map Symbol.char
          ++ ((indented level item).map Symbol.char ++ after))
        = .char c :: tail := by
  obtain ⟨c, tail, text, notBlank, notClosing⟩ := indented_head level fits
  refine ⟨c, tail.map Symbol.char ++ after, by rw [text]; rfl, notClosing, ?_⟩
  rw [skipBlank_newLine, skipBlank_indented level fits, text]
  rfl

/-- The first item of an array. -/
theorem arrayItems_indented (fits : Fits room item)
    (first : value fuel room ((indented level item).map Symbol.char ++ after)
      = .ok (canonical item, after))
    (more : moreItems fuel room after = .ok (items, rest)) :
    arrayItems (fuel + 1) room ((newLine level).map Symbol.char
        ++ ((indented level item).map Symbol.char ++ after))
      = .ok (canonical item :: items, rest) := by
  obtain ⟨c, tail, text, notClosing, start⟩ := skipBlank_newLine_indented level fits after
  unfold arrayItems
  rw [start]
  split
  case h_1 same => exact absurd same (List.cons_ne_nil _ _)
  case h_2 same => exact absurd (Symbol.char.inj (List.cons.inj same).1) notClosing
  rw [← text, first]
  show (moreItems fuel room after >>= _) = _
  rw [more]
  rfl

/-- A further item of an array. -/
theorem moreItems_cons (fits : Fits room item)
    (first : value fuel room ((indented level item).map Symbol.char ++ after)
      = .ok (canonical item, after))
    (more : moreItems fuel room after = .ok (items, rest)) :
    moreItems (fuel + 1) room (.char ',' :: ((newLine level).map Symbol.char
        ++ ((indented level item).map Symbol.char ++ after)))
      = .ok (canonical item :: items, rest) := by
  obtain ⟨c, tail, text, notClosing, start⟩ := skipBlank_newLine_indented level fits after
  unfold moreItems
  rw [skipBlank_of_not_blank (by decide)]
  simp only [start]
  split
  case h_1 same => exact absurd (Symbol.char.inj (List.cons.inj same).1) notClosing
  rw [← text, first]
  show (moreItems fuel room after >>= _) = _
  rw [more]
  rfl

end

/-- The symbols of a string between its quotes. -/
theorem map_quoted_append (text : String) (rest : List Symbol) :
    (quoted text).map Symbol.char ++ rest
      = .char '"' :: ((text.toList.flatMap escapeChar).map Symbol.char ++ .char '"' :: rest) := by
  simp only [quoted, List.cons_append, List.map_cons, List.map_append, List.map_nil,
    List.append_assoc, List.nil_append]

/-- The symbols of a member after the opening quote of its key. -/
def memberSymbols (key : String) (valueText : List Symbol) : List Symbol :=
  (key.toList.flatMap escapeChar).map Symbol.char
    ++ .char '"' :: .char ':' :: .char ' ' :: valueText

/-- A member after the opening quote of its key. -/
theorem membersFrom_of_value (key : String) {fuel room : Nat} {valueText after rest : List Symbol}
    {item : Json} {members : List (String × Json)} (enough : key.toList.length < fuel)
    (first : value fuel room valueText = .ok (item, after))
    (more : moreMembers fuel room after = .ok (members, rest)) :
    membersFrom (fuel + 1) room (memberSymbols key valueText)
      = .ok ((key, item) :: members, rest) := by
  have read := stringText_quoted key enough (.char ':' :: .char ' ' :: valueText)
  unfold membersFrom memberSymbols
  rw [read]
  show (value fuel room (.char ' ' :: valueText) >>= _) = _
  rw [value_space, first]
  show (moreMembers fuel room after >>= _) = _
  rw [more]
  rfl

/-- The first member of an object, on a new line. -/
theorem objectMembers_newLine (level : Nat) {fuel room : Nat} {input rest : List Symbol}
    {members : List (String × Json)} (read : membersFrom fuel room input = .ok (members, rest)) :
    objectMembers (fuel + 1) room ((newLine level).map Symbol.char ++ .char '"' :: input)
      = .ok (members, rest) := by
  unfold objectMembers
  rw [skipBlank_newLine]
  exact read

/-- A further member of an object, on a new line. -/
theorem moreMembers_newLine (level : Nat) {fuel room : Nat} {input rest : List Symbol}
    {members : List (String × Json)} (read : membersFrom fuel room input = .ok (members, rest)) :
    moreMembers (fuel + 1) room
        (.char ',' :: ((newLine level).map Symbol.char ++ .char '"' :: input))
      = .ok (members, rest) := by
  unfold moreMembers
  rw [skipBlank_of_not_blank (by decide)]
  simp only [skipBlank_newLine]
  exact read

/-! ## §5. The induction over the value. -/

mutual

/-- A value is read from its indented text, whatever follows. -/
theorem value_indented : (v : Json) → (level fuel room : Nat) → (rest : List Symbol) →
    Fits room v → (indented level v).length ≤ fuel → EndsNumeral rest →
    value fuel room ((indented level v).map Symbol.char ++ rest) = .ok (canonical v, rest)
  | .null, level, fuel, room, rest, fits, enough, _ => by
    obtain ⟨fuel, rfl⟩ := exists_fuel fits enough
    unfold value
    rfl
  | .bool true, level, fuel, room, rest, fits, enough, _ => by
    obtain ⟨fuel, rfl⟩ := exists_fuel fits enough
    unfold value
    rfl
  | .bool false, level, fuel, room, rest, fits, enough, _ => by
    obtain ⟨fuel, rfl⟩ := exists_fuel fits enough
    unfold value
    rfl
  | .num (.int n), level, fuel, room, rest, range, enough, ends => by
    have fits : Fits room (.num (.int n)) := range
    obtain ⟨fuel, rfl⟩ := exists_fuel fits enough
    exact value_intText n fuel room rest range ends
  | .num (.float _), _, _, _, _, fits, _, _ => fits.elim
  | .str text, level, fuel, room, rest, fits, enough, _ => by
    obtain ⟨fuel, rfl⟩ := exists_fuel fits enough
    have long := length_lt_quoted text
    have enough : (quoted text).length ≤ fuel + 1 := enough
    show value (fuel + 1) room ((quoted text).map Symbol.char ++ rest) = _
    rw [map_quoted_append]
    unfold value
    show (do
      let (text, rest) ← stringText fuel _
      Except.ok (Json.str text, rest)) = _
    rw [stringText_quoted text (by omega)]
    rfl
  | .arr [], level, fuel, room, rest, fits, enough, _ => by
    obtain ⟨fuel, rfl⟩ : ∃ k, fuel = k + 2 :=
      ⟨fuel - 2, by simp only [indented, List.length_cons] at enough; omega⟩
    obtain ⟨room, rfl⟩ : ∃ k, room = k + 1 := ⟨room - 1, by have := fits.1; omega⟩
    exact value_arr (by unfold arrayItems; rfl)
  | .arr (item :: more), level, fuel, room, rest, fits, enough, _ => by
    -- one unit of fuel for the bracket, one for the first item
    obtain ⟨positive, itemFits, moreFit⟩ := fits
    obtain ⟨room, rfl⟩ : ∃ k, room = k + 1 := ⟨room - 1, by omega⟩
    simp only [indented, newLine, List.length_append, List.length_cons, List.length_nil] at enough
    obtain ⟨fuel, rfl⟩ : ∃ k, fuel = k + 2 := ⟨fuel - 2, by omega⟩
    have others := moreItems_indented more (level + 1) level fuel room rest moreFit (by omega)
    have first := value_indented item (level + 1) fuel room _ itemFits (by omega)
      (endsNumeral_indentedItems (level + 1) level more (.char ']' :: rest))
    have read := value_arr (arrayItems_indented itemFits first others)
    simpa only [indented, canonical, canonicalItems, Nat.add_sub_cancel, List.map_append,
      List.map_cons, List.map_nil, List.cons_append, List.append_assoc, List.nil_append] using read
  | .obj [], level, fuel, room, rest, fits, enough, _ => by
    obtain ⟨fuel, rfl⟩ : ∃ k, fuel = k + 2 :=
      ⟨fuel - 2, by simp only [indented, List.length_cons] at enough; omega⟩
    obtain ⟨room, rfl⟩ : ∃ k, room = k + 1 := ⟨room - 1, by have := fits.1; omega⟩
    exact value_obj (by unfold objectMembers; rfl)
  | .obj ((key, item) :: more), level, fuel, room, rest, fits, enough, _ => by
    -- one unit of fuel for the brace, one for the first member, one for its value
    obtain ⟨positive, itemFits, moreFit⟩ := fits
    obtain ⟨room, rfl⟩ : ∃ k, room = k + 1 := ⟨room - 1, by omega⟩
    have long := length_lt_quoted key
    simp only [indented, newLine, List.length_append, List.length_cons, List.length_nil] at enough
    obtain ⟨fuel, rfl⟩ : ∃ k, fuel = k + 3 := ⟨fuel - 3, by omega⟩
    have others := moreMembers_indented more (level + 1) level fuel room rest moreFit (by omega)
    have first := value_indented item (level + 1) fuel room _ itemFits (by omega)
      (endsNumeral_indentedMembers (level + 1) level more (.char '}' :: rest))
    have members := membersFrom_of_value key (by omega) first others
    have read := value_obj (objectMembers_newLine (level + 1) members)
    simpa only [indented, canonical, canonicalMembers, memberSymbols, map_quoted_append,
      List.map_append, List.map_cons, List.map_nil, List.cons_append, List.append_assoc,
      List.nil_append] using read

/-- The further items of an array are read up to its closing bracket. -/
theorem moreItems_indented : (items : List Json) → (level outer fuel room : Nat) →
    (rest : List Symbol) → ItemsFit room items → (indentedItems level items).length < fuel →
    moreItems fuel room ((indentedItems level items).map Symbol.char
        ++ ((newLine outer).map Symbol.char ++ .char ']' :: rest))
      = .ok (canonicalItems items, rest)
  | [], level, outer, fuel, room, rest, _, enough => by
    obtain ⟨fuel, rfl⟩ : ∃ k, fuel = k + 1 := ⟨fuel - 1, by omega⟩
    show moreItems (fuel + 1) room ((newLine outer).map Symbol.char ++ .char ']' :: rest) = _
    unfold moreItems
    rw [skipBlank_newLine]
    rfl
  | item :: more, level, outer, fuel, room, rest, fits, enough => by
    obtain ⟨itemFits, moreFit⟩ := fits
    simp only [indentedItems, newLine, List.length_append, List.length_cons] at enough
    obtain ⟨fuel, rfl⟩ : ∃ k, fuel = k + 1 := ⟨fuel - 1, by omega⟩
    have others := moreItems_indented more level outer fuel room rest moreFit (by omega)
    have first := value_indented item level fuel room _ itemFits (by omega)
      (endsNumeral_indentedItems level outer more (.char ']' :: rest))
    have read := moreItems_cons itemFits first others
    simpa only [indentedItems, canonicalItems, List.map_append, List.map_cons, List.cons_append,
      List.append_assoc] using read

/-- The further members of an object are read up to its closing brace. -/
theorem moreMembers_indented : (members : List (String × Json)) → (level outer fuel room : Nat) →
    (rest : List Symbol) → MembersFit room members →
    (indentedMembers level members).length < fuel →
    moreMembers fuel room ((indentedMembers level members).map Symbol.char
        ++ ((newLine outer).map Symbol.char ++ .char '}' :: rest))
      = .ok (canonicalMembers members, rest)
  | [], level, outer, fuel, room, rest, _, enough => by
    obtain ⟨fuel, rfl⟩ : ∃ k, fuel = k + 1 := ⟨fuel - 1, by omega⟩
    show moreMembers (fuel + 1) room ((newLine outer).map Symbol.char ++ .char '}' :: rest) = _
    unfold moreMembers
    rw [skipBlank_newLine]
    rfl
  | (key, item) :: more, level, outer, fuel, room, rest, fits, enough => by
    obtain ⟨itemFits, moreFit⟩ := fits
    have long := length_lt_quoted key
    simp only [indentedMembers, newLine, List.length_append, List.length_cons] at enough
    obtain ⟨fuel, rfl⟩ : ∃ k, fuel = k + 2 := ⟨fuel - 2, by omega⟩
    have others := moreMembers_indented more level outer fuel room rest moreFit (by omega)
    have first := value_indented item level fuel room _ itemFits (by omega)
      (endsNumeral_indentedMembers level outer more (.char '}' :: rest))
    have members := membersFrom_of_value key (by omega) first others
    have read := moreMembers_newLine level members
    simpa only [indentedMembers, canonicalMembers, memberSymbols, map_quoted_append,
      List.map_append, List.map_cons, List.cons_append, List.append_assoc] using read

end

/-! ## §6. Whole texts. -/

/-- The text of a value is read as the canonical value. -/
theorem ofText_prettyText {v : Json} (fits : Fits nestingLimit v) :
    ofText v.prettyText = .ok v.canonical := by
  have symbols : Symbol.ofText v.prettyText = (indented 0 v).map Symbol.char := by
    simp [Symbol.ofText, prettyText]
  have read := value_indented v 0 (3 * (Symbol.ofText v.prettyText).length + 3) nestingLimit []
    fits (by rw [symbols]; simp; omega) trivial
  unfold ofText ofSymbols
  rw [symbols, List.append_nil] at read
  rw [symbols, read]
  rfl

/-- The text of a value, followed by a new line, is read as the canonical
value. -/
theorem ofText_prettyText_newLine {v : Json} (fits : Fits nestingLimit v) :
    ofText (v.prettyText ++ "\n") = .ok v.canonical := by
  have symbols : Symbol.ofText (v.prettyText ++ "\n")
      = (indented 0 v).map Symbol.char ++ [.char '\n'] := by
    simp [Symbol.ofText, prettyText]
  have read := value_indented v 0 (3 * (Symbol.ofText (v.prettyText ++ "\n")).length + 3)
    nestingLimit [.char '\n'] fits (by rw [symbols]; simp; omega) (endsNumeral_newLine 0 [])
  unfold ofText ofSymbols
  rw [symbols] at read ⊢
  rw [read]
  rfl

end TradingConfig.Json
