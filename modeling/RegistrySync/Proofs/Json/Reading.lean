/-
Trees that are written in the compact form and read again.

A reading gets the text behind what it reads, so everything is stated with some more text
behind. Numbers end where no character of a number follows; all else ends by itself.

* `literal?_literal` — the string of a literal comes back;
* `Whole` — trees without numbers that are not whole;
* `ordered` — a tree with the fields of its objects in the order of their names;
* `ReadsAs` — a text that is read as a tree, whatever is behind it;
* `read?_compact` — a whole tree is read back with its fields in order.
-/
import RegistrySync.Json.Reader
import RegistrySync.Json.Writer
import RegistrySync.Proofs.Text.Numeral
import Mathlib.Data.List.Forall2

namespace RegistrySync.Json

/-! ### Literals -/

/-- The piece as which a character of a literal is read. -/
def pieceOf (c : Char) : Piece :=
  if controlLetters.lookup c = none ∧ c.toNat < 0x20 then .unit c.toNat else .char c

theorem hexUnit?_hexDigits {n : Nat} (h : n < 0x20) : hexUnit? (Text.hexDigits 4 n) = some n := by
  have hall : ∀ n < 0x20, hexUnit? (Text.hexDigits 4 n) = some n := by decide
  exact hall n h

/-- The letter of a control character is read as this character. -/
theorem escaped?_of_lookup {c letter : Char} (h : controlLetters.lookup c = some letter) :
    letter ≠ 'u' ∧ escaped? letter = some c := by
  have hall : ∀ pair ∈ controlLetters, pair.2 ≠ 'u' ∧ escaped? pair.2 = some pair.1 := by decide
  obtain ⟨front, back, hsplit, -⟩ := List.lookup_eq_some_iff.1 h
  have hmem : (c, letter) ∈ controlLetters := by simp [hsplit]
  exact hall (c, letter) hmem

/-- What is written for a character is read as one piece. -/
theorem piece?_escapeChar (c : Char) (rest : List Char) :
    piece? (escapeChar c ++ rest) = some (pieceOf c, rest) := by
  unfold escapeChar
  split
  · rename_i h
    rcases h with rfl | rfl
    · rfl
    · rfl
  · rename_i h
    obtain ⟨hquote, hslash⟩ := not_or.1 h
    -- A control character with a letter of its own, one without, and any other character.
    cases hl : controlLetters.lookup c with
    | some letter =>
      obtain ⟨hu, hread⟩ := escaped?_of_lookup hl
      simp [piece?, pieceOf, hl, hu, hread]
    | none =>
      by_cases hc : c.toNat < 0x20
      · have htake : (Text.hexDigits 4 c.toNat ++ rest).take 4 = Text.hexDigits 4 c.toNat := rfl
        have hdrop : (Text.hexDigits 4 c.toNat ++ rest).drop 4 = rest := rfl
        simp [piece?, pieceOf, hl, hc, htake, hdrop, hexUnit?_hexDigits hc]
      · simp [piece?, pieceOf, hl, hc, hquote, hslash]

theorem pieceOf_ne_close (c : Char) : pieceOf c ≠ .close := by
  unfold pieceOf
  split <;> simp

/-- The pieces of a literal up to its closing quote. -/
theorem pieces?_escaped (cs rest : List Char) {bound : Nat} (h : cs.length < bound) :
    pieces? bound (cs.flatMap escapeChar ++ '"' :: rest) = some (cs.map pieceOf, rest) := by
  -- Every character is one piece, however many characters it is written with.
  induction cs generalizing bound with
  | nil =>
    obtain ⟨bound, rfl⟩ := Nat.exists_eq_succ_of_ne_zero (Nat.ne_zero_of_lt h)
    rfl
  | cons c more ih =>
    obtain ⟨bound, rfl⟩ := Nat.exists_eq_succ_of_ne_zero (Nat.ne_zero_of_lt h)
    have hmore := ih (Nat.lt_of_succ_lt_succ h)
    have hpiece := piece?_escapeChar c (more.flatMap escapeChar ++ '"' :: rest)
    rw [List.flatMap_cons, List.append_assoc, pieces?, hpiece, List.map_cons]
    cases hp : pieceOf c with
    | close => exact absurd hp (pieceOf_ne_close c)
    | char d => simp only [hmore]
    | unit n => simp only [hmore]

theorem joinUnits_unit {n : Nat} (h : isHighHalf n = false) (pieces : List Piece) :
    joinUnits (.unit n :: pieces) = Char.ofNat n :: joinUnits pieces := by
  cases pieces with
  | nil => rfl
  | cons piece rest =>
    cases piece with
    | unit low => simp [joinUnits, h]
    | char c => rfl
    | close => rfl

/-- The pieces of a text give its characters: no control character is half of another one. -/
theorem joinUnits_map_pieceOf (cs : List Char) : joinUnits (cs.map pieceOf) = cs := by
  induction cs with
  | nil => rfl
  | cons c rest ih =>
    rw [List.map_cons]
    by_cases hc : controlLetters.lookup c = none ∧ c.toNat < 0x20
    · have hhalf : isHighHalf c.toNat = false := by
        simp only [isHighHalf, Bool.and_eq_false_iff, decide_eq_false_iff_not]
        omega
      rw [pieceOf, if_pos hc, joinUnits_unit hhalf, ih, Char.ofNat_toNat]
    · rw [pieceOf, if_neg hc, joinUnits, ih]

theorem length_le_flatMap_escapeChar (cs : List Char) :
    cs.length ≤ (cs.flatMap escapeChar).length := by
  induction cs with
  | nil => exact Nat.le_refl 0
  | cons c rest ih =>
    have hc : escapeChar c ≠ [] := by
      unfold escapeChar
      split
      · simp
      · split
        · simp
        · split <;> simp
    have hpos := List.length_pos_iff.2 hc
    rw [List.flatMap_cons, List.length_append, List.length_cons]
    omega

/-- The string of a literal comes back. -/
theorem literal?_literal (s : String) (rest : List Char) :
    literal? (s.toList.flatMap escapeChar ++ '"' :: rest) = some (s, rest) := by
  have hlen := length_le_flatMap_escapeChar s.toList
  have hbound : s.toList.length <
      (s.toList.flatMap escapeChar ++ '"' :: rest).length + 1 := by
    rw [List.length_append]
    omega
  rw [literal?, pieces?_escaped s.toList rest hbound, Option.map_some]
  simp only [joinUnits_map_pieceOf, String.ofList_toList]

/-! ### Numbers -/

theorem isNumberChar_of_isDigit {c : Char} (h : c.isDigit = true) : isNumberChar c = true := by
  simp [isNumberChar, h]

theorem isWhole_digitsOf (n : Nat) : numberOf.isWhole (Text.digitsOf n) = true := by
  have hne : (Text.digitsOf n).isEmpty = false := by simpa using Text.digitsOf_ne_nil n
  rw [numberOf.isWhole, hne, List.all_eq_true.2 fun c hc => Text.isDigit_of_mem_digitsOf hc]
  rfl

theorem valueOf_digitsOf (n : Nat) : numberOf.valueOf (Text.digitsOf n) = n := by
  obtain ⟨digits, hlt, heq, hval⟩ := Text.digitsOf_eq n
  have hall : ∀ d < 10, (Nat.digitChar d).toNat - '0'.toNat = d := by decide
  have hmap : (digits.map Nat.digitChar).map (fun c => c.toNat - '0'.toNat) = digits := by
    rw [List.map_map]
    exact (List.map_congr_left fun d hd => hall d (hlt d hd)).trans (List.map_id digits)
  rw [numberOf.valueOf, heq, hmap, hval]

/-- A numeral is read as its number. -/
theorem numberOf_numeral (i : Int) : numberOf (Text.numeral i) = some (int i) := by
  cases i with
  | ofNat n =>
    rw [Text.numeral]
    unfold numberOf
    split
    · rename_i digits heq
      -- A numeral without a sign does not begin with one.
      have hminus : '-' ∈ Text.digitsOf n := by simp [heq]
      exact absurd (Text.isDigit_of_mem_digitsOf hminus) (by decide)
    · rw [if_pos (isWhole_digitsOf n), valueOf_digitsOf]
      rfl
  | negSucc n =>
    rw [Text.numeral, numberOf, if_pos (isWhole_digitsOf (n + 1)), valueOf_digitsOf]
    rfl

theorem isNumberChar_of_mem_numeral {i : Int} {c : Char} (h : c ∈ Text.numeral i) :
    isNumberChar c = true := by
  cases i with
  | ofNat n => exact isNumberChar_of_isDigit (Text.isDigit_of_mem_digitsOf h)
  | negSucc n =>
    cases List.mem_cons.1 h with
    | inl hminus => rw [hminus]; decide
    | inr hdigit => exact isNumberChar_of_isDigit (Text.isDigit_of_mem_digitsOf hdigit)

/-! ### Trees -/

/-- A text that is read as a tree, whatever is behind it, as long as no number goes on there. It
does not begin with a gap, nor with the end of an array. -/
structure ReadsAs (cs : List Char) (value : Json) : Prop where
  front : ∃ c more, cs = c :: more ∧ isGap c = false ∧ c ≠ ']'
  reads : ∀ {bound rest}, cs.length < bound → (∀ c ∈ rest.head?, isNumberChar c = false) →
    value? bound (cs ++ rest) = some (value, rest)

/-- A reading that takes at least one step. -/
theorem ReadsAs.of_step {cs : List Char} {value : Json}
    (hfront : ∃ c more, cs = c :: more ∧ isGap c = false ∧ c ≠ ']')
    (h : ∀ bound rest, cs.length ≤ bound → (∀ c ∈ rest.head?, isNumberChar c = false) →
      value? (bound + 1) (cs ++ rest) = some (value, rest)) : ReadsAs cs value := by
  refine ⟨hfront, fun hbound hrest => ?_⟩
  obtain ⟨bound, rfl⟩ := Nat.exists_eq_succ_of_ne_zero (Nat.ne_zero_of_lt hbound)
  exact h bound _ (Nat.le_of_lt_succ hbound) hrest

theorem skipGap_cons {c : Char} (h : isGap c = false) (rest : List Char) :
    skipGap (c :: rest) = c :: rest := by
  simp [skipGap, h]

/-- What a number begins with. -/
def BeginsNumber (c : Char) : Prop := c = '-' ∨ c.isDigit = true

theorem numeral_front (i : Int) : ∃ c more, Text.numeral i = c :: more ∧ BeginsNumber c := by
  cases i with
  | ofNat n =>
    obtain ⟨c, more, heq⟩ := List.exists_cons_of_ne_nil (Text.digitsOf_ne_nil n)
    have hc : c ∈ Text.digitsOf n := by simp [heq]
    exact ⟨c, more, heq, Or.inr (Text.isDigit_of_mem_digitsOf hc)⟩
  | negSucc n => exact ⟨'-', Text.digitsOf (n + 1), rfl, Or.inl rfl⟩

theorem BeginsNumber.not_gap {c : Char} (h : BeginsNumber c) : isGap c = false ∧ c ≠ ']' := by
  refine ⟨?_, ?_⟩
  · cases hg : isGap c with
    | false => rfl
    | true =>
      simp only [isGap, Bool.or_eq_true, beq_iff_eq] at hg
      rcases hg with ((rfl | rfl) | rfl) | rfl <;> rcases h with h | h <;> cases h
  · rintro rfl
    rcases h with h | h <;> cases h

/-- What begins like a number is read as one. -/
theorem value?_number {c : Char} (h : BeginsNumber c) (bound : Nat) (rest : List Char) :
    value? (bound + 1) (c :: rest) =
      (numberOf ((c :: rest).takeWhile isNumberChar)).map fun number =>
        (number, (c :: rest).dropWhile isNumberChar) := by
  rw [value?, skipGap_cons h.not_gap.1]
  split
  case h_1 heq => cases heq
  case h_8 => rfl
  all_goals
    -- Nothing else begins like this.
    rename_i heq
    cases heq
    rcases h with h | h <;> cases h

theorem readsAs_int (i : Int) : ReadsAs (Text.numeral i) (int i) := by
  obtain ⟨c, more, heq, hc⟩ := numeral_front i
  refine .of_step ⟨c, more, heq, hc.not_gap⟩ fun bound rest _ hrest => ?_
  have hall : ∀ d ∈ Text.numeral i, isNumberChar d = true := fun d hd =>
    isNumberChar_of_mem_numeral hd
  have hend : rest.takeWhile isNumberChar = [] ∧ rest.dropWhile isNumberChar = rest := by
    cases rest with
    | nil => exact ⟨rfl, rfl⟩
    | cons d others => simp [hrest d rfl]
  have hread := value?_number hc bound (more ++ rest)
  rw [← List.cons_append, ← heq, List.takeWhile_append_of_pos hall,
    List.dropWhile_append_of_pos hall, hend.1, hend.2, List.append_nil,
    numberOf_numeral] at hread
  exact hread

theorem readsAs_str (s : String) : ReadsAs (literal s).toList (str s) := by
  have htext : (literal s).toList = '"' :: (s.toList.flatMap escapeChar ++ ['"']) := by
    simp [literal]
  refine .of_step ⟨_, _, htext, by decide, by decide⟩ fun bound rest _ _ => ?_
  rw [htext, List.cons_append, List.append_assoc, List.singleton_append, value?,
    skipGap_cons (by decide)]
  simp only [literal?_literal, Option.map_some]

theorem intercalate_front (c : Char) (more : List Char) (texts : List (List Char)) :
    ∃ tail, [','].intercalate ((c :: more) :: texts) = c :: tail := by
  by_cases hlast : texts = []
  · rw [hlast, List.intercalate_singleton]
    exact ⟨more, rfl⟩
  · rw [List.intercalate_cons_of_ne_nil hlast]
    exact ⟨_, rfl⟩

/-- The items of an array, up to its end. -/
theorem items?_intercalate {texts : List (List Char)} {values : List Json}
    (h : List.Forall₂ ReadsAs texts values) (hne : texts ≠ []) {bound : Nat} (rest : List Char)
    (hb : ([','].intercalate texts).length + 1 < bound) :
    items? bound ([','].intercalate texts ++ ']' :: rest) = some (values, rest) := by
  induction h generalizing bound with
  | nil => exact absurd rfl hne
  | @cons text value texts values hfirst hothers ih =>
    obtain ⟨bound, rfl⟩ := Nat.exists_eq_succ_of_ne_zero (Nat.ne_zero_of_lt hb)
    -- Behind the last item stands the end of the array, and behind any other one a comma.
    by_cases hlast : texts = []
    · subst hlast
      cases hothers
      rw [List.intercalate_singleton] at hb ⊢
      have hread : value? bound (text ++ ']' :: rest) = some (value, ']' :: rest) :=
        hfirst.reads (by omega) (by simp [isNumberChar])
      rw [items?, hread]
      rfl
    · obtain ⟨c, more, rfl, -, -⟩ := hfirst.front
      rw [List.intercalate_cons_of_ne_nil hlast] at hb ⊢
      simp only [List.length_append, List.length_cons, List.length_nil] at hb
      have hread : value? bound (c :: more ++ ',' :: ([','].intercalate texts ++ ']' :: rest)) =
          some (value, ',' :: ([','].intercalate texts ++ ']' :: rest)) :=
        hfirst.reads (by simp only [List.length_cons]; omega) (by simp [isNumberChar])
      have hmore : items? bound ([','].intercalate texts ++ ']' :: rest) = some (values, rest) :=
        ih hlast (by omega)
      rw [List.append_assoc, List.append_assoc, List.singleton_append, items?, hread]
      simp only [skipGap_cons (show isGap ',' = false from rfl), hmore, Option.map_some]

theorem readsAs_arr {texts : List (List Char)} {values : List Json}
    (h : List.Forall₂ ReadsAs texts values) :
    ReadsAs ('[' :: ([','].intercalate texts ++ [']'])) (arr values) := by
  refine .of_step ⟨_, _, rfl, by decide, by decide⟩ fun bound rest hbound _ => ?_
  rw [List.cons_append, List.append_assoc, List.singleton_append, value?,
    skipGap_cons (by decide)]
  cases h with
  | nil => rfl
  | @cons text value texts values hfirst hothers =>
    obtain ⟨c, more, heq, hgap, hclose⟩ := hfirst.front
    have hread : items? bound ([','].intercalate (text :: texts) ++ ']' :: rest) =
        some (value :: values, rest) := by
      refine items?_intercalate (.cons hfirst hothers) (List.cons_ne_nil text texts) rest ?_
      simp only [List.length_cons, List.length_append, List.length_nil] at hbound
      omega
    -- The array does not end at once, since no item begins like its end.
    obtain ⟨tail, htail⟩ := intercalate_front c more texts
    rw [heq, htail, List.cons_append] at hread
    rw [heq, htail, List.cons_append]
    simp only [skipGap_cons hgap, hread]
    split
    · rename_i behind hbehind
      exact absurd (List.cons.inj hbehind).1 hclose
    · rfl

/-- A text that is read as a field of an object. -/
def FieldReadsAs (cs : List Char) (field : String × Json) : Prop :=
  ∃ text, cs = (literal field.1).toList ++ ':' :: text ∧ ReadsAs text field.2

/-- What a field gives with the text behind it: the object ends there, or has other fields. -/
def closeField (bound : Nat) (field : String × Json) (rest : List Char) :
    Option (List (String × Json) × List Char) :=
  match skipGap rest with
  | '}' :: behind => some ([field], behind)
  | ',' :: more => (fields? bound more).map fun (others, behind) => (field :: others, behind)
  | _ => none

/-- One field is read as such, and the rest goes on behind it. -/
theorem fields?_field {cs : List Char} {field : String × Json} (h : FieldReadsAs cs field)
    {bound : Nat} {rest : List Char} (hb : cs.length < bound)
    (hrest : ∀ c ∈ rest.head?, isNumberChar c = false) :
    fields? (bound + 1) (cs ++ rest) = closeField bound field rest := by
  obtain ⟨text, rfl, hreads⟩ := h
  have htext : (literal field.1).toList ++ ':' :: text ++ rest =
      '"' :: (field.1.toList.flatMap escapeChar ++ '"' :: ':' :: (text ++ rest)) := by
    simp [literal]
  have hread : value? bound (text ++ rest) = some (field.2, rest) := by
    refine hreads.reads ?_ hrest
    simp only [List.length_append, List.length_cons] at hb
    omega
  rw [htext, fields?, skipGap_cons (by decide)]
  simp only [literal?_literal, skipGap_cons (show isGap ':' = false from rfl), hread]
  rfl

/-- The fields of an object, up to its end. -/
theorem fields?_intercalate {texts : List (List Char)} {fields : List (String × Json)}
    (h : List.Forall₂ FieldReadsAs texts fields) (hne : texts ≠ []) {bound : Nat}
    (rest : List Char) (hb : ([','].intercalate texts).length + 1 < bound) :
    fields? bound ([','].intercalate texts ++ '}' :: rest) = some (fields, rest) := by
  induction h generalizing bound with
  | nil => exact absurd rfl hne
  | @cons text field texts fields hfirst hothers ih =>
    obtain ⟨bound, rfl⟩ := Nat.exists_eq_succ_of_ne_zero (Nat.ne_zero_of_lt hb)
    -- The last field is followed by the brace, the others by a comma.
    by_cases hlast : texts = []
    · subst hlast
      cases hothers
      rw [List.intercalate_singleton] at hb ⊢
      rw [fields?_field hfirst (by omega) (by simp [isNumberChar])]
      rfl
    · rw [List.intercalate_cons_of_ne_nil hlast] at hb ⊢
      simp only [List.length_append, List.length_cons, List.length_nil] at hb
      have hmore : fields? bound ([','].intercalate texts ++ '}' :: rest) = some (fields, rest) :=
        ih hlast (by omega)
      rw [List.append_assoc, List.append_assoc, List.singleton_append,
        fields?_field hfirst (by omega) (by simp [isNumberChar]), closeField]
      simp only [skipGap_cons (show isGap ',' = false from rfl), hmore, Option.map_some]

theorem readsAs_obj {texts : List (List Char)} {fields : List (String × Json)}
    (h : List.Forall₂ FieldReadsAs texts fields) :
    ReadsAs ('{' :: ([','].intercalate texts ++ ['}'])) (obj fields) := by
  refine .of_step ⟨_, _, rfl, by decide, by decide⟩ fun bound rest hbound _ => ?_
  rw [List.cons_append, List.append_assoc, List.singleton_append, value?,
    skipGap_cons (by decide)]
  cases h with
  | nil => rfl
  | @cons text field texts fields hfirst hothers =>
    have hread : fields? bound ([','].intercalate (text :: texts) ++ '}' :: rest) =
        some (field :: fields, rest) := by
      refine fields?_intercalate (.cons hfirst hothers) (List.cons_ne_nil text texts) rest ?_
      simp only [List.length_cons, List.length_append, List.length_nil] at hbound
      omega
    -- The object does not end at once, since a field begins with a quote.
    obtain ⟨value, rfl, -⟩ := hfirst
    have hquote : (literal field.1).toList ++ ':' :: value =
        '"' :: (field.1.toList.flatMap escapeChar ++ '"' :: ':' :: value) := by simp [literal]
    rw [hquote] at hread ⊢
    obtain ⟨tail, htail⟩ := intercalate_front '"' _ texts
    rw [htail, List.cons_append] at hread ⊢
    simp only [skipGap_cons (show isGap '"' = false from rfl), hread, Option.map_some]
    rfl

/-! ### Written trees -/

/-- Trees without numbers that are not whole. -/
inductive Whole : Json → Prop
  | null : Whole null
  | bool (value : Bool) : Whole (bool value)
  | int (value : Int) : Whole (int value)
  | str (value : String) : Whole (str value)
  | arr {items : List Json} (h : ∀ item ∈ items, Whole item) : Whole (arr items)
  | obj {fields : List (String × Json)} (h : ∀ field ∈ fields, Whole field.2) : Whole (obj fields)

mutual

/-- The tree with the fields of its objects in the order of their names. -/
def ordered : Json → Json
  | arr items => arr (orderedItems items)
  | obj fields => obj (sortFields (orderedFields fields))
  | value => value

/-- Each item of an array with its fields in order. -/
def orderedItems : List Json → List Json
  | [] => []
  | item :: rest => item.ordered :: orderedItems rest

/-- Each field of an object with its own fields in order. -/
def orderedFields : List (String × Json) → List (String × Json)
  | [] => []
  | (name, value) :: rest => (name, value.ordered) :: orderedFields rest

end

theorem orderedItems_eq (items : List Json) : orderedItems items = items.map ordered := by
  induction items with
  | nil => simp [orderedItems]
  | cons item rest ih => simp [orderedItems, ih]

theorem orderedFields_eq (fields : List (String × Json)) :
    orderedFields fields = fields.map fun field => (field.1, field.2.ordered) := by
  induction fields with
  | nil => simp [orderedFields]
  | cons field rest ih => simp [orderedFields, ih]

theorem compactFields_eq (fields : List (String × Json)) :
    compactFields fields =
      fields.map fun field => (field.1, literal field.1 ++ ":" ++ field.2.compact) := by
  induction fields with
  | nil => simp [compactFields]
  | cons field rest ih => simp [compactFields, ih]

/-- Sorting looks at names only. -/
theorem sortFields_map {α β : Type} (f : String × α → β) (fields : List (String × α)) :
    sortFields (fields.map fun field => (field.1, f field)) =
      (sortFields fields).map fun field => (field.1, f field) := by
  have hinsert : ∀ (field : String × α) (l : List (String × α)),
      insertField (field.1, f field) (l.map fun field => (field.1, f field)) =
        (insertField field l).map fun field => (field.1, f field) := by
    intro field l
    induction l with
    | nil => rfl
    | cons next rest ih =>
      rw [List.map_cons, insertField, insertField, ih]
      split <;> rfl
  induction fields with
  | nil => rfl
  | cons field rest ih => exact (congrArg (insertField _) ih).trans (hinsert field _)

/-- A whole tree is read from its written form, with its fields in order. -/
theorem readsAs_compact {value : Json} (h : Whole value) :
    ReadsAs value.compact.toList value.ordered := by
  induction h with
  | null => exact .of_step ⟨_, _, rfl, by decide, by decide⟩ fun _ _ _ _ => rfl
  | bool value =>
    cases value with
    | true => exact .of_step ⟨_, _, rfl, by decide, by decide⟩ fun _ _ _ _ => rfl
    | false => exact .of_step ⟨_, _, rfl, by decide, by decide⟩ fun _ _ _ _ => rfl
  | int value =>
    have hread := readsAs_int value
    simpa [compact, ordered, Text.showInt] using hread
  | str value =>
    have hread := readsAs_str value
    simpa [ordered] using hread
  -- The reader is followed through the items one by one; each stops where its own text ends.
  | @arr items _ ih =>
    have hitems : List.Forall₂ ReadsAs ((items.map compact).map String.toList)
        (items.map ordered) := by
      rw [List.map_map, List.forall₂_map_left_iff, List.forall₂_map_right_iff, List.forall₂_same]
      exact ih
    have hread := readsAs_arr hitems
    rw [compact_arr, ordered, orderedItems_eq]
    simpa using hread
  | @obj fields _ ih =>
    have hfields : List.Forall₂ FieldReadsAs
        ((sortFields fields).map fun field =>
          (literal field.1).toList ++ ':' :: field.2.compact.toList)
        ((sortFields fields).map fun field => (field.1, field.2.ordered)) := by
      rw [List.forall₂_map_left_iff, List.forall₂_map_right_iff, List.forall₂_same]
      intro field hm
      exact ⟨field.2.compact.toList, rfl, ih field (mem_sortFields.1 hm)⟩
    have hread := readsAs_obj hfields
    rw [compact, ordered, compactFields_eq, orderedFields_eq, sortFields_map, sortFields_map]
    simpa [Function.comp_def] using hread

/-- A whole tree is read back with its fields in order. -/
theorem read?_compact {value : Json} (h : Whole value) :
    read? value.compact = some value.ordered := by
  have hend : ∀ c ∈ ([] : List Char).head?, isNumberChar c = false := by simp
  have hread := (readsAs_compact h).reads (Nat.lt_succ_self value.compact.toList.length) hend
  rw [List.append_nil] at hread
  rw [read?, hread]
  rfl

end RegistrySync.Json
