/-
The grammar of written trees without layout, and the compact form as one of its texts.

* `CharText`, `LiteralText`, `Numeral` — the texts of characters, strings and whole numbers;
* `Spells` — a text without layout and the tree that it spells;
* `Spells.squeezed`, `Spells.printed` — such a text has no layout and no control characters;
* `spells_compact` — the compact form of a whole tree spells it, with its fields in order.

The grammar says nothing about how a text is read. It is stricter than the reader: numbers
have no leading zeros and control characters stand in no literal.
-/
import RegistrySync.Proofs.Json.Layout
import RegistrySync.Proofs.Json.Reading
import RegistrySync.Proofs.Text.Cut

namespace RegistrySync.Json

/-! ### Literals -/

/-- The texts for a character of a literal: itself, an escape with a letter, or one with its
number. -/
inductive CharText : List Char → Char → Prop
  | plain {c : Char} (hcontrol : 0x20 ≤ c.toNat) (hquote : c ≠ '"') (hslash : c ≠ '\\') :
    CharText [c] c
  | letter {letter c : Char} (h : escaped? letter = some c) : CharText ['\\', letter] c
  | number {digits : List Char} {c : Char} (h : hexUnit? digits = some c.toNat) :
    CharText ('\\' :: 'u' :: digits) c

/-- A string between quotes, character by character. -/
inductive LiteralText : List Char → String → Prop
  | quoted {pieces : List (List Char)} {s : String} (h : List.Forall₂ CharText pieces s.toList) :
    LiteralText ('"' :: (pieces.flatten ++ ['"'])) s

theorem charText_escapeChar (c : Char) : CharText (escapeChar c) c := by
  unfold escapeChar
  split
  · rename_i h
    rcases h with rfl | rfl
    · exact .letter rfl
    · exact .letter rfl
  · rename_i h
    obtain ⟨hquote, hslash⟩ := not_or.1 h
    cases hl : controlLetters.lookup c with
    | some letter => exact .letter (escaped?_of_lookup hl).2
    | none =>
      by_cases hc : c.toNat < 0x20
      · simp only [if_pos hc]
        exact .number (hexUnit?_hexDigits hc)
      · simp only [if_neg hc]
        exact .plain (Nat.le_of_not_lt hc) hquote hslash

theorem literalText_literal (s : String) : LiteralText (literal s).toList s := by
  have hchars : List.Forall₂ CharText (s.toList.map escapeChar) s.toList := by
    rw [List.forall₂_map_left_iff, List.forall₂_same]
    exact fun c _ => charText_escapeChar c
  have htext : (literal s).toList = '"' :: ((s.toList.map escapeChar).flatten ++ ['"']) := by
    simp [literal, List.flatMap_def]
  rw [htext]
  exact .quoted hchars

theorem isAlphanum_of_hexValue? {d : Char} (h : (hexValue? d).isSome = true) :
    d.isAlphanum = true := by
  have hsome : d.isDigit = true ∨ ('a' ≤ d ∧ d ≤ 'f') ∨ ('A' ≤ d ∧ d ≤ 'F') := by
    unfold hexValue? at h
    split at h
    · exact Or.inl ‹_›
    · split at h
      · exact Or.inr (Or.inl ‹_›)
      · split at h
        · exact Or.inr (Or.inr ‹_›)
        · cases h
  show (d.isUpper || d.isLower || d.isDigit) = true
  rcases hsome with hdigit | ⟨hlow, hhigh⟩ | ⟨hlow, hhigh⟩
  · rw [hdigit, Bool.or_true]
  · have hz : d ≤ 'z' := Char.le_trans hhigh (by decide)
    have hlower : d.isLower = true :=
      Bool.and_eq_true_iff.2 ⟨decide_eq_true hlow, decide_eq_true hz⟩
    rw [hlower, Bool.or_true, Bool.true_or]
  · have hz : d ≤ 'Z' := Char.le_trans hhigh (by decide)
    have hupper : d.isUpper = true := decide_eq_true ⟨hlow, hz⟩
    rw [hupper, Bool.true_or, Bool.true_or]

/-- The digits of an escape are letters and digits, whichever number they denote. -/
theorem isAlphanum_of_hexUnit? {digits : List Char} {n : Nat} (h : hexUnit? digits = some n) :
    ∀ d ∈ digits, d.isAlphanum = true := by
  -- If all digits are read, each one is.
  have hvalues : ∀ (ds : List Char) (values : List Nat), ds.mapM hexValue? = some values →
      ∀ d ∈ ds, (hexValue? d).isSome = true := by
    intro ds
    induction ds with
    | nil => intro values _ d hd; cases hd
    | cons d rest ih =>
      intro values hmap
      rw [List.mapM_cons] at hmap
      obtain ⟨value, hvalue, hrest⟩ := Option.bind_eq_some_iff.1 hmap
      obtain ⟨others, hothers, -⟩ := Option.bind_eq_some_iff.1 hrest
      exact List.forall_mem_cons.2 ⟨Option.isSome_of_eq_some hvalue, ih others hothers⟩
  unfold hexUnit? at h
  split at h
  · obtain ⟨values, hmap, -⟩ := Option.map_eq_some_iff.1 h
    exact fun d hd => isAlphanum_of_hexValue? (hvalues digits values hmap d hd)
  · cases h

theorem ne_of_isAlphanum {c : Char} (h : c.isAlphanum = true) :
    c ≠ '"' ∧ c ≠ '\\' ∧ 0x20 ≤ c.toNat := by
  refine ⟨?_, ?_, ?_⟩
  · rintro rfl
    cases h
  · rintro rfl
    cases h
  · have hpoint := Text.toNat_of_isAlphanum h
    omega

theorem inLiteral_of_isAlphanum {cs : List Char} (h : ∀ c ∈ cs, c.isAlphanum = true) :
    InLiteral cs := by
  induction cs with
  | nil => exact inLiteral_nil
  | cons c rest ih =>
    obtain ⟨hc, hrest⟩ := List.forall_mem_cons.1 h
    obtain ⟨hquote, hslash, -⟩ := ne_of_isAlphanum hc
    exact (inLiteral_singleton hquote hslash).append (ih hrest)

theorem CharText.inLiteral {cs : List Char} {c : Char} (h : CharText cs c) : InLiteral cs := by
  cases h with
  | plain hcontrol hquote hslash => exact inLiteral_singleton hquote hslash
  | @letter letter c h => exact inLiteral_escaped letter
  | @number digits c h =>
    exact (inLiteral_escaped 'u').append (inLiteral_of_isAlphanum (isAlphanum_of_hexUnit? h))

theorem CharText.printed {cs : List Char} {c : Char} (h : CharText cs c) :
    ∀ d ∈ cs, 0x20 ≤ d.toNat := by
  cases h with
  | plain hcontrol hquote hslash => simpa using hcontrol
  | @letter letter c h =>
    have hletter : 0x20 ≤ letter.toNat := by
      unfold escaped? at h
      split at h
      case h_9 => cases h
      all_goals decide
    simpa using hletter
  | @number digits c h =>
    -- Whichever character the number denotes, it is spelled with printed ones.
    have hdigits : ∀ d ∈ digits, 0x20 ≤ d.toNat := fun d hd =>
      (ne_of_isAlphanum (isAlphanum_of_hexUnit? h d hd)).2.2
    simpa using hdigits

/-- What holds of every text of a list holds of all its texts, if each is one of a character. -/
theorem forall_pieces {P : List Char → Prop} {pieces : List (List Char)} {cs : List Char}
    (h : List.Forall₂ CharText pieces cs) (hP : ∀ {piece c}, CharText piece c → P piece) :
    ∀ piece ∈ pieces, P piece := by
  induction h with
  | nil => simp
  | cons hfirst hothers ih => exact List.forall_mem_cons.2 ⟨hP hfirst, ih⟩

theorem LiteralText.squeezed {cs : List Char} {s : String} (h : LiteralText cs s) :
    Squeezed cs cs := by
  cases h with
  | quoted hpieces => exact (inLiteral_flatten (forall_pieces hpieces CharText.inLiteral)).squeezed

theorem LiteralText.printed {cs : List Char} {s : String} (h : LiteralText cs s) :
    ∀ c ∈ cs, 0x20 ≤ c.toNat := by
  cases h with
  | @quoted pieces s hpieces =>
    have hinside : ∀ c ∈ pieces.flatten, 0x20 ≤ c.toNat := by
      intro c hc
      obtain ⟨piece, hpiece, hmem⟩ := List.mem_flatten.1 hc
      exact forall_pieces hpieces CharText.printed piece hpiece c hmem
    rw [List.forall_mem_cons, List.forall_mem_append]
    exact ⟨by decide, hinside, List.forall_mem_singleton.2 (by decide)⟩

/-! ### Numbers -/

/-- The digits of a number. A digit is put behind others only if these are not zero. -/
inductive Numeral : List Char → Nat → Prop
  | digit {d : Nat} (h : d < 10) : Numeral [Nat.digitChar d] d
  | behind {cs : List Char} {n d : Nat} (h : Numeral cs n) (hpos : 0 < n) (hd : d < 10) :
    Numeral (cs ++ [Nat.digitChar d]) (10 * n + d)

theorem numeral_digitsOf (n : Nat) : Numeral (Text.digitsOf n) n := by
  induction n using Text.digitsOf.induct with
  | case1 n hn =>
    rw [Text.digitsOf, if_pos hn]
    exact .digit hn
  | case2 n hn ih =>
    have hmore := ih.behind (by omega) (Nat.mod_lt n (by decide))
    rw [Text.digitsOf, if_neg hn]
    rwa [Nat.div_add_mod] at hmore

theorem Numeral.isDigit {cs : List Char} {n : Nat} (h : Numeral cs n) :
    ∀ c ∈ cs, c.isDigit = true := by
  induction h with
  | digit hd => simpa using Text.isDigit_digitChar hd
  | behind _ _ hd ih =>
    rw [List.forall_mem_append, List.forall_mem_singleton]
    exact ⟨ih, Text.isDigit_digitChar hd⟩

/-! ### Trees -/

/-- The texts without layout and the trees that they spell. A part of a tree stands beside the
text that spells it. -/
inductive Spells : List Char → Json → Prop
  | null : Spells "null".toList null
  | true : Spells "true".toList (bool true)
  | false : Spells "false".toList (bool false)
  | nat {cs : List Char} {n : Nat} (h : Numeral cs n) : Spells cs (int n)
  | negative {cs : List Char} {n : Nat} (h : Numeral cs (n + 1)) :
    Spells ('-' :: cs) (int (.negSucc n))
  | str {cs : List Char} {s : String} (h : LiteralText cs s) : Spells cs (str s)
  | arr {items : List (List Char × Json)} (h : ∀ item ∈ items, Spells item.1 item.2) :
    Spells ('[' :: ([','].intercalate (items.map (·.1)) ++ [']'])) (arr (items.map (·.2)))
  | obj {fields : List ((List Char × String) × List Char × Json)}
    (hname : ∀ field ∈ fields, LiteralText field.1.1 field.1.2)
    (hvalue : ∀ field ∈ fields, Spells field.2.1 field.2.2) :
    Spells
      ('{' :: ([','].intercalate (fields.map fun field => field.1.1 ++ ':' :: field.2.1) ++ ['}']))
      (obj (fields.map fun field => (field.1.2, field.2.2)))

theorem spells_numeral (i : Int) : Spells (Text.numeral i) (int i) := by
  cases i with
  | ofNat n => exact .nat (numeral_digitsOf n)
  | negSucc n => exact .negative (numeral_digitsOf (n + 1))

/-- The compact form of a whole tree spells it, with its fields in the order of their names. -/
theorem spells_compact {value : Json} (h : Whole value) :
    Spells value.compact.toList value.ordered := by
  induction h with
  | null => exact .null
  | bool value =>
    cases value with
    | true => exact .true
    | false => exact .false
  | int value =>
    have hnumeral := spells_numeral value
    simpa [compact, ordered, Text.showInt] using hnumeral
  | str value =>
    have hliteral := Spells.str (literalText_literal value)
    simpa [ordered] using hliteral
  | @arr items _ ih =>
    have hitems : ∀ item ∈ items.map fun item => (item.compact.toList, item.ordered),
        Spells item.1 item.2 := by
      rw [List.forall_mem_map]
      exact ih
    have harr := Spells.arr hitems
    rw [compact_arr, ordered, orderedItems_eq]
    simpa [Function.comp_def] using harr
  | @obj fields _ ih =>
    -- The fields are spelled in the order of their names, so that of the sorted list is used
    -- throughout.
    let parts := (sortFields fields).map fun field =>
      (((literal field.1).toList, field.1), field.2.compact.toList, field.2.ordered)
    have hname : ∀ part ∈ parts, LiteralText part.1.1 part.1.2 := by
      rw [List.forall_mem_map]
      exact fun field _ => literalText_literal field.1
    have hvalue : ∀ part ∈ parts, Spells part.2.1 part.2.2 := by
      rw [List.forall_mem_map]
      exact fun field hfield => ih field (mem_sortFields.1 hfield)
    have hobj := Spells.obj hname hvalue
    rw [compact, ordered, compactFields_eq, orderedFields_eq, sortFields_map, sortFields_map]
    simpa [parts, Function.comp_def] using hobj

/-! ### Texts that spell a tree -/

theorem isMark_of_isDigit {c : Char} (h : c.isDigit = true) : IsMark c ∧ 0x20 ≤ c.toNat := by
  have hletter : c.isAlphanum = true := by simp [Char.isAlphanum, h]
  obtain ⟨hquote, -, hprinted⟩ := ne_of_isAlphanum hletter
  exact ⟨⟨hquote, Text.isBlank_of_isAlphanum hletter⟩, hprinted⟩

/-- Texts without layout have none when commas stand between them. -/
theorem squeezed_commas {texts : List (List Char)} (h : ∀ text ∈ texts, Squeezed text text) :
    Squeezed ([','].intercalate texts) ([','].intercalate texts) := by
  have hcomma : Squeezed [','] [','] := squeezed_of_isMark (by decide)
  exact squeezed_intercalate hcomma (List.forall₂_same.2 h)

/-- A text that spells a tree has no layout. -/
theorem Spells.squeezed {cs : List Char} {value : Json} (h : Spells cs value) :
    Squeezed cs cs := by
  induction h with
  | null => exact squeezed_of_isMark (by decide)
  | true => exact squeezed_of_isMark (by decide)
  | false => exact squeezed_of_isMark (by decide)
  | nat h => exact squeezed_of_isMark fun c hc => (isMark_of_isDigit (h.isDigit c hc)).1
  | negative h =>
    refine squeezed_of_isMark (List.forall_mem_cons.2 ⟨by decide, fun c hc => ?_⟩)
    exact (isMark_of_isDigit (h.isDigit c hc)).1
  | str h => exact h.squeezed
  | arr _ ih =>
    exact (squeezed_commas (List.forall_mem_map.2 ih)).between (by decide) (by decide)
  | obj hname _ ih =>
    have hcolon : Squeezed [':'] [':'] := squeezed_of_isMark (by decide)
    refine (squeezed_commas (List.forall_mem_map.2 fun field hfield => ?_)).between (by decide)
      (by decide)
    exact (hname field hfield).squeezed.append (hcolon.append (ih field hfield))

/-- A text that spells a tree has no control characters. -/
theorem Spells.printed {cs : List Char} {value : Json} (h : Spells cs value) :
    ∀ c ∈ cs, 0x20 ≤ c.toNat := by
  -- Lists and objects differ in their brackets and in what their parts are.
  have hbracket : ∀ {opening closing : Char} {parts : List (List Char)},
      0x20 ≤ opening.toNat → 0x20 ≤ closing.toNat →
      (∀ part ∈ parts, ∀ c ∈ part, 0x20 ≤ c.toNat) →
      ∀ c ∈ opening :: ([','].intercalate parts ++ [closing]), 0x20 ≤ c.toNat := by
    intro opening closing parts hopening hclosing hparts
    have hcomma : ∀ c ∈ [','], 0x20 ≤ c.toNat := List.forall_mem_singleton.2 (by decide)
    rw [List.forall_mem_cons, List.forall_mem_append, List.forall_mem_singleton]
    exact ⟨hopening, Text.forall_mem_intercalate hcomma hparts, hclosing⟩
  induction h with
  | null => simp
  | true => simp
  | false => simp
  | nat h => exact fun c hc => (isMark_of_isDigit (h.isDigit c hc)).2
  | negative h =>
    exact List.forall_mem_cons.2 ⟨by decide, fun c hc => (isMark_of_isDigit (h.isDigit c hc)).2⟩
  | str h => exact h.printed
  | arr _ ih => exact hbracket (by decide) (by decide) (List.forall_mem_map.2 ih)
  | obj hname _ ih =>
    refine hbracket (by decide) (by decide) (List.forall_mem_map.2 fun field hfield => ?_)
    rw [List.forall_mem_append, List.forall_mem_cons]
    exact ⟨(hname field hfield).printed, by decide, ih field hfield⟩

end RegistrySync.Json
