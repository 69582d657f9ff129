/-
Texts of domain specs that are put together with blanks between them.

The search does not split a text at its blanks, but no token crosses one: a host has no
blanks, and a block of parameters ends at the next blank. So the search finds the
same tokens in a text whatever stands behind a blank after it.

* `takeWhile_append_of_head` — a stretch ends where a character ends it, whatever follows;
* `front?_append`, `width_le_of_front?` — the token at the front of a text, with more text behind;
* `tokens_append` — the tokens of two texts with a blank between them are those of the first and
  then those of the second;
* `parse_append_blanks` — reading both is reading one after the other;
* `parseAll_append_blanks` — the same for what was there before, case by case.
-/
import RegistrySync.Proofs.DomainSpec.Reading
import RegistrySync.Proofs.DomainSpec.Scan

namespace RegistrySync.DomainSpec

variable {cs rest : List Char}

/-- What follows a text ends it for the search: nothing, or a blank. -/
def EndsToken (rest : List Char) : Prop := ∀ c ∈ rest.head?, Text.isBlank c = true

theorem isHostChar_of_isBlank {c : Char} (h : Text.isBlank c = true) : isHostChar c = false := by
  have halpha := Text.isAlphanum_of_isBlank h
  have hdot : c ≠ '.' := by
    rintro rfl
    exact absurd h (by decide)
  have hdash : c ≠ '-' := by
    rintro rfl
    exact absurd h (by decide)
  simp [isHostChar, halpha, hdot, hdash]

/-! ### The front of a text -/

theorem takeWhile_append_of_head {p : Char → Bool} (h : ∀ c ∈ rest.head?, p c = false) :
    (cs ++ rest).takeWhile p = cs.takeWhile p := by
  induction cs with
  | nil =>
    cases rest with
    | nil => rfl
    | cons c more => simp [h c rfl]
  | cons c more ih =>
    rw [List.cons_append, List.takeWhile_cons, List.takeWhile_cons, ih]

theorem hostStretch_append_of_ends (h : EndsToken rest) :
    hostStretch (cs ++ rest) = hostStretch cs := by
  rw [hostStretch, takeWhile_append_of_head fun c hc => isHostChar_of_isBlank (h c hc), hostStretch]

theorem dotWidth_append (h : EndsToken rest) : dotWidth (cs ++ rest) = dotWidth cs := by
  cases cs with
  | cons c more =>
    rw [List.cons_append]
    unfold dotWidth
    split <;> simp_all
  | nil =>
    rw [List.nil_append]
    unfold dotWidth
    split
    · exact absurd (h '.' rfl) (by decide)
    · rfl

theorem dotWidth_le (cs : List Char) : dotWidth cs ≤ cs.length := by
  unfold dotWidth
  split
  · simp
  · omega

theorem paramBlock_append_of_ends (h : EndsToken rest) :
    paramBlock (cs ++ rest) = paramBlock cs := by
  have hstop : ∀ c ∈ rest.head?, (!Text.isBlank c) = false := by simpa [EndsToken] using h
  cases cs with
  | cons c more =>
    rw [List.cons_append]
    by_cases hc : c = ':'
    · subst hc
      simp only [paramBlock, takeWhile_append_of_head hstop]
    · simp [paramBlock, hc]
  | nil =>
    rw [List.nil_append]
    unfold paramBlock
    split
    · -- What ends a token does not start with a colon.
      exact absurd (h ':' rfl) (by decide)
    · rfl

theorem length_lt_of_paramBlock {block : List Char} (h : paramBlock cs = some block) :
    block.length < cs.length := by
  unfold paramBlock at h
  split at h
  · rename_i more
    simp only at h
    split at h
    · cases h
    · rw [← Option.some.inj h, List.length_cons]
      have hblock := List.takeWhile_prefix (l := more) fun c => !Text.isBlank c
      exact Nat.lt_succ_of_le hblock.length_le
  · cases h

theorem ofHost_append (h : EndsToken rest) {host : List Char} (hl : host.length ≤ cs.length) :
    Token.ofHost host (cs ++ rest) = Token.ofHost host cs := by
  have hdot := dotWidth_le (cs.drop host.length)
  simp only [Token.ofHost, List.drop_append_of_le_length hl, dotWidth_append h,
    List.drop_append_of_le_length hdot, paramBlock_append_of_ends h]

theorem width_ofHost_le {host : List Char} (hl : host.length ≤ cs.length) :
    (Token.ofHost host cs).width ≤ cs.length := by
  have hdot := dotWidth_le (cs.drop host.length)
  rw [List.length_drop] at hdot
  simp only [Token.ofHost]
  split
  · rename_i block hblock
    have hlen := length_lt_of_paramBlock hblock
    rw [List.length_drop, List.length_drop] at hlen
    simp only
    omega
  · simp only
    omega

theorem length_hostStretch_le (cs : List Char) : (hostStretch cs).length ≤ cs.length :=
  have hstretch := hostStretch_prefix cs
  have hchars : cs.takeWhile isHostChar <+: cs := List.takeWhile_prefix _
  (hstretch.trans hchars).length_le

/-- The token at the front of a text does not depend on what stands behind a blank. -/
theorem front?_append (h : EndsToken rest) (hne : cs ≠ []) :
    Token.front? (cs ++ rest) = Token.front? cs := by
  have hhead : (cs ++ rest).head? = cs.head? := by
    obtain ⟨c, more, rfl⟩ := List.exists_cons_of_ne_nil hne
    rfl
  simp only [Token.front?, hhead, hostStretch_append_of_ends h,
    ofHost_append h (length_hostStretch_le cs)]

/-- A token does not reach beyond its text. -/
theorem width_le_of_front? {token : Token} (h : Token.front? cs = some token) :
    token.width ≤ cs.length := by
  simp only [Token.front?] at h
  split at h
  · split at h
    · rw [← Option.some.inj h]
      exact width_ofHost_le (length_hostStretch_le cs)
    · cases h
  · cases h

/-! ### The tokens of a text -/

/-- The tokens of two texts with a blank between them: those of the first, then those of the
second. -/
theorem tokens_append (h : EndsToken rest) : tokens (cs ++ rest) = tokens cs ++ tokens rest := by
  -- The search walks on while characters are passed over. It never passes over more of them than
  -- the first text has, since no token reaches beyond it.
  suffices hall : ∀ skip ≤ cs.length,
      tokensFrom skip (cs ++ rest) = tokensFrom skip cs ++ tokens rest from hall 0 (Nat.zero_le _)
  induction cs with
  | nil =>
    intro skip hskip
    obtain rfl : skip = 0 := Nat.le_zero.1 hskip
    rfl
  | cons c more ih =>
    intro skip hskip
    cases skip with
    | succ skip => exact ih skip (Nat.le_of_succ_le_succ hskip)
    | zero =>
      have hfront : Token.front? (c :: more ++ rest) = Token.front? (c :: more) :=
        front?_append h (List.cons_ne_nil c more)
      rw [List.cons_append] at hfront ⊢
      rw [tokensFrom, tokensFrom, hfront]
      cases ht : Token.front? (c :: more) with
      | none => exact ih 0 (Nat.zero_le _)
      | some token =>
        have hwidth := width_le_of_front? ht
        rw [List.length_cons] at hwidth
        simp only [List.cons_append]
        rw [ih (token.width - 1) (by omega)]

/-- Blanks in front of a text are passed over. -/
theorem tokens_blanks_append {blanks : List Char} (h : ∀ c ∈ blanks, Text.isBlank c = true)
    (cs : List Char) : tokens (blanks ++ cs) = tokens cs := by
  induction blanks with
  | nil => rfl
  | cons c more ih =>
    obtain ⟨hc, hmore⟩ := List.forall_mem_cons.1 h
    rw [List.cons_append, tokens_blank hc, ih hmore]

/-! ### Readings -/

theorem Parse.concat_append (ps qs : List Parse) :
    concat (ps ++ qs) = (concat ps).append (concat qs) := by
  induction ps with
  | nil => rfl
  | cons p rest ih => rw [List.cons_append, concat, ih, concat, append_assoc]

/-- Reading two texts with blanks between them is reading one after the other. -/
theorem parse_append_blanks {blanks : List Char} (hne : blanks ≠ [])
    (hb : ∀ c ∈ blanks, Text.isBlank c = true) (a b : List Char) :
    parse (a ++ (blanks ++ b)) = (parse a).append (parse b) := by
  have hends : EndsToken (blanks ++ b) := by
    obtain ⟨first, more, rfl⟩ := List.exists_cons_of_ne_nil hne
    rintro c ⟨⟩
    exact hb first List.mem_cons_self
  rw [parse, tokens_append hends, tokens_blanks_append hb, List.map_append, Parse.concat_append]
  rfl

/-- What is there already stays in front of what both texts yield. -/
theorem parseAll_eq_append {blanks : String} (hne : blanks ≠ "")
    (hb : ∀ c ∈ blanks.toList, Text.isBlank c = true) (a b : String) (initial : List DomainSpec) :
    parseAll (a ++ blanks ++ b) initial = (parseAll a initial).append (parseAll b []) := by
  have hne' : blanks.toList ≠ [] := fun hnil => hne (String.toList_inj.1 hnil)
  have hparse := parse_append_blanks hne' hb a.toList b.toList
  rw [parseAll, String.toList_append, String.toList_append, List.append_assoc, hparse]
  cases hs : (parse a.toList).stop with
  | some stop =>
    rw [Parse.append_of_stop hs, Parse.append_of_stop (p := parseAll a initial) hs]
    rfl
  | none =>
    rw [Parse.append_of_clean hs, Parse.append_of_clean (p := parseAll a initial) hs]
    simp [parseAll]

/-- Two texts with blanks between them are read one after the other. If nothing is at fault in
either, the specs of the first stand behind those that were there before, and those of the second
behind them. If the first is at fault, so is the whole, in the same way, and the second text does
not matter. If only the second is at fault, so is the whole in its way, and the specs of the first
are kept. The parameters that were not known are told in the same order. -/
theorem parseAll_append_blanks {blanks : String} (hne : blanks ≠ "")
    (hb : ∀ c ∈ blanks.toList, Text.isBlank c = true) (a b : String) (initial : List DomainSpec) :
    let first := parseAll a []
    let second := parseAll b []
    let whole := parseAll (a ++ blanks ++ b) initial
    (first.stop = none → second.stop = none →
      whole = ⟨initial ++ first.specs ++ second.specs, first.unknown ++ second.unknown, none⟩) ∧
    (∀ stop, first.stop = some stop →
      whole = ⟨initial ++ first.specs, first.unknown, some stop⟩) ∧
    ∀ stop, first.stop = none → second.stop = some stop →
      whole = ⟨initial ++ first.specs ++ second.specs, first.unknown ++ second.unknown,
        some stop⟩ := by
  intro first second whole
  have hwhole : whole = (parseAll a initial).append second := parseAll_eq_append hne hb a b initial
  refine ⟨fun hfirst hsecond => ?_, fun stop hfirst => ?_, fun stop hfirst hsecond => ?_⟩
  · rw [hwhole, Parse.append_of_clean (p := parseAll a initial) hfirst, hsecond]
    rfl
  · rw [hwhole, Parse.append_of_stop (p := parseAll a initial) hfirst]
    exact congrArg (Parse.mk _ _) hfirst
  · rw [hwhole, Parse.append_of_clean (p := parseAll a initial) hfirst, hsecond]
    rfl

/-- A text in which a parameter is not known, and one whose second token is at fault. -/
theorem parseAll_append_blanks_bad_port :
    parseAll ("one.org:tls" ++ "\u2003\n" ++ "two.org three.org:http:https=65536 four.org")
        [⟨"old.org", some 1, none⟩] =
      ⟨[⟨"old.org", some 1, none⟩, ⟨"one.org", some 80, some 443⟩, ⟨"two.org", some 80, some 443⟩],
        [⟨"tls", "one.org"⟩], some ⟨"three.org", "https", .tooLarge "65536"⟩⟩ := by
  have hne : "\u2003\n" ≠ "" := by decide
  have hb : ∀ c ∈ "\u2003\n".toList, Text.isBlank c = true := List.all_eq_true.1 (by decide)
  obtain ⟨-, -, hsecond⟩ := parseAll_append_blanks hne hb
    "one.org:tls" "two.org three.org:http:https=65536 four.org" [⟨"old.org", some 1, none⟩]
  have hwhole := hsecond ⟨"three.org", "https", .tooLarge "65536"⟩ (by decide +kernel)
    (by decide +kernel)
  refine hwhole.trans ?_
  decide +kernel

end RegistrySync.DomainSpec
