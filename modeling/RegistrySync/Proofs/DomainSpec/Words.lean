/-
The words of a text and the domains that are read from them.

A text is not split at its blanks, but no token crosses one, so that each token is of one word. A
word is meant to be one token. The search does not look for tokens at the fronts of words only,
however, and where it finds one in the middle of a word it goes on behind it.

* `tokens_eq_flatMap_words` — the tokens of a text are those of its words, one word after another;
* `FirstHost`, `OneDomain` — the first host of a word, and a word in which nothing else can be taken
  for a domain;
* `oneDomain_iff` — these are the words with at most one match, and no colon in front of it;
* `Documented`, `Documented.oneDomain` — a host, a dot that may follow it, and parameters that may
  follow these: such a word is one of them, and one token;
* `matchesOf`, `matchesOf_sublist` — the matches of words, and that words with at most one each are
  there at most once;
* `parseAll_one_domain_per_word` — how many specs are read from such words, and from which;
* `parse_word_with_underscore` — a word that is read as two domains, the second of which is its
  parameter.
-/
import RegistrySync.Proofs.DomainSpec.Provenance
import RegistrySync.Proofs.Text.Words

namespace RegistrySync.DomainSpec

open Text (words)

variable {cs word : List Char} {i j k : Nat}

/-! ### The tokens of words -/

theorem flatMap_tokens_of_not_blank (h : ∀ c ∈ word, Text.isBlank c = false) :
    (words word).flatMap tokens = tokens word := by
  rw [Text.words_of_not_blank h]
  split
  · rename_i hnil
    rw [hnil]
    rfl
  · exact List.flatMap_singleton tokens word

/-- No token crosses a blank: the tokens of a text are those of its words, word after word. -/
theorem tokens_eq_flatMap_words (cs : List Char) : tokens cs = (words cs).flatMap tokens := by
  induction cs using Text.blank_induction with
  | last word h => exact (flatMap_tokens_of_not_blank h).symm
  | step word c rest h hc ih =>
    have hends : EndsToken (c :: rest) := by
      rintro d ⟨⟩
      exact hc
    rw [tokens_append hends, tokens_blank hc, Text.words_append_blank hc, List.flatMap_append,
      flatMap_tokens_of_not_blank h, ih]

/-! ### Words with one domain -/

/-- The first host of a text. -/
structure FirstHost (cs : List Char) (i j : Nat) : Prop extends HostAt cs i j where
  earliest : ∀ k l, k < i → ¬ HostAt cs k l

theorem FirstHost.unique {i' j' : Nat} (h : FirstHost cs i j) (h' : FirstHost cs i' j') :
    i = i' ∧ j = j' := by
  have hi : i = i' := by
    rcases Nat.lt_trichotomy i i' with hlt | heq | hgt
    · exact absurd h.toHostAt (h'.earliest i j hlt)
    · exact heq
    · exact absurd h'.toHostAt (h.earliest i' j' hgt)
  subst hi
  exact ⟨rfl, h.toLastOfRun.unique h'.toLastOfRun⟩

/-- A word in which nothing but the first host can be taken for a domain: no colon stands in front
of it, and behind it there are parameters, or no other host. -/
def OneDomain (word : List Char) : Prop :=
  ∀ i j, FirstHost word i j →
    ':' ∉ word.take i ∧
      ((word[behindHost word j]? = some ':' ∧ behindHost word j + 1 < word.length) ∨
        ∀ k l, behindHost word j ≤ k → ¬ HostAt word k l)

theorem has_isBlockChar_iff (h : ∀ c ∈ word, Text.isBlank c = false) :
    Has word isBlockChar k ↔ k < word.length := by
  refine ⟨Has.lt_length, fun hk => ⟨word[k], List.getElem?_eq_getElem hk, ?_⟩⟩
  rw [isBlockChar, h _ (List.getElem_mem hk)]
  rfl

/-- Behind the first match of a word there is no other host exactly if there are parameters, or no
other host behind the first one: parameters go on to the end of the word. -/
theorem nowhere_behind_iff {found : Match} (h : ∀ c ∈ word, Text.isBlank c = false)
    (hblock : BlockAt word k found.params found.stop) :
    (∀ i j, found.stop ≤ i → ¬ HostAt word i j) ↔
      (word[k]? = some ':' ∧ k + 1 < word.length) ∨ ∀ i j, k ≤ i → ¬ HostAt word i j := by
  generalize found.params = params at hblock
  generalize found.stop = stop at hblock
  cases hblock with
  | absent habsent =>
    rw [has_isBlockChar_iff h] at habsent
    exact (or_iff_right habsent).symm
  | given colon lt run maximal =>
    rw [has_isBlockChar_iff h] at maximal
    -- The parameters go on to the end of the word, so that no host stands behind them.
    have hlast := (run (stop - 1) (by omega) (by omega)).lt_length
    refine iff_of_true (fun i j hi hhost => ?_) (Or.inl ⟨colon, by omega⟩)
    have hlt := hhost.first.lt_length
    omega

/-- The words with one domain are those with at most one match, and no colon in front of it. -/
theorem oneDomain_iff (h : ∀ c ∈ word, Text.isBlank c = false) :
    OneDomain word ↔
      (matchesIn word).length ≤ 1 ∧ ∀ m ∈ matchesIn word, ':' ∉ word.take m.start := by
  have hscan : Scan word 0 (matchesIn word) := scan_matchesFrom word 0
  -- The search settles it: without a match there is no host at all, and otherwise the first match
  -- is at the first host.
  cases hscan' : matchesIn word with
  | nil =>
    rw [hscan'] at hscan
    cases hscan with
    | done nowhere =>
      exact iff_of_true (fun i j hfirst => absurd hfirst.toHostAt (nowhere i j (Nat.zero_le i)))
        ⟨Nat.zero_le 1, nofun⟩
  | cons m others =>
    rw [hscan'] at hscan
    cases hscan with
    | next le first here behind =>
      obtain ⟨j, hj, hstart, -, hblock⟩ := here
      have hfirst : FirstHost word m.start j :=
        hstart ▸ ⟨hj, fun k l hk => first k l (Nat.zero_le k) hk⟩
      -- There is only one first host, so that what holds of all of them is what holds of this
      -- one.
      have honly : OneDomain word ↔ ':' ∉ word.take m.start ∧
          ∀ k l, m.stop ≤ k → ¬ HostAt word k l := by
        rw [nowhere_behind_iff h hblock]
        refine ⟨fun hone => hone _ _ hfirst, fun hone i' j' hfirst' => ?_⟩
        obtain ⟨rfl, rfl⟩ := hfirst.unique hfirst'
        exact hone
      have hothers : (∀ k l, m.stop ≤ k → ¬ HostAt word k l) ↔ others = [] := by
        constructor
        · intro hnone
          exact behind.unique (.done hnone)
        · rintro rfl
          cases behind with
          | done nowhere => exact nowhere
      rw [honly, hothers]
      constructor
      · rintro ⟨hcolon, rfl⟩
        exact ⟨Nat.le_refl 1, List.forall_mem_singleton.2 hcolon⟩
      · rintro ⟨hlen, hcolon⟩
        rw [List.length_cons] at hlen
        exact ⟨hcolon m List.mem_cons_self, List.length_eq_zero_iff.1 (by omega)⟩

/-! ### Documented words -/

/-- Parameters with the colon in front of them. -/
def blockText : Option (List Char) → List Char
  | none => []
  | some block => ':' :: block

/-- A word as the language has it: a host, a dot that may follow it, and parameters that may follow
these. -/
structure Documented (word host : List Char) (params : Option (List Char)) : Prop where
  isHost : IsHost host
  given : ∀ block ∈ params, block ≠ []
  text : ∃ dot, (dot = [] ∨ dot = ['.']) ∧ word = host ++ (dot ++ blockText params)

theorem length_blockText (params : Option (List Char)) :
    (blockText params).length = blockWidth params := by
  cases params with
  | none => rfl
  | some block => exact Nat.add_comm block.length 1

theorem isHostChar_of_head?_blockText {params : Option (List Char)} :
    ∀ c ∈ (blockText params).head?, isHostChar c = false := by
  cases params with
  | none => rintro c ⟨⟩
  | some block =>
    rintro c ⟨⟩
    decide

theorem paramBlock_blockText {params : Option (List Char)} (hne : ∀ block ∈ params, block ≠ [])
    (h : ∀ c ∈ blockText params, Text.isBlank c = false) :
    paramBlock (blockText params) = params := by
  cases params with
  | none => rfl
  | some block =>
    have hblock : ∀ c ∈ block, Text.isBlank c = false := fun c hc =>
      h c (List.mem_cons_of_mem _ hc)
    have hall : paramBlock (':' :: (block ++ [])) = some block :=
      paramBlock_append (hne block rfl) hblock nofun
    rwa [List.append_nil] at hall

/-- A dot behind a host is not part of it, if no host character follows the dot. -/
theorem hostStretch_append_dot {host rest : List Char} (h : IsHost host)
    (hr : ∀ c ∈ rest.head?, isHostChar c = false) : hostStretch (host ++ '.' :: rest) = host := by
  have htake : (host ++ '.' :: rest).takeWhile isHostChar = host ++ ['.'] := by
    rw [List.takeWhile_append_of_pos h.forall_isHostChar, List.takeWhile_cons_of_pos (by decide)]
    cases rest with
    | nil => rfl
    | cons c more => rw [List.takeWhile_cons_of_neg (by simp [hr c rfl])]
  obtain ⟨first, middle, last, rfl, -, -, -, hlast⟩ := h
  rw [hostStretch, htake]
  simp [hlast]

/-- A documented word is a token from its start to its end. -/
theorem Documented.front? {host : List Char} {params : Option (List Char)}
    (h : Documented word host params) (hb : ∀ c ∈ word, Text.isBlank c = false) :
    Token.front? word = some ⟨host, params, word.length⟩ := by
  obtain ⟨hhost, hne, dot, hdot, rfl⟩ := h
  have hhead : (host ++ (dot ++ blockText params)).head?.any Char.isAlphanum = true := by
    obtain ⟨first, middle, last, rfl, hfirst, -⟩ := hhost
    simpa using hfirst
  -- The stretch ends at the dot, or where the parameters start, or with the word.
  have hstretch : hostStretch (host ++ (dot ++ blockText params)) = host := by
    rcases hdot with rfl | rfl
    · exact hostStretch_append hhost isHostChar_of_head?_blockText
    · exact hostStretch_append_dot hhost isHostChar_of_head?_blockText
  have hwidth : dotWidth (dot ++ blockText params) = dot.length := by
    rcases hdot with rfl | rfl
    · cases params <;> rfl
    · rfl
  have hblock : paramBlock (blockText params) = params :=
    paramBlock_blockText hne fun c hc =>
      hb c (List.mem_append_right _ (List.mem_append_right _ hc))
  rw [Token.front?, if_pos hhead, hstretch]
  simp only
  rw [if_pos hhost.three_le_length, ofHost_eq, List.drop_left, hwidth, ← List.drop_drop,
    List.drop_left, List.drop_left, hblock, ← length_blockText]
  simp only [List.length_append, Nat.add_assoc]

/-- It is one token and nothing else, and has one domain. -/
theorem Documented.oneDomain {host : List Char} {params : Option (List Char)}
    (h : Documented word host params) (hb : ∀ c ∈ word, Text.isBlank c = false) :
    tokens word = [⟨host, params, word.length⟩] ∧ OneDomain word := by
  have hmatches : matchesIn word = [.ofToken 0 ⟨host, params, word.length⟩] := by
    have hfront : Token.front? (word.drop 0) = some ⟨host, params, word.length⟩ := h.front? hb
    have hall := matchesFrom_of_front hfront
    rwa [matchesFrom_of_length_le (Nat.le_add_left _ _)] at hall
  have htokens : tokens word = (matchesIn word).map Match.token := tokens_drop word 0
  rw [hmatches] at htokens
  refine ⟨htokens.trans (by rw [List.map_singleton, token_ofToken]), (oneDomain_iff hb).2 ?_⟩
  rw [hmatches]
  exact ⟨Nat.le_refl 1, List.forall_mem_singleton.2 nofun⟩

/-! ### Texts -/

/-- The matches of the words of a text, each with its word. -/
def matchesOf (found : List (List Char)) : List (List Char × Match) :=
  found.flatMap fun word => (matchesIn word).map (word, ·)

theorem mem_matchesOf {found : List (List Char)} {m : Match} :
    (word, m) ∈ matchesOf found ↔ word ∈ found ∧ m ∈ matchesIn word := by
  simp [matchesOf]

theorem tokens_eq_map_matchesOf (cs : List Char) :
    tokens cs = (matchesOf (words cs)).map fun one => one.2.token := by
  rw [tokens_eq_flatMap_words, matchesOf, List.map_flatMap]
  refine List.flatMap_congr fun word _ => ?_
  rw [List.map_map]
  exact tokens_drop word 0

/-- Of words with at most one match each, every one is there at most once. -/
theorem matchesOf_sublist {found : List (List Char)}
    (h : ∀ word ∈ found, (matchesIn word).length ≤ 1) :
    ((matchesOf found).map Prod.fst).Sublist found := by
  induction found with
  | nil => exact .slnil
  | cons word rest ih =>
    obtain ⟨hword, hrest⟩ := List.forall_mem_cons.1 h
    rw [matchesOf, List.flatMap_cons, List.map_append, ← matchesOf]
    cases hm : matchesIn word with
    | nil => exact (ih hrest).cons word
    | cons m others =>
      rw [hm, List.length_cons] at hword
      rw [List.length_eq_zero_iff.1 (show others.length = 0 by omega)]
      exact (ih hrest).cons_cons word

/-- The words of a text and the domains that are read from them, with or without a fault.

The tokens are those of the words, one word after another. A word has at most one of them, and no
colon in front of it, exactly if it has one domain; a documented word has, and is one token.

The specs that are added are those of the matches of the words, up to the first fault; the domain
of each stands in its word. If all words have one domain, they come from different words, in the
order of these, so that there are no more of them than words, and no colon stands in front of any
domain. -/
theorem parseAll_one_domain_per_word (raw : String) (initial : List DomainSpec) :
    let found := words raw.toList
    let outcome := parseAll raw initial
    tokens raw.toList = found.flatMap tokens ∧
      (∀ word ∈ found, OneDomain word ↔
        (matchesIn word).length ≤ 1 ∧ ∀ m ∈ matchesIn word, ':' ∉ word.take m.start) ∧
      (∀ word ∈ found, ∀ host params, Documented word host params →
        tokens word = [⟨host, params, word.length⟩] ∧ OneDomain word) ∧
      ∃ taken, taken <+: matchesOf found ∧
        (outcome.stop = none → taken = matchesOf found) ∧
        outcome.specs = initial ++ taken.map (fun one => one.2.token.spec) ∧
        (∀ one ∈ taken, TakenFrom one.1 one.2.start one.2.token.spec) ∧
        ((∀ word ∈ found, OneDomain word) →
          (taken.map Prod.fst).Sublist found ∧ taken.length ≤ found.length ∧
            ∀ one ∈ taken, ':' ∉ one.1.take one.2.start) := by
  intro found outcome
  have hblank : ∀ word ∈ found, ∀ c ∈ word, Text.isBlank c = false := fun word hword =>
    (Text.mem_words hword).2
  refine ⟨tokens_eq_flatMap_words raw.toList, fun word hword => oneDomain_iff (hblank word hword),
    fun word hword host params hdoc => hdoc.oneDomain (hblank word hword), ?_⟩
  obtain ⟨taken, hfront, hstop, hspecs, hwell⟩ := exists_taken (tokens_eq_map_matchesOf raw.toList)
  -- Whatever is taken is a match of one of the words, since it is taken from the front of all
  -- these.
  have hmem : ∀ one ∈ taken, one.1 ∈ found ∧ one.2 ∈ matchesIn one.1 := fun one hone =>
    mem_matchesOf.1 (hfront.subset hone)
  refine ⟨taken, hfront, hstop, congrArg (initial ++ ·) hspecs, fun one hone => ?_,
    fun hone => ?_⟩
  · have hat : MatchAt one.1 one.2.start one.2 :=
      (scan_matchesFrom one.1 0).matchAt one.2 (hmem one hone).2
    exact hat.takenFrom (hwell one hone)
  · have hmatches : ∀ word ∈ found,
        (matchesIn word).length ≤ 1 ∧ ∀ m ∈ matchesIn word, ':' ∉ word.take m.start :=
      fun word hword => (oneDomain_iff (hblank word hword)).1 (hone word hword)
    -- With no more than one match in each, the words of the matches are some of the words, in
    -- order.
    have hsub : (taken.map Prod.fst).Sublist found :=
      (hfront.sublist.map Prod.fst).trans
        (matchesOf_sublist fun word hword => (hmatches word hword).1)
    refine ⟨hsub, by simpa using hsub.length_le, fun one hfound => ?_⟩
    obtain ⟨hword, hmatch⟩ := hmem one hfound
    exact (hmatches one.1 hword).2 one.2 hmatch

/-- A documented word, one with a host in front of what cannot be read, and one without a host. -/
theorem parseAll_one_domain_per_word_mixed :
    (∀ word ∈ words "one.org.:http=81\tweb_1 !:!".toList, OneDomain word) ∧
      tokens "one.org.:http=81".toList = [⟨"one.org".toList, some "http=81".toList, 16⟩] ∧
      (parseAll "one.org.:http=81\tweb_1 !:!" []).specs =
        [⟨"one.org", some 81, none⟩, ⟨"web", some 80, some 443⟩] ∧
      (parseAll "one.org.:http=81\tweb_1 !:!" []).specs.length ≤
        (words "one.org.:http=81\tweb_1 !:!".toList).length := by
  obtain ⟨-, hiff, hdocumented, taken, -, -, hspecs, -, hone⟩ :=
    parseAll_one_domain_per_word "one.org.:http=81\tweb_1 !:!" []
  -- One domain, one domain and a rest that is no host, and none at all.
  have hwords : ∀ word ∈ words "one.org.:http=81\tweb_1 !:!".toList, OneDomain word := by
    intro word hword
    refine (hiff word hword).2 ?_
    revert word
    decide +kernel
  have hdoc : Documented "one.org.:http=81".toList "one.org".toList (some "http=81".toList) := by
    refine ⟨⟨'o', "ne.or".toList, 'g', by decide, by decide, by decide, ?_, by decide⟩, ?_,
      ['.'], Or.inr rfl, by decide⟩
    · exact List.all_eq_true.1 (by decide)
    · rintro block ⟨⟩
      decide
  obtain ⟨htokens, -⟩ := hdocumented _ (by decide +kernel) _ _ hdoc
  obtain ⟨-, hlength, -⟩ := hone hwords
  refine ⟨hwords, htokens, by decide +kernel, ?_⟩
  rw [hspecs, List.nil_append, List.length_map]
  exact hlength

/-- A word without blanks, which the search reads as two domains: it stops at the underscore, and
goes on in the word with what should be a parameter. -/
theorem parse_word_with_underscore :
    words "web_1:https".toList = ["web_1:https".toList] ∧
      (parseAll "web_1:https" []).result =
        .ok [⟨"web", some 80, some 443⟩, ⟨"https", some 80, some 443⟩] ∧
      ¬ (parseAll "web_1:https" []).specs.length ≤ (words "web_1:https".toList).length := by
  decide +kernel

end RegistrySync.DomainSpec
