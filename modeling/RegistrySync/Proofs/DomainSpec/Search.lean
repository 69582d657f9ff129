/-
The matches of a text by their positions, and a scan that finds them.

* `matchesIn` — the matches of the pattern for tokens in a text;
* `MatchAt`, `Scan` — a match by its positions, and all matches from a position on: each starts at
  the first position at which a host does;
* `matchAt_iff` — a match starts where a token does, and takes as many characters;
* `scan_matchesFrom`, `Scan.unique` — the scan always ends, in one way only;
* `Scan.apart`, `Scan.length_le` — matches do not touch, so there are not many of them;
* `matchesIn_eq_scan` — the matches of the pattern, those of the scan and the tokens that are read
  are the same.
-/
import RegistrySync.DomainSpec.Parse
import RegistrySync.Proofs.DomainSpec.Pattern

namespace RegistrySync.DomainSpec

open Text (Pattern)

variable {cs : List Char} {i p : Nat}

/-! ### Matches by their positions -/

/-- A match of the pattern in a text: where it starts and stops, the host, and the parameters. -/
structure Match where
  start : Nat
  stop : Nat
  host : List Char
  params : Option (List Char)
  deriving DecidableEq, Repr

/-- A token that starts at a position. -/
def Match.ofToken (start : Nat) (token : Token) : Match :=
  ⟨start, start + token.width, token.host, token.params⟩

/-- The token of a match. -/
def Match.token (found : Match) : Token := ⟨found.host, found.params, found.stop - found.start⟩

@[simp] theorem token_ofToken (start : Nat) (token : Token) :
    (Match.ofToken start token).token = token := by
  simp [Match.ofToken, Match.token]

/-- The matches of the pattern from a position on. -/
def matchesFrom (cs : List Char) (p : Nat) : List Match :=
  (domainPattern.findFrom p 0 (cs.drop p)).map fun found => .ofToken found.1 (tokenOf found.2)

/-- The matches of the pattern in a text, from the left. -/
def matchesIn (cs : List Char) : List Match :=
  (domainPattern.find cs).map fun found => .ofToken found.1 (tokenOf found.2)

/-- The position behind a host and behind the dot that may follow it. -/
def behindHost (cs : List Char) (j : Nat) : Nat := if cs[j + 1]? = some '.' then j + 2 else j + 1

/-- The match that starts at a position: the host there, without the dot behind it, and the
parameters behind that. -/
def MatchAt (cs : List Char) (i : Nat) (found : Match) : Prop :=
  ∃ j, HostAt cs i j ∧ found.start = i ∧ found.host = cs.extract i (j + 1) ∧
    BlockAt cs (behindHost cs j) found.params found.stop

/-- The matches from a position on: each starts at the first position at which a host does, and the
next is looked for where it stops. -/
inductive Scan (cs : List Char) : Nat → List Match → Prop
  | done {p : Nat} (nowhere : ∀ i j, p ≤ i → ¬ HostAt cs i j) : Scan cs p []
  | next {p i : Nat} {found : Match} {others : List Match} (le : p ≤ i)
      (first : ∀ k j, p ≤ k → k < i → ¬ HostAt cs k j) (here : MatchAt cs i found)
      (behind : Scan cs found.stop others) : Scan cs p (found :: others)

theorem behindHost_eq (cs : List Char) (j : Nat) :
    behindHost cs j = j + 1 + dotWidth (cs.drop (j + 1)) := by
  rw [dotWidth_drop, behindHost]
  split <;> rfl

/-- The token that starts what is left of a text, by its positions in the whole text. -/
theorem ofToken_ofHost {n : Nat} (h : HostAt cs i (i + n)) :
    Match.ofToken i (Token.ofHost ((cs.drop i).take (n + 1)) (cs.drop i)) =
      ⟨i, behindHost cs (i + n) + blockWidth (paramBlock (cs.drop (behindHost cs (i + n)))),
        cs.extract i (i + n + 1), paramBlock (cs.drop (behindHost cs (i + n)))⟩ := by
  have hlt := h.alphanum.lt_length
  have hlen : ((cs.drop i).take (n + 1)).length = n + 1 := by
    rw [List.length_take, List.length_drop]
    omega
  have hbehind : behindHost cs (i + n) = i + (n + 1 + dotWidth (cs.drop (i + (n + 1)))) := by
    rw [behindHost_eq, Nat.add_assoc i n 1, Nat.add_assoc]
  have hextract : cs.extract i (i + n + 1) = (cs.drop i).take (n + 1) := by
    rw [List.extract_eq_take_drop, Nat.add_assoc, Nat.add_sub_cancel_left]
  rw [ofHost_eq, hlen, hbehind, hextract]
  simp only [Match.ofToken, List.drop_drop, Nat.add_assoc]

/-- A match starts where a token does, and takes as many characters. -/
theorem matchAt_iff {found : Match} :
    MatchAt cs i found ↔
      ∃ token, Token.front? (cs.drop i) = some token ∧ found = .ofToken i token := by
  constructor
  · rintro ⟨j, hj, hstart, hhost, hblock⟩
    obtain ⟨n, rfl⟩ := Nat.exists_eq_add_of_le hj.le
    obtain ⟨hparams, hstop⟩ := blockAt_iff.1 hblock
    refine ⟨_, front?_eq_some_iff.2 ⟨n, hostAt_drop.2 hj, rfl⟩, ?_⟩
    rw [ofToken_ofHost hj, hparams, ← hstop, ← hhost, ← hstart]
  · rintro ⟨token, hfront, rfl⟩
    obtain ⟨n, hn, rfl⟩ := front?_eq_some_iff.1 hfront
    have hj := hostAt_drop.1 hn
    rw [ofToken_ofHost hj]
    exact ⟨i + n, hj, rfl, rfl, blockAt_iff.2 ⟨rfl, rfl⟩⟩

theorem front?_drop_eq_none_iff : Token.front? (cs.drop i) = none ↔ ∀ j, ¬ HostAt cs i j := by
  rw [front?_eq_none_iff]
  constructor
  · intro h j hj
    obtain ⟨n, rfl⟩ := Nat.exists_eq_add_of_le hj.le
    exact h n (hostAt_drop.2 hj)
  · intro h n hn
    exact h (i + n) (hostAt_drop.1 hn)

/-! ### The scan -/

theorem matchesFrom_of_front {token : Token} (h : Token.front? (cs.drop p) = some token) :
    matchesFrom cs p = .ofToken p token :: matchesFrom cs (p + token.width) := by
  have hfit := front?_domainPattern (cs.drop p)
  rw [h, Option.map_eq_some_iff] at hfit
  obtain ⟨fit, hfit, rfl⟩ := hfit
  obtain ⟨c, rest, hrest⟩ := List.exists_cons_of_ne_nil (l := cs.drop p) (by
    intro hnil
    rw [hnil] at h
    cases h)
  have hwidth : 0 < fit.width := Token.width_pos h
  -- The search takes the first character apart and goes on behind the others.
  have hpos : p + (tokenOf fit).width = p + 1 + (fit.width - 1) := by
    show p + fit.width = _
    omega
  have hbehind : cs.drop (p + 1 + (fit.width - 1)) = rest.drop (fit.width - 1) := by
    rw [Nat.add_assoc, ← List.drop_drop, hrest, Nat.add_comm 1, List.drop_succ_cons]
  rw [matchesFrom, hrest, Pattern.findFrom, ← hrest, hfit]
  simp only [List.map_cons]
  rw [Pattern.findFrom_drop, hpos, matchesFrom, hbehind]

theorem matchesFrom_of_length_le (h : cs.length ≤ p) : matchesFrom cs p = [] := by
  rw [matchesFrom, List.drop_eq_nil_of_le h]
  rfl

theorem matchesFrom_succ (h : Token.front? (cs.drop p) = none) :
    matchesFrom cs p = matchesFrom cs (p + 1) := by
  by_cases hp : p < cs.length
  · have hfit := front?_domainPattern (cs.drop p)
    rw [h, Option.map_eq_none_iff, List.drop_eq_getElem_cons hp] at hfit
    rw [matchesFrom, List.drop_eq_getElem_cons hp, Pattern.findFrom, hfit, matchesFrom]
  · rw [matchesFrom_of_length_le (by omega), matchesFrom_of_length_le (by omega)]

/-- A scan from the next position is one from here, if no host starts here. -/
theorem Scan.earlier {found : List Match} (h : Scan cs (p + 1) found) (hp : ∀ j, ¬ HostAt cs p j) :
    Scan cs p found := by
  -- The search has come one position further without finding anything.
  have hhere : ∀ k j, p ≤ k → ¬ (p + 1 ≤ k) → ¬ HostAt cs k j := by
    intro k j hk hlt
    obtain rfl : k = p := by omega
    exact hp j
  cases h with
  | done nowhere =>
    refine .done fun k j hk => ?_
    by_cases hlt : p + 1 ≤ k
    · exact nowhere k j hlt
    · exact hhere k j hk hlt
  | next le first here behind =>
    refine .next (by omega) (fun k j hk hki => ?_) here behind
    by_cases hlt : p + 1 ≤ k
    · exact first k j hlt hki
    · exact hhere k j hk hlt

/-- The scan always ends, and what it finds are the matches of the pattern. -/
theorem scan_matchesFrom (cs : List Char) (p : Nat) : Scan cs p (matchesFrom cs p) := by
  -- Each step leaves less of the text.
  induction hn : cs.length - p using Nat.strong_induction_on generalizing p with
  | _ n ih =>
    by_cases hp : cs.length ≤ p
    · rw [matchesFrom_of_length_le hp]
      refine .done fun i j hi hj => ?_
      have hlt := hj.first.lt_length
      omega
    · cases hf : Token.front? (cs.drop p) with
      | none =>
        rw [matchesFrom_succ hf]
        exact (ih _ (by omega) (p + 1) rfl).earlier (front?_drop_eq_none_iff.1 hf)
      | some token =>
        have hwidth := Token.width_pos hf
        rw [matchesFrom_of_front hf]
        refine .next (Nat.le_refl p) (fun k j hk hkp => ?_) (matchAt_iff.2 ⟨token, hf, rfl⟩)
          (ih _ (by omega) (p + token.width) rfl)
        omega

/-- The scan ends in one way only. -/
theorem Scan.unique {found others : List Match} (h : Scan cs p found) (h' : Scan cs p others) :
    found = others := by
  induction h generalizing others with
  | done nowhere =>
    cases h' with
    | done _ => rfl
    | next le _ here _ =>
      obtain ⟨j, hj, -⟩ := here
      exact absurd hj (nowhere _ j le)
  | @next p i m rest le first here behind ih =>
    cases h' with
    | done nowhere =>
      obtain ⟨j, hj, -⟩ := here
      exact absurd hj (nowhere _ j le)
    | @next _ i' m' rest' le' first' here' behind' =>
      -- Both start at the first position at which a host does.
      have hi : i = i' := by
        obtain ⟨j, hj, -⟩ := here
        obtain ⟨j', hj', -⟩ := here'
        rcases Nat.lt_trichotomy i i' with hlt | heq | hgt
        · exact absurd hj (first' i j le hlt)
        · exact heq
        · exact absurd hj' (first i' j' le' hgt)
      obtain ⟨token, htoken, rfl⟩ := matchAt_iff.1 here
      obtain ⟨token', htoken', rfl⟩ := matchAt_iff.1 here'
      rw [hi, htoken'] at htoken
      obtain rfl := Option.some.inj htoken
      rw [hi] at ih ⊢
      rw [ih behind']

/-! ### How far apart matches are -/

/-- A match takes at least three characters of the text, and no host starts where it stops. -/
theorem MatchAt.stop_bounds {found : Match} (h : MatchAt cs i found) :
    found.start = i ∧ i + 3 ≤ found.stop ∧ found.stop ≤ cs.length ∧
      ¬ Has cs Char.isAlphanum found.stop := by
  obtain ⟨j, hj, hstart, -, hblock⟩ := h
  have hlong := hj.long
  have hlt := hj.alphanum.lt_length
  -- Behind the host and its dot there is no letter or digit, or the host would be longer.
  have hbehind : behindHost cs j ≤ cs.length ∧ ¬ Has cs Char.isAlphanum (behindHost cs j) := by
    rw [behindHost]
    split
    · rename_i hdot
      have hlt := (List.getElem?_eq_some_iff.1 hdot).1
      refine ⟨by omega, fun hhas => hj.last (j + 2) (by omega) (fun m hm hm' => ?_) hhas⟩
      by_cases hlast : m = j + 2
      · exact hlast ▸ hhas.imp fun _ => isHostChar_of_isAlphanum
      · by_cases hdotHere : m = j + 1
        · exact hdotHere ▸ ⟨'.', hdot, rfl⟩
        · exact hj.run m hm (by omega)
    · refine ⟨by omega, fun hhas => hj.last (j + 1) (by omega) (fun m hm hm' => ?_) hhas⟩
      by_cases hlast : m = j + 1
      · exact hlast ▸ hhas.imp fun _ => isHostChar_of_isAlphanum
      · exact hj.run m hm (by omega)
  have hle : j + 1 ≤ behindHost cs j := by
    rw [behindHost]
    split <;> omega
  refine ⟨hstart, ?_⟩
  generalize found.params = params at hblock
  generalize found.stop = stop at hblock
  cases hblock with
  | absent _ => exact ⟨by omega, hbehind⟩
  | given colon lt run maximal =>
    have hlast := (run (stop - 1) (by omega) (by omega)).lt_length
    refine ⟨by omega, by omega, fun hhas => maximal (hhas.imp fun c hc => ?_)⟩
    rw [isBlockChar, Text.isBlank_of_isAlphanum hc]
    rfl

/-- The first match of a scan does not start before the scan does. -/
theorem Scan.start_le {found : List Match} (h : Scan cs p found) :
    ∀ first ∈ found.head?, p ≤ first.start ∧ Has cs Char.isAlphanum first.start := by
  cases h with
  | done _ => rintro first ⟨⟩
  | next le _ here _ =>
    rintro first ⟨⟩
    obtain ⟨j, hj, rfl, -⟩ := here
    exact ⟨le, hj.first⟩

/-- Behind a match there is at least one character before the next one. -/
theorem Scan.stop_lt {found : Match} {others : List Match} (here : MatchAt cs i found)
    (h : Scan cs found.stop others) : ∀ next ∈ others.head?, found.stop < next.start := by
  intro next hnext
  obtain ⟨hle, hhas⟩ := h.start_le next hnext
  obtain ⟨-, -, -, hnone⟩ := here.stop_bounds
  refine Nat.lt_of_le_of_ne hle fun heq => ?_
  rw [heq] at hnone
  exact hnone hhas

/-- Matches take characters of the text, and do not touch. -/
theorem Scan.apart {found : List Match} (h : Scan cs p found) :
    (∀ m ∈ found, p ≤ m.start ∧ m.start + 3 ≤ m.stop ∧ m.stop ≤ cs.length) ∧
      found.Pairwise fun a b => a.stop < b.start := by
  induction h with
  | done _ => exact ⟨nofun, .nil⟩
  | @next p i m others le first here behind ih =>
    obtain ⟨hstart, hlong, hlen, -⟩ := here.stop_bounds
    obtain ⟨hall, hpairs⟩ := ih
    refine ⟨List.forall_mem_cons.2 ⟨by omega, fun other hother => ?_⟩,
      List.pairwise_cons.2 ⟨fun other hother => ?_, hpairs⟩⟩
    · obtain ⟨hle, hbounds⟩ := hall other hother
      exact ⟨by omega, hbounds⟩
    · -- The next match starts behind this one, and the others behind that.
      cases others with
      | nil => cases hother
      | cons next more =>
        have hnext : m.stop < next.start := Scan.stop_lt here behind next rfl
        cases List.mem_cons.1 hother with
        | inl heq => exact heq ▸ hnext
        | inr hmore =>
          have hlater := List.rel_of_pairwise_cons hpairs hmore
          have hbounds := hall next List.mem_cons_self
          omega

/-- A match and the character behind it are four at least, but for the last one. -/
theorem Scan.length_le {found : List Match} (h : Scan cs p found) :
    ∀ first ∈ found.head?, 4 * found.length + first.start ≤ cs.length + 1 := by
  induction h with
  | done _ => rintro first ⟨⟩
  | @next p i m others le first here behind ih =>
    obtain ⟨hstart, hlong, hlen, -⟩ := here.stop_bounds
    rintro first ⟨⟩
    cases others with
    | nil =>
      rw [List.length_singleton]
      omega
    | cons next more =>
      -- Three characters at least, and one between this match and the next.
      have hnext : m.stop < next.start := Scan.stop_lt here behind next rfl
      have hrest := ih next rfl
      rw [List.length_cons] at hrest ⊢
      rw [List.length_cons]
      omega

/-- On every text, the matches of the pattern are what the scan from its start finds, which always
ends, in one way only. They are the tokens that are read, one after another. They have at least
three characters, do not overlap, and are no more than a quarter of the characters and one. -/
theorem matchesIn_eq_scan (raw : String) :
    (∀ found, Scan raw.toList 0 found ↔ found = matchesIn raw.toList) ∧
      tokens raw.toList = (matchesIn raw.toList).map Match.token ∧
      parse raw.toList = Parse.concat ((matchesIn raw.toList).map fun m => m.token.read) ∧
      (∀ m ∈ matchesIn raw.toList, m.start + 3 ≤ m.stop ∧ m.stop ≤ raw.toList.length) ∧
      ((matchesIn raw.toList).Pairwise fun a b => a.stop < b.start) ∧
      (matchesIn raw.toList).length ≤ (raw.toList.length + 1) / 4 := by
  have hscan : Scan raw.toList 0 (matchesIn raw.toList) := scan_matchesFrom raw.toList 0
  have htokens : tokens raw.toList = (matchesIn raw.toList).map Match.token := by
    rw [tokens, ← map_findFrom 0 0]
    simp [matchesIn, Pattern.find]
  obtain ⟨hbounds, hpairs⟩ := hscan.apart
  refine ⟨fun found => ⟨fun h => h.unique hscan, fun h => h ▸ hscan⟩, htokens, ?_,
    fun m hm => (hbounds m hm).2, hpairs, ?_⟩
  · rw [parse, htokens, List.map_map]
    rfl
  · -- Each match has three characters at least and a gap behind it, but there need be none behind
    -- the last one.
    rw [Nat.le_div_iff_mul_le (by omega)]
    cases hfound : matchesIn raw.toList with
    | nil => simp
    | cons first others =>
      have hlen := hscan.length_le first (by rw [hfound]; rfl)
      rw [hfound] at hlen
      omega

/-- Runs that end in dots or hyphens, short runs, a colon with nothing behind it, and letters that
are not ASCII. -/
example : matchesIn "a.b-.. cd é.xyz.: q.r:http=1:x y--z.".toList =
    [⟨0, 3, "a.b".toList, none⟩, ⟨12, 16, "xyz".toList, none⟩,
      ⟨18, 30, "q.r".toList, some "http=1:x".toList⟩, ⟨31, 36, "y--z".toList, none⟩] := by
  decide +kernel

end RegistrySync.DomainSpec
