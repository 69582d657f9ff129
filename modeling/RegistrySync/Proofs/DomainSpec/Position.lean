/-
Hosts and parameters by their positions in a text.

The search walks along a text and looks at what is left of it. Here the same is said with the
positions of characters in the whole text.

* `Has`, `Run` — a character of a class at a position, and a run of them;
* `HostAt` — a host from one position to another: it ends at the last letter or digit of the run of
  host characters that starts with it;
* `hostAt_drop` — the positions of a host in what is left of a text;
* `hostAt_cons_iff` — a host by what stands behind its first character;
* `front?_eq_some_iff` — a token starts exactly where such a host does;
* `BlockAt`, `blockAt_iff` — the parameters behind a host.
-/
import RegistrySync.Proofs.DomainSpec.Scan

namespace RegistrySync.DomainSpec

variable {cs : List Char} {p : Char → Bool} {i j k n : Nat}

/-! ### Runs of characters -/

/-- There is a character of the class at a position. -/
def Has (cs : List Char) (p : Char → Bool) (k : Nat) : Prop := ∃ c, cs[k]? = some c ∧ p c = true

/-- All characters from a position on, up to another one, are there and of the class. -/
def Run (cs : List Char) (p : Char → Bool) (i k : Nat) : Prop := ∀ m, i ≤ m → m < k → Has cs p m

theorem Has.lt_length (h : Has cs p k) : k < cs.length := by
  obtain ⟨c, hc, -⟩ := h
  exact (List.getElem?_eq_some_iff.1 hc).1

theorem has_drop : Has (cs.drop i) p k ↔ Has cs p (i + k) := by
  simp [Has, List.getElem?_drop]

theorem has_zero_iff : Has cs p 0 ↔ cs.head?.any p = true := by
  cases cs with
  | nil => simp [Has]
  | cons c rest => simp [Has]

theorem Has.imp {q : Char → Bool} (h : Has cs p k) (hpq : ∀ c, p c = true → q c = true) :
    Has cs q k := by
  obtain ⟨c, hc, hp⟩ := h
  exact ⟨c, hc, hpq c hp⟩

/-- A run from the front is the first character and a run of the others. -/
theorem run_cons {c : Char} {rest : List Char} :
    Run (c :: rest) p 0 (n + 1) ↔ p c = true ∧ Run rest p 0 n := by
  constructor
  · intro h
    refine ⟨?_, fun m hm hlt => ?_⟩
    · obtain ⟨d, hd, hp⟩ := h 0 (Nat.le_refl 0) (Nat.succ_pos n)
      cases hd
      exact hp
    · exact h (m + 1) (Nat.zero_le _) (Nat.succ_lt_succ hlt)
  · rintro ⟨hc, hrest⟩ m hm hlt
    cases m with
    | zero => exact ⟨c, rfl, hc⟩
    | succ m => exact hrest m (Nat.zero_le _) (Nat.lt_of_succ_lt_succ hlt)

theorem run_zero_iff : Run cs p 0 n ↔ n ≤ (cs.takeWhile p).length := by
  induction cs generalizing n with
  | nil =>
    constructor
    · intro h
      by_contra hn
      rw [List.takeWhile_nil, List.length_nil] at hn
      obtain ⟨c, hc, -⟩ := h 0 (Nat.le_refl 0) (by omega)
      cases hc
    · intro hn m hm hlt
      rw [List.takeWhile_nil, List.length_nil] at hn
      omega
  | cons c rest ih =>
    cases n with
    | zero => exact ⟨fun _ => Nat.zero_le _, fun _ m hm hlt => by omega⟩
    | succ n =>
      rw [run_cons, ih, List.takeWhile_cons]
      by_cases hc : p c = true
      · simp [hc]
      · simp [hc]

theorem run_drop : Run (cs.drop i) p 0 n ↔ Run cs p i (i + n) := by
  constructor
  · intro h m hm hlt
    have hm' := has_drop.1 (h (m - i) (Nat.zero_le _) (by omega))
    rwa [Nat.add_sub_cancel' hm] at hm'
  · intro h m hm hlt
    exact has_drop.2 (h (i + m) (Nat.le_add_right i m) (by omega))

/-- A run in the middle of a text is one at the front of what is left there. -/
theorem run_iff : Run cs p i (i + n) ↔ n ≤ ((cs.drop i).takeWhile p).length := by
  rw [← run_drop, run_zero_iff]

/-- The whole run from a position on. -/
theorem length_takeWhile_eq_iff :
    ((cs.drop i).takeWhile p).length = n ↔ Run cs p i (i + n) ∧ ¬ Has cs p (i + n) := by
  constructor
  · rintro rfl
    refine ⟨run_iff.2 (Nat.le_refl _), fun h => ?_⟩
    -- With one more character it would be longer than it is.
    have hmore : Run cs p i (i + (((cs.drop i).takeWhile p).length + 1)) := by
      intro m hm hlt
      by_cases hlast : m = i + ((cs.drop i).takeWhile p).length
      · exact hlast ▸ h
      · exact run_iff.2 (Nat.le_refl _) m hm (by omega)
    have hle := run_iff.1 hmore
    omega
  · rintro ⟨hrun, hstop⟩
    have hle := run_iff.1 hrun
    refine Nat.le_antisymm ?_ hle
    by_contra hlt
    have hmore : Run cs p i (i + (n + 1)) := run_iff.2 (by omega)
    exact hstop (hmore (i + n) (by omega) (by omega))

/-! ### Hosts -/

/-- The last letter or digit of the run of host characters that starts at a position. -/
structure LastOfRun (cs : List Char) (i j : Nat) : Prop where
  le : i ≤ j
  run : Run cs isHostChar i (j + 1)
  alphanum : Has cs Char.isAlphanum j
  last : ∀ k, j < k → Run cs isHostChar i (k + 1) → ¬ Has cs Char.isAlphanum k

/-- A host from one position to another: it starts with a letter or digit, ends with the last one of
its run, and has a character between these two. -/
structure HostAt (cs : List Char) (i j : Nat) : Prop extends LastOfRun cs i j where
  first : Has cs Char.isAlphanum i
  long : i + 2 ≤ j

theorem LastOfRun.unique (hj : LastOfRun cs i j) (hk : LastOfRun cs i k) : j = k := by
  rcases Nat.lt_trichotomy j k with hlt | heq | hgt
  · exact absurd hk.alphanum (hj.last k hlt hk.run)
  · exact heq
  · exact absurd hj.alphanum (hk.last j hgt hj.run)

theorem lastOfRun_drop : LastOfRun (cs.drop i) 0 j ↔ LastOfRun cs i (i + j) := by
  constructor
  · intro h
    refine ⟨Nat.le_add_right i j, run_drop.1 h.run, has_drop.1 h.alphanum, ?_⟩
    intro k hk hrun hhas
    obtain ⟨n, rfl⟩ := Nat.exists_eq_add_of_le (show i ≤ k by omega)
    exact h.last n (by omega) (run_drop.2 hrun) (has_drop.2 hhas)
  · intro h
    refine ⟨Nat.zero_le j, run_drop.2 h.run, has_drop.2 h.alphanum, ?_⟩
    intro k hk hrun hhas
    exact h.last (i + k) (by omega) (run_drop.1 hrun) (has_drop.1 hhas)

theorem hostAt_drop : HostAt (cs.drop i) 0 j ↔ HostAt cs i (i + j) := by
  constructor
  · intro h
    have hlong := h.long
    exact ⟨lastOfRun_drop.1 h.toLastOfRun, has_drop.1 h.first, by omega⟩
  · intro h
    have hlong := h.long
    exact ⟨lastOfRun_drop.2 h.toLastOfRun, has_drop.2 h.first, by omega⟩

/-- A host behind its first character: the host characters that follow can be taken up to a letter
or digit, and not up to a later one. -/
theorem hostAt_cons_iff {c : Char} {rest : List Char} :
    HostAt (c :: rest) 0 (n + 2) ↔
      c.isAlphanum = true ∧ n < (rest.takeWhile isHostChar).length ∧
        Has rest Char.isAlphanum (n + 1) ∧
        ∀ larger, n < larger → larger < (rest.takeWhile isHostChar).length →
          ¬ Has rest Char.isAlphanum (larger + 1) := by
  -- A letter or digit behind a run of host characters goes on with the run.
  have hgrow : ∀ m, m ≤ (rest.takeWhile isHostChar).length → Has rest Char.isAlphanum m →
      Run rest isHostChar 0 (m + 1) := by
    intro m hm hhas l hl hlt
    by_cases hlast : l = m
    · exact hlast ▸ hhas.imp fun _ => isHostChar_of_isAlphanum
    · exact run_zero_iff.2 hm l hl (by omega)
  constructor
  · intro h
    obtain ⟨d, hd, hc⟩ := h.first
    cases hd
    have hrun := run_zero_iff.1 (run_cons.1 h.run).2
    refine ⟨hc, by omega, h.alphanum, fun larger hlarger hlt hhas => ?_⟩
    have hlonger := hgrow (larger + 1) (by omega) hhas
    exact h.last (larger + 2) (by omega) (run_cons.2 ⟨isHostChar_of_isAlphanum hc, hlonger⟩) hhas
  · rintro ⟨hc, hn, halpha, hnone⟩
    have hrun := run_cons.2 ⟨isHostChar_of_isAlphanum hc, hgrow (n + 1) (by omega) halpha⟩
    refine ⟨⟨Nat.zero_le _, hrun, halpha, fun k hk hlonger hhas => ?_⟩, ⟨c, rfl, hc⟩, by omega⟩
    obtain ⟨larger, rfl⟩ := Nat.exists_eq_add_of_le' (show 2 ≤ k by omega)
    have hle := run_zero_iff.1 (run_cons.1 hlonger).2
    exact hnone larger (by omega) (by omega) hhas

/-- Behind the stretch that ends in a letter or digit, the run has no more of them. -/
theorem takeWhile_eq_hostStretch_append (cs : List Char) :
    ∃ tail, cs.takeWhile isHostChar = hostStretch cs ++ tail ∧
      ∀ c ∈ tail, c.isAlphanum = false := by
  refine ⟨((cs.takeWhile isHostChar).reverse.takeWhile fun c => !c.isAlphanum).reverse, ?_, ?_⟩
  · rw [hostStretch, ← List.reverse_append, List.takeWhile_append_dropWhile, List.reverse_reverse]
  · intro c hc
    simpa using List.mem_takeWhile_imp (List.mem_reverse.1 hc)

/-- The stretch ends at the last letter or digit of its run. -/
theorem lastOfRun_of_length (h : (hostStretch cs).length = j + 1) : LastOfRun cs 0 j := by
  obtain ⟨tail, htail, hnone⟩ := takeWhile_eq_hostStretch_append cs
  have hlen := congrArg List.length htail
  rw [List.length_append] at hlen
  -- The stretch and the run are at the front of the text, so they have the same characters.
  have hsame : ∀ (k : Nat) (c : Char),
      (cs.takeWhile isHostChar)[k]? = some c → cs[k]? = some c := by
    intro k c hc
    obtain ⟨behind, hbehind⟩ := List.takeWhile_prefix (l := cs) isHostChar
    have hlt := (List.getElem?_eq_some_iff.1 hc).1
    rw [← hbehind, List.getElem?_append_left hlt, hc]
  have hne : hostStretch cs ≠ [] := by
    intro hnil
    rw [hnil] at h
    cases h
  refine ⟨Nat.zero_le j, run_zero_iff.2 (by omega), ?_, ?_⟩
  · refine ⟨(hostStretch cs).getLast hne, hsame j _ ?_, isAlphanum_getLast_hostStretch hne⟩
    rw [htail, List.getElem?_append_left (by omega), ← List.getLast?_eq_some_getLast hne,
      List.getLast?_eq_getElem?, h, Nat.add_sub_cancel]
  · rintro k hk hrun ⟨c, hc, halpha⟩
    have hlt : k < (cs.takeWhile isHostChar).length := run_zero_iff.1 hrun
    obtain ⟨d, hd⟩ : ∃ d, (cs.takeWhile isHostChar)[k]? = some d :=
      ⟨_, List.getElem?_eq_some_iff.2 ⟨hlt, rfl⟩⟩
    have hcd : c = d := Option.some.inj (hc.symm.trans (hsame k d hd))
    rw [htail, List.getElem?_append_right (by omega)] at hd
    rw [hcd, hnone d (List.mem_of_getElem? hd)] at halpha
    cases halpha

theorem lastOfRun_iff : LastOfRun cs 0 j ↔ (hostStretch cs).length = j + 1 := by
  refine ⟨fun h => ?_, lastOfRun_of_length⟩
  cases hlen : (hostStretch cs).length with
  | succ n => rw [LastOfRun.unique h (lastOfRun_of_length hlen)]
  | zero =>
    -- A run without a stretch has no letter or digit.
    obtain ⟨tail, htail, hnone⟩ := takeWhile_eq_hostStretch_append cs
    rw [List.length_eq_zero_iff.1 hlen, List.nil_append] at htail
    obtain ⟨c, hc, halpha⟩ := h.alphanum
    have hrun : j < tail.length := htail ▸ run_zero_iff.1 h.run
    obtain ⟨behind, hbehind⟩ := List.takeWhile_prefix (l := cs) isHostChar
    rw [← hbehind, htail, List.getElem?_append_left hrun] at hc
    rw [hnone c (List.mem_of_getElem? hc)] at halpha
    cases halpha

/-- A token starts exactly where a host does. -/
theorem front?_eq_some_iff {token : Token} :
    Token.front? cs = some token ↔
      ∃ j, HostAt cs 0 j ∧ token = Token.ofHost (cs.take (j + 1)) cs := by
  -- The stretch is at the front of the text, so that its length says which characters it has.
  have htake : hostStretch cs = cs.take (hostStretch cs).length := by
    have hstretch := hostStretch_prefix cs
    exact List.prefix_iff_eq_take.1 (hstretch.trans (List.takeWhile_prefix _))
  constructor
  · intro h
    rw [Token.front?] at h
    split at h
    · rename_i hf
      simp only at h
      split at h
      · rename_i hlong
        obtain ⟨j, hj⟩ := Nat.exists_eq_add_of_le' (show 1 ≤ (hostStretch cs).length by omega)
        refine ⟨j, ⟨lastOfRun_iff.2 hj, has_zero_iff.2 hf, by omega⟩, ?_⟩
        rw [← hj, ← htake]
        exact (Option.some.inj h).symm
      · cases h
    · cases h
  · rintro ⟨j, hj, rfl⟩
    have hlen := lastOfRun_iff.1 hj.toLastOfRun
    have hlong : 3 ≤ (hostStretch cs).length := by
      have := hj.long
      omega
    rw [Token.front?, if_pos (has_zero_iff.1 hj.first)]
    simp only
    rw [if_pos hlong, ← hlen, ← htake]

theorem front?_eq_none_iff : Token.front? cs = none ↔ ∀ j, ¬ HostAt cs 0 j := by
  constructor
  · intro h j hj
    rw [front?_eq_some_iff.2 ⟨j, hj, rfl⟩] at h
    cases h
  · intro h
    cases hf : Token.front? cs with
    | none => rfl
    | some token =>
      obtain ⟨j, hj, -⟩ := front?_eq_some_iff.1 hf
      exact absurd hj (h j)

/-! ### Parameters -/

/-- The characters that parameters consist of. -/
def isBlockChar (c : Char) : Bool := !Text.isBlank c

/-- The parameters at a position, and the position behind them: all characters up to the next blank,
behind a colon with a character that is no blank; else none, and the colon is left. -/
inductive BlockAt (cs : List Char) (k : Nat) : Option (List Char) → Nat → Prop
  | absent (h : ¬ (cs[k]? = some ':' ∧ Has cs isBlockChar (k + 1))) : BlockAt cs k none k
  | given {stop : Nat} (colon : cs[k]? = some ':') (lt : k + 1 < stop)
      (run : Run cs isBlockChar (k + 1) stop) (maximal : ¬ Has cs isBlockChar stop) :
      BlockAt cs k (some (cs.extract (k + 1) stop)) stop

/-- How many characters parameters take, with the colon in front of them. -/
def blockWidth : Option (List Char) → Nat
  | some block => 1 + block.length
  | none => 0

theorem drop_eq_cons {c : Char} (h : cs[k]? = some c) : cs.drop k = c :: cs.drop (k + 1) := by
  obtain ⟨hk, rfl⟩ := List.getElem?_eq_some_iff.1 h
  exact List.drop_eq_getElem_cons hk

theorem length_block_pos_iff :
    0 < ((cs.drop k).takeWhile isBlockChar).length ↔ Has cs isBlockChar k := by
  constructor
  · intro h
    exact run_iff.2 h k (Nat.le_refl k) (by omega)
  · intro h
    by_contra hzero
    exact (length_takeWhile_eq_iff.1 (Nat.eq_zero_of_not_pos hzero)).2 h

theorem paramBlock_of_colon (hc : cs[k]? = some ':') (h : Has cs isBlockChar (k + 1)) :
    paramBlock (cs.drop k) = some ((cs.drop (k + 1)).takeWhile isBlockChar) := by
  have hne : ((cs.drop (k + 1)).takeWhile isBlockChar).isEmpty = false := by
    rw [List.isEmpty_eq_false_iff, ← List.length_pos_iff]
    exact length_block_pos_iff.2 h
  rw [drop_eq_cons hc]
  exact if_neg (by rw [Bool.not_eq_true]; exact hne)

theorem paramBlock_of_not (h : ¬ (cs[k]? = some ':' ∧ Has cs isBlockChar (k + 1))) :
    paramBlock (cs.drop k) = none := by
  cases hd : cs.drop k with
  | nil => rfl
  | cons c rest =>
    have hck : cs[k]? = some c := by
      have hhead := congrArg List.head? hd
      rwa [List.head?_drop] at hhead
    by_cases hc : c = ':'
    · subst hc
      -- Behind the colon there is a blank, or nothing.
      have hnone : ¬ 0 < ((cs.drop (k + 1)).takeWhile isBlockChar).length := fun hpos =>
        h ⟨hck, length_block_pos_iff.1 hpos⟩
      rw [drop_eq_cons hck] at hd
      rw [← (List.cons.inj hd).2]
      exact if_pos (List.isEmpty_iff.2 (List.length_eq_zero_iff.1 (Nat.eq_zero_of_not_pos hnone)))
    · simp [paramBlock, hc]

theorem blockAt_iff {params : Option (List Char)} {stop : Nat} :
    BlockAt cs k params stop ↔
      paramBlock (cs.drop k) = params ∧ stop = k + blockWidth params := by
  constructor
  · rintro (h | ⟨hc, hlt, hrun, hstop⟩)
    · exact ⟨paramBlock_of_not h, rfl⟩
    · -- The block is the longest run behind the colon, so its end is given by its length.
      obtain ⟨n, rfl⟩ := Nat.exists_eq_add_of_le (Nat.le_of_lt hlt)
      have hlen := length_takeWhile_eq_iff.2 ⟨hrun, hstop⟩
      have hblock : cs.extract (k + 1) (k + 1 + n) = (cs.drop (k + 1)).takeWhile isBlockChar := by
        rw [List.extract_eq_take_drop, Nat.add_sub_cancel_left, ← hlen]
        exact (List.prefix_iff_eq_take.1 (List.takeWhile_prefix _)).symm
      rw [hblock, blockWidth, hlen]
      exact ⟨paramBlock_of_colon hc (hrun (k + 1) (Nat.le_refl _) hlt), by omega⟩
  · rintro ⟨rfl, rfl⟩
    by_cases h : cs[k]? = some ':' ∧ Has cs isBlockChar (k + 1)
    · have hlen := length_takeWhile_eq_iff.1
        (rfl : _ = ((cs.drop (k + 1)).takeWhile isBlockChar).length)
      have hpos := length_block_pos_iff.2 h.2
      have hgiven := BlockAt.given h.1 (by omega) hlen.1 hlen.2
      rw [List.extract_eq_take_drop, Nat.add_sub_cancel_left,
        ← List.prefix_iff_eq_take.1 (List.takeWhile_prefix _), Nat.add_assoc] at hgiven
      rw [paramBlock_of_colon h.1 h.2]
      exact hgiven
    · rw [paramBlock_of_not h]
      exact .absent h

/-! ### Tokens -/

theorem ofHost_eq (host cs : List Char) :
    Token.ofHost host cs =
      ⟨host, paramBlock (cs.drop (host.length + dotWidth (cs.drop host.length))),
        host.length + dotWidth (cs.drop host.length) +
          blockWidth (paramBlock (cs.drop (host.length + dotWidth (cs.drop host.length))))⟩ := by
  rw [Token.ofHost]
  simp only [List.drop_drop]
  split
  · rename_i block hblock
    simp [hblock, blockWidth, Nat.add_assoc]
  · rename_i hblock
    simp [hblock, blockWidth]

theorem dotWidth_drop (cs : List Char) (k : Nat) :
    dotWidth (cs.drop k) = if cs[k]? = some '.' then 1 else 0 := by
  rw [← List.head?_drop]
  cases cs.drop k with
  | nil => rfl
  | cons c rest =>
    by_cases hc : c = '.'
    · subst hc
      rfl
    · simp [dotWidth, hc]

end RegistrySync.DomainSpec
