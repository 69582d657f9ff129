/-
The search for tokens: what a host is, and where the search finds one.

* `IsHost` — a letter or digit, at least one host character, and a letter or digit again;
* `hostStretch_append` — the stretch that starts with a host ends where the host ends, if no
  host character follows;
* `isHost_of_mem_tokens` — the search finds nothing but hosts;
* `tokens_host_block` — a host, a colon and a block without blanks are one token.
-/
import RegistrySync.DomainSpec.Token
import RegistrySync.Proofs.Text.Blank
import Mathlib.Data.List.TakeWhile

namespace RegistrySync.DomainSpec

/-- A host: a letter or digit, then at least one host character, then a letter or digit. -/
def IsHost (cs : List Char) : Prop :=
  ∃ first middle last, cs = first :: (middle ++ [last]) ∧ first.isAlphanum = true ∧
    middle ≠ [] ∧ (∀ c ∈ middle, isHostChar c = true) ∧ last.isAlphanum = true

theorem isHostChar_of_isAlphanum {c : Char} (h : c.isAlphanum = true) : isHostChar c = true := by
  simp [isHostChar, h]

/-! ### Hosts -/

theorem IsHost.forall_isHostChar {host : List Char} (h : IsHost host) :
    ∀ c ∈ host, isHostChar c = true := by
  obtain ⟨first, middle, last, rfl, hf, -, hm, hl⟩ := h
  rw [List.forall_mem_cons, List.forall_mem_append, List.forall_mem_singleton]
  exact ⟨isHostChar_of_isAlphanum hf, hm, isHostChar_of_isAlphanum hl⟩

theorem IsHost.three_le_length {host : List Char} (h : IsHost host) : 3 ≤ host.length := by
  obtain ⟨first, middle, last, rfl, -, hne, -, -⟩ := h
  have hpos : 0 < middle.length := List.length_pos_iff.2 hne
  simp only [List.length_cons, List.length_append, List.length_nil]
  omega

/-- No dot stands at the end of a host. -/
theorem IsHost.getLast?_ne_dot {host : List Char} (h : IsHost host) : host.getLast? ≠ some '.' := by
  obtain ⟨first, middle, last, rfl, -, -, -, hlast⟩ := h
  rw [← List.cons_append, List.getLast?_concat]
  rintro ⟨⟩
  cases hlast

/-- The stretch that starts with a host is the host, if no host character follows it. -/
theorem hostStretch_append {host rest : List Char} (h : IsHost host)
    (hr : ∀ c ∈ rest.head?, isHostChar c = false) : hostStretch (host ++ rest) = host := by
  have htake : (host ++ rest).takeWhile isHostChar = host := by
    rw [List.takeWhile_append_of_pos h.forall_isHostChar]
    cases rest with
    | nil => simp
    | cons c more => simp [hr c rfl]
  obtain ⟨first, middle, last, rfl, -, -, -, hl⟩ := h
  rw [hostStretch, htake]
  simp [hl]

theorem hostStretch_prefix (cs : List Char) : hostStretch cs <+: cs.takeWhile isHostChar := by
  rw [hostStretch, ← List.reverse_suffix, List.reverse_reverse]
  exact List.dropWhile_suffix _

/-- A stretch is empty, or it ends in a letter or digit. -/
theorem isAlphanum_getLast_hostStretch {cs : List Char} (h : hostStretch cs ≠ []) :
    ((hostStretch cs).getLast h).isAlphanum = true := by
  have hlast := List.head?_dropWhile_not (fun c : Char => !c.isAlphanum)
    (cs.takeWhile isHostChar).reverse
  rw [← List.getLast?_reverse, ← hostStretch, List.getLast?_eq_some_getLast h] at hlast
  simpa using hlast

/-- A stretch of three characters that starts with a letter or digit is a host. -/
theorem isHost_hostStretch {cs : List Char} (hf : cs.head?.any Char.isAlphanum = true)
    (hw : 3 ≤ (hostStretch cs).length) : IsHost (hostStretch cs) := by
  have hne : hostStretch cs ≠ [] := by
    rw [← List.length_pos_iff]
    omega
  have hlast := isAlphanum_getLast_hostStretch hne
  have hpre := hostStretch_prefix cs
  have hall : ∀ c ∈ hostStretch cs, isHostChar c = true := fun c hc =>
    List.mem_takeWhile_imp (hpre.subset hc)
  -- The stretch is a front part of the text, so both start with the same character.
  obtain ⟨tail, htail⟩ := hpre.trans (List.takeWhile_prefix _)
  cases hs : hostStretch cs with
  | nil => exact absurd hs hne
  | cons first others =>
    have hothers : others ≠ [] := by
      rintro rfl
      simp [hs] at hw
    have hfirst : first.isAlphanum = true := by
      rw [← htail, hs] at hf
      simpa using hf
    refine ⟨first, others.dropLast, others.getLast hothers, ?_, hfirst, ?_, ?_, ?_⟩
    · rw [List.dropLast_concat_getLast]
    · intro hd
      have hlen := congrArg List.length hd
      rw [List.length_dropLast, List.length_nil] at hlen
      rw [hs, List.length_cons] at hw
      omega
    · intro c hc
      exact hall c (by rw [hs]; exact List.mem_cons_of_mem _ (List.dropLast_subset _ hc))
    · simpa only [hs, List.getLast_cons hothers] using hlast

/-! ### Tokens -/

@[simp] theorem host_ofHost (host cs : List Char) : (Token.ofHost host cs).host = host := by
  unfold Token.ofHost
  simp only
  split <;> rfl

/-- The search starts a token at nothing but a host. -/
theorem isHost_of_front? {cs : List Char} {token : Token} (h : Token.front? cs = some token) :
    IsHost token.host := by
  simp only [Token.front?] at h
  split at h
  · rename_i hf
    split at h
    · rename_i hw
      rw [← Option.some.inj h, host_ofHost]
      exact isHost_hostStretch hf hw
    · cases h
  · cases h

/-- The search goes on behind the token that it has found. -/
theorem tokens_of_front {cs : List Char} {token : Token} (h : Token.front? cs = some token) :
    tokens cs = token :: tokens (cs.drop token.width) := by
  cases cs with
  | nil => simp [Token.front?] at h
  | cons c rest =>
    obtain ⟨width, hwidth⟩ := Nat.exists_eq_add_one.2 (Token.width_pos h)
    rw [tokens, tokensFrom, h]
    simp only [hwidth, Nat.add_sub_cancel, List.drop_succ_cons, tokensFrom_drop]

/-- A blank is passed over. -/
theorem tokens_blank {c : Char} (h : Text.isBlank c = true) (rest : List Char) :
    tokens (c :: rest) = tokens rest := by
  rw [tokens, tokensFrom, Token.front?]
  simp [Text.isAlphanum_of_isBlank h, tokens]

/-- Whatever the search finds starts somewhere in the text. -/
theorem exists_front_of_mem_tokens {cs : List Char} {token : Token} (h : token ∈ tokens cs) :
    ∃ rest, Token.front? rest = some token := by
  -- The search walks on while characters are passed over, so the induction is for any number
  -- of them.
  suffices hall : ∀ skip, token ∈ tokensFrom skip cs → ∃ rest, Token.front? rest = some token from
    hall 0 h
  clear h
  induction cs with
  | nil =>
    intro skip hm
    cases skip <;> simp [tokensFrom] at hm
  | cons c rest ih =>
    intro skip hm
    cases skip with
    | succ skip => exact ih skip hm
    | zero =>
      rw [tokensFrom] at hm
      split at hm
      · rename_i found hfound
        cases List.mem_cons.1 hm with
        | inl heq => exact ⟨c :: rest, heq ▸ hfound⟩
        | inr hm => exact ih _ hm
      · exact ih 0 hm

/-- The search finds nothing but hosts. -/
theorem isHost_of_mem_tokens {cs : List Char} {token : Token} (h : token ∈ tokens cs) :
    IsHost token.host := by
  obtain ⟨rest, hfront⟩ := exists_front_of_mem_tokens h
  exact isHost_of_front? hfront

theorem paramBlock_append {block rest : List Char} (hne : block ≠ [])
    (hb : ∀ c ∈ block, Text.isBlank c = false) (hr : ∀ c ∈ rest.head?, Text.isBlank c = true) :
    paramBlock (':' :: (block ++ rest)) = some block := by
  have htake : (block ++ rest).takeWhile (!Text.isBlank ·) = block := by
    rw [List.takeWhile_append_of_pos (by simpa using hb)]
    cases rest with
    | nil => simp
    | cons c more => simp [hr c rfl]
  rw [paramBlock, htake]
  simp [hne]

/-- A host, a colon and a block without blanks, up to the next blank, are one token. -/
theorem tokens_host_block {host block rest : List Char} (hh : IsHost host) (hne : block ≠ [])
    (hb : ∀ c ∈ block, Text.isBlank c = false) (hr : ∀ c ∈ rest.head?, Text.isBlank c = true) :
    tokens (host ++ ':' :: (block ++ rest)) =
      ⟨host, some block, host.length + 1 + block.length⟩ :: tokens rest := by
  -- A colon is no host character, so the host ends there and is not followed by a dot.
  have hstretch : hostStretch (host ++ ':' :: (block ++ rest)) = host := by
    refine hostStretch_append hh ?_
    rintro c ⟨⟩
    decide
  have hfront : Token.front? (host ++ ':' :: (block ++ rest)) =
      some ⟨host, some block, host.length + 1 + block.length⟩ := by
    have hlen := hh.three_le_length
    have hhead : (host ++ ':' :: (block ++ rest)).head?.any Char.isAlphanum = true := by
      obtain ⟨first, middle, last, rfl, hf, -⟩ := hh
      simpa using hf
    rw [Token.front?, if_pos hhead, hstretch]
    simp [hlen, Token.ofHost, dotWidth, paramBlock_append hne hb hr]
  rw [tokens_of_front hfront]
  simp [Nat.add_assoc, Nat.add_comm 1, ← List.drop_drop]

end RegistrySync.DomainSpec
