/-
Where the specs of a text come from.

* `exists_read_specs`, `exists_taken` — the specs of a text are those that its tokens mean, up to
  the first fault;
* `tokens_drop` — tokens are those of matches, from any position on;
* `Scan.matchAt` — every match of a scan starts where it says;
* `MatchAt.host_taken` — its host is a piece of the text, and ends before the match does;
* `TakenFrom`, `MatchAt.takenFrom` — a spec whose domain stands at a position of a text, and what
  holds of every spec that a match means;
* `parseAll_specs_taken` — the specs of every text, in the order of their domains there.
-/
import RegistrySync.Proofs.DomainSpec.FirstFault
import RegistrySync.Proofs.DomainSpec.RoundTrip
import RegistrySync.Proofs.DomainSpec.Search

namespace RegistrySync.DomainSpec

variable {cs : List Char} {i p : Nat}

/-! ### Tokens -/

/-- The specs of a text are those that its tokens mean: all of them if nothing is at fault, else
those in front of the one at fault. They are well-formed. -/
theorem exists_read_specs (cs : List Char) :
    ∃ read unread, tokens cs = read ++ unread ∧ (parse cs).specs = read.map Token.spec ∧
      ((parse cs).stop = none → unread = []) ∧ ∀ token ∈ read, token.spec.WellFormed := by
  obtain ⟨read, unread, hparts, hspecs, hstop⟩ : ∃ read unread, tokens cs = read ++ unread ∧
      (parse cs).specs = read.map Token.spec ∧ ((parse cs).stop = none → unread = []) := by
    -- Up to the first token with a parameter that is not valid, every token has been read.
    by_cases hall : ∀ token ∈ tokens cs, ∀ param ∈ token.written, param.Valid
    · refine ⟨tokens cs, [], (List.append_nil _).symm, ?_, fun _ => rfl⟩
      rw [parse, concat_read (fun _ => id) hall]
    · obtain ⟨before, token, after, hfound, hbefore, htoken⟩ := exists_first_of_not_forall hall
      obtain ⟨earlier, param, later, hw, hearlier, hparam⟩ := exists_first_of_not_forall htoken
      obtain ⟨text, fault, -, -, hparse⟩ := parse_of_first_fault hfound hbefore hw hearlier hparam
      refine ⟨before, token :: after, hfound, by rw [hparse], fun hnone => ?_⟩
      rw [hparse] at hnone
      cases hnone
  refine ⟨read, unread, hparts, hspecs, hstop, fun token htoken => ?_⟩
  have hmem : token.spec ∈ (parse cs).specs := hspecs ▸ List.mem_map_of_mem htoken
  exact wellFormed_of_mem_parse hmem

/-- The same for whatever the tokens of a text are told by. -/
theorem exists_taken {α : Type} {found : List α} {token : α → Token}
    (h : tokens cs = found.map token) :
    ∃ taken, taken <+: found ∧ ((parse cs).stop = none → taken = found) ∧
      (parse cs).specs = taken.map (fun one => (token one).spec) ∧
      ∀ one ∈ taken, (token one).spec.WellFormed := by
  obtain ⟨readTokens, unreadTokens, hparts, hspecs, hstop, hwell⟩ := exists_read_specs cs
  obtain ⟨taken, untaken, rfl, rfl, rfl⟩ := List.map_eq_append_iff.1 (h.symm.trans hparts)
  refine ⟨taken, List.prefix_append _ _, fun hnone => ?_, ?_, fun one hone => ?_⟩
  · rw [List.map_eq_nil_iff.1 (hstop hnone), List.append_nil]
  · rw [hspecs, List.map_map]
    rfl
  · exact hwell _ (List.mem_map_of_mem hone)

/-- The spec that a token means is for its host. -/
theorem domain_spec (token : Token) : token.spec.domain.toList = token.host := by
  unfold Token.spec
  split
  · exact String.toList_ofList
  · exact String.toList_ofList

/-! ### Matches -/

/-- The tokens of what is left of a text are those of the matches from there on. -/
theorem tokens_drop (cs : List Char) (p : Nat) :
    tokens (cs.drop p) = (matchesFrom cs p).map Match.token := by
  rw [tokens, ← map_findFrom p 0, matchesFrom, List.map_map]
  exact List.map_congr_left fun _ _ => (token_ofToken _ _).symm

/-- Every match of a scan starts where it says. -/
theorem Scan.matchAt {found : List Match} (h : Scan cs p found) :
    ∀ m ∈ found, MatchAt cs m.start m := by
  induction h with
  | done _ => exact nofun
  | @next p i m others le first here behind ih =>
    have hstart : m.start = i := here.stop_bounds.1
    exact List.forall_mem_cons.2 ⟨hstart.symm ▸ here, ih⟩

/-- The host of a match is a piece of the text, and ends before the match does. -/
theorem MatchAt.host_taken {found : Match} (h : MatchAt cs i found) :
    cs.extract i (i + found.host.length) = found.host ∧ i + found.host.length ≤ found.stop := by
  obtain ⟨j, hj, -, hhost, hblock⟩ := h
  have hlt := hj.alphanum.lt_length
  have hle := hj.le
  have hlen : i + found.host.length = j + 1 := by
    rw [hhost, List.extract_eq_take_drop, List.length_take, List.length_drop]
    omega
  refine ⟨by rw [hlen, hhost], ?_⟩
  obtain ⟨-, hstop⟩ := blockAt_iff.1 hblock
  have hbehind : j + 1 ≤ behindHost cs j := by
    rw [behindHost]
    split <;> omega
  omega

/-! ### Specs -/

/-- A spec that comes from a position of a text: its domain is a host and stands there, and does not
end in a dot; its ports are in range, and it has at least one; its id is as long as the domain, and
has only letters, digits and underscores. -/
structure TakenFrom (cs : List Char) (start : Nat) (spec : DomainSpec) : Prop
    extends WellFormed spec where
  there : cs.extract start (start + spec.domain.toList.length) = spec.domain.toList
  noDot : spec.domain.toList.getLast? ≠ some '.'
  idLength : spec.recordId.toList.length = spec.domain.toList.length
  idNotEmpty : spec.recordId ≠ ""
  idChars : ∀ c ∈ spec.recordId.toList, isIdChar c = true

/-- A well-formed spec that a match means comes from where the match starts. -/
theorem MatchAt.takenFrom {found : Match} (h : MatchAt cs i found)
    (hspec : found.token.spec.WellFormed) : TakenFrom cs i found.token.spec := by
  have hthere : cs.extract i (i + found.token.spec.domain.toList.length) =
      found.token.spec.domain.toList := by
    rw [domain_spec]
    exact h.host_taken.1
  exact ⟨hspec, hthere, hspec.host.getLast?_ne_dot, length_recordId _, hspec.recordId_ne_empty,
    fun _ => isIdChar_of_mem_recordId⟩

/-- What was read is kept, also by a fault. -/
theorem Parse.result_cases (reading : Parse) :
    reading.result = .ok reading.specs ∨
      ∃ fault, reading.result = .error fault ∧ fault.specs = reading.specs := by
  cases hstop : reading.stop with
  | none => exact Or.inl (by rw [result, hstop])
  | some stop => exact Or.inr ⟨.ofStop reading.specs stop, by rw [result, hstop], rfl⟩

/-- Whether or not a fault ends the reading of a text, the specs that it adds to those that were
there before, and that a fault carries along, are what the matches of the text mean, all of them
if there is no fault. The domain of each stands in the text where its match starts, and ends
before that of the next one. -/
theorem parseAll_specs_taken (raw : String) (initial : List DomainSpec) :
    let outcome := parseAll raw initial
    ∃ taken, taken <+: matchesIn raw.toList ∧
      (outcome.stop = none → taken = matchesIn raw.toList) ∧
      outcome.specs = initial ++ taken.map (fun m => m.token.spec) ∧
      (outcome.result = .ok outcome.specs ∨
        ∃ fault, outcome.result = .error fault ∧ fault.specs = outcome.specs) ∧
      (∀ m ∈ taken, TakenFrom raw.toList m.start m.token.spec) ∧
      taken.Pairwise fun a b => a.start + a.token.spec.domain.toList.length < b.start := by
  intro outcome
  have hscan : Scan raw.toList 0 (matchesIn raw.toList) := scan_matchesFrom raw.toList 0
  have htokens : tokens raw.toList = (matchesIn raw.toList).map Match.token :=
    tokens_drop raw.toList 0
  obtain ⟨taken, hfront, hstop, hspecs, hwell⟩ := exists_taken htokens
  have hat : ∀ m ∈ taken, MatchAt raw.toList m.start m := fun m hm =>
    hscan.matchAt m (hfront.subset hm)
  refine ⟨taken, hfront, hstop, congrArg (initial ++ ·) hspecs, Parse.result_cases _,
    fun m hm => (hat m hm).takenFrom (hwell m hm), ?_⟩
  -- A host ends before its match does, and the matches are apart.
  have hapart : taken.Pairwise fun a b => a.stop < b.start := hscan.apart.2.sublist hfront.sublist
  refine hapart.imp_of_mem fun {a b} ha _ hlt => ?_
  obtain ⟨-, hend⟩ := (hat a ha).host_taken
  rw [domain_spec]
  exact Nat.lt_of_le_of_lt hend hlt

end RegistrySync.DomainSpec
