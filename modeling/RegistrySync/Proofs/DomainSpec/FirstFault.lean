/-
What the parameters of a text mean, and the first one that cannot be read.

* `lastPort?`, `Token.spec` — the port of a protocol is that of its last parameter; without any,
  both protocols have their default ports;
* `Token.unknown` — the parameters of a token that are not recognised;
* `readParams_append` — valid parameters set their ports, and the reading goes on behind them;
* `exists_first_of_not_forall` — the first of a list that has not a property;
* `stop_read_eq_none_iff` — the tokens that do not stop the reading;
* `concat_read` — tokens whose parameters are all valid are read as their specs;
* `read_of_first_fault`, `parse_of_first_fault` — a token with a first fault, and a text with one;
* `parseAll_until_first_fault` — every text is one or the other.
-/
import RegistrySync.Fault
import RegistrySync.Proofs.DomainSpec.Concatenation
import RegistrySync.Proofs.DomainSpec.Written

namespace RegistrySync.DomainSpec

variable {params earlier later : List Param} {param : Param} {cs : List Char}

/-! ### What parameters mean -/

/-- The port that the last parameter for a protocol gives to it. -/
def lastPort? (params : List Param) (protocol : Protocol) : Option Int :=
  (params.filter (·.key = protocol.word)).getLast?.map (·.given protocol)

/-- The keys that are not recognised, in order. -/
def unknownKeys (params : List Param) : List String :=
  (params.filter (¬ ·.Recognised)).map (·.key)

/-- The parameters for a domain that are not recognised, in order. -/
def unknownFor (domain : String) (params : List Param) : List UnknownParam :=
  (unknownKeys params).map fun key => ⟨key, domain⟩

/-- The spec that a token means: the port of each protocol is that of its last parameter; if no
parameter is recognised, both protocols have their default ports. -/
def Token.spec (token : Token) : DomainSpec :=
  if ∃ param ∈ token.written, param.Recognised then
    ⟨token.domain, lastPort? token.written .http, lastPort? token.written .https⟩
  else ⟨token.domain, some Protocol.http.defaultPort, some Protocol.https.defaultPort⟩

/-- The parameters of a token that are not recognised. -/
def Token.unknown (token : Token) : List UnknownParam := unknownFor token.domain token.written

theorem lastPort?_cons (protocol : Protocol) :
    lastPort? (param :: later) protocol =
      (lastPort? later protocol).or
        (if param.key = protocol.word then some (param.given protocol) else none) := by
  by_cases h : param.key = protocol.word
  · simp only [lastPort?, h, List.filter_cons, decide_true, if_true, List.getLast?_cons]
    cases (later.filter (·.key = protocol.word)).getLast? <;> rfl
  · simp [lastPort?, h]

theorem lastPort?_eq_none_iff {protocol : Protocol} :
    lastPort? params protocol = none ↔ ∀ param ∈ params, param.key ≠ protocol.word := by
  simp [lastPort?]

/-- Some parameter is recognised exactly if some protocol gets a port. -/
theorem exists_recognised_iff :
    (∃ param ∈ params, param.Recognised) ↔
      ¬ (lastPort? params .http = none ∧ lastPort? params .https = none) := by
  rw [lastPort?_eq_none_iff, lastPort?_eq_none_iff, not_and_or]
  push Not
  constructor
  · rintro ⟨param, hp, h | h⟩
    · exact Or.inl ⟨param, hp, h⟩
    · exact Or.inr ⟨param, hp, h⟩
  · rintro (⟨param, hp, h⟩ | ⟨param, hp, h⟩)
    · exact ⟨param, hp, Or.inl h⟩
    · exact ⟨param, hp, Or.inr h⟩

/-! ### Reading parameters -/

/-- Valid parameters set their ports, each in place of what was set before, and the reading goes on
behind them. -/
theorem readParams_append (h : ∀ param ∈ earlier, param.Valid) (ports : Ports)
    (later : List Param) :
    ∃ reached : Ports,
      (∀ protocol, reached.get protocol = (lastPort? earlier protocol).or (ports.get protocol)) ∧
      readParams ports (earlier ++ later) =
        (unknownKeys earlier ++ (readParams reached later).1, (readParams reached later).2) := by
  -- The ports are passed from parameter to parameter, so the induction is over any ports to start
  -- with.
  induction earlier generalizing ports with
  | nil => exact ⟨ports, fun _ => rfl, rfl⟩
  | cons param rest ih =>
    obtain ⟨hvalid, hrest⟩ := List.forall_mem_cons.1 h
    cases hword : Protocol.ofWord? param.key with
    | none =>
      have hunknown := ofWord?_eq_none_iff.1 hword
      obtain ⟨reached, hports, hread⟩ := ih hrest ports
      refine ⟨reached, fun protocol => ?_, ?_⟩
      · -- A parameter that is not recognised is told, and leaves the ports alone.
        have hkey : param.key ≠ protocol.word := fun hk =>
          hunknown (Param.recognised_iff.2 ⟨protocol, hk⟩)
        rw [hports, lastPort?_cons, if_neg hkey, Option.or_none]
      · rw [List.cons_append, readParams, hword]
        simp [hread, unknownKeys, hunknown]
    | some protocol =>
      have hkey := ofWord?_eq_some_iff.1 hword
      have hrec : param.Recognised := Param.recognised_iff.2 ⟨protocol, hkey⟩
      obtain ⟨reached, hports, hread⟩ := ih hrest (ports.put (param.given protocol) protocol)
      refine ⟨reached, fun other => ?_, ?_⟩
      · -- A later parameter for the same protocol takes the place of this one, and no other does.
        rw [hports, lastPort?_cons, Option.or_assoc]
        by_cases hsame : other = protocol
        · subst hsame
          rw [Ports.get_put_same, if_pos hkey, Option.some_or]
        · have hother : param.key ≠ other.word := by
            intro hk
            rw [ofWord?_eq_some_iff.2 hk] at hword
            exact hsame (Option.some.inj hword)
          rw [Ports.get_put_other ports _ hsame, if_neg hother, Option.none_or]
      · rw [List.cons_append, readParams, hword]
        simp only [port_of_valid hvalid hkey]
        rw [hread]
        simp [unknownKeys, hrec]

/-- A parameter that is not valid ends the reading. -/
theorem readParams_of_not_valid (h : ¬ param.Valid) (ports : Ports) (later : List Param) :
    ∃ (protocol : Protocol) (text : List Char) (fault : PortFault),
      param.key = protocol.word ∧ param.value = some text ∧ readPort text = .error fault ∧
        readParams ports (param :: later) = ([], .error (protocol, fault)) := by
  obtain ⟨protocol, text, fault, hkey, hvalue, hread⟩ := exists_fault_of_not_valid h
  refine ⟨protocol, text, fault, hkey, hvalue, hread, ?_⟩
  have hport : param.port protocol = .error fault := by
    rw [Param.port, hvalue]
    simp only
    rw [hread]
    rfl
  rw [readParams, ofWord?_eq_some_iff.2 hkey]
  simp only [hport]

/-! ### Reading tokens -/

/-- A token whose parameters are all valid is read as its spec. -/
theorem read_of_valid {token : Token} (hmem : token ∈ tokens cs)
    (h : ∀ param ∈ token.written, param.Valid) :
    token.read = ⟨[token.spec], token.unknown, none⟩ := by
  obtain ⟨⟨http, https⟩, hports, hread⟩ := readParams_append h {} []
  rw [List.append_nil, readParams, List.append_nil] at hread
  have hhttp : http = lastPort? token.written .http := (hports .http).trans Option.or_none
  have hhttps : https = lastPort? token.written .https := (hports .https).trans Option.or_none
  have hspec : (⟨token.domain, (⟨http, https⟩ : Ports).orDefaults.http,
      (⟨http, https⟩ : Ports).orDefaults.https⟩ : DomainSpec) = token.spec := by
    -- The default ports are given where no parameter is recognised, which is where neither port
    -- is set.
    have hset : (∃ param ∈ token.written, param.Recognised) ↔ _ := exists_recognised_iff
    rw [← hhttp, ← hhttps] at hset
    simp only [Ports.orDefaults, Option.isNone_iff_eq_none]
    by_cases hrec : ∃ param ∈ token.written, param.Recognised
    · rw [if_neg (hset.1 hrec), Token.spec, if_pos hrec, hhttp, hhttps]
    · rw [if_pos (not_not.1 (mt hset.2 hrec)), Token.spec, if_neg hrec]
  rw [Token.read, paramList_eq_written hmem, hread]
  simp only [hspec]
  rfl

/-- A token with a parameter that is not valid yields nothing but notices about the ones in front of
it. -/
theorem read_of_first_fault {token : Token} (hmem : token ∈ tokens cs)
    (hw : token.written = earlier ++ param :: later) (h : ∀ other ∈ earlier, other.Valid)
    (hparam : ¬ param.Valid) :
    ∃ (text : List Char) (fault : PortFault), param.value = some text ∧
      readPort text = .error fault ∧
      token.read =
        ⟨[], unknownFor token.domain earlier, some ⟨token.domain, param.key, fault⟩⟩ := by
  obtain ⟨reached, -, hread⟩ := readParams_append h {} (param :: later)
  obtain ⟨protocol, text, fault, hkey, hvalue, hfault, hstop⟩ :=
    readParams_of_not_valid hparam reached later
  refine ⟨text, fault, hvalue, hfault, ?_⟩
  rw [Token.read, paramList_eq_written hmem, hw, hread, hstop, hkey]
  simp only [List.append_nil]
  rfl

/-- If not all of a list have a property, there is a first one that has not. -/
theorem exists_first_of_not_forall {α : Type} {P : α → Prop} {l : List α}
    (h : ¬ ∀ x ∈ l, P x) :
    ∃ before x after, l = before ++ x :: after ∧ (∀ y ∈ before, P y) ∧ ¬ P x := by
  classical
  cases hfind : l.find? fun x => decide (¬ P x) with
  | none =>
    refine absurd (fun x hx => ?_) h
    simpa using List.find?_eq_none.1 hfind x hx
  | some x =>
    obtain ⟨hx, before, after, hl, hbefore⟩ := List.find?_eq_some_iff_append.1 hfind
    exact ⟨before, x, after, hl, by simpa using hbefore, by simpa using hx⟩

/-- Nothing stops the reading of a token exactly when all its parameters are valid. -/
theorem stop_read_eq_none_iff {token : Token} (hmem : token ∈ tokens cs) :
    token.read.stop = none ↔ ∀ param ∈ token.written, param.Valid := by
  by_cases h : ∀ param ∈ token.written, param.Valid
  · rw [read_of_valid hmem h]
    exact iff_of_true rfl h
  · obtain ⟨earlier, param, later, hw, hearlier, hparam⟩ := exists_first_of_not_forall h
    obtain ⟨text, fault, -, -, hread⟩ := read_of_first_fault hmem hw hearlier hparam
    rw [hread]
    exact iff_of_false (Option.some_ne_none _) h

/-- Tokens whose parameters are all valid are read as their specs, one after another. -/
theorem concat_read {found : List Token} (hmem : ∀ token ∈ found, token ∈ tokens cs)
    (h : ∀ token ∈ found, ∀ param ∈ token.written, param.Valid) :
    Parse.concat (found.map Token.read) =
      ⟨found.map Token.spec, found.flatMap Token.unknown, none⟩ := by
  induction found with
  | nil => rfl
  | cons token rest ih =>
    obtain ⟨htoken, hrest⟩ := List.forall_mem_cons.1 h
    obtain ⟨hmemToken, hmemRest⟩ := List.forall_mem_cons.1 hmem
    rw [List.map_cons, Parse.concat, read_of_valid hmemToken htoken, ih hmemRest hrest]
    rfl

/-! ### The first fault of a text -/

/-- The tokens in front of one with a parameter that is not valid are read, and it ends the
reading. -/
theorem parse_of_first_fault {before after : List Token} {token : Token}
    (hfound : tokens cs = before ++ token :: after)
    (hbefore : ∀ other ∈ before, ∀ param ∈ other.written, param.Valid)
    (hw : token.written = earlier ++ param :: later) (h : ∀ other ∈ earlier, other.Valid)
    (hparam : ¬ param.Valid) :
    ∃ (text : List Char) (fault : PortFault), param.value = some text ∧
      readPort text = .error fault ∧
      parse cs =
        ⟨before.map Token.spec, before.flatMap Token.unknown ++ unknownFor token.domain earlier,
          some ⟨token.domain, param.key, fault⟩⟩ := by
  have hmem : ∀ other ∈ before, other ∈ tokens cs := fun other ho => by
    rw [hfound]
    exact List.mem_append_left _ ho
  have htoken : token ∈ tokens cs := by
    rw [hfound]
    exact List.mem_append_right _ List.mem_cons_self
  obtain ⟨text, fault, hvalue, hfault, hread⟩ := read_of_first_fault htoken hw h hparam
  refine ⟨text, fault, hvalue, hfault, ?_⟩
  rw [parse, hfound, List.map_append, List.map_cons, Parse.concat_append, concat_read hmem hbefore,
    Parse.concat, hread, Parse.append_of_clean rfl, Parse.append_of_stop rfl]
  simp only [List.append_nil]

/-- A text whose recognised parameters are all valid yields one spec for each token, in order,
behind what was there before, and a warning for each parameter that is not recognised. Any other
text has a first recognised parameter that is not valid: its domain and key are told, with the
reason, the specs of the tokens in front of its own stay behind what was there before, and there
is a warning for each parameter in front of it that is not recognised. -/
theorem parseAll_until_first_fault (raw : String) (initial : List DomainSpec) :
    let found := tokens raw.toList
    let outcome := parseAll raw initial
    ((∀ token ∈ found, ∀ param ∈ token.written, param.Valid) ∧
      outcome.result = .ok (initial ++ found.map Token.spec) ∧
      outcome.specs = initial ++ found.map Token.spec ∧
      outcome.records = (found.flatMap Token.unknown).map UnknownParam.record) ∨
    ∃ before token after earlier param later text cause,
      found = before ++ token :: after ∧ token.written = earlier ++ param :: later ∧
      (∀ other ∈ before, ∀ param ∈ other.written, param.Valid) ∧
      (∀ other ∈ earlier, other.Valid) ∧ param.Recognised ∧ param.value = some text ∧
      ¬ IsPort text ∧ readPort text = .error cause ∧
      outcome.result =
        .error ⟨token.domain, some param.key, cause, initial ++ before.map Token.spec⟩ ∧
      outcome.specs = initial ++ before.map Token.spec ∧
      outcome.records =
        (before.flatMap Token.unknown ++ unknownFor token.domain earlier).map
          UnknownParam.record := by
  intro found outcome
  have houtcome : ∀ {specs unknown stop}, parse raw.toList = ⟨specs, unknown, stop⟩ →
      outcome = ⟨initial ++ specs, unknown, stop⟩ := by
    intro specs unknown stop hparse
    simp only [outcome, parseAll, hparse]
  -- Either all parameters are valid, or there is a first token with one that is not, and a first
  -- one of that kind in it.
  by_cases hall : ∀ token ∈ found, ∀ param ∈ token.written, param.Valid
  · have hparse : parse raw.toList = ⟨found.map Token.spec, found.flatMap Token.unknown, none⟩ :=
      concat_read (fun _ => id) hall
    rw [houtcome hparse]
    exact Or.inl ⟨hall, rfl, rfl, rfl⟩
  · obtain ⟨before, token, after, hfound, hbefore, htoken⟩ := exists_first_of_not_forall hall
    obtain ⟨earlier, param, later, hw, hearlier, hparam⟩ := exists_first_of_not_forall htoken
    obtain ⟨text, cause, hvalue, hcause, hparse⟩ :=
      parse_of_first_fault hfound hbefore hw hearlier hparam
    -- Parameters that are not recognised are valid whatever they say.
    have hrec : param.Recognised := by
      by_contra hnot
      exact hparam fun hrec => absurd hrec hnot
    have hport : ¬ IsPort text := by
      intro hport
      rw [readPort_eq_ok_iff_isPort.2 ⟨hport, rfl⟩] at hcause
      cases hcause
    rw [houtcome hparse]
    exact Or.inr ⟨before, token, after, earlier, param, later, text, cause, hfound, hw, hbefore,
      hearlier, hrec, hvalue, hport, hcause, rfl, rfl, rfl⟩

/-- Parameters that are set again, and one that is not known: the last port of each protocol
counts. -/
example : (parseAll "a.b:HTTP=1:tls:http=+0080:https x.y" []).result =
    .ok [⟨"a.b", some 80, some 443⟩, ⟨"x.y", some 80, some 443⟩] := by
  decide +kernel

end RegistrySync.DomainSpec
