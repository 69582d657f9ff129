/-
The command `check` agrees with a run.

* `readEnvironment_line` — a run reads the same specs from a container's environment;
* `valuesSet_publish` — a run sets one value for them, the text of their records;
* `squeezed_indented_records` — what is shown differs from what is written in its layout only;
* `run_checkSpecs_ok`, `run_checkSpecs_error` — what the command shows, and how it ends;
* `check_agrees` — the command accepts what a run accepts, and shows what a run would write.
-/
import RegistrySync.Proofs.CommandLine.Steps
import RegistrySync.Proofs.Inspection.Declaration
import RegistrySync.Proofs.Json.Indented
import RegistrySync.Proofs.Publication.Record
import RegistrySync.Proofs.Publication.Steps

namespace RegistrySync.CommandLine

variable {ω : Type}

/-! ### What is read -/

/-- An environment in which one line gives the variable its value reads as this value does. -/
theorem readEnvironment_line {name : String} (h : Settings.isVariableName name = true)
    (raw : String) {before after : List String}
    (hothers : ∀ line ∈ before ++ after, Inspection.valueIn name line = none) :
    (Inspection.readEnvironment (before ++ (name ++ "=" ++ raw) :: after) name []).parse =
      DomainSpec.parseAll raw [] := by
  have hname : '=' ∉ name.toList := fun hmem =>
    ((Settings.isVariableName_iff.1 h).2 '=' hmem).1 rfl
  rw [Inspection.readEnvironment, Inspection.declaredValues_line hname raw hothers]
  exact Inspection.readValues_singleton raw []

/-! ### What is written -/

/-- The values that a trace sets in the registry, in order. -/
def valuesSet (trace : List Event) : List String :=
  (requestsOf trace).filterMap fun
    | .setKey _ value _ => some value
    | _ => none

theorem valuesSet_append (a b : List Event) : valuesSet (a ++ b) = valuesSet a ++ valuesSet b := by
  rw [valuesSet, requestsOf_append, List.filterMap_append]
  rfl

theorem valuesSet_setKey (key value : String) (expire : Option Int) (rest : List Event) :
    valuesSet (.request (.setKey key value expire) :: rest) = value :: valuesSet rest := rfl

/-- A publication sets one value, the text of its records. -/
theorem valuesSet_publish (settings : Settings) (publication : Publication)
    (link : RegistryLink) :
    valuesSet ((Publication.publish settings publication).run link).trace =
      [publication.encode] := by
  have hconnect : valuesSet (Publication.connectTrace settings link) = [] := by
    unfold Publication.connectTrace
    split <;> rfl
  have hnotes : ∀ refusal,
      valuesSet (Publication.publishedNotes settings publication refusal) = [] := by
    intro refusal
    cases refusal <;> rfl
  rw [Publication.run_publish]
  simp only [valuesSet_append, valuesSet_setKey, hconnect, hnotes, List.nil_append]

/-- What is shown of records squeezes to what is written of them. -/
theorem squeezed_indented_records (publication : Publication) :
    Json.Squeezed (publication.records.indented ++ "\n").toList publication.encode.toList := by
  have hrecords := Json.squeezed_indentedAt (Publication.whole_records publication) 0
  have hnewLine : Json.Squeezed ['\n'] [] :=
    Json.squeezed_of_blank (List.forall_mem_singleton.2 (by decide))
  simpa [Json.indented, Publication.encode] using hrecords.append hnewLine

/-! ### The command -/

/-- Specs that can be read are shown as records. -/
theorem run_checkSpecs_ok {raw : String} {specs : List DomainSpec}
    (h : (DomainSpec.parseAll raw []).result = .ok specs) (host : String) (session : Session ω) :
    ∃ after, (checkSpecs raw host).run session = (.ok (), after) ∧
      after.output = session.output ++ ((Publication.recordsOf host specs).indented ++ "\n") := by
  unfold checkSpecs
  simp only [h]
  exact ⟨_, rfl, rfl⟩

/-- Specs that cannot be read end the command with a status of their own. -/
theorem run_checkSpecs_error {raw : String} {fault : SpecFault}
    (h : (DomainSpec.parseAll raw []).result = .error fault) (host : String) (session : Session ω) :
    ((checkSpecs raw host).run session).1 = .error (.status invalidSpecStatus) := by
  unfold checkSpecs
  simp only [h]
  rfl

section

variable {words rest : List String} {session ready : Session ω} {choices : LogChoices}
  {parsed : Parsed} {raw host : String}

/-- The whole command line, once it has come to the command with one text and a host. -/
theorem run_check (h : Readied words session "check" rest choices ready)
    (hparsed : parseWords checkOptions true rest = .ok parsed) (hhelp : parsed.has "--help" = false)
    (hraw : parsed.words = [raw]) (hhost : parsed.last? "--host" = some host)
    (collaborators : Collaborators ω) :
    (program collaborators words).run session = (checkSpecs raw host).run ready := by
  rw [run_program_check collaborators h hparsed]
  unfold check
  simp only [hhelp, hraw, hhost]
  rfl

/-- Let a command line come to checking a text for a host, and let a container have an environment
in which one line gives the variable this text, and no other line is about it. The command ends with
status 0 if the environment can be read, else with status 2. If it ends with status 0, then what it
has put out is, but for the blanks outside of literals, the one value that publishing what the
environment declares for this host sets in the registry. -/
theorem check_agrees (h : Readied words session "check" rest choices ready)
    (hparsed : parseWords checkOptions true rest = .ok parsed) (hhelp : parsed.has "--help" = false)
    (hraw : parsed.words = [raw]) (hhost : parsed.last? "--host" = some host)
    {settings : Settings} (hvariable : Settings.isVariableName settings.envVar = true)
    {before after : List String}
    (hothers : ∀ line ∈ before ++ after, Inspection.valueIn settings.envVar line = none)
    (collaborators : Collaborators ω) :
    let environment := before ++ (settings.envVar ++ "=" ++ raw) :: after
    let declared := (Inspection.readEnvironment environment settings.envVar []).parse.result
    let exit := (execute collaborators words session).1
    let left := (execute collaborators words session).2
    (exit = .status 0 ↔ ∃ specs, declared = .ok specs) ∧
      (exit = .status 2 ↔ ∃ fault, declared = .error fault) ∧
      ∀ specs, declared = .ok specs → ∃ shown, left.output = session.output ++ shown ∧
        ∀ link, valuesSet ((Publication.publish settings ⟨host, specs⟩).run link).trace =
          [String.ofList (Json.squeeze shown.toList)] := by
  intro environment declared exit left
  have hdeclared : declared = (DomainSpec.parseAll raw []).result :=
    congrArg DomainSpec.Parse.result (readEnvironment_line hvariable raw hothers)
  have hrun := run_check h hparsed hhelp hraw hhost collaborators
  have hexit : exit = .ofResult ((checkSpecs raw host).run ready).1 := by
    rw [← hrun]
    rfl
  have hleft : left = ((checkSpecs raw host).run ready).2 := by
    rw [← hrun]
    rfl
  -- Both sides hang on the same parse of the text now.
  rw [hdeclared]
  cases hresult : (DomainSpec.parseAll raw []).result with
  | error fault =>
    rw [run_checkSpecs_error hresult] at hexit
    rw [hexit]
    simp [Exit.ofResult, invalidSpecStatus]
  | ok specs =>
    obtain ⟨after, hchecked, houtput⟩ := run_checkSpecs_ok hresult host ready
    rw [hchecked] at hexit hleft
    have hready : ready.output = session.output := congrArg Prod.fst h.outward
    rw [hexit]
    refine ⟨by simp [Exit.ofResult], by simp [Exit.ofResult], ?_⟩
    rintro _ ⟨⟩
    refine ⟨_, by rw [hleft, houtput, hready], fun link => ?_⟩
    have hsqueezed : Json.squeeze ((Publication.recordsOf host specs).indented ++ "\n").toList =
        (Publication.encode ⟨host, specs⟩).toList := (squeezed_indented_records ⟨host, specs⟩).eq
    rw [valuesSet_publish, hsqueezed, String.ofList_toList]

end

/-- A text that does not look like an option can be checked for any host. -/
theorem parseWords_check {raw : String} (h : looksLikeOption raw = false) (host : String) :
    parseWords checkOptions true [raw, "--host", host] =
      .ok { given := [⟨"--host", some host⟩], words := [raw] } := by
  have hdashes : raw ≠ "--" := by
    rintro rfl
    cases h
  have hhost : parseWords checkOptions true ["--host", host] =
      .ok { given := [⟨"--host", some host⟩] } := rfl
  rw [parseWords, if_neg hdashes, if_neg (by simp [h]), if_pos rfl, hhost]
  rfl

theorem check_agrees_quoted_host :
    let words := ["check", "a.org:http=80\tb.org", "--host", "we \"b\""]
    let environment := ["PATH=/bin", "BEACHHEAD_DOMAINS=a.org:http=80\tb.org"]
    let specs : List DomainSpec := [⟨"a.org", some 80, none⟩, ⟨"b.org", some 80, some 443⟩]
    let left := (execute idleCollaborators words emptySession).2
    (execute idleCollaborators words emptySession).1 = .status 0 ∧
      (Inspection.readEnvironment environment "BEACHHEAD_DOMAINS" []).parse.result = .ok specs ∧
        valuesSet ((Publication.publish {} ⟨"we \"b\"", specs⟩).run {}).trace =
          [String.ofList (Json.squeeze left.output.toList)] := by
  intro words environment specs left
  have hcommon : ((common words).run emptySession).1 = .ok { words := words } := by
    decide +kernel
  have hready := readied_of_ok hcommon rfl (by decide +kernel)
  have hword : looksLikeOption "a.org:http=80\tb.org" = false := by decide +kernel
  have hvariable : Settings.isVariableName ({} : Settings).envVar = true := by decide +kernel
  -- The variable stands among other lines, of which none has anything to do with it.
  have hothers : ∀ line ∈ ["PATH=/bin"] ++ [],
      Inspection.valueIn ({} : Settings).envVar line = none := by decide +kernel
  obtain ⟨hexit, -, hshown⟩ := check_agrees hready (parseWords_check hword "we \"b\"")
    rfl rfl rfl hvariable hothers idleCollaborators
  have hspecs : (Inspection.readEnvironment environment "BEACHHEAD_DOMAINS" []).parse.result =
      .ok specs := by decide +kernel
  obtain ⟨shown, houtput, hvalues⟩ := hshown specs hspecs
  refine ⟨hexit.2 ⟨specs, hspecs⟩, hspecs, ?_⟩
  rw [hvalues {}, houtput]
  rfl

end RegistrySync.CommandLine
