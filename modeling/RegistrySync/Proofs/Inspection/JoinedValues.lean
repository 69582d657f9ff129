/-
An environment as one text of domain specs.

The lines of an environment are read one after another. Since blanks part domain specs, this is the
same as reading one text: the values of the variable with a space between them.

* `IsAbout` — a line that begins with the name of a variable and an equals sign;
* `readValues_eq_parseAll` — values that are read one after another, and as one text;
* `filterMap_assigned?_filter` — lines about other variables do not matter;
* `readEnvironment_eq_parseAll` — an environment is read as the text that its values make up.
-/
import RegistrySync.Proofs.DomainSpec.Concatenation
import RegistrySync.Proofs.Inspection.Declaration
import RegistrySync.Proofs.Settings.Usable

namespace RegistrySync.Inspection

open DomainSpec (Parse parse parseAll)

variable {name : String} {lines others : List String}

/-! ### Values as one text -/

/-- Reading values with spaces between them is reading one after another. -/
theorem parse_intercalate (values : List String) :
    parse (" ".intercalate values).toList =
      Parse.concat (values.map fun value => parse value.toList) := by
  induction values with
  | nil => rfl
  | cons value rest ih =>
    by_cases hne : rest = []
    · rw [hne, String.intercalate_singleton, List.map_singleton, Parse.concat, Parse.concat,
        Parse.append_nothing]
    · -- The blank stands between two values, so there is one only where others follow.
      have hblank : ∀ c ∈ [' '], Text.isBlank c = true := by
        rintro c hc
        rw [List.mem_singleton.1 hc]
        rfl
      have htext : (" ".intercalate (value :: rest)).toList =
          value.toList ++ ([' '] ++ (" ".intercalate rest).toList) := by
        rw [String.intercalate_cons_of_ne_nil hne]
        simp
      rw [htext, DomainSpec.parse_append_blanks (List.cons_ne_nil _ _) hblank, ih, List.map_cons,
        Parse.concat]

/-- Values that are read one after another yield what they yield as one text. -/
theorem readValues_eq_parseAll (values : List String) (initial : List DomainSpec) :
    readValues values initial = parseAll (" ".intercalate values) initial := by
  rw [readValues_eq, parseAll, parse_intercalate]

/-! ### Lines about a variable -/

/-- A line that begins with the name of a variable and an equals sign. -/
def IsAbout (name line : String) : Prop := (name ++ "=").toList <+: line.toList

instance (name line : String) : Decidable (IsAbout name line) :=
  inferInstanceAs (Decidable (_ <+: _))

theorem isAbout_iff {line : String} :
    IsAbout name line ↔ ∃ value, assigned? name line = some value := by
  simp only [assigned?_eq_some_iff, IsAbout, ← String.toList_inj]
  constructor
  · rintro ⟨rest, hrest⟩
    exact ⟨String.ofList rest, by simp [← hrest]⟩
  · rintro ⟨value, hvalue⟩
    exact ⟨value.toList, by simp [hvalue]⟩

/-- Lines about other variables do not matter for the values of one. -/
theorem filterMap_assigned?_filter (name : String) (lines : List String) :
    (lines.filter (IsAbout name ·)).filterMap (assigned? name) =
      lines.filterMap (assigned? name) := by
  rw [List.filterMap_filter]
  refine List.filterMap_congr fun line _ => ?_
  by_cases h : IsAbout name line
  · rw [if_pos (decide_eq_true h)]
  · rw [if_neg (by simpa using h)]
    symm
    exact Option.eq_none_iff_forall_ne_some.2 fun value hv => h (isAbout_iff.2 ⟨value, hv⟩)

/-- A variable has values exactly if some line is about it. -/
theorem filterMap_assigned?_ne_nil_iff :
    lines.filterMap (assigned? name) ≠ [] ↔ ∃ line ∈ lines, IsAbout name line := by
  constructor
  · intro h
    obtain ⟨value, hmem⟩ := List.exists_mem_of_ne_nil _ h
    obtain ⟨line, hline, hvalue⟩ := List.mem_filterMap.1 hmem
    exact ⟨line, hline, isAbout_iff.2 ⟨value, hvalue⟩⟩
  · rintro ⟨line, hline, habout⟩
    obtain ⟨value, hvalue⟩ := isAbout_iff.1 habout
    exact List.ne_nil_of_mem (List.mem_filterMap.2 ⟨line, hline, hvalue⟩)

/-- A variable that settings may name is declared exactly if some line is about it, and then its
lines are read as one text: their values in order, with a space between two of them. This holds
behind any specs that are there before, for a text that is at fault too. Lines about nothing or
about other variables do not matter, whatever they are and wherever they stand. -/
theorem readEnvironment_eq_parseAll {settings : Settings}
    (h : Problem.badVariableName settings.envVar ∉ settings.problems) (lines : List String)
    (initial : List DomainSpec) :
    let values := lines.filterMap (assigned? settings.envVar)
    let whole := parseAll (" ".intercalate values) []
    let scan := readEnvironment lines settings.envVar initial
    (scan.present = true ↔ ∃ line ∈ lines, IsAbout settings.envVar line) ∧
      scan.parse = ⟨initial ++ whole.specs, whole.unknown, whole.stop⟩ ∧
      ∀ others : List String,
        others.filter (IsAbout settings.envVar ·) = lines.filter (IsAbout settings.envVar ·) →
        readEnvironment others settings.envVar initial = scan := by
  intro values whole scan
  have hname : '=' ∉ settings.envVar.toList := Settings.not_mem_of_accepted h
  -- Everything depends on the values alone, and these on the lines that are about the variable.
  have hscan : ∀ lines, readEnvironment lines settings.envVar initial =
      ⟨!(lines.filterMap (assigned? settings.envVar)).isEmpty,
        readValues (lines.filterMap (assigned? settings.envVar)) initial⟩ := by
    intro lines
    simp only [readEnvironment, declaredValues_eq hname]
  refine ⟨?_, ?_, fun others hothers => ?_⟩
  · rw [← filterMap_assigned?_ne_nil_iff]
    simp only [scan, hscan, Bool.not_eq_true', List.isEmpty_eq_false_iff]
  · simp only [scan, hscan]
    rw [readValues_eq_parseAll]
    rfl
  · simp only [scan]
    rw [hscan, hscan, ← filterMap_assigned?_filter, hothers, filterMap_assigned?_filter]

/-- Two lines about the variable, the second of them with a port that is none, between lines that
are about another variable, whose name begins the same way, or about nothing. -/
theorem readEnvironment_eq_parseAll_bad_port :
    let lines := ["PATH=/bin", "BEACHHEAD_DOMAINS=one.org:http=81", "BEACHHEAD_DOMAINS_OLD=old.org",
      "BEACHHEAD_DOMAINS=two.org three.org:https=x four.org", "BEACHHEAD_DOMAINS"]
    let found : Declaration :=
      ⟨true, ⟨[⟨"zero.org", some 1, none⟩, ⟨"one.org", some 81, none⟩,
        ⟨"two.org", some 80, some 443⟩], [], some ⟨"three.org", "https", .notDigits "x"⟩⟩⟩
    readEnvironment lines "BEACHHEAD_DOMAINS" [⟨"zero.org", some 1, none⟩] = found ∧
      readEnvironment ["BEACHHEAD_DOMAINS=one.org:http=81", "LANG=C",
        "BEACHHEAD_DOMAINS=two.org three.org:https=x four.org"] "BEACHHEAD_DOMAINS"
        [⟨"zero.org", some 1, none⟩] = found := by
  intro lines found
  have haccepted : Problem.badVariableName ({} : Settings).envVar ∉ ({} : Settings).problems := by
    rw [Settings.problems_default]
    exact List.not_mem_nil
  obtain ⟨hpresent, hparse, hothers⟩ :=
    readEnvironment_eq_parseAll haccepted lines [⟨"zero.org", some 1, none⟩]
  -- The theorem says when the variable is declared and what is read of it, which is all of a
  -- declaration.
  have hfound : readEnvironment lines "BEACHHEAD_DOMAINS" [⟨"zero.org", some 1, none⟩] = found := by
    have hthere := hpresent.2 ⟨"BEACHHEAD_DOMAINS=one.org:http=81", by decide, by decide⟩
    have hread : (readEnvironment lines "BEACHHEAD_DOMAINS" _).parse = found.parse :=
      hparse.trans (by decide +kernel)
    exact congrArg₂ Declaration.mk hthere hread
  exact ⟨hfound, (hothers _ (by decide)).trans hfound⟩

end RegistrySync.Inspection
