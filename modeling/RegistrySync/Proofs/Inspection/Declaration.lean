/-
What the attributes of a container declare, said without the steps by which it is
found.

* `valueIn_eq_some_iff`, `valueIn_eq_assigned?` — cutting a line at its first equals sign finds the
  lines that begin with the variable's name and an equals sign;
* `readValues_eq` — reading values one after another is one reading of all;
* `environmentLines?_of_items`, `environmentLines?_of_no_items` — the lines that are
  read, by the shape of the attributes;
* `ofAttributes_of_stop`, `ofAttributes_of_clean` — the inspection that attributes give,
  by whether some token is at fault.
-/
import RegistrySync.Inspection.Attributes
import RegistrySync.Proofs.DomainSpec.Reading
import RegistrySync.Proofs.Text.Cut
import Mathlib.Data.List.Basic

namespace RegistrySync.Inspection

open DomainSpec (Parse)

/-! ### Lines -/

/-- The value that a line gives to a variable: what stands behind the variable's name and an
equals sign at the front of the line. -/
def assigned? (name line : String) : Option String :=
  (line.toList.dropPrefix? (name.toList ++ ['='])).map String.ofList

theorem assigned?_eq_some_iff {name line value : String} :
    assigned? name line = some value ↔ line = name ++ "=" ++ value := by
  rw [assigned?, Option.map_eq_some_iff, ← String.toList_inj]
  constructor
  · rintro ⟨rest, hr, rfl⟩
    obtain ⟨front, hl, hf⟩ := List.dropPrefix?_eq_some_iff.1 hr
    rw [hl, eq_of_beq hf]
    simp
  · intro h
    refine ⟨value.toList, List.dropPrefix?_eq_some_iff.2 ⟨_, ?_, beq_self_eq_true _⟩, by simp⟩
    rw [h]
    simp

/-- Cutting a line at its first equals sign finds a variable whose name holds none. -/
theorem valueIn_eq_some_iff {name line value : String} :
    valueIn name line = some value ↔ '=' ∉ name.toList ∧ line = name ++ "=" ++ value := by
  rw [← String.toList_inj]
  constructor
  · intro hv
    unfold valueIn at hv
    cases hc : Text.cut '=' line.toList with
    | mk key found =>
      simp only [hc] at hv
      split at hv
      · rename_i hk
        obtain ⟨rest, rfl, rfl⟩ := Option.map_eq_some_iff.1 hv
        obtain ⟨hline, hkey⟩ := Text.cut_eq_some_iff.1 hc
        rw [← hk, hline]
        simpa using hkey
      · cases hv
  · rintro ⟨hname, hl⟩
    have hl : line.toList = name.toList ++ '=' :: value.toList := by simpa using hl
    rw [valueIn, Text.cut_eq_some_iff.2 ⟨hl, hname⟩]
    simp

/-- A variable's name holds no equals sign, so its value begins behind the first one. -/
theorem valueIn_eq_assigned? {name : String} (h : '=' ∉ name.toList) (line : String) :
    valueIn name line = assigned? name line := by
  apply Option.ext
  intro value
  rw [valueIn_eq_some_iff, assigned?_eq_some_iff]
  exact and_iff_right h

theorem declaredValues_eq {name : String} (h : '=' ∉ name.toList) (lines : List String) :
    declaredValues name lines = lines.filterMap (assigned? name) :=
  List.filterMap_congr fun line _ => valueIn_eq_assigned? h line

/-- The line that gives a variable its value is the one whose value is declared, if no other line is
about the variable. -/
theorem declaredValues_line {name : String} (h : '=' ∉ name.toList) (value : String)
    {before after : List String} (hothers : ∀ line ∈ before ++ after, valueIn name line = none) :
    declaredValues name (before ++ (name ++ "=" ++ value) :: after) = [value] := by
  obtain ⟨hbefore, hafter⟩ := List.forall_mem_append.1 hothers
  have hline : valueIn name (name ++ "=" ++ value) = some value := by
    rw [valueIn_eq_assigned? h, assigned?_eq_some_iff]
  rw [declaredValues, List.filterMap_append, List.filterMap_cons_some hline,
    List.filterMap_eq_nil_iff.2 hbefore, List.filterMap_eq_nil_iff.2 hafter]
  rfl

/-! ### Values -/

theorem readValues_singleton (value : String) (specs : List DomainSpec) :
    readValues [value] specs = DomainSpec.parseAll value specs := by
  rw [readValues]
  generalize DomainSpec.parseAll value specs = parse
  obtain ⟨read, unknown, stop⟩ := parse
  cases stop with
  | some stop => rfl
  | none => simp [readValues]

/-- Reading values one after another is one reading of all of them. -/
theorem readValues_eq (values : List String) (specs : List DomainSpec) :
    readValues values specs =
      { Parse.concat (values.map fun value => DomainSpec.parse value.toList) with
        specs := specs ++
          (Parse.concat (values.map fun value => DomainSpec.parse value.toList)).specs } := by
  induction values generalizing specs with
  | nil => simp [readValues, Parse.concat, Parse.nothing]
  | cons value rest ih =>
    rw [readValues, List.map_cons, Parse.concat]
    cases hs : (DomainSpec.parse value.toList).stop with
    | some stop => simp [DomainSpec.parseAll, hs, Parse.append_of_stop hs]
    | none => simp [DomainSpec.parseAll, hs, Parse.append_of_clean hs, ih]

/-- Nothing stops the reading of values exactly when no token of any of them is at fault. -/
theorem stop_readValues_eq_none_iff {values : List String} {specs : List DomainSpec} :
    (readValues values specs).stop = none ↔
      ∀ token ∈ values.flatMap fun value => DomainSpec.tokens value.toList,
        token.read.stop = none := by
  simp only [readValues_eq, Parse.concat_stop_eq_none_iff, List.forall_mem_map,
    DomainSpec.stop_parse_eq_none_iff, List.forall_mem_flatMap]

/-- What values yield if no token of any of them is at fault. -/
theorem specs_readValues {values : List String} {specs : List DomainSpec}
    (h : (readValues values specs).stop = none) :
    (readValues values specs).specs =
      specs ++ (values.flatMap fun value => DomainSpec.tokens value.toList).flatMap
        (·.read.specs) := by
  rw [readValues_eq] at h
  simp only [Parse.concat_stop_eq_none_iff, List.forall_mem_map] at h
  rw [readValues_eq, List.flatMap_assoc]
  show specs ++ _ = specs ++ _
  rw [Parse.concat_specs (by simpa using h), List.flatMap_map]
  exact congrArg _ (List.flatMap_congr fun value hv => DomainSpec.specs_parse (h value hv))

/-! ### Attributes -/

/-- The items of the environment, if the attributes hold a list of them. -/
def environmentItems? (attributes : Json) : Option (List Json) :=
  match attributes.field? "Config" with
  | some (.obj config) =>
    match config.lookup "Env" with
    | some (.arr items) => some items
    | _ => none
  | _ => none

theorem environmentItems?_eq (attributes : Json) :
    environmentItems? attributes =
      match (attributeSection "Config" attributes).field? "Env" with
      | some (.arr items) => some items
      | _ => none := by
  unfold environmentItems? attributeSection
  cases hc : attributes.field? "Config" with
  | none => rfl
  | some config => cases config <;> rfl

theorem environmentLines?_of_items {attributes : Json} {items : List Json}
    (h : environmentItems? attributes = some items) :
    environmentLines? attributes = some (items.map Json.text) := by
  rw [environmentItems?_eq] at h
  split at h
  · rename_i found he
    cases h
    cases items <;> simp [environmentLines?, he, Json.isEmpty]
  · cases h

/-- Attributes without a list of lines are refused, or count as those of a container without
lines. -/
theorem environmentLines?_of_no_items {attributes : Json}
    (h : environmentItems? attributes = none) :
    environmentLines? attributes = none ∨ environmentLines? attributes = some [] := by
  rw [environmentItems?_eq] at h
  rw [environmentLines?]
  cases he : (attributeSection "Config" attributes).field? "Env" with
  | none => exact Or.inr rfl
  | some env =>
    rw [Option.getD_some]
    -- An environment that is empty in any way counts as one without lines.
    by_cases hn : env.isEmpty = true
    · exact Or.inr (if_pos hn)
    · refine Or.inl ?_
      rw [if_neg hn]
      cases env with
      | arr items => simp [he] at h
      | _ => rfl

/-- A token at fault is a failed inspection. -/
theorem ofAttributes_of_stop {settings : Settings} {attributes : Json} {lines : List String}
    (hl : environmentLines? attributes = some lines) {stop : DomainSpec.Stop}
    (hs : (readEnvironment lines settings.envVar []).parse.stop = some stop) (name : String) :
    (ofAttributes settings name attributes).2 =
      .error ⟨.specsRejected (.ofStop (readEnvironment lines settings.envVar []).parse.specs stop),
        some name⟩ := by
  simp [ofAttributes, hl, Parse.result, hs]

/-- The host of a container: its name, or its address on the bridge network. -/
def hostOf (settings : Settings) (name : String) (attributes : Json) : String :=
  if settings.useNames then name else bridgeAddress attributes

/-- Without a token at fault there is an inspection, unless an address is needed and there is
none. -/
theorem ofAttributes_of_clean {settings : Settings} {attributes : Json} {lines : List String}
    (hl : environmentLines? attributes = some lines)
    (hs : (readEnvironment lines settings.envVar []).parse.stop = none) (name : String) :
    (ofAttributes settings name attributes).2 =
      if settings.useNames = false ∧ hostOf settings name attributes = "" ∧
          (readEnvironment lines settings.envVar []).present = true then
        .error ⟨.noAddress, some name⟩
      else
        .ok ⟨hostOf settings name attributes,
          (readEnvironment lines settings.envVar []).parse.specs,
          (readEnvironment lines settings.envVar []).present⟩ := by
  cases hu : settings.useNames with
  | true => simp [ofAttributes, hl, Parse.result, hs, hu, hostOf]
  | false => simp [ofAttributes, hl, Parse.result, hs, hu, hostOf]

end RegistrySync.Inspection
