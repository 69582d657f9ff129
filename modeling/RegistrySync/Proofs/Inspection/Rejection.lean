/-
Attributes that are no inspection.

Attributes can have any shape. Three things can be wrong with them: an environment that is no
list, a value of the variable with a port that cannot be read, and a missing address where one is
needed.

* `Misshapen`, `environmentLines?_eq_none_iff` — an environment that is no list;
* `Declares`, `mem_declaredValues_iff` — a value that the environment gives to a variable;
* `HasBadPort`, `stop_readValues_eq_none_iff_hasBadPort` — a value that stops the reading;
* `Addressed`, `bridgeAddress_ne_empty_iff` — an address on the bridge network;
* `Unusable`, `ofAttributes_cases` — what is wrong with attributes, and that they are rejected for
  it;
* `ofAttributes_rejects_iff` — rejections and inspections, as the one who asks for them sees them.
-/
import RegistrySync.Proofs.DomainSpec.FirstFault
import RegistrySync.Proofs.Inspection.Declaration

namespace RegistrySync.Inspection

variable {attributes : Json} {name value : String} {lines : List String}

/-- A field of a part that is an object. Any other part has no fields. -/
theorem exists_field?_attributeSection_iff {part field : String} {P : Json → Prop} :
    (∃ found, (attributeSection part attributes).field? field = some found ∧ P found) ↔
      ∃ fields found, attributes.field? part = some (.obj fields) ∧
        fields.lookup field = some found ∧ P found := by
  unfold attributeSection
  cases hpart : attributes.field? part with
  | none => simp [Json.orEmptyObject, Json.field?]
  | some tree => cases tree <;> simp [Json.orEmptyObject, Json.field?]

/-! ### The environment -/

/-- An environment that counts as a value and is no list. -/
def Misshapen (attributes : Json) : Prop :=
  ∃ config env, attributes.field? "Config" = some (.obj config) ∧
    config.lookup "Env" = some env ∧ env.isEmpty = false ∧ ∀ items, env ≠ .arr items

/-- An item of the environment, read as a text, gives the value to the variable. No name of a
variable holds an equals sign. -/
def Declares (attributes : Json) (name value : String) : Prop :=
  '=' ∉ name.toList ∧ ∃ items, environmentItems? attributes = some items ∧
    ∃ item ∈ items, item.text = name ++ "=" ++ value

theorem environmentLines?_eq_none_iff :
    environmentLines? attributes = none ↔ Misshapen attributes := by
  rw [Misshapen, ← exists_field?_attributeSection_iff, environmentLines?]
  cases (attributeSection "Config" attributes).field? "Env" with
  | none => simp [Json.isEmpty]
  | some env =>
    -- Whatever is falsy stands for no environment, whether or not it is a list.
    cases hempty : env.isEmpty with
    | true => simp [hempty]
    | false =>
      rw [Option.getD_some, if_neg (by rw [hempty]; exact Bool.false_ne_true)]
      cases env with
      | arr items =>
        refine iff_of_false (Option.some_ne_none _) ?_
        rintro ⟨_, ⟨⟩, -, hlist⟩
        exact hlist items rfl
      | _ => exact iff_of_true rfl ⟨_, rfl, hempty, fun items hlist => by cases hlist⟩

/-- The lines that are read are the items of the environment as texts. -/
theorem eq_of_environmentLines? (h : environmentLines? attributes = some lines) :
    lines = ((environmentItems? attributes).getD []).map Json.text := by
  cases hi : environmentItems? attributes with
  | some items =>
    rw [environmentLines?_of_items hi] at h
    exact (Option.some.inj h).symm
  | none =>
    rcases environmentLines?_of_no_items hi with hl | hl
    · rw [hl] at h
      cases h
    · rw [hl] at h
      exact (Option.some.inj h).symm

/-- The values that are read are those that the environment gives. -/
theorem mem_declaredValues_iff :
    value ∈ declaredValues name (((environmentItems? attributes).getD []).map Json.text) ↔
      Declares attributes name value := by
  simp only [declaredValues, List.mem_filterMap, valueIn_eq_some_iff, List.mem_map]
  constructor
  · rintro ⟨line, ⟨item, hitem, rfl⟩, hname, htext⟩
    cases hi : environmentItems? attributes with
    | none => simp [hi] at hitem
    | some items =>
      rw [hi] at hitem
      exact ⟨hname, items, hi, item, hitem, htext⟩
  · rintro ⟨hname, items, hi, item, hitem, htext⟩
    rw [hi]
    exact ⟨_, ⟨item, hitem, rfl⟩, hname, htext⟩

/-! ### Values -/

/-- Some parameter in the value is recognised and has a port that cannot be read. -/
def HasBadPort (value : String) : Prop :=
  ∃ token ∈ DomainSpec.tokens value.toList, ∃ param ∈ token.written, ¬ param.Valid

/-- Nothing stops the reading of values exactly when none of them has a bad port. -/
theorem stop_readValues_eq_none_iff_hasBadPort {values : List String}
    {initial : List DomainSpec} :
    (readValues values initial).stop = none ↔ ∀ value ∈ values, ¬ HasBadPort value := by
  rw [stop_readValues_eq_none_iff, List.forall_mem_flatMap]
  refine forall₂_congr fun value _ => ?_
  rw [HasBadPort]
  push Not
  exact forall₂_congr fun token hmem => DomainSpec.stop_read_eq_none_iff hmem

/-! ### The address -/

/-- The attributes hold an address: one that counts as a value and is not blank as a text. -/
def Addressed (attributes : Json) : Prop :=
  ∃ network address, attributes.field? "NetworkSettings" = some (.obj network) ∧
    network.lookup "IPAddress" = some address ∧ address.isEmpty = false ∧
    Text.strip address.text ≠ ""

theorem bridgeAddress_ne_empty_iff : bridgeAddress attributes ≠ "" ↔ Addressed attributes := by
  rw [Addressed, ← exists_field?_attributeSection_iff, bridgeAddress]
  cases (attributeSection "NetworkSettings" attributes).field? "IPAddress" with
  | none => simp [Json.isEmpty]
  | some address => cases hempty : address.isEmpty <;> simp [hempty]

/-- Containers are reached by their addresses, the variable is there, and there is no address. -/
def Unreachable (settings : Settings) (attributes : Json) : Prop :=
  (∃ value, Declares attributes settings.envVar value) ∧ settings.useNames = false ∧
    ¬ Addressed attributes

/-! ### Attributes -/

/-- What the items of the environment, as texts, say about domains. -/
def declarationOf (settings : Settings) (attributes : Json) : Declaration :=
  readEnvironment (((environmentItems? attributes).getD []).map Json.text) settings.envVar []

variable {settings : Settings}

theorem present_declarationOf_iff :
    (declarationOf settings attributes).present = true ↔
      ∃ value, Declares attributes settings.envVar value := by
  simp only [← mem_declaredValues_iff, declarationOf, readEnvironment, Bool.not_eq_true',
    List.isEmpty_eq_false_iff_exists_mem]

theorem stop_declarationOf_eq_none_iff :
    (declarationOf settings attributes).parse.stop = none ↔
      ¬ ∃ value, Declares attributes settings.envVar value ∧ HasBadPort value := by
  rw [declarationOf, readEnvironment, stop_readValues_eq_none_iff_hasBadPort]
  push Not
  exact forall_congr' fun value => imp_congr_left mem_declaredValues_iff

/-- Only addresses can be missing: a container that is reached by its name has a host. -/
theorem unreachable_iff {name : String} :
    Unreachable settings attributes ↔
      settings.useNames = false ∧ hostOf settings name attributes = "" ∧
        (declarationOf settings attributes).present = true := by
  rw [Unreachable, ← bridgeAddress_ne_empty_iff, not_not, present_declarationOf_iff]
  constructor
  · rintro ⟨hdeclared, hnames, haddress⟩
    exact ⟨hnames, by rw [hostOf, hnames]; exact haddress, hdeclared⟩
  · rintro ⟨hnames, hhost, hdeclared⟩
    rw [hostOf, hnames] at hhost
    exact ⟨hdeclared, hnames, hhost⟩

/-- The environment is misshapen, a value of the variable has a bad port, or there is no address
where one is needed. -/
def Unusable (settings : Settings) (attributes : Json) : Prop :=
  Misshapen attributes ∨
    (∃ value, Declares attributes settings.envVar value ∧ HasBadPort value) ∨
      Unreachable settings attributes

/-- Unusable attributes are rejected, for the first reason that applies. All others give an
inspection. -/
theorem ofAttributes_cases (settings : Settings) (name : String) (attributes : Json) :
    let outcome := (ofAttributes settings name attributes).2
    let declaration := declarationOf settings attributes
    Unusable settings attributes ∧
      (∃ cause, outcome = .error ⟨cause, some name⟩ ∧ cause.kind = .inspection ∧
        (cause = .noAddress → Unreachable settings attributes)) ∨
    ¬ Unusable settings attributes ∧ declaration.parse.stop = none ∧
      outcome = .ok ⟨hostOf settings name attributes, declaration.parse.specs,
        declaration.present⟩ := by
  intro outcome declaration
  -- The three things that can be wrong are looked at in the order of the code, each with the ones
  -- before it out of the way.
  cases hl : environmentLines? attributes with
  | none =>
    have hshape : Misshapen attributes := environmentLines?_eq_none_iff.1 hl
    have houtcome : outcome = .error ⟨.envNotList, some name⟩ := by
      simp only [outcome, ofAttributes, hl]
    exact Or.inl ⟨Or.inl hshape, _, houtcome, rfl, fun hcause => by cases hcause⟩
  | some lines =>
    have hshape : ¬ Misshapen attributes := by
      rw [← environmentLines?_eq_none_iff, hl]
      exact Option.some_ne_none lines
    have hread : readEnvironment lines settings.envVar [] = declaration := by
      rw [eq_of_environmentLines? hl]
      rfl
    have hclean : declaration.parse.stop = none ↔ _ := stop_declarationOf_eq_none_iff
    cases hstop : declaration.parse.stop with
    | some stop =>
      have hport := not_not.1 (mt hclean.2 (by simp [hstop]))
      have houtcome := ofAttributes_of_stop hl (by rw [hread]; exact hstop) name
      exact Or.inl ⟨Or.inr (Or.inl hport), _, houtcome, rfl, fun hcause => by cases hcause⟩
    | none =>
      have houtcome := ofAttributes_of_clean hl (by rw [hread]; exact hstop) name
      rw [hread] at houtcome
      by_cases hreach : Unreachable settings attributes
      · rw [if_pos (unreachable_iff.1 hreach)] at houtcome
        exact Or.inl ⟨Or.inr (Or.inr hreach), _, houtcome, rfl, fun _ => hreach⟩
      · rw [if_neg (mt unreachable_iff.2 hreach)] at houtcome
        -- All three have been ruled out by now.
        have husable : ¬ Unusable settings attributes := by
          rintro (h | h | h)
          · exact hshape h
          · exact hclean.1 hstop h
          · exact hreach h
        exact Or.inr ⟨husable, rfl, houtcome⟩

/-- Attributes of any shape give an inspection or a failed inspection of the container. They are
rejected exactly if the environment is misshapen, some value of the variable has a bad port, or the
variable is there, containers are reached by their addresses and there is no address. An inspection
that they give holds what the environment says, and a host if the variable is there. Without the
variable nothing is rejected for want of an address. -/
theorem ofAttributes_rejects_iff (settings : Settings) (name : String)
    (fields : List (String × Json)) :
    let attributes := Json.obj fields
    let declaration := declarationOf settings attributes
    let outcome := (ofAttributes settings name attributes).2
    ((∃ fault, outcome = .error fault) ↔
      Misshapen attributes ∨
      (∃ value, Declares attributes settings.envVar value ∧ HasBadPort value) ∨
      Unreachable settings attributes) ∧
    (∀ fault, outcome = .error fault →
      fault.kind = .inspection ∧ fault.container = some name ∧
        (fault.cause = .noAddress → ∃ value, Declares attributes settings.envVar value)) ∧
    ∀ inspection, outcome = .ok inspection →
      declaration.parse.stop = none ∧ inspection.specs = declaration.parse.specs ∧
        inspection.declared = declaration.present ∧
        (declaration.present = true ↔ ∃ value, Declares attributes settings.envVar value) ∧
        inspection.host = hostOf settings name attributes ∧
        (inspection.declared = true → settings.useNames = false → inspection.host ≠ "") := by
  intro attributes declaration outcome
  rcases ofAttributes_cases settings name attributes with
    ⟨hunusable, cause, houtcome, hkind, haddress⟩ | ⟨husable, hstop, houtcome⟩
  · refine ⟨iff_of_true ⟨_, houtcome⟩ hunusable, fun fault hfault => ?_, ?_⟩
    · cases houtcome.symm.trans hfault
      exact ⟨hkind, rfl, fun hcause => (haddress hcause).1⟩
    · intro inspection hinspection
      cases houtcome.symm.trans hinspection
  · have hnone : ∀ fault, outcome ≠ .error fault := by
      intro fault hfault
      cases houtcome.symm.trans hfault
    refine ⟨iff_of_false (fun ⟨fault, hfault⟩ => hnone fault hfault) husable,
      fun fault hfault => absurd hfault (hnone fault), fun inspection hinspection => ?_⟩
    cases houtcome.symm.trans hinspection
    refine ⟨hstop, rfl, rfl, present_declarationOf_iff, rfl, fun hdeclared hnames hhost => ?_⟩
    -- A container without an address where one is needed has been rejected already.
    have hreach := unreachable_iff.2 ⟨hnames, hhost, hdeclared⟩
    exact husable (Or.inr (Or.inr hreach))

/-- An environment with the variable and with items that are no texts, and an address that is a
zero. That is no address, and none is needed where containers are reached by their names. -/
theorem ofAttributes_rejects_zero_address :
    let attributes := Json.obj
      [("Config", .obj [("Env", .arr [.int 7, .null, .str "BEACHHEAD_DOMAINS=one.org:tls"])]),
        ("NetworkSettings", .obj [("IPAddress", .int 0)])]
    (∃ fault, (ofAttributes {} "web" attributes).2 = .error fault ∧ fault.kind = .inspection ∧
      fault.container = some "web") ∧
    (ofAttributes { useNames := true } "web" attributes).2 =
      .ok ⟨"web", [⟨"one.org", some 80, some 443⟩], true⟩ ∧
    (declarationOf { useNames := true } attributes).parse.specs =
      [⟨"one.org", some 80, some 443⟩] := by
  intro attributes
  have hdeclares : Declares attributes ({} : Settings).envVar "one.org:tls" := by
    refine ⟨by decide, _, rfl, .str "BEACHHEAD_DOMAINS=one.org:tls", ?_, by decide⟩
    exact List.mem_cons_of_mem _ (List.mem_cons_of_mem _ List.mem_cons_self)
  -- A zero is falsy, so it counts as no address although something stands there.
  have haddress : ¬ Addressed attributes := by
    rw [← bridgeAddress_ne_empty_iff]
    decide
  have hnames : (ofAttributes { useNames := true } "web" attributes).2 =
      .ok ⟨"web", [⟨"one.org", some 80, some 443⟩], true⟩ := by
    decide +kernel
  obtain ⟨hrejects, hfault, -⟩ := ofAttributes_rejects_iff {} "web" _
  obtain ⟨fault, hreject⟩ := hrejects.2 (Or.inr (Or.inr ⟨⟨_, hdeclares⟩, rfl, haddress⟩))
  obtain ⟨hkind, hcontainer, -⟩ := hfault fault hreject
  obtain ⟨-, -, hok⟩ := ofAttributes_rejects_iff { useNames := true } "web" _
  obtain ⟨-, hspecs, -⟩ := hok _ hnames
  exact ⟨⟨fault, hreject, hkind, hcontainer⟩, hnames, hspecs.symm⟩

end RegistrySync.Inspection
