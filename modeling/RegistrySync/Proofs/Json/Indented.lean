/-
The two written forms of a tree differ in their layout only.

* `indentedItems_eq`, `indentedFields_eq` — the parts of the indented form, one by one;
* `squeezed_block` — parts on lines of their own squeeze to the parts between commas;
* `squeezed_indentedAt` — the indented form of a whole tree squeezes to its compact form, at
  any depth.
-/
import RegistrySync.Proofs.Json.Grammar

namespace RegistrySync.Json

theorem indentedItems_eq (depth : Nat) (items : List Json) :
    indentedItems depth items = items.map (indentedAt depth) := by
  induction items with
  | nil => simp [indentedItems]
  | cons item rest ih => simp [indentedItems, ih]

theorem indentedFields_eq (depth : Nat) (fields : List (String × Json)) :
    indentedFields depth fields =
      fields.map fun field => (field.1, literal field.1 ++ ": " ++ field.2.indentedAt depth) := by
  induction fields with
  | nil => simp [indentedFields]
  | cons field rest ih => simp [indentedFields, ih]

theorem squeezed_newLine (depth : Nat) : Squeezed (newLine depth).toList [] := by
  refine squeezed_of_blank ?_
  rw [newLine, String.toList_ofList, List.forall_mem_cons]
  exact ⟨by decide, fun c hc => by rw [(List.mem_replicate.1 hc).2]; decide⟩

/-- Parts on lines of their own squeeze to the parts between commas. -/
theorem squeezed_block {opening closing : Char} (hopening : IsMark opening)
    (hclosing : IsMark closing) (depth : Nat) {parts : List String} {lefts : List (List Char)}
    (h : List.Forall₂ Squeezed (parts.map String.toList) lefts) :
    Squeezed (block (String.singleton opening) (String.singleton closing) depth parts).toList
      (opening :: ([','].intercalate lefts ++ [closing])) := by
  -- Without parts there is no line break between the brackets either.
  by_cases hnone : parts = []
  · subst hnone
    cases h
    have hbare : Squeezed [] [] := squeezed_nil
    simpa [block] using hbare.between hopening hclosing
  · have hcomma : Squeezed [','] [','] := squeezed_of_isMark (by decide)
    have hsep : Squeezed (',' :: (newLine (depth + 1)).toList) [','] :=
      hcomma.append (squeezed_newLine (depth + 1))
    have hinside := (squeezed_newLine (depth + 1)).append
      ((squeezed_intercalate hsep h).append (squeezed_newLine depth))
    have hblock := hinside.between hopening hclosing
    simpa [block, hnone] using hblock

/-- The indented form of a whole tree squeezes to its compact form. -/
theorem squeezed_indentedAt {value : Json} (h : Whole value) (depth : Nat) :
    Squeezed (value.indentedAt depth).toList value.compact.toList := by
  -- Parts stand one level deeper than the whole, so the depth is not fixed.
  induction h generalizing depth with
  | null => simpa [indentedAt, compact, ordered] using (spells_compact .null).squeezed
  | bool value =>
    have hself := (spells_compact (.bool value)).squeezed
    cases value <;> simpa [indentedAt, compact] using hself
  | int value => simpa [indentedAt, compact] using (spells_compact (.int value)).squeezed
  | str value => simpa [indentedAt, compact] using (spells_compact (.str value)).squeezed
  | @arr items _ ih =>
    have hitems : List.Forall₂ Squeezed
        ((items.map (indentedAt (depth + 1))).map String.toList)
        (items.map fun item => item.compact.toList) := by
      rw [List.map_map, List.forall₂_map_left_iff, List.forall₂_map_right_iff, List.forall₂_same]
      exact fun item hitem => ih item hitem (depth + 1)
    have hbrackets : IsMark '[' ∧ IsMark ']' := by decide
    have hblock := squeezed_block hbrackets.1 hbrackets.2 depth hitems
    rw [indentedAt, indentedItems_eq, compact_arr]
    simpa [Function.comp_def] using hblock
  | @obj fields _ ih =>
    -- A field is its name, a colon, a blank that is squeezed away, and its value.
    let texts := (sortFields fields).map fun field =>
      literal field.1 ++ ": " ++ field.2.indentedAt (depth + 1)
    have hfields : List.Forall₂ Squeezed (texts.map String.toList)
        ((sortFields fields).map fun field =>
          (literal field.1).toList ++ ':' :: field.2.compact.toList) := by
      rw [List.map_map, List.forall₂_map_left_iff, List.forall₂_map_right_iff, List.forall₂_same]
      intro field hfield
      have hname := (literalText_literal field.1).squeezed
      have hcolon : Squeezed [':'] [':'] := squeezed_of_isMark (by decide)
      have hspace : Squeezed [' '] [] := squeezed_of_blank (List.forall_mem_singleton.2 (by decide))
      have hvalue := ih field (mem_sortFields.1 hfield) (depth + 1)
      simpa using hname.append ((hcolon.append hspace).append hvalue)
    have hbraces : IsMark '{' ∧ IsMark '}' := by decide
    have hblock := squeezed_block hbraces.1 hbraces.2 depth hfields
    rw [indentedAt, indentedFields_eq, sortFields_map, compact, compactFields_eq, sortFields_map]
    simpa [texts, Function.comp_def] using hblock

end RegistrySync.Json
