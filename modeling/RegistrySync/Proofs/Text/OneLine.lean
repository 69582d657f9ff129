/-
Texts of one line.

* `OneLine` — a text without a line break;
* `oneLine_showInt`, `oneLine_quoted` — numerals and quoted texts are of one line, whatever they
  are made of.
-/
import RegistrySync.Proofs.Text.Cut
import RegistrySync.Proofs.Text.Numeral
import RegistrySync.Text.Quoted

namespace RegistrySync.Text

/-- A text without a line break. -/
def OneLine (s : String) : Prop := ∀ c ∈ s.toList, c ≠ '\n'

instance (s : String) : Decidable (OneLine s) := List.decidableBAll (· ≠ '\n') s.toList

theorem OneLine.append {a b : String} (ha : OneLine a) (hb : OneLine b) : OneLine (a ++ b) := by
  rw [OneLine, String.toList_append, List.forall_mem_append]
  exact ⟨ha, hb⟩

theorem oneLine_intercalate {sep : String} {parts : List String} (hsep : OneLine sep)
    (hparts : ∀ part ∈ parts, OneLine part) : OneLine (sep.intercalate parts) := by
  rw [OneLine, String.toList_intercalate]
  exact forall_mem_intercalate hsep (List.forall_mem_map.2 hparts)

theorem ne_newLine_of_mem_digitsOf {n : Nat} {c : Char} (h : c ∈ digitsOf n) : c ≠ '\n' := by
  rintro rfl
  exact absurd (isDigit_of_mem_digitsOf h) (by decide)

theorem oneLine_showInt (i : Int) : OneLine (showInt i) := by
  rw [OneLine, showInt, String.toList_ofList]
  cases i with
  | ofNat n => exact fun c => ne_newLine_of_mem_digitsOf
  | negSucc n => exact List.forall_mem_cons.2 ⟨by decide, fun c => ne_newLine_of_mem_digitsOf⟩

theorem ne_newLine_of_mem_hexDigits {width n : Nat} {c : Char} (h : c ∈ hexDigits width n) :
    c ≠ '\n' := by
  have hall : ∀ d < 16, Nat.digitChar d ≠ '\n' := by decide
  obtain ⟨place, -, rfl⟩ := List.mem_map.1 h
  exact hall _ (Nat.mod_lt _ (by decide))

theorem ne_newLine_of_mem_numberEscape (d : Char) : ∀ c ∈ numberEscape d, c ≠ '\n' := by
  have hescape : ∀ (letter : Char) (width : Nat), letter ≠ '\n' →
      ∀ c ∈ '\\' :: letter :: hexDigits width d.toNat, c ≠ '\n' := by
    intro letter width hletter
    rw [List.forall_mem_cons, List.forall_mem_cons]
    exact ⟨by decide, hletter, fun c => ne_newLine_of_mem_hexDigits⟩
  unfold numberEscape
  simp only
  split
  · exact hescape 'x' 2 (by decide)
  · split
    · exact hescape 'u' 4 (by decide)
    · exact hescape 'U' 8 (by decide)

/-- A line break between quotes is written with a letter, and no other character gives one. -/
theorem ne_newLine_of_mem_quoteChar {quote : Char} (hquote : quote ≠ '\n') (d : Char) :
    ∀ c ∈ quoteChar quote d, c ≠ '\n' := by
  unfold quoteChar
  split
  · rename_i hd
    have hne : d ≠ '\n' := by
      rcases hd with rfl | rfl
      · exact hquote
      · decide
    simpa using hne
  · cases hl : quotedLetters.lookup d with
    -- A new line has a letter that stands for it, and no such letter is a new line.
    | some letter =>
      have hall : ∀ pair ∈ quotedLetters, pair.2 ≠ '\n' := by decide
      obtain ⟨front, back, hsplit, -⟩ := List.lookup_eq_some_iff.1 hl
      have hletter : letter ≠ '\n' := hall (d, letter) (by simp [hsplit])
      simpa using hletter
    | none =>
      have hne : d ≠ '\n' := by
        rintro rfl
        cases hl
      simp only
      split
      · simpa using hne
      · exact ne_newLine_of_mem_numberEscape d

theorem oneLine_quoted (s : String) : OneLine (quoted s) := by
  have hquote : delimiter s.toList ≠ '\n' := by
    rcases delimiter_eq s.toList with h | h <;> rw [h] <;> decide
  rw [OneLine, quoted, String.toList_ofList, quoteChars, List.forall_mem_cons,
    List.forall_mem_append, List.forall_mem_singleton]
  refine ⟨hquote, fun c hc => ?_, hquote⟩
  obtain ⟨d, -, hd⟩ := List.mem_flatMap.1 hc
  exact ne_newLine_of_mem_quoteChar hquote d c hd

end RegistrySync.Text
