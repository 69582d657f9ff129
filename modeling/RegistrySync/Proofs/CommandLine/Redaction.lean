/-
Secrets on a command line do not reach the line that is logged.

* `IsSecretOption`, `HoldsSecret` — words that announce a secret, and words that hold one;
* `SameButSecrets` — command lines that are equal but for their secrets, read from left to right;
* `redact_congr` — of two such command lines the same is left when the secrets are replaced;
* `redact_of_public` — of a command line without secrets everything is left;
* `invocation_hides_secrets` — both of the line that is logged.

A word that is taken as the value of an option is not looked at, so an option that stands where a
value is expected does not hide the word behind it. Empty words are passed over on the way to a
value.
-/
import RegistrySync.CommandLine.Invocation
import RegistrySync.Proofs.Text.Cut

namespace RegistrySync.CommandLine

/-! ### Words with secrets -/

/-- Whether a word is one of the two options whose value is a secret, in any case. -/
def IsSecretOption (word : String) : Prop :=
  Text.lowerCase word = "--redis-password" ∨ Text.lowerCase word = "--password"

/-- Whether a word contains `password=`, in any case. -/
def HoldsSecret (word : String) : Prop :=
  "password=".toList <:+: Text.lower word.toList

instance (word : String) : Decidable (IsSecretOption word) :=
  inferInstanceAs (Decidable (_ ∨ _))

instance (word : String) : Decidable (HoldsSecret word) :=
  inferInstanceAs (Decidable (_ <:+: _))

theorem isSecretOption_iff {word : String} : isSecretOption word = true ↔ IsSecretOption word := by
  simp [isSecretOption, secretOptions, IsSecretOption]

theorem holdsSecret_iff {word : String} : holdsSecret word = true ↔ HoldsSecret word :=
  Text.occursIn_iff

/-- An option whose value is a secret holds no equals sign. -/
theorem HoldsSecret.not_isSecretOption {word : String} (h : HoldsSecret word) :
    ¬IsSecretOption word := by
  have hequals : '=' ∈ (Text.lowerCase word).toList := by
    rw [Text.lowerCase, String.toList_ofList]
    exact h.mem (by decide)
  intro hoption
  rcases hoption with hword | hword
  · rw [hword] at hequals
    exact absurd hequals (by decide)
  · rw [hword] at hequals
    exact absurd hequals (by decide)

theorem HoldsSecret.ne_empty {word : String} (h : HoldsSecret word) : word ≠ "" := by
  rintro rfl
  exact absurd h (by decide)

/-! ### One word at a time -/

theorem redact_empty {word : String} (hide : Bool) (rest : List String) (h : word = "") :
    redact hide (word :: rest) = redact hide rest := by
  rw [redact, if_pos (String.isEmpty_iff.2 h)]

theorem redact_blanks {blanks : List String} (hide : Bool) (rest : List String)
    (h : ∀ word ∈ blanks, word = "") : redact hide (blanks ++ rest) = redact hide rest := by
  induction blanks with
  | nil => rfl
  | cons word others ih =>
    obtain ⟨hword, hothers⟩ := List.forall_mem_cons.1 h
    rw [List.cons_append, redact_empty hide _ hword, ih hothers]

/-- Whatever is taken as a value is replaced. -/
theorem redact_value {secret : String} (rest : List String) (h : secret ≠ "") :
    redact true (secret :: rest) = redacted :: redact false rest := by
  rw [redact, if_neg (mt String.isEmpty_iff.1 h), if_pos rfl]

theorem redact_option {option : String} (rest : List String) (h : IsSecretOption option) :
    redact false (option :: rest) = option :: redact true rest := by
  have hne : option ≠ "" := by
    rintro rfl
    exact absurd h (by decide)
  rw [redact, if_neg (mt String.isEmpty_iff.1 hne), if_neg Bool.false_ne_true,
    if_pos (isSecretOption_iff.2 h)]

theorem redact_assigned {word : String} (rest : List String) (h : HoldsSecret word) :
    redact false (word :: rest) = withoutSecret word :: redact false rest := by
  rw [redact, if_neg (mt String.isEmpty_iff.1 h.ne_empty), if_neg Bool.false_ne_true,
    if_neg (mt isSecretOption_iff.1 h.not_isSecretOption), if_pos (holdsSecret_iff.2 h)]

theorem redact_plain {word : String} (rest : List String) (hne : word ≠ "")
    (hoption : ¬IsSecretOption word) (hheld : ¬HoldsSecret word) :
    redact false (word :: rest) = word :: redact false rest := by
  rw [redact, if_neg (mt String.isEmpty_iff.1 hne), if_neg Bool.false_ne_true,
    if_neg (mt isSecretOption_iff.1 hoption), if_neg (mt holdsSecret_iff.1 hheld)]

/-- Nothing behind the first equals sign is left of a word that holds a secret. -/
theorem withoutSecret_append {name secret : List Char} (h : '=' ∉ name) :
    withoutSecret (String.ofList (name ++ '=' :: secret)) =
      String.ofList name ++ "=" ++ redacted := by
  rw [withoutSecret, String.toList_ofList, Text.cut_append_cons h]

/-! ### Two command lines -/

/-- Command lines that are equal but for secret values, read from left to right. -/
inductive SameButSecrets : List String → List String → Prop
  /-- Nothing is left to read. -/
  | nil : SameButSecrets [] []
  /-- The same word, which has nothing to do with a secret. -/
  | word {word : String} {rest rest' : List String} (hoption : ¬IsSecretOption word)
      (hheld : ¬HoldsSecret word) (h : SameButSecrets rest rest') :
      SameButSecrets (word :: rest) (word :: rest')
  /-- The same option, and two words as its value, whatever they are. -/
  | value {option secret secret' : String} {blanks blanks' rest rest' : List String}
      (hoption : IsSecretOption option) (hblanks : ∀ word ∈ blanks, word = "")
      (hblanks' : ∀ word ∈ blanks', word = "") (hsecret : secret ≠ "") (hsecret' : secret' ≠ "")
      (h : SameButSecrets rest rest') :
      SameButSecrets (option :: blanks ++ secret :: rest) (option :: blanks' ++ secret' :: rest')
  /-- Two words that hold a secret behind the same name and an equals sign. -/
  | assigned {name secret secret' : List Char} {rest rest' : List String} (hname : '=' ∉ name)
      (hheld : HoldsSecret (String.ofList (name ++ '=' :: secret)))
      (hheld' : HoldsSecret (String.ofList (name ++ '=' :: secret')))
      (h : SameButSecrets rest rest') :
      SameButSecrets (String.ofList (name ++ '=' :: secret) :: rest)
        (String.ofList (name ++ '=' :: secret') :: rest')

/-- Command lines that are equal but for secret values are the same without them. -/
theorem redact_congr {words words' : List String} (h : SameButSecrets words words') :
    redact false words = redact false words' := by
  induction h with
  | nil => rfl
  | @word word rest rest' hoption hheld h ih =>
    by_cases hempty : word = ""
    · rw [redact_empty _ _ hempty, redact_empty _ _ hempty, ih]
    · rw [redact_plain _ hempty hoption hheld, redact_plain _ hempty hoption hheld, ih]
  | @value option secret secret' blanks blanks' rest rest' hoption hblanks hblanks' hsecret hsecret'
      h ih =>
    -- Whatever word is the value is used up by the option, even if it is an option itself.
    rw [List.cons_append, List.cons_append, redact_option _ hoption, redact_option _ hoption,
      redact_blanks _ _ hblanks, redact_blanks _ _ hblanks', redact_value _ hsecret,
      redact_value _ hsecret', ih]
  | assigned hname hheld hheld' h ih =>
    rw [redact_assigned _ hheld, redact_assigned _ hheld', withoutSecret_append hname,
      withoutSecret_append hname, ih]

/-- Where nothing has to do with a secret, every word is left but for the empty ones. -/
theorem redact_of_public {words : List String}
    (h : ∀ word ∈ words, ¬IsSecretOption word ∧ ¬HoldsSecret word) :
    redact false words = words.filter (· ≠ "") := by
  induction words with
  | nil => rfl
  | cons word rest ih =>
    obtain ⟨⟨hoption, hheld⟩, hrest⟩ := List.forall_mem_cons.1 h
    by_cases hempty : word = ""
    · rw [redact_empty _ _ hempty, ih hrest, List.filter_cons_of_neg (by simpa using hempty)]
    · rw [redact_plain _ hempty hoption hheld, ih hrest,
        List.filter_cons_of_pos (by simpa using hempty)]

/-- The line that is logged is the same for command lines that are equal but for secret values.
What has nothing to do with a secret is in it. -/
theorem invocation_hides_secrets (name : Option String) :
    (∀ words words', SameButSecrets words words' →
      invocationLine name words = invocationLine name words') ∧
    (∀ words, (∀ word ∈ words, ¬IsSecretOption word ∧ ¬HoldsSecret word) →
      invocationLine name words =
        Text.shellLine (calledName name :: words.filter (· ≠ ""))) := by
  constructor
  · intro words words' h
    rw [invocationLine, invocationLine, redact_congr h]
  · intro words h
    rw [invocationLine, redact_of_public h]

/-- An option where a value is expected, an empty word on the way to a value, and a password with an
equals sign in it. -/
theorem invocation_hides_secrets_option_as_value :
    SameButSecrets ["run", "--REDIS-PASSWORD", "", "--password", "web", "--Password=a=b"]
      ["run", "--REDIS-PASSWORD", "hunter2", "web", "--Password=c"] ∧
    invocationLine none ["run", "--REDIS-PASSWORD", "", "--password", "web", "--Password=a=b"] =
      invocationLine none ["run", "--REDIS-PASSWORD", "hunter2", "web", "--Password=c"] ∧
    (∀ word ∈ ["run", "", "my container"], ¬IsSecretOption word ∧ ¬HoldsSecret word) ∧
    invocationLine none ["run", "", "my container"] =
      "beachhead-companion run 'my container'" := by
  have hassigned : SameButSecrets ["--Password=a=b"] ["--Password=c"] :=
    @SameButSecrets.assigned "--Password".toList "a=b".toList "c".toList [] []
      (by decide) (by decide +kernel) (by decide +kernel) .nil
  -- The option in the place of the value is taken for the value, and an empty word in front of it
  -- is passed over.
  have hvalue : SameButSecrets ["--REDIS-PASSWORD", "", "--password", "web", "--Password=a=b"]
      ["--REDIS-PASSWORD", "hunter2", "web", "--Password=c"] :=
    @SameButSecrets.value "--REDIS-PASSWORD" "--password" "hunter2" [""] [] _ _
      (by decide +kernel) (by decide) (by decide) (by decide) (by decide)
      (.word (by decide +kernel) (by decide +kernel) hassigned)
  have hsame : SameButSecrets
      ["run", "--REDIS-PASSWORD", "", "--password", "web", "--Password=a=b"]
      ["run", "--REDIS-PASSWORD", "hunter2", "web", "--Password=c"] :=
    .word (by decide +kernel) (by decide +kernel) hvalue
  have hpublic : ∀ word ∈ ["run", "", "my container"],
      ¬IsSecretOption word ∧ ¬HoldsSecret word := by decide +kernel
  obtain ⟨hhidden, hshown⟩ := invocation_hides_secrets none
  refine ⟨hsame, hhidden _ _ hsame, hpublic, ?_⟩
  rw [hshown _ hpublic]
  decide +kernel

end RegistrySync.CommandLine
