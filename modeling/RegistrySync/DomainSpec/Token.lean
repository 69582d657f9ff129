/-
The tokens of a domain-spec text: where the domains are in it, and what parameters follow
each.

* `tokensFrom_drop` — skipping characters is the same as starting later;
* `Token.width_pos` — a token has characters, so a search always goes on behind it.

Design notes: a text is not split at its blanks. The search looks for the first place where
a host can start; whatever stands before it is passed over, and the search goes on behind
the token. It walks along the text with a count of the characters still to be skipped, which
makes it a recursion on the text.
-/
import RegistrySync.Text.Blank

namespace RegistrySync.DomainSpec

/-- The characters of a host name. -/
def isHostChar (c : Char) : Bool := c.isAlphanum || c == '.' || c == '-'

/-- The longest stretch of host characters at the front that ends in a letter or digit. -/
def hostStretch (cs : List Char) : List Char :=
  ((cs.takeWhile isHostChar).reverse.dropWhile fun c => !c.isAlphanum).reverse

/-- A domain and the text of its parameters. -/
structure Token where
  /-- The domain, without a dot behind it. -/
  host : List Char
  /-- What stands behind the colon, up to the next blank. -/
  params : Option (List Char)
  /-- How many characters the token takes. -/
  width : Nat
  deriving DecidableEq, Repr

/-- The parameters at the front of a text: a colon and characters that are no blanks. -/
def paramBlock : List Char → Option (List Char)
  | ':' :: rest =>
    let block := rest.takeWhile (!Text.isBlank ·)
    if block.isEmpty then none else some block
  | _ => none

/-- One if a dot stands at the front, else zero. -/
def dotWidth : List Char → Nat
  | '.' :: _ => 1
  | _ => 0

/-- The token of a host at the front of a text: the host, a dot behind it that is dropped, and
its parameters. -/
def Token.ofHost (host cs : List Char) : Token :=
  let behind := cs.drop host.length
  let dot := dotWidth behind
  match paramBlock (behind.drop dot) with
  | some block => ⟨host, some block, host.length + dot + 1 + block.length⟩
  | none => ⟨host, none, host.length + dot⟩

/-- The token that starts at the front of the text. A host starts with a letter or digit and
has at least three characters. -/
def Token.front? (cs : List Char) : Option Token :=
  if cs.head?.any Char.isAlphanum then
    let host := hostStretch cs
    if 3 ≤ host.length then some (Token.ofHost host cs) else none
  else none

/-- The tokens of a text of which the first `skip` characters are passed over. -/
def tokensFrom : Nat → List Char → List Token
  | _, [] => []
  | skip + 1, _ :: rest => tokensFrom skip rest
  | 0, c :: rest =>
    match Token.front? (c :: rest) with
    | some token => token :: tokensFrom (token.width - 1) rest
    | none => tokensFrom 0 rest

/-- The tokens of a text, in order. -/
def tokens (cs : List Char) : List Token := tokensFrom 0 cs

/-- Skipping characters is the same as starting later. -/
theorem tokensFrom_drop (skip : Nat) (cs : List Char) :
    tokensFrom skip cs = tokens (cs.drop skip) := by
  induction cs generalizing skip with
  | nil => cases skip <;> rfl
  | cons c rest ih =>
    cases skip with
    | zero => rfl
    | succ skip => simpa [tokensFrom] using ih skip

/-- A token has characters, so a search always goes on behind it. -/
theorem Token.width_pos {cs : List Char} {token : Token} (h : Token.front? cs = some token) :
    0 < token.width := by
  unfold Token.front? at h
  split at h
  · simp only at h
    split at h
    · cases h
      unfold Token.ofHost
      simp only
      split <;> simp only <;> omega
    · cases h
  · cases h

end RegistrySync.DomainSpec
