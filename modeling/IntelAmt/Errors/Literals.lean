import Mathlib.Data.List.ReduceOption
import IntelAmt.Foundation.Replacing

/-!
# Literal secrets

The secrets that a caller hands to the redaction, which are removed wherever
they stand before any pattern is looked for.  A text is a list of code points.
-/

namespace IntelAmt
namespace Errors

open Foundation

def points (text : String) : List Nat := text.toList.map Char.toNat

def redacted : List Nat := points "[REDACTED]"

/-- `extra_secrets`: nothing, one text, or what an iterable yields, where `None`
is passed over. -/
inductive ExtraSecrets where
  | absent
  | text (secret : List Nat)
  | items (secrets : List (Option (List Nat)))

def ExtraSecrets.secrets : ExtraSecrets -> List (List Nat)
  | absent => []
  | text secret => [secret]
  | items secrets => secrets.reduceOption

/-- The set of the secrets that are not empty, in any order. -/
structure SetOf (found secrets : List (List Nat)) : Prop where
  nodup : found.Nodup
  mem {secret : List Nat} :
    secret ∈ found ↔ secret ∈ secrets ∧ secret ≠ []

/-- `sorted(found, key=len, reverse=True)`. -/
def longestFirst (found : List (List Nat)) : List (List Nat) :=
  found.mergeSort fun a b => b.length ≤ a.length

/-- The literals of `redact`, for a set of secrets. -/
def redactLiterals (found : List (List Nat)) (text : List Nat) : List Nat :=
  replaceAll redacted (longestFirst found) text

/-- A secret that can neither contain the marker nor be contained in it. -/
structure Removable (secret : List Nat) : Prop where
  start : '['.toNat ∉ secret
  stop : ']'.toNat ∉ secret
  word : ¬ secret <:+: points "REDACTED"

theorem mem_longestFirst {found : List (List Nat)} {secret : List Nat} :
    secret ∈ longestFirst found ↔ secret ∈ found :=
  (List.mergeSort_perm _ _).mem_iff

theorem Removable.foreign {secret : List Nat} (h : Removable secret)
    (hne : secret ≠ []) :
    Foreign '['.toNat ']'.toNat (points "REDACTED") secret where
  nonempty := hne
  start := h.start
  stop := h.stop
  word := h.word

/-- No secret is left in the text, and what none of them overlaps is kept. -/
theorem redactLiterals_clean (given : ExtraSecrets) (text : List Nat)
    {found : List (List Nat)} (hset : SetOf found given.secrets)
    (hremovable : forall secret, secret ∈ given.secrets -> secret ≠ [] ->
      Removable secret) :
    (exists pieces, Redacts redacted found text (redactLiterals found text)
      pieces) ∧
    forall secret, secret ∈ given.secrets -> secret ≠ [] ->
      ¬ secret <:+: redactLiterals found text := by
  have hforeign : forall secret, secret ∈ longestFirst found ->
      Foreign '['.toNat ']'.toNat (points "REDACTED") secret := by
    intro secret hsecret
    rcases hset.mem.mp (mem_longestFirst.mp hsecret) with ⟨hgiven, hne⟩
    exact (hremovable secret hgiven hne).foreign hne
  have hmarker : '['.toNat :: (points "REDACTED" ++ [']'.toNat]) = redacted :=
    rfl
  rcases replaceAll_redacts hforeign text with ⟨⟨pieces, hpieces⟩, hgone⟩
  rw [hmarker] at hpieces hgone
  constructor
  · refine ⟨pieces, hpieces.source, hpieces.shown,
      fun h => mem_longestFirst.mp (hpieces.removed h), ?_⟩
    intro before part after htext hapart
    exact hpieces.kept htext fun secret hsecret =>
      hapart secret (mem_longestFirst.mp hsecret)
  · intro secret hgiven hne
    exact hgone secret (mem_longestFirst.mpr (hset.mem.mpr ⟨hgiven, hne⟩))

/-- A secret in another one, both of them twice, and an empty one. -/
theorem redactLiterals_clean_nested :
    let given := ExtraSecrets.items
      [some (points "ab"), none, some [], some (points "xab"),
        some (points "ab")]
    let found := [points "ab", points "xab"]
    (exists pieces, Redacts redacted found (points "aabxabb")
      (redactLiterals found (points "aabxabb")) pieces) ∧
    forall secret, secret ∈ given.secrets -> secret ≠ [] ->
      ¬ secret <:+: redactLiterals found (points "aabxabb") := by
  intro given found
  have hsecrets : given.secrets =
      [points "ab", [], points "xab", points "ab"] := rfl
  refine redactLiterals_clean given (points "aabxabb") ⟨by decide, ?_⟩ ?_
  · intro secret
    rw [hsecrets]
    constructor
    · revert secret
      decide
    · rintro ⟨hmem, hne⟩
      revert hne
      revert secret
      decide
  · rw [hsecrets]
    intro secret hmem hne
    have hall : forall secret, secret ∈ [points "ab", points "xab"] ->
        Removable secret := by
      intro secret hsecret
      constructor <;> revert secret <;> decide
    apply hall
    revert hne
    revert secret
    decide

end Errors
end IntelAmt
