/-
**The two sources of a configuration agree.**

The five settings can be given by variables of the environment or by keys with values.  The two
sources are read in different ways: one takes texts as they are and ignores what it cannot read, the
other trims numbers, takes a blank version file for an absent one, and refuses what is no number.
Texts on which these differences do not bear give the same configuration.

Main definitions:

* `Config.Key.variableName` — the variable of the environment that belongs to a key;
* `Config.Key.IsPlain` — the texts that both sources take for the same;
* `Config.entriesOf` — texts for some of the settings, as keys with values.

Main results:

* `Config.agrees_ofEnvironment` — a field depends on its own variable alone;
* `Config.takes_ofEnvironment`, `Config.agrees_standard_of_unreadable` — what it comes to;
* `Config.sources_agree` — **the two sources agree on plain texts, and the environment is read field
  by field whatever its texts are**.
-/

import Offload.Proofs.Config.Entries

set_option autoImplicit false
set_option relaxedAutoImplicit false

namespace Offload.Config

variable {key : Key} {text : String} {texts : Key → Option String}
  {lookup lookup' : String → Option String} {entries : List (String × String)}

/-! ### Variables and keys -/

/-- The variable of the environment that belongs to a key. -/
def Key.variableName : Key → String
  | .libraryPath => "ACCEL_LIBRARY_PATH"
  | .definitions => "ACCEL_VERSION_DEFINITIONS"
  | .manifest => "ACCEL_VERSION_MANIFEST"
  | .endpoint => "ACCEL_ENDPOINT"
  | .pollMicros => "ACCEL_POLL_INTERVAL_US"

/-- Texts for some of the settings, as keys with values. -/
def entriesOf (texts : Key → Option String) : List (String × String) :=
  Key.all.filterMap fun key => (texts key).map fun text => (key.word, text)

theorem mem_entriesOf : (key.word, text) ∈ entriesOf texts ↔ texts key = some text := by
  simp only [entriesOf, List.mem_filterMap, Option.map_eq_some_iff]
  constructor
  · rintro ⟨key', -, text', htext, heq⟩
    obtain ⟨hword, rfl⟩ := Prod.mk.inj heq
    exact Key.word_injective hword ▸ htext
  · intro h
    exact ⟨key, key.mem_all, text, h, rfl⟩

theorem keys_entriesOf (texts : Key → Option String) :
    (entriesOf texts).map Prod.fst =
      (Key.all.filter fun key => (texts key).isSome).map Key.word := by
  rw [entriesOf, List.map_filterMap]
  induction Key.all with
  | nil => rfl
  | cons key keys ih => cases h : texts key <;> simpa [h] using ih

theorem nodup_keys_entriesOf (texts : Key → Option String) :
    ((entriesOf texts).map Prod.fst).Nodup := by
  rw [keys_entriesOf]
  exact (List.Nodup.filter _ (by decide)).map Key.word_injective

theorem unknownWords_entriesOf (texts : Key → Option String) :
    unknownWords (entriesOf texts) = [] := by
  rw [unknownWords, keys_entriesOf, List.filter_eq_nil_iff]
  intro word hword
  obtain ⟨key, -, rfl⟩ := List.mem_map.1 hword
  simpa using ⟨key, key.mem_all, rfl⟩

/-! ### The environment, field by field -/

/-- The text means the same to both sources: a number is one as it is, and a version file is not
blank. -/
def Key.IsPlain (key : Key) (text : String) : Prop :=
  match key with
  | .libraryPath => True
  | .definitions | .manifest => ∃ ch ∈ text.toList, Text.isBlank ch = false
  | .endpoint => ∃ n, Text.Denotes text.toList n ∧ n < 2 ^ 32
  | .pollMicros => ∃ n, Text.Denotes text.toList n ∧ n < 2 ^ 64

theorem versionFile_of_not_blank (h : ∃ ch ∈ text.toList, Text.isBlank ch = false) :
    versionFile text = some text := by
  refine if_neg fun hblank => ?_
  obtain ⟨ch, hch, hnot⟩ := h
  rw [List.all_eq_true.1 hblank ch hch] at hnot
  cases hnot

theorem endpoint_ofEnvironment (lookup : String → Option String) :
    (ofEnvironment lookup).endpoint =
      ((lookup Key.endpoint.variableName).bind endpoint?).getD standard.endpoint :=
  rfl

theorem pollInterval_ofEnvironment (lookup : String → Option String) :
    (ofEnvironment lookup).pollInterval =
      ((lookup Key.pollMicros.variableName).bind interval?).getD standard.pollInterval :=
  rfl

/-- **A field depends on its own variable alone.** -/
theorem agrees_ofEnvironment (h : lookup' key.variableName = lookup key.variableName) :
    key.Agrees (ofEnvironment lookup') (ofEnvironment lookup) := by
  cases key with
  | libraryPath => exact congrArg (·.getD standard.libraryPath) h
  | definitions | manifest => exact h
  | endpoint => rw [Key.Agrees, endpoint_ofEnvironment, endpoint_ofEnvironment, h]
  | pollMicros => rw [Key.Agrees, pollInterval_ofEnvironment, pollInterval_ofEnvironment, h]

/-- A variable that is absent leaves its field at the default. -/
theorem agrees_standard_of_absent (h : lookup key.variableName = none) :
    key.Agrees (ofEnvironment lookup) standard := by
  have hempty : key.Agrees (ofEnvironment lookup) (ofEnvironment fun _ => none) :=
    agrees_ofEnvironment h
  exact hempty

/-- **A number that cannot be read leaves its field at the default.** -/
theorem agrees_standard_of_unreadable {bound : Nat} (hbound : key.bound? = some bound)
    (h : ∀ text, lookup key.variableName = some text →
      ¬∃ n, Text.Denotes text.toList n ∧ n < bound) :
    key.Agrees (ofEnvironment lookup) standard := by
  cases htext : lookup key.variableName with
  | none => exact agrees_standard_of_absent htext
  | some text =>
      specialize h text htext
      cases key with
      | libraryPath | definitions | manifest => cases hbound
      | endpoint =>
          cases hbound
          rw [Key.Agrees, endpoint_ofEnvironment, htext, Option.bind_some, endpoint?_eq_none h,
            Option.getD_none]
      | pollMicros =>
          cases hbound
          rw [Key.Agrees, pollInterval_ofEnvironment, htext, Option.bind_some, interval?_eq_none h,
            Option.getD_none]

/-- **A plain text stands in its field.** -/
theorem takes_ofEnvironment (htext : lookup key.variableName = some text)
    (hplain : key.IsPlain text) : key.Takes text (ofEnvironment lookup) := by
  cases key with
  | libraryPath => exact congrArg (·.getD standard.libraryPath) htext
  | definitions | manifest => exact htext.trans (versionFile_of_not_blank hplain).symm
  | endpoint =>
      obtain ⟨n, hn, hlt⟩ := hplain
      have hread : endpoint? text = some (UInt32.ofNat n) :=
        endpoint?_eq_some_iff.2 (by rwa [UInt32.toNat_ofNat_of_lt' hlt])
      rw [Key.Takes, endpoint_ofEnvironment, htext, Option.bind_some, hread, Option.getD_some,
        UInt32.toNat_ofNat_of_lt' hlt]
      exact hn.spells
  | pollMicros =>
      obtain ⟨n, hn, hlt⟩ := hplain
      have hread := interval?_eq_some_iff.2 ⟨n, hn, hlt, rfl⟩
      rw [Key.Takes, pollInterval_ofEnvironment, htext, Option.bind_some, hread, Option.getD_some]
      exact ⟨n, hn.spells, hlt, rfl⟩

/-! ### Both sources -/

/-- Plain texts say about the environment what they say as keys with values. -/
theorem reflects_ofEnvironment (hlookup : ∀ key, lookup (Key.variableName key) = texts key)
    (hplain : ∀ key text, texts key = some text → Key.IsPlain key text) :
    Reflects (entriesOf texts) standard (ofEnvironment lookup) where
  taken key text hmem := by
    have htext := mem_entriesOf.1 hmem
    exact takes_ofEnvironment ((hlookup key).trans htext) (hplain key text htext)
  kept key hkey := by
    refine agrees_standard_of_absent ((hlookup key).trans ?_)
    cases htext : texts key with
    | none => rfl
    | some text => exact absurd (List.mem_map.2 ⟨_, mem_entriesOf.2 htext, rfl⟩) hkey
  sink := rfl

/-- **The two sources agree.**  Let some of the settings have texts, and the environment these texts
in its variables.  If the texts are plain, then reading them as keys with values, in any order, gives
the configuration of the environment without a warning.  Whatever the texts are, the environment
describes a configuration each of whose fields depends on its own text alone; a plain text stands in
its field; and a number that is absent or cannot be read leaves its field at the default, and the
other fields as they are. -/
theorem sources_agree (hlookup : ∀ key, lookup (Key.variableName key) = texts key) :
    ((∀ key text, texts key = some text → Key.IsPlain key text) →
      ∀ entries, entries.Perm (entriesOf texts) →
        ofEntries entries = ([], .ok (ofEnvironment lookup))) ∧
    (∀ key lookup', lookup' (Key.variableName key) = texts key →
      key.Agrees (ofEnvironment lookup') (ofEnvironment lookup)) ∧
    (∀ key text, texts key = some text → Key.IsPlain key text →
      key.Takes text (ofEnvironment lookup)) ∧
    ∀ key bound, Key.bound? key = some bound →
      (∀ text, texts key = some text → ¬∃ n, Text.Denotes text.toList n ∧ n < bound) →
      key.Agrees (ofEnvironment lookup) standard ∧
        ∀ lookup', (∀ other ≠ key, lookup' other.variableName = texts other) →
          ∀ other ≠ key, Key.Agrees other (ofEnvironment lookup') (ofEnvironment lookup) := by
  refine ⟨fun hplain entries hperm => ?_, fun key lookup' h => ?_, fun key text htext hplain => ?_,
    fun key bound hbound hnot => ⟨?_, fun lookup' h other hother => ?_⟩⟩
  · have hkeys : (entries.map Prod.fst).Nodup :=
      (hperm.map Prod.fst).nodup_iff.2 (nodup_keys_entriesOf texts)
    have hreflects := (reflects_ofEnvironment hlookup hplain).perm hperm.symm
    have hknown : unknownWords entries = [] := by
      rw [← List.perm_nil, ← unknownWords_entriesOf texts]
      exact unknownWords_perm hperm
    cases hread : (ofEntries entries).2 with
    | error e =>
        obtain ⟨key, value, hmem, hrefuses, -⟩ := exists_refuses_of_readEntries hread
        exact absurd hrefuses (hreflects.taken key value hmem).not_refuses
    | ok c =>
        obtain ⟨hreflects', hwarnings⟩ := reflects_readEntries hkeys hread
        rw [hknown] at hwarnings
        exact Prod.ext hwarnings (hread.trans (congrArg _ (hreflects'.unique hreflects)))
  · exact agrees_ofEnvironment (h.trans (hlookup key).symm)
  · exact takes_ofEnvironment ((hlookup key).trans htext) hplain
  · exact agrees_standard_of_unreadable hbound fun text htext =>
      hnot text ((hlookup key).symm.trans htext)
  · exact agrees_ofEnvironment ((h other hother).trans (hlookup other).symm)

/-- An endpoint with a sign and zeros in front, and a version file with a blank in its name. -/
private def twoTexts : Key → Option String
  | .endpoint => some "+0042"
  | .manifest => some " m"
  | _ => none

private def twoVariables (name : String) : Option String :=
  if name = "ACCEL_ENDPOINT" then some "+0042"
  else if name = "ACCEL_VERSION_MANIFEST" then some " m"
  else none

theorem sources_agree_twoTexts :
    (∀ key, twoVariables (Key.variableName key) = twoTexts key) ∧
      (∀ key text, twoTexts key = some text → Key.IsPlain key text) ∧
      ofEntries (entriesOf twoTexts).reverse = ([], .ok (ofEnvironment twoVariables)) ∧
      ofEnvironment twoVariables = { standard with endpoint := 42, manifest := some " m" } ∧
      Key.Agrees .pollMicros (ofEnvironment twoVariables) standard := by
  have hlookup : ∀ key, twoVariables (Key.variableName key) = twoTexts key := by
    intro key
    cases key <;> decide
  have hendpoint : Text.unsigned? (2 ^ 32) "+0042" = some 42 := by decide +kernel
  have hplain : ∀ key text, twoTexts key = some text → Key.IsPlain key text := by
    intro key text htext
    cases key with
    | libraryPath | definitions | pollMicros => cases htext
    | endpoint =>
        cases htext
        exact ⟨42, Text.unsigned?_eq_some_iff_denotes.1 hendpoint⟩
    | manifest =>
        cases htext
        exact ⟨'m', by decide +kernel, by decide⟩
  obtain ⟨hagree, -, -, hunreadable⟩ := sources_agree hlookup
  refine ⟨hlookup, hplain, hagree hplain _ (List.reverse_perm _), by decide +kernel, ?_⟩
  exact (hunreadable .pollMicros _ rfl fun text htext => by cases htext).1

end Offload.Config
