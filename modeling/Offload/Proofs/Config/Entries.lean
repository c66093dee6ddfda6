/-
**A configuration from keys with values.**

Keys with their values are read one after another, and reading stops at the first value that is
refused.  Still the order makes no difference when no key comes twice: each known key has a field of
its own, so what all entries together say determines the configuration, and whether some value is
refused does not depend on what has been read before it.

Main definitions:

* `Config.Key.Agrees` — two configurations have the same value in the field of a key;
* `Config.Key.Takes`, `Config.Key.Refuses` — what a value says about the field of its key, and the
  values that are refused;
* `Config.Reflects` — **a configuration is what some entries say**.

Main results:

* `Config.readEntry_of_refuses`, `Config.exists_readEntry`, `Config.frame_of_readEntry` — reading
  one entry;
* `Config.reflects_readEntries`, `Config.exists_refuses_of_readEntries` — reading all of them;
* `Config.Reflects.unique` — entries say everything;
* `Config.entries_in_any_order` — **all of it, for every two orders of the entries**.
-/

import Offload.Config.Sources
import Offload.Proofs.Text.Numeral
import Mathlib.Data.List.Nodup

set_option autoImplicit false
set_option relaxedAutoImplicit false

namespace Offload.Config

variable {key : Key} {word value : String} {entries entries' : List (String × String)}
  {c c' c₀ : Config}

/-! ### Numbers -/

/-- The endpoints that are read from a text as it is. -/
theorem endpoint?_eq_some_iff {s : String} {endpoint : UInt32} :
    endpoint? s = some endpoint ↔ Text.Denotes s.toList endpoint.toNat := by
  rw [endpoint?, Option.map_eq_some_iff]
  constructor
  · rintro ⟨n, hn, rfl⟩
    obtain ⟨h, hlt⟩ := Text.unsigned?_eq_some_iff_denotes.1 hn
    rwa [UInt32.toNat_ofNat_of_lt' hlt]
  · intro h
    exact ⟨_, Text.unsigned?_eq_some_iff_denotes.2 ⟨h, endpoint.toNat_lt⟩, UInt32.ofNat_toNat⟩

theorem endpoint?_eq_none {s : String} (h : ¬∃ n, Text.Denotes s.toList n ∧ n < 2 ^ 32) :
    endpoint? s = none :=
  Option.eq_none_iff_forall_ne_some.2 fun endpoint hread =>
    h ⟨_, endpoint?_eq_some_iff.1 hread, endpoint.toNat_lt⟩

/-- The pauses that are read from a text as it is. -/
theorem interval?_eq_some_iff {s : String} {interval : Duration} :
    interval? s = some interval ↔
      ∃ n, Text.Denotes s.toList n ∧ n < 2 ^ 64 ∧ interval = .ofMicros n := by
  rw [interval?, Option.map_eq_some_iff]
  constructor
  · rintro ⟨n, hn, rfl⟩
    obtain ⟨h, hlt⟩ := Text.unsigned?_eq_some_iff_denotes.1 hn
    exact ⟨n, h, hlt, rfl⟩
  · rintro ⟨n, h, hlt, rfl⟩
    exact ⟨n, Text.unsigned?_eq_some_iff_denotes.2 ⟨h, hlt⟩, rfl⟩

theorem interval?_eq_none {s : String} (h : ¬∃ n, Text.Denotes s.toList n ∧ n < 2 ^ 64) :
    interval? s = none := by
  refine Option.eq_none_iff_forall_ne_some.2 fun interval hread => ?_
  obtain ⟨n, hn, hlt, -⟩ := interval?_eq_some_iff.1 hread
  exact h ⟨n, hn, hlt⟩

/-! ### Keys and their fields -/

theorem Key.mem_all (key : Key) : key ∈ Key.all := by
  cases key <;> decide

theorem Key.word_injective : Function.Injective Key.word := by
  intro key key'
  cases key <;> cases key' <;> simp [Key.word]

/-- The words are those of the known keys. -/
theorem Key.ofWord?_eq_some_iff : Key.ofWord? word = some key ↔ key.word = word := by
  constructor
  · intro h
    simpa using List.find?_some h
  · rintro rfl
    cases hfound : Key.ofWord? key.word with
    | none => simpa using List.find?_eq_none.1 hfound key key.mem_all
    | some key' =>
        have hword : key'.word = key.word := by simpa using List.find?_some hfound
        rw [Key.word_injective hword]

theorem Key.ofWord?_eq_none_iff : Key.ofWord? word = none ↔ word ∉ Key.all.map Key.word := by
  simp [Key.ofWord?, List.find?_eq_none]

/-- The two configurations have the same value in the field of the key. -/
def Key.Agrees (key : Key) (c c' : Config) : Prop :=
  match key with
  | .libraryPath => c.libraryPath = c'.libraryPath
  | .definitions => c.definitions = c'.definitions
  | .manifest => c.manifest = c'.manifest
  | .endpoint => c.endpoint = c'.endpoint
  | .pollMicros => c.pollInterval = c'.pollInterval

theorem Key.Agrees.refl (key : Key) (c : Config) : key.Agrees c c := by
  cases key <;> rfl

theorem Key.Agrees.trans {c₁ c₂ c₃ : Config} (h : key.Agrees c₁ c₂) (h' : key.Agrees c₂ c₃) :
    key.Agrees c₁ c₃ := by
  cases key <;> exact Eq.trans h h'

theorem Key.Agrees.symm (h : key.Agrees c c') : key.Agrees c' c := by
  cases key <;> exact Eq.symm h

/-- Each field but the sink belongs to a key. -/
theorem eq_of_agrees (h : ∀ key : Key, key.Agrees c c') (hsink : c.sink = c'.sink) : c = c' := by
  obtain ⟨libraryPath, definitions, manifest, endpoint, pollInterval, sink⟩ := c
  obtain rfl := h .libraryPath
  obtain rfl := h .definitions
  obtain rfl := h .manifest
  obtain rfl := h .endpoint
  obtain rfl := h .pollMicros
  obtain rfl := hsink
  rfl

/-! ### What a value says -/

/-- The bound of the numbers that a key takes, if it takes numbers. -/
def Key.bound? : Key → Option Nat
  | .endpoint => some (2 ^ 32)
  | .pollMicros => some (2 ^ 64)
  | .libraryPath | .definitions | .manifest => none

/-- A version file is absent if its text is blank, and else the text as it is. -/
def versionFile (value : String) : Option String :=
  if value.toList.all Text.isBlank then none else some value

/-- The configuration has in the field of the key what the value says. -/
def Key.Takes (key : Key) (value : String) (c : Config) : Prop :=
  match key with
  | .libraryPath => c.libraryPath = value
  | .definitions => c.definitions = versionFile value
  | .manifest => c.manifest = versionFile value
  | .endpoint => Text.Spells value c.endpoint.toNat
  | .pollMicros => ∃ n, Text.Spells value n ∧ n < 2 ^ 64 ∧ c.pollInterval = .ofMicros n

/-- The key takes numbers, and the value is none below the bound, whatever blanks are around it. -/
def Key.Refuses (key : Key) (value : String) : Prop :=
  ∃ bound, key.bound? = some bound ∧ ¬∃ n, Text.Spells value n ∧ n < bound

theorem nonBlank_eq (value : String) : nonBlank value = versionFile value := by
  rw [nonBlank, versionFile]
  exact if_congr (Text.trim_eq_empty_iff.trans List.all_eq_true.symm) rfl rfl

/-- A value says one thing about its field. -/
theorem Key.Takes.agrees (h : key.Takes value c) (h' : key.Takes value c') : key.Agrees c c' := by
  cases key with
  | libraryPath | definitions | manifest => exact Eq.trans h (Eq.symm h')
  | endpoint => exact UInt32.toNat_inj.1 (Text.Spells.unique h h')
  | pollMicros =>
      obtain ⟨n, hn, -, hc⟩ := h
      obtain ⟨n', hn', -, hc'⟩ := h'
      obtain rfl := hn.unique hn'
      exact hc.trans hc'.symm

theorem Key.Takes.of_agrees (h : key.Takes value c) (h' : key.Agrees c' c) :
    key.Takes value c' := by
  cases key with
  | libraryPath | definitions | manifest => exact Eq.trans h' h
  | endpoint =>
      have heq : c'.endpoint = c.endpoint := h'
      show Text.Spells value c'.endpoint.toNat
      exact heq ▸ h
  | pollMicros =>
      obtain ⟨n, hn, hlt, hc⟩ := h
      exact ⟨n, hn, hlt, Eq.trans h' hc⟩

theorem Key.Takes.not_refuses (h : key.Takes value c) : ¬key.Refuses value := by
  rintro ⟨bound, hbound, hnot⟩
  cases key with
  | libraryPath | definitions | manifest => cases hbound
  | endpoint =>
      cases hbound
      exact hnot ⟨_, h, c.endpoint.toNat_lt⟩
  | pollMicros =>
      cases hbound
      obtain ⟨n, hn, hlt, -⟩ := h
      exact hnot ⟨n, hn, hlt⟩

/-! ### Reading one entry -/

/-- **A value that is refused ends in an error that names it.** -/
theorem readEntry_of_refuses (h : key.Refuses value) (c : Config) :
    readEntry key value c = .error (badValue key value) := by
  obtain ⟨bound, hbound, hnot⟩ := h
  simp only [Text.spells_iff] at hnot
  rw [readEntry.eq_def]
  cases key with
  | libraryPath | definitions | manifest => cases hbound
  | endpoint =>
      cases hbound
      rw [endpoint?_eq_none hnot]
  | pollMicros =>
      cases hbound
      rw [interval?_eq_none hnot]

theorem Key.exists_spells_of_not_refuses {bound : Nat} (h : ¬key.Refuses value)
    (hbound : key.bound? = some bound) : ∃ n, Text.Spells value n ∧ n < bound := by
  by_contra hnot
  exact h ⟨bound, hbound, hnot⟩

/-- **A value that is not refused is taken over.** -/
theorem exists_readEntry (h : ¬key.Refuses value) (c : Config) :
    ∃ c', readEntry key value c = .ok c' ∧ key.Takes value c' := by
  rw [readEntry.eq_def]
  cases key with
  | libraryPath => exact ⟨_, rfl, rfl⟩
  | definitions | manifest =>
      simp only [nonBlank_eq]
      exact ⟨_, rfl, rfl⟩
  | endpoint =>
      obtain ⟨n, hn, hlt⟩ := Key.exists_spells_of_not_refuses h rfl
      have hspells : Text.Spells value (UInt32.ofNat n).toNat := by
        rwa [UInt32.toNat_ofNat_of_lt' hlt]
      have hread := endpoint?_eq_some_iff.2 (Text.spells_iff.1 hspells)
      exact ⟨{ c with endpoint := UInt32.ofNat n }, by rw [hread], hspells⟩
  | pollMicros =>
      obtain ⟨n, hn, hlt⟩ := Key.exists_spells_of_not_refuses h rfl
      have hread : interval? (Text.trim value) = some (.ofMicros n) :=
        interval?_eq_some_iff.2 ⟨n, Text.spells_iff.1 hn, hlt, rfl⟩
      exact ⟨{ c with pollInterval := .ofMicros n }, by rw [hread], n, hn, hlt, rfl⟩

/-- **No other field changes.** -/
theorem frame_of_readEntry (h : readEntry key value c = .ok c') :
    c'.sink = c.sink ∧ ∀ key' ≠ key, Key.Agrees key' c' c := by
  rw [readEntry.eq_def] at h
  cases key with
  | libraryPath | definitions | manifest =>
      cases h
      refine ⟨rfl, fun key' => ?_⟩
      cases key' <;> simp [Key.Agrees]
  | endpoint | pollMicros =>
      simp only at h
      split at h
      · cases h
        refine ⟨rfl, fun key' => ?_⟩
        cases key' <;> simp [Key.Agrees]
      · cases h

/-! ### Reading all entries -/

/-- The configuration comes from another one by what the entries say: the field of each key that
they name is as they say, and nothing else is changed. -/
structure Reflects (entries : List (String × String)) (before after : Config) : Prop where
  taken : ∀ key value, (Key.word key, value) ∈ entries → key.Takes value after
  kept : ∀ key, Key.word key ∉ entries.map Prod.fst → key.Agrees after before
  sink : after.sink = before.sink

/-- What the entries say leaves nothing open. -/
theorem Reflects.unique (h : Reflects entries c₀ c) (h' : Reflects entries c₀ c') : c = c' := by
  refine eq_of_agrees (fun key => ?_) (h.sink.trans h'.sink.symm)
  by_cases hkey : key.word ∈ entries.map Prod.fst
  · obtain ⟨⟨word, value⟩, hmem, rfl⟩ := List.mem_map.1 hkey
    exact (h.taken key value hmem).agrees (h'.taken key value hmem)
  · exact (h.kept key hkey).trans (h'.kept key hkey).symm

/-- What the entries say does not depend on their order. -/
theorem Reflects.perm (h : Reflects entries c₀ c) (hperm : entries.Perm entries') :
    Reflects entries' c₀ c where
  taken key value hmem := h.taken key value (hperm.mem_iff.2 hmem)
  kept key hkey := h.kept key fun hmem => hkey ((hperm.map Prod.fst).mem_iff.1 hmem)
  sink := h.sink

/-- The keys among the entries that are not known, in order. -/
def unknownWords (entries : List (String × String)) : List String :=
  (entries.map Prod.fst).filter fun word => decide (word ∉ Key.all.map Key.word)

theorem Key.ofWord?_word (key : Key) : Key.ofWord? key.word = some key :=
  Key.ofWord?_eq_some_iff.2 rfl

theorem readEntries_of_refuses (h : key.Refuses value) (c : Config) :
    readEntries ((key.word, value) :: entries) c = ([], .error (badValue key value)) := by
  rw [readEntries, key.ofWord?_word]
  simp only [readEntry_of_refuses h]

theorem readEntries_of_readEntry (h : readEntry key value c = .ok c') :
    readEntries ((key.word, value) :: entries) c = readEntries entries c' := by
  rw [readEntries, key.ofWord?_word]
  simp only [h]

theorem readEntries_of_unknown (hword : Key.ofWord? word = none) (c : Config) :
    readEntries ((word, value) :: entries) c =
      (unknownKey word :: (readEntries entries c).1, (readEntries entries c).2) := by
  simp only [readEntries, hword]

theorem unknownWords_of_unknown (hword : Key.ofWord? word = none) :
    unknownWords ((word, value) :: entries) = word :: unknownWords entries :=
  List.filter_cons_of_pos (by simpa using Key.ofWord?_eq_none_iff.1 hword)

theorem unknownWords_of_known (key : Key) :
    unknownWords ((key.word, value) :: entries) = unknownWords entries :=
  List.filter_cons_of_neg (by simpa using ⟨key, key.mem_all, rfl⟩)

/-- **Reading that comes to its end takes over what the entries say**, and warns about each unknown
key. -/
theorem reflects_readEntries (hkeys : (entries.map Prod.fst).Nodup)
    (h : (readEntries entries c).2 = .ok c') :
    Reflects entries c c' ∧
      (readEntries entries c).1 = (unknownWords entries).map unknownKey := by
  induction entries generalizing c with
  | nil =>
      cases h
      exact ⟨⟨by simp, fun key _ => .refl key _, rfl⟩, rfl⟩
  | cons entry entries ih =>
      obtain ⟨word, value⟩ := entry
      obtain ⟨hnew, hrest⟩ := List.nodup_cons.1 hkeys
      cases hword : Key.ofWord? word with
      | none =>
          -- the entry says nothing about any field
          rw [readEntries_of_unknown hword] at h ⊢
          obtain ⟨hreflects, hwarnings⟩ := ih hrest h
          have hne (key : Key) : key.word ≠ word := fun heq => by
            rw [Key.ofWord?_eq_some_iff.2 heq] at hword
            cases hword
          refine ⟨⟨fun key value' hmem => ?_, fun key hkey => ?_, hreflects.sink⟩, ?_⟩
          · rcases List.mem_cons.1 hmem with heq | hmem
            · exact absurd (congrArg Prod.fst heq) (hne key)
            · exact hreflects.taken key value' hmem
          · exact hreflects.kept key fun hmem => hkey (List.mem_cons_of_mem _ hmem)
          · rw [unknownWords_of_unknown hword, List.map_cons, hwarnings]
      | some key =>
          obtain rfl := Key.ofWord?_eq_some_iff.1 hword
          by_cases hrefuses : key.Refuses value
          · rw [readEntries_of_refuses hrefuses] at h
            cases h
          obtain ⟨c₁, hread, htakes⟩ := exists_readEntry hrefuses c
          obtain ⟨hsink, hothers⟩ := frame_of_readEntry hread
          rw [readEntries_of_readEntry hread] at h ⊢
          obtain ⟨hreflects, hwarnings⟩ := ih hrest h
          refine ⟨⟨fun key' value' hmem => ?_, fun key' hkey => ?_, hreflects.sink.trans hsink⟩,
            ?_⟩
          · rcases List.mem_cons.1 hmem with heq | hmem
            · -- no later entry has this key, so its field stays
              obtain ⟨hword', rfl⟩ := Prod.mk.inj heq
              obtain rfl := Key.word_injective hword'
              exact htakes.of_agrees (hreflects.kept key' hnew)
            · exact hreflects.taken key' value' hmem
          · have htail : key'.word ∉ entries.map Prod.fst :=
              fun hmem => hkey (List.mem_cons_of_mem _ hmem)
            have hother : key' ≠ key := fun heq => hkey (heq ▸ List.mem_cons_self)
            exact (hreflects.kept key' htail).trans (hothers key' hother)
          · rw [unknownWords_of_known, hwarnings]

/-- **Reading that stops names a value that is refused.** -/
theorem exists_refuses_of_readEntries {e : Error} (h : (readEntries entries c).2 = .error e) :
    ∃ key value, (Key.word key, value) ∈ entries ∧ key.Refuses value ∧ e = badValue key value := by
  induction entries generalizing c with
  | nil => cases h
  | cons entry entries ih =>
      obtain ⟨word, value⟩ := entry
      cases hword : Key.ofWord? word with
      | none =>
          rw [readEntries_of_unknown hword] at h
          obtain ⟨key, value', hmem, hrefuses⟩ := ih h
          exact ⟨key, value', List.mem_cons_of_mem _ hmem, hrefuses⟩
      | some key =>
          obtain rfl := Key.ofWord?_eq_some_iff.1 hword
          by_cases hrefuses : key.Refuses value
          · rw [readEntries_of_refuses hrefuses] at h
            cases h
            exact ⟨key, value, List.mem_cons_self, hrefuses, rfl⟩
          · obtain ⟨c₁, hread, -⟩ := exists_readEntry hrefuses c
            rw [readEntries_of_readEntry hread] at h
            obtain ⟨key', value', hmem, hrefuses'⟩ := ih h
            exact ⟨key', value', List.mem_cons_of_mem _ hmem, hrefuses'⟩

/-- Reading stops exactly if some value is refused. -/
theorem readEntries_stops_iff (hkeys : (entries.map Prod.fst).Nodup) :
    (∃ e, (readEntries entries c).2 = .error e) ↔
      ∃ key value, (Key.word key, value) ∈ entries ∧ key.Refuses value := by
  constructor
  · rintro ⟨e, h⟩
    obtain ⟨key, value, hmem, hrefuses, -⟩ := exists_refuses_of_readEntries h
    exact ⟨key, value, hmem, hrefuses⟩
  · rintro ⟨key, value, hmem, hrefuses⟩
    cases hread : (readEntries entries c).2 with
    | error e => exact ⟨e, rfl⟩
    | ok c' =>
        have htakes := (reflects_readEntries hkeys hread).1.taken key value hmem
        exact absurd hrefuses htakes.not_refuses

/-! ### Any order -/

theorem unknownKey_injective : Function.Injective unknownKey := by
  intro word word' h
  exact (String.append_right_inj _).1 ((String.append_left_inj _).1 h)

theorem unknownWords_perm (hperm : entries.Perm entries') :
    (unknownWords entries).Perm (unknownWords entries') :=
  (hperm.map Prod.fst).filter _

/-- **The order of the entries makes no difference.**  Let no key come twice.  Then reading succeeds
in every order or fails in every order.  It fails exactly if a value that has to be a number below
the bound of its key is none, with an error that names a key and a value of this kind.  Where it
succeeds, the configuration is what the entries say, in every order, and there is one warning for
each unknown key. -/
theorem entries_in_any_order (hkeys : (entries.map Prod.fst).Nodup)
    (hperm : entries.Perm entries') :
    ((∃ c, (ofEntries entries).2 = .ok c) ↔ ∃ c, (ofEntries entries').2 = .ok c) ∧
      ((∃ e, (ofEntries entries).2 = .error e) ↔
        ∃ key value, (Key.word key, value) ∈ entries ∧ key.Refuses value) ∧
      (∀ e, (ofEntries entries).2 = .error e →
        ∃ key value, (Key.word key, value) ∈ entries ∧ key.Refuses value ∧
          e = .config s!"{key.word} = '{value}' is not a valid value") ∧
      ∀ c, (ofEntries entries).2 = .ok c →
        (ofEntries entries').2 = .ok c ∧ Reflects entries standard c ∧
          (ofEntries entries).1 = (unknownWords entries).map unknownKey ∧
          (ofEntries entries).1.Nodup ∧ (ofEntries entries').1.Perm (ofEntries entries).1 := by
  have hkeys' : (entries'.map Prod.fst).Nodup := (hperm.map Prod.fst).nodup_iff.1 hkeys
  have hstops : (∃ e, (ofEntries entries).2 = .error e) ↔ ∃ e, (ofEntries entries').2 = .error e := by
    rw [ofEntries, ofEntries, readEntries_stops_iff hkeys, readEntries_stops_iff hkeys']
    simp only [hperm.mem_iff]
  have hends {outcome : Outcome Config} : (∃ c, outcome = .ok c) ↔ ¬∃ e, outcome = .error e := by
    cases outcome <;> simp
  refine ⟨by rw [hends, hends, hstops], readEntries_stops_iff hkeys,
    fun e he => exists_refuses_of_readEntries he, fun c hc => ?_⟩
  obtain ⟨hreflects, hwarnings⟩ := reflects_readEntries hkeys hc
  obtain ⟨c', hc'⟩ : ∃ c', (ofEntries entries').2 = .ok c' :=
    hends.2 fun h => hends.1 ⟨c, hc⟩ (hstops.2 h)
  obtain ⟨hreflects', hwarnings'⟩ := reflects_readEntries hkeys' hc'
  have hsame : c' = c := hreflects'.unique (hreflects.perm hperm)
  refine ⟨hsame ▸ hc', hreflects, hwarnings, ?_, ?_⟩
  · rw [ofEntries, hwarnings]
    exact (hkeys.filter _).map unknownKey_injective
  · rw [ofEntries, ofEntries, hwarnings, hwarnings']
    exact ((unknownWords_perm hperm).map unknownKey).symm

/-- An endpoint with a sign and a zero in front and blanks around it, a blank version file, and a key
that is not known. -/
private def oneUnknown : List (String × String) :=
  [("colour", "red"), ("endpoint", " +07\u2003"), ("version_manifest_file", " \t")]

theorem entries_in_any_order_oneUnknown :
    (oneUnknown.map Prod.fst).Nodup ∧ oneUnknown.Perm oneUnknown.reverse ∧
      ofEntries oneUnknown = ([unknownKey "colour"], .ok { standard with endpoint := 7 }) ∧
      (ofEntries oneUnknown.reverse).2 = .ok { standard with endpoint := 7 } ∧
      Key.Takes .endpoint " +07\u2003" { standard with endpoint := 7 } := by
  have hkeys : (oneUnknown.map Prod.fst).Nodup := by decide
  have hperm : oneUnknown.Perm oneUnknown.reverse := (List.reverse_perm _).symm
  have hread : ofEntries oneUnknown =
      ([unknownKey "colour"], .ok { standard with endpoint := 7 }) := by decide +kernel
  obtain ⟨-, -, -, hany⟩ := entries_in_any_order hkeys hperm
  obtain ⟨hreversed, hreflects, -⟩ := hany _ (by rw [hread])
  exact ⟨hkeys, hperm, hread, hreversed, hreflects.taken .endpoint _ (by decide)⟩

/-- Where two values are refused, the order decides which of them the error names. -/
example : (ofEntries [("endpoint", "4294967296"), ("poll_interval_us", "1 000")]).2 =
      .error (badValue .endpoint "4294967296") ∧
    (ofEntries [("poll_interval_us", "1 000"), ("endpoint", "4294967296")]).2 =
      .error (badValue .pollMicros "1 000") := by
  decide +kernel

end Offload.Config
