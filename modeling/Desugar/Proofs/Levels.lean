import Desugar.Proofs.Findings
import Desugar.Proofs.MergedFilters

/-!
# Levels in their normal spelling

A configured level is normalised wherever it is used: when the filter is made, and when validation
looks whether it can be read. This module says what normalising does. It only ever looks at the text
without the blanks around it, and of a word for a level not at the case of its letters either. What
it gives is a word in its one spelling or a trimmed text that is no word, and those it leaves alone.
So a level and its normal spelling give the same filter. Validation passes over a blank level while
the filter does not, and yet the two agree on which levels cannot be read.

## Contents

* `normalizeLevel_cases` — what normalising can do.
* `normalizeLevel_congr`, `normalizeLevel_of_letters` — what it does not look at.
* `levelWarnings_eq` — the levels that are warned of.
* `SettledLevel`, `normalizeLevel_settles` — all of it together.
-/

namespace Desugar

/-! ## What normalising can do -/

/-- The text under which a level is looked up among the words. -/
def levelKey (level : String) : String :=
  String.ofList ((Text.trim level.toList).map Char.toLower)

section
variable {level word : String}

theorem normalizeLevel_of_blank (h : Text.isAllBlank level.toList = true) :
    normalizeLevel level = LoggingSettings.defaultLevel := by
  unfold normalizeLevel
  rw [Text.trim_eq_nil_iff.mpr h]
  rfl

theorem normalizeLevel_of_not_blank (h : ¬ Text.isAllBlank level.toList = true) :
    normalizeLevel level = (levelWords.lookup (levelKey level)).getD (Text.trimText level) := by
  have hne : ¬ (Text.trim level.toList).isEmpty = true := by
    rw [List.isEmpty_iff, Text.trim_eq_nil_iff]
    exact h
  unfold normalizeLevel
  simp only [if_neg hne]
  split
  next word hword =>
    have hkey : levelWords.lookup (levelKey level) = some word := hword
    rw [hkey, Option.getD_some]
  next hnone =>
    have hkey : levelWords.lookup (levelKey level) = none := hnone
    rw [hkey, Option.getD_none]
    rfl

/-- What is looked up is a word for a level in the spelling of directives. -/
theorem exists_level_of_lookup {key : String} (h : levelWords.lookup key = some word) :
    ∃ l : Level, word = (Verbosity.upTo l).word := by
  have hmem : (key, word) ∈ levelWords := by
    obtain ⟨before, after, hsplit, -⟩ := List.lookup_eq_some_iff.mp h
    rw [hsplit]
    exact List.mem_append_right before List.mem_cons_self
  -- one case for each entry of the table, in which `warn` has a synonym
  simp only [levelWords, List.mem_cons, Prod.mk.injEq, List.not_mem_nil, or_false] at hmem
  rcases hmem with ⟨-, rfl⟩ | ⟨-, rfl⟩ | ⟨-, rfl⟩ | ⟨-, rfl⟩ | ⟨-, rfl⟩ | ⟨-, rfl⟩
  · exact ⟨.trace, rfl⟩
  · exact ⟨.debug, rfl⟩
  · exact ⟨.info, rfl⟩
  · exact ⟨.warn, rfl⟩
  · exact ⟨.warn, rfl⟩
  · exact ⟨.error, rfl⟩

/-- The spelling of directives is looked up as itself. -/
theorem lookup_levelKey_word (l : Level) :
    levelWords.lookup (levelKey (Verbosity.upTo l).word) = some (Verbosity.upTo l).word := by
  cases l <;> decide

/-- **What normalising can do**: give a word for a level in the spelling of directives, or take the
    blanks away around a text that is no word. -/
theorem normalizeLevel_cases (level : String) :
    (∃ l : Level, normalizeLevel level = (Verbosity.upTo l).word) ∨
      (¬ Text.isAllBlank level.toList = true ∧ levelWords.lookup (levelKey level) = none ∧
        normalizeLevel level = Text.trimText level) := by
  by_cases hblank : Text.isAllBlank level.toList = true
  · exact .inl ⟨.info, normalizeLevel_of_blank hblank⟩
  · have hnormal := normalizeLevel_of_not_blank hblank
    cases hlookup : levelWords.lookup (levelKey level) with
    | none =>
        rw [hlookup, Option.getD_none] at hnormal
        exact .inr ⟨hblank, rfl, hnormal⟩
    | some word =>
        rw [hlookup, Option.getD_some] at hnormal
        obtain ⟨l, rfl⟩ := exists_level_of_lookup hlookup
        exact .inl ⟨l, hnormal⟩

end

/-! ## What normalising gives -/

theorem normalizeLevel_ne_empty (level : String) : normalizeLevel level ≠ "" := by
  rcases normalizeLevel_cases level with ⟨l, hword⟩ | ⟨hblank, -, htext⟩
  · rw [hword]
    cases l <;> decide
  · rw [htext]
    exact Text.trimText_ne_empty hblank

theorem isTrimmed_normalizeLevel (level : String) :
    Text.IsTrimmed (normalizeLevel level).toList := by
  rcases normalizeLevel_cases level with ⟨l, hword⟩ | ⟨-, -, htext⟩
  · rw [hword, ← Text.trim_eq_self_iff]
    cases l <;> decide
  · rw [htext, Text.toList_trimText]
    exact Text.isTrimmed_trim level.toList

/-! ## What normalising does not look at -/

section
variable {s t : String}

/-- Only what is left after trimming counts. -/
theorem normalizeLevel_congr (h : Text.trim s.toList = Text.trim t.toList) :
    normalizeLevel s = normalizeLevel t := by
  unfold normalizeLevel
  rw [h]

theorem normalizeLevel_append {before after : String}
    (hbefore : Text.isAllBlank before.toList = true)
    (hafter : Text.isAllBlank after.toList = true) :
    normalizeLevel (before ++ s ++ after) = normalizeLevel s := by
  refine normalizeLevel_congr ?_
  rw [String.toList_append, String.toList_append]
  exact Text.trim_append hbefore hafter

/-- **Normalising a second time changes nothing.** -/
theorem normalizeLevel_normalizeLevel (level : String) :
    normalizeLevel (normalizeLevel level) = normalizeLevel level := by
  rcases normalizeLevel_cases level with ⟨l, hword⟩ | ⟨-, -, htext⟩
  · rw [hword]
    cases l <;> decide
  · -- what is left after trimming is still the same, so it is looked up in vain again
    calc normalizeLevel (normalizeLevel level)
      _ = normalizeLevel (Text.trimText level) := by rw [htext]
      _ = normalizeLevel level :=
        normalizeLevel_congr (by rw [Text.toList_trimText, Text.trim_trim])

/-- Two texts that differ in the case of ASCII letters at most. -/
def SameLetters (s t : String) : Prop :=
  s.toList.map Char.toLower = t.toList.map Char.toLower

/-- No letter is blank, in either case. -/
theorem isBlank_toLower (c : Char) : Text.isBlank c.toLower = Text.isBlank c := by
  have hletter : ∀ d : Char, 65 ≤ d.toNat → d.toNat ≤ 122 → Text.isBlank d = false := by
    intro d hlow hhigh
    rw [← Bool.not_eq_true]
    intro hblank
    obtain ⟨r, hr, hfrom, hto⟩ := Text.Ranges.holds_iff.mp hblank
    simp only [Text.blanks, List.mem_cons, List.not_mem_nil, or_false] at hr
    rcases hr with rfl | rfl | rfl | rfl | rfl | rfl | rfl | rfl | rfl | rfl <;> omega
  -- only the letters from `A` to `Z` are changed, and what they become are letters again
  unfold Char.toLower
  split
  next hupper =>
    have hlow : 65 ≤ c.toNat := UInt32.le_iff_toNat_le.mp hupper.1
    have hhigh : c.toNat ≤ 90 := UInt32.le_iff_toNat_le.mp hupper.2
    have hlower : (c.val + ('a'.val - 'A'.val)).toNat = c.toNat + 32 := by
      rw [UInt32.toNat_add]
      show (c.toNat + 32) % 2 ^ 32 = c.toNat + 32
      omega
    rw [hletter c hlow (by omega)]
    apply hletter
    · show 65 ≤ (c.val + ('a'.val - 'A'.val)).toNat
      omega
    · show (c.val + ('a'.val - 'A'.val)).toNat ≤ 122
      omega
  next => rfl

theorem SameLetters.isAllBlank_eq (h : SameLetters s t) :
    Text.isAllBlank s.toList = Text.isAllBlank t.toList := by
  have hlower : ∀ cs : List Char, Text.isAllBlank (cs.map Char.toLower) = Text.isAllBlank cs := by
    intro cs
    unfold Text.isAllBlank
    rw [List.all_map]
    exact congrArg (List.all cs) (funext isBlank_toLower)
  rw [← hlower, h, hlower]

theorem SameLetters.levelKey_eq (h : SameLetters s t) : levelKey s = levelKey t := by
  unfold levelKey
  rw [← Text.trim_map isBlank_toLower, ← Text.trim_map isBlank_toLower, h]

/-- The case of letters does not count in a text that stands for a level. -/
theorem normalizeLevel_of_letters {l : Level} (h : SameLetters s t)
    (hword : normalizeLevel s = (Verbosity.upTo l).word) : normalizeLevel t = normalizeLevel s := by
  have hblank := h.isAllBlank_eq
  by_cases hs : Text.isAllBlank s.toList = true
  · rw [normalizeLevel_of_blank hs, normalizeLevel_of_blank (hblank ▸ hs)]
  · have ht : ¬ Text.isAllBlank t.toList = true := hblank ▸ hs
    cases hlookup : levelWords.lookup (levelKey s) with
    | some word =>
        rw [normalizeLevel_of_not_blank hs, normalizeLevel_of_not_blank ht, ← h.levelKey_eq,
          hlookup, Option.getD_some, Option.getD_some]
    | none =>
        -- then the text is the word itself, without the blanks around it, and so it is looked up
        have htrim : Text.trimText s = (Verbosity.upTo l).word := by
          rw [← hword, normalizeLevel_of_not_blank hs, hlookup, Option.getD_none]
        have hkey : levelKey s = levelKey (Verbosity.upTo l).word := by
          rw [← htrim]
          unfold levelKey
          rw [Text.toList_trimText, Text.trim_trim]
        rw [hkey, lookup_levelKey_word] at hlookup
        exact absurd hlookup (by simp)

end

/-! ## Levels that cannot be read -/

/-- Whether a warning is about the level. -/
def Warning.isInvalidLevel : Warning → Bool
  | .invalidLevel _ _ => true
  | _ => false

/-- A level is warned of exactly if its normal spelling cannot be read; a blank one can. -/
theorem levelWarnings_eq (level : String) :
    levelWarnings level =
      if (Filter.parse? (normalizeLevel level)).isSome then []
      else [.invalidLevel level (normalizeLevel level)] := by
  unfold levelWarnings
  by_cases hblank : Text.isAllBlank level.toList = true
  · have hparse : Filter.parse? (normalizeLevel level) =
        some (.ofDirectives [.everything (.upTo .info)]) := by
      rw [normalizeLevel_of_blank hblank]
      exact Filter.parse?_word (.upTo .info)
    rw [if_pos hblank, hparse]
    rfl
  · rw [if_neg hblank]

/-- Among all warnings, those about the level are the ones that the level gives. -/
theorem filter_isInvalidLevel_validate (s : Settings) :
    s.validate.warnings.filter Warning.isInvalidLevel = levelWarnings s.logging.level := by
  have hhelpers : (helperWarnings s.sugar.helpers).filter Warning.isInvalidLevel = [] := by
    rw [List.filter_eq_nil_iff]
    intro w hw
    unfold helperWarnings at hw
    split at hw
    · rw [List.mem_singleton.mp hw]
      decide
    · have hduplicate := isDuplicate_of_mem_duplicateWarnings hw
      cases w with
      | invalidLevel value normalized => exact absurd hduplicate (by simp [Warning.isDuplicate])
      | _ => simp [Warning.isInvalidLevel]
  have hlevel : (levelWarnings s.logging.level).filter Warning.isInvalidLevel =
      levelWarnings s.logging.level := by
    unfold levelWarnings
    split
    · rfl
    · split <;> rfl
  show (helperWarnings s.sugar.helpers ++ levelWarnings s.logging.level).filter _ = _
  rw [List.filter_append, hhelpers, hlevel, List.nil_append]

/-! ## Everything together -/

/-- **What normalising means for a level.** -/
structure SettledLevel (level : String) : Prop where
  /-- The normal spelling is not empty. -/
  nonempty : normalizeLevel level ≠ ""
  /-- No blanks stand at its ends. -/
  trimmed : Text.IsTrimmed (normalizeLevel level).toList
  /-- It is its own normal spelling. -/
  settled : normalizeLevel (normalizeLevel level) = normalizeLevel level
  /-- Blanks around the level make no difference. -/
  blanks : ∀ before after : String, Text.isAllBlank before.toList = true →
    Text.isAllBlank after.toList = true → normalizeLevel (before ++ level ++ after) =
      normalizeLevel level
  /-- Of a text that stands for a level, the case of its letters makes none either. -/
  letters : ∀ (l : Level) (other : String), normalizeLevel level = (Verbosity.upTo l).word →
    SameLetters level other → normalizeLevel other = normalizeLevel level
  /-- The normal spelling gives the filter of the level, in every environment. -/
  filter : ∀ s : LoggingSettings, s.level = level → ∀ environment,
    LoggingSettings.filter { s with level := normalizeLevel level } environment =
      s.filter environment
  /-- The filter of the level alone is the one that is read, and the default one if none is. -/
  fallback : ∀ s : LoggingSettings, s.level = level →
    (∀ f, Filter.parse? (normalizeLevel level) = some f → s.ownFilter = f) ∧
      (Filter.parse? (normalizeLevel level) = none →
        s.ownFilter = .ofDirectives [.everything (.upTo .info)])
  /-- Exactly then does validation warn of the level, once, and shows its normal spelling. -/
  warned : ∀ s : Settings, s.logging.level = level →
    s.validate.warnings.filter Warning.isInvalidLevel =
      if (Filter.parse? (normalizeLevel level)).isSome then []
      else [.invalidLevel level (normalizeLevel level)]

/-- **Every level settles** in its normal spelling, and the filter and validation agree on it. -/
theorem normalizeLevel_settles (level : String) : SettledLevel level where
  nonempty := normalizeLevel_ne_empty level
  trimmed := isTrimmed_normalizeLevel level
  settled := normalizeLevel_normalizeLevel level
  blanks := fun _ _ hbefore hafter => normalizeLevel_append hbefore hafter
  letters := fun _ _ hword hletters => normalizeLevel_of_letters hletters hword
  filter := by
    rintro s rfl environment
    rw [LoggingSettings.filter_eq, LoggingSettings.filter_eq, normalizeLevel_normalizeLevel]
  fallback := by
    rintro s rfl
    unfold LoggingSettings.ownFilter
    constructor
    · intro f hparse
      rw [hparse, Option.getD_some]
    · intro hnone
      rw [hnone, Option.getD_none]
      rfl
  warned := by
    rintro s rfl
    rw [filter_isInvalidLevel_validate, levelWarnings_eq]

/-- A synonym settles in its word, with blanks around it and in another case. A directive keeps the
    case of its letters, also in the warning that it cannot be read. -/
theorem normalizeLevel_settles_of_synonym :
    normalizeLevel "Warning" = (Verbosity.upTo .warn).word ∧
      normalizeLevel ("\t" ++ "Warning" ++ " \u3000") = "warn" ∧
      normalizeLevel "wARNING" = "warn" ∧
      (Settings.validate ⟨.standard, ⟨"Warn=Loud", false, true⟩⟩).warnings.filter
          Warning.isInvalidLevel = [.invalidLevel "Warn=Loud" "Warn=Loud"] := by
  have hword : normalizeLevel "Warning" = (Verbosity.upTo .warn).word := by decide
  have hsettled := normalizeLevel_settles "Warning"
  refine ⟨hword, ?_, ?_, ?_⟩
  · rw [hsettled.blanks "\t" " \u3000" (by decide) (by decide), hword]
    rfl
  · rw [hsettled.letters .warn "wARNING" hword (by unfold SameLetters; decide), hword]
    rfl
  · rw [(normalizeLevel_settles "Warn=Loud").warned _ rfl]
    decide +kernel

end Desugar
