import Desugar.Proofs.Session

/-!
# Which directives count

The filter of a log is found by trial: the configured level and the directives of the environment
are read as one text, then the latter alone, then the former alone. This module says what comes out
of it in terms of the two texts on their own. A text of directives is read piece by piece, so the
joined text can be read exactly if both of its sides can, and gives the directives of the one and
then those of the other. It follows that the environment is ignored as a whole if it cannot be read,
and that a level that cannot be read takes nothing away from an environment that can. None of this
depends on what a piece has to be to be a directive.

## Contents

* `readPieces?_comma`, `trials_eq_readable?` — reading a joined text, and the trials, for any kind
  of piece.
* `givenDirectives?`, `usedDirectives` — the directives that count, from the two texts on their own.
* `LoggingSettings.filter_merges` — the filter is made of those.
-/

namespace Desugar

/-! ## Joined texts -/

section
variable {δ : Type} (read? : List Char → Option δ)

/-- Two texts with a comma between them are read one after the other, and a fault in either one is a
    fault of the whole. What a piece has to be does not matter. -/
theorem readPieces?_comma (before after : String) :
    readPieces? read? (before ++ "," ++ after) =
      (readPieces? read? before).bind fun cs =>
        (readPieces? read? after).map fun ds => cs ++ ds := by
  have htext : (before ++ "," ++ after).toList = before.toList ++ ',' :: after.toList := by
    rw [String.toList_append, String.toList_append, List.append_assoc]
    rfl
  unfold readPieces?
  rw [htext, Text.split_append_separator, List.filter_append, List.mapM_append]
  cases List.mapM read? ((Text.split ',' before.toList).filter fun piece => !piece.isEmpty) with
  | none => rfl
  | some cs =>
      cases List.mapM read? ((Text.split ',' after.toList).filter fun piece => !piece.isEmpty) with
      | none => rfl
      | some ds => rfl

/-- What two texts give: both if both can be read, else the one that can be. -/
def readable? : Option (List δ) → Option (List δ) → Option (List δ)
  | some own, some given => some (own ++ given)
  | none, given => given
  | own, none => own

/-- **Three trials**, whatever a piece has to be: the joined text, the second text, the first one.
    They give what the two texts give on their own. -/
theorem trials_eq_readable? (own given : String) :
    (readPieces? read? (own ++ "," ++ given)).or
        ((readPieces? read? given).or (readPieces? read? own)) =
      readable? (readPieces? read? own) (readPieces? read? given) := by
  rw [readPieces?_comma]
  cases readPieces? read? given with
  | none =>
      -- a fault of the second text is one of the joined text
      simp only [Option.map_none, Option.bind_fun_none, Option.none_or]
      cases readPieces? read? own <;> rfl
  | some ds => cases readPieces? read? own <;> rfl

end

/-! ## The directives that count -/

/-- The directives that an environment gives. An environment that is not set, that is blank or that
    cannot be read gives none. -/
def givenDirectives? : Option String → Option (List Directive)
  | none => none
  | some text =>
    if Text.isAllBlank text.toList then none else Directive.parseAll? (Text.trimText text)

/-- The directives that are used, from those of the level and those of the environment: both if
    there are both, else those that there are, and without any that everything up to `info` is
    shown. -/
def usedDirectives : Option (List Directive) → Option (List Directive) → List Directive
  | some own, some given => own ++ given
  | none, some given => given
  | some own, none => own
  | none, none => [.everything (.upTo .info)]

theorem usedDirectives_eq_readable? (own given : Option (List Directive)) :
    usedDirectives own given = (readable? own given).getD [.everything (.upTo .info)] := by
  cases own <;> cases given <;> rfl

namespace LoggingSettings

/-- An environment that is not blank counts without the blanks around it. -/
theorem environmentDirectives_of_not_blank {text : String}
    (h : ¬ Text.isAllBlank text.toList = true) :
    environmentDirectives (some text) = some (Text.trimText text) := by
  have hne := Text.trimText_ne_empty h
  show Option.filter _ (some (Text.trimText text)) = _
  rw [Option.filter_some_pos (by simpa using hne)]

/-- The filter of the level alone. -/
theorem ownFilter_eq_getD (s : LoggingSettings) :
    s.ownFilter = .ofDirectives
      ((Directive.parseAll? (normalizeLevel s.level)).getD [.everything (.upTo .info)]) := by
  unfold ownFilter Filter.parse?
  cases Directive.parseAll? (normalizeLevel s.level) with
  | none => rfl
  | some own => rfl

theorem ownFilter_eq (s : LoggingSettings) :
    s.ownFilter =
      .ofDirectives (usedDirectives (Directive.parseAll? (normalizeLevel s.level)) none) := by
  rw [ownFilter_eq_getD]
  cases Directive.parseAll? (normalizeLevel s.level) <;> rfl

section
variable {s : LoggingSettings} {environment : Option String} {directives : String}

/-- The three trials with the directives of an environment. -/
theorem filter_eq_trials (h : environmentDirectives environment = some directives) :
    s.filter environment =
      .ofDirectives (((Directive.parseAll? (normalizeLevel s.level ++ "," ++ directives)).or
        ((Directive.parseAll? directives).or
          (Directive.parseAll? (normalizeLevel s.level)))).getD [.everything (.upTo .info)]) := by
  unfold filter
  rw [h]
  simp only [Filter.parse?]
  cases Directive.parseAll? (normalizeLevel s.level ++ "," ++ directives) with
  | some both => simp only [Option.map_some, Option.some_or, Option.getD_some]
  | none =>
      cases Directive.parseAll? directives with
      | some given =>
          simp only [Option.map_some, Option.map_none, Option.some_or, Option.none_or,
            Option.getD_some]
      | none =>
          simp only [Option.map_none, Option.none_or, Option.getD_none]
          exact s.ownFilter_eq_getD

theorem filter_of_environmentDirectives (h : environmentDirectives environment = some directives) :
    s.filter environment =
      .ofDirectives (usedDirectives (Directive.parseAll? (normalizeLevel s.level))
        (Directive.parseAll? directives)) := by
  have hreadable : (Directive.parseAll? (normalizeLevel s.level ++ "," ++ directives)).or
      ((Directive.parseAll? directives).or (Directive.parseAll? (normalizeLevel s.level))) =
        readable? (Directive.parseAll? (normalizeLevel s.level))
          (Directive.parseAll? directives) :=
    trials_eq_readable? Directive.parse? (normalizeLevel s.level) directives
  rw [filter_eq_trials h, hreadable, usedDirectives_eq_readable?]

end

/-- The filter in terms of the two texts on their own. -/
theorem filter_eq (s : LoggingSettings) (environment : Option String) :
    s.filter environment =
      .ofDirectives (usedDirectives (Directive.parseAll? (normalizeLevel s.level))
        (givenDirectives? environment)) := by
  have hsilent : environmentDirectives environment = none →
      s.filter environment = s.ownFilter := by
    intro hnone
    unfold filter
    rw [hnone]
  cases environment with
  | none =>
      rw [hsilent rfl]
      exact s.ownFilter_eq
  | some text =>
      by_cases hblank : Text.isAllBlank text.toList = true
      · have hgiven : givenDirectives? (some text) = none := if_pos hblank
        rw [hgiven, hsilent (environmentDirectives_of_blank hblank)]
        exact s.ownFilter_eq
      · have hgiven : givenDirectives? (some text) = Directive.parseAll? (Text.trimText text) :=
          if_neg hblank
        rw [hgiven]
        exact filter_of_environmentDirectives (environmentDirectives_of_not_blank hblank)

/-- **Which directives count.** The filter is made of the directives of the level and then those of
    the environment, as far as there are any. So an environment that gives none is as good as one
    that is not set, and a level that cannot be read leaves the directives of the environment as
    they are. -/
theorem filter_merges (s : LoggingSettings) (environment : Option String) :
    s.filter environment =
        .ofDirectives (usedDirectives (Directive.parseAll? (normalizeLevel s.level))
          (givenDirectives? environment)) ∧
      (givenDirectives? environment = none → s.filter environment = s.filter none) ∧
      (Directive.parseAll? (normalizeLevel s.level) = none → ∀ given,
        givenDirectives? environment = some given →
        s.filter environment = .ofDirectives given) := by
  refine ⟨filter_eq s environment, ?_, ?_⟩
  · intro hnone
    rw [filter_eq, filter_eq, hnone]
    rfl
  · intro hlevel given hgiven
    rw [filter_eq, hlevel, hgiven]
    rfl

/-- A level that cannot be read does not hide the environment, and a single bad piece of the
    environment takes the good ones with it. -/
theorem filter_merges_of_bad_level :
    (LoggingSettings.mk "speck.sugar=loud" false true).filter (some " speck.config=debug,,warn ") =
        .ofDirectives [⟨some "speck.config", none, none, .upTo .debug⟩, .everything (.upTo .warn)] ∧
      (LoggingSettings.mk "speck.sugar=loud" false true).filter (some "debug,=") =
        LoggingSettings.filter ⟨"speck.sugar=loud", false, true⟩ none := by
  have hlevel : Directive.parseAll? (normalizeLevel "speck.sugar=loud") = none := by decide +kernel
  have hgiven : givenDirectives? (some " speck.config=debug,,warn ") =
      some [⟨some "speck.config", none, none, .upTo .debug⟩, .everything (.upTo .warn)] := by
    decide +kernel
  have hbad : givenDirectives? (some "debug,=") = none := by decide +kernel
  exact ⟨(filter_merges ⟨"speck.sugar=loud", false, true⟩ _).2.2 hlevel _ hgiven,
    (filter_merges ⟨"speck.sugar=loud", false, true⟩ _).2.1 hbad⟩

end LoggingSettings

end Desugar
