import Desugar.Proofs.Findings

/-!
# Qualified names

The specification type has to be a qualified name: identifiers with points between them. Validation
cuts the text at its points and looks at the pieces, after it has looked whether there is anything
but blanks. This module compares that with the grammar of qualified names. Since no identifier holds
a point, the pieces are the only way to read a text as a qualified name, and since no identifier
holds a blank, the first look never takes away a qualified name. Both facts are read off the tables
of characters.

## Contents

* `Text.Ranges.areApart`, `Text.not_isBlank_of_isIdentifierPart` — what the tables say.
* `NameParts` — the grammar.
* `NameParts.eq_splitText`, `isQualifiedName_iff_nameParts` — the recogniser against the grammar.
* `Settings.typeProblems_eq` — what validation finds at the specification type.
* `TypeVerdict`, `Settings.specificationType_judged` — all of it together.
-/

namespace Desugar

/-! ## What the tables say -/

namespace Text

/-- Whether no range of the one table meets a range of the other. -/
def Ranges.areApart (rs qs : Ranges) : Bool :=
  rs.all fun r => qs.all fun q => decide (r.2 < q.1) || decide (q.2 < r.1)

theorem Ranges.not_holds_of_areApart {rs qs : Ranges} {c : Char} (h : rs.areApart qs = true)
    (hc : qs.holds c = true) : rs.holds c = false := by
  rw [← Bool.not_eq_true]
  intro hc'
  obtain ⟨r, hr, hfrom, hto⟩ := holds_iff.mp hc'
  obtain ⟨q, hq, hfrom', hto'⟩ := holds_iff.mp hc
  have hapart := List.all_eq_true.mp (List.all_eq_true.mp h r hr) q hq
  simp only [Bool.or_eq_true, decide_eq_true_eq] at hapart
  omega

theorem areApart_blanks_start : blanks.areApart identifierStart = true := by decide +kernel

theorem areApart_blanks_continue : blanks.areApart identifierContinue = true := by decide +kernel

/-- No character of identifiers is blank. -/
theorem not_isBlank_of_isIdentifierPart {c : Char} (h : isIdentifierPart c = true) :
    isBlank c = false := by
  simp only [isIdentifierPart, isIdentifierStart, Bool.or_eq_true, beq_iff_eq] at h
  rcases h with ((rfl | rfl) | hstart) | hcontinue
  · decide
  · decide
  · exact Ranges.not_holds_of_areApart areApart_blanks_start hstart
  · exact Ranges.not_holds_of_areApart areApart_blanks_continue hcontinue

/-- A point is no character of identifiers. -/
theorem not_isIdentifierPart_point : isIdentifierPart '.' = false := by decide +kernel

theorem point_not_mem_of_isIdentifier {s : String} (h : isIdentifier s = true) :
    '.' ∉ s.toList := by
  intro hmem
  have hpart := isIdentifierPart_of_mem h hmem
  rw [not_isIdentifierPart_point] at hpart
  exact absurd hpart (by decide)

theorem ne_empty_of_isIdentifier {s : String} (h : isIdentifier s = true) : s ≠ "" := by
  rintro rfl
  exact absurd h (by decide)

end Text

/-! ## The grammar -/

/-- A reading of a text as a qualified name: one identifier or more, which give the text with points
    between them. -/
structure NameParts (s : String) (parts : List String) : Prop where
  nonempty : parts ≠ []
  identifiers : ∀ part ∈ parts, Text.isIdentifier part = true
  joined : String.intercalate "." parts = s

theorem toList_intercalate_point (parts : List String) :
    (String.intercalate "." parts).toList = Text.join '.' (parts.map String.toList) :=
  String.toList_intercalate

section
variable {s : String} {parts : List String}

/-- **There is one way to read a qualified name**: its parts are the pieces between its points. -/
theorem NameParts.eq_splitText (h : NameParts s parts) : parts = Text.splitText '.' s := by
  have hpoints : ∀ piece ∈ parts.map String.toList, '.' ∉ piece := by
    intro piece hpiece
    obtain ⟨part, hpart, rfl⟩ := List.mem_map.mp hpiece
    exact Text.point_not_mem_of_isIdentifier (h.identifiers part hpart)
  unfold Text.splitText
  rw [← h.joined, toList_intercalate_point,
    Text.split_join (by simpa using h.nonempty) hpoints, List.map_map]
  simp

/-- The pieces of a text, if they are identifiers, are a reading of it. -/
theorem nameParts_splitText (h : isQualifiedName s = true) :
    NameParts s (Text.splitText '.' s) where
  nonempty := by
    unfold Text.splitText
    rw [ne_eq, List.map_eq_nil_iff]
    exact Text.split_ne_nil '.' s.toList
  identifiers := Check.isQualifiedName_iff.mp h
  joined := by
    rw [← String.toList_inj, toList_intercalate_point]
    unfold Text.splitText
    rw [List.map_map]
    simp [Function.comp_def, Text.join_split]

/-- **The recogniser accepts the grammar.** -/
theorem isQualifiedName_iff_nameParts : isQualifiedName s = true ↔ ∃ parts, NameParts s parts := by
  constructor
  · intro h
    exact ⟨_, nameParts_splitText h⟩
  · rintro ⟨parts, h⟩
    rw [Check.isQualifiedName_iff, ← h.eq_splitText]
    exact h.identifiers

/-- No piece of a qualified name is empty. -/
theorem NameParts.empty_not_mem_splitText (h : NameParts s parts) : "" ∉ Text.splitText '.' s := by
  rw [← h.eq_splitText]
  intro hmem
  exact Text.ne_empty_of_isIdentifier (h.identifiers "" hmem) rfl

/-- A point at the start or the end of a text has an empty piece beside it. -/
theorem empty_mem_splitText {before after : List Char} (h : s.toList = before ++ '.' :: after)
    (hempty : before = [] ∨ after = []) : "" ∈ Text.splitText '.' s := by
  have hnil : [] ∈ Text.split '.' s.toList := by
    rw [h, Text.split_append_separator, List.mem_append]
    rcases hempty with rfl | rfl
    · exact .inl (by simp [Text.split])
    · exact .inr (by simp [Text.split])
  exact List.mem_map.mpr ⟨[], hnil, rfl⟩

theorem NameParts.head?_ne_point (h : NameParts s parts) : s.toList.head? ≠ some '.' := by
  intro hhead
  obtain ⟨after, hafter⟩ := List.head?_eq_some_iff.mp hhead
  have hsplit : s.toList = [] ++ '.' :: after := hafter
  exact h.empty_not_mem_splitText (empty_mem_splitText hsplit (.inl rfl))

theorem NameParts.getLast?_ne_point (h : NameParts s parts) : s.toList.getLast? ≠ some '.' := by
  intro hlast
  obtain ⟨before, hbefore⟩ := List.getLast?_eq_some_iff.mp hlast
  exact h.empty_not_mem_splitText (empty_mem_splitText hbefore (.inr rfl))

/-- No character of a qualified name is blank: it is a point, or one of an identifier. -/
theorem NameParts.not_isBlank (h : NameParts s parts) {c : Char} (hc : c ∈ s.toList) :
    Text.isBlank c = false := by
  rw [← h.joined, toList_intercalate_point] at hc
  rcases Text.mem_join hc with rfl | ⟨piece, hpiece, hc⟩
  · decide
  · obtain ⟨part, hpart, rfl⟩ := List.mem_map.mp hpiece
    have hidentifier := Text.isIdentifierPart_of_mem (h.identifiers part hpart) hc
    exact Text.not_isBlank_of_isIdentifierPart hidentifier

/-- A qualified name is not blank. -/
theorem NameParts.not_isAllBlank (h : NameParts s parts) : ¬ Text.isAllBlank s.toList = true := by
  intro hblank
  have hnil : s.toList = [] := by
    refine List.eq_nil_iff_forall_not_mem.mpr ?_
    intro c hc
    have hc' : Text.isBlank c = true := List.all_eq_true.mp hblank c hc
    rw [h.not_isBlank hc] at hc'
    exact absurd hc' (by decide)
  have hempty : "" ∈ Text.splitText '.' s := by
    unfold Text.splitText
    rw [hnil]
    exact List.mem_singleton.mpr rfl
  exact h.empty_not_mem_splitText hempty

end

/-! ## What validation finds -/

/-- The place of a problem. -/
def Problem.place : Problem → String
  | .invalidValue place _ => place
  | .argumentRange place _ _ => place

/-- The problems of settings at their specification type. -/
def Settings.typeProblems (s : Settings) : List Problem :=
  s.validate.problems.filter fun p => p.place == "sugar.specification_type"

/-- A place of a helper is never that of the specification type. -/
theorem helperPlace_append_ne (i : Nat) (rest : String) :
    helperPlace i ++ rest ≠ "sugar.specification_type" := by
  intro h
  have hletter := Check.getElem?_helperPlace_append i rest
  rw [h] at hletter
  exact absurd hletter (by decide)

theorem place_ne_of_mem_helperProblems {hs : List Helper} {p : Problem}
    (h : p ∈ helperProblems hs) : p.place ≠ "sugar.specification_type" := by
  obtain ⟨ps, hps, hp⟩ := List.mem_flatten.mp h
  obtain ⟨i, hi, rfl⟩ := List.mem_mapIdx.mp hps
  rcases List.mem_append.mp hp with hp | hp
  · split at hp
    · exact absurd hp List.not_mem_nil
    · rw [List.mem_singleton.mp hp]
      exact helperPlace_append_ne i ".name"
  · split at hp
    · rw [List.mem_singleton.mp hp]
      have hplace := helperPlace_append_ne i ""
      rw [String.append_empty] at hplace
      exact hplace
    · exact absurd hp List.not_mem_nil

/-- What validation finds at the specification type is what it finds by looking at it. -/
theorem Settings.typeProblems_eq (s : Settings) :
    s.typeProblems = specificationTypeProblems s.sugar.specificationType := by
  have htype : (specificationTypeProblems s.sugar.specificationType).filter
      (fun p => p.place == "sugar.specification_type") =
        specificationTypeProblems s.sugar.specificationType := by
    unfold specificationTypeProblems
    split
    · rfl
    · split <;> rfl
  have hplaceholder : (placeholderProblems s.sugar.placeholder).filter
      (fun p => p.place == "sugar.specification_type") = [] := by
    unfold placeholderProblems
    split
    · rfl
    · decide
  have hhelpers : (helperProblems s.sugar.helpers).filter
      (fun p => p.place == "sugar.specification_type") = [] := by
    rw [List.filter_eq_nil_iff]
    intro p hp
    rw [beq_iff_eq]
    exact place_ne_of_mem_helperProblems hp
  show (specificationTypeProblems s.sugar.specificationType ++
    placeholderProblems s.sugar.placeholder ++ helperProblems s.sugar.helpers).filter _ = _
  rw [List.filter_append, List.filter_append, htype, hplaceholder, hhelpers, List.append_nil,
    List.append_nil]

/-- A qualified name has no problems. -/
theorem specificationTypeProblems_of_nameParts {s : String} {parts : List String}
    (h : NameParts s parts) : specificationTypeProblems s = [] := by
  unfold specificationTypeProblems
  rw [if_neg h.not_isAllBlank, if_pos (isQualifiedName_iff_nameParts.mpr ⟨parts, h⟩)]

/-- Any other text has one, and its message tells whether the text is blank. -/
theorem specificationTypeProblems_of_no_nameParts {s : String}
    (h : ¬ ∃ parts, NameParts s parts) :
    specificationTypeProblems s = [.invalidValue "sugar.specification_type"
      (if Text.isAllBlank s.toList then "must not be empty"
        else "must be a qualified type name")] := by
  unfold specificationTypeProblems
  by_cases hblank : Text.isAllBlank s.toList = true
  · rw [if_pos hblank, if_pos hblank]
  · rw [if_neg hblank, if_neg hblank,
      if_neg fun hname => h (isQualifiedName_iff_nameParts.mp hname)]

/-- **How validation judges a specification type.** -/
structure TypeVerdict (s : Settings) : Prop where
  /-- Nothing is wrong with it exactly if it can be read as a qualified name. -/
  accepted_iff : s.typeProblems = [] ↔ ∃ parts, NameParts s.sugar.specificationType parts
  /-- There is one way to read it at most. -/
  unique : ∀ parts others, NameParts s.sugar.specificationType parts →
    NameParts s.sugar.specificationType others → parts = others
  /-- Otherwise one thing is wrong, and its message tells a blank text from another one. -/
  rejected : s.typeProblems ≠ [] → s.typeProblems = [.invalidValue "sugar.specification_type"
    (if Text.isAllBlank s.sugar.specificationType.toList then "must not be empty"
      else "must be a qualified type name")]
  /-- A text that is accepted holds no blanks. -/
  unblank : s.typeProblems = [] → ∀ c ∈ s.sugar.specificationType.toList, Text.isBlank c = false
  /-- None of its components is empty. -/
  filled : s.typeProblems = [] → "" ∉ Text.splitText '.' s.sugar.specificationType
  /-- No point stands at its start or its end. -/
  unpointed : s.typeProblems = [] → s.sugar.specificationType.toList.head? ≠ some '.' ∧
    s.sugar.specificationType.toList.getLast? ≠ some '.'

/-- **Validation accepts the qualified names**, all of them and nothing else. -/
theorem Settings.specificationType_judged (s : Settings) : TypeVerdict s := by
  have haccepted : s.typeProblems = [] ↔ ∃ parts, NameParts s.sugar.specificationType parts := by
    rw [s.typeProblems_eq]
    constructor
    · -- a text that is no name never is without problems
      intro hnone
      apply Classical.byContradiction
      intro hno
      rw [specificationTypeProblems_of_no_nameParts hno] at hnone
      exact absurd hnone (List.cons_ne_nil _ _)
    · rintro ⟨parts, h⟩
      exact specificationTypeProblems_of_nameParts h
  refine ⟨haccepted, ?_, ?_, ?_, ?_, ?_⟩
  · intro parts others hparts hothers
    rw [hparts.eq_splitText, hothers.eq_splitText]
  · intro hne
    rw [s.typeProblems_eq]
    exact specificationTypeProblems_of_no_nameParts fun h => hne (haccepted.mpr h)
  · intro hnone c hc
    obtain ⟨parts, h⟩ := haccepted.mp hnone
    exact h.not_isBlank hc
  · intro hnone
    obtain ⟨parts, h⟩ := haccepted.mp hnone
    exact h.empty_not_mem_splitText
  · intro hnone
    obtain ⟨parts, h⟩ := haccepted.mp hnone
    exact ⟨h.head?_ne_point, h.getLast?_ne_point⟩

/-- A name of three parts is accepted, and one with an empty part is not. -/
theorem Settings.specificationType_judged_of_three :
    NameParts "acme.$t.Größe" ["acme", "$t", "Größe"] ∧
      typeProblems ⟨⟨"acme.$t.Größe", "_", Helper.standard⟩, .standard⟩ = [] ∧
      typeProblems ⟨⟨"acme..Spec", "_", Helper.standard⟩, .standard⟩ =
        [.invalidValue "sugar.specification_type" "must be a qualified type name"] := by
  have hparts : NameParts "acme.$t.Größe" ["acme", "$t", "Größe"] :=
    ⟨by decide, by decide +kernel, by decide⟩
  have hjudged := specificationType_judged ⟨⟨"acme..Spec", "_", Helper.standard⟩, .standard⟩
  have hne : typeProblems ⟨⟨"acme..Spec", "_", Helper.standard⟩, .standard⟩ ≠ [] :=
    fun hnone => hjudged.filled hnone (by decide)
  refine ⟨hparts, (specificationType_judged _).accepted_iff.mpr ⟨_, hparts⟩, ?_⟩
  rw [hjudged.rejected hne]
  decide

end Desugar
