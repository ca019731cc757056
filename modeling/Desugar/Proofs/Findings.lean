import Mathlib.Data.Finset.Card
import Desugar.Proofs.Registry

/-!
# What validation finds

Validation goes through the settings once, entry by entry, and on the way it remembers the names of
helpers that it has seen. This module says what comes out without going through anything: a finding
is reported exactly if one of a fixed list of checks finds it, it is reported once, and the findings
come in the order of the checks. Whether the name of a helper is repeated is a question about the
entries before it, and so the memory of the loop is gone.

## Contents

* `ReportsInOrder` — what it means that a report tells what some checks find.
* `Check`, `Check.Finds` — the checks for problems.
* `Doubt`, `Doubt.Finds` — the checks for warnings.
* `duplicateWarnings_eq` — the loop over the names, by its invariant.
* `length_duplicateWarnings` — how many warnings it gives.
* `Settings.validate_tells_all` — the statement for all settings.
-/

namespace Desugar

/-! ## Reports -/

/-- A report tells what checks find: all of it, nothing else, once, and in the order of the checks.
    `rank` is the place of a check in that order. -/
structure ReportsInOrder {κ φ : Type} (rank : κ → Nat) (Finds : κ → φ → Prop) (report : List φ) :
    Prop where
  /-- What is reported is what some check finds. -/
  mem_iff : ∀ f, f ∈ report ↔ ∃ c, Finds c f
  /-- A check finds one thing at most. -/
  single : ∀ c f g, Finds c f → Finds c g → f = g
  /-- No two checks find the same thing. -/
  apart : ∀ c d f, Finds c f → Finds d f → c = d
  /-- What an earlier check finds is told before what a later one finds. -/
  ordered : report.Pairwise fun f g => ∀ c d, Finds c f → Finds d g → rank c < rank d
  /-- Nothing is told twice. -/
  once : report.Nodup

section
variable {κ φ : Type} {rank : κ → Nat} {Finds : κ → φ → Prop} {find? : κ → Option φ}

/-- A report that is made by going through all checks in their order. -/
theorem ReportsInOrder.of_filterMap {checks : List κ} {report : List φ}
    (hreport : report = checks.filterMap find?) (hfind : ∀ c f, find? c = some f ↔ Finds c f)
    (hall : ∀ c f, Finds c f → c ∈ checks)
    (hsorted : checks.Pairwise fun c d => rank c < rank d)
    (hapart : ∀ c d f, Finds c f → Finds d f → c = d) : ReportsInOrder rank Finds report := by
  have hmem : ∀ f, f ∈ report ↔ ∃ c, Finds c f := by
    intro f
    rw [hreport, List.mem_filterMap]
    constructor
    · rintro ⟨c, -, hc⟩
      exact ⟨c, (hfind c f).mp hc⟩
    · rintro ⟨c, hc⟩
      exact ⟨c, hall c f hc, (hfind c f).mpr hc⟩
  have hordered : report.Pairwise fun f g => ∀ c d, Finds c f → Finds d g → rank c < rank d := by
    rw [hreport, List.pairwise_filterMap]
    refine hsorted.imp ?_
    intro c d hlt f hf g hg c' d' hc' hd'
    -- only one check finds each of the two, so these are the ones that are in order
    obtain rfl : c' = c := hapart c' c f hc' ((hfind c f).mp hf)
    obtain rfl : d' = d := hapart d' d g hd' ((hfind d g).mp hg)
    exact hlt
  refine ⟨hmem, ?_, hapart, hordered, ?_⟩
  · intro c f g hf hg
    exact Option.some.inj (((hfind c f).mpr hf).symm.trans ((hfind c g).mpr hg))
  · refine (List.Pairwise.imp_of_mem ?_ hordered)
    intro f g hf _ hlt heq
    obtain ⟨c, hc⟩ := (hmem f).mp hf
    exact Nat.lt_irrefl _ (hlt c c hc (heq ▸ hc))

end

/-! ## Problems -/

/-- A check for a problem. -/
inductive Check
  | specificationType
  | placeholder
  | helperName (i : Nat)
  | helperRange (i : Nat)

namespace Check

/-- The place of a check in their order: the two single settings first, then the helpers in turn, of
    each its name and then its range. -/
def rank : Check → Nat
  | .specificationType => 0
  | .placeholder => 1
  | .helperName i => 2 * i + 2
  | .helperRange i => 2 * i + 3

/-- What a check finds in settings. -/
def Finds (s : Settings) : Check → Problem → Prop
  | .specificationType, p =>
    (Text.isAllBlank s.sugar.specificationType.toList = true ∧
      .invalidValue "sugar.specification_type" "must not be empty" = p) ∨
    (¬ Text.isAllBlank s.sugar.specificationType.toList = true ∧
      (∃ part ∈ Text.splitText '.' s.sugar.specificationType, ¬ Text.isIdentifier part = true) ∧
      .invalidValue "sugar.specification_type" "must be a qualified type name" = p)
  | .placeholder, p =>
    ¬ Text.isIdentifier s.sugar.placeholder = true ∧
      .invalidValue "sugar.placeholder" "must be an identifier" = p
  | .helperName i, p =>
    ∃ h, s.sugar.helpers[i]? = some h ∧ ¬ Text.isIdentifier h.name = true ∧
      .invalidValue (helperPlace i ++ ".name") "must be an identifier" = p
  | .helperRange i, p =>
    ∃ h, s.sugar.helpers[i]? = some h ∧ h.maxArgs < h.minArgs ∧
      .argumentRange (helperPlace i) h.minArgs h.maxArgs = p

/-- The problem that a check finds. -/
def problem? (s : Settings) : Check → Option Problem
  | .specificationType => (specificationTypeProblems s.sugar.specificationType).head?
  | .placeholder => (placeholderProblems s.sugar.placeholder).head?
  | .helperName i => s.sugar.helpers[i]?.bind fun h =>
      if Text.isIdentifier h.name then none
      else some (.invalidValue (helperPlace i ++ ".name") "must be an identifier")
  | .helperRange i => s.sugar.helpers[i]?.bind fun h =>
      if h.maxArgs < h.minArgs then some (.argumentRange (helperPlace i) h.minArgs h.maxArgs)
      else none

/-- The checks of the helper at a position. -/
def ofHelper (i : Nat) : List Check := [.helperName i, .helperRange i]

/-- All checks of settings with `n` helpers, in their order. -/
def all (n : Nat) : List Check :=
  [.specificationType, .placeholder] ++ (List.range n).flatMap ofHelper

theorem isQualifiedName_iff {s : String} :
    isQualifiedName s = true ↔ ∀ part ∈ Text.splitText '.' s, Text.isIdentifier part = true :=
  List.all_eq_true

theorem problem?_eq_some_iff (s : Settings) (c : Check) (p : Problem) :
    problem? s c = some p ↔ Finds s c p := by
  cases c with
  | specificationType =>
      show (specificationTypeProblems s.sugar.specificationType).head? = some p ↔ _
      unfold specificationTypeProblems
      by_cases hblank : Text.isAllBlank s.sugar.specificationType.toList = true
      · simp [Finds, hblank]
      · by_cases hname : isQualifiedName s.sugar.specificationType = true
        · have hparts : ¬ ∃ part ∈ Text.splitText '.' s.sugar.specificationType,
              ¬ Text.isIdentifier part = true := by
            rintro ⟨part, hmem, hnot⟩
            exact hnot (isQualifiedName_iff.mp hname part hmem)
          simp only [Finds, hblank, hname, hparts]
          simp
        · have hpart : ∃ part ∈ Text.splitText '.' s.sugar.specificationType,
              ¬ Text.isIdentifier part = true := by
            simpa [isQualifiedName_iff] using hname
          simp only [Finds, hblank, hname, hpart]
          simp
  | placeholder =>
      show (placeholderProblems s.sugar.placeholder).head? = some p ↔ _
      unfold placeholderProblems
      by_cases hid : Text.isIdentifier s.sugar.placeholder = true
      · simp [Finds, hid]
      · simp [Finds, hid]
  | helperName i => simp [problem?, Finds, Option.bind_eq_some_iff]
  | helperRange i => simp [problem?, Finds, Option.bind_eq_some_iff]

/-- A check that finds something is one of those that are made. -/
theorem mem_all_of_finds {s : Settings} {c : Check} {p : Problem} (h : Finds s c p) :
    c ∈ all s.sugar.helpers.length := by
  have hhelper : ∀ i h, s.sugar.helpers[i]? = some h → ∀ c ∈ ofHelper i,
      c ∈ all s.sugar.helpers.length := by
    intro i h hi c hc
    have hlt : i < s.sugar.helpers.length := (List.getElem?_eq_some_iff.mp hi).1
    apply List.mem_append_right
    exact List.mem_flatMap.mpr ⟨i, List.mem_range.mpr hlt, hc⟩
  cases c with
  | specificationType => exact List.mem_append_left _ (by simp)
  | placeholder => exact List.mem_append_left _ (by simp)
  | helperName i =>
      obtain ⟨g, hi, -⟩ := h
      exact hhelper i g hi _ (by simp [ofHelper])
  | helperRange i =>
      obtain ⟨g, hi, -⟩ := h
      exact hhelper i g hi _ (by simp [ofHelper])

theorem rank_of_mem_ofHelper {i : Nat} {c : Check} (h : c ∈ ofHelper i) :
    2 * i + 2 ≤ c.rank ∧ c.rank ≤ 2 * i + 3 := by
  rcases List.mem_cons.mp h with rfl | h
  · simp [rank]
  · obtain rfl := List.mem_singleton.mp h
    simp [rank]

theorem pairwise_all (n : Nat) : (all n).Pairwise fun c d => c.rank < d.rank := by
  refine List.pairwise_append.mpr ⟨by simp [rank], ?_, ?_⟩
  · refine List.pairwise_flatMap.mpr ⟨fun i _ => by simp [ofHelper, rank], ?_⟩
    refine List.pairwise_lt_range.imp ?_
    intro i j hij c hc d hd
    have hfirst := rank_of_mem_ofHelper hc
    have hsecond := rank_of_mem_ofHelper hd
    omega
  · intro c hc d hd
    obtain ⟨i, -, hd⟩ := List.mem_flatMap.mp hd
    have hhelper := rank_of_mem_ofHelper hd
    have hsingle : c.rank ≤ 1 := by
      rcases List.mem_cons.mp hc with rfl | hc
      · simp [rank]
      · obtain rfl := List.mem_singleton.mp hc
        simp [rank]
    omega

/-- Names of helpers at different positions have different places. -/
theorem helperName_injective {i j : Nat}
    (h : helperPlace i ++ ".name" = helperPlace j ++ ".name") : i = j := by
  rw [String.append_left_inj] at h
  exact helperPlace_injective h

/-- The letter after the first point of a place of a helper. -/
theorem getElem?_helperPlace_append (i : Nat) (rest : String) :
    (helperPlace i ++ rest).toList[6]? = some 'b' := by
  unfold helperPlace
  rw [String.append_assoc, String.append_assoc, String.toList_append,
    List.getElem?_append_left (by decide)]
  decide

/-- The place of a helper is never that of the placeholder: they differ in that letter. -/
theorem helperPlace_ne_placeholder (i : Nat) : helperPlace i ++ ".name" ≠ "sugar.placeholder" := by
  intro h
  have hletter := getElem?_helperPlace_append i ".name"
  rw [h] at hletter
  exact absurd hletter (by decide)

/-- A problem tells which check found it: by its kind, by its message or by its place. -/
theorem eq_of_finds {s : Settings} {c d : Check} {p : Problem} (hc : Finds s c p)
    (hd : Finds s d p) : c = d := by
  -- only the placeholder and the names of helpers share a message, and they differ in their places
  cases c <;> cases d <;>
    grind [Finds, helperPlace_injective, helperName_injective, helperPlace_ne_placeholder]

/-- The two checks of a helper find what is wrong with it. -/
theorem filterMap_ofHelper {s : Settings} {i : Nat} {h : Helper}
    (hi : s.sugar.helpers[i]? = some h) :
    (ofHelper i).filterMap (problem? s) = helperProblemsAt i h := by
  unfold ofHelper helperProblemsAt
  by_cases hid : Text.isIdentifier h.name = true
  · by_cases hlt : h.maxArgs < h.minArgs
    · simp [problem?, hi, hid, hlt]
    · simp [problem?, hi, hid, hlt]
  · by_cases hlt : h.maxArgs < h.minArgs
    · simp [problem?, hi, hid, hlt]
    · simp [problem?, hi, hid, hlt]

theorem helperProblems_eq (s : Settings) :
    helperProblems s.sugar.helpers =
      ((List.range s.sugar.helpers.length).flatMap ofHelper).filterMap (problem? s) := by
  rw [List.filterMap_flatMap, List.flatMap_def]
  unfold helperProblems
  refine congrArg List.flatten (List.ext_getElem (by simp) fun i hi hi' => ?_)
  have hlt : i < s.sugar.helpers.length := by simpa using hi
  rw [List.getElem_mapIdx, List.getElem_map, List.getElem_range,
    filterMap_ofHelper (List.getElem?_eq_getElem hlt)]

/-- The problems of settings, check by check. -/
theorem validate_problems_eq (s : Settings) :
    s.validate.problems = (all s.sugar.helpers.length).filterMap (problem? s) := by
  have htype : specificationTypeProblems s.sugar.specificationType =
      [specificationType].filterMap (problem? s) := by
    unfold problem? specificationTypeProblems
    split
    · rfl
    · split <;> rfl
  have hplaceholder : placeholderProblems s.sugar.placeholder =
      [placeholder].filterMap (problem? s) := by
    unfold problem? placeholderProblems
    split <;> rfl
  show specificationTypeProblems s.sugar.specificationType ++
    placeholderProblems s.sugar.placeholder ++ helperProblems s.sugar.helpers = _
  rw [htype, hplaceholder, helperProblems_eq, ← List.filterMap_append, ← List.filterMap_append]
  rfl

theorem reportsInOrder (s : Settings) :
    ReportsInOrder rank (Finds s) s.validate.problems :=
  .of_filterMap (validate_problems_eq s) (problem?_eq_some_iff s)
    (fun _ _ h => mem_all_of_finds h) (pairwise_all _) (fun _ _ _ hc hd => eq_of_finds hc hd)

end Check

/-! ## Repeated names -/

/-- The warning that a helper among others repeats a name, by a look at all that come before it. -/
def repeatWarning? (hs : List Helper) (i : Nat) : Option Warning :=
  hs[i]?.bind fun h =>
    if Text.isIdentifier h.name = true ∧ h.name ∈ (hs.take i).map Helper.name then
      some (duplicateWarning i h)
    else none

theorem repeatWarning?_append_cons (before hs : List Helper) (h : Helper) :
    repeatWarning? (before ++ h :: hs) before.length =
      if Text.isIdentifier h.name = true ∧ h.name ∈ before.map Helper.name then
        some (duplicateWarning before.length h)
      else none := by
  have hhere : (before ++ h :: hs)[before.length]? = some h := by
    rw [List.getElem?_append_right (Nat.le_refl _), Nat.sub_self, List.getElem?_cons_zero]
  have hearlier : (before ++ h :: hs).take before.length = before := List.take_left
  unfold repeatWarning?
  rw [hhere, hearlier, Option.bind_some]

/-- **The loop over the names.** Its invariant is that of the identifiers, those that were seen are
    those of the helpers before. -/
theorem duplicateWarnings_eq (seen : List String) (before hs : List Helper)
    (hseen : ∀ name, Text.isIdentifier name = true →
      (name ∈ seen ↔ name ∈ before.map Helper.name)) :
    duplicateWarnings seen before.length hs =
      (List.range' before.length hs.length).filterMap (repeatWarning? (before ++ hs)) := by
  induction hs generalizing before seen with
  | nil => rfl
  | cons h hs ih =>
      have hfirst := repeatWarning?_append_cons before hs h
      have hrest : ∀ seen', (∀ name, Text.isIdentifier name = true →
          (name ∈ seen' ↔ name ∈ (before ++ [h]).map Helper.name)) →
          duplicateWarnings seen' (before.length + 1) hs =
            (List.range' (before.length + 1) hs.length).filterMap
              (repeatWarning? (before ++ h :: hs)) := by
        intro seen' hseen'
        have hnext := ih seen' (before ++ [h]) hseen'
        rwa [List.length_append, List.length_singleton, List.append_assoc,
          List.singleton_append] at hnext
      rw [List.length_cons, List.range'_succ]
      unfold duplicateWarnings
      by_cases hid : Text.isIdentifier h.name = true
      · rw [if_pos hid]
        have hhere := hseen h.name hid
        by_cases hmem : h.name ∈ seen
        · -- the name is repeated, and nothing new is seen
          rw [if_pos ⟨hid, hhere.mp hmem⟩] at hfirst
          rw [if_pos hmem, List.filterMap_cons_some hfirst, hrest seen]
          · rfl
          · intro name hname
            have := hseen name hname
            rw [List.map_append, List.mem_append, ← this]
            constructor
            · intro hin
              exact .inl hin
            · rintro (hin | hin)
              · exact hin
              · rw [List.map_singleton, List.mem_singleton] at hin
                exact hin ▸ hmem
        · rw [if_neg (fun hc => hmem (hhere.mpr hc.2))] at hfirst
          rw [if_neg hmem, List.filterMap_cons_none hfirst, hrest (h.name :: seen)]
          intro name hname
          rw [List.mem_cons, List.map_append, List.mem_append, ← hseen name hname, or_comm,
            List.map_singleton, List.mem_singleton]
      · -- a name that is no identifier is not looked up, and not remembered either
        rw [if_neg (fun hc => hid hc.1)] at hfirst
        rw [if_neg hid, List.filterMap_cons_none hfirst, hrest seen]
        intro name hname
        have hne : name ≠ h.name := fun heq => hid (heq ▸ hname)
        rw [List.map_append, List.mem_append, ← hseen name hname, List.map_singleton,
          List.mem_singleton]
        exact ⟨.inl, fun hin => hin.resolve_right hne⟩

/-- The names of helpers that are identifiers, as often as they come. -/
def identifierNames (hs : List Helper) : List String :=
  (hs.map Helper.name).filter Text.isIdentifier

/-- **How many names are repeated**: all but one of each, and all of those seen before. -/
theorem length_duplicateWarnings (seen : List String) (k : Nat) (hs : List Helper) :
    (duplicateWarnings seen k hs).length +
        ((identifierNames hs).toFinset \ seen.toFinset).card =
      (identifierNames hs).length := by
  induction hs generalizing seen k with
  | nil => simp [duplicateWarnings, identifierNames]
  | cons h hs ih =>
      unfold duplicateWarnings
      by_cases hid : Text.isIdentifier h.name = true
      · have hnames : identifierNames (h :: hs) = h.name :: identifierNames hs := by
          simp [identifierNames, hid]
        rw [if_pos hid, hnames, List.toFinset_cons, List.length_cons]
        by_cases hmem : h.name ∈ seen
        · have hold : h.name ∈ seen.toFinset := List.mem_toFinset.mpr hmem
          have hrest := ih seen (k + 1)
          rw [if_pos hmem, Finset.insert_sdiff_of_mem _ hold, List.length_cons]
          omega
        · have hnew : h.name ∉ seen.toFinset := fun hc => hmem (List.mem_toFinset.mp hc)
          have hrest := ih (h.name :: seen) (k + 1)
          have hcard := Finset.card_erase_add_one (Finset.mem_insert_self h.name
            ((identifierNames hs).toFinset \ seen.toFinset))
          rw [Finset.erase_insert_eq_erase, ← Finset.sdiff_insert, ← List.toFinset_cons] at hcard
          rw [if_neg hmem, Finset.insert_sdiff_of_notMem _ hnew]
          omega
      · have hnames : identifierNames (h :: hs) = identifierNames hs := by
          simp [identifierNames, hid]
        rw [if_neg hid, hnames]
        exact ih seen (k + 1)

/-! ## Warnings -/

/-- A check for something suspicious. -/
inductive Doubt
  | noHelpers
  | repeatedName (i : Nat)
  | level

namespace Doubt

/-- The place of a check in their order, among settings with `n` helpers: the helpers in turn, and
    the level last. -/
def rank (n : Nat) : Doubt → Nat
  | .noHelpers => 0
  | .repeatedName i => i + 1
  | .level => n + 1

/-- What a check finds suspicious in settings. A name is repeated if it is an identifier and an
    earlier helper has it. -/
def Finds (s : Settings) : Doubt → Warning → Prop
  | .noHelpers, w => s.sugar.helpers = [] ∧ .noHelpers = w
  | .repeatedName i, w =>
    ∃ h, s.sugar.helpers[i]? = some h ∧ Text.isIdentifier h.name = true ∧
      (∃ j g, j < i ∧ s.sugar.helpers[j]? = some g ∧ g.name = h.name) ∧
      .duplicateHelper (helperPlace i ++ ".name") h.name = w
  | .level, w =>
    ¬ Text.isAllBlank s.logging.level.toList = true ∧
      Filter.parse? (normalizeLevel s.logging.level) = none ∧
      .invalidLevel s.logging.level (normalizeLevel s.logging.level) = w

/-- The warning that a check gives. -/
def warning? (s : Settings) : Doubt → Option Warning
  | .noHelpers => if s.sugar.helpers = [] then some .noHelpers else none
  | .repeatedName i => repeatWarning? s.sugar.helpers i
  | .level => (levelWarnings s.logging.level).head?

/-- All checks of settings with `n` helpers, in their order. -/
def all (n : Nat) : List Doubt := [.noHelpers] ++ (List.range n).map .repeatedName ++ [.level]

theorem mem_names_take_iff {hs : List Helper} {i : Nat} {name : String} :
    name ∈ (hs.take i).map Helper.name ↔ ∃ j g, j < i ∧ hs[j]? = some g ∧ g.name = name := by
  constructor
  · intro h
    obtain ⟨g, hg, hname⟩ := List.mem_map.mp h
    obtain ⟨j, hj⟩ := List.mem_iff_getElem?.mp hg
    rw [List.getElem?_take] at hj
    by_cases hlt : j < i
    · rw [if_pos hlt] at hj
      exact ⟨j, g, hlt, hj, hname⟩
    · rw [if_neg hlt] at hj
      exact absurd hj (by simp)
  · rintro ⟨j, g, hlt, hj, hname⟩
    refine List.mem_map.mpr ⟨g, List.mem_iff_getElem?.mpr ⟨j, ?_⟩, hname⟩
    rw [List.getElem?_take, if_pos hlt]
    exact hj

theorem warning?_eq_some_iff (s : Settings) (d : Doubt) (w : Warning) :
    warning? s d = some w ↔ Finds s d w := by
  cases d with
  | noHelpers => simp [warning?, Finds]
  | repeatedName i =>
      simp only [warning?, Finds, repeatWarning?, duplicateWarning, mem_names_take_iff,
        Option.bind_eq_some_iff, Option.ite_none_right_eq_some, Option.some.injEq, and_assoc]
  | level =>
      show (levelWarnings s.logging.level).head? = some w ↔ _
      unfold levelWarnings
      by_cases hblank : Text.isAllBlank s.logging.level.toList = true
      · simp [Finds, hblank]
      · cases hparse : Filter.parse? (normalizeLevel s.logging.level) with
        | none => simp [Finds, hblank, hparse]
        | some f => simp [Finds, hblank, hparse]

theorem mem_all_of_finds {s : Settings} {d : Doubt} {w : Warning} (h : Finds s d w) :
    d ∈ all s.sugar.helpers.length := by
  cases d with
  | noHelpers => simp [all]
  | repeatedName i =>
      obtain ⟨g, hi, -⟩ := h
      have hlt : i < s.sugar.helpers.length := (List.getElem?_eq_some_iff.mp hi).1
      simp [all, hlt]
  | level => simp [all]

theorem pairwise_all (n : Nat) : (all n).Pairwise fun c d => c.rank n < d.rank n := by
  have hnames : ((List.range n).map repeatedName).Pairwise fun c d => c.rank n < d.rank n := by
    rw [List.pairwise_map]
    refine List.pairwise_lt_range.imp ?_
    intro i j hij
    simpa [rank] using hij
  refine List.pairwise_append.mpr ⟨List.pairwise_append.mpr ⟨by simp, hnames, ?_⟩, by simp, ?_⟩
  · intro c hc d hd
    obtain rfl := List.mem_singleton.mp hc
    obtain ⟨i, -, rfl⟩ := List.mem_map.mp hd
    simp [rank]
  · intro c hc d hd
    obtain rfl := List.mem_singleton.mp hd
    rcases List.mem_append.mp hc with hc | hc
    · obtain rfl := List.mem_singleton.mp hc
      simp [rank]
    · obtain ⟨i, hi, rfl⟩ := List.mem_map.mp hc
      simpa [rank] using hi

theorem eq_of_finds {s : Settings} {c d : Doubt} {w : Warning} (hc : Finds s c w)
    (hd : Finds s d w) : c = d := by
  cases c <;> cases d <;> grind [Finds, Check.helperName_injective]

/-- The warnings of settings, check by check. -/
theorem validate_warnings_eq (s : Settings) :
    s.validate.warnings = (all s.sugar.helpers.length).filterMap (warning? s) := by
  have hnames : ((List.range s.sugar.helpers.length).map repeatedName).filterMap (warning? s) =
      duplicateWarnings [] 0 s.sugar.helpers := by
    have hloop := duplicateWarnings_eq [] [] s.sugar.helpers (by simp)
    rw [List.filterMap_map, List.range_eq_range']
    exact hloop.symm
  have hhelpers : helperWarnings s.sugar.helpers =
      ([noHelpers] ++ (List.range s.sugar.helpers.length).map repeatedName).filterMap
        (warning? s) := by
    rw [List.filterMap_append, hnames]
    unfold helperWarnings
    cases hs : s.sugar.helpers with
    | nil => simp [warning?, hs, duplicateWarnings]
    | cons h hs' => simp [warning?, hs]
  have hlevel : levelWarnings s.logging.level = [level].filterMap (warning? s) := by
    unfold warning? levelWarnings
    split
    · rfl
    · split <;> rfl
  show helperWarnings s.sugar.helpers ++ levelWarnings s.logging.level = _
  rw [hhelpers, hlevel, ← List.filterMap_append]
  rfl

theorem reportsInOrder (s : Settings) :
    ReportsInOrder (rank s.sugar.helpers.length) (Finds s) s.validate.warnings :=
  .of_filterMap (validate_warnings_eq s) (warning?_eq_some_iff s)
    (fun _ _ h => mem_all_of_finds h) (pairwise_all _) (fun _ _ _ hc hd => eq_of_finds hc hd)

end Doubt

/-! ## Everything together -/

/-- Whether a warning is about a repeated name. -/
def Warning.isDuplicate : Warning → Bool
  | .duplicateHelper _ _ => true
  | _ => false

theorem isDuplicate_of_mem_duplicateWarnings {seen : List String} {k : Nat} {hs : List Helper}
    {w : Warning} (h : w ∈ duplicateWarnings seen k hs) : w.isDuplicate = true := by
  induction hs generalizing seen k with
  | nil => exact absurd h (by simp [duplicateWarnings])
  | cons g hs ih =>
      unfold duplicateWarnings at h
      split at h
      · split at h
        · rcases List.mem_cons.mp h with rfl | h
          · rfl
          · exact ih h
        · exact ih h
      · exact ih h

theorem countP_isDuplicate_validate (s : Settings) :
    s.validate.warnings.countP Warning.isDuplicate =
      (duplicateWarnings [] 0 s.sugar.helpers).length := by
  have hlevel : (levelWarnings s.logging.level).countP Warning.isDuplicate = 0 := by
    unfold levelWarnings
    split
    · rfl
    · split <;> rfl
  have hnames : (duplicateWarnings [] 0 s.sugar.helpers).countP Warning.isDuplicate =
      (duplicateWarnings [] 0 s.sugar.helpers).length :=
    List.countP_eq_length.mpr fun w hw => isDuplicate_of_mem_duplicateWarnings hw
  show (helperWarnings s.sugar.helpers ++ levelWarnings s.logging.level).countP _ = _
  rw [List.countP_append, hlevel, Nat.add_zero, ← hnames]
  unfold helperWarnings
  cases s.sugar.helpers with
  | nil => rfl
  | cons h hs => rfl

/-- **Validation tells all that its checks find**, each thing once and in the order of the checks:
    the problems of the single settings and then those of the helpers in turn, the warnings about
    the helpers and then the one about the level. A name is warned of as often as it is repeated, so
    with one warning less than it has helpers. -/
theorem Settings.validate_tells_all (s : Settings) :
    ReportsInOrder Check.rank (Check.Finds s) s.validate.problems ∧
    ReportsInOrder (Doubt.rank s.sugar.helpers.length) (Doubt.Finds s) s.validate.warnings ∧
    s.validate.warnings.countP Warning.isDuplicate +
        (identifierNames s.sugar.helpers).toFinset.card =
      (identifierNames s.sugar.helpers).length := by
  refine ⟨Check.reportsInOrder s, Doubt.reportsInOrder s, ?_⟩
  have hcount := length_duplicateWarnings [] 0 s.sugar.helpers
  rw [List.toFinset_nil, Finset.sdiff_empty] at hcount
  rw [countP_isDuplicate_validate]
  exact hcount

/-- The third `M` is warned of like the second one, and a name that is no identifier never is. -/
example : duplicateWarnings [] 0 [⟨"M", 0, 2⟩, ⟨"1", 0, 0⟩, ⟨"M", 0, 0⟩, ⟨"1", 0, 0⟩, ⟨"M", 1, 0⟩] =
    [.duplicateHelper "sugar.builtins[2].name" "M",
      .duplicateHelper "sugar.builtins[4].name" "M"] := by
  decide +kernel

end Desugar
