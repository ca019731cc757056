import Mathlib.Data.List.Nodup
import Desugar.Proofs.Registry

/-!
# Registries that leave no doubt

Validation looks at the settings alone: at the names of the helpers, one by one, and at the bounds
of each. The registry is searched with expressions. This module says what the one is good for in the
other: if validation finds nothing wrong and warns of no repeated name, then an expression uses at
most one registered helper, whatever their order, and every helper is found by what it was
registered for.

## Contents

* `identifier_of_valid`, `range_of_valid` — what validation has checked of each helper.
* `nodup_names_of_unwarned` — without a warning no name comes twice.
* `Registry.find?_eq_some_iff_of_nodup` — the search without its order.
* `Call.IsOnSelf` — a call on `this` or `super`.
* `Settings.unambiguous` — the registry of settings without such findings.
-/

namespace Desugar

/-! ## What validation has checked -/

section
variable {hs : List Helper} {h : Helper}

/-- Among valid helpers, each one has no problems at its position. -/
theorem helperProblemsAt_of_valid (hvalid : helperProblems hs = []) (hmem : h ∈ hs) :
    ∃ i, helperProblemsAt i h = [] := by
  obtain ⟨i, hi, rfl⟩ := List.mem_iff_getElem.mp hmem
  refine ⟨i, List.flatten_eq_nil_iff.mp hvalid _ ?_⟩
  exact List.mem_mapIdx.mpr ⟨i, hi, rfl⟩

theorem identifier_of_valid (hvalid : helperProblems hs = []) (hmem : h ∈ hs) :
    Text.isIdentifier h.name = true := by
  obtain ⟨i, hnone⟩ := helperProblemsAt_of_valid hvalid hmem
  have hname := (List.append_eq_nil_iff.mp hnone).1
  by_cases hid : Text.isIdentifier h.name = true
  · exact hid
  · rw [if_neg hid] at hname
    exact absurd hname (by simp)

theorem range_of_valid (hvalid : helperProblems hs = []) (hmem : h ∈ hs) :
    h.minArgs ≤ h.maxArgs := by
  obtain ⟨i, hnone⟩ := helperProblemsAt_of_valid hvalid hmem
  have hrange := (List.append_eq_nil_iff.mp hnone).2
  by_cases hlt : h.maxArgs < h.minArgs
  · rw [if_pos hlt] at hrange
    exact absurd hrange (by simp)
  · omega

end

/-- Without a warning no name comes twice, nor one that was seen before. By induction over the
    helpers: every name is an identifier, so each one is seen by all that follow. -/
theorem nodup_names_of_unwarned {seen : List String} {k : Nat} {hs : List Helper}
    (hid : ∀ h ∈ hs, Text.isIdentifier h.name = true)
    (hno : ∀ i h, duplicateWarning i h ∉ duplicateWarnings seen k hs) :
    (hs.map Helper.name).Nodup ∧ ∀ h ∈ hs, h.name ∉ seen := by
  induction hs generalizing seen k with
  | nil => simp
  | cons g hs ih =>
      have hrest : ∀ h ∈ hs, Text.isIdentifier h.name = true :=
        fun h hh => hid h (List.mem_cons_of_mem g hh)
      unfold duplicateWarnings at hno
      rw [if_pos (hid g (by simp))] at hno
      by_cases hseen : g.name ∈ seen
      · rw [if_pos hseen] at hno
        exact absurd (List.mem_cons_self) (hno k g)
      · rw [if_neg hseen] at hno
        obtain ⟨hnodup, hnew⟩ := ih hrest hno
        refine ⟨?_, ?_⟩
        · rw [List.map_cons, List.nodup_cons]
          refine ⟨fun hmem => ?_, hnodup⟩
          obtain ⟨h, hh, hname⟩ := List.mem_map.mp hmem
          exact hnew h hh (by simp [hname])
        · intro h hh
          rcases List.mem_cons.mp hh with rfl | hh
          · exact hseen
          · exact fun hmem => hnew h hh (List.mem_cons_of_mem _ hmem)

/-! ## Finding among different names -/

namespace Registry

variable {r : Registry} {e : Expr} {h : Helper}

/-- Where all names differ, what is found is what is registered and used, in whatever order. -/
theorem find?_eq_some_iff_of_nodup (hnodup : (r.helpers.map Helper.name).Nodup) :
    r.find? e = some h ↔ h ∈ r.helpers ∧ h.isUsedBy e = true := by
  constructor
  · intro hfind
    exact ⟨mem_of_find? hfind, isUsedBy_of_find? hfind⟩
  · rintro ⟨hmem, hused⟩
    obtain ⟨g, hg⟩ := exists_find? hmem hused
    have hname : g.name = h.name := Helper.name_eq_of_isUsedBy (isUsedBy_of_find? hg) hused
    rw [hg, List.inj_on_of_nodup_map hnodup (mem_of_find? hg) hmem hname]

theorem find?_perm (hnodup : (r.helpers.map Helper.name).Nodup) {hs : List Helper}
    (hperm : hs.Perm r.helpers) : Registry.find? ⟨hs⟩ e = r.find? e := by
  have hnodup' : (hs.map Helper.name).Nodup := (hperm.map Helper.name).nodup_iff.mpr hnodup
  ext h
  rw [find?_eq_some_iff_of_nodup hnodup, find?_eq_some_iff_of_nodup hnodup']
  exact and_congr_left' hperm.mem_iff

/-- Where all names differ, an expression uses at most one helper: all that it uses have one
    name. -/
theorem countP_isUsedBy_le_one (hnodup : (r.helpers.map Helper.name).Nodup) (e : Expr) :
    r.helpers.countP (fun h => h.isUsedBy e) ≤ 1 := by
  rw [List.countP_eq_length_filter]
  have hnames : ((r.helpers.filter fun h => h.isUsedBy e).map Helper.name).Nodup :=
    hnodup.sublist (List.filter_sublist.map Helper.name)
  cases hused : r.helpers.filter fun h => h.isUsedBy e with
  | nil => simp
  | cons h hs =>
      have hmem : ∀ g ∈ h :: hs, g.isUsedBy e = true := by
        intro g hg
        rw [← hused] at hg
        exact (List.mem_filter.mp hg).2
      have hsame : (h :: hs).map Helper.name = List.replicate (h :: hs).length h.name := by
        refine List.eq_replicate_iff.mpr ⟨List.length_map .., ?_⟩
        intro name hname
        obtain ⟨g, hg, rfl⟩ := List.mem_map.mp hname
        exact Helper.name_eq_of_isUsedBy (hmem g hg) (hmem h (by simp))
      rw [hused, hsame, List.nodup_replicate] at hnames
      exact hnames

end Registry

/-! ## The registry of valid settings -/

/-- A call on `this` or `super`. -/
def Call.IsOnSelf (c : Call) : Prop :=
  ∃ v : Variable, c.callee = .receiver (.var v) ∧ (v.name = "this" ∨ v.name = "super")

theorem Call.IsOnSelf.isReachedThrough {c : Call} (h : c.IsOnSelf) :
    Helper.isReachedThrough c.callee = true := by
  obtain ⟨v, hcallee, hname⟩ := h
  rw [hcallee]
  rcases hname with hname | hname
  · simp [Helper.isReachedThrough, Expr.isThis, Variable.thisName, hname]
  · simp [Helper.isReachedThrough, Expr.isSuper, Variable.superName, hname]

/-- **What a registry without doubts gives.** -/
structure SugarSettings.Unambiguous (s : SugarSettings) : Prop where
  /-- An expression uses at most one helper. -/
  single : ∀ e, s.helpers.countP (fun h => h.isUsedBy e) ≤ 1
  /-- What is found does not depend on the order of the helpers. -/
  order : ∀ e hs, hs.Perm s.helpers →
    ({ s with helpers := hs } : SugarSettings).registry.find? e = s.registry.find? e
  /-- Every helper takes some number of arguments. -/
  alive : ∀ h ∈ s.helpers, h.minArgs ≤ h.maxArgs
  /-- A call by the name of a helper, with as many arguments as it takes, finds that helper. -/
  call : ∀ h ∈ s.helpers, ∀ c : Call, c.IsOnSelf → c.method = some h.name →
    h.minArgs ≤ c.args.items.length → c.args.items.length ≤ h.maxArgs →
      s.registry.find? (.call c) = some h
  /-- So does a declaration that such a call initialises. -/
  declaration : ∀ h ∈ s.helpers, ∀ (b : Binary) (c : Call), b.isDeclaration = true →
    b.rhs = .call c → c.IsOnSelf → c.method = some h.name →
    h.minArgs ≤ c.args.items.length → c.args.items.length ≤ h.maxArgs →
      s.registry.find? (.binary b) = some h

/-- The names of helpers that validation has nothing against are all different. -/
theorem Settings.nodup_names {s : Settings} (hproblems : s.validate.problems = [])
    (hwarnings : ∀ place name, .duplicateHelper place name ∉ s.validate.warnings) :
    (s.sugar.helpers.map Helper.name).Nodup := by
  have hvalid : helperProblems s.sugar.helpers = [] := (List.append_eq_nil_iff.mp hproblems).2
  have hunwarned : ∀ i h, duplicateWarning i h ∉ duplicateWarnings [] 0 s.sugar.helpers := by
    intro i h hmem
    exact hwarnings _ _ ((mem_validate_warnings s i h).mpr hmem)
  exact (nodup_names_of_unwarned (fun h hmem => identifier_of_valid hvalid hmem) hunwarned).1

/-- **Valid settings leave no doubt.** If validation finds nothing wrong and warns of no repeated
    name, no expression uses two helpers, their order does not matter, and every helper is found by
    all calls and declarations that it was registered for. -/
theorem Settings.unambiguous (s : Settings) (hproblems : s.validate.problems = [])
    (hwarnings : ∀ place name, .duplicateHelper place name ∉ s.validate.warnings) :
    s.sugar.Unambiguous := by
  have hvalid : helperProblems s.sugar.helpers = [] := (List.append_eq_nil_iff.mp hproblems).2
  have hnodup : (s.sugar.registry.helpers.map Helper.name).Nodup :=
    Settings.nodup_names hproblems hwarnings
  -- a call and a declaration differ in how they reach the call, and then are one case
  have hfound : ∀ h ∈ s.sugar.helpers, ∀ (e : Expr) (c : Call), e.usedCall? = some c →
      c.IsOnSelf → c.method = some h.name → h.minArgs ≤ c.args.items.length →
      c.args.items.length ≤ h.maxArgs → s.sugar.registry.find? e = some h := by
    intro h hmem e c hcall hself hmethod hmin hmax
    have htakes : h.takes c.args.items.length = true := Helper.takes_iff.mpr ⟨hmin, hmax⟩
    have hused : h.isUsedBy e = true :=
      Helper.isUsedBy_iff.mpr ⟨c, hcall, hself.isReachedThrough, hmethod, htakes⟩
    exact (Registry.find?_eq_some_iff_of_nodup hnodup).mpr ⟨hmem, hused⟩
  constructor
  · intro e
    exact Registry.countP_isUsedBy_le_one hnodup e
  · intro e hs hperm
    exact Registry.find?_perm hnodup hperm
  · intro h hmem
    exact range_of_valid hvalid hmem
  · intro h hmem c
    exact hfound h hmem (.call c) c rfl
  · intro h hmem b c hb hrhs
    refine hfound h hmem (.binary b) c ?_
    rw [Expr.usedCall?, if_pos hb, hrhs]
    rfl

/-- Two helpers of different names, one of which takes no arguments: `def x = super.Stub()` finds
    the second one, whatever comes first. -/
theorem Settings.unambiguous_of_two :
    Settings.validate ⟨⟨"speck.lang.Specification", "_", [⟨"Mock", 1, 3⟩, ⟨"Stub", 0, 0⟩]⟩,
        .standard⟩ = ⟨[], []⟩ ∧
      Registry.find?
        (SugarSettings.mk "speck.lang.Specification" "_" [⟨"Stub", 0, 0⟩, ⟨"Mock", 1, 3⟩]).registry
        (Build.declare (Build.var "x")
          (.call ⟨.receiver Build.super, some "Stub", .sharedEmpty, .zero⟩)) =
        some ⟨"Stub", 0, 0⟩ := by
  have hvalidate : Settings.validate ⟨⟨"speck.lang.Specification", "_",
      [⟨"Mock", 1, 3⟩, ⟨"Stub", 0, 0⟩]⟩, .standard⟩ = ⟨[], []⟩ := by decide
  have hsound := Settings.unambiguous
    ⟨⟨"speck.lang.Specification", "_", [⟨"Mock", 1, 3⟩, ⟨"Stub", 0, 0⟩]⟩, .standard⟩
    (by rw [hvalidate]) (by simp [hvalidate])
  refine ⟨hvalidate, ?_⟩
  rw [hsound.order _ [⟨"Stub", 0, 0⟩, ⟨"Mock", 1, 3⟩] (List.Perm.swap ..)]
  exact hsound.declaration ⟨"Stub", 0, 0⟩ (by decide) _ _ rfl rfl ⟨_, rfl, .inr rfl⟩ rfl
    (by decide) (by decide)

end Desugar
