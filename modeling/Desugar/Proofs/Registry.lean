import Desugar.Config.Validation
import Desugar.Proofs.Expansion

/-!
# What a registry finds

A registry is searched by name, receiver and number of arguments together, while validation warns of
a repeated name by the name alone. This module compares the two: what is found after every helper is
removed of which validation warns that it repeats a name.

## Contents

* `Helper.isUsedBy_iff` — when an expression uses a helper.
* `Settings.withoutDuplicates`, `unrepeated` — the helpers that are not warned of, through the
  warnings and as a recursion over the helpers.
* `find?_unrepeated` — of a name, only the first helper is left to be found.
* `Settings.find?_withoutDuplicates` — exactly when the removal is not noticed.
-/

namespace Desugar

/-! ## Uses of a helper -/

/-- An expression uses a helper when its used call is made on `this` or `super`, by the name of the
    helper and with a number of arguments that it takes. -/
theorem Helper.isUsedBy_iff {h : Helper} {e : Expr} :
    h.isUsedBy e = true ↔
      ∃ c, e.usedCall? = some c ∧ isReachedThrough c.callee = true ∧ c.method = some h.name ∧
        h.takes c.args.items.length = true := by
  have hcalled : ∀ f : Expr, h.isCalledBy f = true ↔
      ∃ c, f.call? = some c ∧ isReachedThrough c.callee = true ∧ c.method = some h.name ∧
        h.takes c.args.items.length = true := by
    intro f
    cases f <;> simp [isCalledBy, Expr.call?]
  cases e with
  | binary b =>
      show (b.isDeclaration && h.isCalledBy b.rhs) = true ↔ _
      by_cases hb : b.isDeclaration = true
      · rw [hb, Bool.true_and, hcalled, Expr.usedCall?, if_pos hb]
      · rw [Bool.not_eq_true] at hb
        simp [Expr.usedCall?, hb]
  | call c => exact hcalled (.call c)
  | _ => simp [isUsedBy, isCalledBy, Expr.usedCall?]

/-- All helpers that an expression uses have one name. -/
theorem Helper.name_eq_of_isUsedBy {g h : Helper} {e : Expr} (hg : g.isUsedBy e = true)
    (hh : h.isUsedBy e = true) : g.name = h.name := by
  obtain ⟨c, hc, -, hname, -⟩ := isUsedBy_iff.mp hg
  obtain ⟨d, hd, -, hname', -⟩ := isUsedBy_iff.mp hh
  obtain rfl : c = d := Option.some.inj (hc.symm.trans hd)
  exact Option.some.inj (hname.symm.trans hname')

/-- Of two helpers of one name, an expression that uses the one uses the other if it takes as many
    arguments. -/
theorem Helper.isUsedBy_of_takes {g h : Helper} {e : Expr} (hg : g.isUsedBy e = true)
    (hname : g.name = h.name) (htakes : ∀ n, g.takes n = true → h.takes n = true) :
    h.isUsedBy e = true := by
  obtain ⟨c, hc, hreach, hmethod, htake⟩ := isUsedBy_iff.mp hg
  exact isUsedBy_iff.mpr ⟨c, hc, hreach, hmethod.trans (congrArg some hname), htakes _ htake⟩

/-- A call on `this` by the name of the helper uses it. -/
theorem Helper.isUsedBy_thisCall (h : Helper) (es : List Expr) :
    h.isUsedBy (Build.thisCall h.name es) = h.takes es.length := by
  show (isReachedThrough (.receiver Build.this) &&
    (some h.name == some h.name && h.takes es.length)) = _
  have hthis : isReachedThrough (.receiver Build.this) = true := by decide
  rw [hthis]
  simp

/-! ## The helpers of one name -/

/-- The first registered helper of a name. -/
def Registry.firstNamed? (r : Registry) (name : String) : Option Helper :=
  r.helpers.find? fun h => h.name == name

theorem Registry.name_of_firstNamed? {r : Registry} {name : String} {h : Helper}
    (hfirst : r.firstNamed? name = some h) : h.name = name := by
  simpa using List.find?_some hfirst

theorem Registry.exists_firstNamed? {r : Registry} {h : Helper} (hmem : h ∈ r.helpers) :
    ∃ first, r.firstNamed? h.name = some first := by
  rw [← Option.isSome_iff_exists, firstNamed?, List.find?_isSome]
  exact ⟨h, hmem, by simp⟩

theorem Registry.exists_find? {r : Registry} {e : Expr} {h : Helper} (hmem : h ∈ r.helpers)
    (hused : h.isUsedBy e = true) : ∃ g, r.find? e = some g := by
  rw [← Option.isSome_iff_exists, find?, List.find?_isSome]
  exact ⟨h, hmem, hused⟩

/-- The first helper of a name, if the expression uses it, is the first that it uses at all: any
    other has the same name. -/
theorem Registry.find?_of_firstNamed? {r : Registry} {e : Expr} {name : String} {h : Helper}
    (hfirst : r.firstNamed? name = some h) (hused : h.isUsedBy e = true) :
    r.find? e = some h := by
  have hname : h.name = name := name_of_firstNamed? hfirst
  obtain ⟨-, before, after, hsplit, hbefore⟩ := List.find?_eq_some_iff_append.mp hfirst
  refine List.find?_eq_some_iff_append.mpr ⟨hused, before, after, hsplit, ?_⟩
  intro g hg
  have hother : g.name ≠ name := by simpa using hbefore g hg
  have hunused : g.isUsedBy e ≠ true := fun hgused =>
    hother ((Helper.name_eq_of_isUsedBy hgused hused).trans hname)
  simpa using hunused

/-! ## Warnings about repeated names -/

/-- The warning that the helper at a position repeats a name. -/
def duplicateWarning (i : Nat) (h : Helper) : Warning :=
  .duplicateHelper (helperPlace i ++ ".name") h.name

/-- Different positions are different places. -/
theorem helperPlace_injective {i j : Nat} (h : helperPlace i = helperPlace j) : i = j := by
  unfold helperPlace at h
  rw [String.append_left_inj, String.append_right_inj, Nat.toString_eq_repr,
    Nat.toString_eq_repr] at h
  have hdigits : Nat.toDigits 10 i = Nat.toDigits 10 j := by
    rw [← Nat.toList_repr, ← Nat.toList_repr, h]
  rw [← @Nat.ofDigitChars_ten_toDigits i, hdigits, Nat.ofDigitChars_ten_toDigits]

theorem position_eq_of_duplicateWarning {i j : Nat} {g h : Helper}
    (heq : duplicateWarning i g = duplicateWarning j h) : i = j := by
  unfold duplicateWarning at heq
  injection heq with hplace hname
  rw [String.append_left_inj] at hplace
  exact helperPlace_injective hplace

/-- The warnings from a position on are about that position and later ones. -/
theorem le_of_mem_duplicateWarnings {seen : List String} {k : Nat} {hs : List Helper} {i : Nat}
    {h : Helper} (hmem : duplicateWarning i h ∈ duplicateWarnings seen k hs) : k ≤ i := by
  induction hs generalizing seen k with
  | nil => exact absurd hmem (by simp [duplicateWarnings])
  | cons g hs ih =>
      unfold duplicateWarnings at hmem
      split at hmem
      · split at hmem
        · rcases List.mem_cons.mp hmem with heq | hmem
          · exact Nat.le_of_eq (position_eq_of_duplicateWarning heq).symm
          · exact Nat.le_of_succ_le (ih hmem)
        · exact Nat.le_of_succ_le (ih hmem)
      · exact Nat.le_of_succ_le (ih hmem)

/-- Whether validation warns that the helper at a position repeats a name. -/
def Settings.flagsDuplicate (s : Settings) (i : Nat) (h : Helper) : Bool :=
  decide (duplicateWarning i h ∈ s.validate.warnings)

/-- The settings without the helpers of which validation warns that they repeat a name. -/
def Settings.withoutDuplicates (s : Settings) : Settings :=
  { s with sugar := { s.sugar with
      helpers := (s.sugar.helpers.zipIdx.filter fun p => !s.flagsDuplicate p.2 p.1).map Prod.fst } }

/-- The helpers without those whose name is in `seen` or came before, if it is an identifier. -/
def unrepeated (seen : List String) : List Helper → List Helper
  | [] => []
  | h :: hs =>
    if Text.isIdentifier h.name then
      if h.name ∈ seen then unrepeated seen hs else h :: unrepeated (h.name :: seen) hs
    else h :: unrepeated seen hs

/-- Only repeated names give warnings of this kind. -/
theorem mem_validate_warnings (s : Settings) (i : Nat) (h : Helper) :
    duplicateWarning i h ∈ s.validate.warnings ↔
      duplicateWarning i h ∈ duplicateWarnings [] 0 s.sugar.helpers := by
  have hlevel : duplicateWarning i h ∉ levelWarnings s.logging.level := by
    unfold levelWarnings duplicateWarning
    split
    · simp
    · split <;> simp
  show duplicateWarning i h ∈ helperWarnings s.sugar.helpers ++ levelWarnings s.logging.level ↔ _
  rw [List.mem_append, or_iff_left hlevel]
  unfold helperWarnings
  cases s.sugar.helpers with
  | nil => simp [duplicateWarning, duplicateWarnings]
  | cons g hs => rfl

/-- Dropping what the warnings name is dropping repeated names. By induction over the helpers: the
    warnings about the rest never name the position of the first one, nor the other way round. -/
theorem filter_duplicateWarnings (seen : List String) (k : Nat) (hs : List Helper) :
    ((hs.zipIdx k).filter fun p =>
        !decide (duplicateWarning p.2 p.1 ∈ duplicateWarnings seen k hs)).map Prod.fst =
      unrepeated seen hs := by
  induction hs generalizing seen k with
  | nil => rfl
  | cons h hs ih =>
      have hfirst : ∀ seen', duplicateWarning k h ∉ duplicateWarnings seen' (k + 1) hs := by
        intro seen' hmem
        exact absurd (le_of_mem_duplicateWarnings hmem) (by omega)
      rw [List.zipIdx_cons]
      unfold duplicateWarnings unrepeated
      split
      · split
        · -- the first helper is warned of; that warning is about no other position
          have hrest : ∀ p ∈ hs.zipIdx (k + 1),
              (!decide (duplicateWarning p.2 p.1 ∈
                  duplicateWarning k h :: duplicateWarnings seen (k + 1) hs)) =
                !decide (duplicateWarning p.2 p.1 ∈ duplicateWarnings seen (k + 1) hs) := by
            intro p hp
            have hne : duplicateWarning p.2 p.1 ≠ duplicateWarning k h := by
              intro heq
              have hle := List.le_snd_of_mem_zipIdx hp
              have hpos := position_eq_of_duplicateWarning heq
              omega
            rw [decide_eq_decide.mpr (List.mem_cons.trans (or_iff_right hne))]
          show (((h, k) :: hs.zipIdx (k + 1)).filter fun p => !decide (duplicateWarning p.2 p.1 ∈
            duplicateWarning k h :: duplicateWarnings seen (k + 1) hs)).map Prod.fst = _
          rw [List.filter_cons_of_neg (by simp), List.filter_congr hrest, ih]
        · rw [List.filter_cons_of_pos (by simp [hfirst]), List.map_cons, ih]
      · rw [List.filter_cons_of_pos (by simp [hfirst]), List.map_cons, ih]

theorem helpers_withoutDuplicates (s : Settings) :
    s.withoutDuplicates.sugar.helpers = unrepeated [] s.sugar.helpers := by
  have hflags : ∀ p ∈ s.sugar.helpers.zipIdx, (!s.flagsDuplicate p.2 p.1) =
      !decide (duplicateWarning p.2 p.1 ∈ duplicateWarnings [] 0 s.sugar.helpers) := by
    intro p _
    unfold Settings.flagsDuplicate
    rw [decide_eq_decide.mpr (mem_validate_warnings s p.2 p.1)]
  show (s.sugar.helpers.zipIdx.filter fun p => !s.flagsDuplicate p.2 p.1).map Prod.fst = _
  rw [List.filter_congr hflags, filter_duplicateWarnings]

/-! ## Finding without the repeated names -/

section
variable {q : Helper → Bool} {name : String}

/-- Of an identifier, only the first helper is left to be found, and none if the name was seen. -/
theorem find?_unrepeated (hq : ∀ h, q h = true → h.name = name)
    (hname : Text.isIdentifier name = true) (seen : List String) (hs : List Helper) :
    (unrepeated seen hs).find? q =
      if name ∈ seen then none else (hs.find? fun h => h.name == name).filter q := by
  induction hs generalizing seen with
  | nil => simp [unrepeated]
  | cons h hs ih =>
      by_cases heq : h.name = name
      · -- from here on the name is seen, so the rest of the list has nothing to find
        have hfind : ((h :: hs).find? fun h => h.name == name) = some h :=
          List.find?_cons_of_pos (by simp [heq])
        rw [hfind, unrepeated, heq, if_pos hname]
        by_cases hseen : name ∈ seen
        · rw [if_pos hseen, if_pos hseen, ih, if_pos hseen]
        · rw [if_neg hseen, if_neg hseen]
          cases hqh : q h with
          | true => rw [List.find?_cons_of_pos hqh, Option.filter_some_pos hqh]
          | false =>
              rw [List.find?_cons_of_neg (by simp [hqh]), ih, if_pos (by simp),
                Option.filter_some_neg hqh]
      · have hqh : ¬ q h = true := fun hqh => heq (hq h hqh)
        have hfind : ((h :: hs).find? fun h => h.name == name) =
            hs.find? fun h => h.name == name := List.find?_cons_of_neg (by simp [heq])
        have hcons : name ∈ h.name :: seen ↔ name ∈ seen := by simp [Ne.symm heq]
        rw [hfind]
        unfold unrepeated
        split
        · split
          · exact ih seen
          · rw [List.find?_cons_of_neg hqh, ih]
            simp only [hcons]
        · rw [List.find?_cons_of_neg hqh, ih]

/-- A name that is no identifier is never warned of, so all its helpers are left. -/
theorem find?_unrepeated_of_not_identifier (hq : ∀ h, q h = true → h.name = name)
    (hname : ¬ Text.isIdentifier name = true) (seen : List String) (hs : List Helper) :
    (unrepeated seen hs).find? q = hs.find? q := by
  induction hs generalizing seen with
  | nil => rfl
  | cons h hs ih =>
      by_cases hid : Text.isIdentifier h.name = true
      · have hqh : ¬ q h = true := fun hqh => hname (hq h hqh ▸ hid)
        rw [unrepeated, if_pos hid, List.find?_cons_of_neg hqh]
        split
        · exact ih seen
        · rw [List.find?_cons_of_neg hqh, ih]
      · rw [unrepeated, if_neg hid]
        cases hqh : q h with
        | true => rw [List.find?_cons_of_pos hqh, List.find?_cons_of_pos hqh]
        | false =>
            have hqh' : ¬ q h = true := by simp [hqh]
            rw [List.find?_cons_of_neg hqh', List.find?_cons_of_neg hqh', ih]

end

namespace Settings

variable {s : Settings} {e : Expr} {h : Helper}

theorem find?_withoutDuplicates_of_none (hfind : s.sugar.registry.find? e = none) :
    s.withoutDuplicates.sugar.registry.find? e = none := by
  rw [Registry.find?_eq_none_iff] at hfind ⊢
  intro g hg
  obtain ⟨p, hp, rfl⟩ := List.mem_map.mp hg
  exact hfind p.1 (List.fst_mem_of_mem_zipIdx (List.mem_filter.mp hp).1)

/-- Where something is found, the other settings find it too, unless its name is an identifier and
    the first helper of that name is not used. -/
theorem find?_withoutDuplicates_of_some (hfind : s.sugar.registry.find? e = some h) :
    s.withoutDuplicates.sugar.registry.find? e =
      if Text.isIdentifier h.name = true ∧ s.sugar.registry.firstNamed? h.name ≠ some h then none
      else some h := by
  have hused : h.isUsedBy e = true := Registry.isUsedBy_of_find? hfind
  have hq : ∀ g : Helper, g.isUsedBy e = true → g.name = h.name :=
    fun g hg => Helper.name_eq_of_isUsedBy hg hused
  show s.withoutDuplicates.sugar.helpers.find? (fun g => g.isUsedBy e) = _
  rw [helpers_withoutDuplicates]
  by_cases hid : Text.isIdentifier h.name = true
  · obtain ⟨first, hfirst⟩ := Registry.exists_firstNamed? (Registry.mem_of_find? hfind)
    have hfirst' : (s.sugar.helpers.find? fun g => g.name == h.name) = some first := hfirst
    rw [find?_unrepeated hq hid, if_neg (by simp), hfirst', hfirst]
    by_cases hfirstUsed : first.isUsedBy e = true
    · -- the first helper of the name is used, so it is what is found
      obtain rfl : first = h := Option.some.inj
        ((Registry.find?_of_firstNamed? hfirst hfirstUsed).symm.trans hfind)
      rw [if_neg (by simp)]
      exact Option.filter_some_pos hfirstUsed
    · have hne : first ≠ h := fun heq => hfirstUsed (heq ▸ hused)
      rw [if_pos ⟨hid, by simpa using hne⟩]
      exact Option.filter_some_neg (by simpa using hfirstUsed)
  · rw [find?_unrepeated_of_not_identifier hq hid, if_neg (fun hc => hid hc.1)]
    exact hfind

theorem find?_withoutDuplicates_eq_iff (s : Settings) (e : Expr) :
    s.withoutDuplicates.sugar.registry.find? e = s.sugar.registry.find? e ↔
      ∀ h, s.sugar.registry.find? e = some h → Text.isIdentifier h.name = true →
        s.sugar.registry.firstNamed? h.name = some h := by
  cases hfind : s.sugar.registry.find? e with
  | none =>
      rw [find?_withoutDuplicates_of_none hfind]
      simp
  | some h =>
      rw [find?_withoutDuplicates_of_some hfind]
      constructor
      · intro heq g hg hid
        obtain rfl : h = g := Option.some.inj hg
        apply Classical.byContradiction
        intro hne
        rw [if_pos ⟨hid, hne⟩] at heq
        exact absurd heq (by simp)
      · intro hfirst
        rw [if_neg]
        rintro ⟨hid, hne⟩
        exact hne (hfirst h rfl hid)

theorem find?_withoutDuplicates_eq_none
    (hne : s.withoutDuplicates.sugar.registry.find? e ≠ s.sugar.registry.find? e) :
    s.withoutDuplicates.sugar.registry.find? e = none := by
  cases hfind : s.sugar.registry.find? e with
  | none => exact find?_withoutDuplicates_of_none hfind
  | some h =>
      rw [hfind] at hne
      rw [find?_withoutDuplicates_of_some hfind] at hne ⊢
      split at hne
      · rename_i hcond; exact if_pos hcond
      · exact absurd rfl hne

/-- If the first helper of a name is always what is found, it takes whatever a later one takes: a
    call of that name with as many arguments finds a helper, and that is the first one. -/
theorem takes_of_find?_firstNamed? {r : Registry} {first : Helper} {n : Nat} (hmem : h ∈ r.helpers)
    (hfirst : r.firstNamed? h.name = some first)
    (hwins : ∀ e g, r.find? e = some g → g.name = h.name → r.firstNamed? g.name = some g)
    (htakes : h.takes n = true) : first.takes n = true := by
  have hused : h.isUsedBy (Build.thisCall h.name (List.replicate n Build.null)) = true := by
    rw [Helper.isUsedBy_thisCall, List.length_replicate, htakes]
  obtain ⟨g, hg⟩ := Registry.exists_find? hmem hused
  have hgused := Registry.isUsedBy_of_find? hg
  have hname : g.name = h.name := Helper.name_eq_of_isUsedBy hgused hused
  have hgfirst := hwins _ g hg hname
  rw [hname, hfirst] at hgfirst
  obtain rfl : first = g := Option.some.inj hgfirst
  rwa [← hname, Helper.isUsedBy_thisCall, List.length_replicate] at hgused

/-- **When the first helper of a name wins.** Removing the helpers that validation warns of as
    repeated goes unnoticed by an expression exactly when what it finds is the first helper of its
    name; a name that is no identifier is never warned of. Otherwise the expression finds nothing
    any more. No expression notices the removal exactly when no later helper of a name takes a
    number of arguments that the first one does not. -/
theorem find?_withoutDuplicates (s : Settings) :
    (∀ e, s.withoutDuplicates.sugar.registry.find? e = s.sugar.registry.find? e ↔
      ∀ h, s.sugar.registry.find? e = some h → Text.isIdentifier h.name = true →
        s.sugar.registry.firstNamed? h.name = some h) ∧
    (∀ e, s.withoutDuplicates.sugar.registry.find? e ≠ s.sugar.registry.find? e →
      s.withoutDuplicates.sugar.registry.find? e = none) ∧
    ((∀ e, s.withoutDuplicates.sugar.registry.find? e = s.sugar.registry.find? e) ↔
      ∀ h ∈ s.sugar.helpers, Text.isIdentifier h.name = true →
        ∀ first, s.sugar.registry.firstNamed? h.name = some first →
          ∀ n, h.takes n = true → first.takes n = true) := by
  refine ⟨find?_withoutDuplicates_eq_iff s, fun e hne => find?_withoutDuplicates_eq_none hne, ?_⟩
  simp only [find?_withoutDuplicates_eq_iff]
  constructor
  · intro hwins h hmem hid first hfirst n htakes
    exact takes_of_find?_firstNamed? hmem hfirst
      (fun e g hg hname => hwins e g hg (hname ▸ hid)) htakes
  · intro hranges e h hfind hid
    have hmem := Registry.mem_of_find? hfind
    obtain ⟨first, hfirst⟩ := Registry.exists_firstNamed? hmem
    have hused : first.isUsedBy e = true :=
      Helper.isUsedBy_of_takes (Registry.isUsedBy_of_find? hfind)
        (Registry.name_of_firstNamed? hfirst).symm (hranges h hmem hid first hfirst)
    obtain rfl : first = h :=
      Option.some.inj ((Registry.find?_of_firstNamed? hfirst hused).symm.trans hfind)
    exact hfirst

/-- **The first helper of a name does not always win.** Validation finds nothing wrong and warns of
    the second `Mock`, yet it is the second one that `Mock(List)` finds. -/
theorem duplicate_helper_found :
    Settings.validate ⟨⟨"speck.lang.Specification", "_", [⟨"Mock", 0, 0⟩, ⟨"Mock", 1, 2⟩]⟩,
        .standard⟩ = ⟨[.duplicateHelper "sugar.builtins[1].name" "Mock"], []⟩ ∧
      Registry.find?
        (Settings.mk ⟨"speck.lang.Specification", "_", [⟨"Mock", 0, 0⟩, ⟨"Mock", 1, 2⟩]⟩
          .standard).sugar.registry
        (Build.thisCall "Mock" [Build.classRef "List"]) = some ⟨"Mock", 1, 2⟩ ∧
      Registry.find?
        (Settings.mk ⟨"speck.lang.Specification", "_", [⟨"Mock", 0, 0⟩, ⟨"Mock", 1, 2⟩]⟩
          .standard).withoutDuplicates.sugar.registry
        (Build.thisCall "Mock" [Build.classRef "List"]) = none := by
  decide

end Settings

end Desugar
