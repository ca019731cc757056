import Mathlib.Data.List.Find
import Desugar.Proofs.Reexpansion
import Desugar.Proofs.Unambiguity

/-!
# What is found after an expansion

A registry is searched by the receiver, the name and the number of arguments of a call. An expansion
leaves the first two alone and decides the third: whatever a use was written with, its expansion has
the type, the name and the extra arguments. So the helper that was found may not be found again, and
another one of its name may be found instead.

## Contents

* `Expr.exists_call_of_expand_ok` — the used call of an expansion.
* `Helper.isUsedBy_expanded` — which helpers an expansion uses.
* `Registry.find?_expanded` — what a registry finds of it.
-/

namespace Desugar

variable {e e' : Expr} {extra : List Expr}

/-- The used call of an expansion is that of the expression with other arguments: a type, a name and
    the extra ones. -/
theorem Expr.exists_call_of_expand_ok (h : (e.expand extra).result = .ok e') :
    ∃ c d, e.usedCall? = some c ∧ e'.usedCall? = some d ∧ d.callee = c.callee ∧
      d.method = c.method ∧ d.args.items.length = extra.length + 2 := by
  obtain ⟨c, type, hc, -, hs, rfl⟩ := exists_type_of_expand_ok h
  refine ⟨c, _, hc, usedCall?_withArguments hc _, rfl, rfl, ?_⟩
  rw [Call.args_refill, Arguments.items_refill hs]
  rfl

/-- **The expansion of a use of one helper** is a use of those helpers of the same name that take
    the arguments it is given. -/
theorem Helper.isUsedBy_expanded {g h : Helper} (hused : g.isUsedBy e = true)
    (hexpand : (e.expand extra).result = .ok e') :
    h.isUsedBy e' = true ↔ h.name = g.name ∧ h.takes (extra.length + 2) = true := by
  obtain ⟨c, d, hc, hd, hcallee, hmethod, hlength⟩ := Expr.exists_call_of_expand_ok hexpand
  obtain ⟨c', hc', hreach, hname, -⟩ := isUsedBy_iff.mp hused
  obtain rfl : c = c' := Option.some.inj (hc.symm.trans hc')
  rw [isUsedBy_iff]
  constructor
  · rintro ⟨d', hd', -, hname', htakes⟩
    obtain rfl : d = d' := Option.some.inj (hd.symm.trans hd')
    rw [hmethod, hname] at hname'
    rw [hlength] at htakes
    exact ⟨(Option.some.inj hname').symm, htakes⟩
  · rintro ⟨hsame, htakes⟩
    refine ⟨d, hd, ?_, ?_, ?_⟩
    · rw [hcallee]
      exact hreach
    · rw [hmethod, hname, hsame]
    · rw [hlength]
      exact htakes

/-- **What is found after an expansion.** Of a use that finds `m`, the expansion with `k` extra
    arguments finds the first registered helper that has the name of `m` and takes `k + 2`
    arguments, and nothing if there is none. Where all names differ this is `m` itself or
    nothing. -/
theorem Registry.find?_expanded (r : Registry) (e e' : Expr) (m : Helper) (extra : List Expr)
    (hfind : r.find? e = some m) (hexpand : (e.expand extra).result = .ok e') :
    (r.find? e' = r.helpers.find? fun h => decide
      (h.name = m.name ∧ h.minArgs ≤ extra.length + 2 ∧ extra.length + 2 ≤ h.maxArgs)) ∧
    ((r.helpers.map Helper.name).Nodup →
      r.find? e' =
        if m.minArgs ≤ extra.length + 2 ∧ extra.length + 2 ≤ m.maxArgs then some m else none) := by
  have huses : ∀ h : Helper, h.isUsedBy e' = true ↔
      h.name = m.name ∧ h.minArgs ≤ extra.length + 2 ∧ extra.length + 2 ≤ h.maxArgs := by
    intro h
    rw [Helper.isUsedBy_expanded (isUsedBy_of_find? hfind) hexpand, Helper.takes_iff]
  constructor
  · refine List.find?_congr fun h _ => ?_
    rw [Bool.eq_iff_iff, huses h, decide_eq_true_iff]
  · intro hnodup
    have hm : m ∈ r.helpers := mem_of_find? hfind
    by_cases htakes : m.minArgs ≤ extra.length + 2 ∧ extra.length + 2 ≤ m.maxArgs
    · rw [if_pos htakes]
      exact (find?_eq_some_iff_of_nodup hnodup).mpr ⟨hm, (huses m).mpr ⟨rfl, htakes⟩⟩
    · rw [if_neg htakes, find?_eq_none_iff]
      intro h hmem
      rw [← Bool.not_eq_true, huses h]
      rintro ⟨hname, hrange⟩
      -- a helper of the name of `m` is `m`, which does not take so many arguments
      obtain rfl : h = m := List.inj_on_of_nodup_map hnodup hmem hm hname
      exact htakes hrange

/-- `List list = Mock()` finds the first helper, and with an extra argument its expansion finds the
    third one: the first takes none, the second has another name, and the last comes too late. -/
theorem Registry.find?_expanded_of_four :
    Registry.find? ⟨[⟨"Mock", 0, 0⟩, ⟨"Stub", 0, 9⟩, ⟨"Mock", 3, 4⟩, ⟨"Mock", 0, 9⟩]⟩
        (Build.declare (Build.typedVar "list" "List") (Build.thisCall "Mock"
          [Build.classRef "List", Build.string "list", Build.int 1])) =
      some ⟨"Mock", 3, 4⟩ := by
  have hfind := (Registry.find?_expanded
    ⟨[⟨"Mock", 0, 0⟩, ⟨"Stub", 0, 9⟩, ⟨"Mock", 3, 4⟩, ⟨"Mock", 0, 9⟩]⟩
    (Build.declare (Build.typedVar "list" "List") (Build.thisCall "Mock" [])) _ ⟨"Mock", 0, 0⟩
    [Build.int 1] (by decide) rfl).1
  exact hfind.trans (by decide)

end Desugar
