import Desugar.Proofs.PathText
import Desugar.Proofs.UnknownEntries

/-!
# Paths as users write them

Users write a path with points before its keys and brackets around its positions. The text of a path
is not made from its steps, though, but from the dotted path, in which a position is nothing but a
part of digits. This module compares the two. A position is always in its brackets, and a key that
is not all digits is always behind its point. But behind the first key, a key of digits gets the
brackets of a position, so the two texts are the same exactly where no such key occurs.

## Contents

* `Path.written` — the text that users write.
* `PathStep.isMistaken` — a key that is taken for a position.
* `Path.toList_render` — the text of a path, step by step.
* `Path.render_eq_written_iff` — where the two are the same.
* `Path.digit_key_bracketed` — a document for which they are not.
-/

namespace Desugar

namespace PathStep

/-- A step as users write it behind the path that leads to it: a key after a point, a position in
    brackets. -/
def written : PathStep → List Char
  | .key k => ['.'] ++ k.toList
  | .index i => ['['] ++ Nat.toDigits 10 i ++ [']']

/-- Whether a step is by a key that looks like a position. -/
def isMistaken : PathStep → Bool
  | .key k => Path.looksLikeIndex k.toList
  | .index _ => false

/-- A step in brackets, whatever its kind. -/
def inBrackets (s : PathStep) : List Char := ['['] ++ s.chars ++ [']']

/-- A step as the text of a path has it. -/
def rendered (s : PathStep) : List Char := if s.isMistaken then s.inBrackets else s.written

theorem looksLikeIndex_toDigits (i : Nat) : Path.looksLikeIndex (Nat.toDigits 10 i) = true := by
  have hne : (Nat.toDigits 10 i).isEmpty = false := by
    rw [List.isEmpty_eq_false_iff]
    exact Nat.toDigits_ne_nil
  have hall : (Nat.toDigits 10 i).all Char.isDigit = true := by
    rw [List.all_eq_true]
    intro c hc
    exact Nat.isDigit_of_mem_toDigits (by decide) (by decide) hc
  unfold Path.looksLikeIndex
  rw [hne, hall]
  rfl

/-- A bare key looks like a position exactly if it is all digits. -/
theorem isMistaken_key_iff {k : String} (hk : IsBareKey k) :
    (PathStep.key k).isMistaken = true ↔ ∀ c ∈ k.toList, c.isDigit = true := by
  have hne : k.toList.isEmpty = false := by
    rw [List.isEmpty_eq_false_iff]
    exact PathStep.IsBare.chars_ne_nil (s := .key k) hk
  show (!k.toList.isEmpty && k.toList.all Char.isDigit) = true ↔ _
  rw [hne, Bool.not_false, Bool.true_and, List.all_eq_true]

/-- One step of the loop over the parts: what it adds depends on the step alone, once there is
    something to add it to. -/
theorem extend_chars {done : List Char} (hdone : done ≠ []) (s : PathStep) :
    Path.extend done s.chars = done ++ s.rendered := by
  have hempty : ¬ done.isEmpty = true := by simpa using hdone
  unfold Path.extend rendered
  cases s with
  | key k =>
      have hlooks : Path.looksLikeIndex (PathStep.key k).chars = (PathStep.key k).isMistaken := rfl
      rw [hlooks]
      by_cases hmistaken : (PathStep.key k).isMistaken = true
      · rw [if_pos hmistaken, if_pos hmistaken, List.append_assoc, List.append_assoc]
        rfl
      · rw [if_neg hmistaken, if_neg hmistaken, if_neg hempty, List.append_assoc]
        rfl
  | index i =>
      have hdigits : Path.looksLikeIndex (PathStep.index i).chars = true :=
        looksLikeIndex_toDigits i
      rw [if_pos hdigits, if_neg (by simp [isMistaken]), List.append_assoc, List.append_assoc]
      rfl

/-- The brackets of a mistaken key are one character more than its point. -/
theorem length_rendered (s : PathStep) :
    s.rendered.length = s.written.length + if s.isMistaken then 1 else 0 := by
  unfold rendered
  cases s with
  | key k =>
      split
      · simp [inBrackets, written, chars]
      · rfl
  | index i => rfl

end PathStep

namespace Path

/-- The text of a path as users write it: its first key, and its other steps behind each other. -/
def written (first : String) (rest : Path) : String :=
  first ++ String.ofList (rest.flatMap PathStep.written)

/-- The loop over the parts of a bare path adds its steps one by one. By induction over the steps
    that are still to come; what is done never is empty. -/
theorem foldl_extend_chars {done : List Char} (hdone : done ≠ []) (rest : Path) :
    (rest.map PathStep.chars).foldl extend done = done ++ rest.flatMap PathStep.rendered := by
  induction rest generalizing done with
  | nil => rw [List.map_nil, List.foldl_nil, List.flatMap_nil, List.append_nil]
  | cons s rest ih =>
      rw [List.map_cons, List.foldl_cons, ih (extend_ne_nil hdone), PathStep.extend_chars hdone,
        List.flatMap_cons, List.append_assoc]

section
variable {first : String} {rest : Path}

/-- **The text of a bare path, step by step.** -/
theorem toList_render (hfirst : IsBareKey first) (hrest : ∀ s ∈ rest, s.IsBare) :
    (render (.key first :: rest)).toList = first.toList ++ rest.flatMap PathStep.rendered := by
  have hkey : (PathStep.key first).IsBare := hfirst
  have hbare : ∀ s ∈ PathStep.key first :: rest, s.IsBare := by
    intro s hs
    rcases List.mem_cons.mp hs with rfl | hs
    · exact hkey
    · exact hrest s hs
  unfold render
  rw [String.toList_ofList, bracketed_dotted hbare, foldl_extend_chars hkey.chars_ne_nil]
  rfl

theorem toList_written (first : String) (rest : Path) :
    (written first rest).toList = first.toList ++ rest.flatMap PathStep.written := by
  unfold written
  rw [String.toList_append, String.toList_ofList]

/-- The two texts differ in their lengths by the number of mistaken keys. -/
theorem length_flatMap_rendered (rest : Path) :
    (rest.flatMap PathStep.rendered).length =
      (rest.flatMap PathStep.written).length + rest.countP PathStep.isMistaken := by
  induction rest with
  | nil => rfl
  | cons s rest ih =>
      rw [List.flatMap_cons, List.flatMap_cons, List.length_append, List.length_append, ih,
        PathStep.length_rendered, List.countP_cons]
      omega

/-- **Where the text of a path is what users write.** In a path of bare keys and positions that
    starts with a key, every position stands in brackets behind what it belongs to, and so does
    every key of digits but the first one; all other keys stand behind a point. So the text is what
    users write exactly if no key behind the first one is all digits. -/
theorem render_eq_written_iff (hfirst : IsBareKey first) (hrest : ∀ s ∈ rest, s.IsBare) :
    (render (.key first :: rest)).toList = first.toList ++ rest.flatMap PathStep.rendered ∧
      (render (.key first :: rest) = written first rest ↔
        ∀ k, .key k ∈ rest → ¬ ∀ c ∈ k.toList, c.isDigit = true) := by
  have htext := toList_render hfirst hrest
  refine ⟨htext, ?_⟩
  have hsame : render (.key first :: rest) = written first rest ↔
      rest.flatMap PathStep.rendered = rest.flatMap PathStep.written := by
    rw [← String.toList_inj, htext, toList_written, List.append_cancel_left_eq]
  rw [hsame]
  constructor
  · -- a mistaken key makes the one text longer than the other
    intro heq k hk hdigits
    have hmistaken : (PathStep.key k).isMistaken = true :=
      (PathStep.isMistaken_key_iff (hrest _ hk)).mpr hdigits
    have hpos : 0 < rest.countP PathStep.isMistaken :=
      List.countP_pos_iff.mpr ⟨.key k, hk, hmistaken⟩
    have hlength := length_flatMap_rendered rest
    rw [heq] at hlength
    omega
  · intro hkeys
    rw [List.flatMap_def, List.flatMap_def]
    refine congrArg List.flatten (List.map_congr_left ?_)
    intro s hs
    refine if_neg ?_
    cases s with
    | key k =>
        rw [PathStep.isMistaken_key_iff (hrest _ hs)]
        exact hkeys k hs
    | index i => simp [PathStep.isMistaken]

/-- The path of an unknown key of a helper, as users write it. -/
theorem render_eq_written_of_helper :
    render [.key "sugar", .key "builtins", .index 10, .key "max-args_2"] =
      "sugar.builtins[10].max-args_2" := by
  have hrest : ∀ s ∈ [PathStep.key "builtins", .index 10, .key "max-args_2"], s.IsBare := by
    have hkeys : IsBareKey "builtins" ∧ IsBareKey "max-args_2" := by decide
    simpa [PathStep.IsBare] using hkeys
  have hkeys : ∀ k, .key k ∈ [PathStep.key "builtins", .index 10, .key "max-args_2"] →
      ¬ ∀ c ∈ k.toList, c.isDigit = true := by
    intro k hk
    simp only [List.mem_cons, PathStep.key.injEq, reduceCtorEq, List.not_mem_nil, or_false,
      false_or] at hk
    rcases hk with rfl | rfl
    · exact fun hdigits => absurd (hdigits 'b' (by simp)) (by decide)
    · exact fun hdigits => absurd (hdigits 'm' (by simp)) (by decide)
  rw [(render_eq_written_iff (by decide) hrest).2.mpr hkeys]
  decide

end

/-- **A key of digits is not written as users write it.** Loading a document with the unknown key
    `sugar.7` names it `sugar[7]`, as if `sugar` were an array. -/
theorem digit_key_bracketed :
    Toml.parse? "[sugar]\n7 = 1\n" = some [("sugar", .table [("7", .integer 1)])] ∧
      ignoredPaths [("sugar", .table [("7", .integer 1)])] = [[.key "sugar", .key "7"]] ∧
      (∃ loaded, Settings.loadChecked "[sugar]\n7 = 1\n" = .ok loaded ∧
        loaded.diagnostics.unknownKeys = ["sugar[7]"]) ∧
      written "sugar" [.key "7"] = "sugar.7" := by
  have hparse : Toml.parse? "[sugar]\n7 = 1\n" =
      some [("sugar", .table [("7", .integer 1)])] := by
    decide +kernel
  have hsettings : Settings.ofEntries [("sugar", .table [("7", .integer 1)])] = .ok .standard := rfl
  have hkeys : unknownKeys [("sugar", .table [("7", .integer 1)])] = ["sugar[7]"] := by
    decide +kernel
  have hload := loadWith_of_parse? Loaded.ofEntries hparse
  rw [Loaded.ofEntries_eq, hsettings] at hload
  exact ⟨hparse, by decide +kernel, ⟨_, hload, hkeys⟩, by decide +kernel⟩

end Path

end Desugar
