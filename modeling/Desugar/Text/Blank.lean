import Desugar.Text.Ranges

/-!
# Blank characters

The characters with the Unicode property `White_Space`, and what it means to trim a text of them.
The zero-width space and the byte order mark are not blank.

## Contents

* `isBlank` — the class.
* `trim` — a text without the blanks at both ends; `trimText` is the same on strings.
* `isAllBlank` — whether nothing is left after trimming.
* `IsTrimmed` — a text without blanks at its ends, `trim_eq_self_iff` — the texts that trimming
  leaves alone.
* `trim_append` — blanks around a text do not count.
-/

namespace Desugar.Text

/-- The blank characters. -/
def blanks : Ranges :=
  [(0x9, 0xD), (0x20, 0x20), (0x85, 0x85), (0xA0, 0xA0), (0x1680, 0x1680), (0x2000, 0x200A),
    (0x2028, 0x2029), (0x202F, 0x202F), (0x205F, 0x205F), (0x3000, 0x3000)]

/-- Whether a character is blank. -/
def isBlank (c : Char) : Bool := blanks.holds c

/-- The text without the blanks at its start. -/
def trimStart (cs : List Char) : List Char := cs.dropWhile isBlank

/-- The text without the blanks at its end. -/
def trimEnd (cs : List Char) : List Char := (cs.reverse.dropWhile isBlank).reverse

/-- The text without the blanks at its start and its end. -/
def trim (cs : List Char) : List Char := trimEnd (trimStart cs)

/-- Whether the text holds nothing but blanks. -/
def isAllBlank (cs : List Char) : Bool := cs.all isBlank

/-- A string without the blanks at its start and its end. -/
def trimText (s : String) : String := String.ofList (trim s.toList)

/-! ## What trimming leaves -/

theorem dropWhile_eq_nil_iff {p : Char → Bool} {cs : List Char} :
    cs.dropWhile p = [] ↔ cs.all p = true := by
  induction cs with
  | nil => simp
  | cons c cs ih => by_cases h : p c = true <;> simp [h, ih]

theorem trimEnd_eq_nil_iff {cs : List Char} : trimEnd cs = [] ↔ isAllBlank cs = true := by
  rw [trimEnd, List.reverse_eq_nil_iff, dropWhile_eq_nil_iff, List.all_reverse, isAllBlank]

/-- A text is blank exactly when trimming leaves nothing of it. -/
theorem trim_eq_nil_iff {cs : List Char} : trim cs = [] ↔ isAllBlank cs = true := by
  rw [trim, trimEnd_eq_nil_iff, trimStart]
  induction cs with
  | nil => simp
  | cons c cs ih => by_cases h : isBlank c = true <;> simp_all [isAllBlank]

/-! ## Trimmed texts -/

/-- A text without blanks at its start and its end. -/
def IsTrimmed (cs : List Char) : Prop :=
  (∀ c, cs.head? = some c → isBlank c = false) ∧ ∀ c, cs.getLast? = some c → isBlank c = false

theorem not_isBlank_of_head?_dropWhile {cs : List Char} {c : Char}
    (h : (cs.dropWhile isBlank).head? = some c) : isBlank c = false := by
  have hhead := List.head?_dropWhile_not isBlank cs
  rw [h] at hhead
  exact hhead

theorem dropWhile_of_head? {cs : List Char} (h : ∀ c, cs.head? = some c → isBlank c = false) :
    cs.dropWhile isBlank = cs := by
  cases cs with
  | nil => rfl
  | cons c cs => rw [List.dropWhile_cons_of_neg (by simp [h c rfl])]

/-- What is left at the start of a text stays there when its end is trimmed. -/
theorem head?_of_trimEnd {cs : List Char} {c : Char} (h : (trimEnd cs).head? = some c) :
    cs.head? = some c := by
  have hprefix : trimEnd cs <+: cs := by
    have hsuffix := List.dropWhile_suffix isBlank (l := cs.reverse)
    rw [← List.reverse_prefix, List.reverse_reverse] at hsuffix
    exact hsuffix
  obtain ⟨rest, hrest⟩ := hprefix
  rw [← hrest, List.head?_append, h]
  rfl

/-- What trimming leaves is trimmed. -/
theorem isTrimmed_trim (cs : List Char) : IsTrimmed (trim cs) := by
  refine ⟨?_, ?_⟩
  · intro c hc
    exact not_isBlank_of_head?_dropWhile (head?_of_trimEnd hc)
  · intro c hc
    unfold trim trimEnd at hc
    rw [List.getLast?_reverse] at hc
    exact not_isBlank_of_head?_dropWhile hc

/-- Trimming leaves a text alone exactly if it is trimmed. -/
theorem trim_eq_self_iff {cs : List Char} : trim cs = cs ↔ IsTrimmed cs := by
  constructor
  · intro h
    rw [← h]
    exact isTrimmed_trim cs
  · rintro ⟨hstart, hend⟩
    have hlast : ∀ c, cs.reverse.head? = some c → isBlank c = false := by
      intro c hc
      rw [List.head?_reverse] at hc
      exact hend c hc
    unfold trim trimStart trimEnd
    rw [dropWhile_of_head? hstart, dropWhile_of_head? hlast, List.reverse_reverse]

@[simp] theorem trim_trim (cs : List Char) : trim (trim cs) = trim cs :=
  trim_eq_self_iff.mpr (isTrimmed_trim cs)

theorem toList_trimText (s : String) : (trimText s).toList = trim s.toList := by
  rw [trimText, String.toList_ofList]

/-- Something is left of a text that is not blank. -/
theorem trimText_ne_empty {s : String} (h : ¬ isAllBlank s.toList = true) : trimText s ≠ "" := by
  intro hempty
  have hnil := congrArg String.toList hempty
  rw [toList_trimText] at hnil
  exact h (trim_eq_nil_iff.mp hnil)

theorem trimEnd_append {cs after : List Char} (h : isAllBlank after = true) :
    trimEnd (cs ++ after) = trimEnd cs := by
  have hafter : ∀ c ∈ after.reverse, isBlank c = true := by
    intro c hc
    exact List.all_eq_true.mp h c (List.mem_reverse.mp hc)
  unfold trimEnd
  rw [List.reverse_append, List.dropWhile_append_of_pos hafter]

/-- Blanks before and after a text do not count. -/
theorem trim_append {before cs after : List Char} (hbefore : isAllBlank before = true)
    (hafter : isAllBlank after = true) : trim (before ++ cs ++ after) = trim cs := by
  have hstart : trimStart (before ++ cs ++ after) = trimStart (cs ++ after) := by
    unfold trimStart
    rw [List.append_assoc, List.dropWhile_append_of_pos (List.all_eq_true.mp hbefore)]
  by_cases hblank : isAllBlank cs = true
  · -- nothing is left of either text
    have hall : isAllBlank (before ++ cs ++ after) = true := by
      unfold isAllBlank at hbefore hblank hafter ⊢
      rw [List.all_append, List.all_append, hbefore, hblank, hafter]
      rfl
    rw [trim_eq_nil_iff.mpr hall, trim_eq_nil_iff.mpr hblank]
  · have hne : ¬ (cs.dropWhile isBlank).isEmpty = true := by
      rw [List.isEmpty_iff, dropWhile_eq_nil_iff]
      exact hblank
    have hrest : trimStart (cs ++ after) = trimStart cs ++ after := by
      unfold trimStart
      rw [List.dropWhile_append, if_neg hne]
    unfold trim
    rw [hstart, hrest, trimEnd_append hafter]

/-- A change of characters that keeps the blank ones blank and the others not can as well be made
after trimming. -/
theorem trim_map {f : Char → Char} (hf : ∀ c, isBlank (f c) = isBlank c) (cs : List Char) :
    trim (cs.map f) = (trim cs).map f := by
  have hdrop : ∀ ds : List Char, (ds.map f).dropWhile isBlank = (ds.dropWhile isBlank).map f := by
    intro ds
    have hcomp : isBlank ∘ f = isBlank := funext hf
    rw [List.dropWhile_map, hcomp]
  unfold trim trimStart trimEnd
  rw [hdrop, ← List.map_reverse, hdrop, List.map_reverse]

end Desugar.Text
