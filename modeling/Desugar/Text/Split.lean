/-!
# Pieces of a text

A text is cut at every occurrence of a separator. The pieces between the cuts may be empty, and
there is always one more of them than there are separators.
-/

namespace Desugar.Text

/-- The pieces of a text between the occurrences of `sep`. -/
def split (sep : Char) : List Char → List (List Char)
  | [] => [[]]
  | c :: cs =>
    if c = sep then [] :: split sep cs
    else match split sep cs with
      | [] => [[c]]
      | piece :: pieces => (c :: piece) :: pieces

/-- The pieces of a string between the occurrences of `sep`. -/
def splitText (sep : Char) (s : String) : List String :=
  (split sep s.toList).map String.ofList

/-- Texts joined by a separator between every two of them. -/
def join (sep : Char) (pieces : List (List Char)) : List Char := List.intercalate [sep] pieces

/-! ## Cutting and joining -/

theorem split_ne_nil (sep : Char) (cs : List Char) : split sep cs ≠ [] := by
  cases cs with
  | nil => simp [split]
  | cons c cs =>
    unfold split
    split
    · simp
    · split <;> simp

theorem split_cons_of_ne {sep c : Char} (h : c ≠ sep) (cs : List Char) :
    ∃ piece pieces, split sep cs = piece :: pieces ∧
      split sep (c :: cs) = (c :: piece) :: pieces := by
  cases hs : split sep cs with
  | nil => exact absurd hs (split_ne_nil sep cs)
  | cons piece pieces => exact ⟨piece, pieces, rfl, by simp [split, h, hs]⟩

/-- Joining the pieces gives the text back. -/
theorem join_split (sep : Char) (cs : List Char) : join sep (split sep cs) = cs := by
  induction cs with
  | nil => simp [split, join, List.intercalate]
  | cons c cs ih =>
    by_cases h : c = sep
    · cases hs : split sep cs with
      | nil => exact absurd hs (split_ne_nil sep cs)
      | cons piece pieces =>
        have : join sep ([] :: piece :: pieces) = sep :: join sep (piece :: pieces) := by
          simp [join, List.intercalate, List.intersperse]
        rw [split, if_pos h, hs, this, ← hs, ih, h]
    · obtain ⟨piece, pieces, hs, hc⟩ := split_cons_of_ne h cs
      rw [hc]
      rw [hs] at ih
      cases pieces <;> simp_all [join, List.intercalate, List.intersperse]

theorem join_cons (sep : Char) (piece : List Char) (pieces : List (List Char)) :
    join sep (piece :: pieces) = piece ++ pieces.flatMap fun p => sep :: p := by
  induction pieces generalizing piece with
  | nil => simp [join]
  | cons next pieces ih =>
    have hnext : join sep (piece :: next :: pieces) =
        piece ++ sep :: join sep (next :: pieces) := by
      simp [join, List.intercalate_cons_cons]
    rw [hnext, ih next, List.flatMap_cons, List.cons_append]

/-- What is joined is made of separators and of the pieces. -/
theorem mem_join {sep c : Char} {pieces : List (List Char)} (h : c ∈ join sep pieces) :
    c = sep ∨ ∃ piece ∈ pieces, c ∈ piece := by
  cases pieces with
  | nil => exact absurd h List.not_mem_nil
  | cons first pieces =>
    rw [join_cons, List.mem_append] at h
    rcases h with h | h
    · exact .inr ⟨first, List.mem_cons_self, h⟩
    · obtain ⟨piece, hpiece, hc⟩ := List.mem_flatMap.mp h
      rcases List.mem_cons.mp hc with rfl | hc
      · exact .inl rfl
      · exact .inr ⟨piece, List.mem_cons_of_mem first hpiece, hc⟩

/-- A text without the separator is a single piece. -/
theorem split_of_not_mem {sep : Char} {cs : List Char} (h : sep ∉ cs) : split sep cs = [cs] := by
  induction cs with
  | nil => rfl
  | cons c cs ih =>
    have hc : c ≠ sep := fun e => h (e ▸ List.mem_cons_self)
    have hcs : sep ∉ cs := fun hmem => h (List.mem_cons_of_mem c hmem)
    rw [split, if_neg hc, ih hcs]

/-- A text is cut at a separator like its two sides on their own. -/
theorem split_append_separator (sep : Char) (cs ds : List Char) :
    split sep (cs ++ sep :: ds) = split sep cs ++ split sep ds := by
  induction cs with
  | nil =>
    show split sep (sep :: ds) = [[]] ++ split sep ds
    rw [split, if_pos rfl, List.singleton_append]
  | cons c cs ih =>
    by_cases h : c = sep
    · rw [List.cons_append, split, if_pos h, ih, split, if_pos h, List.cons_append]
    · obtain ⟨piece, pieces, hs, hc⟩ := split_cons_of_ne h cs
      obtain ⟨first, rest, hs', hc'⟩ := split_cons_of_ne h (cs ++ sep :: ds)
      rw [ih, hs, List.cons_append, List.cons.injEq] at hs'
      obtain ⟨rfl, rfl⟩ := hs'
      rw [List.cons_append, hc', hc, List.cons_append]

/-- The first piece ends at the first separator. -/
theorem split_append_cons {sep : Char} {piece : List Char} (h : sep ∉ piece) (cs : List Char) :
    split sep (piece ++ sep :: cs) = piece :: split sep cs := by
  rw [split_append_separator, split_of_not_mem h, List.singleton_append]

/-- Cutting what was joined gives the pieces back, if there are any and none holds the separator. -/
theorem split_join {sep : Char} {pieces : List (List Char)} (hne : pieces ≠ [])
    (h : ∀ piece ∈ pieces, sep ∉ piece) : split sep (join sep pieces) = pieces := by
  induction pieces with
  | nil => exact absurd rfl hne
  | cons piece pieces ih =>
    have hpiece : sep ∉ piece := h piece List.mem_cons_self
    cases pieces with
    | nil => rw [join_cons, List.flatMap_nil, List.append_nil, split_of_not_mem hpiece]
    | cons next pieces =>
      have hrest : ∀ p ∈ next :: pieces, sep ∉ p := fun p hp => h p (List.mem_cons_of_mem piece hp)
      rw [join_cons, List.flatMap_cons, List.cons_append, split_append_cons hpiece, ← join_cons,
        ih (List.cons_ne_nil _ _) hrest]

end Desugar.Text
