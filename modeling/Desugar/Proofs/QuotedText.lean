import Desugar.Text.Quoted
import Desugar.Text.Split

/-!
# Quoted texts are told apart

A quoted text shows every character of the text that it quotes, most of them as they are and some by
an escape: a letter, or a code point in braces. No escape is the beginning of another one, so a
quoted text can be read in one way only, and different texts are quoted differently.

## Contents

* `eq_of_toDigits_sixteen`, `brace_not_mem_toDigits` — a code point in braces.
* `Escapes`, `escapes_escape` — the forms of an escaped character.
* `Escapes.append_inj` — where an escape ends is known from the escape.
* `quote_injective` — different texts are quoted differently.
-/

namespace Desugar.Text

/-! ## Code points -/

theorem digitChar_inj_of_lt_sixteen :
    ∀ m < 16, ∀ n < 16, Nat.digitChar m = Nat.digitChar n → m = n := by
  decide

theorem length_toDigits_sixteen_le_one (n : Nat) : (Nat.toDigits 16 n).length ≤ 1 ↔ n < 16 := by
  simpa using Nat.length_toDigits_le_iff (b := 16) (n := n) (k := 1) (by decide) (by decide)

/-- A number is known by its digits to the base sixteen. By induction over the digits, from the last
    one on. -/
theorem eq_of_toDigits_sixteen {m n : Nat} (h : Nat.toDigits 16 m = Nat.toDigits 16 n) : m = n := by
  induction m using Nat.strongRecOn generalizing n with
  | ind m ih =>
      have hsize : m < 16 ↔ n < 16 := by
        rw [← length_toDigits_sixteen_le_one, ← length_toDigits_sixteen_le_one, h]
      by_cases hm : m < 16
      · have hn : n < 16 := hsize.mp hm
        rw [Nat.toDigits_of_lt_base hm, Nat.toDigits_of_lt_base hn] at h
        exact digitChar_inj_of_lt_sixteen m hm n hn (List.cons.inj h).1
      · have hn : ¬n < 16 := fun hn => hm (hsize.mpr hn)
        rw [Nat.toDigits_of_base_le (by decide) (Nat.le_of_not_lt hm),
          Nat.toDigits_of_base_le (by decide) (Nat.le_of_not_lt hn)] at h
        obtain ⟨hinit, hlast⟩ := List.append_inj' h rfl
        have hquot : m / 16 = n / 16 := ih (m / 16) (by omega) hinit
        have hrem : m % 16 = n % 16 :=
          digitChar_inj_of_lt_sixteen _ (Nat.mod_lt m (by decide)) _ (Nat.mod_lt n (by decide))
            (List.cons.inj hlast).1
        omega

/-- No digit is a closing brace. -/
theorem brace_not_mem_toDigits (n : Nat) : '\x7d' ∉ Nat.toDigits 16 n := by
  have hdigit : ∀ d : Nat, '\x7d' ≠ d.digitChar := by
    intro d
    exact (Nat.digitChar_ne '\x7d' (by decide)).symm
  induction n using Nat.strongRecOn with
  | ind n ih =>
      by_cases hn : n < 16
      · rw [Nat.toDigits_of_lt_base hn, List.mem_singleton]
        exact hdigit n
      · rw [Nat.toDigits_of_base_le (by decide) (Nat.le_of_not_lt hn), List.mem_append,
          List.mem_singleton]
        exact fun h => h.elim (ih (n / 16) (by omega)) (hdigit (n % 16))

/-- Two texts that go on after a separator are the same only if they are so on both sides of it,
    where it does not come earlier. -/
theorem append_cons_inj {sep : Char} {cs ds cs' ds' : List Char} (hcs : sep ∉ cs) (hds : sep ∉ ds)
    (h : cs ++ sep :: cs' = ds ++ sep :: ds') : cs = ds ∧ cs' = ds' := by
  have hsplit := congrArg (split sep) h
  rw [split_append_cons hcs, split_append_cons hds] at hsplit
  obtain ⟨hfirst, hrest⟩ := List.cons.inj hsplit
  refine ⟨hfirst, ?_⟩
  rw [← join_split sep cs', hrest, join_split]

/-! ## Escapes -/

/-- The character that is escaped by a letter. -/
def ofLetter? : Char → Option Char
  | '"' => some '"'
  | '\\' => some '\\'
  | 'n' => some '\n'
  | 'r' => some '\r'
  | 't' => some '\t'
  | '0' => some '\x00'
  | _ => none

/-- The forms in which a character stands between quotes. -/
inductive Escapes (c : Char) : List Char → Prop
  | letter {x : Char} : ofLetter? x = some c → Escapes c ['\\', x]
  | codePoint : Escapes c ('\\' :: 'u' :: '\x7b' :: (Nat.toDigits 16 c.toNat ++ ['\x7d']))
  | plain : c ≠ '\\' → Escapes c [c]

theorem escapes_escape (c : Char) : Escapes c (escape c) := by
  have hletter : ∀ {x d : Char}, ofLetter? x = some d → c = d → Escapes c ['\\', x] := by
    rintro x d hx rfl
    exact .letter hx
  unfold escape
  split
  · exact hletter rfl ‹c = '"'›
  split
  · exact hletter rfl ‹c = '\\'›
  split
  · exact hletter rfl ‹c = '\n'›
  split
  · exact hletter rfl ‹c = '\r'›
  split
  · exact hletter rfl ‹c = '\t'›
  split
  · exact hletter rfl ‹c = '\x00'›
  split
  · exact .codePoint
  · exact .plain ‹¬c = '\\'›

namespace Escapes

variable {c d : Char} {xs ys : List Char}

theorem ne_nil (h : Escapes c xs) : xs ≠ [] := by
  cases h <;> exact List.cons_ne_nil _ _

/-- **An escape is known from what begins with it**, and so is what follows. -/
theorem append_inj (hc : Escapes c xs) (hd : Escapes d ys) {cs ds : List Char}
    (h : xs ++ cs = ys ++ ds) : c = d ∧ cs = ds := by
  cases hc with
  | letter hx =>
      cases hd with
      | letter hy =>
          simp only [List.cons_append, List.nil_append, List.cons.injEq, true_and] at h
          obtain ⟨rfl, hrest⟩ := h
          exact ⟨Option.some.inj (hx.symm.trans hy), hrest⟩
      | codePoint =>
          simp only [List.cons_append, List.nil_append, List.cons.injEq, true_and] at h
          rw [h.1] at hx
          exact absurd hx (by simp [ofLetter?])
      | plain hd => exact absurd (List.cons.inj h).1.symm hd
  | codePoint =>
      cases hd with
      | letter hy =>
          simp only [List.cons_append, List.nil_append, List.cons.injEq, true_and] at h
          rw [← h.1] at hy
          exact absurd hy (by simp [ofLetter?])
      | codePoint =>
          simp only [List.cons_append, List.append_assoc, List.nil_append, List.cons.injEq,
            true_and] at h
          -- the first closing brace ends the digits of both
          obtain ⟨hdigits, hrest⟩ :=
            append_cons_inj (brace_not_mem_toDigits _) (brace_not_mem_toDigits _) h
          exact ⟨Char.toNat_inj.mp (eq_of_toDigits_sixteen hdigits), hrest⟩
      | plain hd => exact absurd (List.cons.inj h).1.symm hd
  | plain hc =>
      cases hd with
      | letter _ => exact absurd (List.cons.inj h).1 hc
      | codePoint => exact absurd (List.cons.inj h).1 hc
      | plain _ => exact List.cons.inj h

end Escapes

/-! ## Quoted texts -/

theorem flatMap_escape_injective {cs ds : List Char} (h : cs.flatMap escape = ds.flatMap escape) :
    cs = ds := by
  induction cs generalizing ds with
  | nil =>
      cases ds with
      | nil => rfl
      | cons d ds =>
          have hnil := (List.append_eq_nil_iff.mp h.symm).1
          exact absurd hnil (escapes_escape d).ne_nil
  | cons c cs ih =>
      cases ds with
      | nil =>
          have hnil := (List.append_eq_nil_iff.mp h).1
          exact absurd hnil (escapes_escape c).ne_nil
      | cons d ds =>
          obtain ⟨rfl, hrest⟩ := (escapes_escape c).append_inj (escapes_escape d) h
          rw [ih hrest]

/-- **Different texts are quoted differently.** -/
theorem quote_injective {s t : String} (h : quote s = quote t) : s = t := by
  unfold quote at h
  have hchars := String.ofList_injective h
  have hinner := List.append_cancel_left (List.append_cancel_right hchars)
  exact String.toList_inj.mp (flatMap_escape_injective hinner)

end Desugar.Text
