import Desugar.Config.UnknownKeys
import Desugar.Toml.Text

/-!
# The texts of bare paths

The text of a path is made from the dotted path, which is cut at its points again and put together
with brackets around the parts that look like positions. For a path of positions and of keys that
need no quotes, the parts are the steps. So the brackets can be taken away, which leaves the dotted
path, and the dotted path tells the steps up to the difference between a position and a key of the
same digits.

## Contents

* `PathStep.IsBare` — steps by keys that need no quotes.
* `Path.bracketed_dotted` — a bare path is bracketed step by step.
* `unbracket`, `Path.unbracket_render` — the brackets taken away.
* `Path.eq_of_dotted` — what the dotted path tells.
* `Text.bytes`, `Text.bytes_lt_of_lt`, `Path.isNarrow_render` — texts in the order of their bytes.
-/

namespace Desugar

open Toml.Scan (isBareKeyChar)

/-! ## Bare paths -/

/-- A key that is written without quotes. -/
def IsBareKey (k : String) : Prop := k ≠ "" ∧ ∀ c ∈ k.toList, isBareKeyChar c = true

instance : DecidablePred IsBareKey := fun k =>
  decidable_of_iff ((k != "" && k.toList.all isBareKeyChar) = true) (by simp [IsBareKey])

/-- A step by a bare key, or to a position. -/
def PathStep.IsBare : PathStep → Prop
  | .key k => IsBareKey k
  | .index _ => True

/-- Whether a step is one to a position. -/
def PathStep.isIndex : PathStep → Bool
  | .key _ => false
  | .index _ => true

theorem isBareKeyChar_of_isDigit {c : Char} (h : c.isDigit = true) : isBareKeyChar c = true := by
  simp [isBareKeyChar, Char.isAlphanum, h]

theorem PathStep.IsBare.chars_ne_nil {s : PathStep} (h : s.IsBare) : s.chars ≠ [] := by
  cases s with
  | key k =>
      intro hnil
      exact h.1 (String.toList_eq_nil_iff.mp hnil)
  | index i => exact Nat.toDigits_ne_nil

theorem PathStep.IsBare.isBareKeyChar {s : PathStep} (h : s.IsBare) {c : Char}
    (hc : c ∈ s.chars) : isBareKeyChar c = true := by
  cases s with
  | key k => exact h.2 c hc
  | index i =>
      have hdigit : c.isDigit = true := Nat.isDigit_of_mem_toDigits (by decide) (by decide) hc
      exact isBareKeyChar_of_isDigit hdigit

/-- A step of a known kind is given by its text. -/
theorem PathStep.eq_of_chars {s t : PathStep} (hkind : s.isIndex = t.isIndex)
    (h : s.chars = t.chars) : s = t := by
  cases s with
  | key k =>
      cases t with
      | key l => rw [String.toList_inj.mp h]
      | index j => exact absurd hkind (by simp [isIndex])
  | index i =>
      cases t with
      | key l => exact absurd hkind (by simp [isIndex])
      | index j =>
          have hdigits : Nat.toDigits 10 i = Nat.toDigits 10 j := h
          rw [← @Nat.ofDigitChars_ten_toDigits i, hdigits, Nat.ofDigitChars_ten_toDigits]

namespace Path

theorem not_mem_chars {s : PathStep} (h : s.IsBare) {c : Char} (hc : isBareKeyChar c = false) :
    c ∉ s.chars := by
  intro hmem
  rw [h.isBareKeyChar hmem] at hc
  exact absurd hc (by decide)

/-- The parts of a dotted path are the texts of its steps. -/
theorem split_dotted {p : Path} (hne : p ≠ []) (h : ∀ s ∈ p, s.IsBare) :
    Text.split '.' p.dotted = p.map PathStep.chars := by
  refine Text.split_join (by simpa using hne) ?_
  intro part hpart
  obtain ⟨s, hs, rfl⟩ := List.mem_map.mp hpart
  exact not_mem_chars (h s hs) (by decide)

/-- A bare path is bracketed step by step, from its first step on. -/
theorem bracketed_dotted {s : PathStep} {p : Path} (h : ∀ t ∈ s :: p, t.IsBare) :
    bracketed (dotted (s :: p)) = (p.map PathStep.chars).foldl extend s.chars := by
  have hs : s.IsBare := h s List.mem_cons_self
  -- the path does not start with a point, so nothing is dropped
  have hdrop : (dotted (s :: p)).dropWhile (fun c => c == '.') = dotted (s :: p) := by
    obtain ⟨c, cs, hchars⟩ := List.exists_cons_of_ne_nil hs.chars_ne_nil
    have hc : (c == '.') = false := by
      have hnot : '.' ∉ s.chars := not_mem_chars hs (by decide)
      rw [hchars] at hnot
      exact beq_false_of_ne fun e => hnot (e ▸ List.mem_cons_self)
    unfold dotted
    rw [List.map_cons, Text.join_cons, hchars, List.cons_append,
      List.dropWhile_cons_of_neg (by simp [hc])]
  unfold bracketed
  rw [hdrop, split_dotted (List.cons_ne_nil _ _) h]
  rfl

end Path

/-! ## Taking the brackets away -/

/-- A text with its opening brackets replaced by points and without its closing ones. -/
def unbracket (cs : List Char) : List Char :=
  (cs.filter fun c => c != ']').map fun c => if c = '[' then '.' else c

theorem unbracket_append (cs ds : List Char) :
    unbracket (cs ++ ds) = unbracket cs ++ unbracket ds := by
  unfold unbracket
  rw [List.filter_append, List.map_append]

theorem unbracket_of_not_mem {cs : List Char} (hopen : '[' ∉ cs) (hclose : ']' ∉ cs) :
    unbracket cs = cs := by
  have hfilter : (cs.filter fun c => c != ']') = cs := by
    refine List.filter_eq_self.mpr ?_
    intro c hc
    exact bne_iff_ne.mpr fun e => hclose (e ▸ hc)
  unfold unbracket
  rw [hfilter]
  calc (cs.map fun c => if c = '[' then '.' else c)
    _ = cs.map id := by
        refine List.map_congr_left ?_
        intro c hc
        have hne : c ≠ '[' := fun e => hopen (e ▸ hc)
        exact if_neg hne
    _ = cs := List.map_id cs

namespace Path

/-- One more part comes after a point once the brackets are gone, whether or not it looks like a
    position. -/
theorem unbracket_extend {done part : List Char} (hdone : done ≠ []) (hopen : '[' ∉ part)
    (hclose : ']' ∉ part) : unbracket (extend done part) = unbracket done ++ '.' :: part := by
  have hpart : unbracket part = part := unbracket_of_not_mem hopen hclose
  unfold extend
  by_cases hindex : looksLikeIndex part = true
  · rw [if_pos hindex, unbracket_append, unbracket_append, unbracket_append, hpart]
    simp [unbracket]
  · rw [if_neg hindex, if_neg (by simpa using hdone), unbracket_append, unbracket_append, hpart]
    simp [unbracket]

theorem extend_ne_nil {done part : List Char} (hdone : done ≠ []) : extend done part ≠ [] := by
  unfold extend
  split
  · simp
  · split
    next hnil => exact absurd (by simpa using hnil) hdone
    next => simp

/-- All parts come after points. The induction is over the parts that are still to come. -/
theorem unbracket_foldl_extend {done : List Char} {parts : List (List Char)} (hdone : done ≠ [])
    (hparts : ∀ part ∈ parts, '[' ∉ part ∧ ']' ∉ part) :
    unbracket (parts.foldl extend done) =
      unbracket done ++ parts.flatMap fun part => '.' :: part := by
  induction parts generalizing done with
  | nil => rw [List.foldl_nil, List.flatMap_nil, List.append_nil]
  | cons part parts ih =>
      obtain ⟨hopen, hclose⟩ := hparts part List.mem_cons_self
      have hrest : ∀ q ∈ parts, '[' ∉ q ∧ ']' ∉ q :=
        fun q hq => hparts q (List.mem_cons_of_mem part hq)
      rw [List.foldl_cons, ih (extend_ne_nil hdone) hrest, unbracket_extend hdone hopen hclose,
        List.flatMap_cons, List.append_assoc, List.cons_append]

/-- **Without its brackets the text of a bare path is the dotted path.** -/
theorem unbracket_render {p : Path} (hne : p ≠ []) (h : ∀ s ∈ p, s.IsBare) :
    unbracket p.render.toList = p.dotted := by
  cases p with
  | nil => exact absurd rfl hne
  | cons s p =>
      have hs : s.IsBare := h s List.mem_cons_self
      have hparts : ∀ part ∈ p.map PathStep.chars, '[' ∉ part ∧ ']' ∉ part := by
        intro part hpart
        obtain ⟨t, ht, rfl⟩ := List.mem_map.mp hpart
        have hbare : t.IsBare := h t (List.mem_cons_of_mem s ht)
        exact ⟨not_mem_chars hbare (by decide), not_mem_chars hbare (by decide)⟩
      have hfirst : unbracket s.chars = s.chars :=
        unbracket_of_not_mem (not_mem_chars hs (by decide)) (not_mem_chars hs (by decide))
      unfold render
      rw [String.toList_ofList, bracketed_dotted h, unbracket_foldl_extend hs.chars_ne_nil hparts,
        hfirst, ← Text.join_cons]
      rfl

/-- A dotted path determines its steps up to their kinds. -/
theorem eq_of_dotted {p q : Path} (hpne : p ≠ []) (hqne : q ≠ []) (hp : ∀ s ∈ p, s.IsBare)
    (hq : ∀ s ∈ q, s.IsBare)
    (hkinds : p.length = q.length → p.map PathStep.isIndex = q.map PathStep.isIndex)
    (h : p.dotted = q.dotted) : p = q := by
  have hparts : p.map PathStep.chars = q.map PathStep.chars := by
    rw [← split_dotted hpne hp, ← split_dotted hqne hq, h]
  have hlength : p.length = q.length := by simpa using congrArg List.length hparts
  have hkind := hkinds hlength
  refine List.ext_getElem hlength ?_
  intro i hi hi'
  have hchars : (p.map PathStep.chars)[i]? = (q.map PathStep.chars)[i]? := by rw [hparts]
  have hindex : (p.map PathStep.isIndex)[i]? = (q.map PathStep.isIndex)[i]? := by rw [hkind]
  simp only [List.getElem?_map, List.getElem?_eq_getElem hi, List.getElem?_eq_getElem hi',
    Option.map_some, Option.some.injEq] at hchars hindex
  exact PathStep.eq_of_chars hindex hchars

end Path

/-! ## The order of bytes -/

namespace Text

/-- The bytes of a text. -/
def bytes (s : String) : List UInt8 := s.toUTF8.data.toList

/-- A text of one byte per character. -/
def IsNarrow (cs : List Char) : Prop := ∀ c ∈ cs, c.toNat < 128

theorem isNarrow_append {cs ds : List Char} : IsNarrow (cs ++ ds) ↔ IsNarrow cs ∧ IsNarrow ds :=
  List.forall_mem_append

theorem isNarrow_cons {c : Char} {cs : List Char} :
    IsNarrow (c :: cs) ↔ c.toNat < 128 ∧ IsNarrow cs :=
  List.forall_mem_cons

theorem flatMap_utf8EncodeChar {cs : List Char} (h : IsNarrow cs) :
    cs.flatMap String.utf8EncodeChar = cs.map fun c => c.val.toUInt8 := by
  induction cs with
  | nil => rfl
  | cons c cs ih =>
      obtain ⟨hc, hcs⟩ := isNarrow_cons.mp h
      have hsize : c.utf8Size = 1 := by
        rw [Char.utf8Size_eq_one_iff, UInt32.le_iff_toNat_le]
        exact Nat.le_of_lt_succ hc
      rw [List.flatMap_cons, String.utf8EncodeChar_eq_singleton hsize, List.singleton_append,
        ih hcs, List.map_cons]

theorem bytes_of_isNarrow {s : String} (h : IsNarrow s.toList) :
    bytes s = s.toList.map fun c => c.val.toUInt8 := by
  unfold bytes
  rw [String.toUTF8_eq_toByteArray, ← String.utf8Encode_toList]
  unfold List.utf8Encode
  rw [List.toList_data_toByteArray, flatMap_utf8EncodeChar h]

/-- Narrow characters are in the order of their bytes. -/
theorem toUInt8_lt_toUInt8 {c d : Char} (hc : c.toNat < 128) (hd : d.toNat < 128) (h : c < d) :
    c.val.toUInt8 < d.val.toUInt8 := by
  have hcd : c.toNat < d.toNat := h
  rw [UInt8.lt_iff_toNat_lt, UInt32.toNat_toUInt8, UInt32.toNat_toUInt8]
  show c.toNat % 2 ^ 8 < d.toNat % 2 ^ 8
  omega

theorem map_toUInt8_lt_map {cs ds : List Char} (hcs : IsNarrow cs) (hds : IsNarrow ds)
    (h : cs < ds) : (cs.map fun c => c.val.toUInt8) < ds.map fun c => c.val.toUInt8 := by
  induction cs generalizing ds with
  | nil =>
      cases ds with
      | nil => exact absurd h (List.lt_irrefl _)
      | cons d ds => exact List.nil_lt_cons _ _
  | cons c cs ih =>
      cases ds with
      | nil => exact absurd h (List.not_lt_nil _)
      | cons d ds =>
          obtain ⟨hc, hcs'⟩ := isNarrow_cons.mp hcs
          obtain ⟨hd, hds'⟩ := isNarrow_cons.mp hds
          rw [List.map_cons, List.map_cons, List.cons_lt_cons_iff]
          rcases List.cons_lt_cons_iff.mp h with hlt | ⟨rfl, hlt⟩
          · exact .inl (toUInt8_lt_toUInt8 hc hd hlt)
          · exact .inr ⟨rfl, ih hcs' hds' hlt⟩

/-- For narrow texts, the order of texts is that of their bytes. -/
theorem bytes_lt_of_lt {s t : String} (hs : IsNarrow s.toList) (ht : IsNarrow t.toList)
    (h : s < t) : bytes s < bytes t := by
  rw [bytes_of_isNarrow hs, bytes_of_isNarrow ht]
  exact map_toUInt8_lt_map hs ht (String.lt_iff.mp h)

end Text

theorem toNat_lt_of_isBareKeyChar {c : Char} (h : isBareKeyChar c = true) : c.toNat < 128 := by
  have hle : ∀ {last : Char}, last.toNat < 128 → c.val ≤ last.val → c.toNat < 128 :=
    fun hlast hval => Nat.lt_of_le_of_lt (UInt32.le_iff_toNat_le.mp hval) hlast
  change (c.isUpper || c.isLower || c.isDigit || c == '_' || c == '-') = true at h
  simp only [Bool.or_eq_true, beq_iff_eq] at h
  rcases h with (((hupper | hlower) | hdigit) | rfl) | rfl
  · have hval : c.val ≤ 'Z'.val := (of_decide_eq_true hupper).2
    exact hle (by decide) hval
  · have hval : c.val ≤ 'z'.val := of_decide_eq_true (Bool.and_eq_true_iff.mp hlower).2
    exact hle (by decide) hval
  · have hval : c.val ≤ '9'.val := of_decide_eq_true (Bool.and_eq_true_iff.mp hdigit).2
    exact hle (by decide) hval
  · decide
  · decide

namespace Path

theorem isNarrow_extend {done part : List Char} (hdone : Text.IsNarrow done)
    (hpart : Text.IsNarrow part) : Text.IsNarrow (extend done part) := by
  have hsign : Text.IsNarrow ['['] ∧ Text.IsNarrow [']'] ∧ Text.IsNarrow ['.'] := by
    simp [Text.IsNarrow]
  unfold extend
  split
  · simp only [Text.isNarrow_append]
    exact ⟨⟨⟨hdone, hsign.1⟩, hpart⟩, hsign.2.1⟩
  · split
    · exact hpart
    · simp only [Text.isNarrow_append]
      exact ⟨⟨hdone, hsign.2.2⟩, hpart⟩

theorem isNarrow_foldl_extend {done : List Char} {parts : List (List Char)}
    (hdone : Text.IsNarrow done) (hparts : ∀ part ∈ parts, Text.IsNarrow part) :
    Text.IsNarrow (parts.foldl extend done) := by
  induction parts generalizing done with
  | nil => exact hdone
  | cons part parts ih =>
      exact ih (isNarrow_extend hdone (hparts part List.mem_cons_self))
        fun q hq => hparts q (List.mem_cons_of_mem part hq)

theorem isNarrow_render {p : Path} (hne : p ≠ []) (h : ∀ s ∈ p, s.IsBare) :
    Text.IsNarrow p.render.toList := by
  have hchars : ∀ s ∈ p, Text.IsNarrow s.chars :=
    fun s hs c hc => toNat_lt_of_isBareKeyChar ((h s hs).isBareKeyChar hc)
  cases p with
  | nil => exact absurd rfl hne
  | cons s p =>
      unfold render
      rw [String.toList_ofList, bracketed_dotted h]
      refine isNarrow_foldl_extend (hchars s List.mem_cons_self) ?_
      intro part hpart
      obtain ⟨t, ht, rfl⟩ := List.mem_map.mp hpart
      exact hchars t (List.mem_cons_of_mem s ht)

end Path

end Desugar
