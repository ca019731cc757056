import Desugar.Config.Shape
import Desugar.Text.Split

/-!
# Unknown keys

The entries of a configuration that no setting is read from. They are noted while the settings are
read: the reading passes over such an entry and notes the path to it, and nothing below it. The
paths are written as users write them, with points before keys and brackets around positions, and
listed in ascending order.

The brackets are put around every all-digit part of the dotted path but the first, so a key that is
all digits looks like a position.

## Contents

* `Path`, `Noting` — where entries are, and readings that note it.
* `Settings.noteEntries` — the settings of a document, with the unknown entries noted.
* `Path.render` — the text of a path.
* `ascending` — texts in order, each once.
-/

namespace Desugar

open Toml (Value Entries)

/-- The way to an entry of a document, from the root. -/
abbrev Path := List PathStep

/-! ## Reading with notes -/

/-- A reading that notes paths on its way. One that fails has no notes. -/
abbrev Noting (α : Type) := StateT (List Path) (Except ShapeError) α

/-- Note a path. -/
def note (path : Path) : Noting Unit := modify fun noted => noted ++ [path]

/-- Read an entry of the group at `path`: one with a known name as `read` says, with the path to it;
the path to any other entry is noted, and its value passed over. -/
def noteSlot {φ : Type} (path : Path) (names : List String)
    (read : Path → String → Value → Noting (Option φ)) (s : Slot) : Noting (Option φ) :=
  if s.name ∈ names then read (path ++ [s.step]) s.name s.value
  else do
    note (path ++ [s.step])
    return none

/-- Read the entries of the group at `path` in order and put each into the group. -/
def noteSlots {α φ : Type} (path : Path) (names : List String)
    (read : Path → String → Value → Noting (Option φ)) (put : α → φ → α) (a : α)
    (slots : List Slot) : Noting α := do
  let fields ← slots.mapM (noteSlot path names read)
  return (fields.filterMap id).foldl put a

/-- Read the group at `path` from a value, starting with the settings `a`. -/
def noteGroup {α φ : Type} (path : Path) (names : List String) (expected : Expected)
    (read : Path → String → Value → Noting (Option φ)) (put : α → φ → α) (a : α) (v : Value) :
    Noting α :=
  match slots? names v with
  | none => throw (.wrongType v expected)
  | some slots => noteSlots path names read put a slots

/-- A helper. Its settings are no groups, so nothing is noted inside them. -/
def Helper.noteValue (path : Path) (v : Value) : Noting Helper := do
  let d ← noteGroup path HelperDraft.names .helper
    (fun _ name v => liftM (HelperDraft.read name v)) HelperDraft.put .blank v
  liftM (d.finish v)

/-- A list of helpers, each at its position. -/
def noteHelpers (path : Path) : Value → Noting (List Helper)
  | .array items => items.zipIdx.mapM fun e => Helper.noteValue (path ++ [.index e.2]) e.1
  | v => throw (.wrongType v .sequence)

namespace SugarSettings

/-- The setting that an entry gives. Only the helpers have entries of their own. -/
def noteField (path : Path) (name : String) (v : Value) : Noting (Option SugarField) :=
  if name = "builtins" then (fun hs => some (.helpers hs)) <$> noteHelpers path v
  else liftM (read name v)

/-- The names that are looked for. -/
def noteValue (path : Path) (v : Value) : Noting SugarSettings :=
  noteGroup path names .sugar noteField put .standard v

end SugarSettings

/-- The settings of logging, none of which is a group. -/
def LoggingSettings.noteValue (path : Path) (v : Value) : Noting LoggingSettings :=
  noteGroup path names .logging (fun _ name v => liftM (read name v)) put .standard v

namespace Settings

/-- The group that an entry of the document gives; it is asked for the known names alone. -/
def noteField (path : Path) (name : String) (v : Value) : Noting (Option SettingsField) :=
  if name = "sugar" then (fun s => some (.sugar s)) <$> SugarSettings.noteValue path v
  else (fun s => some (.logging s)) <$> LoggingSettings.noteValue path v

/-- The settings that a document gives, with the paths of its unknown entries noted in the order in
which they are come by. -/
def noteEntries (es : Entries) : Noting Settings :=
  noteSlots [] names noteField put .standard (tableSlots es)

end Settings

/-! ## The text of a path -/

/-- A key or a position as a part of a dotted path. -/
def PathStep.chars : PathStep → List Char
  | .key k => k.toList
  | .index i => Nat.toDigits 10 i

namespace Path

/-- The path as its parts with points between them. -/
def dotted (p : Path) : List Char := Text.join '.' (p.map PathStep.chars)

/-- Whether a part looks like a position. -/
def looksLikeIndex (part : List Char) : Bool := !part.isEmpty && part.all Char.isDigit

/-- A path with one more part: in brackets if it looks like a position, else after a point unless
nothing comes before it. -/
def extend (done part : List Char) : List Char :=
  if looksLikeIndex part then done ++ ['['] ++ part ++ [']']
  else if done.isEmpty then part
  else done ++ ['.'] ++ part

/-- A dotted path with brackets around its positions. Points at its start are dropped, and its first
part is always a key. -/
def bracketed (dotted : List Char) : List Char :=
  match Text.split '.' (dotted.dropWhile fun c => c == '.') with
  | [] => []
  | first :: rest => rest.foldl extend first

/-- The text of a path. -/
def render (p : Path) : String := String.ofList (bracketed p.dotted)

end Path

/-! ## The list of unknown keys -/

/-- Put a text into an ascending list, unless it is there. -/
def insertAscending (s : String) : List String → List String
  | [] => [s]
  | t :: ts =>
    if s < t then s :: t :: ts
    else if s = t then t :: ts
    else t :: insertAscending s ts

/-- The texts of a list in ascending order, each once. -/
def ascending (ss : List String) : List String := ss.foldr insertAscending []

theorem mem_insertAscending {s t : String} {ts : List String} :
    t ∈ insertAscending s ts ↔ t = s ∨ t ∈ ts := by
  induction ts with
  | nil => simp [insertAscending]
  | cons u us ih => grind [insertAscending]

/-- An ascending list stays ascending. -/
theorem pairwise_insertAscending {s : String} {ts : List String} (h : ts.Pairwise (· < ·)) :
    (insertAscending s ts).Pairwise (· < ·) := by
  induction ts with
  | nil => simp [insertAscending]
  | cons t ts ih =>
    obtain ⟨ht, hts⟩ := List.pairwise_cons.1 h
    unfold insertAscending
    split
    next hst =>
      refine List.pairwise_cons.2 ⟨?_, h⟩
      intro u hu
      rcases List.mem_cons.1 hu with rfl | hu
      · exact hst
      · exact String.lt_trans hst (ht u hu)
    next hst =>
      split
      · exact h
      next hne =>
        refine List.pairwise_cons.2 ⟨?_, ih hts⟩
        intro u hu
        rcases mem_insertAscending.1 hu with rfl | hu
        · rcases String.le_total t u with hle | hle
          · exact Std.lt_of_le_of_ne hle (fun e => hne e.symm)
          · exact absurd (Std.lt_of_le_of_ne hle hne) hst
        · exact ht u hu

/-- The sorted texts ascend strictly, so none of them comes twice. -/
theorem pairwise_ascending (ss : List String) : (ascending ss).Pairwise (· < ·) := by
  induction ss with
  | nil => simp [ascending]
  | cons s ss ih => exact pairwise_insertAscending ih

/-- Sorting loses and adds nothing. -/
theorem mem_ascending {t : String} {ss : List String} : t ∈ ascending ss ↔ t ∈ ss := by
  induction ss with
  | nil => simp [ascending]
  | cons s ss ih =>
    have : ascending (s :: ss) = insertAscending s (ascending ss) := rfl
    rw [this, mem_insertAscending, ih, List.mem_cons]

end Desugar
