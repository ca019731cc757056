import Desugar.Config.Loading
import Desugar.Proofs.Groups

/-!
# What is noted while settings are read

The unknown entries of a document are noted by the reading itself, one entry after the other, and
the notes are lost if the reading fails. Where the unknown entries are can also be said of the
document alone. This module says so and proves that both come to the same: a reading with notes
reads what a plain one reads, fails where that fails and for the same cause, and notes the unknown
entries in the order of the document. A checked load is therefore a plain load with something to say
about it.

## Contents

* `ignoredPaths`, `unknownKeys` — where the unknown entries of a document are.
* `Notes` — a reading with notes against a plain one, with a lemma for each way to build them.
* `Settings.notes_noteEntries`, `Settings.erased_noteEntries` — the reading of a document.
* `Loaded.ofEntries_eq` — a checked load in terms of the plain one.
-/

namespace Desugar

open Toml (Value Entries)

/-! ## Where the unknown entries are -/

/-- The unknown entries of a group: of an entry with a known name what `inside` says, and any other
entry itself. -/
def ignoredSlots (path : Path) (names : List String) (inside : Path → String → Value → List Path)
    (slots : List Slot) : List Path :=
  slots.flatMap fun s =>
    if s.name ∈ names then inside (path ++ [s.step]) s.name s.value else [path ++ [s.step]]

/-- No entry of a setting that is not a group. -/
def ignoredNowhere (_ : Path) (_ : String) (_ : Value) : List Path := []

/-- The unknown entries of a helper. -/
def ignoredInHelper (path : Path) (v : Value) : List Path :=
  ignoredSlots path HelperDraft.names ignoredNowhere ((slots? HelperDraft.names v).getD [])

/-- The unknown entries of a list of helpers. -/
def ignoredInHelpers (path : Path) : Value → List Path
  | .array items => (items.mapIdx fun i v => ignoredInHelper (path ++ [.index i]) v).flatten
  | _ => []

/-- The unknown entries of the names that are looked for. -/
def ignoredInSugar (path : Path) (v : Value) : List Path :=
  ignoredSlots path SugarSettings.names
    (fun path name v => if name = "builtins" then ignoredInHelpers path v else [])
    ((slots? SugarSettings.names v).getD [])

/-- The unknown entries of the settings of logging. -/
def ignoredInLogging (path : Path) (v : Value) : List Path :=
  ignoredSlots path LoggingSettings.names ignoredNowhere ((slots? LoggingSettings.names v).getD [])

/-- The paths of all unknown entries of a document. -/
def ignoredPaths (es : Entries) : List Path :=
  ignoredSlots [] ["sugar", "logging"]
    (fun path name v => if name = "sugar" then ignoredInSugar path v else ignoredInLogging path v)
    (tableSlots es)

/-- The unknown keys of a document in ascending order. -/
def unknownKeys (es : Entries) : List String := ascending ((ignoredPaths es).map Path.render)

/-! ## Two readings -/

/-- A reading with notes reads what a plain one reads, or fails for the same cause; what it notes on
    the way are the given paths, after all that was noted before. -/
def Notes {α : Type} (noting : Noting α) (reading : Reading α) (paths : List Path) : Prop :=
  ∀ noted, noting.run noted = reading.map fun a => (a, noted ++ paths)

namespace Notes

variable {α β : Type} {noting : Noting α} {reading : Reading α} {paths : List Path}

/-- Without its notes, the one reading is the other. -/
theorem erased (h : Notes noting reading paths) (noted : List Path) :
    noting.run' noted = reading := by
  show (noting.run noted).map Prod.fst = reading
  rw [h noted]
  cases reading <;> rfl

/-- A plain reading notes nothing. -/
theorem lift (reading : Reading α) : Notes (liftM reading) reading [] := by
  intro noted
  rw [List.append_nil]
  cases reading <;> rfl

theorem throw (cause : ShapeError) : Notes (MonadExcept.throw cause : Noting α) (.error cause) [] :=
  fun _ => rfl

theorem bind {next : α → Noting β} {next' : α → Reading β} {more : List Path}
    (h : Notes noting reading paths) (hnext : ∀ a, Notes (next a) (next' a) more) :
    Notes (noting >>= next) (reading >>= next') (paths ++ more) := by
  intro noted
  rw [StateT.run_bind, h noted]
  cases reading with
  | error cause => rfl
  | ok a =>
      show (next a).run (noted ++ paths) = (next' a).map _
      rw [hnext a, List.append_assoc]

theorem map (h : Notes noting reading paths) (f : α → β) :
    Notes (f <$> noting) (reading.map f) paths := by
  intro noted
  rw [StateT.run_map, h noted]
  cases reading <;> rfl

/-- Readings one after the other note one after the other. -/
theorem mapM {noting : β → Noting α} {reading : β → Reading α} {paths : β → List Path}
    (bs : List β) (h : ∀ b ∈ bs, Notes (noting b) (reading b) (paths b)) :
    Notes (bs.mapM noting) (bs.mapM reading) (bs.flatMap paths) := by
  induction bs with
  | nil => exact lift (.ok [])
  | cons b bs ih =>
      have hrest := ih fun b' hb' => h b' (List.mem_cons_of_mem b hb')
      rw [List.mapM_cons, List.mapM_cons, List.flatMap_cons]
      refine (h b List.mem_cons_self).bind fun a => ?_
      exact hrest.map (a :: ·)

end Notes

/-! ## Groups -/

section
variable {α φ : Type} {names : List String}
  {noteField : Path → String → Value → Noting (Option φ)}
  {read : String → Value → Reading (Option φ)} {setting : φ → String}
  {inside : Path → String → Value → List Path}

/-- An entry: what is noted inside it if its name is known, else the entry itself. -/
theorem notes_noteSlot (hreads : Reads names read setting)
    (hfield : ∀ path, ∀ name ∈ names, ∀ v,
      Notes (noteField path name v) (read name v) (inside path name v)) (path : Path) (s : Slot) :
    Notes (noteSlot path names noteField s) (read s.name s.value)
      (if s.name ∈ names then inside (path ++ [s.step]) s.name s.value
        else [path ++ [s.step]]) := by
  unfold noteSlot
  by_cases hknown : s.name ∈ names
  · rw [if_pos hknown, if_pos hknown]
    exact hfield _ _ hknown _
  · -- the plain reading passes over the entry without a note
    rw [if_neg hknown, if_neg hknown, hreads.unknown s.name s.value hknown]
    exact fun _ => rfl

/-- **A group is read with notes as it is read without**, and its unknown entries are noted. -/
theorem notes_noteSlots (hreads : Reads names read setting)
    (hfield : ∀ path, ∀ name ∈ names, ∀ v,
      Notes (noteField path name v) (read name v) (inside path name v)) (path : Path)
    (put : α → φ → α) (a : α) (slots : List Slot) :
    Notes (noteSlots path names noteField put a slots) (readSlots read put a slots)
      (ignoredSlots path names inside slots) := by
  have hfields := Notes.mapM slots fun s _ => notes_noteSlot hreads hfield path s
  exact hfields.map fun fields => (fields.filterMap id).foldl put a

theorem notes_noteGroup (hreads : Reads names read setting)
    (hfield : ∀ path, ∀ name ∈ names, ∀ v,
      Notes (noteField path name v) (read name v) (inside path name v)) (path : Path)
    (expected : Expected) (put : α → φ → α) (a : α) (v : Value) :
    Notes (noteGroup path names expected noteField put a v) (readGroup names expected read put a v)
      (ignoredSlots path names inside ((slots? names v).getD [])) := by
  unfold noteGroup readGroup
  cases slots? names v with
  | none => exact .throw _
  | some slots => exact notes_noteSlots hreads hfield path put a slots

end

theorem Helper.notes_noteValue (path : Path) (v : Value) :
    Notes (noteValue path v) (ofValue v) (ignoredInHelper path v) := by
  have hdraft := notes_noteGroup HelperDraft.laws.toReads
    (fun _ name _ v => .lift (HelperDraft.read name v)) path .helper HelperDraft.put .blank v
  rw [Helper.ofValue_eq, ← List.append_nil (ignoredInHelper path v)]
  exact hdraft.bind fun d => .lift (d.finish v)

theorem notes_noteHelpers (path : Path) (v : Value) :
    Notes (noteHelpers path v) (readHelpers v) (ignoredInHelpers path v) := by
  cases v with
  | array items =>
      -- the plain reading has no use for the positions that the notes need
      have hitems := Notes.mapM items.zipIdx fun e _ =>
        Helper.notes_noteValue (path ++ [.index e.2]) e.1
      have hread : items.zipIdx.mapM (fun e => Helper.ofValue e.1) = items.mapM Helper.ofValue := by
        conv => rhs; rw [← List.zipIdx_map_fst 0 items, List.mapM_map]
        rfl
      have hpaths : ignoredInHelpers path (.array items) =
          items.zipIdx.flatMap fun e => ignoredInHelper (path ++ [.index e.2]) e.1 := by
        show (items.mapIdx _).flatten = _
        rw [List.mapIdx_eq_zipIdx_map, List.flatMap_def]
      rw [hread] at hitems
      rw [hpaths]
      exact hitems
  | _ => exact .throw _

theorem SugarSettings.notes_noteValue (path : Path) (v : Value) :
    Notes (noteValue path v) (ofValue v) (ignoredInSugar path v) := by
  refine notes_noteGroup laws.toReads (fun path name _ w => ?_) path .sugar put standard v
  unfold noteField
  by_cases hbuiltins : name = "builtins"
  · subst hbuiltins
    exact (notes_noteHelpers path w).map _
  · rw [if_neg hbuiltins, if_neg hbuiltins]
    exact .lift _

theorem LoggingSettings.notes_noteValue (path : Path) (v : Value) :
    Notes (noteValue path v) (ofValue v) (ignoredInLogging path v) :=
  notes_noteGroup laws.toReads (fun _ name _ w => .lift (read name w)) path .logging put standard v

/-- **Noting changes nothing about what is read.** The reading of a document with notes gives the
    settings that the plain one gives, or fails for the same cause, and it notes the paths of the
    unknown entries. -/
theorem Settings.notes_noteEntries (es : Entries) :
    Notes (noteEntries es) (ofEntries es) (ignoredPaths es) := by
  refine notes_noteSlots laws.toReads (fun path name hname v => ?_) [] put standard (tableSlots es)
  unfold noteField
  by_cases hsugar : name = "sugar"
  · subst hsugar
    exact (SugarSettings.notes_noteValue path v).map _
  · have hlogging : name = "logging" := by simpa [names, hsugar] using hname
    subst hlogging
    exact (LoggingSettings.notes_noteValue path v).map _

/-- Whatever was noted before, the reading with notes is the plain one once its notes are
    dropped. -/
theorem Settings.erased_noteEntries (es : Entries) (noted : List Path) :
    (noteEntries es).run' noted = ofEntries es :=
  (notes_noteEntries es).erased noted

/-! ## Checked loads -/

/-- A checked load of a document is a plain one with the unknown keys and the findings beside it. -/
theorem Loaded.ofEntries_eq (es : Entries) :
    Loaded.ofEntries es =
      (Settings.ofEntries es).map fun settings =>
        ⟨settings, unknownKeys es, settings.validate⟩ := by
  unfold Loaded.ofEntries
  rw [Settings.notes_noteEntries es []]
  cases Settings.ofEntries es <;> rfl

end Desugar
