import Mathlib.Data.List.Forall2
import Desugar.Config.Shape

/-!
# Reading a group of settings

The document, the names that are looked for, each helper and logging are groups of settings. They
are read in the same way: entry by entry in the order they have, each into the setting that its name
gives. This module takes the reading apart at its first entry and states what the four groups have
in common, so that a statement about documents is proved once for any group.

## Contents

* `readSlots_cons_of_ok`, `readSlots_cons_of_error` — the first entry, then the others.
* `readGroup` — a group from a value, and the groups as its instances.
* `Slot.Related` — entries with related values, and where tables and arrays have them.
* `Reads`, `GroupLaws` — what a group makes of the names of its entries; `HelperDraft.laws`,
  `SugarSettings.laws`, `LoggingSettings.laws`, `Settings.laws`.
-/

namespace Desugar

open Toml (Value Entries)

/-! ## Entry by entry -/

section
variable {α φ : Type} {read : String → Value → Reading (Option φ)} {put : α → φ → α} {a : α}
  {s : Slot} {slots : List Slot}

@[simp]
theorem readSlots_nil : readSlots read put a [] = .ok a := rfl

/-- What the first entry gives is put into the group before the others are read. -/
theorem readSlots_cons_of_ok {field : Option φ} (h : read s.name s.value = .ok field) :
    readSlots read put a (s :: slots) = readSlots read put (field.elim a (put a)) slots := by
  unfold readSlots
  rw [List.mapM_cons, h]
  cases slots.mapM fun s => read s.name s.value with
  | error cause => rfl
  | ok fields => cases field <;> rfl

/-- If the first entry is of a wrong shape, the others are not read. -/
theorem readSlots_cons_of_error {cause : ShapeError} (h : read s.name s.value = .error cause) :
    readSlots read put a (s :: slots) = .error cause := by
  unfold readSlots
  rw [List.mapM_cons, h]
  rfl

end

/-! ## Groups -/

/-- A group of settings from a value, starting with the settings `a`. -/
def readGroup {α φ : Type} (names : List String) (expected : Expected)
    (read : String → Value → Reading (Option φ)) (put : α → φ → α) (a : α) (v : Value) :
    Reading α :=
  match slots? names v with
  | none => .error (.wrongType v expected)
  | some slots => readSlots read put a slots

theorem Helper.ofValue_eq (v : Value) :
    Helper.ofValue v =
      readGroup HelperDraft.names .helper HelperDraft.read HelperDraft.put .blank v >>=
        HelperDraft.finish v := by
  unfold Helper.ofValue readGroup
  cases slots? HelperDraft.names v with
  | none => rfl
  | some slots => rfl

/-! ## Entries with related values -/

/-- Two entries of a group that are reached alike, under one name, with related values. -/
structure Slot.Related (R : Value → Value → Prop) (s t : Slot) : Prop where
  step : s.step = t.step
  name : s.name = t.name
  value : R s.value t.value

section
variable {R : Value → Value → Prop}

theorem tableSlots_related {es es' : Entries} (hkeys : es.map Prod.fst = es'.map Prod.fst)
    (hvalues : List.Forall₂ R (es.map Prod.snd) (es'.map Prod.snd)) :
    List.Forall₂ (Slot.Related R) (tableSlots es) (tableSlots es') := by
  induction es generalizing es' with
  | nil =>
      cases es' with
      | nil => exact .nil
      | cons f es' => exact absurd hkeys (by simp)
  | cons e es ih =>
      cases es' with
      | nil => exact absurd hkeys (by simp)
      | cons f es' =>
          obtain ⟨hkey, hkeys⟩ := List.cons.inj hkeys
          obtain ⟨hvalue, hvalues⟩ := List.forall₂_cons.mp hvalues
          exact .cons ⟨congrArg PathStep.key hkey, hkey, hvalue⟩ (ih hkeys hvalues)

theorem arraySlots_related (names : List String) {items items' : List Value}
    (h : List.Forall₂ R items items') :
    List.Forall₂ (Slot.Related R) (arraySlots names items) (arraySlots names items') := by
  obtain ⟨hlength, hvalues⟩ := List.forall₂_iff_get.mp h
  refine List.forall₂_iff_get.mpr ⟨by simp [arraySlots, hlength], fun i hi hi' => ?_⟩
  have hitem : i < items.length := by simp [arraySlots] at hi; omega
  have hitem' : i < items'.length := by simp [arraySlots] at hi'; omega
  have hvalue := hvalues i hitem hitem'
  constructor
  · simp [arraySlots]
  · simp [arraySlots]
  · simpa [arraySlots] using hvalue

end

/-! ## Names of entries -/

/-- What the reading of an entry makes of its name. -/
structure Reads {φ : Type} (names : List String) (read : String → Value → Reading (Option φ))
    (setting : φ → String) : Prop where
  /-- An entry with another name gives nothing, whatever its value is. -/
  unknown : ∀ name v, name ∉ names → read name v = .ok none
  /-- What an entry gives is the setting of its name. -/
  named : ∀ name v field, read name v = .ok (some field) → setting field = name

namespace Reads

variable {φ β : Type} {setting : φ → String}

theorem nothing : Reads [] (fun _ _ => .ok none) setting where
  unknown := fun _ _ _ => rfl
  named := by
    intro name v field h
    exact absurd h (by simp)

/-- One more name, before the others are tried. -/
theorem branch {names : List String} {rest : String → Value → Reading (Option φ)} {key : String}
    {value : Value → Reading β} {make : β → φ} (hmake : ∀ b, setting (make b) = key)
    (h : Reads names rest setting) :
    Reads (key :: names)
      (fun name v =>
        if name = key then (value v).map fun b => some (make b) else rest name v) setting where
  unknown := by
    intro name v hname
    have hkey : name ≠ key := fun heq => hname (heq ▸ List.mem_cons_self)
    rw [if_neg hkey]
    exact h.unknown name v fun hmem => hname (List.mem_cons_of_mem key hmem)
  named := by
    intro name v field hread
    by_cases hkey : name = key
    · rw [if_pos hkey] at hread
      cases hvalue : value v with
      | error cause =>
          rw [hvalue] at hread
          exact absurd hread (by simp [Except.map])
      | ok b =>
          rw [hvalue] at hread
          obtain rfl : make b = field := Option.some.inj (Except.ok.inj hread)
          exact (hmake b).trans hkey.symm
    · rw [if_neg hkey] at hread
      exact h.named name v field hread

end Reads

/-- What a group makes of its entries. -/
structure GroupLaws {α φ : Type} (names : List String)
    (read : String → Value → Reading (Option φ)) (put : α → φ → α) (setting : φ → String) : Prop
    extends Reads names read setting where
  /-- No name is given twice. -/
  nodup : names.Nodup
  /-- Two settings can be put in either order. -/
  comm : ∀ a f g, setting f ≠ setting g → put (put a f) g = put (put a g) f

/-- The name of the setting that a field gives. -/
def HelperField.setting : HelperField → String
  | .name _ => "name"
  | .minArgs _ => "min_args"
  | .maxArgs _ => "max_args"

theorem HelperDraft.laws : GroupLaws names read put HelperField.setting where
  toReads := .branch (fun _ => rfl) (.branch (fun _ => rfl) (.branch (fun _ => rfl) .nothing))
  nodup := by decide
  comm := by
    intro d f g h
    cases f <;> cases g <;> simp_all [put, HelperField.setting]

/-- The name of the setting that a field gives. -/
def SugarField.setting : SugarField → String
  | .specificationType _ => "specification_type"
  | .placeholder _ => "placeholder"
  | .helpers _ => "builtins"

theorem SugarSettings.laws : GroupLaws names read put SugarField.setting where
  toReads := .branch (fun _ => rfl) (.branch (fun _ => rfl) (.branch (fun _ => rfl) .nothing))
  nodup := by decide
  comm := by
    intro s f g h
    cases f <;> cases g <;> simp_all [put, SugarField.setting]

/-- The name of the setting that a field gives. -/
def LoggingField.setting : LoggingField → String
  | .level _ => "level"
  | .json _ => "json"
  | .stderr _ => "stderr"

theorem LoggingSettings.laws : GroupLaws names read put LoggingField.setting where
  toReads := .branch (fun _ => rfl) (.branch (fun _ => rfl) (.branch (fun _ => rfl) .nothing))
  nodup := by decide
  comm := by
    intro s f g h
    cases f <;> cases g <;> simp_all [put, LoggingField.setting]

/-- The name of the group that a field gives. -/
def SettingsField.setting : SettingsField → String
  | .sugar _ => "sugar"
  | .logging _ => "logging"

theorem Settings.laws : GroupLaws names read put SettingsField.setting where
  toReads := .branch (fun _ => rfl) (.branch (fun _ => rfl) .nothing)
  nodup := by decide
  comm := by
    intro s f g h
    cases f <;> cases g <;> simp_all [put, SettingsField.setting]

end Desugar
