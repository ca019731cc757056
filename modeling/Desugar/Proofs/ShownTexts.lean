import Desugar.Proofs.QuotedText
import Desugar.Proofs.UnknownEntries

/-!
# What a failed load shows of a document

A load that fails for the shape of a document tells what was found and what was expected there. Most
of what it tells is the form of the document: the kind of a value, or a key that is missing. A
number or a truth value is told as well, and so is a string, if it stands where something else is
expected. This module compares the loads of two documents that differ only in their strings. They
fail at the same place for the same cause, and the texts of the two failures differ exactly when the
place holds two different strings.

## Contents

* `Toml.Value.SameForm`, `ShapeError.SameForm` — what differs in strings only.
* `ShapeError.shownText?`, `ShapeError.message_eq_iff` — the string in the text of a failure.
* `FailsAlike`, `ReadsForms` — readings that fail at the same place for the same cause.
* `readSlots_failsAlike`, `readGroup_readsForms` — a group is read so if its settings are.
* `Settings.loadFailures_differ_iff` — the loads of two such documents.
-/

namespace Desugar

open Toml (Value Entries)

/-! ## Documents of one form -/

/-- Two values that differ at most in the contents of strings, at any depth: they have the same keys
    in the same order, and any other scalar is the same in both. -/
inductive Toml.Value.SameForm : Value → Value → Prop
  | string (s s' : String) : SameForm (.string s) (.string s')
  | same (v : Value) : SameForm v v
  | array {items items' : List Value} : List.Forall₂ SameForm items items' →
      SameForm (.array items) (.array items')
  | table {es es' : Entries} : es.map Prod.fst = es'.map Prod.fst →
      List.Forall₂ SameForm (es.map Prod.snd) (es'.map Prod.snd) →
      SameForm (.table es) (.table es')

open Toml.Value (SameForm)

/-- Two causes of failure that differ at most in the contents of strings. -/
inductive ShapeError.SameForm : ShapeError → ShapeError → Prop
  | wrongType {v v' : Value} (expected : Expected) : Value.SameForm v v' →
      SameForm (.wrongType v expected) (.wrongType v' expected)
  | same (e : ShapeError) : SameForm e e

/-- The string of the document that the text of a failure shows: one that stands where something
    else is expected. -/
def ShapeError.shownText? : ShapeError → Option String
  | .wrongType (.string s) _ => some s
  | _ => none

/-- The string of the document that the text of a failed load shows. -/
def LoadError.shownText? : LoadError → Option String
  | .wrongShape e => e.shownText?
  | _ => none

/-- The text for a string in a wrong place tells which string it is. -/
theorem ShapeError.message_string_inj {s s' : String} {expected : Expected} :
    (ShapeError.wrongType (.string s) expected).message =
      (ShapeError.wrongType (.string s') expected).message ↔ s = s' := by
  constructor
  · intro h
    have hquote :
        "invalid type: " ++ ("string " ++ Text.quote s) ++ ", expected " ++ expected.words =
          "invalid type: " ++ ("string " ++ Text.quote s') ++ ", expected " ++ expected.words := h
    rw [String.append_left_inj, String.append_left_inj, String.append_right_inj,
      String.append_right_inj] at hquote
    exact Text.quote_injective hquote
  · rintro rfl
    rfl

theorem ShapeError.isSome_shownText? {e e' : ShapeError} (h : e.SameForm e') :
    e.shownText?.isSome = e'.shownText?.isSome := by
  cases h with
  | same e => rfl
  | wrongType expected hv => cases hv <;> rfl

/-- **Of two causes that differ in strings only**, the texts differ exactly if they show different
    strings. -/
theorem ShapeError.message_eq_iff {e e' : ShapeError} (h : e.SameForm e') :
    e.message = e'.message ↔ e.shownText? = e'.shownText? := by
  cases h with
  | same e => exact iff_of_true rfl rfl
  | wrongType expected hv =>
      cases hv with
      | string s s' =>
          show _ ↔ some s = some s'
          rw [message_string_inj, Option.some_inj]
      | same v => exact iff_of_true rfl rfl
      | array hitems => exact iff_of_true rfl rfl
      | table hkeys hvalues => exact iff_of_true rfl rfl

/-! ## Readings of one form -/

/-- Both readings give something, or they fail for causes that differ in strings only. What they
    give is related by `R`. -/
inductive FailsAlike {α : Type} (R : α → α → Prop) : Reading α → Reading α → Prop
  | ok {a a' : α} : R a a' → FailsAlike R (.ok a) (.ok a')
  | error {e e' : ShapeError} : e.SameForm e' → FailsAlike R (.error e) (.error e')

namespace FailsAlike

variable {α β : Type} {R : α → α → Prop} {S : β → β → Prop} {x x' : Reading α}

theorem refl (hR : ∀ a, R a a) (x : Reading α) : FailsAlike R x x := by
  cases x with
  | ok a => exact .ok (hR a)
  | error e => exact .error (.same e)

theorem bind (h : FailsAlike R x x') {f f' : α → Reading β}
    (hf : ∀ a a', R a a' → FailsAlike S (f a) (f' a')) : FailsAlike S (x >>= f) (x' >>= f') := by
  cases h with
  | ok ha => exact hf _ _ ha
  | error he => exact .error he

theorem map (h : FailsAlike R x x') {f f' : α → β} (hf : ∀ a a', R a a' → S (f a) (f' a')) :
    FailsAlike S (x.map f) (x'.map f') := by
  cases h with
  | ok ha => exact .ok (hf _ _ ha)
  | error he => exact .error he

end FailsAlike

/-- Something is read from values of one form so that it fails alike. -/
def ReadsForms {β : Type} (R : β → β → Prop) (value : Value → Reading β) : Prop :=
  ∀ v v', SameForm v v' → FailsAlike R (value v) (value v')

/-- No relation at all between what two readings give. -/
abbrev Unrelated {β : Type} : β → β → Prop := fun _ _ => True

/-- Both are there, with whatever content, or neither is. -/
def BothPresent {φ : Type} (f g : Option φ) : Prop := f.isSome = g.isSome

/-- However a group is written, strings change nothing but the values of its entries. -/
theorem slots?_sameForm (names : List String) {v v' : Value} (h : SameForm v v') :
    Option.Rel (List.Forall₂ (Slot.Related SameForm)) (slots? names v) (slots? names v') := by
  cases h with
  | string s s' => exact .none
  | same v =>
      cases slots? names v with
      | none => exact .none
      | some slots => exact .some (List.forall₂_same.mpr fun s _ => ⟨rfl, rfl, .same _⟩)
  | array hitems => exact .some (arraySlots_related names hitems)
  | table hkeys hvalues => exact .some (tableSlots_related hkeys hvalues)

section
variable {α φ : Type} {names : List String} {read : String → Value → Reading (Option φ)}
  {put : α → φ → α} {setting : φ → String} {R : α → α → Prop}

/-- **Groups fail alike** if their settings do. By induction over the entries: up to the first
    failure both groups are given the same settings, and `R` is what these leave in common. -/
theorem readSlots_failsAlike (hreads : Reads names read setting)
    (hput : ∀ a a' f f', R a a' → setting f = setting f' → R (put a f) (put a' f'))
    (hread : ∀ name, ReadsForms BothPresent (read name)) {slots slots' : List Slot}
    (h : List.Forall₂ (Slot.Related SameForm) slots slots') {a a' : α} (ha : R a a') :
    FailsAlike R (readSlots read put a slots) (readSlots read put a' slots') := by
  induction h generalizing a a' with
  | nil => exact .ok ha
  | @cons s t slots slots' hst hrest ih =>
      have hfirst : FailsAlike BothPresent (read s.name s.value) (read t.name t.value) := by
        rw [← hst.name]
        exact hread s.name _ _ hst.value
      generalize hx : read s.name s.value = x at hfirst
      generalize hx' : read t.name t.value = x' at hfirst
      cases hfirst with
      | error he =>
          rw [readSlots_cons_of_error hx, readSlots_cons_of_error hx']
          exact .error he
      | @ok f f' hfields =>
          rw [readSlots_cons_of_ok hx, readSlots_cons_of_ok hx']
          refine ih ?_
          cases f with
          | none =>
              cases f' with
              | none => exact ha
              | some f' => exact absurd hfields (by simp [BothPresent])
          | some f =>
              cases f' with
              | none => exact absurd hfields (by simp [BothPresent])
              | some f' =>
                  -- what an entry gives is the setting of its name, and the names are the same
                  have hsetting : setting f = setting f' := by
                    rw [hreads.named _ _ _ hx, hreads.named _ _ _ hx', hst.name]
                  exact hput a a' f f' ha hsetting

theorem readGroup_readsForms (hreads : Reads names read setting)
    (hput : ∀ a a' f f', R a a' → setting f = setting f' → R (put a f) (put a' f'))
    (hread : ∀ name, ReadsForms BothPresent (read name)) (expected : Expected) {a : α}
    (ha : R a a) : ReadsForms R (readGroup names expected read put a) := by
  intro v v' h
  have hslots := slots?_sameForm names h
  unfold readGroup
  generalize slots? names v = x at hslots ⊢
  generalize slots? names v' = x' at hslots ⊢
  cases hslots with
  | none => exact .error (.wrongType expected h)
  | some hslots => exact readSlots_failsAlike hreads hput hread hslots ha

end

/-! ### The groups -/

namespace ReadsForms

theorem readString : ReadsForms Unrelated Desugar.readString := by
  intro v v' h
  cases h with
  | string s s' => exact .ok trivial
  | same v => exact .refl (fun _ => trivial) _
  | array hitems => exact .error (.wrongType _ (.array hitems))
  | table hkeys hvalues => exact .error (.wrongType _ (.table hkeys hvalues))

variable {β φ : Type}

/-- A reading that fails on strings, arrays and tables, and tells what it found, fails alike: only
    these differ between values of one form. -/
theorem scalar {value : Value → Reading β} {expected : Expected}
    (hstring : ∀ s, value (.string s) = .error (.wrongType (.string s) expected))
    (harray : ∀ items, value (.array items) = .error (.wrongType (.array items) expected))
    (htable : ∀ es, value (.table es) = .error (.wrongType (.table es) expected)) :
    ReadsForms Unrelated value := by
  intro v v' h
  cases h with
  | string s s' =>
      rw [hstring, hstring]
      exact .error (.wrongType expected (.string s s'))
  | same v => exact .refl (fun _ => trivial) _
  | array hitems =>
      rw [harray, harray]
      exact .error (.wrongType expected (.array hitems))
  | table hkeys hvalues =>
      rw [htable, htable]
      exact .error (.wrongType expected (.table hkeys hvalues))

theorem readBool : ReadsForms Unrelated Desugar.readBool :=
  scalar (fun _ => rfl) (fun _ => rfl) (fun _ => rfl)

theorem readCount : ReadsForms Unrelated Desugar.readCount :=
  scalar (fun _ => rfl) (fun _ => rfl) (fun _ => rfl)

theorem nothing (_ : String) : ReadsForms BothPresent fun _ => (.ok none : Reading (Option φ)) :=
  fun _ _ _ => .ok rfl

/-- One more name, before the others are tried. -/
theorem branch {key : String} {value : Value → Reading β} {make : β → φ}
    {rest : String → Value → Reading (Option φ)} (hvalue : ReadsForms Unrelated value)
    (hrest : ∀ name, ReadsForms BothPresent (rest name)) (name : String) :
    ReadsForms BothPresent fun v =>
      if name = key then (value v).map fun b => some (make b) else rest name v := by
  intro v v' h
  by_cases hname : name = key
  · simp only [if_pos hname]
    exact (hvalue v v' h).map fun _ _ _ => rfl
  · simp only [if_neg hname]
    exact hrest name v v' h

theorem helperField (name : String) : ReadsForms BothPresent (HelperDraft.read name) :=
  branch readString (branch readCount (branch readCount nothing)) name

/-- Of two drafts both have a name or neither has; the settings that were read decide it. -/
theorem draft : ReadsForms (fun d d' => BothPresent d.name d'.name)
    (readGroup HelperDraft.names .helper HelperDraft.read HelperDraft.put .blank) := by
  refine readGroup_readsForms HelperDraft.laws.toReads (fun d d' f f' hd hf => ?_) helperField
    .helper rfl
  cases f <;> cases f' <;>
    simp_all [HelperField.setting, HelperDraft.put, BothPresent]

theorem helper : ReadsForms Unrelated Helper.ofValue := by
  intro v v' h
  -- what is said of a missing name depends on how the helper is written, not on its strings
  have hnameless : HelperDraft.nameless v = HelperDraft.nameless v' := by
    cases h <;> rfl
  rw [Helper.ofValue_eq, Helper.ofValue_eq]
  refine (draft v v' h).bind fun d d' hd => ?_
  unfold HelperDraft.finish
  generalize d.name = name at hd
  generalize d'.name = name' at hd
  cases name with
  | none =>
      cases name' with
      | none => rw [hnameless]; exact .error (.same _)
      | some name' => exact absurd hd (by simp [BothPresent])
  | some name =>
      cases name' with
      | none => exact absurd hd (by simp [BothPresent])
      | some name' => exact .ok trivial

theorem helpers : ReadsForms Unrelated readHelpers := by
  intro v v' h
  cases h with
  | string s s' => exact .error (.wrongType _ (.string s s'))
  | same v => exact .refl (fun _ => trivial) _
  | table hkeys hvalues => exact .error (.wrongType _ (.table hkeys hvalues))
  | @array items items' hitems =>
      show FailsAlike _ (items.mapM Helper.ofValue) (items'.mapM Helper.ofValue)
      induction hitems with
      | nil => exact .ok trivial
      | cons hw hrest ih =>
          rw [List.mapM_cons, List.mapM_cons]
          refine (helper _ _ hw).bind fun g g' _ => ih.bind fun gs gs' _ => ?_
          exact .ok trivial

theorem sugarField (name : String) : ReadsForms BothPresent (SugarSettings.read name) :=
  branch readString (branch readString (branch helpers nothing)) name

theorem loggingField (name : String) : ReadsForms BothPresent (LoggingSettings.read name) :=
  branch readString (branch readBool (branch readBool nothing)) name

theorem sugar : ReadsForms Unrelated SugarSettings.ofValue :=
  readGroup_readsForms SugarSettings.laws.toReads (fun _ _ _ _ _ _ => trivial) sugarField .sugar
    trivial

theorem logging : ReadsForms Unrelated LoggingSettings.ofValue :=
  readGroup_readsForms LoggingSettings.laws.toReads (fun _ _ _ _ _ _ => trivial) loggingField
    .logging trivial

theorem settingsField (name : String) : ReadsForms BothPresent (Settings.read name) :=
  branch sugar (branch logging nothing) name

end ReadsForms

/-- **The settings of documents of one form fail alike.** -/
theorem Settings.ofEntries_failsAlike {es es' : Entries} (h : SameForm (.table es) (.table es')) :
    FailsAlike Unrelated (Settings.ofEntries es) (Settings.ofEntries es') := by
  have hslots : List.Forall₂ (Slot.Related SameForm) (tableSlots es) (tableSlots es') := by
    cases slots?_sameForm Settings.names h with
    | some hslots => exact hslots
  exact readSlots_failsAlike Settings.laws.toReads (fun _ _ _ _ _ _ => trivial)
    ReadsForms.settingsField hslots trivial

/-! ## The loads of two documents -/

/-- **What a failed load shows.** Two documents that differ only in the contents of strings both
    load or both fail. Of the two failures both show a string or neither does, and their texts are
    the same exactly if they show the same: the one string that both documents have where something
    else is expected, or none. -/
theorem Settings.loadFailures_differ_iff {text text' : String} {es es' : Entries}
    (hparse : Toml.parse? text = some es) (hparse' : Toml.parse? text' = some es')
    (h : SameForm (.table es) (.table es')) :
    ((∃ cause, Settings.load text = .error cause) ↔
      ∃ cause', Settings.load text' = .error cause') ∧
    ∀ cause cause', Settings.load text = .error cause → Settings.load text' = .error cause' →
      cause.shownText?.isSome = cause'.shownText?.isSome ∧
        (cause.message = cause'.message ↔ cause.shownText? = cause'.shownText?) := by
  have hread := Settings.ofEntries_failsAlike h
  unfold Settings.load
  rw [loadWith_of_parse? _ hparse, loadWith_of_parse? _ hparse']
  generalize Settings.ofEntries es = x at hread ⊢
  generalize Settings.ofEntries es' = x' at hread ⊢
  cases hread with
  | ok _ => simp [Except.mapError]
  | @error e e' he =>
      refine ⟨iff_of_true ⟨_, rfl⟩ ⟨_, rfl⟩, fun cause cause' hcause hcause' => ?_⟩
      obtain rfl := Except.error.inj hcause
      obtain rfl := Except.error.inj hcause'
      refine ⟨ShapeError.isSome_shownText? he, ?_⟩
      show "failed to parse toml config: " ++ e.message =
          "failed to parse toml config: " ++ e'.message ↔ e.shownText? = e'.shownText?
      rw [String.append_right_inj]
      exact ShapeError.message_eq_iff he

/-- Two texts with different placeholders and the same truth value where a number is expected: both
    fail, with the same text. -/
theorem Settings.loadFailures_differ_iff_of_boolean :
    ∃ cause cause',
      Settings.load "[sugar]\nplaceholder = \"a\"\n[[sugar.builtins]]\nmin_args = true\n" =
        .error cause ∧
      Settings.load "[sugar]\nplaceholder = \"b\"\n[[sugar.builtins]]\nmin_args = true\n" =
        .error cause' ∧
      cause.message = cause'.message := by
  have hparse : Toml.parse? "[sugar]\nplaceholder = \"a\"\n[[sugar.builtins]]\nmin_args = true\n" =
      some [("sugar", .table [("placeholder", .string "a"),
        ("builtins", .array [.table [("min_args", .boolean true)]])])] := by
    decide +kernel
  have hparse' : Toml.parse? "[sugar]\nplaceholder = \"b\"\n[[sugar.builtins]]\nmin_args = true\n" =
      some [("sugar", .table [("placeholder", .string "b"),
        ("builtins", .array [.table [("min_args", .boolean true)]])])] := by
    decide +kernel
  have hload : Settings.load
      "[sugar]\nplaceholder = \"a\"\n[[sugar.builtins]]\nmin_args = true\n" =
        .error (.wrongShape (.wrongType (.boolean true) .count)) := by
    rw [Settings.load, loadWith_of_parse? _ hparse]
    rfl
  have hload' : Settings.load
      "[sugar]\nplaceholder = \"b\"\n[[sugar.builtins]]\nmin_args = true\n" =
        .error (.wrongShape (.wrongType (.boolean true) .count)) := by
    rw [Settings.load, loadWith_of_parse? _ hparse']
    rfl
  have hform : SameForm
      (.table [("sugar", .table [("placeholder", .string "a"),
        ("builtins", .array [.table [("min_args", .boolean true)]])])])
      (.table [("sugar", .table [("placeholder", .string "b"),
        ("builtins", .array [.table [("min_args", .boolean true)]])])]) :=
    .table rfl (.cons (.table rfl (.cons (.string "a" "b") (.cons (.same _) .nil))) .nil)
  refine ⟨_, _, hload, hload', ?_⟩
  exact ((Settings.loadFailures_differ_iff hparse hparse' hform).2 _ _ hload hload').2.mpr rfl

/-- **A failed load gives a string away.** Two texts that differ only in the string which stands for
    a truth value: both fail, and each failure quotes its own string. -/
theorem Settings.failed_load_shows_string :
    Toml.parse? "[logging]\njson = \"secret\"\n" =
        some [("logging", .table [("json", .string "secret")])] ∧
      Toml.parse? "[logging]\njson = \"\"\n" =
        some [("logging", .table [("json", .string "")])] ∧
      SameForm (.table [("logging", .table [("json", .string "secret")])])
        (.table [("logging", .table [("json", .string "")])]) ∧
      ∃ cause cause', Settings.load "[logging]\njson = \"secret\"\n" = .error cause ∧
        Settings.load "[logging]\njson = \"\"\n" = .error cause' ∧
        cause.message =
          "failed to parse toml config: invalid type: string \"secret\", expected a boolean" ∧
        cause'.message =
          "failed to parse toml config: invalid type: string \"\", expected a boolean" ∧
        cause.message ≠ cause'.message := by
  have hparse : Toml.parse? "[logging]\njson = \"secret\"\n" =
      some [("logging", .table [("json", .string "secret")])] := by
    decide +kernel
  have hparse' : Toml.parse? "[logging]\njson = \"\"\n" =
      some [("logging", .table [("json", .string "")])] := by
    decide +kernel
  have hload : Settings.load "[logging]\njson = \"secret\"\n" =
      .error (.wrongShape (.wrongType (.string "secret") .boolean)) := by
    rw [Settings.load, loadWith_of_parse? _ hparse]
    rfl
  have hload' : Settings.load "[logging]\njson = \"\"\n" =
      .error (.wrongShape (.wrongType (.string "") .boolean)) := by
    rw [Settings.load, loadWith_of_parse? _ hparse']
    rfl
  have hmessage : (LoadError.wrongShape (.wrongType (.string "secret") .boolean)).message =
      "failed to parse toml config: invalid type: string \"secret\", expected a boolean" := by
    decide +kernel
  have hmessage' : (LoadError.wrongShape (.wrongType (.string "") .boolean)).message =
      "failed to parse toml config: invalid type: string \"\", expected a boolean" := by
    decide +kernel
  refine ⟨hparse, hparse', .table rfl (.cons (.table rfl (.cons (.string _ _) .nil)) .nil), _, _,
    hload, hload', hmessage, hmessage', ?_⟩
  rw [hmessage, hmessage']
  decide

end Desugar
