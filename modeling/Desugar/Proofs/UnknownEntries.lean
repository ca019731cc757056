import Desugar.Proofs.Noting

/-!
# Unknown entries do not matter

A document may hold entries that no setting is read from: in its root, in a group of settings, in a
helper. This module removes them and compares the loads of the two documents. The plain load and the
checked one give the same settings or fail for the same cause, on either document, wherever in the
order of its entries that cause is found.

## Contents

* `keepNamed`, `knownEntries` — a document without its unknown entries.
* `readSlots_keepNamed`, `readGroup_keepInGroup` — a group is read as before.
* `Settings.ofEntries_knownEntries` — so are the settings of a document.
* `ignoredPaths_knownEntries` — nothing unknown is left.
* `SameLoads`, `unknownEntries_unseen` — the loads of a document and of its known entries.
-/

namespace Desugar

open Toml (Value Entries)

/-! ## Removing unknown entries -/

/-- The entries with one of the given names, with `inside` applied to their values. -/
def keepNamed (names : List String) (inside : String → Value → Value) (es : Entries) : Entries :=
  (es.filter fun e => decide (e.1 ∈ names)).map fun e => (e.1, inside e.1 e.2)

/-- The same for a group of settings that is written as a table. -/
def keepInGroup (names : List String) (inside : String → Value → Value) : Value → Value
  | .table es => .table (keepNamed names inside es)
  | v => v

/-- A helper without its unknown entries. -/
def knownInHelper : Value → Value := keepInGroup HelperDraft.names fun _ v => v

/-- A list of helpers without their unknown entries. -/
def knownInHelpers : Value → Value
  | .array items => .array (items.map knownInHelper)
  | v => v

/-- The names that are looked for, without unknown entries. -/
def knownInSugar : Value → Value :=
  keepInGroup SugarSettings.names fun name v => if name = "builtins" then knownInHelpers v else v

/-- The settings of logging without unknown entries. -/
def knownInLogging : Value → Value := keepInGroup LoggingSettings.names fun _ v => v

/-- A document without its unknown entries. -/
def knownEntries (es : Entries) : Entries :=
  keepNamed Settings.names
    (fun name v => if name = "sugar" then knownInSugar v else knownInLogging v) es

section
variable {names : List String} {inside : String → Value → Value} {e : String × Value}
  {es : Entries}

theorem keepNamed_cons_of_mem (h : e.1 ∈ names) :
    keepNamed names inside (e :: es) = (e.1, inside e.1 e.2) :: keepNamed names inside es := by
  unfold keepNamed
  rw [List.filter_cons_of_pos (by simpa using h), List.map_cons]

theorem keepNamed_cons_of_not_mem (h : e.1 ∉ names) :
    keepNamed names inside (e :: es) = keepNamed names inside es := by
  unfold keepNamed
  rw [List.filter_cons_of_neg (by simpa using h)]

end

/-! ## What is read -/

section
variable {α φ : Type} {names : List String} {read : String → Value → Reading (Option φ)}
  {put : α → φ → α} {setting : φ → String} {inside : String → Value → Value}

/-- Unknown entries are passed over. By induction over the entries: a failure is found at the same
    known entry, and everything before it has given the same settings. -/
theorem readSlots_keepNamed (hlaws : GroupLaws names read put setting)
    (hinside : ∀ name v, read name (inside name v) = read name v) (a : α) (es : Entries) :
    readSlots read put a (tableSlots (keepNamed names inside es)) =
      readSlots read put a (tableSlots es) := by
  induction es generalizing a with
  | nil => rfl
  | cons e es ih =>
      by_cases hknown : e.1 ∈ names
      · rw [keepNamed_cons_of_mem hknown]
        show readSlots read put a
            (⟨.key e.1, e.1, inside e.1 e.2⟩ :: tableSlots (keepNamed names inside es)) =
          readSlots read put a (⟨.key e.1, e.1, e.2⟩ :: tableSlots es)
        cases hread : read e.1 e.2 with
        | error cause =>
            have hkept : read e.1 (inside e.1 e.2) = .error cause := (hinside e.1 e.2).trans hread
            rw [readSlots_cons_of_error hkept, readSlots_cons_of_error hread]
        | ok field =>
            have hkept : read e.1 (inside e.1 e.2) = .ok field := (hinside e.1 e.2).trans hread
            rw [readSlots_cons_of_ok hkept, readSlots_cons_of_ok hread, ih]
      · have hread : read e.1 e.2 = .ok none := hlaws.unknown e.1 e.2 hknown
        rw [keepNamed_cons_of_not_mem hknown, ih]
        show _ = readSlots read put a (⟨.key e.1, e.1, e.2⟩ :: tableSlots es)
        rw [readSlots_cons_of_ok hread]
        rfl

theorem readGroup_keepInGroup (hlaws : GroupLaws names read put setting)
    (hinside : ∀ name v, read name (inside name v) = read name v) (expected : Expected) (a : α)
    (v : Value) :
    readGroup names expected read put a (keepInGroup names inside v) =
      readGroup names expected read put a v := by
  cases v with
  | table es => exact readSlots_keepNamed hlaws hinside a es
  | _ => rfl

end

theorem Helper.ofValue_knownInHelper (v : Value) :
    Helper.ofValue (knownInHelper v) = Helper.ofValue v := by
  have hfinish : HelperDraft.finish (knownInHelper v) = HelperDraft.finish v := by
    cases v <;> rfl
  rw [Helper.ofValue_eq, Helper.ofValue_eq, hfinish]
  exact congrArg (· >>= HelperDraft.finish v)
    (readGroup_keepInGroup HelperDraft.laws (fun _ _ => rfl) .helper .blank v)

theorem readHelpers_knownInHelpers (v : Value) :
    readHelpers (knownInHelpers v) = readHelpers v := by
  cases v with
  | array items =>
      show (items.map knownInHelper).mapM Helper.ofValue = items.mapM Helper.ofValue
      rw [List.mapM_map]
      exact congrArg (fun read => items.mapM read) (funext Helper.ofValue_knownInHelper)
  | _ => rfl

theorem SugarSettings.ofValue_knownInSugar (v : Value) :
    SugarSettings.ofValue (knownInSugar v) = SugarSettings.ofValue v := by
  refine readGroup_keepInGroup SugarSettings.laws (fun name w => ?_) .sugar .standard v
  by_cases hname : name = "builtins"
  · subst hname
    exact congrArg (fun x : Reading (List Helper) => x.map fun hs => some (SugarField.helpers hs))
      (readHelpers_knownInHelpers w)
  · rw [if_neg hname]

theorem LoggingSettings.ofValue_knownInLogging (v : Value) :
    LoggingSettings.ofValue (knownInLogging v) = LoggingSettings.ofValue v :=
  readGroup_keepInGroup LoggingSettings.laws (fun _ _ => rfl) .logging .standard v

/-- **The settings of a document are those of its known entries**, and so is the cause of
    failure. -/
theorem Settings.ofEntries_knownEntries (es : Entries) :
    Settings.ofEntries (knownEntries es) = Settings.ofEntries es := by
  refine readSlots_keepNamed Settings.laws (fun name v => ?_) .standard es
  by_cases hsugar : name = "sugar"
  · subst hsugar
    exact congrArg (fun x : Reading SugarSettings => x.map fun s => some (SettingsField.sugar s))
      (SugarSettings.ofValue_knownInSugar v)
  · rw [if_neg hsugar]
    by_cases hlogging : name = "logging"
    · subst hlogging
      exact congrArg
        (fun x : Reading LoggingSettings => x.map fun s => some (SettingsField.logging s))
        (LoggingSettings.ofValue_knownInLogging v)
    · have hunknown : name ∉ Settings.names := by simp [Settings.names, hsugar, hlogging]
      rw [Settings.laws.unknown name _ hunknown, Settings.laws.unknown name _ hunknown]

/-! ## What is left -/

/-- Whether a value is a table. -/
def Toml.Value.isTable : Value → Bool
  | .table _ => true
  | _ => false

/-- A document in which the groups of settings, where there are any, are written as tables. -/
structure HasTables (es : Entries) : Prop where
  sugar : ∀ v, ("sugar", v) ∈ es → v.isTable = true
  logging : ∀ v, ("logging", v) ∈ es → v.isTable = true
  helpers : ∀ group items v, ("sugar", .table group) ∈ es → ("builtins", .array items) ∈ group →
    v ∈ items → v.isTable = true

/-- Of kept entries, none is unknown unless it is so further inside. -/
theorem ignoredSlots_keepNamed {names : List String} {inside : String → Value → Value}
    {ignored : Path → String → Value → List Path} {path : Path} {es : Entries}
    (h : ∀ e ∈ es, e.1 ∈ names → ∀ path, ignored path e.1 (inside e.1 e.2) = []) :
    ignoredSlots path names ignored (tableSlots (keepNamed names inside es)) = [] := by
  unfold ignoredSlots
  rw [List.flatMap_eq_nil_iff]
  intro s hs
  obtain ⟨f, hf, rfl⟩ := List.mem_map.mp hs
  obtain ⟨e, he, rfl⟩ := List.mem_map.mp hf
  obtain ⟨hmem, hname⟩ := List.mem_filter.mp he
  have hknown : e.1 ∈ names := by simpa using hname
  show (if e.1 ∈ names then _ else _) = []
  rw [if_pos hknown]
  exact h e hmem hknown _

theorem ignoredInHelper_knownInHelper {v : Value} (h : v.isTable = true) (path : Path) :
    ignoredInHelper path (knownInHelper v) = [] := by
  cases v with
  | table es => exact ignoredSlots_keepNamed fun _ _ _ _ => rfl
  | _ => exact absurd h (by simp [Toml.Value.isTable])

theorem ignoredInLogging_knownInLogging {v : Value} (h : v.isTable = true) (path : Path) :
    ignoredInLogging path (knownInLogging v) = [] := by
  cases v with
  | table es => exact ignoredSlots_keepNamed fun _ _ _ _ => rfl
  | _ => exact absurd h (by simp [Toml.Value.isTable])

theorem ignoredInHelpers_knownInHelpers {v : Value}
    (h : ∀ items, v = .array items → ∀ w ∈ items, w.isTable = true) (path : Path) :
    ignoredInHelpers path (knownInHelpers v) = [] := by
  cases v with
  | array items =>
      show ((items.map knownInHelper).mapIdx fun i w =>
        ignoredInHelper (path ++ [.index i]) w).flatten = []
      rw [List.flatten_eq_nil_iff]
      intro paths hpaths
      obtain ⟨i, hi, rfl⟩ := List.mem_mapIdx.mp hpaths
      rw [List.getElem_map]
      exact ignoredInHelper_knownInHelper (h items rfl _ (List.getElem_mem _)) _
  | _ => rfl

theorem ignoredInSugar_knownInSugar {v : Value} (h : v.isTable = true)
    (hhelpers : ∀ group items w, v = .table group → ("builtins", .array items) ∈ group →
      w ∈ items → w.isTable = true) (path : Path) :
    ignoredInSugar path (knownInSugar v) = [] := by
  cases v with
  | table es =>
      refine ignoredSlots_keepNamed fun e he hname inner => ?_
      by_cases hbuiltins : e.1 = "builtins"
      · simp only [hbuiltins, if_true]
        refine ignoredInHelpers_knownInHelpers (fun items hitems w hw => ?_) inner
        refine hhelpers es items w rfl ?_ hw
        rw [← hbuiltins, ← hitems]
        exact he
      · rw [if_neg hbuiltins]
  | _ => exact absurd h (by simp [Toml.Value.isTable])

/-- **Nothing unknown is left** of a document whose groups are tables. -/
theorem ignoredPaths_knownEntries {es : Entries} (h : HasTables es) :
    ignoredPaths (knownEntries es) = [] := by
  refine ignoredSlots_keepNamed fun e he hname path => ?_
  obtain ⟨name, v⟩ := e
  by_cases hsugar : name = "sugar"
  · subst hsugar
    simp only [if_true]
    refine ignoredInSugar_knownInSugar (h.sugar v he) (fun group items w hv hitems hw => ?_) path
    exact h.helpers group items w (hv ▸ he) hitems hw
  · have hlogging : name = "logging" := by simpa [hsugar] using hname
    subst hlogging
    rw [if_neg hsugar, if_neg hsugar]
    exact ignoredInLogging_knownInLogging (h.logging v he) path

theorem unknownKeys_knownEntries {es : Entries} (h : HasTables es) :
    unknownKeys (knownEntries es) = [] := by
  unfold unknownKeys
  rw [ignoredPaths_knownEntries h]
  rfl

/-! ## The loads of a document -/

/-- The plain and the checked load of a document, and those of its known entries, come to the same:
    the same settings, or the same cause of failure. -/
structure SameLoads {ε : Type} (plain knownPlain : Except ε Settings)
    (checked knownChecked : Except ε Loaded) : Prop where
  plain_eq : knownPlain = plain
  checked_eq : checked.map Loaded.settings = plain
  knownChecked_eq : knownChecked.map Loaded.settings = plain
  /-- Among the known entries none is unknown. -/
  unknownKeys_eq : ∀ loaded, knownChecked = .ok loaded → loaded.diagnostics.unknownKeys = []
  /-- A checked load finds what validation finds, no more and no less. -/
  findings_eq : ∀ loaded, checked = .ok loaded ∨ knownChecked = .ok loaded →
    loaded.diagnostics.findings = loaded.settings.validate

theorem Loaded.settings_ofEntries (es : Entries) :
    (Loaded.ofEntries es).map Loaded.settings = Settings.ofEntries es := by
  rw [Loaded.ofEntries_eq]
  cases Settings.ofEntries es <;> rfl

theorem Loaded.diagnostics_of_ofEntries {es : Entries} {loaded : Loaded}
    (h : Loaded.ofEntries es = .ok loaded) :
    loaded.diagnostics = ⟨unknownKeys es, loaded.settings.validate⟩ := by
  rw [Loaded.ofEntries_eq] at h
  cases hsettings : Settings.ofEntries es with
  | error cause =>
      rw [hsettings] at h
      exact absurd h (by simp [Except.map])
  | ok settings =>
      rw [hsettings] at h
      obtain rfl := Except.ok.inj h
      rfl

theorem sameLoads_ofEntries {es : Entries} (h : HasTables es) :
    SameLoads (Settings.ofEntries es) (Settings.ofEntries (knownEntries es))
      (Loaded.ofEntries es) (Loaded.ofEntries (knownEntries es)) where
  plain_eq := Settings.ofEntries_knownEntries es
  checked_eq := Loaded.settings_ofEntries es
  knownChecked_eq := by rw [Loaded.settings_ofEntries, Settings.ofEntries_knownEntries]
  unknownKeys_eq := by
    intro loaded hloaded
    rw [Loaded.diagnostics_of_ofEntries hloaded]
    exact unknownKeys_knownEntries h
  findings_eq := by
    rintro loaded (hloaded | hloaded)
    · rw [Loaded.diagnostics_of_ofEntries hloaded]
    · rw [Loaded.diagnostics_of_ofEntries hloaded]

/-- A document is loaded from its text, and a failure is one of its shape. -/
theorem loadWith_of_parse? {α : Type} (read : Entries → Reading α) {text : String} {es : Entries}
    (h : Toml.parse? text = some es) : loadWith read text = (read es).mapError .wrongShape := by
  unfold loadWith
  rw [h]
  cases hread : read es with
  | ok a => simp only [hread]; rfl
  | error cause => simp only [hread]; rfl

theorem SameLoads.mapError {ε δ : Type} {plain knownPlain : Except ε Settings}
    {checked knownChecked : Except ε Loaded} (h : SameLoads plain knownPlain checked knownChecked)
    (f : ε → δ) :
    SameLoads (plain.mapError f) (knownPlain.mapError f) (checked.mapError f)
      (knownChecked.mapError f) := by
  have hok : ∀ {x : Except ε Loaded} {loaded : Loaded}, x.mapError f = .ok loaded →
      x = .ok loaded := by
    intro x loaded hx
    cases x with
    | error cause => exact absurd hx (by simp [Except.mapError])
    | ok found => rw [Except.ok.inj hx]
  have hmap : ∀ x : Except ε Loaded, (x.mapError f).map Loaded.settings =
      (x.map Loaded.settings).mapError f := by
    intro x
    cases x <;> rfl
  constructor
  · rw [h.plain_eq]
  · rw [hmap, h.checked_eq]
  · rw [hmap, h.knownChecked_eq]
  · intro loaded hloaded
    exact h.unknownKeys_eq loaded (hok hloaded)
  · intro loaded hloaded
    exact h.findings_eq loaded (hloaded.imp hok hok)

/-- **Unknown entries go unseen.** A document whose groups of settings are tables, and the same
    document without its unknown entries, load alike: from the documents themselves, and from any
    two texts that they are read from. -/
theorem unknownEntries_unseen (es : Entries) (h : HasTables es) :
    SameLoads (Settings.ofEntries es) (Settings.ofEntries (knownEntries es))
        (Loaded.ofEntries es) (Loaded.ofEntries (knownEntries es)) ∧
      ∀ text knownText, Toml.parse? text = some es →
        Toml.parse? knownText = some (knownEntries es) →
        SameLoads (Settings.load text) (Settings.load knownText) (Settings.loadChecked text)
          (Settings.loadChecked knownText) := by
  refine ⟨sameLoads_ofEntries h, ?_⟩
  intro text knownText htext hknown
  unfold Settings.load Settings.loadChecked
  rw [loadWith_of_parse? _ htext, loadWith_of_parse? _ hknown, loadWith_of_parse? _ htext,
    loadWith_of_parse? _ hknown]
  exact (sameLoads_ofEntries h).mapError LoadError.wrongShape

/-- A text with an unknown entry at every level, and the same text without them: both load alike,
    and only the first one has something unknown. -/
theorem unknownEntries_unseen_of_text :
    SameLoads
        (Settings.load
          "x = 1\n[sugar]\ny = 2\n[[sugar.builtins]]\nname = \"Mock\"\nz = 3\n[logging]\nw = 4\n")
        (Settings.load "[sugar]\n[[sugar.builtins]]\nname = \"Mock\"\n[logging]\n")
        (Settings.loadChecked
          "x = 1\n[sugar]\ny = 2\n[[sugar.builtins]]\nname = \"Mock\"\nz = 3\n[logging]\nw = 4\n")
        (Settings.loadChecked "[sugar]\n[[sugar.builtins]]\nname = \"Mock\"\n[logging]\n") ∧
      unknownKeys
        [("x", .integer 1),
          ("sugar", .table [("y", .integer 2),
            ("builtins", .array [.table [("name", .string "Mock"), ("z", .integer 3)]])]),
          ("logging", .table [("w", .integer 4)])] =
        ["logging.w", "sugar.builtins[0].z", "sugar.y", "x"] := by
  have htables : HasTables
      [("x", .integer 1),
        ("sugar", .table [("y", .integer 2),
          ("builtins", .array [.table [("name", .string "Mock"), ("z", .integer 3)]])]),
        ("logging", .table [("w", .integer 4)])] := by
    constructor
    · simp [Toml.Value.isTable]
    · simp [Toml.Value.isTable]
    · rintro group items v hgroup hitems hv
      obtain rfl : group = [("y", .integer 2),
          ("builtins", .array [.table [("name", .string "Mock"), ("z", .integer 3)]])] := by
        simpa using hgroup
      obtain rfl : items = [.table [("name", .string "Mock"), ("z", .integer 3)]] := by
        simpa using hitems
      rw [List.mem_singleton.mp hv]
      rfl
  refine ⟨(unknownEntries_unseen _ htables).2 _ _ ?_ ?_, ?_⟩
  · decide +kernel
  · decide +kernel
  · decide +kernel

end Desugar
