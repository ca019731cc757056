import Mathlib.Data.List.Sort
import Desugar.Proofs.UniqueKeys
import Desugar.Proofs.UnknownEntries

/-!
# The order of keys does not matter

The entries of a table are read in the order of the document, unknown ones are noted on the way, and
the first entry of a wrong shape ends the reading. Yet two documents that differ only in the order
of entries, at whatever depth, load alike: both fail, or both give the same settings with the same
diagnostics. Which failure is found first may differ.

## Contents

* `Toml.Value.Reordered` — values that differ in the order of entries.
* `SlotsReordered`, `slots?_reordered` — the entries of a group in another order.
* `readSlots_reordered`, `readGroup_reordered` — a group is read alike.
* `ignoredSlots_reordered` — the unknown entries are the same, in some order.
* `ascending_eq_of_perm` — which the sorted list of them does not show.
* `keyOrder_unseen` — the loads of two such documents.
-/

namespace Desugar

open Toml (Value Entries)

/-! ## Another order -/

/-- Two values that differ at most in the order of the entries of their tables, at any depth. The
    items of an array keep their order. -/
inductive Toml.Value.Reordered : Value → Value → Prop
  | same (v : Value) : Reordered v v
  | array {items items' : List Value} : List.Forall₂ Reordered items items' →
      Reordered (.array items) (.array items')
  /-- The entries are put in another order, and then each value may be reordered. -/
  | table {es moved es' : Entries} : es.Perm moved → moved.map Prod.fst = es'.map Prod.fst →
      List.Forall₂ Reordered (moved.map Prod.snd) (es'.map Prod.snd) →
      Reordered (.table es) (.table es')

open Toml.Value (Reordered UniquelyKeyed)

/-- The entries of a group in another order, with reordered values. -/
def SlotsReordered (slots slots' : List Slot) : Prop :=
  ∃ moved, slots.Perm moved ∧ List.Forall₂ (Slot.Related Reordered) moved slots'

/-- However a group is written, the order of keys changes no more than the order of its entries. -/
theorem slots?_reordered (names : List String) {v v' : Value} (h : Reordered v v') :
    Option.Rel SlotsReordered (slots? names v) (slots? names v') := by
  cases h with
  | same v =>
      cases slots? names v with
      | none => exact .none
      | some slots =>
          exact .some ⟨slots, .refl _, List.forall₂_same.mpr fun s _ => ⟨rfl, rfl, .same _⟩⟩
  | array hitems => exact .some ⟨_, .refl _, arraySlots_related names hitems⟩
  | table hperm hkeys hvalues =>
      exact .some ⟨_, hperm.map _, tableSlots_related hkeys hvalues⟩

theorem SlotsReordered.of_table {es es' : Entries} (h : Reordered (.table es) (.table es')) :
    SlotsReordered (tableSlots es) (tableSlots es') := by
  cases slots?_reordered Settings.names h with
  | some hslots => exact hslots

/-- The entries of a group without repeated keys have different names, and no key twice inside. -/
theorem slots?_uniquelyKeyed {names : List String} (hnames : names.Nodup) {v : Value}
    (hv : v.UniquelyKeyed) {slots : List Slot} (hslots : slots? names v = some slots) :
    (slots.map Slot.name).Nodup ∧ ∀ s ∈ slots, s.value.UniquelyKeyed := by
  cases hv with
  | table hnodup hvalues =>
      obtain rfl := Option.some.inj hslots
      constructor
      · simpa [tableSlots, Function.comp_def] using hnodup
      · intro s hs
        obtain ⟨e, he, rfl⟩ := List.mem_map.mp hs
        exact hvalues e he
  | @array items hitems =>
      obtain rfl := Option.some.inj hslots
      have hname : (arraySlots names items).map Slot.name = names.take items.length := by
        refine List.ext_getElem (by simp [arraySlots, Nat.min_comm]) fun i hi hi' => ?_
        simp [arraySlots]
      constructor
      · rw [hname]
        exact hnames.sublist (List.take_sublist _ _)
      · intro s hs
        obtain ⟨i, hi, rfl⟩ := List.mem_mapIdx.mp hs
        rw [List.getElem_zip]
        exact hitems _ (List.getElem_mem _)
  | dateTime text =>
      obtain rfl := Option.some.inj hslots
      constructor
      · simp
      · intro s hs
        rw [List.mem_singleton.mp hs]
        exact .string text
  | _ => exact absurd hslots (by simp [slots?])

/-! ## What is read

Two readings are alike if both fail or both give the same; that is, if they are the same as options.
Readings that are alike stay so, whatever is done with their results. -/

theorem toOption_bind {α β : Type} (x : Reading α) (f : α → Reading β) :
    (x >>= f).toOption = x.toOption.bind fun a => (f a).toOption := by
  cases x <;> rfl

theorem toOption_map {α β : Type} (x : Reading α) (f : α → β) :
    (x.map f).toOption = x.toOption.map f := by
  cases x <;> rfl

/-- Something is read alike from reordered values without repeated keys. -/
def ReadsAlike {β : Type} (value : Value → Reading β) : Prop :=
  ∀ v v', v.UniquelyKeyed → Reordered v v' → (value v).toOption = (value v').toOption

section
variable {α φ : Type} {names : List String} {read : String → Value → Reading (Option φ)}
  {put : α → φ → α} {setting : φ → String} {slots slots' : List Slot}

theorem toOption_readSlots_cons (a : α) (s : Slot) (slots : List Slot) :
    (readSlots read put a (s :: slots)).toOption =
      (read s.name s.value).toOption.bind fun field =>
        (readSlots read put (field.elim a (put a)) slots).toOption := by
  cases hread : read s.name s.value with
  | error cause => rw [readSlots_cons_of_error hread]; rfl
  | ok field => rw [readSlots_cons_of_ok hread]; rfl

/-- The entries of a group can be read in any order if their names differ. By induction over the
    permutation: two neighbours that are exchanged give different settings, or one of them fails. -/
theorem readSlots_perm (hlaws : GroupLaws names read put setting) (hperm : slots.Perm slots')
    (hnodup : (slots.map Slot.name).Nodup) (a : α) :
    (readSlots read put a slots).toOption = (readSlots read put a slots').toOption := by
  induction hperm generalizing a with
  | nil => rfl
  | cons s hperm ih =>
      rw [toOption_readSlots_cons, toOption_readSlots_cons]
      have hrest := (List.nodup_cons.mp hnodup).2
      exact congrArg _ (funext fun field => ih hrest _)
  | swap s t slots =>
      have hne : t.name ≠ s.name := by
        intro heq
        exact (List.nodup_cons.mp hnodup).1 (by simp [heq])
      simp only [toOption_readSlots_cons]
      cases hs : read s.name s.value with
      | error cause => cases read t.name t.value <;> rfl
      | ok f =>
          cases ht : read t.name t.value with
          | error cause => rfl
          | ok g =>
              have hput : f.elim (g.elim a (put a)) (put (g.elim a (put a))) =
                  g.elim (f.elim a (put a)) (put (f.elim a (put a))) := by
                cases f with
                | none => rfl
                | some f =>
                    cases g with
                    | none => rfl
                    | some g =>
                        refine hlaws.comm a g f ?_
                        rw [hlaws.named _ _ _ ht, hlaws.named _ _ _ hs]
                        exact hne
              exact congrArg (fun b => (readSlots read put b slots).toOption) hput
  | trans hfirst hsecond ih ih' =>
      exact (ih hnodup a).trans (ih' ((hfirst.map Slot.name).nodup_iff.mp hnodup) a)

theorem readSlots_forall₂ (hread : ∀ name, ReadsAlike (read name))
    (h : List.Forall₂ (Slot.Related Reordered) slots slots')
    (hkeyed : ∀ s ∈ slots, s.value.UniquelyKeyed) (a : α) :
    (readSlots read put a slots).toOption = (readSlots read put a slots').toOption := by
  induction h generalizing a with
  | nil => rfl
  | @cons s t slots slots' hst hrest ih =>
      have hrest : ∀ u ∈ slots, u.value.UniquelyKeyed :=
        fun u hu => hkeyed u (List.mem_cons_of_mem s hu)
      have hfirst : (read s.name s.value).toOption = (read t.name t.value).toOption := by
        rw [← hst.name]
        exact hread s.name _ _ (hkeyed s List.mem_cons_self) hst.value
      rw [toOption_readSlots_cons, toOption_readSlots_cons, hfirst]
      exact congrArg _ (funext fun field => ih hrest _)

/-- **A group is read alike from reordered entries.** -/
theorem readSlots_reordered (hlaws : GroupLaws names read put setting)
    (hread : ∀ name, ReadsAlike (read name)) (hnodup : (slots.map Slot.name).Nodup)
    (hkeyed : ∀ s ∈ slots, s.value.UniquelyKeyed) (h : SlotsReordered slots slots') (a : α) :
    (readSlots read put a slots).toOption = (readSlots read put a slots').toOption := by
  obtain ⟨moved, hperm, hvalues⟩ := h
  have hkeyed' : ∀ s ∈ moved, s.value.UniquelyKeyed :=
    fun s hs => hkeyed s (hperm.mem_iff.mpr hs)
  exact (readSlots_perm hlaws hperm hnodup a).trans (readSlots_forall₂ hread hvalues hkeyed' a)

theorem readGroup_reordered (hlaws : GroupLaws names read put setting)
    (hread : ∀ name, ReadsAlike (read name)) (expected : Expected) (a : α) :
    ReadsAlike (readGroup names expected read put a) := by
  intro v v' hv h
  have hslots := slots?_reordered names h
  unfold readGroup
  generalize hv' : slots? names v = x at hslots ⊢
  generalize slots? names v' = y at hslots ⊢
  cases hslots with
  | none => rfl
  | some hre =>
      obtain ⟨hnodup, hkeyed⟩ := slots?_uniquelyKeyed hlaws.nodup hv hv'
      exact readSlots_reordered hlaws hread hnodup hkeyed hre a

end

/-! ### The groups -/

namespace ReadsAlike

theorem readString : ReadsAlike Desugar.readString := by
  intro v v' hv h
  cases h <;> rfl

theorem readBool : ReadsAlike Desugar.readBool := by
  intro v v' hv h
  cases h <;> rfl

theorem readCount : ReadsAlike Desugar.readCount := by
  intro v v' hv h
  cases h <;> rfl

variable {β φ : Type}

theorem nothing (_ : String) : ReadsAlike fun _ => (.ok none : Reading (Option φ)) :=
  fun _ _ _ _ => rfl

/-- An entry is read alike if the setting of its name is, and so are those that are tried next. -/
theorem branch {key : String} {value : Value → Reading β} {make : β → φ}
    {rest : String → Value → Reading (Option φ)} (hvalue : ReadsAlike value)
    (hrest : ∀ name, ReadsAlike (rest name)) (name : String) :
    ReadsAlike fun v =>
      if name = key then (value v).map fun b => some (make b) else rest name v := by
  intro v v' hv h
  by_cases hname : name = key
  · simp only [if_pos hname, toOption_map, hvalue v v' hv h]
  · simp only [if_neg hname]
    exact hrest name v v' hv h

theorem helperField (name : String) : ReadsAlike (HelperDraft.read name) :=
  branch readString (branch readCount (branch readCount nothing)) name

theorem helper : ReadsAlike Helper.ofValue := by
  intro v v' hv h
  have hdraft := readGroup_reordered HelperDraft.laws helperField .helper .blank v v' hv h
  have hfinish : ∀ d, (HelperDraft.finish v d).toOption = (HelperDraft.finish v' d).toOption := by
    intro d
    unfold HelperDraft.finish
    cases d.name <;> rfl
  rw [Helper.ofValue_eq, Helper.ofValue_eq, toOption_bind, toOption_bind, hdraft]
  exact congrArg _ (funext hfinish)

theorem readHelpers : ReadsAlike Desugar.readHelpers := by
  intro v v' hv h
  cases h with
  | same v => rfl
  | table hperm hkeys hvalues => rfl
  | @array items items' hitems =>
      cases hv with
      | array hkeyed =>
          show (items.mapM Helper.ofValue).toOption = (items'.mapM Helper.ofValue).toOption
          induction hitems with
          | nil => rfl
          | @cons w w' items items' hw hrest ih =>
              have hfirst := helper w w' (hkeyed w List.mem_cons_self) hw
              have hothers := ih fun u hu => hkeyed u (List.mem_cons_of_mem w hu)
              simp only [List.mapM_cons, toOption_bind, hfirst, hothers]

theorem sugarField (name : String) : ReadsAlike (SugarSettings.read name) :=
  branch readString (branch readString (branch readHelpers nothing)) name

theorem loggingField (name : String) : ReadsAlike (LoggingSettings.read name) :=
  branch readString (branch readBool (branch readBool nothing)) name

theorem settingsField (name : String) : ReadsAlike (Settings.read name) :=
  branch (readGroup_reordered SugarSettings.laws sugarField .sugar .standard)
    (branch (readGroup_reordered LoggingSettings.laws loggingField .logging .standard) nothing)
    name

end ReadsAlike

/-- **The settings of a document do not depend on the order of its keys.** -/
theorem Settings.ofEntries_reordered {es es' : Entries} (hkeyed : (Value.table es).UniquelyKeyed)
    (h : Reordered (.table es) (.table es')) :
    (Settings.ofEntries es).toOption = (Settings.ofEntries es').toOption := by
  obtain ⟨hnodup, hvalues⟩ := slots?_uniquelyKeyed Settings.laws.nodup hkeyed rfl
  exact readSlots_reordered Settings.laws ReadsAlike.settingsField hnodup hvalues
    (SlotsReordered.of_table h) .standard

/-! ## What is unknown -/

section
variable {names : List String} {inside : Path → String → Value → List Path}

/-- The unknown entries of a group are the same from reordered entries, in some order. -/
theorem ignoredSlots_reordered
    (hinside : ∀ path name v v', Reordered v v' → (inside path name v).Perm (inside path name v'))
    {slots slots' : List Slot} (h : SlotsReordered slots slots') (path : Path) :
    (ignoredSlots path names inside slots).Perm (ignoredSlots path names inside slots') := by
  obtain ⟨moved, hperm, hvalues⟩ := h
  unfold ignoredSlots
  refine (hperm.flatMap_right _).trans ?_
  clear hperm
  induction hvalues with
  | nil => exact .refl _
  | cons hst hrest ih =>
      rw [List.flatMap_cons, List.flatMap_cons, hst.name, hst.step]
      refine List.Perm.append ?_ ih
      split
      · exact hinside _ _ _ _ hst.value
      · exact .refl _

theorem ignoredGroup_reordered
    (hinside : ∀ path name v v', Reordered v v' → (inside path name v).Perm (inside path name v'))
    {v v' : Value} (h : Reordered v v') (path : Path) :
    (ignoredSlots path names inside ((slots? names v).getD [])).Perm
      (ignoredSlots path names inside ((slots? names v').getD [])) := by
  have hslots := slots?_reordered names h
  generalize slots? names v = x at hslots ⊢
  generalize slots? names v' = y at hslots ⊢
  cases hslots with
  | none => exact .refl _
  | some hre => exact ignoredSlots_reordered hinside hre path

end

theorem ignoredInHelpers_reordered {v v' : Value} (h : Reordered v v') (path : Path) :
    (ignoredInHelpers path v).Perm (ignoredInHelpers path v') := by
  cases h with
  | same v => exact .refl _
  | table hperm hkeys hvalues => exact .refl _
  | @array items items' hitems =>
      -- the helpers keep their positions; what is left of them starts at a later one
      have hpaths : ∀ path : Nat → Path,
          ((items.mapIdx fun i w => ignoredInHelper (path i) w).flatten).Perm
            ((items'.mapIdx fun i w => ignoredInHelper (path i) w).flatten) := by
        induction hitems with
        | nil => intro path; exact .refl _
        | cons hw hrest ih =>
            intro path
            rw [List.mapIdx_cons, List.mapIdx_cons, List.flatten_cons, List.flatten_cons]
            refine List.Perm.append ?_ (ih fun i => path (i + 1))
            exact ignoredGroup_reordered (fun _ _ _ _ _ => .refl _) hw _
      exact hpaths fun i => path ++ [.index i]

theorem ignoredPaths_reordered {es es' : Entries} (h : Reordered (.table es) (.table es')) :
    (ignoredPaths es).Perm (ignoredPaths es') := by
  have hsugar : ∀ path v v', Reordered v v' →
      (ignoredInSugar path v).Perm (ignoredInSugar path v') := by
    intro path v v' hv
    refine ignoredGroup_reordered (fun path name w w' hw => ?_) hv path
    split
    · exact ignoredInHelpers_reordered hw path
    · exact .refl _
  have hlogging : ∀ path v v', Reordered v v' →
      (ignoredInLogging path v).Perm (ignoredInLogging path v') := by
    intro path v v' hv
    exact ignoredGroup_reordered (fun _ _ _ _ _ => .refl _) hv path
  refine ignoredSlots_reordered (fun path name w w' hw => ?_) (SlotsReordered.of_table h) []
  split
  · exact hsugar path w w' hw
  · exact hlogging path w w' hw

/-- Sorting forgets the order. -/
theorem ascending_eq_of_perm {ss ss' : List String} (h : ss.Perm ss') :
    ascending ss = ascending ss' := by
  refine (pairwise_ascending ss).eq_of_mem_iff (pairwise_ascending ss') fun s => ?_
  rw [mem_ascending, mem_ascending]
  exact h.mem_iff

/-- **The unknown keys of a document do not depend on their order.** -/
theorem unknownKeys_reordered {es es' : Entries} (h : Reordered (.table es) (.table es')) :
    unknownKeys es = unknownKeys es' :=
  ascending_eq_of_perm ((ignoredPaths_reordered h).map Path.render)

/-! ## The loads of two documents -/

theorem Loaded.ofEntries_reordered {es es' : Entries} (hkeyed : (Value.table es).UniquelyKeyed)
    (h : Reordered (.table es) (.table es')) :
    (Loaded.ofEntries es).toOption = (Loaded.ofEntries es').toOption := by
  rw [Loaded.ofEntries_eq, Loaded.ofEntries_eq, toOption_map, toOption_map,
    Settings.ofEntries_reordered hkeyed h, unknownKeys_reordered h]

/-- **The order of keys goes unseen.** Two documents that differ only in the order of the entries of
    their tables load alike: both fail, or both give the same settings and the same diagnostics,
    with the unknown keys in the same order. -/
theorem keyOrder_unseen {text text' : String} {es es' : Entries}
    (hparse : Toml.parse? text = some es) (hparse' : Toml.parse? text' = some es')
    (h : Reordered (.table es) (.table es')) :
    (∃ loaded, Settings.loadChecked text = .ok loaded ∧ Settings.loadChecked text' = .ok loaded) ∨
      ∃ cause cause', Settings.loadChecked text = .error cause ∧
        Settings.loadChecked text' = .error cause' := by
  have hloads := Loaded.ofEntries_reordered (Toml.uniquelyKeyed_of_parse? hparse) h
  unfold Settings.loadChecked
  rw [loadWith_of_parse? _ hparse, loadWith_of_parse? _ hparse']
  cases hread : Loaded.ofEntries es with
  | ok loaded =>
      cases hread' : Loaded.ofEntries es' with
      | ok loaded' =>
          rw [hread, hread'] at hloads
          obtain rfl := Option.some.inj hloads
          exact .inl ⟨loaded, rfl, rfl⟩
      | error cause' =>
          rw [hread, hread'] at hloads
          exact absurd hloads (by simp [Except.toOption])
  | error cause =>
      cases hread' : Loaded.ofEntries es' with
      | ok loaded' =>
          rw [hread, hread'] at hloads
          exact absurd hloads (by simp [Except.toOption])
      | error cause' => exact .inr ⟨_, _, rfl, rfl⟩

/-- The entries of a group and those of a helper in another order, with unknown ones among them:
    both texts give the same settings and diagnostics. -/
theorem keyOrder_unseen_of_text :
    ∃ loaded,
      Settings.loadChecked "[sugar]\ny = 2\n[[sugar.builtins]]\nname = \"Mock\"\nz = 3\n" =
        .ok loaded ∧
      Settings.loadChecked "[[sugar.builtins]]\nz = 3\nname = \"Mock\"\n[sugar]\ny = 2\n" =
        .ok loaded := by
  have hparse : Toml.parse? "[sugar]\ny = 2\n[[sugar.builtins]]\nname = \"Mock\"\nz = 3\n" =
      some [("sugar", .table [("y", .integer 2),
        ("builtins", .array [.table [("name", .string "Mock"), ("z", .integer 3)]])])] := by
    decide +kernel
  have hparse' : Toml.parse? "[[sugar.builtins]]\nz = 3\nname = \"Mock\"\n[sugar]\ny = 2\n" =
      some [("sugar", .table [
        ("builtins", .array [.table [("z", .integer 3), ("name", .string "Mock")]]),
        ("y", .integer 2)])] := by
    decide +kernel
  have hhelper : Reordered (.table [("name", .string "Mock"), ("z", .integer 3)])
      (.table [("z", .integer 3), ("name", .string "Mock")]) :=
    .table (.swap ..) rfl (.cons (.same _) (.cons (.same _) .nil))
  have hsugar : Reordered
      (.table [("y", .integer 2),
        ("builtins", .array [.table [("name", .string "Mock"), ("z", .integer 3)]])])
      (.table [("builtins", .array [.table [("z", .integer 3), ("name", .string "Mock")]]),
        ("y", .integer 2)]) :=
    .table (.swap ..) rfl (.cons (.array (.cons hhelper .nil)) (.cons (.same _) .nil))
  have hloads := keyOrder_unseen hparse hparse' (.table (.refl _) rfl (.cons hsugar .nil))
  rcases hloads with hloaded | ⟨cause, cause', hfail, -⟩
  · exact hloaded
  · have hok : Except.isOk (Settings.loadChecked
        "[sugar]\ny = 2\n[[sugar.builtins]]\nname = \"Mock\"\nz = 3\n") = true := by
      decide +kernel
    rw [hfail] at hok
    exact absurd hok (by simp [Except.isOk, Except.toBool])

end Desugar
