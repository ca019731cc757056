import Desugar.Proofs.KeyOrder
import Desugar.Proofs.PathText
import Desugar.Proofs.Reporting

/-!
# No unknown key is lost

A checked load collects the paths of the keys that mean nothing, writes each as a text, sorts the
texts and drops repetitions. A key of digits is taken for a position, so it is not plain that two of
the paths never have one text. This module shows that of a document with bare keys nothing is lost:
there is one text for every key that means nothing, and it leads back to that key.

## Contents

* `Ignored` — the keys that mean nothing, by a look at the document.
* `mem_ignoredPaths`, `nodup_ignoredPaths` — the paths that are collected are those, each once.
* `Ignored.eq_of_dotted` — ignored keys differ in their dotted paths.
* `ListsIgnored`, `unknownKeys_complete` — what is listed and reported.
-/

namespace Desugar

open Toml (Value Entries)
open Toml.Scan (isBareKeyChar)

/-! ## Ignored keys -/

/-- A key of a table that is not among the names with a meaning. -/
def UnknownIn (names : List String) (es : Entries) (k : String) : Prop :=
  k ∈ es.map Prod.fst ∧ k ∉ names

/-- The path of a key that no setting is read from: in the root, in a group of settings, or in a
    helper. What lies below such a key is part of it. -/
inductive Ignored (es : Entries) : Path → Prop
  | root {k : String} : UnknownIn Settings.names es k → Ignored es [.key k]
  | sugar {group : Entries} {k : String} : ("sugar", .table group) ∈ es →
      UnknownIn SugarSettings.names group k → Ignored es [.key "sugar", .key k]
  | logging {group : Entries} {k : String} : ("logging", .table group) ∈ es →
      UnknownIn LoggingSettings.names group k → Ignored es [.key "logging", .key k]
  | helper {group : Entries} {items : List Value} {i : Nat} {entries : Entries} {k : String} :
      ("sugar", .table group) ∈ es → ("builtins", .array items) ∈ group →
      items[i]? = some (.table entries) → UnknownIn HelperDraft.names entries k →
      Ignored es [.key "sugar", .key "builtins", .index i, .key k]

section
variable {names : List String} {inside : Path → String → Value → List Path} {path p : Path}
  {es : Entries}

/-- What is collected in a table: inside of its known entries, and its unknown keys. -/
theorem mem_ignoredSlots_tableSlots :
    p ∈ ignoredSlots path names inside (tableSlots es) ↔
      (∃ k v, (k, v) ∈ es ∧ k ∈ names ∧ p ∈ inside (path ++ [PathStep.key k]) k v) ∨
      ∃ k, UnknownIn names es k ∧ p = path ++ [PathStep.key k] := by
  unfold ignoredSlots tableSlots
  rw [List.mem_flatMap]
  constructor
  · rintro ⟨s, hs, hp⟩
    obtain ⟨⟨k, v⟩, hkv, rfl⟩ := List.mem_map.mp hs
    by_cases hk : k ∈ names
    · rw [if_pos hk] at hp
      exact .inl ⟨k, v, hkv, hk, hp⟩
    · rw [if_neg hk, List.mem_singleton] at hp
      exact .inr ⟨k, ⟨List.mem_map.mpr ⟨(k, v), hkv, rfl⟩, hk⟩, hp⟩
  · rintro (⟨k, v, hkv, hk, hp⟩ | ⟨k, ⟨hmem, hk⟩, hp⟩)
    · refine ⟨_, List.mem_map.mpr ⟨(k, v), hkv, rfl⟩, ?_⟩
      rw [if_pos hk]
      exact hp
    · obtain ⟨⟨k', v⟩, hkv, rfl⟩ := List.mem_map.mp hmem
      refine ⟨_, List.mem_map.mpr ⟨(k', v), hkv, rfl⟩, ?_⟩
      rw [if_neg hk, List.mem_singleton]
      exact hp

/-- The same for a table whose settings are no groups. -/
theorem mem_ignoredSlots_nowhere :
    p ∈ ignoredSlots path names ignoredNowhere (tableSlots es) ↔
      ∃ k, UnknownIn names es k ∧ p = path ++ [PathStep.key k] := by
  rw [mem_ignoredSlots_tableSlots]
  constructor
  · rintro (⟨_, _, _, _, hp⟩ | hp)
    · exact absurd hp List.not_mem_nil
    · exact hp
  · exact .inr

end

theorem mem_ignoredInHelpers {path p : Path} {items : List Value}
    (htables : ∀ v ∈ items, v.isTable = true) :
    p ∈ ignoredInHelpers path (.array items) ↔
      ∃ i entries k, items[i]? = some (.table entries) ∧ UnknownIn HelperDraft.names entries k ∧
        p = path ++ [PathStep.index i] ++ [PathStep.key k] := by
  show p ∈ (items.mapIdx fun i v => ignoredInHelper (path ++ [PathStep.index i]) v).flatten ↔ _
  rw [List.mem_flatten]
  constructor
  · rintro ⟨ps, hps, hp⟩
    obtain ⟨i, hi, rfl⟩ := List.mem_mapIdx.mp hps
    have hitem := htables _ (List.getElem_mem hi)
    cases hv : items[i] with
    | table entries =>
        rw [hv] at hp
        obtain ⟨k, hk, rfl⟩ := mem_ignoredSlots_nowhere.mp hp
        exact ⟨i, entries, k, List.getElem?_eq_some_iff.mpr ⟨hi, hv⟩, hk, rfl⟩
    | _ =>
        rw [hv] at hitem
        exact absurd hitem (by simp [Toml.Value.isTable])
  · rintro ⟨i, entries, k, hitem, hk, rfl⟩
    obtain ⟨hi, hv⟩ := List.getElem?_eq_some_iff.mp hitem
    refine ⟨_, List.mem_mapIdx.mpr ⟨i, hi, rfl⟩, ?_⟩
    rw [hv]
    exact mem_ignoredSlots_nowhere.mpr ⟨k, hk, rfl⟩

theorem mem_ignoredInSugar {path p : Path} {group : Entries}
    (htables : ∀ items v, ("builtins", .array items) ∈ group → v ∈ items → v.isTable = true) :
    p ∈ ignoredInSugar path (.table group) ↔
      (∃ items i entries k, ("builtins", .array items) ∈ group ∧
        items[i]? = some (.table entries) ∧ UnknownIn HelperDraft.names entries k ∧
        p = path ++ [PathStep.key "builtins"] ++ [PathStep.index i] ++ [PathStep.key k]) ∨
      ∃ k, UnknownIn SugarSettings.names group k ∧ p = path ++ [PathStep.key k] := by
  refine mem_ignoredSlots_tableSlots.trans (or_congr_left ?_)
  constructor
  · rintro ⟨k, v, hkv, -, hp⟩
    by_cases hk : k = "builtins"
    · subst hk
      rw [if_pos rfl] at hp
      cases v with
      | array items =>
          obtain ⟨i, entries, k, hitem, hunknown, rfl⟩ :=
            (mem_ignoredInHelpers fun v hv => htables items v hkv hv).mp hp
          exact ⟨items, i, entries, k, hkv, hitem, hunknown, rfl⟩
      | _ => exact absurd hp List.not_mem_nil
    · rw [if_neg hk] at hp
      exact absurd hp List.not_mem_nil
  · rintro ⟨items, i, entries, k, hitems, hitem, hunknown, rfl⟩
    refine ⟨"builtins", .array items, hitems, by decide, ?_⟩
    rw [if_pos rfl]
    exact (mem_ignoredInHelpers fun v hv => htables items v hitems hv).mpr
      ⟨i, entries, k, hitem, hunknown, rfl⟩

/-- **The paths that are collected are those of the ignored keys.** -/
theorem mem_ignoredPaths {es : Entries} (h : HasTables es) {p : Path} :
    p ∈ ignoredPaths es ↔ Ignored es p := by
  have hsugar : ∀ group, ("sugar", .table group) ∈ es → ∀ items v,
      ("builtins", .array items) ∈ group → v ∈ items → v.isTable = true :=
    fun group hgroup items v hitems hv => h.helpers group items v hgroup hitems hv
  refine mem_ignoredSlots_tableSlots.trans ?_
  constructor
  · rintro (⟨k, v, hkv, hk, hp⟩ | ⟨k, hk, rfl⟩)
    · by_cases hname : k = "sugar"
      · subst hname
        rw [if_pos rfl] at hp
        have hv := h.sugar v hkv
        cases v with
        | table group =>
            rcases (mem_ignoredInSugar (hsugar group hkv)).mp hp with
              ⟨items, i, entries, k, hitems, hitem, hunknown, rfl⟩ | ⟨k, hunknown, rfl⟩
            · exact .helper hkv hitems hitem hunknown
            · exact .sugar hkv hunknown
        | _ => exact absurd hv (by simp [Toml.Value.isTable])
      · have hlogging : k = "logging" := by simpa [hname] using hk
        subst hlogging
        rw [if_neg hname] at hp
        have hv := h.logging v hkv
        cases v with
        | table group =>
            obtain ⟨k, hunknown, rfl⟩ := mem_ignoredSlots_nowhere.mp hp
            exact .logging hkv hunknown
        | _ => exact absurd hv (by simp [Toml.Value.isTable])
    · exact .root hk
  · intro hp
    cases hp with
    | root hk => exact .inr ⟨_, hk, rfl⟩
    | sugar hgroup hk =>
        refine .inl ⟨"sugar", _, hgroup, by decide, ?_⟩
        rw [if_pos rfl]
        exact (mem_ignoredInSugar (hsugar _ hgroup)).mpr (.inr ⟨_, hk, rfl⟩)
    | logging hgroup hk =>
        refine .inl ⟨"logging", _, hgroup, by decide, ?_⟩
        rw [if_neg (by decide)]
        exact mem_ignoredSlots_nowhere.mpr ⟨_, hk, rfl⟩
    | helper hgroup hitems hitem hk =>
        refine .inl ⟨"sugar", _, hgroup, by decide, ?_⟩
        rw [if_pos rfl]
        exact (mem_ignoredInSugar (hsugar _ hgroup)).mpr
          (.inl ⟨_, _, _, _, hitems, hitem, hk, rfl⟩)

/-! ## Nothing is collected twice -/

/-- What is collected inside of an entry lies below it. -/
def StaysBelow (inside : Path → String → Value → List Path) : Prop :=
  ∀ path name v, ∀ p ∈ inside path name v, path <+: p

/-- Paths below different steps are different. -/
theorem disjoint_of_steps {path : Path} {s t : PathStep} {ps qs : List Path} (hne : s ≠ t)
    (hps : ∀ p ∈ ps, path ++ [s] <+: p) (hqs : ∀ q ∈ qs, path ++ [t] <+: q) : ps.Disjoint qs := by
  intro p hp hq
  have hprefix : path ++ [s] <+: path ++ [t] :=
    List.prefix_of_prefix_length_le (hps p hp) (hqs p hq) (by simp)
  have heq : path ++ [s] = path ++ [t] := hprefix.eq_of_length (by simp)
  exact hne (List.singleton_inj.mp (List.append_cancel_left heq))

section
variable {names : List String} {inside : Path → String → Value → List Path} {path : Path}
  {slots : List Slot}

theorem prefix_of_mem_slot (hbelow : StaysBelow inside) {s : Slot} {p : Path}
    (h : p ∈ if s.name ∈ names then inside (path ++ [s.step]) s.name s.value
      else [path ++ [s.step]]) : path ++ [s.step] <+: p := by
  by_cases hname : s.name ∈ names
  · rw [if_pos hname] at h
    exact hbelow _ _ _ p h
  · rw [if_neg hname, List.mem_singleton] at h
    subst h
    exact List.prefix_rfl

theorem prefix_of_mem_ignoredSlots (hbelow : StaysBelow inside) {p : Path}
    (h : p ∈ ignoredSlots path names inside slots) : path <+: p := by
  obtain ⟨s, -, hp⟩ := List.mem_flatMap.mp h
  exact (List.prefix_append path [s.step]).trans (prefix_of_mem_slot hbelow hp)

/-- Entries that are reached by different steps have different paths below them. -/
theorem nodup_ignoredSlots (hbelow : StaysBelow inside) (hsteps : (slots.map Slot.step).Nodup)
    (hinside : ∀ s ∈ slots, (inside (path ++ [s.step]) s.name s.value).Nodup) :
    (ignoredSlots path names inside slots).Nodup := by
  refine List.nodup_flatMap.mpr ⟨?_, ?_⟩
  · intro s hs
    by_cases hname : s.name ∈ names
    · rw [if_pos hname]
      exact hinside s hs
    · rw [if_neg hname]
      exact List.nodup_singleton _
  · -- whatever is collected for two entries, it lies below their steps, and these are different
    refine (List.pairwise_map.mp hsteps).imp ?_
    intro s t hne
    exact disjoint_of_steps hne (fun _ hp => prefix_of_mem_slot hbelow hp)
      (fun _ hq => prefix_of_mem_slot hbelow hq)

end

/-- The entries of a group are reached by different steps, however the group is written. -/
theorem nodup_steps (names : List String) {v : Value} (hv : v.UniquelyKeyed) :
    (((slots? names v).getD []).map Slot.step).Nodup := by
  cases hv with
  | @table es hnodup _ =>
      have hsteps : (tableSlots es).map Slot.step = (es.map Prod.fst).map .key := by
        simp [tableSlots]
      show ((tableSlots es).map Slot.step).Nodup
      rw [hsteps]
      exact hnodup.map fun _ _ h => PathStep.key.inj h
  | @array items _ =>
      have hsteps : (arraySlots names items).map Slot.step =
          (List.range (names.zip items).length).map .index := by
        refine List.ext_getElem (by simp [arraySlots]) fun i hi hi' => ?_
        simp [arraySlots]
      show ((arraySlots names items).map Slot.step).Nodup
      rw [hsteps]
      exact List.nodup_range.map fun _ _ h => PathStep.index.inj h
  | dateTime text => exact List.nodup_singleton _
  | _ => exact List.nodup_nil

theorem staysBelow_nowhere : StaysBelow ignoredNowhere :=
  fun _ _ _ _ hp => absurd hp List.not_mem_nil

theorem prefix_of_mem_ignoredInHelper {path p : Path} {v : Value}
    (h : p ∈ ignoredInHelper path v) : path <+: p :=
  prefix_of_mem_ignoredSlots staysBelow_nowhere h

theorem prefix_of_mem_ignoredInHelpers {path p : Path} {v : Value}
    (h : p ∈ ignoredInHelpers path v) : path <+: p := by
  cases v with
  | array items =>
      obtain ⟨ps, hps, hp⟩ := List.mem_flatten.mp h
      obtain ⟨i, hi, rfl⟩ := List.mem_mapIdx.mp hps
      exact (List.prefix_append path [.index i]).trans (prefix_of_mem_ignoredInHelper hp)
  | _ => exact absurd h List.not_mem_nil

theorem nodup_ignoredInHelpers {v : Value} (hv : v.UniquelyKeyed) (path : Path) :
    (ignoredInHelpers path v).Nodup := by
  cases hv with
  | @array items hitems =>
      show (items.mapIdx fun i w => ignoredInHelper (path ++ [PathStep.index i]) w).flatten.Nodup
      refine List.nodup_flatten.mpr ⟨?_, ?_⟩
      · intro ps hps
        obtain ⟨i, hi, rfl⟩ := List.mem_mapIdx.mp hps
        exact nodup_ignoredSlots staysBelow_nowhere (nodup_steps _ (hitems _ (List.getElem_mem hi)))
          fun _ _ => List.nodup_nil
      · refine List.pairwise_iff_getElem.mpr ?_
        intro i j hi hj hlt
        have hne : PathStep.index i ≠ .index j := fun h => Nat.ne_of_lt hlt (PathStep.index.inj h)
        rw [List.getElem_mapIdx, List.getElem_mapIdx]
        exact disjoint_of_steps hne (fun _ hp => prefix_of_mem_ignoredInHelper hp)
          (fun _ hq => prefix_of_mem_ignoredInHelper hq)
  | _ => exact List.nodup_nil

/-- Inside of a group of settings, the settings that are groups themselves are the helpers. -/
theorem staysBelow_sugar : StaysBelow fun path name v =>
    if name = "builtins" then ignoredInHelpers path v else [] := by
  intro path name v p hp
  change p ∈ if name = "builtins" then ignoredInHelpers path v else [] at hp
  by_cases hname : name = "builtins"
  · rw [if_pos hname] at hp
    exact prefix_of_mem_ignoredInHelpers hp
  · rw [if_neg hname] at hp
    exact absurd hp List.not_mem_nil

theorem nodup_ignoredInSugar {v : Value} (hv : v.UniquelyKeyed) (path : Path) :
    (ignoredInSugar path v).Nodup := by
  refine nodup_ignoredSlots staysBelow_sugar (nodup_steps _ hv) ?_
  intro s hs
  by_cases hname : s.name = "builtins"
  · rw [if_pos hname]
    refine nodup_ignoredInHelpers ?_ _
    cases hslots : slots? SugarSettings.names v with
    | none =>
        rw [hslots] at hs
        exact absurd hs List.not_mem_nil
    | some slots =>
        rw [hslots] at hs
        exact (slots?_uniquelyKeyed SugarSettings.laws.nodup hv hslots).2 s hs
  · rw [if_neg hname]
    exact List.nodup_nil

/-- **No path is collected twice**, of any document without repeated keys. -/
theorem nodup_ignoredPaths {es : Entries} (h : (Value.table es).UniquelyKeyed) :
    (ignoredPaths es).Nodup := by
  refine nodup_ignoredSlots ?_ (nodup_steps Settings.names h) ?_
  · intro path name v p hp
    change p ∈ if name = "sugar" then ignoredInSugar path v else ignoredInLogging path v at hp
    by_cases hname : name = "sugar"
    · rw [if_pos hname] at hp
      exact prefix_of_mem_ignoredSlots staysBelow_sugar hp
    · rw [if_neg hname] at hp
      exact prefix_of_mem_ignoredSlots staysBelow_nowhere hp
  · intro s hs
    have hv : s.value.UniquelyKeyed := (slots?_uniquelyKeyed Settings.laws.nodup h rfl).2 s hs
    by_cases hname : s.name = "sugar"
    · rw [if_pos hname]
      exact nodup_ignoredInSugar hv _
    · rw [if_neg hname]
      exact nodup_ignoredSlots staysBelow_nowhere (nodup_steps _ hv) fun _ _ => List.nodup_nil

/-! ## Ignored keys differ in their texts -/

/-- A value in which all keys, at any depth, are bare. -/
inductive Toml.Value.BareKeyed : Value → Prop
  | string (s : String) : BareKeyed (.string s)
  | integer (i : Int) : BareKeyed (.integer i)
  | float (x : Binary64) : BareKeyed (.float x)
  | boolean (b : Bool) : BareKeyed (.boolean b)
  | dateTime (text : String) : BareKeyed (.dateTime text)
  | array {items : List Value} : (∀ v ∈ items, BareKeyed v) → BareKeyed (.array items)
  | table {es : Entries} : (∀ e ∈ es, IsBareKey e.1) → (∀ e ∈ es, BareKeyed e.2) →
      BareKeyed (.table es)

namespace Ignored

variable {es : Entries} {p q : Path}

theorem ne_nil (h : Ignored es p) : p ≠ [] := by
  cases h <;> exact List.cons_ne_nil _ _

/-- The length of the path of an ignored key tells which of its steps go to positions. -/
theorem kinds (h : Ignored es p) :
    p.map PathStep.isIndex = if p.length = 4 then [false, false, true, false]
      else List.replicate p.length false := by
  cases h <;> rfl

theorem isBare_of_unknownIn {names : List String} {entries : Entries} {k : String}
    (hbare : (Value.table entries).BareKeyed) (h : UnknownIn names entries k) : IsBareKey k := by
  obtain ⟨e, he, rfl⟩ := List.mem_map.mp h.1
  cases hbare with
  | table hkeys _ => exact hkeys e he

theorem isBare (hbare : (Value.table es).BareKeyed) (h : Ignored es p) : ∀ s ∈ p, s.IsBare := by
  have hinside : ∀ {entries : Entries} {k : String} {v : Value},
      (Value.table entries).BareKeyed → (k, v) ∈ entries → IsBareKey k ∧ v.BareKeyed := by
    intro entries k v hentries hkv
    cases hentries with
    | table hkeys hvalues => exact ⟨hkeys (k, v) hkv, hvalues (k, v) hkv⟩
  cases h with
  | root hk =>
      have hkey := isBare_of_unknownIn hbare hk
      simpa [PathStep.IsBare] using hkey
  | sugar hgroup hk =>
      obtain ⟨hsugar, hbelow⟩ := hinside hbare hgroup
      have hkey := isBare_of_unknownIn hbelow hk
      simpa [PathStep.IsBare] using ⟨hsugar, hkey⟩
  | logging hgroup hk =>
      obtain ⟨hlogging, hbelow⟩ := hinside hbare hgroup
      have hkey := isBare_of_unknownIn hbelow hk
      simpa [PathStep.IsBare] using ⟨hlogging, hkey⟩
  | helper hgroup hitems hitem hk =>
      obtain ⟨hsugar, hbelow⟩ := hinside hbare hgroup
      obtain ⟨hbuiltins, harray⟩ := hinside hbelow hitems
      cases harray with
      | array hbares =>
          have hentries := hbares _ (List.mem_of_getElem? hitem)
          have hkey := isBare_of_unknownIn hentries hk
          simpa [PathStep.IsBare] using ⟨hsugar, hbuiltins, hkey⟩

/-- **Ignored keys differ in their dotted paths.** -/
theorem eq_of_dotted (hbare : (Value.table es).BareKeyed) (hp : Ignored es p) (hq : Ignored es q)
    (h : p.dotted = q.dotted) : p = q := by
  refine Path.eq_of_dotted hp.ne_nil hq.ne_nil (hp.isBare hbare) (hq.isBare hbare) ?_ h
  -- a key of digits never stands where the path of another ignored key has a position
  intro hlength
  rw [hp.kinds, hq.kinds, hlength]

theorem unbracket_render (hbare : (Value.table es).BareKeyed) (hp : Ignored es p) :
    unbracket p.render.toList = p.dotted :=
  Path.unbracket_render hp.ne_nil (hp.isBare hbare)

end Ignored

/-! ## What is listed and reported -/

/-- A list of keys tells of all ignored keys of a document. -/
structure ListsIgnored (es : Entries) (keys : List String) : Prop where
  /-- It ascends strictly, in the order of bytes. -/
  ascending : keys.Pairwise fun s t => Text.bytes s < Text.bytes t
  /-- Every entry is that of one ignored key, whose dotted path is left without the brackets. -/
  entry : ∀ key ∈ keys, ∃! p, Ignored es p ∧ unbracket key.toList = p.dotted
  /-- Every ignored key has one entry. -/
  listed : ∀ p, Ignored es p → ∃! key, key ∈ keys ∧ unbracket key.toList = p.dotted
  /-- Of the paths that were collected, none was dropped for having the text of another. -/
  length_eq : keys.length = (ignoredPaths es).length

theorem nodup_ascending (ss : List String) : (ascending ss).Nodup :=
  (pairwise_ascending ss).imp fun {s t} (hlt : s < t) (heq : s = t) =>
    String.lt_irrefl t (heq ▸ hlt)

section
variable {es : Entries}

theorem mem_unknownKeys (htables : HasTables es) {key : String} :
    key ∈ unknownKeys es ↔ ∃ p, Ignored es p ∧ p.render = key := by
  unfold unknownKeys
  rw [mem_ascending, List.mem_map]
  exact exists_congr fun p => and_congr_left fun _ => mem_ignoredPaths htables

theorem length_unknownKeys (hkeyed : (Value.table es).UniquelyKeyed)
    (hbare : (Value.table es).BareKeyed) (htables : HasTables es) :
    (unknownKeys es).length = (ignoredPaths es).length := by
  have hinj : ∀ p ∈ ignoredPaths es, ∀ q ∈ ignoredPaths es, p.render = q.render → p = q := by
    intro p hp q hq heq
    have hp := (mem_ignoredPaths htables).mp hp
    have hq := (mem_ignoredPaths htables).mp hq
    -- the same text without its brackets is the same dotted path
    refine hp.eq_of_dotted hbare hq ?_
    rw [← hp.unbracket_render hbare, ← hq.unbracket_render hbare, heq]
  have htexts : ((ignoredPaths es).map Path.render).Nodup := (nodup_ignoredPaths hkeyed).map_on hinj
  have hperm : (unknownKeys es).Perm ((ignoredPaths es).map Path.render) :=
    (List.perm_ext_iff_of_nodup (nodup_ascending _) htexts).mpr fun _ => mem_ascending
  rw [hperm.length_eq, List.length_map]

theorem listsIgnored_unknownKeys (hkeyed : (Value.table es).UniquelyKeyed)
    (hbare : (Value.table es).BareKeyed) (htables : HasTables es) :
    ListsIgnored es (unknownKeys es) where
  ascending := by
    refine (pairwise_ascending _).imp_of_mem ?_
    intro s t hs ht hlt
    obtain ⟨p, hp, rfl⟩ := (mem_unknownKeys htables).mp hs
    obtain ⟨q, hq, rfl⟩ := (mem_unknownKeys htables).mp ht
    exact Text.bytes_lt_of_lt (Path.isNarrow_render hp.ne_nil (hp.isBare hbare))
      (Path.isNarrow_render hq.ne_nil (hq.isBare hbare)) hlt
  entry := by
    intro key hkey
    obtain ⟨p, hp, rfl⟩ := (mem_unknownKeys htables).mp hkey
    have htext := hp.unbracket_render hbare
    refine ⟨p, ⟨hp, htext⟩, ?_⟩
    rintro q ⟨hq, hdotted⟩
    exact hq.eq_of_dotted hbare hp (hdotted.symm.trans htext)
  listed := by
    intro p hp
    refine ⟨p.render, ⟨(mem_unknownKeys htables).mpr ⟨p, hp, rfl⟩, hp.unbracket_render hbare⟩, ?_⟩
    rintro key ⟨hkey, hdotted⟩
    obtain ⟨q, hq, rfl⟩ := (mem_unknownKeys htables).mp hkey
    rw [hq.eq_of_dotted hbare hp ((hq.unbracket_render hbare).symm.trans hdotted)]
  length_eq := length_unknownKeys hkeyed hbare htables

end

/-- What is loaded from a text is read from its document. -/
theorem Loaded.ofEntries_of_loadChecked {text : String} {es : Entries} {loaded : Loaded}
    (hparse : Toml.parse? text = some es) (hload : Settings.loadChecked text = .ok loaded) :
    Loaded.ofEntries es = .ok loaded := by
  unfold Settings.loadChecked at hload
  rw [loadWith_of_parse? _ hparse] at hload
  cases hof : Loaded.ofEntries es with
  | ok found =>
      rw [hof] at hload
      rw [Except.ok.inj hload]
  | error cause =>
      rw [hof] at hload
      exact absurd hload (by simp [Except.mapError])

/-- **No unknown key is lost.** If a text is loaded that is a document with bare keys and tables for
    its groups of settings, the unknown keys are a list of all ignored keys, and each entry of the
    list is warned of once, in the order of the list. If a text is not loaded, nothing is
    reported. -/
theorem unknownKeys_complete (text : String) :
    (∀ es loaded, Toml.parse? text = some es → (Value.table es).BareKeyed → HasTables es →
      Settings.loadChecked text = .ok loaded →
      ListsIgnored es loaded.diagnostics.unknownKeys ∧
      (loadEvents (Settings.loadChecked text)).map Event.record =
        loaded.diagnostics.unknownKeys.map fun key =>
          ⟨.warn, "speck.config", "ignoring unknown config key", [("key", .shown key)]⟩) ∧
    ∀ cause, Settings.loadChecked text = .error cause →
      loadEvents (Settings.loadChecked text) = [] := by
  constructor
  · intro es loaded hparse hbare htables hload
    have hkeys : loaded.diagnostics.unknownKeys = unknownKeys es := by
      rw [Loaded.diagnostics_of_ofEntries (Loaded.ofEntries_of_loadChecked hparse hload)]
    constructor
    · rw [hkeys]
      exact listsIgnored_unknownKeys (Toml.uniquelyKeyed_of_parse? hparse) hbare htables
    · rw [hload]
      show (loaded.diagnostics.unknownKeys.map Event.unknownKey).map Event.record = _
      rw [List.map_map]
      rfl
  · intro cause hload
    rw [hload]
    rfl

/-- A document with a key of digits in its root, in a group of settings and in a helper. -/
def digitKeys : Entries :=
  [("7", .integer 1),
    ("sugar", .table [("7", .table [("x", .integer 2)]),
      ("builtins", .array [.table [("name", .string "Mock"), ("0", .integer 3)]])])]

/-- Keys of digits that look like positions are told apart from them all the same. -/
theorem unknownKeys_complete_of_digits :
    ListsIgnored digitKeys ["7", "sugar.builtins[0][0]", "sugar[7]"] := by
  have hparse : Toml.parse?
      "7 = 1\n[sugar.7]\nx = 2\n[[sugar.builtins]]\nname = \"Mock\"\n0 = 3\n" =
        some digitKeys := by
    decide +kernel
  have hsettings : Settings.ofEntries digitKeys =
      .ok ⟨{ SugarSettings.standard with helpers := [⟨"Mock", 0, 2⟩] }, .standard⟩ := rfl
  have hkeys : unknownKeys digitKeys = ["7", "sugar.builtins[0][0]", "sugar[7]"] := by
    decide +kernel
  have hhelper : (Value.table [("name", .string "Mock"), ("0", .integer 3)]).BareKeyed :=
    .table (by decide) (by simp [Value.BareKeyed.string, Value.BareKeyed.integer])
  have hhelpers : (Value.array [.table [("name", .string "Mock"), ("0", .integer 3)]]).BareKeyed :=
    .array (by simpa using hhelper)
  have hbelow : (Value.table [("x", .integer 2)]).BareKeyed :=
    .table (by decide) (by simp [Value.BareKeyed.integer])
  have hgroup : (Value.table [("7", .table [("x", .integer 2)]),
      ("builtins", .array [.table [("name", .string "Mock"), ("0", .integer 3)]])]).BareKeyed :=
    .table (by decide) (by simpa using ⟨hbelow, hhelpers⟩)
  have hbare : (Value.table digitKeys).BareKeyed :=
    .table (by decide) (by simpa [digitKeys, Value.BareKeyed.integer] using hgroup)
  have htables : HasTables digitKeys := by
    constructor
    · simp [digitKeys, Toml.Value.isTable]
    · simp [digitKeys]
    · intro group items v hmem hitems hv
      obtain rfl : group = [("7", .table [("x", .integer 2)]),
          ("builtins", .array [.table [("name", .string "Mock"), ("0", .integer 3)]])] := by
        simpa [digitKeys] using hmem
      obtain rfl : items = [.table [("name", .string "Mock"), ("0", .integer 3)]] := by
        simpa using hitems
      rw [List.mem_singleton.mp hv]
      rfl
  have hload := loadWith_of_parse? Loaded.ofEntries hparse
  rw [Loaded.ofEntries_eq, hsettings] at hload
  rw [← hkeys]
  exact ((unknownKeys_complete _).1 _ _ hparse hbare htables hload).1

end Desugar
