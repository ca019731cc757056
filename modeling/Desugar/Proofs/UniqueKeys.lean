import Desugar.Toml.Document

/-!
# Keys are unique

A document is built from its lines piece by piece, in tables that are extended, moved and taken up
again. Whatever the lines are, no table of a document that is read has a key twice, at any depth.
The tables under construction are followed through every step, and the values through the scanners
that read them.

## Contents

* `Value.UniquelyKeyed`, `Table.UniquelyKeyed` — no key twice, at any depth.
* `Table.UniquelyKeyed.set`, `Table.UniquelyKeyed.update` — what the changes of a table keep.
* `Scan.Yields` — what holds of everything that a scanner reads, with one rule per combinator.
* `Construction.UniquelyKeyed.addAll` — what the lines of a document keep.
* `uniquelyKeyed_of_parse?` — the statement for documents.
-/

namespace Desugar.Toml

/-- A value in which no table, at any depth, has a key twice. -/
inductive Value.UniquelyKeyed : Value → Prop
  | string (s : String) : UniquelyKeyed (.string s)
  | integer (i : Int) : UniquelyKeyed (.integer i)
  | float (x : Binary64) : UniquelyKeyed (.float x)
  | boolean (b : Bool) : UniquelyKeyed (.boolean b)
  | dateTime (text : String) : UniquelyKeyed (.dateTime text)
  | array {items : List Value} : (∀ v ∈ items, UniquelyKeyed v) → UniquelyKeyed (.array items)
  | table {es : Entries} : (es.map Prod.fst).Nodup → (∀ e ∈ es, UniquelyKeyed e.2) →
      UniquelyKeyed (.table es)

/-! ## Tables under construction -/

theorem Table.toValues_eq_map (ts : List Table) : Table.toValues ts = ts.map Table.toValue := by
  induction ts with
  | nil => rfl
  | cons t ts ih => rw [Table.toValues, ih, List.map_cons]

theorem Table.toEntries_eq_map (es : List (String × Item)) :
    Table.toEntries es = es.map fun e => (e.1, e.2.toValue) := by
  induction es with
  | nil => rfl
  | cons e es ih => rw [Table.toEntries, ih, List.map_cons]

/-- A table under construction whose finished value has no key twice. -/
def Table.UniquelyKeyed (t : Table) : Prop :=
  (t.entries.map Prod.fst).Nodup ∧ ∀ e ∈ t.entries, e.2.toValue.UniquelyKeyed

namespace Table

variable {t t' : Table} {key : String} {item : Item}

theorem toValue_eq (t : Table) : t.toValue = .table (toEntries t.entries) := by
  obtain ⟨isImplicit, isDotted, entries⟩ := t
  rw [toValue]

theorem uniquelyKeyed_toValue : t.toValue.UniquelyKeyed ↔ t.UniquelyKeyed := by
  rw [toValue_eq, toEntries_eq_map]
  have hkeys : (t.entries.map fun e => (e.1, e.2.toValue)).map Prod.fst =
      t.entries.map Prod.fst := by
    rw [List.map_map]
    rfl
  constructor
  · intro h
    cases h with
    | table hnodup hvalues =>
        refine ⟨hkeys ▸ hnodup, fun e he => ?_⟩
        exact hvalues (e.1, e.2.toValue) (List.mem_map.mpr ⟨e, he, rfl⟩)
  · rintro ⟨hnodup, hvalues⟩
    refine .table (hkeys.symm ▸ hnodup) fun e he => ?_
    obtain ⟨f, hf, rfl⟩ := List.mem_map.mp he
    exact hvalues f hf

/-- A list of tables under construction is without repeated keys if they all are. -/
theorem uniquelyKeyed_tables {ts : List Table} :
    (Item.tables ts).toValue.UniquelyKeyed ↔ ∀ u ∈ ts, u.UniquelyKeyed := by
  rw [Item.toValue, toValues_eq_map]
  constructor
  · intro h u hu
    cases h with
    | array hitems => exact uniquelyKeyed_toValue.mp (hitems _ (List.mem_map_of_mem hu))
  · intro h
    refine .array fun v hv => ?_
    obtain ⟨u, hu, rfl⟩ := List.mem_map.mp hv
    exact uniquelyKeyed_toValue.mpr (h u hu)

/-- Setting an entry keeps the keys that are there, and puts a new one behind them. -/
theorem keys_setEntry (key : String) (item : Item) (es : List (String × Item)) :
    (setEntry key item es).map Prod.fst =
      if key ∈ es.map Prod.fst then es.map Prod.fst else es.map Prod.fst ++ [key] := by
  induction es with
  | nil => rfl
  | cons e es ih =>
      obtain ⟨k, i⟩ := e
      by_cases hk : k = key
      · subst hk
        simp [setEntry]
      · rw [setEntry, if_neg hk, List.map_cons, ih, List.map_cons]
        by_cases hmem : key ∈ es.map Prod.fst
        · rw [if_pos hmem, if_pos (List.mem_cons_of_mem k hmem)]
        · have hnew : key ∉ k :: es.map Prod.fst := by
            rw [List.mem_cons]
            rintro (rfl | hrest)
            · exact hk rfl
            · exact hmem hrest
          rw [if_neg hmem, if_neg hnew, List.cons_append]

theorem mem_setEntry {e : String × Item} {es : List (String × Item)}
    (h : e ∈ setEntry key item es) : e = (key, item) ∨ e ∈ es := by
  induction es with
  | nil => exact .inl (List.mem_singleton.mp h)
  | cons f es ih =>
      obtain ⟨k, i⟩ := f
      unfold setEntry at h
      split at h
      · rcases List.mem_cons.mp h with rfl | h
        · exact .inl rfl
        · exact .inr (List.mem_cons_of_mem _ h)
      · rcases List.mem_cons.mp h with rfl | h
        · exact .inr List.mem_cons_self
        · exact (ih h).imp id (List.mem_cons_of_mem _)

theorem uniquelyKeyed_explicit : Table.explicit.UniquelyKeyed :=
  ⟨List.nodup_nil, by simp [explicit]⟩

theorem uniquelyKeyed_implicit (dotted : Bool) : (Table.implicit dotted).UniquelyKeyed :=
  ⟨List.nodup_nil, by simp [implicit]⟩

namespace UniquelyKeyed

/-- What a table holds under a key has no key twice. -/
theorem get? (h : t.UniquelyKeyed) (hget : t.get? key = some item) :
    item.toValue.UniquelyKeyed := by
  obtain ⟨before, after, hsplit, -⟩ := List.lookup_eq_some_iff.mp hget
  exact h.2 (key, item) (by simp [hsplit])

theorem set (h : t.UniquelyKeyed) (hitem : item.toValue.UniquelyKeyed) :
    (t.set key item).UniquelyKeyed := by
  constructor
  · show ((setEntry key item t.entries).map Prod.fst).Nodup
    rw [keys_setEntry]
    split
    · exact h.1
    · rename_i hnew
      rw [List.nodup_append]
      refine ⟨h.1, by simp, ?_⟩
      rintro k hk k' hk' rfl
      exact hnew (List.mem_singleton.mp hk' ▸ hk)
  · intro e he
    rcases mem_setEntry he with rfl | he
    · exact hitem
    · exact h.2 e he

theorem erase (h : t.UniquelyKeyed) : (t.erase key).UniquelyKeyed :=
  ⟨h.1.sublist (List.filter_sublist.map Prod.fst), fun e he => h.2 e (List.mem_filter.mp he).1⟩

/-- A change at the end of a path keeps keys unique if it does so where it is made. By induction
    over the path: every table on the way is put back in the place it had. -/
theorem update {dotted : Bool} {change : Table → Option Table}
    (hchange : ∀ u u', u.UniquelyKeyed → change u = some u' → u'.UniquelyKeyed)
    {path : List String} (h : t.UniquelyKeyed)
    (hupdate : Table.update dotted change path t = some t') : t'.UniquelyKeyed := by
  induction path generalizing t t' with
  | nil => exact hchange t t' h hupdate
  | cons key path ih =>
      unfold Table.update at hupdate
      split at hupdate
      next hget =>
        obtain ⟨child, hchild, heq⟩ := Option.bind_eq_some_iff.mp hupdate
        obtain rfl := Option.some.inj heq
        exact h.set (uniquelyKeyed_toValue.mpr (ih (uniquelyKeyed_implicit dotted) hchild))
      next v hget => exact absurd hupdate (by simp)
      next ts hget =>
        split at hupdate
        next hlast => exact absurd hupdate (by simp)
        next last hlast =>
          obtain ⟨child, hchild, heq⟩ := Option.bind_eq_some_iff.mp hupdate
          obtain rfl := Option.some.inj heq
          have hts : ∀ u ∈ ts, u.UniquelyKeyed := uniquelyKeyed_tables.mp (h.get? hget)
          have hnew : child.UniquelyKeyed := ih (hts last (List.mem_of_getLast? hlast)) hchild
          refine h.set (uniquelyKeyed_tables.mpr fun u hu => ?_)
          rcases List.mem_append.mp hu with hu | hu
          · exact hts u ((List.dropLast_sublist ts).subset hu)
          · exact List.mem_singleton.mp hu ▸ hnew
      next child hget =>
        split at hupdate
        · exact absurd hupdate (by simp)
        · obtain ⟨child', hchild, heq⟩ := Option.bind_eq_some_iff.mp hupdate
          obtain rfl := Option.some.inj heq
          have hold : child.UniquelyKeyed := uniquelyKeyed_toValue.mp (h.get? hget)
          exact h.set (uniquelyKeyed_toValue.mpr (ih hold hchild))

theorem define (h : t.UniquelyKeyed) {path : List String} {v : Value} (hv : v.UniquelyKeyed)
    (hdefine : t.define path key v = some t') : t'.UniquelyKeyed := by
  refine h.update (fun u u' hu hchange => ?_) hdefine
  split at hchange
  · exact absurd hchange (by simp)
  · split at hchange
    · exact absurd hchange (by simp)
    · obtain rfl := Option.some.inj hchange
      exact hu.set hv

theorem defineAll {pairs : List ((List String × String) × Value)} (h : t.UniquelyKeyed)
    (hpairs : ∀ p ∈ pairs, p.2.UniquelyKeyed) (hdefine : t.defineAll pairs = some t') :
    t'.UniquelyKeyed := by
  induction pairs generalizing t with
  | nil => exact Option.some.inj hdefine ▸ h
  | cons p pairs ih =>
      obtain ⟨⟨path, key⟩, v⟩ := p
      obtain ⟨u, hu, hrest⟩ := Option.bind_eq_some_iff.mp hdefine
      have hfirst : u.UniquelyKeyed := h.define (hpairs _ List.mem_cons_self) hu
      exact ih hfirst (fun q hq => hpairs q (List.mem_cons_of_mem _ hq)) hrest

end UniquelyKeyed

end Table

/-! ## Scanners -/

namespace Scan

variable {α β : Type} {p q : Scan α} {P Q : α → Prop}

/-- Everything that a scanner reads has a property. -/
def Yields (p : Scan α) (P : α → Prop) : Prop := ∀ cs a rest, p cs = some (a, rest) → P a

namespace Yields

theorem mono (hp : Yields p P) (hPQ : ∀ a, P a → Q a) : Yields p Q :=
  fun cs a rest h => hPQ a (hp cs a rest h)

/-- Nothing is claimed. -/
theorem anything (p : Scan α) : Yields p fun _ => True := fun _ _ _ _ => trivial

theorem pure {a : α} (ha : P a) : Yields (Pure.pure a) P := by
  intro cs b rest h
  obtain ⟨rfl, -⟩ := Prod.mk.inj (Option.some.inj h)
  exact ha

theorem failure : Yields (Alternative.failure : Scan α) P := by
  intro cs a rest h
  have hnone : (none : Option (α × List Char)) = some (a, rest) := h
  exact absurd hnone (by simp)

theorem bind {f : α → Scan β} {R : β → Prop} (hp : Yields p P) (hf : ∀ a, P a → Yields (f a) R) :
    Yields (p >>= f) R := by
  intro cs b rest h
  obtain ⟨⟨a, mid⟩, hfirst, hthen⟩ := Option.bind_eq_some_iff.mp h
  exact hf a (hp cs a mid hfirst) mid b rest hthen

theorem map {f : α → β} {R : β → Prop} (hp : Yields p fun a => R (f a)) : Yields (f <$> p) R := by
  intro cs b rest h
  obtain ⟨⟨a, mid⟩, hfirst, heq⟩ := Option.bind_eq_some_iff.mp h
  obtain ⟨rfl, -⟩ := Prod.mk.inj (Option.some.inj heq)
  exact hp cs a mid hfirst

theorem seqRight {p : Scan α} {q : Scan β} {R : β → Prop} (hq : Yields q R) : Yields (p *> q) R :=
  (anything p).bind fun _ _ => hq

theorem seqLeft {p : Scan α} {q : Scan β} (hp : Yields p P) : Yields (p <* q) P :=
  hp.bind fun _ ha => (anything q).bind fun _ _ => pure ha

theorem orElse (hp : Yields p P) (hq : Yields q P) : Yields (p <|> q) P := by
  intro cs a rest h
  have hcases : (p cs <|> q cs) = some (a, rest) := h
  cases hfirst : p cs with
  | some found =>
      rw [hfirst] at hcases
      obtain rfl : found = (a, rest) := Option.some.inj hcases
      exact hp cs a rest hfirst
  | none =>
      rw [hfirst] at hcases
      exact hq cs a rest hcases

theorem maybe (hp : Yields p P) : Yields (Scan.maybe p) fun o => ∀ a, o = some a → P a := by
  intro cs o rest h a ho
  subst ho
  unfold Scan.maybe at h
  split at h
  next b mid hb =>
    obtain ⟨heq, -⟩ := Prod.mk.inj (Option.some.inj h)
    obtain rfl := Option.some.inj heq
    exact hp cs _ mid hb
  next hb => exact absurd h (by simp)

/-- What is read one after the other, by induction over the repetition. -/
theorem repeated (hp : Yields p P) (cs : List Char) : ∀ a ∈ (Scan.repeated p cs).1, P a := by
  fun_induction Scan.repeated p cs with
  | case1 cs hnone => simp
  | case2 cs a rest hsome hlt more ih =>
      intro b hb
      rcases List.mem_cons.mp hb with rfl | hb
      · exact hp cs _ rest hsome
      · exact ih b hb
  | case3 cs a rest hsome hlt =>
      intro b hb
      exact List.mem_singleton.mp hb ▸ hp cs a rest hsome

theorem many (hp : Yields p P) : Yields (Scan.many p) fun as => ∀ a ∈ as, P a := by
  intro cs as rest h
  have heq : (Scan.repeated p cs).1 = as := congrArg Prod.fst (Option.some.inj h)
  exact heq ▸ hp.repeated cs

theorem separated (hp : Yields p P) (separator : Scan Unit) :
    Yields (Scan.separated p separator) fun as => ∀ a ∈ as, P a := by
  refine hp.bind fun first hfirst => ?_
  refine (many (seqRight hp)).bind fun more hmore => pure ?_
  intro a ha
  rcases List.mem_cons.mp ha with rfl | ha
  · exact hfirst
  · exact hmore a ha

end Yields

/-! ### Values -/

theorem yields_scalar : Yields scalar Value.UniquelyKeyed := by
  unfold scalar
  refine .orElse (.map ?_) (.orElse (.seqRight (.pure (.boolean true))) (.orElse
    (.seqRight (.pure (.boolean false))) (.orElse (.map ?_) (.orElse (.map ?_) (.map ?_)))))
  · exact (Yields.anything text).mono fun s _ => .string s
  · exact (Yields.anything dateTime).mono fun s _ => .dateTime s
  · exact (Yields.anything float).mono fun x _ => .float x
  · exact (Yields.anything integer).mono fun i _ => .integer i

theorem yields_array {value : Scan Value} (h : Yields value Value.UniquelyKeyed) :
    Yields (array value) Value.UniquelyKeyed := by
  have hitems : Yields (Scan.separated (filler *> value <* filler) (exactly ',') <*
      Scan.maybe (exactly ',')) fun vs => ∀ v ∈ vs, v.UniquelyKeyed :=
    .seqLeft (Yields.separated (.seqLeft (.seqRight h)) _)
  unfold array
  refine (Yields.anything _).bind fun _ _ => hitems.maybe.bind fun items hitems => ?_
  refine (Yields.anything _).bind fun _ _ => (Yields.anything _).bind fun _ _ => .pure (.array ?_)
  intro v hv
  cases items with
  | none => exact absurd hv (by simp)
  | some vs => exact hitems vs rfl v hv

theorem yields_keyValue {value : Scan Value} (h : Yields value Value.UniquelyKeyed) :
    Yields (keyValue value) fun pair => pair.2.UniquelyKeyed := by
  unfold keyValue
  refine (Yields.anything _).bind fun path _ => (Yields.anything _).bind fun _ _ => ?_
  exact (Yields.anything _).bind fun _ _ => h.bind fun v hv => .pure hv

theorem yields_inlineTable {value : Scan Value} (h : Yields value Value.UniquelyKeyed) :
    Yields (inlineTable value) Value.UniquelyKeyed := by
  have hpairs : Yields (Scan.separated (keyValue value <* spaces) (exactly ','))
      fun pairs => ∀ pair ∈ pairs, pair.2.UniquelyKeyed :=
    .separated (.seqLeft (yields_keyValue h)) _
  unfold inlineTable
  refine (Yields.anything _).bind fun _ _ => hpairs.maybe.bind fun pairs hpairs => ?_
  refine (Yields.anything _).bind fun _ _ => (Yields.anything _).bind fun _ _ => ?_
  have hdefined : ∀ pair ∈ pairs.getD [], pair.2.UniquelyKeyed := by
    intro pair hpair
    cases pairs with
    | none => exact absurd hpair (by simp)
    | some ps => exact hpairs ps rfl pair hpair
  split
  next t ht =>
    exact .pure (Table.uniquelyKeyed_toValue.mpr
      (Table.uniquelyKeyed_explicit.defineAll hdefined ht))
  next ht => exact .failure

/-- Values nest to a limited depth, and the induction is over that. -/
theorem yields_value (depth : Nat) : Yields (value depth) Value.UniquelyKeyed := by
  induction depth with
  | zero => exact yields_scalar
  | succ depth ih => exact .orElse (yields_array ih) (.orElse (yields_inlineTable ih) yields_scalar)

/-! ### Lines -/

end Scan

/-- A line that defines no value with a key twice. -/
def Statement.UniquelyKeyed : Statement → Prop
  | .define _ _ v => v.UniquelyKeyed
  | _ => True

namespace Scan

theorem yields_elementHeader : Yields elementHeader Statement.UniquelyKeyed := by
  unfold elementHeader
  refine (Yields.anything _).bind fun _ _ => (Yields.anything _).bind fun _ _ => ?_
  exact (Yields.anything _).bind fun _ _ => (Yields.anything _).bind fun _ _ => .pure trivial

theorem yields_tableHeader : Yields tableHeader Statement.UniquelyKeyed := by
  unfold tableHeader
  refine (Yields.anything _).bind fun _ _ => (Yields.anything _).bind fun _ _ => ?_
  exact (Yields.anything _).bind fun _ _ => (Yields.anything _).bind fun _ _ => .pure trivial

theorem yields_definition : Yields definition Statement.UniquelyKeyed := by
  unfold definition
  refine (yields_keyValue (yields_value maxDepth)).bind fun pair hpair => ?_
  exact (Yields.anything _).bind fun _ _ => .pure hpair

theorem yields_statement : Yields statement Statement.UniquelyKeyed := by
  unfold statement
  refine .orElse (.seqRight (.pure trivial)) (.orElse (.seqRight (.pure trivial)) ?_)
  exact .orElse yields_elementHeader (.orElse yields_tableHeader yields_definition)

theorem yields_document :
    Yields document fun statements => ∀ s ∈ statements, s.UniquelyKeyed := by
  unfold document
  refine (Yields.anything _).bind fun _ _ => (Yields.anything _).bind fun _ _ => ?_
  refine (Yields.many (.seqLeft yields_statement)).bind fun statements hstatements => ?_
  exact (Yields.anything _).bind fun _ _ => .pure hstatements

end Scan

/-! ## Documents -/

namespace Construction

/-- A construction whose tables have no key twice. -/
structure UniquelyKeyed (c : Construction) : Prop where
  root : c.root.UniquelyKeyed
  current : c.current.UniquelyKeyed

variable {c c' : Construction} {t parent : Table} {key : String}

theorem uniquelyKeyed_start : start.UniquelyKeyed :=
  ⟨Table.uniquelyKeyed_explicit, Table.uniquelyKeyed_explicit⟩

/-- The table that a path leads to is one of the tables below the root. -/
theorem uniquelyKeyed_lookup {path : List String} (h : t.UniquelyKeyed)
    (hlookup : lookup t path = some parent) : parent.UniquelyKeyed := by
  induction path generalizing t with
  | nil => exact Option.some.inj hlookup ▸ h
  | cons key path ih =>
      unfold lookup at hlookup
      split at hlookup
      next child hget => exact ih (Table.uniquelyKeyed_toValue.mp (h.get? hget)) hlookup
      next ts hget =>
        obtain ⟨last, hlast, hlookup⟩ := Option.bind_eq_some_iff.mp hlookup
        have hts : ∀ u ∈ ts, u.UniquelyKeyed := Table.uniquelyKeyed_tables.mp (h.get? hget)
        exact ih (hts last (List.mem_of_getLast? hlast)) hlookup
      next v hget => exact absurd hlookup (by simp)
      next hget => exact Option.some.inj hlookup ▸ Table.uniquelyKeyed_implicit false

theorem uniquelyKeyed_adopt (h : parent.UniquelyKeyed) (hadopt : adopt parent key = some t) :
    t.UniquelyKeyed := by
  unfold adopt at hadopt
  split at hadopt
  next hget => exact Option.some.inj hadopt ▸ Table.uniquelyKeyed_explicit
  next child hget =>
    split at hadopt
    · have hchild : child.UniquelyKeyed := Table.uniquelyKeyed_toValue.mp (h.get? hget)
      exact Option.some.inj hadopt ▸ hchild
    · exact absurd hadopt (by simp)
  next => exact absurd hadopt (by simp)

namespace UniquelyKeyed

/-- Putting the current table into its place keeps keys unique. -/
theorem finish (h : c.UniquelyKeyed) (hfinish : c.finish = some t) : t.UniquelyKeyed := by
  unfold Construction.finish at hfinish
  split at hfinish
  next hplace => exact Option.some.inj hfinish ▸ h.current
  next path key hplace =>
    refine h.root.update (fun u u' hu hchange => ?_) hfinish
    split at hchange
    · split at hchange
      next ts hget =>
        have hts : ∀ v ∈ ts, v.UniquelyKeyed := Table.uniquelyKeyed_tables.mp (hu.get? hget)
        obtain rfl := Option.some.inj hchange
        refine hu.set (Table.uniquelyKeyed_tables.mpr fun v hv => ?_)
        rcases List.mem_append.mp hv with hv | hv
        · exact hts v hv
        · exact List.mem_singleton.mp hv ▸ h.current
      next => exact absurd hchange (by simp)
    · obtain rfl := Option.some.inj hchange
      exact hu.set (Table.uniquelyKeyed_toValue.mpr h.current)

/-- One more line keeps keys unique. -/
theorem add (h : c.UniquelyKeyed) {s : Statement} (hs : s.UniquelyKeyed)
    (hadd : c.add s = some c') : c'.UniquelyKeyed := by
  cases s with
  | nothing => exact Option.some.inj hadd ▸ h
  | define path key v =>
      obtain ⟨current, hcurrent, heq⟩ := Option.bind_eq_some_iff.mp hadd
      obtain rfl := Option.some.inj heq
      exact ⟨h.root, h.current.define hs hcurrent⟩
  | table path key =>
      obtain ⟨root, hroot, hadd⟩ := Option.bind_eq_some_iff.mp hadd
      obtain ⟨parent, hparent, hadd⟩ := Option.bind_eq_some_iff.mp hadd
      obtain ⟨current, hcurrent, hadd⟩ := Option.bind_eq_some_iff.mp hadd
      obtain ⟨root', hroot', heq⟩ := Option.bind_eq_some_iff.mp hadd
      obtain rfl := Option.some.inj heq
      have hfinished : root.UniquelyKeyed := h.finish hroot
      refine ⟨hfinished.update (fun u u' hu hchange => ?_) hroot', ?_⟩
      · exact Option.some.inj hchange ▸ hu.erase
      · exact uniquelyKeyed_adopt (uniquelyKeyed_lookup hfinished hparent) hcurrent
  | element path key =>
      obtain ⟨root, hroot, hadd⟩ := Option.bind_eq_some_iff.mp hadd
      obtain ⟨root', hroot', heq⟩ := Option.bind_eq_some_iff.mp hadd
      obtain rfl := Option.some.inj heq
      refine ⟨(h.finish hroot).update (fun u u' hu hchange => ?_) hroot',
        Table.uniquelyKeyed_explicit⟩
      split at hchange
      next hget =>
        obtain rfl := Option.some.inj hchange
        exact hu.set (Table.uniquelyKeyed_tables.mpr (by simp))
      next ts hget => exact Option.some.inj hchange ▸ hu
      next => exact absurd hchange (by simp)

theorem addAll (h : c.UniquelyKeyed) {statements : List Statement}
    (hstatements : ∀ s ∈ statements, s.UniquelyKeyed) (hadd : c.addAll statements = some c') :
    c'.UniquelyKeyed := by
  induction statements generalizing c with
  | nil => exact Option.some.inj hadd ▸ h
  | cons s statements ih =>
      obtain ⟨next, hnext, hrest⟩ := Option.bind_eq_some_iff.mp hadd
      have hfirst : next.UniquelyKeyed := h.add (hstatements s List.mem_cons_self) hnext
      exact ih hfirst (fun u hu => hstatements u (List.mem_cons_of_mem s hu)) hrest

end UniquelyKeyed

end Construction

/-- **No key of a document comes twice**, at any depth. -/
theorem uniquelyKeyed_of_parse? {text : String} {es : Entries} (h : parse? text = some es) :
    (Value.table es).UniquelyKeyed := by
  obtain ⟨⟨statements, rest⟩, hscan, h⟩ := Option.bind_eq_some_iff.mp h
  obtain ⟨construction, hadd, h⟩ := Option.bind_eq_some_iff.mp h
  obtain ⟨root, hfinish, heq⟩ := Option.bind_eq_some_iff.mp h
  obtain rfl := Option.some.inj heq
  have hstatements := Scan.yields_document _ statements rest hscan
  have hroot : root.UniquelyKeyed :=
    (Construction.uniquelyKeyed_start.addAll hstatements hadd).finish hfinish
  rw [← Table.toValue_eq]
  exact Table.uniquelyKeyed_toValue.mpr hroot

end Desugar.Toml
