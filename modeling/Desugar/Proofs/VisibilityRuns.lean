import Desugar.Syntax.Declaration

/-!
# Runs over modifiers

The three flags of visibility share a word with all other flags. A visibility is set by clearing the
three and setting at most one; flags can also be set and cleared one by one, those of visibility
among them, and nothing forbids a word that states several visibilities. This module follows any run
of such steps and keeps the two parts of the word apart: what happens to the other flags is a run of
its own that no visibility takes part in, and a visibility that is set leaves no trace of earlier
ones.

## Contents

* `Modifiers.beyond`, `Modifiers.Step.beyond?` — the other flags, and what a step does to them.
* `Modifiers.Step.beyond_foldl_effect` — a run as the other flags see it.
* `Visibility.of_eq_of_stated` — the visibility is read off the three flags alone.
* `Modified.Lawful` — declarations that keep their modifiers apart from everything else.
* `Modifiers.RunAccount`, `visibility_runs` — the account of a run over a field or a method.
-/

namespace Desugar

namespace Modifiers

/-! ## The other flags -/

/-- The flags that state no visibility. -/
def beyond (m : Modifiers) : Modifiers := m.remove visibilityFlags

theorem beyond_union (m n : Modifiers) : (m.union n).beyond = m.beyond.union n.beyond :=
  congrArg Modifiers.mk BitVec.and_or_distrib_right

/-- Clearing a flag of visibility is not noticed beyond. -/
theorem beyond_remove (m n : Modifiers) : (m.remove n).beyond = m.beyond.remove n.beyond := by
  refine congrArg Modifiers.mk (BitVec.eq_of_getLsbD_eq fun i hi => ?_)
  simp only [beyond, remove, BitVec.getLsbD_and, BitVec.getLsbD_not, hi, decide_true, Bool.true_and]
  cases m.bits.getLsbD i <;> cases n.bits.getLsbD i <;> cases visibilityFlags.bits.getLsbD i <;> rfl

theorem beyond_modifier (v : Visibility) : v.modifier.beyond = empty := by
  cases v <;> decide

theorem union_empty (m : Modifiers) : m.union empty = m :=
  congrArg Modifiers.mk BitVec.or_zero

theorem beyond_beyond (m : Modifiers) : m.beyond.beyond = m.beyond := by
  refine congrArg Modifiers.mk (BitVec.eq_of_getLsbD_eq fun i hi => ?_)
  simp only [beyond, remove, BitVec.getLsbD_and, Bool.and_assoc, Bool.and_self]

/-- The new visibility is put to the other flags; which one was there before is forgotten. -/
theorem withVisibility_eq (m : Modifiers) (v : Visibility) :
    m.withVisibility v = m.beyond.union v.modifier := rfl

theorem beyond_withVisibility (m : Modifiers) (v : Visibility) :
    (m.withVisibility v).beyond = m.beyond := by
  rw [withVisibility_eq, beyond_union, beyond_beyond, beyond_modifier, union_empty]

/-- A set of flags beyond visibility is contained in a word as in the other flags of the word. -/
theorem contains_beyond {m n : Modifiers} (h : n.beyond = n) :
    m.beyond.contains n = m.contains n := by
  have hbits : n.bits &&& ~~~visibilityFlags.bits = n.bits := congrArg bits h
  have hword : m.beyond.bits &&& n.bits = m.bits &&& n.bits := by
    show m.bits &&& ~~~visibilityFlags.bits &&& n.bits = m.bits &&& n.bits
    rw [BitVec.and_assoc, BitVec.and_comm (~~~visibilityFlags.bits) n.bits, hbits]
  unfold contains
  rw [hword]

end Modifiers

/-! ## The flags of visibility -/

/-- Whether a flag of visibility is set can be told from the three flags alone. -/
theorem Modifiers.contains_of_stated {m n flag : Modifiers}
    (h : m.bits &&& visibilityFlags.bits = n.bits)
    (hflag : visibilityFlags.bits &&& flag.bits = flag.bits) :
    m.contains flag = n.contains flag := by
  have hword : m.bits &&& flag.bits = n.bits &&& flag.bits := by
    rw [← h, BitVec.and_assoc, hflag]
  unfold contains
  rw [hword]

/-- **The visibility is what the three flags state**, whatever the others are. -/
theorem Visibility.of_eq_of_stated {m : Modifiers} {v : Visibility}
    (h : m.bits &&& Modifiers.visibilityFlags.bits = v.modifier.bits) : Visibility.of m = v := by
  unfold Visibility.of
  rw [Modifiers.contains_of_stated h (by decide), Modifiers.contains_of_stated h (by decide),
    Modifiers.contains_of_stated h (by decide)]
  cases v <;> decide

theorem Modifiers.stated_withVisibility (m : Modifiers) (v : Visibility) :
    (m.withVisibility v).bits &&& visibilityFlags.bits = v.modifier.bits := by
  have hmodifier : v.modifier.bits &&& visibilityFlags.bits = v.modifier.bits := by
    cases v <;> decide
  have hcleared : m.beyond.bits &&& visibilityFlags.bits = 0#16 := by
    show m.bits &&& ~~~visibilityFlags.bits &&& visibilityFlags.bits = 0#16
    rw [BitVec.and_assoc, BitVec.and_comm (~~~visibilityFlags.bits), BitVec.and_not_self]
    exact BitVec.and_zero
  show (m.beyond.bits ||| v.modifier.bits) &&& visibilityFlags.bits = v.modifier.bits
  rw [BitVec.and_or_distrib_right, hcleared, hmodifier, BitVec.zero_or]

/-! ## Runs -/

namespace Modifiers.Step

/-- Whether a step sets a visibility. -/
def setsVisibility : Step → Bool
  | .setVisibility _ => true
  | _ => false

/-- What a step does to the flags beyond visibility, if it does anything. -/
def beyond? : Step → Option Step
  | .insert flags => some (.insert flags.beyond)
  | .remove flags => some (.remove flags.beyond)
  | .unite flags => some (.unite flags.beyond)
  | _ => none

/-- A step on a word does to the other flags what it does to them on their own. -/
theorem beyond_effect (m : Modifiers) (s : Step) :
    (s.effect m).beyond = s.beyond?.elim m.beyond (effect m.beyond) := by
  cases s with
  | setVisibility v => exact beyond_withVisibility m v
  | insert flags => exact beyond_union m flags
  | remove flags => exact beyond_remove m flags
  | unite flags => exact beyond_union m flags
  | _ => rfl

/-- **The other flags have a run of their own.** -/
theorem beyond_foldl_effect (m : Modifiers) (steps : List Step) :
    (steps.foldl effect m).beyond = (steps.filterMap beyond?).foldl effect m.beyond := by
  induction steps generalizing m with
  | nil => rfl
  | cons s steps ih =>
      rw [List.foldl_cons, ih, beyond_effect]
      cases hs : s.beyond? with
      | none => rw [List.filterMap_cons_none hs, Option.elim_none]
      | some t => rw [List.filterMap_cons_some hs, Option.elim_some, List.foldl_cons]

/-- That run does not see the settings of a visibility. -/
theorem filterMap_beyond?_filter (steps : List Step) :
    (steps.filter fun s => !s.setsVisibility).filterMap beyond? = steps.filterMap beyond? := by
  rw [List.filterMap_filter]
  refine congrArg (fun f => List.filterMap f steps) (funext fun s => ?_)
  cases s <;> rfl

end Modifiers.Step

/-! ## Declarations -/

/-- A kind of declaration in which the modifiers are a place of their own: what is put there is read
    back, and replaces what was there and nothing else. -/
class Modified.Lawful (α : Type) [Modified α] : Prop where
  modifiers_withModifiers : ∀ (a : α) (m : Modifiers), modifiers (withModifiers a m) = m
  withModifiers_withModifiers : ∀ (a : α) (m n : Modifiers),
    withModifiers (withModifiers a m) n = withModifiers a n
  withModifiers_modifiers : ∀ a : α, withModifiers a (modifiers a) = a

instance : Modified.Lawful Field where
  modifiers_withModifiers := fun _ _ => rfl
  withModifiers_withModifiers := fun _ _ _ => rfl
  withModifiers_modifiers := fun _ => rfl

instance : Modified.Lawful Method where
  modifiers_withModifiers := fun _ _ => rfl
  withModifiers_withModifiers := fun _ _ _ => rfl
  withModifiers_modifiers := fun _ => rfl

namespace Modifiers

open Modified (modifiers withModifiers)

variable {α : Type} [Modified α]

/-- **What a run over the modifiers of `a` comes to.** -/
structure RunAccount (a : α) (steps : List Step) : Prop where
  /-- Outside the three flags of visibility, the bits are those of the run from which every setting
      of a visibility is dropped. -/
  others : (modifiers (runFinal Step.perform a steps)).bits &&& ~~~visibilityFlags.bits =
    (modifiers (runFinal Step.perform a (steps.filter fun s => !s.setsVisibility))).bits &&&
      ~~~visibilityFlags.bits
  /-- After a visibility is set, exactly its flag is set among the three, and it is read back. -/
  stated : ∀ us v vs, steps = us ++ Step.setVisibility v :: vs →
    runFinal Step.perform a (us ++ [.setVisibility v]) =
        Modified.setVisibility (runFinal Step.perform a us) v ∧
      (modifiers (runFinal Step.perform a (us ++ [.setVisibility v]))).bits &&&
        visibilityFlags.bits = v.modifier.bits ∧
      Visibility.of (modifiers (runFinal Step.perform a (us ++ [.setVisibility v]))) = v
  /-- Up to there, only the other flags count: from any declaration with the same ones, and by any
      steps that do the same to them, the run ends with the same word. -/
  forgotten : ∀ us v vs, steps = us ++ Step.setVisibility v :: vs → ∀ (b : α) (ts : List Step),
    (modifiers b).bits &&& ~~~visibilityFlags.bits =
        (modifiers a).bits &&& ~~~visibilityFlags.bits →
      ts.filterMap Step.beyond? = us.filterMap Step.beyond? →
      modifiers (runFinal Step.perform b (ts ++ .setVisibility v :: vs)) =
        modifiers (runFinal Step.perform a steps)

variable [Modified.Lawful α]

open Modified.Lawful

/-- A run over a declaration is one over its modifiers, put back into their place. By induction over
    the steps, each of which puts its word where the one before it did. -/
theorem runFinal_perform (a : α) (steps : List Step) :
    runFinal Step.perform a steps = withModifiers a (steps.foldl Step.effect (modifiers a)) := by
  induction steps generalizing a with
  | nil => exact (withModifiers_modifiers a).symm
  | cons s steps ih =>
      rw [runFinal_cons, ih]
      show withModifiers (withModifiers a (s.effect (modifiers a))) _ = _
      rw [withModifiers_withModifiers]
      show withModifiers a (steps.foldl Step.effect
        (modifiers (withModifiers a (s.effect (modifiers a))))) = _
      rw [modifiers_withModifiers]
      rfl

theorem modifiers_runFinal (a : α) (steps : List Step) :
    modifiers (runFinal Step.perform a steps) = steps.foldl Step.effect (modifiers a) := by
  rw [runFinal_perform, modifiers_withModifiers]

theorem beyond_runFinal (a : α) (steps : List Step) :
    (modifiers (runFinal Step.perform a steps)).beyond =
      (steps.filterMap Step.beyond?).foldl Step.effect (modifiers a).beyond := by
  rw [modifiers_runFinal, Step.beyond_foldl_effect]

theorem beyond_runFinal_filter (a : α) (steps : List Step) :
    (modifiers (runFinal Step.perform a steps)).beyond =
      (modifiers (runFinal Step.perform a (steps.filter fun s => !s.setsVisibility))).beyond := by
  rw [beyond_runFinal, beyond_runFinal, Step.filterMap_beyond?_filter]

/-- The word in which a setting of a visibility leaves a run is made of the other flags. -/
theorem modifiers_runFinal_setVisibility (a : α) (us vs : List Step) (v : Visibility) :
    modifiers (runFinal Step.perform a (us ++ .setVisibility v :: vs)) =
      vs.foldl Step.effect
        ((modifiers (runFinal Step.perform a us)).beyond.union v.modifier) := by
  rw [modifiers_runFinal, List.foldl_append, List.foldl_cons, modifiers_runFinal]
  rfl

theorem runAccount (a : α) (steps : List Step) : RunAccount a steps where
  others := congrArg bits (beyond_runFinal_filter a steps)
  stated := by
    intro us v vs _
    have hstated : (modifiers (runFinal Step.perform a (us ++ [.setVisibility v]))).bits &&&
        visibilityFlags.bits = v.modifier.bits := by
      rw [modifiers_runFinal_setVisibility]
      exact stated_withVisibility (modifiers (runFinal Step.perform a us)) v
    exact ⟨runFinal_append _ a us _, hstated, Visibility.of_eq_of_stated hstated⟩
  forgotten := by
    rintro us v vs rfl b ts hstart hsteps
    have hbeyond : (modifiers b).beyond = (modifiers a).beyond := congrArg Modifiers.mk hstart
    rw [modifiers_runFinal_setVisibility, modifiers_runFinal_setVisibility, beyond_runFinal,
      beyond_runFinal, hbeyond, hsteps]

/-- Nothing but the modifiers changes, at any point of a run. -/
theorem runFinal_eq_withModifiers (a : α) (steps : List Step) :
    runFinal Step.perform a steps =
      withModifiers a (modifiers (runFinal Step.perform a steps)) := by
  rw [modifiers_runFinal, runFinal_perform]

end Modifiers

/-- Whether a method was made up does not depend on its visibility. -/
theorem Method.isSynthetic_runFinal_filter (m : Method) (steps : List Modifiers.Step) :
    (runFinal Modifiers.Step.perform m steps).isSynthetic =
      (runFinal Modifiers.Step.perform m
        (steps.filter fun s => !s.setsVisibility)).isSynthetic := by
  have hflag : Modifiers.syntheticFlag.beyond = Modifiers.syntheticFlag := by decide
  -- the mark stays, and the access flag is one of the other flags
  have hsynthetic : ∀ us, (runFinal Modifiers.Step.perform m us).isSynthetic =
      (m.synthetic ||
        (runFinal Modifiers.Step.perform m us).modifiers.beyond.contains .syntheticFlag) := by
    intro us
    rw [Modifiers.contains_beyond hflag, Modifiers.runFinal_eq_withModifiers m us]
    rfl
  have hbeyond : (runFinal Modifiers.Step.perform m steps).modifiers.beyond = _ :=
    Modifiers.beyond_runFinal_filter m steps
  rw [hsynthetic, hsynthetic, hbeyond]
  rfl

/-- **Setting a visibility touches nothing else.** Over any field or method, a run of steps that set
    a visibility and set or clear flags leaves the flags beyond visibility as the run without its
    settings of a visibility does. After each such setting the three flags state that visibility and
    no other, and nothing that came before it is seen in them. Nothing but the modifiers changes all
    along the run, and whether a method was made up does not depend on its visibility. -/
theorem visibility_runs (steps : List Modifiers.Step) :
    (∀ f : Field, Modifiers.RunAccount f steps ∧
      ∀ us, us <+: steps → runFinal Modifiers.Step.perform f us =
        { f with modifiers := (runFinal Modifiers.Step.perform f us).modifiers }) ∧
    (∀ m : Method, Modifiers.RunAccount m steps ∧
      (∀ us, us <+: steps → runFinal Modifiers.Step.perform m us =
        { m with modifiers := (runFinal Modifiers.Step.perform m us).modifiers }) ∧
      (runFinal Modifiers.Step.perform m steps).isSynthetic =
        (runFinal Modifiers.Step.perform m
          (steps.filter fun s => !s.setsVisibility)).isSynthetic) := by
  refine ⟨fun f => ⟨Modifiers.runAccount f steps, fun us _ => ?_⟩,
    fun m => ⟨Modifiers.runAccount m steps, fun us _ => ?_, m.isSynthetic_runFinal_filter steps⟩⟩
  · exact Modifiers.runFinal_eq_withModifiers f us
  · exact Modifiers.runFinal_eq_withModifiers m us

/-- A method whose flags state two visibilities, and one whose flags state none: once both are made
    protected and then get a flag of visibility each, their words are the same, and neither has
    another body. -/
theorem visibility_runs_of_method :
    (runFinal Modifiers.Step.perform
        ({ name := "f", modifiers := ⟨0x1003⟩, body := none } : Method)
        [.insert ⟨0x0009⟩, .setVisibility .protectedAccess, .unite ⟨0x0002⟩]).modifiers =
      (runFinal Modifiers.Step.perform
        ({ name := "g", modifiers := ⟨0x1000⟩, body := none } : Method)
        [.setVisibility .publicAccess, .insert ⟨0x0008⟩, .setVisibility .protectedAccess,
          .unite ⟨0x0002⟩]).modifiers ∧
    (runFinal Modifiers.Step.perform
        ({ name := "f", modifiers := ⟨0x1003⟩, body := none } : Method) [.insert ⟨0x0009⟩]).body =
      none := by
  have haccount := (visibility_runs
    [.insert ⟨0x0009⟩, .setVisibility .protectedAccess, .unite ⟨0x0002⟩]).2
    { name := "f", modifiers := ⟨0x1003⟩, body := none }
  refine ⟨?_, ?_⟩
  · exact (haccount.1.forgotten [.insert ⟨0x0009⟩] .protectedAccess [.unite ⟨0x0002⟩] rfl
      { name := "g", modifiers := ⟨0x1000⟩, body := none }
      [.setVisibility .publicAccess, .insert ⟨0x0008⟩] (by decide) rfl).symm
  · rw [haccount.2.1 [.insert ⟨0x0009⟩] (by simp)]

end Desugar
