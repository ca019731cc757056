import Desugar.Run

/-!
# Modifiers and visibility

The modifiers of a method or a field are sixteen flags in one word, with the values that class files
give them. Three of the flags state who may see the member; `Visibility` is what they mean together.

## Contents

* `Modifiers` — the word, its named flags, `contains`, `intersects`, `insert`, `remove`, `union`.
* `Visibility` — reading it off the flags (`of`) and the flag that states it (`modifier`).
* `Modifiers.withVisibility` — replace the visibility and keep every other flag.
* `Modified` — the declarations that carry modifiers.
* `Modifiers.Step` — one step of a run over the modifiers of a declaration.
-/

namespace Desugar

/-! ## The flags -/

/-- The access flags of a member. -/
structure Modifiers where
  bits : BitVec 16
  deriving DecidableEq

namespace Modifiers

/-- No flag. -/
def empty : Modifiers := ⟨0x0000⟩

def publicFlag : Modifiers := ⟨0x0001⟩
def privateFlag : Modifiers := ⟨0x0002⟩
def protectedFlag : Modifiers := ⟨0x0004⟩
def staticFlag : Modifiers := ⟨0x0008⟩
def finalFlag : Modifiers := ⟨0x0010⟩
def synchronizedFlag : Modifiers := ⟨0x0020⟩
def volatileFlag : Modifiers := ⟨0x0040⟩
def transientFlag : Modifiers := ⟨0x0080⟩
def nativeFlag : Modifiers := ⟨0x0100⟩
def abstractFlag : Modifiers := ⟨0x0400⟩
def syntheticFlag : Modifiers := ⟨0x1000⟩

/-- All flags of both. -/
def union (m n : Modifiers) : Modifiers := ⟨m.bits ||| n.bits⟩

/-- The three flags that state a visibility. -/
def visibilityFlags : Modifiers := (publicFlag.union privateFlag).union protectedFlag

/-- The flags with their names. -/
def named : List (String × Modifiers) :=
  [("PUBLIC", publicFlag), ("PRIVATE", privateFlag), ("PROTECTED", protectedFlag),
    ("STATIC", staticFlag), ("FINAL", finalFlag), ("SYNCHRONIZED", synchronizedFlag),
    ("VOLATILE", volatileFlag), ("TRANSIENT", transientFlag), ("NATIVE", nativeFlag),
    ("ABSTRACT", abstractFlag), ("SYNTHETIC", syntheticFlag), ("VISIBILITY", visibilityFlags)]

/-- The flag of a given name. -/
def ofName? (name : String) : Option Modifiers := named.lookup name

/-- All flags of a list. -/
def unionAll (ms : List Modifiers) : Modifiers := ms.foldl union empty

/-- Whether every flag of `n` is set in `m`. -/
def contains (m n : Modifiers) : Bool := m.bits &&& n.bits == n.bits

/-- Whether some flag of `n` is set in `m`. -/
def intersects (m n : Modifiers) : Bool := m.bits &&& n.bits != 0

/-- Set the flags of `n`. -/
def insert (m n : Modifiers) : Modifiers := m.union n

/-- Clear the flags of `n`. -/
def remove (m n : Modifiers) : Modifiers := ⟨m.bits &&& ~~~n.bits⟩

/-- The word in four hexadecimal digits. -/
def render (m : Modifiers) : String :=
  let digits := Nat.toDigits 16 m.bits.toNat
  "Modifiers(0x" ++ String.ofList (List.replicate (4 - digits.length) '0' ++ digits) ++ ")"

end Modifiers

/-! ## Visibility -/

/-- Who may see a member. -/
inductive Visibility
  | publicAccess
  | protectedAccess
  | privateAccess
  /-- The access of a member on which no flag of visibility is set. -/
  | packageAccess
  deriving DecidableEq

namespace Visibility

/-- The visibility that flags state. Flags that state several mean the widest of them. -/
def of (m : Modifiers) : Visibility :=
  if m.contains .publicFlag then .publicAccess
  else if m.contains .protectedFlag then .protectedAccess
  else if m.contains .privateFlag then .privateAccess
  else .packageAccess

/-- The flag that states a visibility. -/
def modifier : Visibility → Modifiers
  | .publicAccess => .publicFlag
  | .protectedAccess => .protectedFlag
  | .privateAccess => .privateFlag
  | .packageAccess => .empty

/-- The word for a visibility. -/
def word : Visibility → String
  | .publicAccess => "public"
  | .protectedAccess => "protected"
  | .privateAccess => "private"
  | .packageAccess => "package"

/-- All visibilities. -/
def all : List Visibility := [.publicAccess, .protectedAccess, .privateAccess, .packageAccess]

/-- The visibility with a given word. -/
def ofWord? (text : String) : Option Visibility := all.find? (fun v => v.word == text)

/-- A visibility is read back from its word. -/
theorem ofWord?_word (v : Visibility) : ofWord? v.word = some v := by
  cases v <;> decide

end Visibility

namespace Modifiers

/-- Replace the visibility: clear all three of its flags, then set the one that states `v`. -/
def withVisibility (m : Modifiers) (v : Visibility) : Modifiers :=
  (m.remove visibilityFlags).insert v.modifier

end Modifiers

/-! ## Declarations with modifiers -/

/-- A kind of declaration that carries modifiers. -/
class Modified (α : Type) where
  modifiers : α → Modifiers
  withModifiers : α → Modifiers → α

/-- Replace the visibility of a declaration. -/
def Modified.setVisibility {α : Type} [Modified α] (a : α) (v : Visibility) : α :=
  withModifiers a ((modifiers a).withVisibility v)

/-! ## Runs of steps -/

namespace Modifiers

/-- One step of a run over the modifiers of a declaration. -/
inductive Step
  | setVisibility (v : Visibility)
  | insert (flags : Modifiers)
  | remove (flags : Modifiers)
  /-- Replace the modifiers by their union with `flags`. -/
  | unite (flags : Modifiers)
  /-- Ask for the union with `flags`; nothing changes. -/
  | union (flags : Modifiers)
  | contains (flags : Modifiers)
  | intersects (flags : Modifiers)
  | equals (flags : Modifiers)

/-- What a step answers. -/
inductive Answer
  | nothing
  | flags (m : Modifiers)
  | bool (b : Bool)
  deriving DecidableEq

namespace Step

/-- The modifiers after a step. -/
def effect (m : Modifiers) : Step → Modifiers
  | .setVisibility v => m.withVisibility v
  | .insert flags => m.insert flags
  | .remove flags => m.remove flags
  | .unite flags => m.union flags
  | .union _ => m
  | .contains _ => m
  | .intersects _ => m
  | .equals _ => m

/-- The answer to a step. -/
def answer (m : Modifiers) : Step → Answer
  | .setVisibility v => .flags v.modifier
  | .insert _ => .nothing
  | .remove _ => .nothing
  | .unite _ => .nothing
  | .union flags => .flags (m.union flags)
  | .contains flags => .bool (m.contains flags)
  | .intersects flags => .bool (m.intersects flags)
  | .equals flags => .bool (decide (m = flags))

/-- One step on a declaration: its modifiers change, the rest of it stays. -/
def perform {α : Type} [Modified α] (a : α) (step : Step) : α × Answer :=
  (Modified.withModifiers a (step.effect (Modified.modifiers a)),
    step.answer (Modified.modifiers a))

end Step

end Modifiers

end Desugar
