/-!
# Byte positions

Positions in a text that count the bytes of its encoding rather than its characters.
-/

namespace Desugar.Text

/-- The characters between two byte positions, if both lie between characters. -/
def slice? : List Char → Nat → Nat → Option (List Char)
  | _, 0, 0 => some []
  | [], _, _ => none
  | c :: cs, 0, stop =>
    if c.utf8Size ≤ stop then (slice? cs 0 (stop - c.utf8Size)).map (c :: ·) else none
  | c :: cs, start, stop =>
    if c.utf8Size ≤ start then slice? cs (start - c.utf8Size) (stop - c.utf8Size) else none

/-- The number of bytes of a text. -/
def byteSize : List Char → Nat
  | [] => 0
  | c :: cs => c.utf8Size + byteSize cs

end Desugar.Text
