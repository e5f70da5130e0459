/-!
# Sets of code points

A character property is written as a table of ranges. Two forms are enough: closed ranges, and
closed ranges of which only every `step`-th member belongs to the set (capital and small letters
often alternate). The tables that use them list code points from U+0080 on; ASCII is decided by
each property's own test, so that closed terms over ASCII text never look at a table.
-/

namespace SqlSelect.Text

/-- The character lies in one of the closed ranges. -/
def inRanges (ranges : Array (Nat × Nat)) (c : Char) : Bool :=
  ranges.any fun (first, last) => first ≤ c.toNat && c.toNat ≤ last

/-- The character is a member of one of the stepped ranges. -/
def inSteps (ranges : Array (Nat × Nat × Nat)) (c : Char) : Bool :=
  ranges.any fun (first, last, step) =>
    first ≤ c.toNat && c.toNat ≤ last && (c.toNat - first) % step == 0

end SqlSelect.Text
