import SqlSelect.Decimal.Scaled
import SqlSelect.Value
/-!
# Numbers in JSON

A literal is split into its parts, and the parts decide what it stands for. A literal with neither
point nor exponent is an integer if it fits into 64 bits with a sign; every other one is a
floating-point number, minus zero among them. A literal whose value lies beyond the largest double
is no number at all.
-/

namespace SqlSelect.Json

/-- The parts of a number literal. -/
structure Literal where
  negative : Bool
  /-- The digits before the point. -/
  whole : List Char
  /-- The digits behind the point, if there is one. -/
  fraction : Option (List Char)
  /-- Whether the exponent is negative, and its digits, if there is one. -/
  exponent : Option (Bool × List Char)
  deriving Repr, DecidableEq

namespace Literal

/-! ## 1. Reading the parts -/

/-- The digits that a text begins with, one at least, and what follows. -/
def digits? (cs : List Char) : Option (List Char × List Char) :=
  match cs.takeWhile Char.isDigit with
  | [] => none
  | ds => some (ds, cs.dropWhile Char.isDigit)

/-- Digits without a useless zero in front: what follows a zero belongs to something else. -/
def whole? : List Char → Option (List Char × List Char)
  | '0' :: rest => some (['0'], rest)
  | cs => digits? cs

/-- A point and digits, or nothing. -/
def fraction? : List Char → Option (Option (List Char) × List Char)
  | '.' :: rest => (digits? rest).map fun (ds, rest) => (some ds, rest)
  | cs => some (none, cs)

/-- The digits of an exponent behind its sign. -/
def power? : List Char → Option ((Bool × List Char) × List Char)
  | '-' :: rest => (digits? rest).map fun (ds, rest) => ((true, ds), rest)
  | '+' :: rest => (digits? rest).map fun (ds, rest) => ((false, ds), rest)
  | cs => (digits? cs).map fun (ds, rest) => ((false, ds), rest)

/-- An exponent, or nothing. -/
def exponent? : List Char → Option (Option (Bool × List Char) × List Char)
  | 'e' :: rest | 'E' :: rest => (power? rest).map fun (e, rest) => (some e, rest)
  | cs => some (none, cs)

/-- A literal behind its sign. -/
def unsigned? (negative : Bool) (cs : List Char) : Option (Literal × List Char) := do
  let (whole, cs) ← whole? cs
  let (fraction, cs) ← fraction? cs
  let (exponent, cs) ← exponent? cs
  some ({ negative, whole, fraction, exponent }, cs)

/-- The number literal that a text begins with, and what follows it. -/
def read? : List Char → Option (Literal × List Char)
  | '-' :: rest => unsigned? true rest
  | cs => unsigned? false cs

/-! ## 2. What a literal stands for -/

/-- The number with the sign of the literal. -/
def signed (l : Literal) (x : Float) : Value := .float (if l.negative then -x else x)

/-- The value of an integer literal that fits into 64 bits without its sign. -/
def ofNat (l : Literal) (n : Nat) : Value :=
  if l.negative then
    if n ≠ 0 ∧ n ≤ 1 <<< 63 then .int (.ofInt (-n)) else l.signed n.toUInt64.toFloat
  else if n < 1 <<< 63 then .int (.ofNat n) else l.signed n.toUInt64.toFloat

/-- The value of a literal with a point, an exponent or too many digits. The digits before and
behind the point run into one significand; digits that no longer fit are dropped and count in the
exponent if they stand before the point. An exponent past 31 bits decides alone. -/
def float? (l : Literal) : Option Value :=
  let (significand, dropped) := Decimal.accumulate 0 l.whole
  let fraction := l.fraction.getD []
  let (significand, unused) := Decimal.accumulate significand fraction
  let shift : Int := (dropped.length : Int) - (fraction.length - unused.length : Nat)
  match l.exponent with
  | none => (Decimal.scaled? significand shift).map l.signed
  | some (negative, ds) =>
    let e := Nat.ofDigitChars 10 ds 0
    if e < 1 <<< 31 then
      (Decimal.scaled? significand (shift + if negative then -(e : Int) else e)).map l.signed
    else if negative ∨ significand = 0 then some (l.signed 0)
    else none

/-- The value of a literal, `none` if it is out of range. -/
def value? (l : Literal) : Option Value :=
  match l.fraction, l.exponent with
  | none, none =>
    let n := Nat.ofDigitChars 10 l.whole 0
    if n < 1 <<< 64 then some (l.ofNat n) else l.float?
  | _, _ => l.float?

end Literal

end SqlSelect.Json
