/-!
# The shortest decimal of a floating-point number

Every finite double is `m * 2 ^ q` for natural `m` and integral `q`, and a decimal reads back as
that double when it lies in the interval of reals that round to it (ends included exactly when `m`
is even). `shortest` finds the decimal with the fewest digits in that interval, and of those the
nearest to the number; everything is decided in exact natural arithmetic on the bits.

The digits alone are fixed here. Where the point stands and how an exponent is written is the
business of the text that shows the number; so is the direction of an exact tie, which is a
parameter.
-/

namespace SqlSelect.Decimal

/-! ## 1. Taking a double apart -/

/-- What the bits of a double stand for. -/
inductive Class
  | finite (negative : Bool) (m : Nat) (q : Int)
  | infinite (negative : Bool)
  | nan
  deriving Repr, DecidableEq

/-- The class of a double; a finite one is `± m * 2 ^ q`. -/
def classify (x : Float) : Class :=
  let bits := x.toBits.toNat
  let negative := bits >>> 63 == 1
  let exponent := (bits >>> 52) % 2048
  let fraction := bits % (1 <<< 52)
  if exponent = 2047 then if fraction = 0 then .infinite negative else .nan
  else if exponent = 0 then .finite negative fraction (-1074)
  else .finite negative (1 <<< 52 + fraction) ((exponent : Int) - 1075)

/-- The reals that round to a number: from `low / unit` to `high / unit` around `value / unit`, the
ends included when the interval is `closed`. -/
structure Interval where
  low : Nat
  value : Nat
  high : Nat
  unit : Nat
  closed : Bool
  deriving Repr

/-- The interval of reals that round to `m * 2 ^ q`. Below a power of two the doubles are twice as
dense, so there the lower half is half as long. -/
def interval (m : Nat) (q : Int) : Interval :=
  let below := if m = 1 <<< 52 ∧ q ≠ -1074 then 1 else 2
  let scale := 1 <<< (q - 2).toNat
  { low := (4 * m - below) * scale
    value := 4 * m * scale
    high := (4 * m + 2) * scale
    unit := 1 <<< (2 - q).toNat
    closed := m % 2 = 0 }

/-! ## 2. Grids of decimals -/

/-- Which neighbour an exact tie goes to. -/
inductive Tie
  | up
  | even
  deriving Repr, DecidableEq

/-- The integer `e` with `10 ^ (e - 1) ≤ n / d < 10 ^ e`, for positive `n` and `d`. -/
def magnitude (n d : Nat) : Int :=
  if d ≤ n then (Nat.toDigits 10 (n / d)).length
  else 1 - ((Nat.toDigits 10 ((d - 1) / n)).length : Int)

/-- The decimal `c * 10 ^ k` lies in the interval. -/
def Interval.holds (i : Interval) (c : Nat) (k : Int) : Bool :=
  let c := c * i.unit * .pow 10 k.toNat
  let low := i.low * .pow 10 (-k).toNat
  let high := i.high * .pow 10 (-k).toNat
  if i.closed then low ≤ c && c ≤ high else low < c && c < high

/-- The point of the grid `10 ^ k` in the interval that is nearest to the number, if there is one:
only the two neighbours of the number on the grid have to be looked at. -/
def Interval.nearest? (i : Interval) (tie : Tie) (k : Int) : Option Nat :=
  let n := i.value * .pow 10 (-k).toNat
  let d := i.unit * .pow 10 k.toNat
  let c := n / d
  let upper := match compare (2 * (n % d)) d with
    | .lt => false
    | .gt => true
    | .eq => match tie with
      | .up => true
      | .even => c % 2 = 1
  match i.holds c k, i.holds (c + 1) k with
  | false, false => none
  | true, false => some c
  | false, true => some (c + 1)
  | true, true => some (if upper then c + 1 else c)

/-- The decimal `0.d₁d₂… * 10 ^ exponent`. -/
structure Digits where
  digits : List Char
  exponent : Int
  deriving Repr, DecidableEq

/-- `c * 10 ^ k` without zeros at its end. -/
def Digits.ofScaled (c : Nat) (k : Int) : Digits :=
  let ds := Nat.toDigits 10 c
  { digits := (ds.reverse.dropWhile (· = '0')).reverse
    exponent := k + ds.length }

/-- The first grid of `size`, `size + 1`, … digits with a point in the interval, `more` grids at
most. -/
def Interval.search (i : Interval) (tie : Tie) (e : Int) (size : Nat) : (more : Nat) → Digits
  | 0 => { digits := [], exponent := e }
  | more + 1 =>
    match i.nearest? tie (e - size) with
    | some c => .ofScaled c (e - size)
    | none => i.search tie e (size + 1) more

/-- The shortest decimal that reads back as the positive double `m * 2 ^ q`; 17 digits always
suffice. -/
def shortest (tie : Tie) (m : Nat) (q : Int) : Digits :=
  let i := interval m q
  i.search tie (magnitude i.value i.unit) 1 17

end SqlSelect.Decimal
