/-!
# Numbers from digits and a power of ten

A decimal literal is turned into a double by the quick way: as many leading digits as fit into 64
bits make the significand, and the significand, as a double, is multiplied or divided once by a
power of ten. Both steps round, so that a literal of many digits may land on a neighbour of the
nearest double; this is the reading that documents get. The exact reading is `nearest`.
-/

namespace SqlSelect.Decimal

/-- The value of a decimal digit. -/
def digitValue (c : Char) : Nat := c.toNat - '0'.toNat

/-- Appends digits to a significand as long as it stays below `2 ^ 64`; also the digits left. -/
def accumulate (significand : Nat) : List Char → Nat × List Char
  | [] => (significand, [])
  | c :: rest =>
    let next := significand * 10 + digitValue c
    if next < 1 <<< 64 then accumulate next rest else (significand, c :: rest)

/-- The double nearest to `10 ^ k`, for `k ≤ 308`. -/
def powerOfTen (k : Nat) : Float := .ofScientific 1 false k

/-- The significand times a power of ten, `none` beyond the largest double. Powers below
`10 ^ -308` are divided off in blocks of 308; after three blocks nothing is left of any
significand. -/
def scaled? (significand : Nat) (exponent : Int) : Option Float :=
  let x := significand.toUInt64.toFloat
  match exponent with
  | .ofNat e =>
    if significand = 0 then some x
    else if e ≤ 308 then
      let y := x * powerOfTen e
      if y.isInf then none else some y
    else none
  | .negSucc e =>
    let blocks := e / 308
    some ((min blocks 3).repeat (· / powerOfTen 308) x / powerOfTen (e + 1 - 308 * blocks))

/-- The double nearest to `n * 10 ^ e`. -/
def nearest (n : Nat) (e : Int) : Float :=
  match e with
  | .ofNat k => .ofScientific n false (min k 400)
  | .negSucc k => .ofScientific n true (k + 1)

end SqlSelect.Decimal
