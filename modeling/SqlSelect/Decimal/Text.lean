import SqlSelect.Decimal.Shortest
/-!
# How floating-point numbers are written

Two texts of the shortest decimal: the plain one, which shows a value to a reader, and the one of
JSON, which keeps the number apart from an integer and turns to an exponent for very large and very
small numbers.
-/

namespace SqlSelect.Decimal

/-- The digits with a point in place, and `whole` written after them when there is nothing behind
the point. -/
def Digits.positional (d : Digits) (whole : List Char) : List Char :=
  let size : Int := d.digits.length
  if d.exponent ≤ 0 then '0' :: '.' :: .replicate (-d.exponent).toNat '0' ++ d.digits
  else if size ≤ d.exponent then
    d.digits ++ .replicate (d.exponent - size).toNat '0' ++ whole
  else d.digits.take d.exponent.toNat ++ '.' :: d.digits.drop d.exponent.toNat

/-- One digit, the others behind a point, and a power of ten that always has a sign if positive. -/
def Digits.scientific (d : Digits) : List Char :=
  let mantissa := match d.digits with
    | [] => ['0']
    | [c] => [c]
    | c :: rest => c :: '.' :: rest
  let power := d.exponent - 1
  mantissa ++ 'e' :: (if power < 0 then '-' else '+') :: Nat.toDigits 10 power.natAbs

/-- Writes a sign in front. -/
def signed (negative : Bool) (text : List Char) : String :=
  .ofList (if negative then '-' :: text else text)

/-- The plain text of a number: never an exponent, no point in a whole number. -/
def plain (x : Float) : String :=
  match classify x with
  | .nan => "NaN"
  | .infinite negative => signed negative ['i', 'n', 'f']
  | .finite negative 0 _ => signed negative ['0']
  | .finite negative m q => signed negative ((shortest .up m q).positional [])

/-- The JSON text of a number: a point or an exponent in every finite one, an exponent below
`0.00001` and from `10 ^ 16` on, and `null` for what is not finite. -/
def json (x : Float) : String :=
  match classify x with
  | .nan => "null"
  | .infinite _ => "null"
  | .finite negative 0 _ => signed negative ['0', '.', '0']
  | .finite negative m q =>
    let d := shortest .even m q
    signed negative (if -5 < d.exponent && d.exponent ≤ 16 then d.positional ['.', '0']
      else d.scientific)

end SqlSelect.Decimal
