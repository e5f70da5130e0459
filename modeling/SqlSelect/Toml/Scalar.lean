import SqlSelect.Data
import SqlSelect.Decimal.Scaled
import SqlSelect.Text.Hexadecimal
/-!
# Unquoted values of TOML

Truth values, numbers and dates are written without quotes. A date or time becomes an object with
one member, whose key no document would use by chance; whatever asks for another kind of value
refuses it.
-/

namespace SqlSelect.Toml

/-! ## 1. Numbers -/

/-- Digits of which each is one of `isDigit`, with single underscores between them; the digits
alone. -/
def digitsWith? (isDigit : Char → Bool) : List Char → Option (List Char)
  | [] => none
  | [c] => if isDigit c then some [c] else none
  | c :: '_' :: rest => if isDigit c then (digitsWith? isDigit rest).map (c :: ·) else none
  | c :: rest => if isDigit c then (digitsWith? isDigit rest).map (c :: ·) else none

/-- Decimal digits. -/
def decimals? (cs : List Char) : Option (List Char) := digitsWith? Char.isDigit cs

/-- Decimal digits without a useless zero in front. -/
def whole? (cs : List Char) : Option (List Char) := do
  match ← decimals? cs with
  | '0' :: _ :: _ => none
  | ds => some ds

/-- The sign of a number, and what it stands before. -/
def sign : List Char → Bool × List Char
  | '-' :: rest => (true, rest)
  | '+' :: rest => (false, rest)
  | cs => (false, cs)

/-- The number with a sign in front, if it is finite. -/
def finite? (negative : Bool) (x : Float) : Option Value :=
  if x.isInf then none else some (.float (if negative then -x else x))

/-- The integer as a value; one of more than 64 bits is kept as a floating-point number, and one of
more than 128 bits is refused. -/
def integer? (negative : Bool) (n : Nat) : Option Value :=
  if negative then
    if n ≤ 1 <<< 63 then some (.int (.ofInt (-n)))
    else if n ≤ 1 <<< 127 then finite? true (.ofNat n)
    else none
  else if n < 1 <<< 63 then some (.int (.ofNat n))
  else if n < 1 <<< 128 then finite? false (.ofNat n)
  else none

/-- An integer in another base than ten. -/
def based? (base : Nat) (isDigit : Char → Bool) (cs : List Char) : Option Value := do
  let ds ← digitsWith? isDigit cs
  integer? false (← ds.foldlM (fun n c => (Text.hexDigit? c).map (n * base + ·)) 0)

/-- The exponent of a number: `0` if nothing is written. -/
def exponent? : List Char → Option Int
  | [] => some 0
  | c :: rest => do
    guard (c = 'e' ∨ c = 'E')
    let (negative, ds) := sign rest
    let n := Nat.ofDigitChars 10 (← decimals? ds) 0
    some (if negative then -(n : Int) else n)

/-- An integer or a floating-point number in base ten. -/
def decimal? (cs : List Char) : Option Value := do
  let (negative, cs) := sign cs
  let inExponent := fun (c : Char) => c = 'e' || c = 'E'
  let beforeExponent := cs.takeWhile (!inExponent ·)
  let wholeText := beforeExponent.takeWhile (· ≠ '.')
  let whole ← whole? wholeText
  let e ← exponent? (cs.dropWhile (!inExponent ·))
  match beforeExponent.dropWhile (· ≠ '.') with
  | [] =>
    if cs.any inExponent then
      finite? negative (Decimal.nearest (Nat.ofDigitChars 10 whole 0) e)
    else integer? negative (Nat.ofDigitChars 10 whole 0)
  | _ :: fraction =>
    let fraction ← decimals? fraction
    finite? negative
      (Decimal.nearest (Nat.ofDigitChars 10 (whole ++ fraction) 0) (e - fraction.length))

/-- A number. -/
def number? (cs : List Char) : Option Value :=
  match cs with
  | '0' :: 'x' :: ds => based? 16 (fun c => c.isDigit || ('a' ≤ c.toLower && c.toLower ≤ 'f')) ds
  | '0' :: 'o' :: ds => based? 8 (fun c => '0' ≤ c && c ≤ '7') ds
  | '0' :: 'b' :: ds => based? 2 (fun c => c == '0' || c == '1') ds
  | cs =>
    let (negative, unsigned) := sign cs
    if unsigned = ['i', 'n', 'f'] then some (.float (if negative then -1 / 0 else 1 / 0))
    else if unsigned = ['n', 'a', 'n'] then some (.float (0 / 0))
    else decimal? cs

/-! ## 2. Dates and times -/

/-- Exactly `size` digits with a value from `low` to `high`, and what follows. -/
def field? (size low high : Nat) (cs : List Char) : Option (Nat × List Char) := do
  let ds := cs.take size
  guard (ds.length = size ∧ ds.all Char.isDigit)
  let n := Nat.ofDigitChars 10 ds 0
  guard (low ≤ n ∧ n ≤ high)
  some (n, cs.drop size)

/-- The text behind a character that must come first. -/
def expect? (c : Char) : List Char → Option (List Char)
  | d :: rest => if d = c then some rest else none
  | [] => none

/-- The number of days of a month. -/
def daysOf (year month : Nat) : Nat :=
  if month = 2 then
    if year % 4 = 0 ∧ (year % 100 ≠ 0 ∨ year % 400 = 0) then 29 else 28
  else if month = 4 ∨ month = 6 ∨ month = 9 ∨ month = 11 then 30
  else 31

/-- The text behind a date. -/
def skipDate? (cs : List Char) : Option (List Char) := do
  let (year, cs) ← field? 4 0 9999 cs
  let (month, cs) ← field? 2 1 12 (← expect? '-' cs)
  let (_, cs) ← field? 2 1 (daysOf year month) (← expect? '-' cs)
  some cs

/-- The text behind a time of day. -/
def skipTime? (cs : List Char) : Option (List Char) := do
  let (_, cs) ← field? 2 0 23 cs
  let (_, cs) ← field? 2 0 59 (← expect? ':' cs)
  let (_, cs) ← field? 2 0 60 (← expect? ':' cs)
  match cs with
  | '.' :: rest =>
    guard (rest.head?.any Char.isDigit)
    some (rest.dropWhile Char.isDigit)
  | cs => some cs

/-- The text behind the distance of a time from the common one, or behind nothing. -/
def skipOffset? : List Char → Option (List Char)
  | [] => some []
  | c :: rest =>
    if c = 'Z' ∨ c = 'z' then some rest
    else do
      guard (c = '+' ∨ c = '-')
      let (_, cs) ← field? 2 0 23 rest
      let (_, cs) ← field? 2 0 59 (← expect? ':' cs)
      some cs

/-- The text is a date, a time of day, or both. -/
def isDateTime (cs : List Char) : Bool :=
  match skipDate? cs with
  | some [] => true
  | some (c :: rest) =>
    (c = 'T' || c = 't' || c = ' ') && (skipTime? rest >>= skipOffset?) = some []
  | none => skipTime? cs = some []

/-- The key of the one member that a date or time has. -/
def dateTimeKey : String := "$__toml_private_datetime"

/-- A date or time in its usual spelling: with capital letters, `T` between date and time. -/
def dateTime (cs : List Char) : Data :=
  .object [(dateTimeKey, .ofText (.ofList (cs.map fun c => if c = ' ' then 'T' else c.toUpper)))]

/-! ## 3. Any unquoted value -/

/-- The unquoted text as a value. -/
def unquoted? (cs : List Char) : Option Data :=
  if cs = ['t', 'r', 'u', 'e'] then some (.scalar (.bool true))
  else if cs = ['f', 'a', 'l', 's', 'e'] then some (.scalar (.bool false))
  else if isDateTime cs then some (dateTime cs)
  else (number? cs).map .scalar

/-- The character may stand in an unquoted value. -/
def isUnquoted (c : Char) : Bool :=
  c.isAlphanum || c == '_' || c == '-' || c == '+' || c == '.' || c == ':'

/-- The unquoted text that a text begins with, and what follows it. A date and a time may have a
blank between them. -/
def unquotedText (cs : List Char) : List Char × List Char :=
  let first := cs.takeWhile isUnquoted
  match cs.dropWhile isUnquoted with
  | ' ' :: c :: rest =>
    if skipDate? first = some [] ∧ c.isDigit then
      (first ++ ' ' :: (c :: rest).takeWhile isUnquoted, (c :: rest).dropWhile isUnquoted)
    else (first, ' ' :: c :: rest)
  | rest => (first, rest)

end SqlSelect.Toml
