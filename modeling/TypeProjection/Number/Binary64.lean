/-!
Binary floating point with 53 bits of precision, kept exactly. A finite number is a sign, a
mantissa and a power of two; every operation works on the exact quotient and rounds once, to the
nearest number and to an even mantissa between two.
-/

namespace TypeProjection

/-- A floating point number. Of a finite one, the value is `mantissa * 2 ^ exponent`. -/
inductive Binary64 where
  | finite (negative : Bool) (mantissa : Nat) (exponent : Int)
  | infinite (negative : Bool)
  | nan
  deriving DecidableEq, Repr, Inhabited

namespace Binary64

/-- The exponent of the smallest positive number. -/
def leastExponent : Int := -1074

/-- The largest exponent of a finite number. -/
def greatestExponent : Int := 971

/-- Zero of either sign. -/
def zero (negative : Bool) : Binary64 := .finite negative 0 leastExponent

/-- `num / den` rounded to the nearest integer, to the even one in the middle. -/
def roundQuotient (num den : Nat) : Nat :=
  let q := num / den
  let twice := 2 * (num % den)
  if twice < den then q
  else if den < twice then q + 1
  else if q % 2 == 0 then q else q + 1

/-- `num / den * 2 ^ (-exponent)` as a quotient of natural numbers. -/
def scaled (num den : Nat) (exponent : Int) : Nat × Nat :=
  if exponent < 0 then (num * Nat.pow 2 (-exponent).toNat, den)
  else (num, den * Nat.pow 2 exponent.toNat)

/-- The exponent at which `num / den` has a mantissa of 53 bits, or the least exponent. -/
def fittingExponent (num den : Nat) : Int :=
  let guess : Int := (Nat.log2 num : Int) - (Nat.log2 den : Int) - 52
  let (n, d) := scaled num den guess
  let exact := if n / d < Nat.pow 2 52 then guess - 1 else guess
  max exact leastExponent

/-- The floating point number nearest to `num / den`. -/
def ofQuotient (negative : Bool) (num den : Nat) : Binary64 :=
  if num == 0 then zero negative
  else
    let e := fittingExponent num den
    let (n, d) := scaled num den e
    let m := roundQuotient n d
    let (m, e) := if m == Nat.pow 2 53 then (Nat.pow 2 52, e + 1) else (m, e)
    if e > greatestExponent then .infinite negative else .finite negative m e

/-- The floating point number nearest to an integer. -/
def ofInt (n : Int) : Binary64 := ofQuotient (n < 0) n.natAbs 1

/-- The floating point number nearest to `digits * 10 ^ exponent`. -/
def ofDecimal (negative : Bool) (digits : Nat) (exponent : Int) : Binary64 :=
  if exponent < 0 then ofQuotient negative digits (Nat.pow 10 (-exponent).toNat)
  else ofQuotient negative (digits * Nat.pow 10 exponent.toNat) 1

/-- A finite number as a quotient, with its sign in the numerator. -/
def toQuotient? : Binary64 → Option (Int × Nat)
  | .finite negative m e =>
    let (num, den) := if e < 0 then (m, Nat.pow 2 (-e).toNat) else (m * Nat.pow 2 e.toNat, 1)
    some (if negative then -(num : Int) else num, den)
  | _ => none

/-- The integer that a number is equal to, if there is one. -/
def toInt? (x : Binary64) : Option Int :=
  match x.toQuotient? with
  | some (num, den) => if num % den == 0 then some (num / den) else none
  | none => none

/-- Are the values equal? A value that is not a number equals none, and zeros are equal. -/
def equals (x y : Binary64) : Bool :=
  match x, y with
  | .infinite s, .infinite s' => s == s'
  | _, _ =>
    match x.toQuotient?, y.toQuotient? with
    | some (a, b), some (c, d) => a * d == c * b
    | _, _ => false

/-- Is the number zero? -/
def isZero : Binary64 → Bool
  | .finite _ m _ => m == 0
  | _ => false

/-- The sign of the sum of two zeros, and of any number. -/
def isNegative : Binary64 → Bool
  | .finite s _ _ => s
  | .infinite s => s
  | .nan => false

/-- The number nearest to a quotient with its sign in the numerator. -/
def ofSigned (num : Int) (den : Nat) : Binary64 := ofQuotient (num < 0) num.natAbs den

/-- Negation. -/
def neg : Binary64 → Binary64
  | .finite s m e => .finite (!s) m e
  | .infinite s => .infinite (!s)
  | .nan => .nan

/-- Addition. -/
def add (x y : Binary64) : Binary64 :=
  match x.toQuotient?, y.toQuotient? with
  | some (a, b), some (c, d) =>
    let num := a * d + c * b
    if num == 0 then zero (x.isNegative && y.isNegative) else ofSigned num (b * d)
  | some _, none => y
  | none, some _ => x
  | none, none => if x == y then x else .nan

/-- Multiplication. -/
def mul (x y : Binary64) : Binary64 :=
  let negative := x.isNegative != y.isNegative
  match x.toQuotient?, y.toQuotient? with
  | some (a, b), some (c, d) => ofQuotient negative (a.natAbs * c.natAbs) (b * d)
  | _, _ =>
    if x == .nan || y == .nan || x.isZero || y.isZero then .nan else .infinite negative

/-- Division, for a divisor other than zero. -/
def div (x y : Binary64) : Binary64 :=
  let negative := x.isNegative != y.isNegative
  match x.toQuotient?, y.toQuotient? with
  | some (a, b), some (c, d) => ofQuotient negative (a.natAbs * d) (b * c.natAbs)
  | some _, none => if y == .nan then .nan else zero negative
  | none, some _ => if x == .nan then .nan else .infinite negative
  | none, none => .nan

/-- Is the first value less than the second? -/
def less (x y : Binary64) : Bool :=
  match x, y with
  | .nan, _ => false
  | _, .nan => false
  | .infinite s, .infinite s' => s && !s'
  | .infinite s, _ => s
  | _, .infinite s => !s
  | _, _ =>
    match x.toQuotient?, y.toQuotient? with
    | some (a, b), some (c, d) => a * d < c * b
    | _, _ => false

/-! ### The shortest decimal that reads back -/

/-- The decimal exponent of the leading digit of `num / den`, found from a guess by stepping. -/
def leadingExponent (num den : Nat) : Nat → Int → Int
  | 0, guess => guess
  | fuel + 1, guess =>
    let atLeast (e : Int) : Bool :=
      if e < 0 then den ≤ num * Nat.pow 10 (-e).toNat else den * Nat.pow 10 e.toNat ≤ num
    if !atLeast guess then leadingExponent num den fuel (guess - 1)
    else if atLeast (guess + 1) then leadingExponent num den fuel (guess + 1)
    else guess

/-- The decimals that read back as `m * 2 ^ e` lie between `low / den` and `high / den`, the ends
included when `closed`. -/
structure ReadBack where
  low : Nat
  value : Nat
  high : Nat
  den : Nat
  closed : Bool

/-- The decimals that read back as a positive number. -/
def readBack (m : Nat) (e : Int) : ReadBack :=
  let narrow := m == Nat.pow 2 52 && e > leastExponent
  let low := if narrow then 4 * m - 1 else 4 * m - 2
  let high := 4 * m + 2
  let e' := e - 2
  let (scale, den) := if e' < 0 then (1, Nat.pow 2 (-e').toNat) else (Nat.pow 2 e'.toNat, 1)
  ⟨low * scale, 4 * m * scale, high * scale, den, m % 2 == 0⟩

/-- Does `digits * 10 ^ place` read back? -/
def ReadBack.holds (r : ReadBack) (digits : Nat) (place : Int) : Bool :=
  let (n, d) := if place < 0 then (digits * r.den, Nat.pow 10 (-place).toNat)
    else (digits * Nat.pow 10 place.toNat * r.den, 1)
  if r.closed then r.low * d ≤ n && n ≤ r.high * d else r.low * d < n && n < r.high * d

/-- The decimal with `count` digits that reads back, the nearer of two. -/
def ReadBack.decimal? (r : ReadBack) (leading : Int) (count : Nat) : Option (Nat × Int) :=
  let place := leading - count + 1
  let (n, d) := if place < 0 then (r.value * Nat.pow 10 (-place).toNat, r.den)
    else (r.value, r.den * Nat.pow 10 place.toNat)
  let below := n / d
  let nearest := roundQuotient n d
  let other := if nearest == below then below + 1 else below
  if r.holds nearest place then some (nearest, place)
  else if r.holds other place then some (other, place)
  else none

/-- The shortest decimal that reads back, trying `count` digits and more. -/
def ReadBack.shortest (r : ReadBack) (leading : Int) : Nat → Nat → Nat × Int
  | 0, count => (r.value / r.den, leading - count)
  | fuel + 1, count =>
    match r.decimal? leading count with
    | some found => found
    | none => r.shortest leading fuel (count + 1)

/-- `digits * 10 ^ place` without trailing zeros in the digits. -/
def trimZeros : Nat → Nat → Int → Nat × Int
  | 0, digits, place => (digits, place)
  | fuel + 1, digits, place =>
    if digits != 0 && digits % 10 == 0 then trimZeros fuel (digits / 10) (place + 1)
    else (digits, place)

/-- Digits and decimal place of the shortest decimal that reads back as a positive number. -/
def shortestDecimal (m : Nat) (e : Int) : Nat × Int :=
  let r := readBack m e
  let guess : Int := ((Nat.log2 m : Int) + e) * 30103 / 100000
  let leading := leadingExponent r.value r.den 4 guess
  let (digits, place) := r.shortest leading 18 1
  trimZeros 20 digits place

/-- The text of `digits * 10 ^ place`: positional while the point lies at most 16 places after the
first digit and at most three before it, otherwise with an exponent of two digits or more. -/
def decimalText (digits : Nat) (place : Int) : String :=
  let text := toString digits
  let point : Int := text.length + place
  if -4 < point && point ≤ 16 then
    if point ≤ 0 then "0." ++ String.ofList (List.replicate (-point).toNat '0') ++ text
    else if (text.length : Int) ≤ point then
      text ++ String.ofList (List.replicate (point - text.length).toNat '0') ++ ".0"
    else
      let cs := text.toList
      String.ofList (cs.take point.toNat) ++ "." ++ String.ofList (cs.drop point.toNat)
  else
    let cs := text.toList
    let fraction := String.ofList (cs.drop 1)
    let exponent := point - 1
    let size := toString exponent.natAbs
    String.ofList (cs.take 1) ++ (if fraction.isEmpty then "" else "." ++ fraction) ++ "e" ++
      (if exponent < 0 then "-" else "+") ++ (if size.length < 2 then "0" ++ size else size)

/-- The text of a number: the shortest one that reads back. -/
def text : Binary64 → String
  | .nan => "nan"
  | .infinite negative => if negative then "-inf" else "inf"
  | .finite negative m e =>
    let sign := if negative then "-" else ""
    if m == 0 then sign ++ "0.0"
    else
      let (digits, place) := shortestDecimal m e
      sign ++ decimalText digits place

/-! ### Reading -/

/-- The digits at the start of a text, as a number and a count, and the rest. -/
def takeDigits : Nat → Nat → List Char → Nat × Nat × List Char
  | value, count, c :: rest =>
    if c.isDigit then takeDigits (value * 10 + (c.toNat - '0'.toNat)) (count + 1) rest
    else if c == '_' && count != 0 && (rest.head?.map Char.isDigit).getD false then
      takeDigits value count rest
    else (value, count, c :: rest)
  | value, count, [] => (value, count, [])

/-- Reads the exponent part of a number: nothing, or `e` with a signed whole number. -/
def takeExponent (cs : List Char) : Int × List Char :=
  match cs with
  | c :: rest =>
    if c == 'e' || c == 'E' then
      let (negative, rest') := match rest with
        | '-' :: r => (true, r)
        | '+' :: r => (false, r)
        | r => (false, r)
      let (value, count, after) := takeDigits 0 0 rest'
      if count == 0 then (0, cs) else (if negative then -(value : Int) else value, after)
    else (0, cs)
  | [] => (0, [])

/-- The number that a text such as `1.5`, `-0.0`, `1e+16`, `inf` or `nan` writes. -/
def ofText? (s : String) : Option Binary64 :=
  let (negative, cs) := match s.toList with
    | '-' :: r => (true, r)
    | '+' :: r => (false, r)
    | r => (false, r)
  if cs == "inf".toList then some (.infinite negative)
  else if cs == "nan".toList then some .nan
  else
    let (whole, wholeCount, rest) := takeDigits 0 0 cs
    let (digits, places, rest) := match rest with
      | '.' :: r =>
        let (value, count, after) := takeDigits whole 0 r
        (value, count, after)
      | r => (whole, 0, r)
    let (exponent, rest) := takeExponent rest
    if wholeCount + places == 0 || !rest.isEmpty then none
    else some (ofDecimal negative digits (exponent - places))

end Binary64

end TypeProjection
