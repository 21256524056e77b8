/-
  SlotIR.Datum.Shortest
  ─────────────────────
  **THE FEWEST DIGITS THAT READ BACK.**

  Many decimals are rounded to one floating-point number: those in an
  interval around it, from halfway to the number below to halfway to the
  number above.  Of these the number is written as the one with the fewest
  digits, and of several such as the nearest; a tie goes to an even digit.

  The search tries one digit, two digits, and so on.  For each count it
  tries the two neighbours of the number on the grid of such decimals; if
  any of them is in the interval, one of these two is.
-/
import SlotIR.Datum.Binary64
import SlotIR.Text.Numeral

namespace SlotIR.Binary64

/-! ## §1. What is rounded to a number. -/

/-- An interval of quotients, with or without its ends. -/
structure Span where
  low : Rat
  high : Rat
  closed : Bool

/-- The value is in the interval. -/
def Span.holds (span : Span) (q : Rat) : Bool :=
  (span.low < q && q < span.high) || (span.closed && (q == span.low || q == span.high))

/-- What is rounded to `m · 2 ^ e`: the gap to the number below is half as wide where the exponent
changes, and a tie belongs to an even mantissa. -/
def spanOf (m : Nat) (e : Int) : Span :=
  let narrow := m = Nat.pow 2 (precision - 1) && minExponent < e
  { low := gridPoint (4 * m - if narrow then 1 else 2) (e - 2)
    high := gridPoint (4 * m + 2) (e - 2)
    closed := m % 2 == 0 }

/-! ## §2. Decimals. -/

/-- The decimal `digits · 10 ^ exponent`. -/
structure Decimal where
  digits : Nat
  exponent : Int
  deriving DecidableEq, Repr

/-- The value of a decimal. -/
def Decimal.value (d : Decimal) : Rat :=
  if 0 ≤ d.exponent then ((d.digits * Nat.pow 10 d.exponent.toNat : Nat) : Rat)
  else mkRat d.digits (Nat.pow 10 (-d.exponent).toNat)

/-- The number of decimal digits of a number. -/
def digitCount (n : Nat) : Nat := n.repr.length

/-- The least `p` with `q < 10 ^ p`, for a positive value. -/
def pointOf (q : Rat) : Int :=
  let num := q.num.toNat
  if q.den ≤ num then digitCount (num / q.den)
  else 1 - digitCount ((q.den - 1) / num)

/-- The greatest decimal of the given exponent that is not above a positive value. -/
def floorOn (q : Rat) (exponent : Int) : Decimal :=
  let num := q.num.toNat
  { digits :=
      if 0 ≤ exponent then num / (q.den * Nat.pow 10 exponent.toNat)
      else num * Nat.pow 10 (-exponent).toNat / q.den
    exponent }

/-- The next decimal of the same exponent. -/
def Decimal.next (d : Decimal) : Decimal := { d with digits := d.digits + 1 }

/-! ## §3. The search. -/

/-- The decimal of the given exponent that is in an interval around a value and nearest to it. -/
def nearestOn? (span : Span) (q : Rat) (exponent : Int) : Option Decimal :=
  let below := floorOn q exponent
  let above := below.next
  match span.holds below.value, span.holds above.value with
  | true, false => some below
  | false, true => some above
  | false, false => none
  | true, true =>
    let middle := (below.value + above.value) / 2
    if q < middle || (q == middle && below.digits % 2 == 0) then some below else some above

/-- The greatest number of digits that are needed. -/
def maxDigits : Nat := 17

/-- The decimal with the fewest digits that is rounded to `m · 2 ^ e`. -/
def shortest (m : Nat) (e : Int) : Decimal :=
  let q := gridPoint m e
  let point := pointOf q
  let found := (List.range maxDigits).findSome? fun count =>
    nearestOn? (spanOf m e) q (point - (count + 1 : Nat))
  found.getD (floorOn q (point - maxDigits))

/-! ## §4. Writing. -/

/-- The exponents in scientific form, from the first to before the second, of the numbers that are
written without one. -/
def plainExponents : Int × Int := (-4, 16)

/-- Zeros. -/
def zeros (count : Int) : List Char := List.replicate count.toNat '0'

/-- Digits with a point after the first `point` of them. -/
def plainText (digits : List Char) (point : Int) : List Char :=
  if point ≤ 0 then '0' :: '.' :: zeros (-point) ++ digits
  else if digits.length ≤ point then digits ++ zeros (point - digits.length) ++ ['.', '0']
  else digits.take point.toNat ++ '.' :: digits.drop point.toNat

/-- An exponent with its sign and at least two digits. -/
def exponentText (exponent : Int) : List Char :=
  let digits := exponent.natAbs.repr.toList
  (if exponent < 0 then '-' else '+') :: zeros (2 - digits.length) ++ digits

/-- Digits with a point after the first, if there are more, and an exponent. -/
def scientificText (digits : List Char) (exponent : Int) : List Char :=
  let rest := digits.drop 1
  digits.take 1 ++ (if rest.isEmpty then [] else '.' :: rest) ++ 'e' :: exponentText exponent

/-- The text of a decimal. -/
def Decimal.text (d : Decimal) : List Char :=
  let all := d.digits.repr.toList
  let digits := (all.reverse.dropWhile (· == '0')).reverse
  let point := d.exponent + all.length
  if plainExponents.1 ≤ point - 1 && point - 1 < plainExponents.2 then plainText digits point
  else scientificText digits (point - 1)

/-- The text of a number. -/
def text (x : Binary64) : String :=
  let (negative, size) :=
    match x with
    | .nan => (false, ['n', 'a', 'n'])
    | .infinite negative => (negative, ['i', 'n', 'f'])
    | .finite negative 0 _ => (negative, ['0', '.', '0'])
    | .finite negative m e => (negative, (shortest m e).text)
  String.ofList (if negative then '-' :: size else size)

example : shortest 0x1999999999999A (-56) = ⟨1, -1⟩ := by decide +kernel
example : shortest 0x10000000000001 (-2) = ⟨11258999068426242, -1⟩ := by decide +kernel
example : (ofDecimal true 0 0).text = "-0.0" := by decide +kernel
example : Decimal.text ⟨10, 22⟩ = "1e+23".toList := by decide +kernel
example : Decimal.text ⟨12345678975, -2⟩ = "123456789.75".toList := by decide +kernel

end SlotIR.Binary64
