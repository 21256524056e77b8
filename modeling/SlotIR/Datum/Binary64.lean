/-
  SlotIR.Datum.Binary64
  ─────────────────────
  **BINARY FLOATING-POINT NUMBERS.**

  A number with a fraction or an exponent is kept with 53 significant
  bits, as ± m · 2^e with m < 2^53 and -1074 ≤ e ≤ 971, or as infinite if
  it is too great for that.  It is the value nearest to what was written,
  and of two nearest the one with even m.  The sign is kept even of zero.
  One more value is no number at all.  All computation is exact, on
  integers and on quotients of them.
-/
namespace SlotIR

/-! ## §1. Numbers. -/

/-- A floating-point number: ± mantissa · 2 ^ exponent, infinite, or no number. -/
inductive Binary64 where
  | finite (negative : Bool) (mantissa : Nat) (exponent : Int)
  | infinite (negative : Bool)
  | nan
  deriving DecidableEq, Repr

namespace Binary64

/-- The number of significant bits. -/
def precision : Nat := 53

/-- The least exponent. -/
def minExponent : Int := -1074

/-- The greatest exponent. -/
def maxExponent : Int := 971

/-! ## §2. Rounding a quotient. -/

/-- The integer nearest to `num / den`; a half goes to the even neighbour. -/
def roundQuotient (num den : Nat) : Nat :=
  let low := num / den
  let rest := 2 * (num % den)
  if rest < den then low
  else if den < rest then low + 1
  else if low % 2 = 0 then low else low + 1

/-- The quotient `num / den` divided by `2 ^ k`, as a numerator and a denominator. -/
def scaleDown (num den : Nat) (k : Int) : Nat × Nat :=
  if 0 ≤ k then (num, den * Nat.pow 2 k.toNat) else (num * Nat.pow 2 (-k).toNat, den)

/-- The greatest `e` with `2 ^ e ≤ num / den`, for a positive quotient. -/
def magnitude (num den : Nat) : Int :=
  let e : Int := (num.log2 : Int) - den.log2
  let (above, below) := scaleDown num den e
  if below ≤ above then e else e - 1

/-- The exponent of the grid that a positive quotient is rounded on. -/
def gridExponent (num den : Nat) : Int :=
  max minExponent (magnitude num den - (precision - 1 : Nat))

/-- The number of a mantissa that may have been rounded up to one bit too many. -/
def ofRounded (negative : Bool) (mantissa : Nat) (exponent : Int) : Binary64 :=
  let (m, e) :=
    if mantissa = Nat.pow 2 precision then (Nat.pow 2 (precision - 1), exponent + 1)
    else (mantissa, exponent)
  if maxExponent < e then .infinite negative else .finite negative m e

/-- The number nearest to a quotient, with the given sign. -/
def ofQuotient (negative : Bool) (num den : Nat) : Binary64 :=
  if num = 0 then .finite negative 0 minExponent
  else
    let k := gridExponent num den
    let (above, below) := scaleDown num den k
    ofRounded negative (roundQuotient above below) k

/-! ## §3. Numerals with a fraction and an exponent. -/

/-- A power of ten beyond which every number is infinite, and below whose inverse it is zero. -/
def decimalLimit : Int := 400

/-- The number written as `digits · 10 ^ exponent`. -/
def ofDecimal (negative : Bool) (digits : Nat) (exponent : Int) : Binary64 :=
  if digits = 0 || exponent + digits.log2 < -decimalLimit then .finite negative 0 minExponent
  else if decimalLimit < exponent then .infinite negative
  else if 0 ≤ exponent then ofQuotient negative (digits * Nat.pow 10 exponent.toNat) 1
  else ofQuotient negative digits (Nat.pow 10 (-exponent).toNat)

/-! ## §4. Values. -/

/-- The value `m · 2 ^ e`. -/
def gridPoint (m : Nat) (e : Int) : Rat :=
  if 0 ≤ e then ((m * Nat.pow 2 e.toNat : Nat) : Rat) else mkRat m (Nat.pow 2 (-e).toNat)

/-- The value `± m · 2 ^ e`. -/
def signedPoint (negative : Bool) (m : Nat) (e : Int) : Rat :=
  if negative then -gridPoint m e else gridPoint m e

/-- The value of a finite number. -/
def value? : Binary64 → Option Rat
  | .finite negative m e => some (signedPoint negative m e)
  | .infinite _ | .nan => none

/-- The integer part of a finite number: its fraction is dropped, whatever the sign. -/
def truncate? (x : Binary64) : Option Int :=
  x.value?.map fun q => q.num.tdiv q.den

example : (ofDecimal false 5 (-1)).value? = some (mkRat 1 2) := by decide +kernel
example : (ofDecimal false 9007199254740993 0).value? = some 9007199254740992 := by
  decide +kernel
example : (ofDecimal true 25 (-1)).truncate? = some (-2) := by decide +kernel
example : (ofDecimal false 1 20).truncate? = some 100000000000000000000 := by decide +kernel
example : ofDecimal true 17 307 ≠ .infinite true := by decide +kernel
example : ofDecimal true 18 307 = .infinite true := by decide +kernel
example : ofDecimal false 3 (-324) = .finite false 1 (-1074) := by decide +kernel
example : ofDecimal false 2 (-324) = .finite false 0 (-1074) := by decide +kernel

end Binary64
end SlotIR
