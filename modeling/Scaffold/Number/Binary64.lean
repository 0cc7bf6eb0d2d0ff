/-!
# Binary floating-point numbers of 64 bits

A number is kept as its bit pattern, so equal patterns are equal values of the
type and nothing depends on the opaque core type. Arithmetic goes through that
type; the remainder is exact and is computed on the decoded numbers.
-/

namespace Scaffold

structure Binary64 where
  bits : UInt64
  deriving DecidableEq, Repr, Inhabited

namespace Binary64

def ofFloat (x : Float) : Binary64 := ⟨x.toBits⟩

def toFloat (x : Binary64) : Float := Float.ofBits x.bits

/-! ## Decoding -/

def isNegative (x : Binary64) : Bool := x.bits >>> 63 == 1

/-- The eleven bits of the exponent. -/
def exponentField (x : Binary64) : Nat := ((x.bits >>> 52) &&& 0x7ff).toNat

/-- The fifty-two bits of the fraction. -/
def fractionField (x : Binary64) : Nat := (x.bits &&& 0xfffffffffffff).toNat

def isFinite (x : Binary64) : Bool := x.exponentField != 0x7ff

/-- The integer `m` of the magnitude `m · 2 ^ q`. -/
def significand (x : Binary64) : Nat :=
  if x.exponentField = 0 then x.fractionField else 0x10000000000000 + x.fractionField

/-- The exponent `q` of the magnitude `m · 2 ^ q`. -/
def exponent (x : Binary64) : Int :=
  (if x.exponentField = 0 then 1 else x.exponentField : Nat) - 1075

def isZero (x : Binary64) : Bool := x.significand == 0 && x.isFinite

/-! ## Making numbers -/

def zero : Binary64 := ⟨0⟩

/-- The nearest number to an integer of at most 64 bits. -/
def ofInt (n : Int) : Binary64 :=
  if n < 0 then ofFloat (-(UInt64.ofNat n.natAbs).toFloat)
  else ofFloat (UInt64.ofNat n.natAbs).toFloat

/-- The nearest number to `digits · 10 ^ exponent`, negative when `negative`. -/
def ofDecimal (negative : Bool) (digits : Nat) (exponent : Int) : Binary64 :=
  let magnitude :=
    if digits = 0 then 0
    else if exponent < 0 then
      if exponent.natAbs > 400 + digits.log2 then 0
      else Float.ofScientific digits true exponent.natAbs
    else if exponent.natAbs > 400 then Float.ofBits 0x7ff0000000000000
    else Float.ofScientific digits false exponent.natAbs
  ofFloat (if negative then -magnitude else magnitude)

/-! ## Arithmetic -/

def add (x y : Binary64) : Binary64 := ofFloat (x.toFloat + y.toFloat)

def sub (x y : Binary64) : Binary64 := ofFloat (x.toFloat - y.toFloat)

def mul (x y : Binary64) : Binary64 := ofFloat (x.toFloat * y.toFloat)

def div (x y : Binary64) : Binary64 := ofFloat (x.toFloat / y.toFloat)

def abs (x : Binary64) : Binary64 := ⟨x.bits &&& 0x7fffffffffffffff⟩

def isNaN (x : Binary64) : Bool := !x.isFinite && x.fractionField != 0

/-- `m · 2 ^ q` for a magnitude that is representable. -/
def ofScaled (negative : Bool) (m : Nat) (q : Int) : Binary64 :=
  let x := Float.scaleB m.toFloat q
  ofFloat (if negative then -x else x)

/-- The remainder of the quotient rounded toward zero; it has the sign of `x`
and no rounding occurs. A zero or infinite operand that leaves no remainder
gives the quiet not-a-number pattern. -/
def rem (x y : Binary64) : Binary64 :=
  if x.isNaN || y.isNaN || !x.isFinite || y.isZero then ⟨0x7ff8000000000000⟩
  else if !y.isFinite then x
  else
    let q := min x.exponent y.exponent
    let a := x.significand * Nat.pow 2 (x.exponent - q).toNat
    let b := y.significand * Nat.pow 2 (y.exponent - q).toNat
    ofScaled x.isNegative (a % b) q

/-- The nearest whole number, away from zero where two are as near. -/
def round (x : Binary64) : Binary64 := ofFloat x.toFloat.round

/-- The next whole number upwards. -/
def ceil (x : Binary64) : Binary64 := ofFloat x.toFloat.ceil

/-- The next whole number downwards. -/
def floor (x : Binary64) : Binary64 := ofFloat x.toFloat.floor

/-- `product · base ^ n` by repeated squaring; `fuel` bounds the digits of `n` to the base two. -/
def timesPower (base product : Binary64) : Nat → Nat → Binary64
  | 0, _ => product
  | fuel + 1, n =>
    let product := if n % 2 = 1 then product.mul base else product
    if n < 2 then product else timesPower (base.mul base) product fuel (n / 2)

/-- A power of ten. One with a negative exponent is rounded once more. -/
def powerOfTen (n : Int) : Binary64 :=
  let power := timesPower (ofInt 10) (ofInt 1) 32 n.natAbs
  if n < 0 then (ofInt 1).div power else power

/-! ## Comparison -/

/-- Equality of the numbers: the two zeros are equal, and no not-a-number
equals anything. -/
def same (x y : Binary64) : Bool := x.toFloat == y.toFloat

def less (x y : Binary64) : Bool := x.toFloat < y.toFloat

def lessOrEqual (x y : Binary64) : Bool := x.toFloat ≤ y.toFloat

/-- The position of a number in the order that puts negative zero before zero:
the magnitude counts upwards from zero, and downwards for the negative numbers. -/
def rank (x : Binary64) : Int :=
  if x.isNegative then -1 - (x.abs.bits.toNat : Int) else (x.bits.toNat : Int)

/-- The integer part, kept within the range of signed 64-bit integers. -/
def truncate (x : Binary64) : Int :=
  if x.isNaN then 0
  else
    let magnitude : Nat :=
      if !x.isFinite then 0x10000000000000000
      else if x.exponent < 0 then x.significand / Nat.pow 2 x.exponent.natAbs
      else x.significand * Nat.pow 2 x.exponent.natAbs
    if x.isNegative then -(min magnitude 0x8000000000000000 : Nat)
    else (min magnitude 0x7fffffffffffffff : Nat)

/-- Whether a finite number has no fraction. -/
def isWhole (x : Binary64) : Bool :=
  x.exponent ≥ 0 || x.significand % Nat.pow 2 x.exponent.natAbs = 0

end Binary64

end Scaffold
