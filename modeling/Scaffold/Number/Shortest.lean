import Scaffold.Number.Binary64

/-!
# Shortest decimal text of a number

The digits are the fewest that read back as the number, and of those the
nearest to it. Two forms write them: the positional form never uses an
exponent and writes a whole number without a point, and the scientific form
keeps `.0` on whole numbers and moves to an exponent outside a middle range.
-/

namespace Scaffold.Number

/-- A decimal `digits · 10 ^ exponent`. -/
structure Decimal where
  digits : Nat
  exponent : Int
  deriving DecidableEq, Repr

/-! ## The fewest digits -/

/-- The reals that round to `m · 2 ^ q`, as the integers `low ≤ centre ≤ high`
over one denominator. The ends belong to the interval when `closed` holds. -/
structure Interval where
  low : Nat
  centre : Nat
  high : Nat
  denominator : Nat
  closed : Bool

/-- The gap below a power of two is half the gap above it. -/
def roundingInterval (m : Nat) (q : Int) : Interval :=
  let narrow := m = 0x10000000000000 ∧ q > -1074
  let up := Nat.pow 2 (q - 2).toNat
  let down := Nat.pow 2 (2 - q).toNat
  { low := (4 * m - (if narrow then 1 else 2)) * up
    centre := 4 * m * up
    high := (4 * m + 2) * up
    denominator := down
    closed := m % 2 = 0 }

/-- The interval in units of `10 ^ t`. -/
def Interval.inUnits (i : Interval) (t : Int) : Interval :=
  let grow := Nat.pow 10 (-t).toNat
  { low := i.low * grow
    centre := i.centre * grow
    high := i.high * grow
    denominator := i.denominator * Nat.pow 10 t.toNat
    closed := i.closed }

def Interval.holds (i : Interval) (n : Nat) : Bool :=
  let x := n * i.denominator
  if i.closed then i.low ≤ x && x ≤ i.high else i.low < x && x < i.high

/-- The grid neighbour of the centre that lies in the interval; of two the
nearer one, and the even one when both are as near. -/
def Interval.nearest? (i : Interval) : Option Nat :=
  let below := i.centre / i.denominator
  let above := below + 1
  match i.holds below && below != 0, i.holds above with
  | true, true =>
    let left := i.centre - below * i.denominator
    let right := above * i.denominator - i.centre
    if left < right then some below
    else if right < left then some above
    else if below % 2 = 0 then some below else some above
  | true, false => some below
  | false, true => some above
  | false, false => none

/-- Tries ever finer grids, starting with the unit `10 ^ t`. -/
def searchGrids (i : Interval) : Nat → Int → Decimal
  | 0, t => ⟨(i.inUnits t).centre / (i.inUnits t).denominator, t⟩
  | tries + 1, t =>
    match (i.inUnits t).nearest? with
    | some n => ⟨n, t⟩
    | none => searchGrids i tries (t - 1)

/-- The decimal without zeros at the end of its digits. -/
def Decimal.stripZeros : Nat → Decimal → Decimal
  | 0, d => d
  | fuel + 1, d =>
    if d.digits != 0 && d.digits % 10 = 0 then
      Decimal.stripZeros fuel ⟨d.digits / 10, d.exponent + 1⟩
    else d

/-- An exponent at least as large as that of the leading digit of `m · 2 ^ q`. -/
def topExponent (m : Nat) (q : Int) : Int :=
  ((m.log2 + 1 : Nat) + q) * 30103 / 100000 + 1

/-- The shortest decimal that reads back as the positive number `m · 2 ^ q`. -/
def shortest (m : Nat) (q : Int) : Decimal :=
  Decimal.stripZeros 400 (searchGrids (roundingInterval m q) 24 (topExponent m q))

/-! ## Text forms -/

def zeros (n : Nat) : String := String.ofList (List.replicate n '0')

/-- The digits with a point after the first `point` of them, zeros filled in on
either side. -/
def positionalText (digits : String) (point : Int) : String :=
  let count : Int := digits.length
  if point ≤ 0 then "0." ++ zeros (-point).toNat ++ digits
  else if point < count then
    String.ofList (digits.toList.take point.toNat) ++ "." ++
      String.ofList (digits.toList.drop point.toNat)
  else digits ++ zeros (point - count).toNat

def signText (x : Binary64) : String := if x.isNegative then "-" else ""

/-- The positional form: `2`, `0.1`, `-0`, `1000000000000000000000`. -/
def positional (x : Binary64) : String :=
  if !x.isFinite then
    if x.isNaN then "NaN" else signText x ++ "inf"
  else if x.significand = 0 then signText x ++ "0"
  else
    let d := shortest x.significand x.exponent
    let digits := toString d.digits
    signText x ++ positionalText digits (digits.length + d.exponent)

/-- The scientific form: `2.0`, `0.1`, `-0.0`, `1e+21`, `1.5e-7`. It is positional
while the point stands at most sixteen places after the first digit and at most
five places before it. -/
def scientific (x : Binary64) : String :=
  if !x.isFinite then "null"
  else if x.significand = 0 then signText x ++ "0.0"
  else
    let d := shortest x.significand x.exponent
    let digits := toString d.digits
    let point : Int := digits.length + d.exponent
    let body :=
      if 0 ≤ d.exponent && point ≤ 16 then positionalText digits point ++ ".0"
      else if -5 < point && point ≤ 16 then positionalText digits point
      else
        let power := (if 0 < point then "+" else "") ++ toString (point - 1)
        match digits.toList with
        | [one] => String.singleton one ++ "e" ++ power
        | first :: rest => String.singleton first ++ "." ++ String.ofList rest ++ "e" ++ power
        | [] => ""
    signText x ++ body

end Scaffold.Number
