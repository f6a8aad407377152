/-! # The shortest decimal of a binary number

A finite binary64 number stands for all reals that round to it. Among the decimals in
that interval the one with the fewest digits is chosen, and of several with that many
digits the nearest. All arithmetic is exact, on natural numbers.
-/

namespace TemplateBundler.Decimal

/-- Which of two decimals is taken when both are equally near. -/
inductive Tie where
  /-- The one whose last digit is even. -/
  | toEven
  | up
  deriving DecidableEq, Repr

/-- A positive number `significand * 2 ^ exponent` of the binary64 format. -/
structure Binary where
  significand : Nat
  exponent : Int
  /-- Whether the next smaller number is only half as far away as the next greater one. -/
  narrowBelow : Bool
  deriving DecidableEq, Repr

/-- The number `digits * 10 ^ exponent`. -/
structure Number where
  /-- The digits, as a natural number. -/
  digits : Nat
  exponent : Int
  deriving DecidableEq, Repr

namespace Binary

/-- The magnitude of a finite number, from its bits. -/
def ofBits (bits : UInt64) : Binary :=
  let hidden := Nat.pow 2 52
  let biased := bits.toNat / hidden % 2048
  let fraction := bits.toNat % hidden
  if biased = 0 then ⟨fraction, -1074, false⟩
  else ⟨hidden + fraction, (biased : Int) - 1075, fraction = 0 && 1 < biased⟩

/-- Compares `a * 10 ^ i` with `b * 2 ^ j`. -/
def compareScaled (a : Nat) (i : Int) (b : Nat) (j : Int) : Ordering :=
  compare (a * Nat.pow 10 i.toNat * Nat.pow 2 (-j).toNat)
    (b * Nat.pow 2 j.toNat * Nat.pow 10 (-i).toNat)

/-- Whether the decimal rounds to the number: it lies between the points halfway to the two
neighbours, and those points themselves round to an even significand. -/
def isRoundedFrom (x : Binary) (d : Number) : Bool :=
  let quarters := 4 * x.significand
  let low := compareScaled d.digits d.exponent
    (quarters - if x.narrowBelow then 1 else 2) (x.exponent - 2)
  let high := compareScaled d.digits d.exponent (quarters + 2) (x.exponent - 2)
  let even := x.significand % 2 == 0
  (low == .gt || (even && low == .eq)) && (high == .lt || (even && high == .eq))

/-- The whole number of units `10 ^ unit` in the number. -/
def floorUnits (x : Binary) (unit : Int) : Nat :=
  (x.significand * Nat.pow 2 x.exponent.toNat * Nat.pow 10 (-unit).toNat)
    / (Nat.pow 2 (-x.exponent).toNat * Nat.pow 10 unit.toNat)

/-- The number of decimal digits before the point; negative for leading zeros after it. -/
def scale (x : Binary) : Int :=
  let digits := fun n : Nat => ((Nat.toDigits 10 n).length : Int)
  let guess := digits (x.significand * Nat.pow 2 x.exponent.toNat) -
    digits (Nat.pow 2 (-x.exponent).toNat)
  if compareScaled 1 guess x.significand x.exponent == .gt then guess else guess + 1

/-- Of the two decimals next to the number on the grid of `10 ^ unit`, the nearer one that rounds
to it. -/
def onGrid? (tie : Tie) (x : Binary) (unit : Int) : Option Number :=
  let below := x.floorUnits unit
  let lower : Number := ⟨below, unit⟩
  let upper : Number := ⟨below + 1, unit⟩
  match x.isRoundedFrom lower, x.isRoundedFrom upper with
  | true, false => some lower
  | false, true => some upper
  | false, false => none
  | true, true =>
    -- the point halfway between the two, against the number
    match compareScaled (2 * below + 1) unit (2 * x.significand) x.exponent with
    | .gt => some lower
    | .lt => some upper
    | .eq => some (if tie == .toEven && below % 2 == 0 then lower else upper)

/-- The shortest decimal that rounds to the number. Seventeen digits always suffice; should none
of them do, the answer is the number itself, written out. -/
def shortest (tie : Tie) (x : Binary) : Number :=
  let scale := x.scale
  let found := (List.range 17).findSome? fun (n : Nat) => x.onGrid? tie (scale - (n + 1))
  found.getD ⟨x.floorUnits (-1074), -1074⟩

end Binary

/-- The same number with no zero at the end of its digits. -/
def Number.trimmed (d : Number) : Number :=
  let digits := Nat.toDigits 10 d.digits
  let zeros := (digits.reverse.takeWhile (· == '0')).length
  if d.digits = 0 then d else ⟨d.digits / Nat.pow 10 zeros, d.exponent + zeros⟩

end TemplateBundler.Decimal
