import TemplateBundler.Decimal.Shortest

/-! # Notations for floating-point numbers

A notation says how the shortest decimal of a number is laid out: up to which size it is
written out in full, and how an exponent is written otherwise.
-/

namespace TemplateBundler.Decimal

/-- How a floating-point number is written. -/
structure Notation where
  /-- The least exponent of the leading digit that is written out in full. -/
  plainFrom : Int
  /-- The greatest exponent of the leading digit that is written out in full. -/
  plainTo : Int
  /-- Whether a whole number written in full ends in `.0`. -/
  pointZero : Bool
  /-- Which of two equally near decimals is written. -/
  tie : Tie
  signedZero : Bool
  infinity : String
  deriving Repr

namespace Notation

/-- The decimal in full, given the digits and the number of them before the point. -/
def plain (layout : Notation) (digits : List Char) (before : Int) : List Char :=
  if before ≤ 0 then ['0', '.'] ++ List.replicate (-before).toNat '0' ++ digits
  else if digits.length ≤ before.toNat then
    digits ++ List.replicate (before.toNat - digits.length) '0' ++
      (if layout.pointZero then ['.', '0'] else [])
  else digits.take before.toNat ++ ['.'] ++ digits.drop before.toNat

/-- The decimal with one digit before the point and an exponent, which always has its sign. -/
def scientific (digits : List Char) (exponent : Int) : List Char :=
  let sign := if exponent < 0 then '-' else '+'
  digits.take 1 ++ (if digits.length ≤ 1 then [] else '.' :: digits.drop 1) ++ ['e', sign] ++
    Nat.toDigits 10 exponent.natAbs

def magnitude (layout : Notation) (x : Binary) : List Char :=
  let number := (x.shortest layout.tie).trimmed
  let digits := Nat.toDigits 10 number.digits
  let before := number.exponent + digits.length
  if layout.plainFrom < before && before ≤ layout.plainTo + 1 then
    layout.plain digits before
  else scientific digits (before - 1)

def write (layout : Notation) (x : Float) : String :=
  let bits := x.toBits
  let signBit := Nat.pow 2 63
  let negative := signBit ≤ bits.toNat
  let sign := if negative then "-" else ""
  if x.isNaN then "NaN"
  else if x.isInf then sign ++ layout.infinity
  else if bits.toNat % signBit = 0 then
    (if layout.signedZero then sign else "") ++ if layout.pointZero then "0.0" else "0"
  else sign ++ String.ofList (layout.magnitude (Binary.ofBits bits))

end Notation

end TemplateBundler.Decimal
