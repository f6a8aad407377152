import TemplateBundler.Text.Digits

/-! # Decimals as they are written

A decimal is written with digits, perhaps a point among them, and perhaps an exponent of
ten. The floating-point number that it stands for is the nearest one.
-/

namespace TemplateBundler.Decimal

/-- A decimal without a sign: its digits as a natural number, and the power of ten. -/
structure Scientific where
  digits : List Char
  /-- The power of ten that they are multiplied with. -/
  exponent : Int
  deriving DecidableEq, Repr

namespace Scientific

def readExponent? (cs : List Char) : Option Int :=
  match cs with
  | [] => some 0
  | mark :: rest =>
    if mark = 'e' || mark = 'E' then
      match rest with
      | '-' :: digits => (Text.natural? 10 digits).map fun n => -(n : Int)
      | '+' :: digits => (Text.natural? 10 digits).map Int.ofNat
      | digits => (Text.natural? 10 digits).map Int.ofNat
    else none

/-- Reads a decimal. There has to be a digit before or after the point. -/
def read? (cs : List Char) : Option Scientific := do
  let whole := cs.takeWhile Char.isDigit
  let rest := cs.dropWhile Char.isDigit
  let (fraction, rest) := match rest with
    | '.' :: rest => (rest.takeWhile Char.isDigit, rest.dropWhile Char.isDigit)
    | rest => ([], rest)
  if whole = [] && fraction = [] then none
  return { digits := whole ++ fraction, exponent := (← readExponent? rest) - fraction.length }

/-- The floating-point number nearest to a decimal, which is infinite if the decimal is too
large. -/
def toFloat (number : Scientific) : Float :=
  let digits := number.digits.dropWhile (· = '0')
  let size := number.exponent + digits.length
  if digits = [] || size < -400 then 0.0
  else if 400 < size then 1.0 / 0.0
  else
    let n := digits.foldl (fun n c => n * 10 + (c.toNat - '0'.toNat)) 0
    Float.ofScientific n (number.exponent < 0) number.exponent.natAbs

end Scientific

end TemplateBundler.Decimal
