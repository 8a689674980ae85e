import ComponentAtlas.Decimal.Shortest
import ComponentAtlas.Json.Basic

/-! # Texts of numbers

How a report writes a number, and the value of a written number. -/

namespace ComponentAtlas.JsonNumber

/-- How a floating point number is laid out. -/
structure Layout where
  /-- The least exponent of the first digit that is written without an exponent part. -/
  least : Int
  /-- The greatest such exponent. -/
  greatest : Int
  /-- The least count of digits in an exponent part. -/
  exponentDigits : Nat

/-- Numbers from a hundred-thousandth up to sixteen digits are written out; an exponent has a
sign and two digits or more. -/
def layout : Layout := ⟨-5, 15, 2⟩

/-- A number as text, with zeros in front up to a width. -/
def padded (width n : Nat) : String :=
  let digits := toString n
  String.ofList (List.replicate (width - digits.length) '0') ++ digits

/-- The text of a decimal that is not negative. A whole number written out ends with `.0`. -/
def decimalText (l : Layout) (d : Decimal.Digits) : String :=
  let digits := (toString d.digits).toList
  let first : Int := d.exponent + digits.length - 1
  if d.digits = 0 then "0.0"
  else if l.least ≤ first && first ≤ l.greatest then
    if 0 ≤ d.exponent then
      String.ofList (digits ++ List.replicate d.exponent.toNat '0') ++ ".0"
    else if 0 ≤ first then
      String.ofList (digits.take (first.toNat + 1) ++ '.' :: digits.drop (first.toNat + 1))
    else
      "0." ++ String.ofList (List.replicate (-first - 1).toNat '0' ++ digits)
  else
    let fraction := match digits.drop 1 with
      | [] => ""
      | more => String.ofList ('.' :: more)
    String.ofList (digits.take 1) ++ fraction ++ (if first < 0 then "e-" else "e+") ++
      padded l.exponentDigits first.natAbs

/-- The text of the finite number with these bits. -/
def realText (bits : UInt64) : String :=
  (if Decimal.isNegative bits then "-" else "") ++
    decimalText layout (Decimal.Binary.ofBits bits).shortest

/-- A count of 64 bits as a floating point number, the nearest one. -/
def ofCount (n : Nat) : Float := n.toUInt64.toFloat

/-- Divides by powers of ten as long as the exponent is beyond the table of powers. -/
def scaleDown : Nat → Float → Int → Option (Float × Int)
  | 0, _, _ => none
  | n + 1, value, exponent =>
    if -308 ≤ exponent then some (value, exponent)
    else if value == 0 then some (value, 0)
    else scaleDown n (value / Float.ofScientific 1 false 308) (exponent + 308)

/-- The value of digits and a power of ten, computed with one rounding for each of the two steps:
the digits are rounded, then multiplied or divided. There is none when it is too large. -/
def ofParts? (digits : Nat) (exponent : Int) : Option Float :=
  let value := ofCount digits
  if 308 < exponent then if value == 0 then some value else none
  else
    match scaleDown (exponent.natAbs / 308 + 2) value exponent with
    | none => some 0
    | some (value, exponent) =>
      let power := Float.ofScientific 1 false exponent.natAbs
      if 0 ≤ exponent then
        let product := value * power
        if product.isInf then none else some product
      else some (value / power)

end ComponentAtlas.JsonNumber
