/-! # Shortest decimals

The fewest decimal digits that read back as a given binary floating point number, and of those
the digits nearest to it. The search is exact: a decimal is tested against the two ends of the
interval of numbers that round to the given one. -/

namespace ComponentAtlas.Decimal

/-- A finite number that is not negative: `m * 2 ^ q`. -/
structure Binary where
  m : Nat
  q : Int
  /-- The gap to the number below is half the gap to the number above. -/
  narrowBelow : Bool

/-- The absolute value of the finite number with these 64 bits. -/
def Binary.ofBits (bits : UInt64) : Binary :=
  let exponent := ((bits >>> 52) &&& 0x7ff).toNat
  let fraction := (bits &&& 0xfffffffffffff).toNat
  if exponent = 0 then ⟨fraction, -1074, false⟩
  else ⟨1 <<< 52 + fraction, (exponent : Int) - 1075, fraction = 0 && 1 < exponent⟩

/-- The number with these bits is negative, or a negative zero. -/
def isNegative (bits : UInt64) : Bool := bits >>> 63 = 1

/-- A decimal: `digits * 10 ^ exponent`. -/
structure Digits where
  digits : Nat
  exponent : Int
deriving DecidableEq, Repr

/-- Compares `a * 10 ^ i` with `n * 2 ^ j`. -/
def compareScaled (a : Nat) (i : Int) (n : Nat) (j : Int) : Ordering :=
  compare (a * Nat.pow 10 i.toNat * Nat.pow 2 (-j).toNat)
    (n * Nat.pow 2 j.toNat * Nat.pow 10 (-i).toNat)

/-- The decimal lies among the numbers that round to `x`, to nearest and ties to even. -/
def Binary.readsBack (x : Binary) (d : Digits) : Bool :=
  let low := if x.narrowBelow then 4 * x.m - 1 else 4 * x.m - 2
  let high := 4 * x.m + 2
  let closed := x.m % 2 = 0
  let above := compareScaled d.digits d.exponent low (x.q - 2)
  let below := compareScaled d.digits d.exponent high (x.q - 2)
  (above = .gt || (closed && above = .eq)) && (below = .lt || (closed && below = .eq))

/-- The least count of digits before the point, searched upwards from a bound below it. -/
def Binary.scale (x : Binary) : Int :=
  let guess : Int := ((x.m.log2 : Int) + x.q) * 30103 / 100000 - 1
  ((List.range 5).map (fun (i : Nat) => guess + (i : Int))).find?
    (fun k => compareScaled 1 k x.m x.q = .gt) |>.getD (guess + 5)

/-- The grid point at or below the number, on the grid of multiples of `10 ^ e`. -/
def Binary.floorOn (x : Binary) (e : Int) : Nat :=
  (x.m * Nat.pow 2 x.q.toNat * Nat.pow 10 (-e).toNat) /
    (Nat.pow 10 e.toNat * Nat.pow 2 (-x.q).toNat)

/-- The neighbours of the number on a grid that read back; of two the nearer, of two equally near
the even one. -/
def Binary.onGrid? (x : Binary) (e : Int) : Option Digits :=
  let low := x.floorOn e
  let candidates := [(⟨low, e⟩ : Digits), ⟨low + 1, e⟩].filter x.readsBack
  match candidates with
  | [] => none
  | [d] => some d
  | d :: _ =>
    match compareScaled (2 * low + 1) e (2 * x.m) x.q with
    | .gt => some d
    | .lt => some ⟨low + 1, e⟩
    | .eq => some (if low % 2 = 0 then d else ⟨low + 1, e⟩)

/-- Moves trailing zeros of the digits into the exponent; the first argument bounds how many. -/
def Digits.strip : Nat → Digits → Digits
  | 0, d => d
  | n + 1, d =>
    if d.digits ≠ 0 && d.digits % 10 = 0 then strip n ⟨d.digits / 10, d.exponent + 1⟩ else d

/-- The shortest decimal that reads back as the number. -/
def Binary.shortest (x : Binary) : Digits :=
  if x.m = 0 then ⟨0, 0⟩
  else
    let k := x.scale
    let found := ((List.range 17).map fun (n : Nat) => k - ((n : Int) + 1)).findSome? x.onGrid?
    (found.getD ⟨x.m * Nat.pow 2 x.q.toNat, 0⟩).strip 20

end ComponentAtlas.Decimal
