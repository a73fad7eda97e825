/-!
The fewest decimal digits that name a floating point number: of the decimals with so many digits
that round to the number, the one nearest to it.
-/

namespace SnapshotGen.Number

/-- A number `mantissa * 2 ^ exponent`, and whether the next smaller one is only half as far away
as the next larger one. -/
structure Binary where
  mantissa : Nat
  exponent : Int
  narrow : Bool

namespace Binary

def ofFloat (x : Float) : Binary :=
  let bits : Nat := x.toBits.toNat % 0x8000000000000000
  let fraction := bits % 0x10000000000000
  let exponent : Nat := bits / 0x10000000000000
  if exponent = 0 then ⟨fraction, -1074, false⟩
  else ⟨fraction + 0x10000000000000, (exponent : Int) - 1075, fraction = 0 && 1 < exponent⟩

/-- `digits * 10 ^ scale` rounds to the number. -/
def readsBack (b : Binary) (digits : Nat) (scale : Int) : Bool :=
  let binary := Nat.pow 2 (b.exponent - 2).toNat
  let binaryDown := Nat.pow 2 (2 - b.exponent).toNat
  let decimal := Nat.pow 10 scale.toNat
  let decimalDown := Nat.pow 10 (-scale).toNat
  let low := (4 * b.mantissa - if b.narrow then 1 else 2) * binary * decimalDown
  let high := (4 * b.mantissa + 2) * binary * decimalDown
  let value := digits * decimal * binaryDown
  if b.mantissa % 2 = 0 then low ≤ value && value ≤ high else low < value && value < high

def floorAt (b : Binary) (scale : Int) : Nat :=
  let up := b.mantissa * Nat.pow 2 b.exponent.toNat * Nat.pow 10 (-scale).toNat
  up / (Nat.pow 2 (-b.exponent).toNat * Nat.pow 10 scale.toNat)

/-- `digits` is no farther from the number than the next multiple of `10 ^ scale`. -/
def isNearer (b : Binary) (digits : Nat) (scale : Int) : Bool :=
  let value := 2 * b.mantissa * Nat.pow 2 b.exponent.toNat * Nat.pow 10 (-scale).toNat
  value ≤ (2 * digits + 1) * (Nat.pow 2 (-b.exponent).toNat * Nat.pow 10 scale.toNat)

def atScale? (b : Binary) (scale : Int) : Option (Nat × Int) :=
  let low := b.floorAt scale
  match b.readsBack low scale, b.readsBack (low + 1) scale with
  | true, true => some (if b.isNearer low scale then low else low + 1, scale)
  | true, false => some (low, scale)
  | false, true => some (low + 1, scale)
  | false, false => none

/-- Tries finer and finer scales. -/
def search (b : Binary) : Nat → Int → Nat × Int
  | 0, scale => (b.floorAt scale, scale)
  | n + 1, scale => (b.atScale? scale).getD (search b n (scale - 1))

/-- Digits and scale; the search begins above the largest number there is. -/
def shortest (b : Binary) : Nat × Int :=
  if b.mantissa = 0 then (0, 0) else b.search 700 310

end Binary

def positional (digits : Nat) (scale : Int) : String :=
  let text := (toString digits).toList
  if 0 ≤ scale then
    if digits = 0 then "0" else String.ofList (text ++ List.replicate scale.toNat '0')
  else
    let places := (-scale).toNat
    let padded := List.replicate (places + 1 - text.length) '0' ++ text
    let whole := padded.take (padded.length - places)
    let fraction := ((padded.drop (padded.length - places)).reverse.dropWhile (· == '0')).reverse
    if fraction.isEmpty then String.ofList whole else String.ofList (whole ++ '.' :: fraction)

def shown (x : Float) : String :=
  if x.isNaN then "NaN"
  else if x.isInf then (if x < 0 then "-inf" else "inf")
  else
    let (digits, scale) := (Binary.ofFloat x).shortest
    (if x.toBits.toNat < 0x8000000000000000 then "" else "-") ++ positional digits scale

end SnapshotGen.Number
