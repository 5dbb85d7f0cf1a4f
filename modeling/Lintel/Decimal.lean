/-!
# Shortest decimals of binary fractions

A finite double is a natural mantissa times a power of two. Among the decimals that lie between it
and its neighbours, the shortest is the one with the fewest digits, and among those the nearest.
-/

set_option autoImplicit false

namespace Lintel.Decimal

/-- A positive decimal `digits · 10 ^ exponent`. -/
structure Scientific where
  digits : Nat
  exponent : Int
deriving Repr, DecidableEq

/-- The mantissa and power of two of a finite double given by its bits, without the sign. -/
def binaryParts (bits : UInt64) : Nat × Int :=
  let raw : Nat := bits.toNat % Nat.pow 2 63
  let exponent : Nat := raw / Nat.pow 2 52
  let fraction : Nat := raw % Nat.pow 2 52
  if exponent = 0 then (fraction, -1074) else (fraction + Nat.pow 2 52, (exponent : Int) - 1075)

/-- The numerator of `factor · base ^ exponent` over the denominator `base ^ scale`. -/
private def scaled (factor base : Nat) (exponent : Int) (scale : Nat) : Nat :=
  factor * Nat.pow base (exponent + scale).toNat

/-- Looks for a decimal on the grid `10 ^ place` inside the rounding interval of
`mantissa · 2 ^ power`; of two such decimals the nearer is taken. The ends of the interval belong to
it when the mantissa is even. -/
def onGrid? (mantissa : Nat) (power place : Int) : Option Nat :=
  let binaryScale := (2 - power).toNat
  let decimalScale := (-place).toNat
  let unit := Nat.pow 10 decimalScale
  let value := scaled mantissa 2 power binaryScale * unit
  let halfStep := scaled 1 2 (power - 1) binaryScale * unit
  let below := if mantissa = Nat.pow 2 52 ∧ power ≠ -1074 then halfStep / 2 else halfStep
  let grid := scaled 1 10 place decimalScale * Nat.pow 2 binaryScale
  let low := value / grid
  let inside (candidate : Nat) : Bool :=
    let at_ := candidate * grid
    if mantissa % 2 = 0 then value ≤ at_ + below && at_ ≤ value + halfStep
    else value < at_ + below && at_ < value + halfStep
  match inside low && low != 0, inside (low + 1) with
  | true, true =>
    let downward := value - low * grid
    let upward := (low + 1) * grid - value
    if downward < upward ∨ (downward = upward ∧ low % 2 = 0) then some low else some (low + 1)
  | true, false => some low
  | false, true => some (low + 1)
  | false, false => none

/-- Moves trailing zeros of the digits into the exponent. -/
def dropZeros : Nat → Scientific → Scientific
  | 0, number => number
  | fuel + 1, number =>
    if number.digits ≠ 0 ∧ number.digits % 10 = 0 then
      dropZeros fuel ⟨number.digits / 10, number.exponent + 1⟩
    else number

/-- The decimal exponent of the leading digit of `mantissa · 2 ^ power`. -/
def leadingPlace (mantissa : Nat) (power : Int) : Int :=
  if 0 ≤ power then ((Nat.toDigits 10 (mantissa * Nat.pow 2 power.toNat)).length : Int) - 1
  else
    let whole := mantissa / Nat.pow 2 (-power).toNat
    if whole ≠ 0 then ((Nat.toDigits 10 whole).length : Int) - 1
    else
      let places := (-power).toNat
      let shifted := mantissa * Nat.pow 10 places / Nat.pow 2 places
      ((Nat.toDigits 10 shifted).length : Int) - 1 - places

/-- The shortest decimal of a positive finite double. -/
def shortest (bits : UInt64) : Scientific :=
  let (mantissa, power) := binaryParts bits
  let top := leadingPlace mantissa power
  match (List.range 17).findSome? fun (count : Nat) =>
      (onGrid? mantissa power (top - count)).map fun digits => (⟨digits, top - count⟩ : Scientific) with
  | some number => dropZeros 400 number
  | none => ⟨0, 0⟩

/-- Text of a double: positional from `1e-5` up to `1e16` and always with a point, scientific
elsewhere. -/
def text (bits : UInt64) : String :=
  let sign := if bits.toNat < Nat.pow 2 63 then "" else "-"
  if bits.toNat % Nat.pow 2 63 = 0 then sign ++ "0.0"
  else
    let number := shortest bits
    let digits := Nat.toDigits 10 number.digits
    let point : Int := digits.length + number.exponent
    let body : List Char :=
      if 0 ≤ number.exponent ∧ point ≤ 16 then
        digits ++ List.replicate number.exponent.toNat '0' ++ ['.', '0']
      else if 0 < point ∧ point ≤ 16 then
        digits.take point.toNat ++ '.' :: digits.drop point.toNat
      else if -5 < point ∧ point ≤ 0 then
        '0' :: '.' :: List.replicate (-point).toNat '0' ++ digits
      else
        let exponent := (toString (point - 1)).toList
        match digits with
        | [] => []
        | [digit] => digit :: 'e' :: exponent
        | digit :: rest => digit :: '.' :: rest ++ 'e' :: exponent
    sign ++ String.ofList body

end Lintel.Decimal
