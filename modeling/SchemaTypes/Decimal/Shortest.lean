/-! The shortest decimal text of a binary floating point number that reads back as that number. The
number is `m · 2^q`; the decimals that read back as it lie between the middles to its neighbours,
and the middles count when `m` is even. Of the grids `10^p` the coarsest with a point in there is
taken, and of its two points around the number the nearer, or the upper one when both are equally
near. -/
namespace SchemaTypes.Decimal

/-- A finite number without its sign, and whether its lower neighbour is only half as far away as
its upper one. -/
structure Binary where
  mantissa : Nat
  exponent : Int
  narrowBelow : Bool
  deriving DecidableEq, Repr

/-- A double from its bits, without the sign bit; `none` for infinities and NaN. -/
def Binary.ofBits? (bits : Nat) : Option Binary :=
  let fraction := bits % 0x10000000000000
  let field := bits / 0x10000000000000 % 2048
  if field = 2047 then none
  else if field = 0 then some ⟨fraction, -1074, false⟩
  else some ⟨fraction + 0x10000000000000, (field : Int) - 1075, fraction = 0 && field > 1⟩

/-- A decimal number `digits · 10^power`. -/
structure Scaled where
  digits : Nat
  power : Int
  deriving DecidableEq, Repr

namespace Binary

/-- The point of the grid `10^power` that reads back as the number and lies nearest to it; a tie
goes to the larger. -/
def nearestOn (b : Binary) (power : Int) : Option Scaled :=
  -- Everything is scaled to integers, in units of `2^-twos · 10^-tens`.
  let twos := (2 - b.exponent).toNat
  let tens := (-power).toNat
  let scale := Nat.pow 2 (b.exponent + twos).toNat * Nat.pow 10 tens
  let value := b.mantissa * scale
  let above := value + scale / 2
  let below := value - (if b.narrowBelow then scale / 4 else scale / 2)
  let unit := Nat.pow 10 (power + tens).toNat * Nat.pow 2 twos
  let holds (point : Nat) : Bool :=
    if b.mantissa % 2 = 0 then below ≤ point && point ≤ above else below < point && point < above
  let low := value / unit
  let high := low + 1
  match holds (low * unit), holds (high * unit) with
  | true, true =>
    let gapLow := value - low * unit
    let gapHigh := high * unit - value
    if gapLow < gapHigh then some ⟨low, power⟩ else some ⟨high, power⟩
  | true, false => some ⟨low, power⟩
  | false, true => some ⟨high, power⟩
  | false, false => none

/-- The first hit on the grids from `10^(count - 343)` downwards. -/
def search (b : Binary) : Nat → Scaled
  | 0 => ⟨0, 0⟩
  | count + 1 => (b.nearestOn (count - 343 : Int)).getD (b.search count)

def shortest (b : Binary) : Scaled := if b.mantissa = 0 then ⟨0, 0⟩ else b.search 660

end Binary

def Scaled.positional (d : Scaled) : String :=
  let digits := Nat.toDigits 10 d.digits
  if 0 ≤ d.power then
    String.ofList (digits ++ List.replicate d.power.toNat '0') ++ ".0"
  else
    let places := (-d.power).toNat
    let padded := List.replicate (places + 1 - digits.length) '0' ++ digits
    let whole := padded.length - places
    String.ofList (padded.take whole ++ '.' :: padded.drop whole)

def floatText (x : Float) : String :=
  if x.isNaN then "NaN"
  else
    let bits := x.toBits.toNat
    let sign := if bits < 0x8000000000000000 then "" else "-"
    match Binary.ofBits? (bits % 0x8000000000000000) with
    | some b => sign ++ b.shortest.positional
    | none => sign ++ "inf"

end SchemaTypes.Decimal
