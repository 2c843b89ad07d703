import AgeReport.Number.Decimal

/-!
# Shortest decimal texts of floating-point numbers

A finite number is written with the fewest digits that read back as that number, and among those
with the digits nearest to it. A number `m * 2 ^ q` is what every real number between two
half-way points rounds to, the half-way points included when `m` is even; the text stands for the
point of the coarsest decimal grid in that interval.

* `hit_isAdmissible`: a point that is found lies in the interval.
-/

namespace AgeReport.Shortest

/-- A positive finite number `m * 2 ^ q`. -/
structure Dyadic where
  m : Nat
  q : Int
  /-- Whether the next smaller number is only half as far away as the next greater one. -/
  narrow : Bool
deriving DecidableEq, Repr

/-- The value of the leading bit that the bits of a float leave out. -/
def hiddenBit : Nat := 4503599627370496

/-- The magnitude of a finite 64-bit float, from its bits. -/
def Dyadic.ofBits (bits : UInt64) : Dyadic :=
  let exponent := (bits >>> 52).toNat % 2048
  let fraction := bits.toNat % hiddenBit
  if exponent = 0 then ⟨fraction, -1074, false⟩
  else ⟨hiddenBit + fraction, exponent - 1075, fraction = 0 && 1 < exponent⟩

/-- The factor that turns a count of `10 ^ p` into a whole number of a unit shared with
`binaryScale`. -/
def decimalScale (d : Dyadic) (p : Int) : Nat :=
  Nat.pow 10 p.toNat * Nat.pow 2 (2 - d.q).toNat

/-- The factor that turns a count of quarters of `2 ^ q` into a whole number of the same unit. -/
def binaryScale (d : Dyadic) (p : Int) : Nat :=
  Nat.pow 2 (d.q - 2).toNat * Nat.pow 10 (-p).toNat

/-- Whether `c * 10 ^ p` rounds to the number. -/
def admissible (d : Dyadic) (p : Int) (c : Nat) : Bool :=
  let point := c * decimalScale d p
  let low := (4 * d.m - if d.narrow then 1 else 2) * binaryScale d p
  let high := (4 * d.m + 2) * binaryScale d p
  if d.m % 2 = 0 then low ≤ point && point ≤ high else low < point && point < high

/-- The admissible point of the grid `10 ^ p` that is nearest to the number; a tie goes to the
even count. -/
def hit (d : Dyadic) (p : Int) : Option Nat :=
  let value := 4 * d.m * binaryScale d p
  let below := value / decimalScale d p
  let gapBelow := value - below * decimalScale d p
  let gapAbove := (below + 1) * decimalScale d p - value
  let belowFirst : Bool :=
    gapBelow < gapAbove || (gapBelow == gapAbove && below % 2 == 0)
  let order := if belowFirst then [below, below + 1] else [below + 1, below]
  order.find? (admissible d p)

/-- The exponents of the grids to try, from coarse to fine. -/
def grids : List Int :=
  (List.range 680).map fun k : Nat => 310 - (k : Int)

/-- The digits of the shortest text as a count, and the exponent of its grid; zero has none. -/
def digitsOf (d : Dyadic) : Option (Nat × Int) :=
  if d.m = 0 then none else grids.findSome? fun p => (hit d p).map fun c => (c, p)

/-- Lays out the digits `ds` of a number whose last digit counts `10 ^ p`: positional notation for
numbers from `10 ^ (-5)` up to below `10 ^ 16`, always with a decimal, and otherwise one digit
before the point and an exponent. -/
def layOut (ds : List Char) (p : Int) : List Char :=
  let exponent := p + ds.length - 1
  if -5 ≤ exponent ∧ exponent ≤ 15 then
    if 0 ≤ p then ds ++ List.replicate p.toNat '0' ++ ['.', '0']
    else if 0 ≤ exponent then
      ds.take (exponent.toNat + 1) ++ '.' :: ds.drop (exponent.toNat + 1)
    else ['0', '.'] ++ List.replicate (-exponent - 1).toNat '0' ++ ds
  else
    let mantissa :=
      match ds with
      | [] => []
      | [d] => [d]
      | d :: rest => d :: '.' :: rest
    mantissa ++ ['e'] ++ (if exponent < 0 then [] else ['+']) ++ Decimal.ofInt exponent

/-- The shortest text of a finite number. -/
def text (f : Float) : String :=
  let bits := f.toBits
  let magnitude :=
    match digitsOf (.ofBits bits) with
    | some (c, p) => layOut (Decimal.digits c) p
    | none => ['0', '.', '0']
  String.ofList (if bits >>> 63 = 1 then '-' :: magnitude else magnitude)

theorem hit_isAdmissible {d : Dyadic} {p : Int} {c : Nat} (h : hit d p = some c) :
    admissible d p c = true :=
  List.find?_some h

end AgeReport.Shortest
