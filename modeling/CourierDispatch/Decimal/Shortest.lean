import CourierDispatch.Decimal.Binary

/-!
# The fewest digits that read back

Among the decimals that round to a given double, the one with the fewest digits, and of
those the nearest. A double `m · 2 ^ q` owns the interval between the midpoints to its
neighbours, ends included when `m` is even. If a point of a decimal grid lies in that
interval, so does one of the value's two neighbours on the grid, hence the search below
tries only those two, for one digit, two digits, and so on.

Two layouts of the digits follow: `plainText` never uses an exponent, `scientificText`
does so far away from the point.
-/

namespace CourierDispatch.Decimal

/-- `significand · 10 ^ exponent`. -/
structure Scientific where
  significand : Nat
  exponent : Int
  deriving DecidableEq, Repr

/-- Which of two equally near grid points is taken. -/
inductive Tie
  | up
  | even
  deriving DecidableEq, Repr

/-- Of `below` and `below + 1` the one nearer to a value that lies `rest / (2 * den)` above
`below`. -/
def Tie.nearer (tie : Tie) (below rest den : Nat) : Nat :=
  if rest < den then below
  else if den < rest then below + 1
  else match tie with
    | .up => below + 1
    | .even => below + below % 2

namespace Binary

/-- The interval of reals that round to the value, in quarters of its unit:
lower end, value, upper end. The gap below a power of two is half as wide. -/
def quarters (b : Binary) : Nat × Nat × Nat :=
  let lower := if b.mantissa = Nat.pow 2 52 ∧ -1074 < b.exponent then 1 else 2
  (4 * b.mantissa - lower, 4 * b.mantissa, 4 * b.mantissa + 2)

/-- `quarter · 2 ^ (exponent - 2) / 10 ^ grid` as a fraction. -/
def onGrid (b : Binary) (grid : Int) (quarter : Nat) : Nat × Nat :=
  let power := b.exponent - 2
  (quarter * Nat.pow 2 power.toNat * Nat.pow 10 (-grid).toNat,
    Nat.pow 2 (-power).toNat * Nat.pow 10 grid.toNat)

/-- Does the grid point `k · 10 ^ grid` round to the value? -/
def owns (b : Binary) (grid : Int) (k : Nat) : Bool :=
  let low := b.onGrid grid b.quarters.1
  let high := b.onGrid grid b.quarters.2.2
  if b.mantissa % 2 = 0 then low.1 ≤ k * low.2 ∧ k * high.2 ≤ high.1
  else low.1 < k * low.2 ∧ k * high.2 < high.1

/-- The nearest of the value's two neighbours on a grid that rounds to it. -/
def onGrid? (b : Binary) (tie : Tie) (grid : Int) : Option Nat :=
  let (num, den) := b.onGrid grid b.quarters.2.1
  let below := num / den
  match b.owns grid below, b.owns grid (below + 1) with
  | true, true => some (tie.nearer below (2 * (num % den)) den)
  | true, false => some below
  | false, true => some (below + 1)
  | false, false => none

/-- The exponent of the leading digit: `10 ^ k ≤ value < 10 ^ (k + 1)`. -/
def magnitude (b : Binary) : Int :=
  let guess : Int := Int.fdiv ((b.mantissa.log2 + b.exponent) * 1233) 4096
  let atLeast (k : Int) : Bool :=
    b.fraction.2 * Nat.pow 10 k.toNat ≤ b.fraction.1 * Nat.pow 10 (-k).toNat
  if atLeast (guess + 1) then guess + 1 else if atLeast guess then guess else guess - 1

/-- The first grid with a hit, from `count` digits on. -/
def search (b : Binary) (tie : Tie) (lead : Int) (count : Nat) : Nat → Scientific
  | 0 => ⟨0, 0⟩
  | fuel + 1 =>
    let grid := lead + 1 - count
    match b.onGrid? tie grid with
    | some k => ⟨k, grid⟩
    | none => search b tie lead (count + 1) fuel

end Binary

/-- Trailing zeros moved from the significand into the exponent. -/
def Scientific.strip (s : Scientific) : Nat → Scientific
  | 0 => s
  | fuel + 1 =>
    if s.significand ≠ 0 ∧ s.significand % 10 = 0 then
      strip ⟨s.significand / 10, s.exponent + 1⟩ fuel
    else s

/-- The shortest decimal that rounds to the magnitude; zero is `0 · 10 ^ 0`. -/
def Binary.shortest (b : Binary) (tie : Tie) : Scientific :=
  if b.mantissa = 0 then ⟨0, 0⟩
  else (b.search tie b.magnitude 1 18).strip 20

/-- Digits and zeros around a decimal point, without an exponent. -/
def Scientific.positional (s : Scientific) : List Char :=
  let ds := digits s.significand
  if 0 ≤ s.exponent then ds ++ List.replicate s.exponent.toNat '0'
  else
    let places := (-s.exponent).toNat
    let padded := List.replicate (places + 1 - ds.length) '0' ++ ds
    padded.take (padded.length - places) ++ '.' :: padded.drop (padded.length - places)

/-- A double in the fewest digits, never with an exponent: `2000`, `-0`, `0.0000001`.
A tie goes up. -/
def plainText (x : Float) : String :=
  match Reading.ofFloat x with
  | .notANumber => "NaN"
  | .infinite negative => String.ofList (signText negative ++ "inf".toList)
  | .finite b => String.ofList (signText b.negative ++ (b.shortest .up).positional)

/-- An integer in decimal. -/
def intDigits (n : Int) : List Char := signText (n < 0) ++ digits n.natAbs

/-- One digit before the point, the others behind it, then the exponent. -/
def Scientific.withExponent (s : Scientific) : List Char :=
  let ds := digits s.significand
  let lead := s.exponent + ds.length - 1
  let mantissa := match ds with
    | [] => []
    | [d] => [d]
    | d :: rest => d :: '.' :: rest
  mantissa ++ 'e' :: intDigits lead

/-- A finite double in the fewest digits. Positions up to the sixteenth before the point
and the fifth behind it are written out, with `.0` on whole numbers; beyond them the number
has an exponent. A tie goes to the even digit. -/
def Binary.scientificText (b : Binary) : List Char :=
  let s := b.shortest .even
  let point : Int := s.exponent + (digits s.significand).length
  signText b.negative ++
    if b.mantissa = 0 then "0.0".toList
    else if 0 ≤ s.exponent ∧ point ≤ 16 then s.positional ++ ".0".toList
    else if -5 < point ∧ point ≤ 16 then s.positional
    else s.withExponent

end CourierDispatch.Decimal
