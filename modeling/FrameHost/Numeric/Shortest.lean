import FrameHost.Numeric.Binary

/-!
The fewest decimal digits that read back as a given binary value, and of those the nearest.

A value `m * 2 ^ q` owns the reals that round to it: half a place up, and half a place down or a quarter
where `m` is the least significand of its binade. The ends belong to it when `m` is even. A grid of `n`
digits meets that interval exactly when one of the value's two neighbours on the grid lies in it.
-/
namespace FrameHost

structure Digits where
  digits : List Char
  point : Int
  deriving DecidableEq, Repr

def decimalLength (n : Nat) : Nat := (Nat.toDigits 10 n).length

/-- The number of digits before the point of `num / den`, negative for leading zeros after it. -/
def leadingPlace (num den : Nat) : Int :=
  let p : Int := decimalLength num - decimalLength den
  if num * Nat.pow 10 (-p).toNat < den * Nat.pow 10 p.toNat then p else p + 1

/-- The interval of reals that round to a value, its ends and centre in one unit of length. -/
structure RoundingInterval where
  low : Nat
  centre : Nat
  high : Nat
  closed : Bool
  deriving DecidableEq, Repr

def RoundingInterval.Contains (i : RoundingInterval) (x : Nat) : Prop :=
  if i.closed then i.low ≤ x ∧ x ≤ i.high else i.low < x ∧ x < i.high

instance (i : RoundingInterval) (x : Nat) : Decidable (i.Contains x) := by
  unfold RoundingInterval.Contains; split <;> infer_instance

def BinaryFormat.interval (f : BinaryFormat) (m : Nat) (q : Int) (unit : Nat) : RoundingInterval :=
  let below := if m = Nat.pow 2 f.fraction ∧ f.least < q then 1 else 2
  ⟨(4 * m - below) * unit, 4 * m * unit, (4 * m + 2) * unit, m % 2 == 0⟩

/-- Of the two neighbours on a grid of spacing `gap`, the one in the interval; of two, the nearer; of two
equally near, the upper. -/
def RoundingInterval.neighbour? (i : RoundingInterval) (gap : Nat) : Option Nat :=
  let down := i.centre / gap
  let up := down + 1
  if i.Contains (down * gap) then
    if i.Contains (up * gap) ∧ up * gap - i.centre ≤ i.centre - down * gap then some up else some down
  else if i.Contains (up * gap) then some up else none

def dropTrailingZeros (ds : List Char) : List Char := (ds.reverse.dropWhile (· == '0')).reverse

/-- The `n`-digit decimal nearest to a positive value, if it reads back. -/
def BinaryFormat.digits? (f : BinaryFormat) (m : Nat) (q : Int) (n : Nat) : Option Digits :=
  let place := leadingPlace (m * Nat.pow 2 q.toNat) (Nat.pow 2 (-q).toNat)
  let last := place - n
  let quarter := q - 2
  let interval := f.interval m q (Nat.pow 2 quarter.toNat * Nat.pow 10 (-last).toNat)
  (interval.neighbour? (Nat.pow 10 last.toNat * Nat.pow 2 (-quarter).toNat)).map fun g =>
    let ds := Nat.toDigits 10 g
    ⟨dropTrailingZeros ds, ds.length + last⟩

/-- Seventeen digits always suffice in the formats used here. -/
def BinaryFormat.shortest (f : BinaryFormat) (m : Nat) (q : Int) : Digits :=
  if m = 0 then ⟨['0'], 1⟩
  else ((List.range 17).findSome? fun n => f.digits? m q (n + 1)).getD ⟨['0'], 1⟩

end FrameHost
