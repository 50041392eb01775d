import FrameHost.Numeric.Notation

/-!
Single- and double-precision numbers as words. Comparison is by value: a NaN equals nothing, itself
included, and the two zeros are equal. `equals_self` says when a number equals itself.
-/
namespace FrameHost

structure Single where
  bits : UInt32
  deriving DecidableEq, Repr

structure Double where
  bits : UInt64
  deriving DecidableEq, Repr

namespace Double

def value (x : Double) : FloatValue := BinaryFormat.double.decode x.bits.toNat
def ofValue (v : FloatValue) : Double := ⟨.ofNat (BinaryFormat.double.ofValue v)⟩

def ofDecimal (mantissa : Int) (places : Nat) : Double :=
  ⟨.ofNat (BinaryFormat.double.nearest (mantissa < 0) mantissa.natAbs (Nat.pow 10 places))⟩

def one : Double := ofDecimal 1 0
def plain (x : Double) : String := NumberStyle.plain.text .double x.value

def isPositiveNormal (x : Double) : Bool := 0x0010000000000000 ≤ x.bits && x.bits < 0x7ff0000000000000

def scale (x : Double) (n : Nat) : Double :=
  ofValue <| match x.value with
    | .nan => .nan
    | .infinity negative => if n = 0 then .nan else .infinity negative
    | .finite negative m e => .finite negative (m * n) e

/-- The nearest whole number of 32 bits, halves away from zero; what is out of range goes to the end of
the range, and NaN to zero. -/
def toPixels (x : Double) : Nat :=
  match x.value with
  | .nan | .infinity true | .finite true _ _ => 0
  | .infinity false => 0xffffffff
  | .finite false m e => min (roundHalfUp (m * Nat.pow 2 e.toNat) (Nat.pow 2 (-e).toNat)) 0xffffffff

end Double

namespace Single

def value (x : Single) : FloatValue := BinaryFormat.single.decode x.bits.toNat

def ofNat (n : Nat) : Single := ⟨.ofNat (BinaryFormat.single.nearest false n 1)⟩
def ofDouble (x : Double) : Single := ⟨.ofNat (BinaryFormat.single.ofValue x.value)⟩

def nan : Single := ⟨0x7fc00000⟩
def infinity : Single := ⟨0x7f800000⟩
def negInfinity : Single := ⟨0xff800000⟩

def isNaN (x : Single) : Bool := 0x7f800000 < x.bits &&& 0x7fffffff
def isZero (x : Single) : Bool := x.bits &&& 0x7fffffff == 0

def equals (x y : Single) : Bool :=
  !x.isNaN && !y.isNaN && (x.bits == y.bits || x.isZero && y.isZero)

@[simp] theorem equals_self (x : Single) : x.equals x = !x.isNaN := by simp [equals]

theorem equals_comm (x y : Single) : x.equals y = y.equals x := by
  simp only [equals, Bool.and_comm, Bool.beq_comm]

theorem equals_trans {x y z : Single} (first : x.equals y = true) (second : y.equals z = true) :
    x.equals z = true := by
  simp only [equals, Bool.and_eq_true, Bool.or_eq_true, beq_iff_eq] at first second ⊢
  obtain ⟨⟨number, _⟩, early⟩ := first
  obtain ⟨⟨_, other⟩, late⟩ := second
  refine ⟨⟨number, other⟩, ?_⟩
  rcases early with same | ⟨zero, also⟩
  · have zeros : x.isZero = y.isZero := by simp only [isZero, same]
    rwa [same, zeros]
  · rcases late with same | ⟨_, last⟩
    · have zeros : z.isZero = y.isZero := by simp only [isZero, same]
      exact .inr ⟨zero, zeros.trans also⟩
    · exact .inr ⟨zero, last⟩

theorem equals_of_isNaN {x : Single} (y : Single) (strange : x.isNaN = true) : x.equals y = false := by
  simp [equals, strange]

theorem isNaN_ofNat (n : Nat) : (ofNat n).isNaN = false := by
  have bound : BinaryFormat.single.nearest false n 1 ≤ 0x7f800000 := Nat.min_le_right ..
  have low : (ofNat n).bits.toNat ≤ 0x7f800000 := by
    rw [ofNat, UInt32.toNat_ofNat_of_lt' (Nat.lt_of_le_of_lt bound (by decide))]
    exact bound
  have masked : ((ofNat n).bits &&& 0x7fffffff).toNat ≤ 0x7f800000 := by
    rw [UInt32.toNat_and]
    exact Nat.le_trans Nat.and_le_left low
  simp only [isNaN, decide_eq_false_iff_not, UInt32.lt_iff_toNat_lt]
  exact Nat.not_lt.mpr masked

def plain (x : Single) : String := NumberStyle.plain.text .single x.value
def inspected (x : Single) : String := NumberStyle.inspected.text .single x.value

end Single

end FrameHost
