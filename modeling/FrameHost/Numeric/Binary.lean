/-!
Binary floating-point numbers as bit patterns: what a pattern stands for, and the pattern nearest to an
exact quotient. All arithmetic is on `Nat` and `Int`.
-/
namespace FrameHost

/-- A sign bit, then `width` exponent bits, then `fraction` significand bits. -/
structure BinaryFormat where
  fraction : Nat
  width : Nat
  deriving DecidableEq, Repr

/-- A finite value is `significand * 2 ^ exponent`, with its sign. -/
inductive FloatValue where
  | nan
  | infinity (negative : Bool)
  | finite (negative : Bool) (significand : Nat) (exponent : Int)
  deriving DecidableEq, Repr

namespace BinaryFormat

def single : BinaryFormat := ⟨23, 8⟩
def double : BinaryFormat := ⟨52, 11⟩

def least (f : BinaryFormat) : Int := 2 - Nat.pow 2 (f.width - 1) - f.fraction

def infinityBits (f : BinaryFormat) : Nat := (Nat.pow 2 f.width - 1) * Nat.pow 2 f.fraction
def signBit (f : BinaryFormat) : Nat := Nat.pow 2 (f.fraction + f.width)
def quietNaNBits (f : BinaryFormat) : Nat := f.infinityBits + Nat.pow 2 (f.fraction - 1)

def signed (f : BinaryFormat) (negative : Bool) (bits : Nat) : Nat :=
  if negative then f.signBit + bits else bits

def decode (f : BinaryFormat) (bits : Nat) : FloatValue :=
  let negative := bits / f.signBit % 2 == 1
  let field := bits / Nat.pow 2 f.fraction % Nat.pow 2 f.width
  let low := bits % Nat.pow 2 f.fraction
  if field = Nat.pow 2 f.width - 1 then if low = 0 then .infinity negative else .nan
  else if field = 0 then .finite negative low f.least
  else .finite negative (Nat.pow 2 f.fraction + low) (f.least + field - 1)

end BinaryFormat

def roundHalfEven (num den : Nat) : Nat :=
  let q := num / den
  let r := num % den
  if den < 2 * r ∨ (2 * r = den ∧ q % 2 = 1) then q + 1 else q

def roundHalfUp (num den : Nat) : Nat := (2 * num + den) / (2 * den)

namespace BinaryFormat

/-- The pattern nearest to `num / den`, ties to the even one. Patterns of one sign are in the order of
their values, so a significand that rounds up to the next power of two carries into the exponent. -/
def nearest (f : BinaryFormat) (negative : Bool) (num den : Nat) : Nat :=
  let top : Int := Nat.log2 num - Nat.log2 den
  let lead := if den * Nat.pow 2 top.toNat ≤ num * Nat.pow 2 (-top).toNat then top else top - 1
  let exponent := max (lead - f.fraction) f.least
  let m := roundHalfEven (num * Nat.pow 2 (-exponent).toNat) (den * Nat.pow 2 exponent.toNat)
  let bits := if num = 0 then 0 else (exponent - f.least).toNat * Nat.pow 2 f.fraction + m
  f.signed negative (min bits f.infinityBits)

def ofValue (f : BinaryFormat) : FloatValue → Nat
  | .nan => f.quietNaNBits
  | .infinity negative => f.signed negative f.infinityBits
  | .finite negative m e => f.nearest negative (m * Nat.pow 2 e.toNat) (Nat.pow 2 (-e).toNat)

end BinaryFormat

end FrameHost
