import FrameHost.Numeric.Shortest

/-!
Two ways to write a floating-point number. Plain text never has an exponent and writes whole numbers
without a point. Inspected text always shows that the number is fractional, by a point or an exponent.
-/
namespace FrameHost

/-- Where a written number takes a point. `positional` bounds the decimal exponents that are written
without an exponent mark; `none` means all of them. -/
structure NumberStyle where
  wholePoint : Bool
  positional : Option (Int × Int)
  deriving DecidableEq, Repr

namespace NumberStyle

def plain : NumberStyle := ⟨false, none⟩
def inspected : NumberStyle := ⟨true, some (-4, 15)⟩

def isPositional (s : NumberStyle) (exponent : Int) : Bool :=
  match s.positional with
  | none => true
  | some (low, high) => decide (low ≤ exponent ∧ exponent ≤ high)

def positionalText (s : NumberStyle) (d : Digits) : String :=
  let n : Int := d.digits.length
  let zeros (k : Int) : List Char := List.replicate k.toNat '0'
  if d.point ≤ 0 then "0." ++ String.ofList (zeros (-d.point) ++ d.digits)
  else if n ≤ d.point then
    String.ofList (d.digits ++ zeros (d.point - n)) ++ (if s.wholePoint then ".0" else "")
  else String.ofList (d.digits.take d.point.toNat) ++ "." ++ String.ofList (d.digits.drop d.point.toNat)

def exponentText (d : Digits) : String :=
  let fraction := match d.digits.drop 1 with
    | [] => ""
    | rest => "." ++ String.ofList rest
  String.ofList (d.digits.take 1) ++ fraction ++ "e" ++ toString (d.point - 1)

def digitsText (s : NumberStyle) (d : Digits) : String :=
  if s.isPositional (d.point - 1) then s.positionalText d else exponentText d

def text (s : NumberStyle) (f : BinaryFormat) : FloatValue → String
  | .nan => "NaN"
  | .infinity negative => if negative then "-inf" else "inf"
  | .finite negative m q => (if negative then "-" else "") ++ s.digitsText (f.shortest m q)

end NumberStyle

end FrameHost
