import FrameHost.Numeric.Float
import FrameHost.Text.Outline

/-!
Sizes in pixels, compared by value.
-/
namespace FrameHost

structure Resolution where
  width : Single
  height : Single
  deriving DecidableEq, Repr

namespace Resolution

def ofNat (width height : Nat) : Resolution := ⟨.ofNat width, .ofNat height⟩

def equals (a b : Resolution) : Bool := a.width.equals b.width && a.height.equals b.height

theorem equals_comm (a b : Resolution) : a.equals b = b.equals a := by
  simp only [equals, Single.equals_comm]

theorem ofNat_equals_self (width height : Nat) : (ofNat width height).equals (.ofNat width height) = true := by
  simp [equals, ofNat, Single.isNaN_ofNat]

def outline (r : Resolution) : Outline :=
  .record "Resolution" [("width", .atom r.width.inspected), ("height", .atom r.height.inspected)] false

end Resolution

end FrameHost
