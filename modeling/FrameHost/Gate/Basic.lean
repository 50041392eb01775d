import FrameHost.Fault
import FrameHost.Text.Outline

/-!
The gate that is open while graphics calls are allowed. A guard opens it and saves the previous value, which
is restored when the guard is dropped.
-/
namespace FrameHost

structure Gate where
  allowed : Bool
  deriving DecidableEq, Repr

namespace Gate

def closed : Gate := ⟨false⟩

def enter (g : Gate) : Gate × Bool := (⟨true⟩, g.allowed)

def leave (_ : Gate) (previous : Bool) : Gate := ⟨previous⟩

def check (g : Gate) (operation : String) : Except Fault Unit :=
  if g.allowed then .ok () else .error (.gateClosed operation)

def outline (g : Gate) : Outline := .record "GraphicsGate" [("allowed", .bool g.allowed)] false

@[simp] theorem leave_enter (g : Gate) : g.enter.1.leave g.enter.2 = g := rfl

end Gate

end FrameHost
