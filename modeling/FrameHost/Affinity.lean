import FrameHost.Text.Outline

/-!
Threads by number, and the affinity of an object to the first thread that binds it. Thread 0 is the main
thread; every other number is allocated once.
-/
namespace FrameHost

structure Threads where
  names : List (String × Nat)
  next : Nat
  deriving DecidableEq, Repr

namespace Threads

def main : Nat := 0
def initial : Threads := ⟨[], 1⟩

def fresh (t : Threads) : Threads × Nat := ({ t with next := t.next + 1 }, t.next)

/-- The number of a named thread, allocated on first use. -/
def named (t : Threads) (name : String) : Threads × Nat :=
  if name = "" ∨ name = "main" then (t, main)
  else match t.names.lookup name with
    | some id => (t, id)
    | none => ({ names := (name, t.next) :: t.names, next := t.next + 1 }, t.next)

end Threads

structure Affinity where
  owner : Option Nat
  deriving DecidableEq, Repr

namespace Affinity

def unbound : Affinity := ⟨none⟩
def boundTo (thread : Nat) : Affinity := ⟨some thread⟩

/-- Only the first binding sets the owner. -/
def bind (a : Affinity) (thread : Nat) : Affinity := ⟨some (a.owner.getD thread)⟩

def isCurrent (a : Affinity) (thread : Nat) : Bool := a.owner == some thread

@[simp] theorem bind_owner (a : Affinity) (thread : Nat) :
    (a.bind thread).owner = some (a.owner.getD thread) := rfl

def unsetOutline : Outline := .record "ThreadAffinity" [("owner", .tuple "OnceLock" [.atom "<uninit>"])] false

end Affinity

end FrameHost
