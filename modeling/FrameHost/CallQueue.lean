import FrameHost.Script

/-!
A queue of runnables that is emptied as a whole. Runnables pushed after `take` stay for the next `take`.
-/
namespace FrameHost

structure CallQueue where
  calls : List Runnable
  deriving DecidableEq, Repr

namespace CallQueue

def empty : CallQueue := ⟨[]⟩
def push (q : CallQueue) (r : Runnable) : CallQueue := ⟨q.calls ++ [r]⟩
def take (q : CallQueue) : List Runnable × CallQueue := (q.calls, empty)
def length (q : CallQueue) : Nat := q.calls.length
def isEmpty (q : CallQueue) : Bool := q.calls.isEmpty

@[simp] theorem push_calls (q : CallQueue) (r : Runnable) : (q.push r).calls = q.calls ++ [r] := rfl
@[simp] theorem empty_calls : empty.calls = [] := rfl
@[simp] theorem length_push (q : CallQueue) (r : Runnable) : (q.push r).length = q.length + 1 := by
  simp [length]

def outline (q : CallQueue) : Outline :=
  .record "GraphicsCallQueue"
    [("calls", .record "Mutex"
      [("data", .list (q.calls.map fun _ => Runnable.outline)), ("poisoned", .bool false)] true)] false

end CallQueue

end FrameHost
