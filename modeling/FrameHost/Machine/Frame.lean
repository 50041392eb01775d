import FrameHost.World

/-!
The machine that runs scripts: a world, a stack of frames with the innermost first, and the fault that
unwinds the stack, if any.
-/
namespace FrameHost

/-- The phase of a render pass once its queued calls have run. -/
inductive Phase where
  | target
  /-- The renderer has been loaded with these settings. -/
  | loaded (settings : Settings)
  | presenting
  deriving DecidableEq, Repr

inductive Frame where
  | script (thread : Nat) (rest : Script)
  /-- Below the script of a runnable that was started. -/
  | running (ticket : Nat)
  | catching
  /-- Below the script of a spawned thread. -/
  | joined
  /-- A batch taken from a queue of calls: the part not started yet, and the size of the whole. -/
  | batch (thread activation : Nat) (rest : List Runnable) (count : Nat)
  /-- Shows what a drain of the standalone queue did. -/
  | drained
  /-- A round of main-thread work, over as many runnables as were waiting when it began. -/
  | round (thread activation queued ran : Nat)
  /-- Shows what a round did. -/
  | ranMain
  /-- A render pass about to begin. -/
  | enter (thread : Nat)
  /-- A render pass, with what its guard keeps of the gate. -/
  | pass (thread : Nat) (saved : Bool) (phase : Phase)
  /-- The end of a frame of the platform. -/
  | frameEnd
  deriving DecidableEq, Repr

/-- The value that the last popped frame returns to the frame below it. -/
inductive Answer where
  | nothing
  | flag (b : Bool)
  | count (n : Nat)
  deriving DecidableEq, Repr

structure Machine where
  world : World
  fault : Option Fault
  answer : Answer
  stack : List Frame
  deriving DecidableEq, Repr

namespace Machine

def proceed (world : World) (stack : List Frame) : Machine := ⟨world, none, .nothing, stack⟩
def answering (world : World) (answer : Answer) : Machine := ⟨world, none, answer, []⟩
def failing (world : World) (fault : Fault) (stack : List Frame) :
    Machine := ⟨world, some fault, .nothing, stack⟩

end Machine

end FrameHost
