import FrameHost.Fault
import FrameHost.LogRecord

/-!
Timers of the logic thread. A `TimerHandle` owns one entry of a registry: `create` makes the entry, `drop`
deletes it. The registry is a parameter.
-/
namespace FrameHost

/-- The calls of a registry with state `σ` and actions `α`. A call that faults may still change the state.
-/
structure Registry (σ α : Type) where
  inLogicThread : σ → Bool × σ
  new : Span → Bool → α → σ → Except Fault TimerId × σ
  set : TimerId → Span → σ → Option Fault × σ
  delete : TimerId → σ → Option Fault × σ
  log : LogRecord → σ → σ

structure TimerHandle where
  id : TimerId
  length : Span
  repeats : Bool
  deriving DecidableEq, Repr

namespace TimerHandle

variable {σ α : Type}

def create (reg : Registry σ α) (length : Span) (repeats : Bool) (action : α) (s : σ) :
    Except Fault TimerHandle × σ :=
  match reg.inLogicThread s with
  | (false, s) => (.error (.offLogicThread .new), s)
  | (true, s) => match reg.new length repeats action s with
      | (.error fault, s) => (.error fault, s)
      | (.ok id, s) => (.ok ⟨id, length, repeats⟩, reg.log (.timerRegistered id length repeats) s)

def setLength (reg : Registry σ α) (t : TimerHandle) (length : Span) (s : σ) : Option Fault × TimerHandle × σ :=
  match reg.inLogicThread s with
  | (false, s) => (some (.offLogicThread .set), t, s)
  | (true, s) => match reg.set t.id length s with
      | (some fault, s) => (some fault, t, s)
      | (none, s) => (none, { t with length }, s)

def delete (reg : Registry σ α) (t : TimerHandle) (s : σ) : Option Fault × σ :=
  reg.delete t.id (reg.log (.timerDeleting t.id) s)

/-- While a fault unwinds the thread is not checked. -/
def drop (reg : Registry σ α) (t : TimerHandle) (unwinding : Bool) (s : σ) : Option Fault × σ :=
  if unwinding then t.delete reg s
  else match reg.inLogicThread s with
    | (false, s) => (some (.offLogicThread .delete), s)
    | (true, s) => t.delete reg s

end TimerHandle

end FrameHost
