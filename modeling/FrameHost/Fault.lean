/-!
The causes of an unwind, each with its message.
-/
namespace FrameHost

inductive TimerCall where
  | new
  | set
  | delete
  deriving DecidableEq, Repr

def TimerCall.name : TimerCall → String
  | new => "new"
  | set => "set"
  | delete => "delete"

inductive Fault where
  /-- Raised by a script, with its text. -/
  | raised (message : String)
  /-- A graphics operation outside a render pass. -/
  | gateClosed (operation : String)
  | zeroWindow
  | zeroDebounce
  /-- A render pass on a thread other than the graphics thread. -/
  | offGraphicsThread
  /-- A timer operation on a thread other than the logic thread. -/
  | offLogicThread (call : TimerCall)
  | registryFailed (call : TimerCall)
  /-- A window at a scale that no display has. -/
  | invalidScale
  deriving DecidableEq, Repr

def Fault.message : Fault → String
  | raised message => message
  | gateClosed operation => "Graphics operation '" ++ operation ++ "' issued outside a render pass"
  | zeroWindow => "Resize debounce window must be positive"
  | zeroDebounce => "Resize debounce frames must be positive"
  | offGraphicsThread => "try_render called off the graphics thread"
  | offLogicThread .new => "AppTimer created off the logic thread"
  | offLogicThread .set => "AppTimer length changed off the logic thread"
  | offLogicThread .delete => "AppTimer dropped off the logic thread"
  | registryFailed call => "registry " ++ call.name ++ " failed"
  | invalidScale => "assertion failed: validate_scale_factor(scale_factor)"

end FrameHost
