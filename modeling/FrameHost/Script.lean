import FrameHost.RenderError
import FrameHost.Resolution

/-!
Scripts: the actions of a runnable, as a finite tree in which `Script.done` ends every branch.
-/
namespace FrameHost

inductive Hook where
  | reload
  | render
  deriving DecidableEq, Repr

/-- Actions without a body. Handles and senders are named by their slots. -/
inductive Op where
  | note (text : String)
  | raise (message : String)
  | query (handle : Nat)
  | dropHandle (handle : Nat)
  /-- Pushes a runnable that does the same with a smaller count. -/
  | chain (count handle : Nat)
  | runMain
  | drainQueue
  | queueLength
  | setTarget (present : Bool)
  | setResolution (resolution : Resolution)
  | setSticky (sticky : Bool)
  | failRender (error : RenderError)
  deriving DecidableEq, Repr

/-- Actions on a body. -/
inductive Nest where
  | times (count : Nat)
  /-- Runs on a new thread, which is joined. -/
  | spawn
  | catching
  /-- Goes to the graphics thread through a handle. -/
  | push (handle : Nat) (label : Option String)
  /-- Goes to the main thread through a sender. -/
  | dispatch (sender : Nat) (label : Option String)
  /-- Goes to the standalone queue. -/
  | enqueue (label : Option String)
  /-- Becomes what the renderer does at a hook. -/
  | install (hook : Hook)
  deriving DecidableEq, Repr

inductive Script where
  | done
  | act (op : Op) (next : Script)
  | nest (kind : Nest) (body next : Script)
  deriving DecidableEq, Inhabited, Repr

structure Runnable where
  ticket : Nat
  label : Option String
  body : Script
  deriving DecidableEq, Repr

def Runnable.outline : Outline := .atom "Runnable \x7b .. \x7d"

end FrameHost
