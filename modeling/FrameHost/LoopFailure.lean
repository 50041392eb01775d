import FrameHost.Text.Quoted
import FrameHost.Text.Outline

/-!
Failures of the window system's event loop, when it is created and while it runs.
-/
namespace FrameHost

inductive LoopError where
  | recreation
  | notSupported
  | exitFailure (code : Int)
  | os (text : String)
  deriving DecidableEq, Repr

inductive LoopFailure where
  | creation (cause : LoopError)
  | execution (cause : LoopError)
  deriving DecidableEq, Repr

namespace LoopError

def message : LoopError → String
  | recreation => "EventLoop can't be recreated"
  | notSupported => "the requested operation is not supported by Winit"
  | exitFailure code => "Exit Failure: " ++ toString code
  | os text => "os error: " ++ text

def outline : LoopError → Outline
  | recreation => .atom "RecreationAttempt"
  | notSupported => .tuple "NotSupported" [.atom "NotSupportedError"]
  | exitFailure code => .tuple "ExitFailure" [.atom (toString code)]
  | os text => .tuple "Os" [.tuple "OsError" [.atom (Text.quoted text)]]

end LoopError

namespace LoopFailure

def cause : LoopFailure → LoopError
  | creation cause | execution cause => cause

def message : LoopFailure → String
  | creation cause => "Event loop creation failed: " ++ cause.message
  | execution cause => "Event loop error: " ++ cause.message

def outline : LoopFailure → Outline
  | creation cause => .tuple "EventLoopCreation" [cause.outline]
  | execution cause => .tuple "EventLoopExecution" [cause.outline]

end LoopFailure

end FrameHost
