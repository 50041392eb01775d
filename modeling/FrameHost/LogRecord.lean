import FrameHost.RenderError
import FrameHost.Resolution
import FrameHost.Settings
import FrameHost.Timer.Span

/-!
The log records, each with its level, target and message.
-/
namespace FrameHost

inductive LogLevel where
  | trace
  | debug
  | info
  | warn
  | error
  deriving DecidableEq, Repr

def LogLevel.name : LogLevel → String
  | trace => "TRACE"
  | debug => "DEBUG"
  | info => "INFO"
  | warn => "WARN"
  | error => "ERROR"

inductive LogRecord where
  | runningCalls (count : Nat)
  | droppingCalls (count : Nat)
  | buildingAdapter (frames : Nat)
  | resizeRequested (width height : Nat)
  | resizeSettling (remaining : Nat)
  | resizeSettledHere
  | reloading (settings : Settings) (resolution : Resolution)
  | settingsQueued (settings : Settings)
  | zeroDebounceRaised
  | noRenderTarget
  | frameFailed (error : RenderError)
  | terminationRequested
  | fullscreenUnsupported (requested : Bool)
  | ranMainThread (count : Nat)
  | mainThreadGone
  | platformReady
  | windowCreated (width height : Nat) (scale : Double)
  | windowKept
  | windowFailed (reason : String)
  | loopStarting
  | loopExited
  | closeRequested
  | windowResized (width height : Nat)
  | frameSkipped
  | exitRequested
  | terminating
  | fullscreenIgnored
  | timerRegistered (id : TimerId) (length : Span) (repeats : Bool)
  | timerDeleting (id : TimerId)
  deriving DecidableEq, Repr

namespace LogRecord

def level : LogRecord → LogLevel
  | runningCalls _ | resizeRequested .. | resizeSettling _ | noRenderTarget | ranMainThread _
  | windowResized .. | frameSkipped | timerRegistered .. | timerDeleting _ => .trace
  | resizeSettledHere | reloading .. | settingsQueued _ | frameFailed _ | windowKept | loopStarting
  | fullscreenIgnored => .debug
  | buildingAdapter _ | terminationRequested | platformReady | windowCreated .. | loopExited
  | closeRequested | exitRequested | terminating => .info
  | droppingCalls _ | zeroDebounceRaised | fullscreenUnsupported _ | mainThreadGone => .warn
  | windowFailed _ => .error

def target : LogRecord → String
  | runningCalls _ | droppingCalls _ => "adapter::graphics"
  | resizeRequested .. | resizeSettling _ | resizeSettledHere => "adapter::resize"
  | buildingAdapter _ | reloading .. | settingsQueued _ | zeroDebounceRaised | noRenderTarget
  | frameFailed _ | terminationRequested | fullscreenUnsupported _ => "adapter"
  | ranMainThread _ | mainThreadGone => "platform::main_thread"
  | platformReady | windowCreated .. | windowKept | windowFailed _ | loopStarting | loopExited
  | closeRequested | windowResized .. | frameSkipped | exitRequested | terminating
  | fullscreenIgnored => "platform"
  | timerRegistered .. | timerDeleting _ => "logic::timer"

def message : LogRecord → String
  | runningCalls count => s!"Running {count} queued graphics calls"
  | droppingCalls count => s!"Dropping {count} unexecuted graphics calls at shutdown"
  | buildingAdapter frames => s!"Building adapter (resize debounce: {frames} frames)"
  | resizeRequested width height => s!"Resize requested: {width}x{height}"
  | resizeSettling remaining => s!"Resize settling, {remaining} frames left"
  | resizeSettledHere => "Resize settled at current size"
  | reloading settings resolution =>
      "Reloading renderer at " ++ resolution.width.plain ++ "x" ++ resolution.height.plain
        ++ " (" ++ settings.outline.compact ++ ")"
  | settingsQueued settings => "Graphics settings queued for next frame: " ++ settings.outline.compact
  | zeroDebounceRaised => "Resize debounce of 0 frames requested, using 1"
  | noRenderTarget => "No render target, skipping frame"
  | frameFailed error => "Frame skipped: " ++ error.message
  | terminationRequested => "App termination requested"
  | fullscreenUnsupported requested => s!"Fullscreen control unsupported (requested {requested})"
  | ranMainThread count => s!"Ran {count} main-thread runnables"
  | mainThreadGone => "Main thread gone, dropping runnable"
  | platformReady => "Platform subsystem initialized"
  | windowCreated width height scale =>
      s!"Window created: {width}x{height} @ " ++ scale.plain ++ "x DPI"
  | windowKept => "Window already exists (mobile resume?)"
  | windowFailed reason => "Window creation failed: os error: " ++ reason
  | loopStarting => "Starting Winit event loop"
  | loopExited => "Event loop exited"
  | closeRequested => "Window close requested"
  | windowResized width height => s!"Resized to {width}x{height}"
  | frameSkipped => "Frame skipped"
  | exitRequested => "Exit requested"
  | terminating => "Terminating on request"
  | fullscreenIgnored => "Fullscreen change ignored, no window yet"
  | timerRegistered id length repeats =>
      "Registered " ++ id.name ++ " (" ++ length.text ++ s!", repeat: {repeats})"
  | timerDeleting id => "Deleting " ++ id.name

def text (r : LogRecord) : String := "[" ++ r.level.name ++ " " ++ r.target ++ "] " ++ r.message

end LogRecord

end FrameHost
