import FrameHost.Adapter
import FrameHost.Script

/-!
The journal of a world: log records, messages, the life cycle of every runnable, and the boundaries of
render passes. `Event.text?` gives the trace line of an event.
-/
namespace FrameHost

inductive Line where
  | graphics
  | mainThread
  | standalone
  deriving DecidableEq, Repr

inductive WindowCommand where
  | cursor (visible : Bool)
  | fullscreen (on : Bool)
  | redraw
  deriving DecidableEq, Repr

inductive Event where
  | log (record : LogRecord)
  | said (text : String)
  /-- The runnable was handed over, to wait in a line or to run at once. -/
  | submitted (line : Line) (ticket : Nat)
  | started (ticket thread : Nat)
  | finished (ticket : Nat)
  /-- The runnable was destroyed without having been started. -/
  | destroyed (ticket : Nat) (label : Option String)
  /-- An activation began to take from a line in which these were waiting. -/
  | began (line : Line) (activation : Nat) (waiting : List Nat)
  | took (activation ticket : Nat)
  | ended (activation count : Nat)
  | requested (request : AdapterRequest)
  | passBegan (thread : Nat)
  /-- A pass that was aborted has no result. -/
  | passEnded (rendered : Option Bool)
  | targetRead (present : Bool)
  | reloaded (settings : Settings) (resolution : Resolution)
  | renderCalled
  | rendered
  | windowAsked (title : String)
  | commanded (window : Nat) (command : WindowCommand)
  | loopExitAsked
  deriving DecidableEq, Repr

def WindowCommand.text : WindowCommand → String
  | cursor visible => s!"set_cursor_visible {visible}"
  | fullscreen on => "set_fullscreen " ++ if on then "borderless" else "none"
  | redraw => "request_redraw"

def Event.text? : Event → Option String
  | log record => some record.text
  | said text => some text
  | destroyed _ (some label) => some ("drop:" ++ label)
  | reloaded settings resolution =>
      some ("reload " ++ resolution.width.inspected ++ "x" ++ resolution.height.inspected ++ " "
        ++ settings.vsync.key ++ s!" {settings.maxFps} " ++ settings.pixelScale.inspected)
  | rendered => some "render"
  | windowAsked title => some ("create_window logical 800x600 " ++ title)
  | commanded window command => some (s!"win{window}." ++ command.text)
  | loopExitAsked => some "event_loop.exit"
  | submitted .. | started .. | finished _ | destroyed _ none | began .. | took .. | ended .. | requested _
  | passBegan _ | passEnded _ | targetRead _ | renderCalled => none

def traceOf (journal : List Event) : List String := journal.reverse.filterMap Event.text?

end FrameHost
