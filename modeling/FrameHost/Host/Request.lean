import FrameHost.Machine.Run

/-!
Requests to a host, its handles and its channel. `Request.begin` performs a request or lays the frames that
perform it.
-/
namespace FrameHost

inductive WindowEvent where
  | resumed
  | aboutToWait
  | closeRequested
  | resized (width height : Nat)
  | redraw
  | other
  deriving DecidableEq, Repr

inductive Request where
  | act (body : Script)
  | render
  | push (label : Option String) (body : Script)
  | dispatch (label : Option String) (body : Script)
  | adapter (request : AdapterRequest)
  | fullscreen (on : Bool)
  | cursor (visible : Bool)
  | terminate
  | runMain
  | newHandle
  | dropHandle (slot : Nat)
  | dropReceiver
  | dropHost
  /-- A new window for the controls. -/
  | attach
  | userFullscreen (window : Nat) (on : Bool)
  | scale (scale : Double)
  | failNextWindow (reason : String)
  | title (title : String)
  | event (event : WindowEvent)
  deriving DecidableEq, Repr

namespace World

def setControls (w : World) (c : Controls) : World :=
  { w with host := w.host.map fun h => { h with controls := c } }

def setPlatform (w : World) (p : Platform) : World :=
  { w with host := w.host.map fun h => { h with platform := some p } }

def ask (w : World) (h : Host) (r : AdapterRequest) : Machine :=
  let w := (w.record (.requested r)).recordAll (r.warnings.map .log)
  match h.adapter.request r with
  | .error fault => .failing w fault []
  | .ok a => .proceed ((w.log r.notice).setAdapter a) []

def attachWindow (w : World) (h : Host) (window : Nat) : World :=
  match h.controls with
  | .panel _ => w
  | .window c =>
      let (c, events) := c.attach window
      (w.setControls (.window c)).recordAll events

/-- Creates the window on `resumed` unless there is one. A refusal by the desktop requests loop exit; a
scale that is not a positive normal number raises. -/
def resume (w : World) (h : Host) (p : Platform) : Machine :=
  if p.window.isSome then .proceed (w.log .windowKept) []
  else
    let w := w.record (.windowAsked p.title)
    match w.desktop.failure with
    | some reason =>
        .proceed (({ w with desktop := { w.desktop with failure := none } }.log (.windowFailed reason)).record
          .loopExitAsked) []
    | none =>
        let scale := w.desktop.scale
        if scale.isPositiveNormal then
          let (desktop, window) := w.desktop.openWindow
          let w := { w with desktop }.log
            (.windowCreated (scale.scale 800).toPixels (scale.scale 600).toPixels scale)
          .proceed (((w.attachWindow h window).record (.commanded window .redraw)).setPlatform
            { p with window := some window }) []
        else .failing w .invalidScale []

def handle (w : World) (h : Host) (p : Platform) (thread : Nat) : WindowEvent → Machine
  | .resumed => w.resume h p
  | .aboutToWait =>
      if h.controls.exitRequested? = some true then
        .proceed ((w.log .terminating).record .loopExitAsked) []
      else .proceed w []
  | .closeRequested => .proceed ((w.log .closeRequested).record .loopExitAsked) []
  | .resized width height => (w.log (.windowResized width height)).ask h (.resize width height)
  | .redraw => w.round thread [.enter thread, .frameEnd]
  | .other => .proceed w []

end World

namespace Request

def ofHost (w : World) (f : Host → Machine) : Machine :=
  match w.host with
  | none => .proceed w []
  | some h => f h

def begin (r : Request) (w : World) (thread : Nat) : Machine :=
  match r with
  | act body => .proceed w [.script thread body]
  | render => ofHost w fun _ => .proceed w [.enter thread]
  | push label body => ofHost w fun _ => match w.graphics with
      | none => .proceed w []
      | some g => w.ticketed.post g thread (w.runnable label body) []
  | dispatch label body => ofHost w fun _ => .proceed (w.ticketed.dispatch (w.runnable label body)) []
  | adapter r => ofHost w fun h => w.ask h r
  | fullscreen on => ofHost w fun h =>
      let (c, desktop, events) := h.controls.setFullscreen w.desktop on
      .proceed (({ w with desktop }.setControls c).recordAll events) []
  | cursor visible => ofHost w fun h =>
      let (c, events) := h.controls.setCursor visible
      .proceed ((w.setControls c).recordAll events) []
  | terminate => ofHost w fun h =>
      let (c, events) := h.controls.terminate
      .proceed (((w.log .terminationRequested).setControls c).recordAll events) []
  | runMain => if w.channel.receiver = .free then w.round thread [] else .proceed w []
  | newHandle => .proceed (if w.graphics.isSome then { w with handles := w.handles ++ [true] } else w) []
  | dropHandle slot => .proceed (w.dropHandle slot) []
  | dropReceiver => .proceed (if w.channel.receiver = .free then w.dropReceiver else w) []
  | dropHost => .proceed w.dropHost []
  | attach => ofHost w fun h =>
      let (desktop, window) := w.desktop.openWindow
      .proceed ({ w with desktop }.attachWindow h window) []
  | userFullscreen window on => .proceed { w with desktop := w.desktop.setFullscreen window on } []
  | scale factor => .proceed { w with desktop := { w.desktop with scale := factor } } []
  | failNextWindow reason => .proceed { w with desktop := { w.desktop with failure := some reason } } []
  | title text => ofHost w fun h => match h.platform with
      | none => .proceed w []
      | some p => .proceed (w.setPlatform { p with title := text }) []
  | event e => ofHost w fun h => match h.platform with
      | none => .proceed w []
      | some p => w.handle h p thread e

def carryOut (r : Request) (w : World) (thread : Nat) : Machine := (r.begin w thread).run

end Request

end FrameHost
