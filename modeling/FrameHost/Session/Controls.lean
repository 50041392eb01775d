import FrameHost.Session.Report

/-!
A session with window controls and a desktop.
-/
namespace FrameHost

inductive ControlsRequest where
  | attach
  | fullscreen (on : Bool)
  | cursor (visible : Bool)
  | terminate
  | userFullscreen (window : Nat) (on : Bool)
  | unknown

structure ControlsState where
  controls : WindowLink
  desktop : Desktop
  journal : List Event

structure ControlsView where
  capabilities : Capabilities
  exitRequested : Bool
  text : String

namespace ControlsSession

def perform (r : ControlsRequest) (s : ControlsState) : Reply × ControlsState :=
  match r with
  | .attach =>
      let (desktop, window) := s.desktop.openWindow
      let (controls, events) := s.controls.attach window
      (.nothing, ⟨controls, desktop, events.reverse ++ s.journal⟩)
  | .fullscreen on =>
      let (desktop, events) := s.controls.setFullscreen s.desktop on
      (.nothing, { s with desktop, journal := events.reverse ++ s.journal })
  | .cursor visible =>
      let (controls, events) := s.controls.setCursor visible
      (.nothing, { s with controls, journal := events.reverse ++ s.journal })
  | .terminate =>
      let (controls, events) := s.controls.terminate
      (.nothing, { s with controls, journal := events.reverse ++ s.journal })
  | .userFullscreen window on =>
      (.nothing, { s with desktop := s.desktop.setFullscreen window on })
  | .unknown => (.unknown, s)

def view (s : ControlsState) : ControlsView :=
  ⟨s.controls.capabilities s.desktop, s.controls.exitRequested, s.controls.outline.compact⟩

def run (steps : List ControlsRequest) : List (Report ControlsView) :=
  (runSteps perform ControlsState.journal (fun _ s => view s) ⟨.initial, .initial, []⟩ steps).1

end ControlsSession

end FrameHost
