import FrameHost.Session.Work

/-!
A session with the most basic host, which runs what it is given at once and keeps the default capabilities.
-/
namespace FrameHost

def Capabilities.basic : Capabilities := ⟨true, false, false, none, true, false, false⟩

inductive BasicRequest where
  | capabilities
  | inContext
  | settings (settings : Settings)
  | config (config : HostConfig)
  | push (body : Script)
  | dispatch (body : Script)
  | fullscreen (on : Bool)
  | cursor (visible : Bool)
  | terminate
  | unknown

namespace BasicSession

def perform (r : BasicRequest) (w : World) : Reply × World :=
  match r with
  | .capabilities => (.capabilities .basic, w)
  | .inContext => (.flag false, w)
  | .settings s => (.nothing, w.say ("settings " ++ s.row))
  | .config c => (.nothing, w.say (s!"config {c.debounceFrames} " ++ c.graphics.row))
  | .push body => (w.say "graphics:").act body
  | .dispatch body => (w.say "main:").act body
  | .fullscreen on => (.nothing, w.log (.fullscreenUnsupported on))
  | .cursor _ => (.nothing, w)
  | .terminate => (.nothing, w.say "terminate")
  | .unknown => (.unknown, w)

def run (steps : List BasicRequest) : List (Report Capabilities) :=
  (runSteps perform World.journal (fun _ _ => Capabilities.basic) World.empty steps).1

end BasicSession

end FrameHost
