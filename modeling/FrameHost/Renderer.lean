import FrameHost.Script

/-!
The renderer that a host drives. Scripts set its target, its resolution and its failures, and install its
hooks.
-/
namespace FrameHost

structure Renderer where
  hasTarget : Bool
  resolution : Resolution
  /-- Keeps its size through reloads. -/
  sticky : Bool
  /-- The errors of the next renders, oldest first. -/
  failures : List RenderError
  onReload : Script
  onRender : Script
  deriving DecidableEq, Repr

namespace Renderer

def initial : Renderer := ⟨true, .ofNat 1024 768, false, [], .done, .done⟩

def reload (r : Renderer) (resolution : Resolution) : Renderer :=
  if r.sticky then r else { r with resolution }

def install (r : Renderer) (hook : Hook) (script : Script) : Renderer :=
  match hook with
  | .reload => { r with onReload := script }
  | .render => { r with onRender := script }

end Renderer

end FrameHost
