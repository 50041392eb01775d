import FrameHost.Affinity
import FrameHost.CallQueue
import FrameHost.Debouncer
import FrameHost.Gate.Basic
import FrameHost.Settings
import FrameHost.Timer.Span

/-!
Two values of one type: their texts and whether they compare equal.
-/
namespace FrameHost

structure Comparison where
  left : Outline
  right : Outline
  equal : Bool
  /-- Whether the first value equals a copy of itself. -/
  selfEqual : Bool
  /-- The message of the first value, where its type has one. -/
  display : Option String
  isError : Bool

namespace Comparison

def ofVSync (x y : VSync) : Comparison := ⟨x.outline, y.outline, x == y, x == x, none, false⟩
def ofSettings (x y : Settings) : Comparison :=
  ⟨x.outline, y.outline, x.equals y, x.equals x, none, false⟩
def ofConfig (x y : HostConfig) : Comparison := ⟨x.outline, y.outline, x.equals y, x.equals x, none, false⟩
def ofResolution (x y : Resolution) : Comparison := ⟨x.outline, y.outline, x.equals y, x.equals x, none, false⟩
def ofResizeOutcome (x y : ResizeOutcome) :
    Comparison := ⟨x.outline, y.outline, x.equals y, x.equals x, none, false⟩
def ofRenderError (x y : RenderError) : Comparison :=
  ⟨x.outline, y.outline, x == y, x == x, some x.message, true⟩
def ofTimerId (x y : TimerId) : Comparison := ⟨x.outline, y.outline, x == y, x == x, some x.name, false⟩

def standards : List (String × Outline) :=
  [("vsync", Settings.standard.vsync.outline), ("settings", Settings.standard.outline),
   ("config", HostConfig.standard.outline), ("gate", Gate.closed.outline), ("queue", CallQueue.empty.outline),
   ("affinity", Affinity.unsetOutline), ("runnable", Runnable.outline)]

end Comparison

end FrameHost
