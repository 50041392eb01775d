import FrameHost.Text.Quoted
import FrameHost.Text.Outline

/-!
The reasons why a frame is not rendered. Such a frame is skipped and the next one tries again.
-/
namespace FrameHost

inductive RenderError where
  | noTarget
  | surfaceLost (reason : String)
  deriving DecidableEq, Repr

namespace RenderError

def message : RenderError → String
  | noTarget => "No render target available"
  | surfaceLost reason => "Render surface lost: " ++ reason

def outline : RenderError → Outline
  | noTarget => .atom "NoRenderTarget"
  | surfaceLost reason => .tuple "SurfaceLost" [.atom (Text.quoted reason)]

end RenderError

end FrameHost
