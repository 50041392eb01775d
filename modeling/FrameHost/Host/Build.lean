import FrameHost.World

/-!
Construction of a host from its options: adapter, controls, the channel to the main thread and one handle to
the graphics context.
-/
namespace FrameHost

inductive HostKind where
  /-- Over a panel of controls. -/
  | panel
  /-- Over the controls of a window. -/
  | window
  /-- As a platform, which owns the receiver of the channel. -/
  | platform
  deriving DecidableEq, Repr

inductive OptionChange where
  | frames (frames : Nat)
  | settings (settings : Settings)
  deriving DecidableEq, Repr

def OptionChange.apply (b : AdapterOptions) : OptionChange → Except Fault AdapterOptions
  | frames n => b.withFrames n
  | settings s => .ok (b.withSettings s)

def HostKind.controls (k : HostKind) (panel : Panel) : Controls :=
  match k with
  | .panel => .panel panel
  | .window | .platform => .window .initial

def HostKind.receiver : HostKind → Receiver
  | platform => .platform
  | _ => .free

namespace World

def build (w : World) (kind : HostKind) (panel : Panel) (b : AdapterOptions) : Except Fault World := do
  let adapter ← Adapter.build b.frames b.settings
  let platform := if kind = .platform then some ⟨none, "Aetheric"⟩ else none
  let w := { w with
    graphics := some .new
    handles := [true]
    channel := .new kind.receiver
    host := some ⟨adapter, kind.controls panel, platform⟩ }
  let w := w.log (.buildingAdapter b.frames)
  return if kind = .platform then w.log .platformReady else w

end World

end FrameHost
