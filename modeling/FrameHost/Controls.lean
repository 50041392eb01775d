import FrameHost.Window

/-!
The controls of a host: those of a window, or a panel with fixed answers that records its commands.
-/
namespace FrameHost

structure Capabilities where
  managesLoop : Bool
  available : Bool
  fullscreen : Bool
  shortcut : Option String
  useCursor : Bool
  hardwareCursor : Bool
  keyboard : Bool
  deriving DecidableEq, Repr

structure Panel where
  available : Bool
  fullscreen : Bool
  shortcut : Option String
  useCursor : Bool
  hardwareCursor : Bool
  keyboard : Bool
  deriving DecidableEq, Repr

inductive Controls where
  | panel (panel : Panel)
  | window (controls : WindowLink)
  deriving DecidableEq, Repr

def WindowLink.capabilities (c : WindowLink) (d : Desktop) : Capabilities :=
  ⟨false, c.window.isSome, c.isFullscreen d, some "F11", true, true, true⟩

namespace Controls

def capabilities (c : Controls) (d : Desktop) : Capabilities :=
  match c with
  | panel p => ⟨false, p.available, p.fullscreen, p.shortcut, p.useCursor, p.hardwareCursor, p.keyboard⟩
  | window w => w.capabilities d

def setFullscreen (c : Controls) (d : Desktop) (on : Bool) : Controls × Desktop × List Event :=
  match c with
  | panel p => (panel { p with fullscreen := on }, d, [.said s!"fake.set_fullscreen {on}"])
  | window w =>
      let (d, events) := w.setFullscreen d on
      (window w, d, events)

def setCursor (c : Controls) (visible : Bool) : Controls × List Event :=
  match c with
  | panel p => (panel p, [.said s!"fake.set_cursor {visible}"])
  | window w =>
      let (w, events) := w.setCursor visible
      (window w, events)

def terminate (c : Controls) : Controls × List Event :=
  match c with
  | panel p => (panel p, [.said "fake.terminate"])
  | window w =>
      let (w, events) := w.terminate
      (window w, events)

def exitRequested? : Controls → Option Bool
  | panel _ => none
  | window w => some w.exitRequested

end Controls

end FrameHost
