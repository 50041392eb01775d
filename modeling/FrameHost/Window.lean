import FrameHost.Journal

/-!
Windows of the desktop, and the controls that command the attached window. The cursor visibility is stored
for later windows; the fullscreen mode belongs to the window and may also be changed by its user.
-/
namespace FrameHost

/-- Windows are numbered from one; each is listed with its fullscreen mode. -/
structure Desktop where
  windows : List Bool
  /-- The scale factor of windows to come. -/
  scale : Double
  /-- Why the next window cannot be created. -/
  failure : Option String
  deriving DecidableEq, Repr

namespace Desktop

def initial : Desktop := ⟨[], .one, none⟩

def openWindow (d : Desktop) : Desktop × Nat :=
  ({ d with windows := d.windows ++ [false] }, d.windows.length + 1)

def isFullscreen (d : Desktop) (window : Nat) : Bool :=
  match window with
  | 0 => false
  | i + 1 => d.windows[i]?.getD false

def setFullscreen (d : Desktop) (window : Nat) (on : Bool) : Desktop :=
  match window with
  | 0 => d
  | i + 1 => { d with windows := d.windows.set i on }

end Desktop

structure WindowLink where
  window : Option Nat
  cursorVisible : Bool
  exitRequested : Bool
  deriving DecidableEq, Repr

namespace WindowLink

def initial : WindowLink := ⟨none, true, false⟩

def attach (c : WindowLink) (window : Nat) : WindowLink × List Event :=
  ({ c with window := some window }, [.commanded window (.cursor c.cursorVisible)])

def isFullscreen (c : WindowLink) (d : Desktop) : Bool := c.window.any d.isFullscreen

def setFullscreen (c : WindowLink) (d : Desktop) (on : Bool) : Desktop × List Event :=
  match c.window with
  | none => (d, [.log .fullscreenIgnored])
  | some window => (d.setFullscreen window on, [.commanded window (.fullscreen on)])

def setCursor (c : WindowLink) (visible : Bool) : WindowLink × List Event :=
  ({ c with cursorVisible := visible },
    match c.window with
    | none => []
    | some window => [.commanded window (.cursor visible)])

def terminate (c : WindowLink) : WindowLink × List Event :=
  ({ c with exitRequested := true }, [.log .exitRequested])

def outline (c : WindowLink) : Outline :=
  .record "WindowControls"
    [("window", .optional (c.window.map fun _ => .atom "Window \x7b .. \x7d")),
     ("cursor_visible", .bool c.cursorVisible), ("exit_requested", .bool c.exitRequested)] false

end WindowLink

end FrameHost
