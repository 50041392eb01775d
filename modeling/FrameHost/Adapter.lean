import FrameHost.Debouncer
import FrameHost.LogRecord

/-!
The adapter between frames: the debouncer of resize requests, the settings in force and the settings pending
for the next frame. `Adapter.update` computes the single reload of a frame; while a resize settles, pending
settings are kept for the frame that applies the size.
-/
namespace FrameHost

structure Adapter where
  resize : Debouncer
  settings : Settings
  pending : Option Settings
  deriving DecidableEq, Repr

inductive AdapterRequest where
  | resize (width height : Nat)
  | settings (settings : Settings)
  | config (config : HostConfig)
  deriving DecidableEq, Repr

structure Reload where
  settings : Settings
  resolution : Resolution
  deriving DecidableEq, Repr

namespace AdapterRequest

def warnings : AdapterRequest → List LogRecord
  | config c => if c.debounceFrames = 0 then [.zeroDebounceRaised] else []
  | _ => []

def notice : AdapterRequest → LogRecord
  | resize width height => .resizeRequested width height
  | settings s => .settingsQueued s
  | config c => .settingsQueued c.graphics

end AdapterRequest

structure Update where
  records : List LogRecord
  reload : Option Reload
  deriving DecidableEq, Repr

namespace Adapter

def build (frames : Nat) (settings : Settings) : Except Fault Adapter :=
  (Debouncer.new frames).map fun resize => ⟨resize, settings, none⟩

/-- The adapter after a request. A configured window of no frames is raised to one. -/
def request (a : Adapter) : AdapterRequest → Except Fault Adapter
  | .resize width height => .ok { a with resize := a.resize.begin (.ofNat width height) }
  | .settings settings => .ok { a with pending := some settings }
  | .config config =>
      (a.resize.setWindow (max config.debounceFrames 1)).map fun resize =>
        { a with resize, pending := some config.graphics }

def changedSettings (a : Adapter) : Option Settings :=
  a.pending.filter fun s => !s.equals a.settings

def reload? (a : Adapter) (resolution : Option Resolution) (current : Resolution) : Option Reload :=
  match a.changedSettings, resolution with
  | none, none => none
  | settings, resolution => some ⟨settings.getD a.settings, resolution.getD current⟩

/-- The update of one frame and the adapter after it, for a renderer of resolution `current`. -/
def update (a : Adapter) (current : Resolution) : Update × Adapter :=
  match a.resize.tick with
  | (.settling remaining, resize) => (⟨[.resizeSettling remaining], none⟩, { a with resize })
  | (.idle, resize) => (⟨[], a.reload? none current⟩, { a with resize, pending := none })
  | (.apply target, resize) =>
      let resolution := if target.equals current then none else some target
      let records := if resolution.isNone then [.resizeSettledHere] else []
      (⟨records, a.reload? resolution current⟩, { a with resize, pending := none })

def loaded (a : Adapter) (settings : Settings) : Adapter := { a with settings }

end Adapter

structure AdapterOptions where
  frames : Nat
  settings : Settings
  deriving DecidableEq, Repr

namespace AdapterOptions

def standard : AdapterOptions := ⟨3, .standard⟩

def withFrames (b : AdapterOptions) (frames : Nat) : Except Fault AdapterOptions :=
  if frames = 0 then .error .zeroDebounce else .ok { b with frames }

def withSettings (b : AdapterOptions) (settings : Settings) : AdapterOptions := { b with settings }

end AdapterOptions

end FrameHost
