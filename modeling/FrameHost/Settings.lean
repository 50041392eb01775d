import FrameHost.Numeric.Float
import FrameHost.Text.Outline

/-!
Settings of the graphics output and of the host application, compared by value. A settings value whose
scale is NaN differs from every value, itself included (`Settings.equals_self`).
-/
namespace FrameHost

inductive VSync where
  | never
  | always
  | auto
  deriving DecidableEq, Repr

structure Settings where
  vsync : VSync
  maxFps : Nat
  pixelScale : Single
  deriving DecidableEq, Repr

structure HostConfig where
  graphics : Settings
  debounceFrames : Nat
  deriving DecidableEq, Repr

def VSync.name : VSync → String
  | never => "Never"
  | always => "Always"
  | auto => "Auto"

def VSync.key : VSync → String
  | never => "never"
  | always => "always"
  | auto => "auto"

def VSync.outline (v : VSync) : Outline := .atom v.name

namespace Settings

def standard : Settings := ⟨.auto, 60, .ofNat 1⟩

def equals (a b : Settings) : Bool :=
  a.vsync == b.vsync && a.maxFps == b.maxFps && a.pixelScale.equals b.pixelScale

@[simp] theorem equals_self (s : Settings) : s.equals s = !s.pixelScale.isNaN := by simp [equals]

theorem equals_comm (u v : Settings) : u.equals v = v.equals u := by
  simp only [equals, Single.equals_comm, Bool.beq_comm]

theorem equals_trans {u v w : Settings} (first : u.equals v = true) (second : v.equals w = true) :
    u.equals w = true := by
  simp only [equals, Bool.and_eq_true, beq_iff_eq] at first second ⊢
  obtain ⟨⟨vsync, fps⟩, scale⟩ := first
  obtain ⟨⟨vsync', fps'⟩, scale'⟩ := second
  exact ⟨⟨vsync.trans vsync', fps.trans fps'⟩, Single.equals_trans scale scale'⟩

theorem equals_of_isNaN (u v : Settings) (strange : u.pixelScale.isNaN = true) : u.equals v = false := by
  simp [equals, Single.equals_of_isNaN v.pixelScale strange]

def outline (s : Settings) : Outline :=
  .record "GraphicsSettings"
    [("vsync", s.vsync.outline), ("max_fps", .nat s.maxFps), ("pixel_scale", .atom s.pixelScale.inspected)] false

def row (s : Settings) : String :=
  "[\"" ++ s.vsync.key ++ "\"," ++ toString s.maxFps ++ ",\"" ++ s.pixelScale.inspected ++ "\"]"

end Settings

namespace HostConfig

def standard : HostConfig := ⟨.standard, 3⟩

def equals (a b : HostConfig) : Bool :=
  a.graphics.equals b.graphics && a.debounceFrames == b.debounceFrames

def outline (c : HostConfig) : Outline :=
  .record "AppConfig" [("graphics", c.graphics.outline), ("resize_debounce_frames", .nat c.debounceFrames)] false

end HostConfig

end FrameHost
