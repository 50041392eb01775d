import FrameHost.Fault
import FrameHost.Resolution

/-!
The debouncer of resize requests. A request sets the countdown to the current window, each frame that finds
a target ticks it once, and the last tick applies the size.
-/
namespace FrameHost

inductive ResizeOutcome where
  | idle
  | settling (remaining : Nat)
  | apply (target : Resolution)
  deriving DecidableEq, Repr

namespace ResizeOutcome

def equals : ResizeOutcome → ResizeOutcome → Bool
  | idle, idle => true
  | settling a, settling b => a == b
  | apply a, apply b => a.equals b
  | _, _ => false

def outline : ResizeOutcome → Outline
  | idle => .atom "Idle"
  | settling remaining => .record "Settling" [("remaining", .nat remaining)] false
  | apply target => .tuple "Apply" [target.outline]

end ResizeOutcome

structure Debouncer where
  window : Nat
  frames : Nat
  target : Option Resolution
  deriving DecidableEq, Repr

namespace Debouncer

def new (window : Nat) : Except Fault Debouncer :=
  if window = 0 then .error .zeroWindow else .ok ⟨window, 0, none⟩

def setWindow (d : Debouncer) (window : Nat) : Except Fault Debouncer :=
  if window = 0 then .error .zeroWindow else .ok { d with window }

def begin (d : Debouncer) (target : Resolution) : Debouncer :=
  { d with frames := d.window, target := some target }

def tick (d : Debouncer) : ResizeOutcome × Debouncer :=
  match d.target with
  | none => (.idle, d)
  | some target =>
      let frames := d.frames - 1
      if 0 < frames then (.settling frames, { d with frames })
      else (.apply target, { d with frames, target := none })

def ticks (d : Debouncer) : Nat → List ResizeOutcome × Debouncer
  | 0 => ([], d)
  | n + 1 =>
      let (step, d) := d.tick
      let (rest, d) := d.ticks n
      (step :: rest, d)

def outline (d : Debouncer) : Outline :=
  .record "ResizeDebouncer"
    [("window", .nat d.window), ("frames", .nat d.frames),
     ("target", .optional (d.target.map Resolution.outline))] false

@[simp] theorem begin_window (d : Debouncer) (r : Resolution) : (d.begin r).window = d.window := rfl

@[simp] theorem tick_window (d : Debouncer) : d.tick.2.window = d.window := by
  unfold tick; split
  · rfl
  · dsimp only; split <;> rfl

variable {d : Debouncer} {r : Resolution}

theorem tick_idle (idle : d.target = none) : d.tick = (.idle, d) := by
  simp only [tick, idle]

theorem tick_settling (target : d.target = some r) (more : 1 < d.frames) :
    d.tick = (.settling (d.frames - 1), { d with frames := d.frames - 1 }) := by
  have left : 0 < d.frames - 1 := by omega
  simp only [tick, target, if_pos left]

theorem tick_last (target : d.target = some r) (last : ¬ 1 < d.frames) :
    d.tick = (.apply r, { d with frames := d.frames - 1, target := none }) := by
  have none : ¬ 0 < d.frames - 1 := by omega
  simp only [tick, target, if_neg none]

end Debouncer

end FrameHost
