import FrameHost.Debouncer

/-!
The outcomes of the next ticks of a debouncer. Its countdown is zero exactly if it has no target, so frames
left and target determine the outcomes of all later ticks; a window set meanwhile applies to the next burst.
-/
namespace FrameHost

def countdown : Nat → List ResizeOutcome
  | 0 => []
  | frames + 1 => .settling (frames + 1) :: countdown frames

def idleFor (n : Nat) : List ResizeOutcome := List.replicate n .idle

namespace Debouncer

def forecast (d : Debouncer) : List ResizeOutcome :=
  match d.target with
  | none => []
  | some target => countdown (d.frames - 1) ++ [.apply target]

def outlook (d : Debouncer) (n : Nat) : List ResizeOutcome :=
  (d.forecast ++ idleFor n).take n

inductive Use : Debouncer → Debouncer → Prop where
  | begin (d : Debouncer) (target : Resolution) : Use d (d.begin target)
  | tick (d : Debouncer) : Use d d.tick.2
  | setWindow {d now : Debouncer} (window : Nat) (taken : d.setWindow window = .ok now) : Use d now

/-- The debouncers that result from one made with `window` by uses and copies in any order. -/
inductive Copies (window : Nat) : List Debouncer → Prop where
  | new {d : Debouncer} (made : new window = .ok d) : Copies window [d]
  | use {before after : List Debouncer} {d now : Debouncer} (copies : Copies window (before ++ d :: after))
      (use : Use d now) : Copies window (before ++ now :: after)
  | clone {ds : List Debouncer} {d : Debouncer} (copies : Copies window ds) (mem : d ∈ ds) :
      Copies window (d :: ds)

/-- Ticks in a row with their outcomes. New windows may be set before, between and after them. -/
inductive Ticking : Debouncer → List ResizeOutcome → Debouncer → Prop where
  | rest (d : Debouncer) : Ticking d [] d
  | tick {d last : Debouncer} {outcomes : List ResizeOutcome} (later : Ticking d.tick.2 outcomes last) :
      Ticking d (d.tick.1 :: outcomes) last
  | setWindow {d now last : Debouncer} {outcomes : List ResizeOutcome} (window : Nat)
      (taken : d.setWindow window = .ok now) (later : Ticking now outcomes last) : Ticking d outcomes last

structure Sound (d : Debouncer) : Prop where
  window : 0 < d.window
  frames : d.frames = 0 ↔ d.target = none

variable {d now last : Debouncer} {r : Resolution} {window : Nat} {outcomes : List ResizeOutcome}

theorem setWindow_taken (taken : d.setWindow window = .ok now) :
    0 < window ∧ now = { d with window } := by
  unfold setWindow at taken
  split at taken
  · cases taken
  · next positive =>
    cases taken
    exact ⟨Nat.pos_of_ne_zero positive, rfl⟩

theorem new_made (made : new window = .ok d) : 0 < window ∧ d = ⟨window, 0, none⟩ := by
  unfold new at made
  split at made
  · cases made
  · next positive =>
    cases made
    exact ⟨Nat.pos_of_ne_zero positive, rfl⟩

namespace Sound

theorem running (h : d.Sound) (target : d.target = some r) : 0 < d.frames := by
  have left := mt h.frames.mp (by simp [target])
  omega

theorem tick (h : d.Sound) : d.tick.2.Sound := by
  refine ⟨by simpa using h.window, ?_⟩
  cases target : d.target with
  | none =>
    rw [tick_idle target]
    exact h.frames
  | some r =>
    by_cases more : 1 < d.frames
    · rw [tick_settling target more]
      have left : d.frames - 1 ≠ 0 := by omega
      simp [target, left]
    · rw [tick_last target more]
      have spent : d.frames - 1 = 0 := by omega
      simp [spent]

theorem use (h : d.Sound) (use : Use d now) : now.Sound := by
  cases use with
  | begin target =>
    have running : d.window ≠ 0 := by have := h.window; omega
    exact ⟨h.window, by simp [Debouncer.begin, running]⟩
  | tick => exact h.tick
  | setWindow window taken =>
    obtain ⟨positive, rfl⟩ := setWindow_taken taken
    exact ⟨positive, h.frames⟩

theorem counts (h : d.Sound) (target : d.target = some r) : d.tick.2.frames + 1 = d.frames := by
  have running := h.running target
  by_cases more : 1 < d.frames
  · rw [tick_settling target more]
    dsimp only
    omega
  · rw [tick_last target more]
    dsimp only
    omega

end Sound

theorem Copies.sound {ds : List Debouncer} (copies : Copies window ds) : ∀ d ∈ ds, d.Sound := by
  induction copies with
  | new made =>
    obtain ⟨positive, rfl⟩ := new_made made
    intro d mem
    obtain rfl := List.mem_singleton.mp mem
    exact ⟨positive, by simp⟩
  | use copies use ih =>
    intro e mem
    simp only [List.mem_append, List.mem_cons] at ih mem
    rcases mem with mem | rfl | mem
    · exact ih e (.inl mem)
    · exact (ih _ (.inr (.inl rfl))).use use
    · exact ih e (.inr (.inr mem))
  | clone copies mem ih =>
    intro e here
    rcases List.mem_cons.mp here with rfl | here
    · exact ih e mem
    · exact ih e here

theorem take_idle (xs : List ResizeOutcome) (n : Nat) :
    (xs ++ idleFor (n + 1)).take n = (xs ++ idleFor n).take n := by
  have enough : min (n - xs.length) (n + 1) = min (n - xs.length) n := by omega
  simp [idleFor, List.take_append, List.take_replicate, enough]

theorem Sound.forecast_tick (h : d.Sound) :
    (d.forecast = [] ∧ d.tick.1 = .idle ∧ d.tick.2.forecast = []) ∨
    d.forecast = d.tick.1 :: d.tick.2.forecast := by
  cases target : d.target with
  | none => exact .inl (by simp [tick_idle target, forecast, target])
  | some r =>
    right
    by_cases more : 1 < d.frames
    · obtain ⟨k, frames⟩ : ∃ k, d.frames = k + 2 := ⟨d.frames - 2, by omega⟩
      rw [tick_settling target more]
      simp [forecast, target, frames, countdown]
    · have frames : d.frames = 1 := by have := h.running target; omega
      rw [tick_last target more]
      simp [forecast, target, frames, countdown]

theorem Sound.outlook_tick (h : d.Sound) (n : Nat) :
    d.outlook (n + 1) = d.tick.1 :: d.tick.2.outlook n := by
  unfold outlook
  rcases h.forecast_tick with ⟨before, idle, after⟩ | next
  · simp [before, idle, after, idleFor, List.replicate_succ]
  · rw [next, List.cons_append, List.take_succ_cons, take_idle]

theorem Ticking.outlook (ticking : Ticking d outcomes last) (h : d.Sound) :
    outcomes = d.outlook outcomes.length := by
  induction ticking with
  | rest d => rfl
  | tick later ih =>
    have rest := ih h.tick
    rw [List.length_cons, h.outlook_tick, ← rest]
  | setWindow window taken later ih =>
    have rest := ih (h.use (.setWindow window taken))
    obtain ⟨positive, rfl⟩ := setWindow_taken taken
    exact rest

theorem ticking_ticks (d : Debouncer) (n : Nat) : Ticking d (d.ticks n).1 (d.ticks n).2 := by
  induction n generalizing d with
  | zero => exact .rest d
  | succ n ih => exact .tick (ih d.tick.2)

theorem ticks_length (d : Debouncer) (n : Nat) : (d.ticks n).1.length = n := by
  induction n generalizing d with
  | zero => rfl
  | succ n ih => exact congrArg (· + 1) (ih d.tick.2)

/-- For any debouncer, however used and copied, the window is positive and the countdown is zero exactly if
there is no target, so no tick subtracts from zero. The outcomes of `n` ticks in a row are the countdown
from the frames left, the target, and then idle, cut off after `n`; windows set meanwhile change none of
them. -/
theorem ticks_count_down {ds : List Debouncer} (copies : Copies window ds) (mem : d ∈ ds) :
    0 < d.window ∧ (d.frames = 0 ↔ d.target = none) ∧
    (∀ r, d.target = some r → d.tick.2.frames + 1 = d.frames) ∧
    (∀ n, (d.ticks n).1 = (d.forecast ++ idleFor n).take n) ∧
    ∀ outcomes last, Ticking d outcomes last → outcomes = (d.ticks outcomes.length).1 := by
  have sound := copies.sound d mem
  have told (n : Nat) : (d.ticks n).1 = d.outlook n := by
    have ticked := (ticking_ticks d n).outlook sound
    rwa [ticks_length] at ticked
  refine ⟨sound.window, sound.frames, fun r => sound.counts, told, ?_⟩
  intro outcomes last ticking
  rw [told]
  exact ticking.outlook sound

theorem ticks_count_down_sample :
    let size : Resolution := .ofNat 8 6
    let d : Debouncer := ⟨3, 2, some size⟩
    Copies 3 [⟨3, 3, some size⟩, d] ∧
    (∀ n, (d.ticks n).1 = ([ResizeOutcome.settling 1, .apply size] ++ idleFor n).take n) ∧
    Ticking d [.settling 1, .apply size, .idle] ⟨5, 0, none⟩ := by
  intro size d
  have made : Copies 3 [⟨3, 0, none⟩] := .new rfl
  have begun : Copies 3 [⟨3, 3, some size⟩] := @Copies.use 3 [] [] _ _ made (.begin _ size)
  have copied : Copies 3 [⟨3, 3, some size⟩, ⟨3, 3, some size⟩] := .clone begun (List.mem_singleton.mpr rfl)
  have ticked : Copies 3 [⟨3, 3, some size⟩, d] :=
    @Copies.use 3 [⟨3, 3, some size⟩] [] _ _ copied (.tick _)
  obtain ⟨-, -, -, answers, -⟩ := ticks_count_down ticked (d := d) (by simp)
  exact ⟨ticked, answers, .tick (.setWindow 5 rfl (.tick (.tick (.rest _))))⟩

end Debouncer

end FrameHost
