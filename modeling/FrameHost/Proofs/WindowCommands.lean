import FrameHost.Session.Controls

/-!
The commands that windows receive from one set of controls. The cursor visibility is stored and sent to each
window attached; the fullscreen mode belongs to the window, so a request for it without a window is lost.
-/
namespace FrameHost

inductive ControlsAct where
  | opens
  | attaches (window : Nat)
  | cursor (visible : Bool)
  | fullscreen (on : Bool)
  | terminate
  /-- The user changes the mode of a window. -/
  | user (window : Nat) (on : Bool)
  deriving DecidableEq, Repr

def Desktop.Has (d : Desktop) (window : Nat) : Prop := 0 < window ∧ window ≤ d.windows.length

instance (d : Desktop) (window : Nat) : Decidable (d.Has window) := inferInstanceAs (Decidable (_ ∧ _))

namespace ControlsState

def initial : ControlsState := ⟨.initial, .initial, []⟩

def isFullscreen (s : ControlsState) : Bool := s.controls.isFullscreen s.desktop

def attach (s : ControlsState) (window : Nat) : ControlsState :=
  let (controls, events) := s.controls.attach window
  { s with controls, journal := events.reverse ++ s.journal }

def after (s : ControlsState) : ControlsAct → ControlsState
  | .opens => { s with desktop := s.desktop.openWindow.1 }
  | .attaches window => s.attach window
  | .cursor visible => (ControlsSession.perform (.cursor visible) s).2
  | .fullscreen on => (ControlsSession.perform (.fullscreen on) s).2
  | .terminate => (ControlsSession.perform .terminate s).2
  | .user window on => (ControlsSession.perform (.userFullscreen window on) s).2

def afterAll : List ControlsAct → ControlsState
  | [] => initial
  | act :: older => (afterAll older).after act

theorem perform_attach (s : ControlsState) : (ControlsSession.perform .attach s).2
    = (s.after .opens).after (.attaches s.desktop.openWindow.2) := rfl

end ControlsState

open ControlsState

/-- Windows exist when their user changes them or when they are attached, and none is attached twice. -/
def Sensible : List ControlsAct → Prop
  | [] => True
  | .attaches window :: older => (afterAll older).desktop.Has window ∧ .attaches window ∉ older ∧ Sensible older
  | .user window _ :: older => (afterAll older).desktop.Has window ∧ Sensible older
  | _ :: older => Sensible older

def lastWish : List ControlsAct → Bool
  | [] => true
  | .cursor visible :: _ => visible
  | _ :: older => lastWish older

def lastAttached : List ControlsAct → Option Nat
  | [] => none
  | .attaches window :: _ => some window
  | _ :: older => lastAttached older

/-- The mode of a window, set last by its user or through the controls while attached. -/
def lastMode (window : Nat) : List ControlsAct → Bool
  | [] => false
  | .user other on :: older => if other = window then on else lastMode window older
  | .fullscreen on :: older => if lastAttached older = some window then on else lastMode window older
  | _ :: older => lastMode window older

def commandsTo (window : Nat) : List Event → List WindowCommand
  | [] => []
  | .commanded other command :: older =>
      if other = window then command :: commandsTo window older else commandsTo window older
  | _ :: older => commandsTo window older

def lastCursor : List WindowCommand → Option Bool
  | [] => none
  | .cursor visible :: _ => some visible
  | _ :: older => lastCursor older

namespace Desktop

variable {d : Desktop} {window other : Nat}

theorem isFullscreen_openWindow (d : Desktop) (window : Nat) :
    d.openWindow.1.isFullscreen window = d.isFullscreen window := by
  cases window with
  | zero => rfl
  | succ i =>
    simp only [openWindow, isFullscreen]
    rcases Nat.lt_trichotomy i d.windows.length with inside | last | outside
    · rw [List.getElem?_append_left inside]
    · simp [last]
    · have beyond : (d.windows ++ [false]).length ≤ i := by simpa using Nat.succ_le_of_lt outside
      rw [List.getElem?_eq_none beyond, List.getElem?_eq_none (Nat.le_of_lt outside)]

theorem isFullscreen_setFullscreen (there : d.Has window) (on : Bool) (other : Nat) :
    (d.setFullscreen window on).isFullscreen other = if window = other then on else d.isFullscreen other := by
  obtain ⟨positive, bound⟩ := there
  obtain ⟨i, rfl⟩ : ∃ i, window = i + 1 := ⟨window - 1, by omega⟩
  cases other with
  | zero => rfl
  | succ j =>
    by_cases same : i = j
    · subst same
      have inside : i < d.windows.length := by omega
      simp [setFullscreen, isFullscreen, inside]
    · simp [setFullscreen, isFullscreen, same]

theorem Has.openWindow (h : d.Has window) : d.openWindow.1.Has window := by
  obtain ⟨positive, bound⟩ := h
  refine ⟨positive, ?_⟩
  simp only [Desktop.openWindow, List.length_append, List.length_singleton]
  omega

theorem Has.setFullscreen (h : d.Has window) (other : Nat) (on : Bool) :
    (d.setFullscreen other on).Has window := by
  cases other with
  | zero => exact h
  | succ i => exact ⟨h.1, by simpa [Desktop.setFullscreen] using h.2⟩

end Desktop

structure ControlsState.Tracks (s : ControlsState) (acts : List ControlsAct) : Prop where
  window : s.controls.window = lastAttached acts
  visible : s.controls.cursorVisible = lastWish acts
  there : ∀ window, lastAttached acts = some window → s.desktop.Has window
  mode : ∀ window, s.desktop.isFullscreen window = lastMode window acts
  cursor : ∀ window, lastAttached acts = some window →
    lastCursor (commandsTo window s.journal) = some (lastWish acts)

section
variable {s t : ControlsState} {acts older : List ControlsAct} {act : ControlsAct} {window : Nat}

namespace ControlsState.Tracks

theorem opens (h : s.Tracks older) : (s.after .opens).Tracks (.opens :: older) := by
  refine ⟨h.window, h.visible, fun window shown => (h.there window shown).openWindow, ?_, h.cursor⟩
  intro window
  exact (s.desktop.isFullscreen_openWindow window).trans (h.mode window)

theorem attaches (h : s.Tracks older) (there : s.desktop.Has window) :
    (s.after (.attaches window)).Tracks (.attaches window :: older) := by
  refine ⟨rfl, h.visible, ?_, h.mode, ?_⟩
  · rintro _ ⟨⟩
    exact there
  · rintro _ ⟨⟩
    simp [after, attach, WindowLink.attach, commandsTo, lastCursor, lastWish, h.visible]

theorem cursor_set (h : s.Tracks older) (visible : Bool) :
    (s.after (.cursor visible)).Tracks (.cursor visible :: older) := by
  refine ⟨h.window, rfl, h.there, h.mode, ?_⟩
  intro window shown
  have held : s.controls.window = some window := h.window.trans shown
  simp [after, ControlsSession.perform, WindowLink.setCursor, held, commandsTo, lastCursor, lastWish]

theorem fullscreen_set (h : s.Tracks older) (on : Bool) :
    (s.after (.fullscreen on)).Tracks (.fullscreen on :: older) := by
  cases shown : lastAttached older with
  | none =>
    have held : s.controls.window = none := h.window.trans shown
    have ignored : s.after (.fullscreen on) = { s with journal := .log .fullscreenIgnored :: s.journal } := by
      simp [after, ControlsSession.perform, WindowLink.setFullscreen, held]
    rw [ignored]
    refine ⟨h.window, h.visible, h.there, ?_, h.cursor⟩
    intro window
    simpa [lastMode, shown] using h.mode window
  | some window =>
    have held : s.controls.window = some window := h.window.trans shown
    have set : s.after (.fullscreen on) = { s with
        desktop := s.desktop.setFullscreen window on
        journal := .commanded window (.fullscreen on) :: s.journal } := by
      simp [after, ControlsSession.perform, WindowLink.setFullscreen, held]
    rw [set]
    refine ⟨h.window, h.visible, fun other is => (h.there other is).setFullscreen window on, ?_, ?_⟩
    · intro other
      have mode := h.mode other
      simp [Desktop.isFullscreen_setFullscreen (h.there window shown), lastMode, shown, mode]
    · intro other is
      have told := h.cursor other is
      by_cases same : window = other
      · simpa [commandsTo, lastCursor, lastWish, same] using told
      · simpa [commandsTo, lastWish, same] using told

theorem user (h : s.Tracks older) (there : s.desktop.Has window) (on : Bool) :
    (s.after (.user window on)).Tracks (.user window on :: older) := by
  refine ⟨h.window, h.visible, fun other is => (h.there other is).setFullscreen window on, ?_, h.cursor⟩
  intro other
  have mode := h.mode other
  simp [after, ControlsSession.perform, Desktop.isFullscreen_setFullscreen there, lastMode, mode]

end ControlsState.Tracks

theorem Sensible.before (h : Sensible (act :: older)) : Sensible older := by
  cases act with
  | attaches window => exact h.2.2
  | user window on => exact h.2
  | _ => exact h

theorem Sensible.tracks (h : Sensible acts) : (afterAll acts).Tracks acts := by
  induction acts with
  | nil => exact ⟨rfl, rfl, nofun, fun window => by cases window <;> rfl, nofun⟩
  | cons act older ih =>
    have before := ih h.before
    cases act with
    | opens => exact before.opens
    | attaches window => exact before.attaches h.1
    | cursor visible => exact before.cursor_set visible
    | fullscreen on => exact before.fullscreen_set on
    | terminate => exact ⟨before.window, before.visible, before.there, before.mode, before.cursor⟩
    | user window on => exact before.user h.1 on

theorem ControlsState.commandsTo_after (held : s.controls.window ≠ some window)
    (other : act ≠ .attaches window) :
    commandsTo window (s.after act).journal = commandsTo window s.journal := by
  cases act with
  | attaches new =>
    have apart : new ≠ window := fun same => other (by rw [same])
    simp [after, attach, WindowLink.attach, commandsTo, apart]
  | cursor visible =>
    cases shown : s.controls.window with
    | none => simp [after, ControlsSession.perform, WindowLink.setCursor, shown]
    | some new =>
      have apart : new ≠ window := fun same => held (by rw [shown, same])
      simp [after, ControlsSession.perform, WindowLink.setCursor, shown, commandsTo, apart]
  | fullscreen on =>
    cases shown : s.controls.window with
    | none => simp [after, ControlsSession.perform, WindowLink.setFullscreen, shown, commandsTo]
    | some new =>
      have apart : new ≠ window := fun same => held (by rw [shown, same])
      simp [after, ControlsSession.perform, WindowLink.setFullscreen, shown, commandsTo, apart]
  | _ => rfl

/-- A window replaced by another receives no more commands. -/
theorem Sensible.abandoned (attached : .attaches window ∈ acts) (left : lastAttached acts ≠ some window)
    {more : List ControlsAct} (h : Sensible (more ++ acts)) : lastAttached (more ++ acts) ≠ some window ∧
      commandsTo window (afterAll (more ++ acts)).journal = commandsTo window (afterAll acts).journal := by
  induction more with
  | nil => exact ⟨left, rfl⟩
  | cons act more ih =>
    obtain ⟨away, same⟩ := ih h.before
    have before : .attaches window ∈ more ++ acts := List.mem_append_right more attached
    have other : act ≠ .attaches window := by
      rintro rfl
      exact h.2.1 before
    refine ⟨?_, ?_⟩
    · cases act with
      | attaches new => exact fun again => other (by rw [Option.some.inj again])
      | _ => exact away
    · rw [← same]
      exact commandsTo_after (h.before.tracks.window ▸ away) other

structure ControlsState.Alike (s t : ControlsState) : Prop where
  controls : s.controls = t.controls
  desktop : s.desktop = t.desktop
  commands : ∀ window, commandsTo window s.journal = commandsTo window t.journal

theorem commandsTo_append (window : Nat) (es older : List Event) :
    commandsTo window (es ++ older) = commandsTo window es ++ commandsTo window older := by
  induction es with
  | nil => rfl
  | cons e es ih =>
    cases e with
    | commanded other command =>
      by_cases same : other = window
      · simp [commandsTo, same, ih]
      · simp [commandsTo, same, ih]
    | _ => exact ih

theorem ControlsState.Alike.after (h : s.Alike t) (act : ControlsAct) : (s.after act).Alike (t.after act) := by
  obtain ⟨controls, desktop, journal⟩ := s
  obtain ⟨controls', desktop', journal'⟩ := t
  obtain ⟨rfl, rfl, commands⟩ := h
  cases act with
  | opens | user => exact ⟨rfl, rfl, commands⟩
  | attaches | cursor | fullscreen | terminate =>
    refine ⟨rfl, rfl, fun window => ?_⟩
    simp only [ControlsState.after, attach, ControlsSession.perform, commandsTo_append, commands]

/-- A request for fullscreen without a window has no effect. -/
theorem ControlsState.fullscreen_lost (unattached : (afterAll acts).controls.window = none) (on : Bool)
    (more : List ControlsAct) : (afterAll (more ++ .fullscreen on :: acts)).Alike
    (afterAll (more ++ acts)) := by
  induction more with
  | nil =>
    have ignored : afterAll (.fullscreen on :: acts)
        = { afterAll acts with journal := .log .fullscreenIgnored :: (afterAll acts).journal } := by
      simp [afterAll, ControlsState.after, ControlsSession.perform, WindowLink.setFullscreen, unattached]
    rw [List.nil_append, List.nil_append, ignored]
    exact ⟨rfl, rfl, fun _ => rfl⟩
  | cons act more ih => exact ih.after act

/-- The attached window was sent the cursor visibility requested last, before or after it was attached, and
fullscreen is reported exactly if the window was last set so, by its user or through the controls. Windows
attached earlier receive no more commands. Without a window there is no fullscreen, and a request for it has
no effect on later windows. -/
theorem windows_follow_controls (fits : Sensible acts) :
    (afterAll acts).controls.window = lastAttached acts ∧
    (∀ window, lastAttached acts = some window →
      lastCursor (commandsTo window (afterAll acts).journal) = some (lastWish acts) ∧
      ((afterAll acts).isFullscreen = true ↔ lastMode window acts = true)) ∧
    (∀ window, .attaches window ∈ acts → lastAttached acts ≠ some window → ∀ more, Sensible (more ++ acts) →
      commandsTo window (afterAll (more ++ acts)).journal = commandsTo window (afterAll acts).journal) ∧
    (lastAttached acts = none → (afterAll acts).isFullscreen = false ∧ ∀ on more,
      (afterAll (more ++ .fullscreen on :: acts)).Alike (afterAll (more ++ acts))) := by
  have tracks := fits.tracks
  refine ⟨tracks.window, ?_, ?_, ?_⟩
  · intro window shown
    refine ⟨tracks.cursor window shown, ?_⟩
    rw [ControlsState.isFullscreen, WindowLink.isFullscreen, tracks.window, shown, Option.any_some, tracks.mode]
  · intro window attached left more later
    exact (later.abandoned attached left).2
  · intro none
    refine ⟨?_, fullscreen_lost (tracks.window.trans none)⟩
    rw [ControlsState.isFullscreen, WindowLink.isFullscreen, tracks.window, none, Option.any_none]

theorem windows_follow_controls_sample :
    let acts : List ControlsAct := [.attaches 2, .opens, .user 1 true, .attaches 1, .opens, .fullscreen true,
      .cursor false]
    Sensible acts ∧ lastCursor (commandsTo 2 (afterAll acts).journal) = some false ∧
    (afterAll acts).isFullscreen = false ∧ lastMode 1 acts = true ∧
    commandsTo 1 (afterAll (.cursor true :: acts)).journal = [.cursor false] ∧
    (afterAll ([.attaches 1, .opens, .fullscreen true, .cursor false])).Alike
      (afterAll ([.attaches 1, .opens, .cursor false])) := by
  intro acts
  have fits : Sensible acts := ⟨by decide, by decide, by decide, by decide, by decide, trivial⟩
  have hidden : Sensible [.cursor false] := trivial
  obtain ⟨-, shown, gone, -⟩ := windows_follow_controls fits
  obtain ⟨-, -, -, unattached⟩ := windows_follow_controls hidden
  obtain ⟨cursor, mode⟩ := shown 2 rfl
  have later := gone 1 (by decide) (by decide) [.cursor true] fits
  exact ⟨fits, cursor, by decide, rfl, later, (unattached rfl).2 true [.attaches 1, .opens]⟩

end

end FrameHost
