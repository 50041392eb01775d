import FrameHost.Proofs.Countdown
import FrameHost.Proofs.RenderPass

/-!
When a resize settles. The passes that find a target count down from the window in force at the request: all
but the last keep every request pending, the last applies the size, and later ones have no resize.
-/
namespace FrameHost

structure Held (a now : Adapter) (es : List Event) : Prop where
  target : now.resize.target = a.resize.target
  pending : now.pending = a.pending
  unloaded : ∀ settings size, .reloaded settings size ∉ es

structure Settles (burst : Burst) (now : Adapter) (es : List Event) : Prop where
  target : now.resize.target = none
  sized : ∀ settings size, .reloaded settings size ∈ es →
    size.equals (.ofNat burst.width burst.height) = true

structure Unsized (a now : Adapter) (current : Resolution) (es : List Event) : Prop where
  idle : a.resize.target = none
  resize : now.resize = a.resize
  pending : now.pending = none
  loaded : ∀ settings size, .reloaded settings size ∈ es ↔ a.changedSettings = some settings ∧
    size = current

/-- The effect of a pass that found its target on the last resize before it, by the number of such passes so
far. -/
def Counts (a now : Adapter) (current : Resolution) (es : List Event) : Option Burst → Prop
  | none => Unsized a now current es
  | some burst =>
      (burst.passes + 1 < burst.window → Held a now es) ∧
      (burst.passes + 1 = burst.window → Settles burst now es) ∧
      (burst.window < burst.passes + 1 → Unsized a now current es)

namespace Adapter

variable {a : Adapter} {current : Resolution}

theorem update_pending (a : Adapter) (current : Resolution) :
    (a.update current).2.pending
      = if a.resize.target.isSome && decide (1 < a.resize.frames) then a.pending else none := by
  cases target : a.resize.target with
  | none => simp [update, Debouncer.tick_idle target]
  | some size =>
    by_cases settling : 1 < a.resize.frames
    · simp [update, Debouncer.tick_settling target settling, settling]
    · simp [update, Debouncer.tick_last target settling, settling]

theorem due_sized {width height : Nat} {r : Reload}
    (target : a.resize.target = some (.ofNat width height))
    (due : a.due current = some r) : r.resolution.equals (.ofNat width height) = true := by
  have own := Resolution.ofNat_equals_self width height
  unfold Adapter.due at due
  split at due
  · cases due
  · split at due
    · cases due
      cases same : (Resolution.ofNat width height).equals current with
      | true =>
        have kept : a.newSize current = none := by simp [newSize, target, Option.filter, same]
        rw [kept, Option.getD_none, Resolution.equals_comm]
        exact same
      | false =>
        have moved : a.newSize current = some (.ofNat width height) := by
          simp [newSize, target, Option.filter, same]
        rw [moved, Option.getD_some]
        exact own
    · cases due

theorem due_unsized (idle : a.resize.target = none) (settings : Settings) (size : Resolution) :
    a.due current = some ⟨settings, size⟩ ↔ a.changedSettings = some settings ∧ size = current := by
  have still : a.newSize current = none := by simp [newSize, idle]
  cases changed : a.changedSettings with
  | none => simp [due, idle, still, changed]
  | some s => simp [due, idle, still, changed, eq_comm]

end Adapter

section
variable {a now : Adapter} {current : Resolution} {calls : List Runnable} {thread : Nat}
    {es : List Event}

theorem mem_story {e : Event} (tells : e.tells calls = true) : e ∈ story calls es ↔ e ∈ es := by
  simp [story, tells]

theorem reloaded_iff {due : Option Reload} {tail : List Event}
    (told : story calls es = ran thread calls ++ .targetRead true :: (reloads due ++ tail))
    (after : ∀ settings size, .reloaded settings size ∉ tail) (settings : Settings)
    (size : Resolution) :
    .reloaded settings size ∈ es ↔ due = some ⟨settings, size⟩ := by
  -- Neither the calls of a pass nor the events after its reload contain another reload.
  have called : .reloaded settings size ∉ ran thread calls := by
    intro mem
    have work : .reloaded settings size ∈ (ran thread calls).filter Event.isWork :=
      List.mem_filter.mpr ⟨mem, rfl⟩
    simp [ran_idle] at work
  have here := after settings size
  have member : .reloaded settings size ∈ story calls es ↔ .reloaded settings size ∈ es := mem_story rfl
  rw [← member, told]
  cases due with
  | none => simp [reloads, called, here]
  | some r =>
    obtain ⟨settings', size'⟩ := r
    simp [reloads, called, here, eq_comm]

theorem counts_of_follows {burst : Option Burst} (follows : a.resize.Follows burst)
    (resize : now.resize = (a.update current).2.resize)
    (pending : now.pending = (a.update current).2.pending)
    (loads : ∀ settings size, .reloaded settings size ∈ es ↔ a.due current = some ⟨settings, size⟩) :
    Counts a now current es burst := by
  rw [a.update_resize] at resize
  rw [a.update_pending] at pending
  have unsized (idle : a.resize.target = none) : Unsized a now current es := by
    refine ⟨idle, ?_, ?_, ?_⟩
    · rw [resize, Debouncer.tick_idle idle]
    · rw [pending, idle]
      rfl
    · intro settings size
      rw [loads, Adapter.due_unsized idle]
  cases burst with
  | none => exact unsized follows
  | some burst =>
    refine ⟨?_, ?_, ?_⟩
    · intro early
      obtain ⟨target, left⟩ := follows.running (by omega)
      have settling : 1 < a.resize.frames := by omega
      refine ⟨?_, ?_, ?_⟩
      · rw [resize, Debouncer.tick_settling target settling]
      · simp [pending, target, settling]
      · intro settings size
        rw [loads]
        simp [Adapter.due, target, settling]
    · intro last
      obtain ⟨target, left⟩ := follows.running (by omega)
      have done : ¬ 1 < a.resize.frames := by omega
      constructor
      · rw [resize, Debouncer.tick_last target done]
      · intro settings size mem
        have sized := Adapter.due_sized target ((loads settings size).mp mem)
        exact sized
    · intro late
      have idle := follows.idle (by omega)
      exact unsized idle

theorem Outcome.counted {burst : Option Burst} {found : Resolution → Prop} {w v : World}
    {result : Option Bool} (o : Outcome calls thread a found w v result now es)
    (follows : a.resize.Follows burst) :
    (.targetRead true ∈ es → ∃ current, found current ∧ Counts a now current es burst) ∧
      (.targetRead true ∉ es → now.resize = a.resize ∧ now.pending = a.pending ∧
        ∀ settings size, .reloaded settings size ∉ es) := by
  have effective {current : Resolution} {tail : List Event} (read : found current)
      (resize : now.resize = (a.update current).2.resize)
      (pending : now.pending = (a.update current).2.pending)
      (told : story calls es = ran thread calls ++
        .targetRead true :: (reloads (a.update current).1.reload ++ tail))
      (after : ∀ settings size, .reloaded settings size ∉ tail) :
      .targetRead true ∈ es ∧ ∃ current, found current ∧ Counts a now current es burst := by
    refine ⟨mem_of_told told (by simp), current, read, counts_of_follows follows resize pending ?_⟩
    rw [a.update_reload] at told
    exact reloaded_iff told after
  have idle (work : ∀ e ∈ es, e.isWork = true → e = .targetRead false) :
      .targetRead true ∉ es ∧ ∀ settings size, .reloaded settings size ∉ es := by
    constructor
    · intro mem
      cases work _ mem rfl
    · intro settings size mem
      cases work _ mem rfl
  cases o with
  | untargeted _ told =>
    have only : es.filter Event.isWork = [.targetRead false] := by
      rw [work_of_story, told, List.filter_append, ran_idle]
      rfl
    obtain ⟨unread, unloaded⟩ :=
      idle fun e he work => List.mem_singleton.mp (only ▸ List.mem_filter.mpr ⟨he, work⟩)
    exact ⟨fun read => absurd read unread, fun _ => ⟨rfl, rfl, unloaded⟩⟩
  | drawn rendered _ read resize pending told =>
    have effect := effective read resize pending told (by cases rendered <;> simp)
    exact ⟨fun _ => effect.2, fun missing => absurd effect.1 missing⟩
  | lost told =>
    obtain ⟨unread, unloaded⟩ :=
      idle fun e he work => absurd (told ▸ List.mem_filter.mpr ⟨he, work⟩) List.not_mem_nil
    exact ⟨fun read => absurd read unread, fun _ => ⟨rfl, rfl, unloaded⟩⟩
  | broken drew read resize pending told =>
    have effect := effective read resize pending told (by cases drew <;> simp)
    exact ⟨fun _ => effect.2, fun missing => absurd effect.1 missing⟩

end

section
variable {b : AdapterOptions} {s x t : System} {thread : Nat} {earlier : List System}

/-- A pass that finds its target counts the last resize down from the window in force when it was requested:
before the window is used up it keeps all requests, the last pass of the window applies the size, and later
passes have no resize. Any other pass keeps the countdown. -/
theorem resize_settles_at_window (h : Reachable b s) (p : Passing s thread (x :: earlier))
    (m : Move x t)
    (closed : openPass t.world.journal = none) :
    ∃ a now result es, s.world.host.map Host.adapter = some a ∧
      t.world.host.map Host.adapter = some now ∧
      t.world.journal = .passEnded result :: (es ++ .passBegan thread :: s.world.journal) ∧
      (.targetRead true ∈ es → ∃ current, FindsTarget (t :: x :: earlier) current ∧
        Counts a now current es (lastBurst b.frames s.world.journal)) ∧
      (.targetRead true ∉ es → now.resize = a.resize ∧ now.pending = a.pending ∧
        ∀ settings size, .reloaded settings size ∉ es) := by
  obtain ⟨a, result, es, now, adapter, ending⟩ := p.ending h m closed
  obtain ⟨host, hosted, same⟩ := Option.map_eq_some_iff.mp adapter
  have follows : a.resize.Follows (lastBurst b.frames s.world.journal) :=
    same ▸ h.debouncerMatches.follows host hosted
  exact ⟨a, now, result, es, adapter, ending.adapter, ending.journal, ending.outcome.counted follows⟩

theorem resize_settles_at_once :
    Reachable .standard Machine.sampleRender.alone ∧
      ∃ (earlier : List System) (now : Adapter) (result : Option Bool) (es : List Event),
        Passing Machine.sampleRender.alone 0 ((Machine.sampleRender.step.runFor 8).alone :: earlier) ∧
        (Machine.sampleRender.step.runFor 8).step.world.journal
          = .passEnded result :: (es ++ .passBegan 0 :: Machine.sampleRender.world.journal) ∧
        .targetRead true ∈ es ∧ Settles ⟨800, 600, 1, 0⟩ now es := by
  obtain ⟨earlier, p⟩ := passing_sampleRender
  obtain ⟨a, now, result, es, _, _, journal, effective, _⟩ :=
    resize_settles_at_window reachable_sampleRender p
      (t := (Machine.sampleRender.step.runFor 8).step.alone)
      (.turn [] _ [] .step) (by decide)
  have written : .targetRead true ∈ (Machine.sampleRender.step.runFor 8).step.world.journal := by decide
  have read : .targetRead true ∈ es := by
    rw [show (Machine.sampleRender.step.runFor 8).step.world.journal = _ from journal] at written
    have before : .targetRead true ∉ Machine.sampleRender.world.journal := by decide
    simpa [show Machine.sampleRender.alone.world.journal = Machine.sampleRender.world.journal from rfl,
      before] using written
  have burst : lastBurst AdapterOptions.standard.frames Machine.sampleRender.alone.world.journal = some
      ⟨800, 600, 1, 0⟩ := by
    decide
  obtain ⟨current, _, counts⟩ := effective read
  rw [burst] at counts
  exact ⟨reachable_sampleRender, earlier, now, result, es, p, journal, read, counts.2.1 rfl⟩

end

end FrameHost
