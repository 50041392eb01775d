import FrameHost.Proofs.OpenPass

/-!
The countdown of the debouncer as a function of the journal. The window in force is the last one configured,
a resize uses the window in force when it was requested, and each pass that finds a target counts once. In
every reachable system the debouncer of the host is the one determined by these events.
-/
namespace FrameHost

def windowIn (frames : Nat) : List Event → Nat
  | [] => frames
  | .requested (.config c) :: _ => max c.debounceFrames 1
  | _ :: older => windowIn frames older

/-- The last resize requested: its size, the window in force then, and the later passes that found a target.
-/
structure Burst where
  width : Nat
  height : Nat
  window : Nat
  passes : Nat
  deriving DecidableEq, Repr

def lastBurst (frames : Nat) : List Event → Option Burst
  | [] => none
  | .requested (.resize width height) :: older => some ⟨width, height, windowIn frames older, 0⟩
  | .targetRead true :: older => (lastBurst frames older).map fun b => { b with passes := b.passes + 1 }
  | _ :: older => lastBurst frames older

def Event.isTick : Event → Bool
  | requested _ | targetRead true => true
  | _ => false

/-- The debouncer of a burst counts down while fewer passes than the window found a target, and is idle from
then on. -/
def Debouncer.Follows (d : Debouncer) : Option Burst → Prop
  | none => d.target = none
  | some b =>
      if b.passes < b.window then d.target = some (.ofNat b.width b.height) ∧
        d.frames = b.window - b.passes
      else d.target = none

structure World.DebouncerMatches (frames : Nat) (w : World) : Prop where
  positive : 1 ≤ windowIn frames w.journal
  window : ∀ h, w.host = some h → h.adapter.resize.window = windowIn frames w.journal
  follows : ∀ h, w.host = some h → h.adapter.resize.Follows (lastBurst frames w.journal)

theorem windowIn_append (frames : Nat) {es : List Event} (h : ∀ e ∈ es, e.isTick = false)
    (older : List Event) :
    windowIn frames (es ++ older) = windowIn frames older := by
  induction es with
  | nil => rfl
  | cons e es ih =>
    have rest := ih fun x hx => h x (List.mem_cons_of_mem e hx)
    have head := h e List.mem_cons_self
    cases e <;> first | exact rest | cases head

theorem lastBurst_append (frames : Nat) {es : List Event} (h : ∀ e ∈ es, e.isTick = false)
    (older : List Event) :
    lastBurst frames (es ++ older) = lastBurst frames older := by
  induction es with
  | nil => rfl
  | cons e es ih =>
    have rest := ih fun x hx => h x (List.mem_cons_of_mem e hx)
    have head := h e List.mem_cons_self
    cases e with
    | targetRead present => cases present <;> first | exact rest | cases head
    | _ => first | exact rest | cases head

structure World.Retains (w v : World) : Prop where
  journal : w.Adds (fun e => !e.isTick) v
  adapter : ∀ k, v.host = some k → ∃ h, w.host = some h ∧ k.adapter.resize = h.adapter.resize ∧
    k.adapter.pending = h.adapter.pending

namespace World.Retains

theorem trans {u v w : World} (h : u.Retains v) (k : v.Retains w) : u.Retains w := by
  refine ⟨h.journal.trans k.journal, ?_⟩
  intro c hc
  obtain ⟨b, hb, resize, pending⟩ := k.adapter c hc
  obtain ⟨a, ha, resize', pending'⟩ := h.adapter b hb
  exact ⟨a, ha, resize.trans resize', pending.trans pending'⟩

theorem of_aside {w v : World} (h : w.Aside v) : w.Retains v := by
  refine ⟨h.journal.mono fun e chore => ?_, ?_⟩
  · cases e <;> first | rfl | cases chore
  · intro k hk
    have same := h.adapter
    rw [hk, Option.map_some] at same
    obtain ⟨a, ha, eq⟩ := Option.map_eq_some_iff.mp same.symm
    exact ⟨a, ha, by rw [eq], by rw [eq]⟩

theorem of_adds {w v : World} (journal : w.Adds (fun e => !e.isTick) v) (host : v.host = w.host) :
    w.Retains v :=
  ⟨journal, fun k hk => ⟨k, host ▸ hk, rfl, rfl⟩⟩

theorem record (w : World) {e : Event} (h : e.isTick = false) : w.Retains (w.record e) :=
  of_adds (.record w (by simp [h])) rfl

theorem logAll (w : World) (rs : List LogRecord) : w.Retains (w.recordAll (rs.map .log)) := by
  have added : w.Adds (fun e => !e.isTick) (w.recordAll (rs.map .log)) := by
    refine .recordAll w fun e he => ?_
    obtain ⟨x, _, rfl⟩ := List.mem_map.mp he
    rfl
  obtain ⟨j, eq⟩ := w.recordAll_eq (rs.map .log)
  rw [eq] at added ⊢
  exact of_adds added rfl

theorem leaveGate (w : World) (saved : Bool) : w.Retains (w.leaveGate saved) := of_adds (.of_eq rfl) rfl

theorem draw (w : World) (thread : Nat) (saved : Bool) : w.Retains (w.draw thread saved).world := by
  unfold World.draw
  split
  · exact of_adds (.of_eq rfl) rfl
  · exact record w rfl

theorem load (w : World) (thread : Nat) (saved : Bool) (r : Reload) :
    w.Retains (w.load thread saved r).world := by
  unfold World.load
  split
  · exact of_adds (.of_eq rfl) rfl
  · exact (record w rfl).trans ((record _ rfl).trans (of_adds (.of_eq rfl) rfl))

theorem refresh (w : World) (thread : Nat) (saved : Bool) (a : Adapter) :
    (w.setAdapter (a.update w.renderer.resolution).2).Retains (w.refresh thread saved a).world := by
  have logged (v : World) :
      v.Retains (v.recordAll ((a.update w.renderer.resolution).1.records.map .log)) := logAll v _
  unfold World.refresh
  dsimp only
  split
  · exact (logged _).trans (draw _ thread saved)
  · exact (logged _).trans (load _ thread saved _)

theorem finishLoad (w : World) (thread : Nat) (saved : Bool) (settings : Settings) :
    w.Retains (w.finishLoad thread saved settings).world := by
  unfold World.finishLoad
  split
  · rename_i h hosted
    have loaded : w.Retains (w.setAdapter (h.adapter.loaded settings)) := by
      refine ⟨.of_eq rfl, ?_⟩
      intro k hk
      simp only [World.setAdapter, hosted, Option.map_some, Option.some.injEq] at hk
      exact ⟨h, hosted, by rw [← hk]; rfl, by rw [← hk]; rfl⟩
    exact loaded.trans (draw _ thread saved)
  · exact draw w thread saved

theorem present (w : World) (saved : Bool) : w.Retains (w.present saved).world := by
  have ends (v : World) (rendered : Bool) : v.Retains (v.endPass saved rendered).world :=
    (leaveGate v saved).trans (record _ rfl)
  unfold World.present
  split
  · rename_i error failures _
    have taken : w.Retains { w with renderer := { w.renderer with failures } } :=
      of_adds (.of_eq rfl) rfl
    exact (taken.trans (record _ rfl)).trans (ends _ false)
  · exact (record w rfl).trans (ends _ true)

theorem enterPass {w : World} {g : Graphics} (thread : Nat) (shared : w.graphics = some g)
    (owned : (g.affinity.bind thread).isCurrent thread = true) :
    w.Retains (w.enterPass thread).world := by
  have began : w.Retains
      ({ w with graphics := some ⟨g.affinity.bind thread, ⟨true⟩, .empty⟩ }.record
        (.passBegan thread)) :=
    of_adds (.record w rfl) rfl
  rw [w.enterPass_eq thread shared owned]
  exact began.trans (of_aside (.drain _ _ _ _ _))

end World.Retains

namespace World.DebouncerMatches

variable {frames : Nat} {w v : World}

theorem retains (h : w.DebouncerMatches frames) (r : w.Retains v) : v.DebouncerMatches frames := by
  obtain ⟨es, journal, new⟩ := r.journal
  have plain : ∀ e ∈ es, e.isTick = false := fun e he => by simpa using new e he
  refine ⟨?_, ?_, ?_⟩
  · rw [journal, windowIn_append frames plain]
    exact h.positive
  · intro k hk
    obtain ⟨a, ha, resize, _⟩ := r.adapter k hk
    rw [journal, windowIn_append frames plain, resize]
    exact h.window a ha
  · intro k hk
    obtain ⟨a, ha, resize, _⟩ := r.adapter k hk
    rw [journal, lastBurst_append frames plain, resize]
    exact h.follows a ha

theorem of_gone (h : w.DebouncerMatches frames)
    (journal : windowIn frames v.journal = windowIn frames w.journal)
    (gone : v.host = none) : v.DebouncerMatches frames := by
  refine ⟨journal ▸ h.positive, ?_, ?_⟩
  · intro k hk
    simp [gone] at hk
  · intro k hk
    simp [gone] at hk

end World.DebouncerMatches

namespace Debouncer.Follows

variable {d : Debouncer} {b : Burst}

theorem running (h : d.Follows (some b)) (early : b.passes < b.window) :
    d.target = some (.ofNat b.width b.height) ∧ d.frames = b.window - b.passes := by
  simpa only [Follows, if_pos early] using h

theorem idle (h : d.Follows (some b)) (late : ¬ b.passes < b.window) : d.target = none := by
  simpa only [Follows, if_neg late] using h

theorem tick {o : Option Burst} (h : d.Follows o) :
    d.tick.2.Follows (o.map fun b => { b with passes := b.passes + 1 }) := by
  cases o with
  | none =>
    have idle : d.target = none := h
    rw [tick_idle idle]
    exact idle
  | some b =>
    by_cases early : b.passes < b.window
    · obtain ⟨target, left⟩ := h.running early
      by_cases more : 1 < d.frames
      · have next : b.passes + 1 < b.window := by omega
        rw [tick_settling target more, Option.map_some, Follows, if_pos next]
        exact ⟨target, by simp only; omega⟩
      · have last : ¬ b.passes + 1 < b.window := by omega
        rw [tick_last target more, Option.map_some, Follows, if_neg last]
    · have idle := h.idle early
      have later : ¬ b.passes + 1 < b.window := by omega
      rw [tick_idle idle, Option.map_some, Follows, if_neg later]
      exact idle

end Debouncer.Follows

theorem Adapter.update_resize (a : Adapter) (current : Resolution) :
    (a.update current).2.resize = a.resize.tick.2 := by
  unfold Adapter.update
  split <;> rename_i eq <;> rw [eq]

namespace World.DebouncerMatches

variable {frames : Nat} {w v : World}

theorem adapted {h : Host} {e : Event} {a : Adapter} (hosted : w.host = some h)
    (positive : 1 ≤ windowIn frames (e :: w.journal))
    (window : a.resize.window = windowIn frames (e :: w.journal))
    (follows : a.resize.Follows (lastBurst frames (e :: w.journal))) :
    ((w.record e).setAdapter a).DebouncerMatches frames := by
  have only {k : Host} (hk : ((w.record e).setAdapter a).host = some k) : k.adapter = a := by
    simp only [World.setAdapter, World.record, hosted, Option.map_some, Option.some.injEq] at hk
    rw [← hk]
  refine ⟨positive, ?_, ?_⟩
  · intro k hk
    rw [only hk]
    exact window
  · intro k hk
    rw [only hk]
    exact follows

theorem requested (t : w.DebouncerMatches frames) {h : Host} (hosted : w.host = some h) (r : AdapterRequest) :
    ∃ a, h.adapter.request r = .ok a ∧ ((w.record (.requested r)).setAdapter a).DebouncerMatches frames := by
  have window := t.window h hosted
  have follows := t.follows h hosted
  cases r with
  | resize width height =>
    refine ⟨_, rfl, adapted hosted t.positive window ?_⟩
    have positive : 0 < windowIn frames w.journal := t.positive
    rw [lastBurst, Debouncer.Follows, if_pos positive]
    exact ⟨rfl, window⟩
  | settings s => exact ⟨_, rfl, adapted hosted t.positive window follows⟩
  | config c =>
    have raised : max c.debounceFrames 1 ≠ 0 := by omega
    have set : h.adapter.request (.config c) = .ok ⟨⟨max c.debounceFrames 1, h.adapter.resize.frames,
        h.adapter.resize.target⟩, h.adapter.settings, some c.graphics⟩ := by
      simp only [Adapter.request, Debouncer.setWindow, if_neg raised]
      rfl
    exact ⟨_, set, adapted hosted (Nat.le_max_right _ 1) rfl follows⟩

theorem ask (t : w.DebouncerMatches frames) {h : Host} (hosted : w.host = some h) (r : AdapterRequest) :
    (w.ask h r).world.DebouncerMatches frames := by
  obtain ⟨a, asked, debouncerMatches⟩ := t.requested hosted r
  apply debouncerMatches.retains
  obtain ⟨j, eq⟩ := (w.record (.requested r)).recordAll_eq (r.warnings.map .log)
  have warned := (w.record (.requested r)).journal_recordAll (r.warnings.map .log)
  simp only [World.ask, asked]
  rw [eq] at warned ⊢
  refine .of_adds ⟨.log r.notice :: (r.warnings.map .log).reverse, ?_, ?_⟩ rfl
  · simpa [Machine.proceed, World.log, World.record, World.setAdapter] using warned
  · intro e he
    rcases List.mem_cons.mp he with rfl | warning
    · rfl
    · obtain ⟨x, _, rfl⟩ := List.mem_map.mp (List.mem_reverse.mp warning)
      rfl

theorem ticked (t : w.DebouncerMatches frames) {h : Host} (hosted : w.host = some h) (current : Resolution) :
    ((w.record (.targetRead true)).setAdapter (h.adapter.update current).2).DebouncerMatches frames := by
  apply adapted hosted t.positive
  · rw [Adapter.update_resize, Debouncer.tick_window]
    exact t.window h hosted
  · rw [Adapter.update_resize]
    exact (t.follows h hosted).tick

theorem readTarget (t : w.DebouncerMatches frames) (thread : Nat) (saved : Bool) :
    (w.readTarget thread saved).world.DebouncerMatches frames := by
  unfold World.readTarget
  dsimp only
  split
  · rename_i h present hosted
    have found : w.renderer.hasTarget = true := present
    rw [found]
    exact (t.ticked hosted w.renderer.resolution).retains (.refresh _ thread saved h.adapter)
  · rename_i absent
    have read : ((w.record (.targetRead w.renderer.hasTarget)).log .noRenderTarget).DebouncerMatches
      frames := by
      by_cases present : w.renderer.hasTarget = true
      · have gone : w.host = none := by
          cases hosted : w.host with
          | none => rfl
          | some h => exact (absent h present hosted).elim
        refine t.of_gone ?_ gone
        rw [present]
        rfl
      · simp only [Bool.not_eq_true] at present
        rw [present]
        exact t.retains ((Retains.record w rfl).trans (.record _ rfl))
    exact read.retains ((Retains.leaveGate _ saved).trans (.record _ rfl))

end World.DebouncerMatches

/-- Every effect preserves the match between debouncer and journal. -/
theorem StepEffect.debouncerMatches {w : World} {others : List Frame} {fault : Option Fault}
    {popped : List Frame}
    {n : Machine} {frames : Nat}
    (d : StepEffect w others fault popped n) (t : w.DebouncerMatches frames) :
    n.world.DebouncerMatches frames := by
  rcases d.aside_or_host with ⟨aside, _⟩ | d
  · exact t.retains (.of_aside aside)
  · cases d with
    | dropHost free =>
      have gone : World.DebouncerMatches frames { w with host := none } := t.of_gone rfl rfl
      exact gone.retains (.of_aside (.dropHost w))
    | ask still hosted r free => exact (t.retains (.of_aside (.of_quiet still))).ask hosted r
    | enter thread shared owned => exact t.retains (.enterPass thread shared owned)
    | target thread saved => exact t.readTarget thread saved
    | loaded thread saved settings => exact t.retains (.finishLoad w thread saved settings)
    | present thread saved => exact t.retains (.present w saved)
    | abort thread saved phase =>
      exact t.retains ((World.Retains.leaveGate w saved).trans (.record _ rfl))

theorem World.Fresh.debouncerMatches {b : AdapterOptions} {w : World} (fresh : w.Fresh b) :
    w.DebouncerMatches b.frames := by
  have plain : ∀ e ∈ w.journal, e.isTick = false := by
    intro e he
    have note := fresh.journal e he
    cases e <;> first | rfl | cases note
  have window : windowIn b.frames w.journal = b.frames := by
    simpa [windowIn] using windowIn_append b.frames plain []
  have burst : lastBurst b.frames w.journal = none := by
    simpa [lastBurst] using lastBurst_append b.frames plain []
  have built {h : Host} (hosted : w.host = some h) : h.adapter.resize = ⟨b.frames, 0, none⟩ := by
    have adapter := fresh.adapter
    rw [hosted, Option.map_some, Option.some.injEq] at adapter
    rw [adapter]
  have positive := fresh.frames
  refine ⟨by omega, ?_, ?_⟩
  · intro h hosted
    rw [built hosted, window]
  · intro h hosted
    rw [built hosted, burst]
    rfl

theorem Reachable.debouncerMatches {b : AdapterOptions} {s : System} (h : Reachable b s) :
    s.world.DebouncerMatches b.frames := by
  induction h with
  | built strands bare h => exact (World.fresh_build bare h).debouncerMatches
  | move _ m ih =>
    obtain ⟨σ, popped, below, others, n, act⟩ := m.act
    rw [act.world]
    exact act.effect.debouncerMatches ih

end FrameHost
