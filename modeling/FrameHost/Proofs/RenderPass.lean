import FrameHost.Proofs.PassCourse

/-!
The result of a render pass: the waiting calls in push order, then the reading of the target, then at most
one reload and one drawing.
-/
namespace FrameHost

namespace Adapter

def newSize (a : Adapter) (current : Resolution) : Option Resolution :=
  a.resize.target.filter fun size => !size.equals current

/-- The reload that the requests demand at this resolution; none while a resize settles. -/
def due (a : Adapter) (current : Resolution) : Option Reload :=
  if a.resize.target.isSome && decide (1 < a.resize.frames) then none
  else if a.changedSettings.isSome || (a.newSize current).isSome then
    some ⟨a.changedSettings.getD a.settings, (a.newSize current).getD current⟩
  else none

theorem reload?_eq (a : Adapter) (size : Option Resolution) (current : Resolution) :
    a.reload? size current = if a.changedSettings.isSome || size.isSome then
      some ⟨a.changedSettings.getD a.settings, size.getD current⟩ else none := by
  unfold reload?
  cases a.changedSettings with
  | none => cases size <;> rfl
  | some settings => rfl

theorem update_reload (a : Adapter) (current : Resolution) :
    (a.update current).1.reload = a.due current := by
  cases target : a.resize.target with
  | none => simp [update, due, newSize, Debouncer.tick_idle target, target, reload?_eq]
  | some size =>
    by_cases settling : 1 < a.resize.frames
    · simp [update, due, Debouncer.tick_settling target settling, target, settling]
    · have filtered : (if size.equals current = true then none else some size)
          = (some size).filter fun size => !size.equals current := by
        cases same : size.equals current <;> simp [Option.filter, same]
      simp [update, due, newSize, Debouncer.tick_last target settling, target, settling, reload?_eq,
        filtered]

end Adapter

/-- The next turn of a strand begins a pass, on the graphics thread or on the first thread to try. -/
inductive System.Enters (thread : Nat) : System → System → Prop where
  | enters {w : World} (before : List Strand) (σ : Strand) (after : List Strand) {below : List Frame}
      (stack : σ.stack = .enter thread :: below) (calm : σ.fault = none)
      (owned : ∀ first, captured w.journal = some first → first = thread) :
      Enters thread ⟨w, before ++ σ :: after⟩
        ⟨(σ.on w).step.world, before ++ (σ.on w).step.strand :: after⟩

section
variable {b : AdapterOptions} {s x : System} {thread : Nat}

theorem System.Enters.passing (e : System.Enters thread s x) (h : Reachable b s) :
    Passing s thread [x] := by
  cases e with
  | @enters w before σ after below stack calm owned =>
    have frames := frames_swap before after σ
    rw [stack] at frames
    have gated := h.gated.perm frames
    have closed : openPass w.journal = none := gated.closed
    have hosted : w.host.isSome = true := gated.hosted (.enter thread) List.mem_cons_self rfl
    obtain ⟨g, shared⟩ := Option.isSome_iff_exists.mp (gated.shared hosted)
    have mine : (g.affinity.bind thread).isCurrent thread = true := by
      rw [Affinity.isCurrent, Affinity.bind_owner, gated.owner g shared]
      cases first : captured w.journal with
      | none => simp
      | some t => simp [owned t first]
    have entered : (σ.on w).step.world = (w.enterPass thread).world := by
      simp only [Strand.on, Machine.step, stack, calm]
      rfl
    refine .begins (.turn before σ after .step) closed ?_
    rw [entered]
    exact (w.enterPass_opens thread shared mine).1.openPass

/-- A pass runs the waiting calls in push order and then reads whether the renderer has a target. If it has
none, the pass returns `false` at once. Otherwise it reloads the renderer at most once, as the requests
demand, calls it to draw exactly once, and returns `true` exactly when the renderer has no failure pending
at that moment. Every pass that begins can end, and it ends without a result only by a fault. -/
theorem render_pass_course (h : Reachable b s) :
    ((s.world.waiting .graphics).map Runnable.ticket).Sublist (pushes .graphics s.world.journal) ∧
    (∀ thread x, s.Enters thread x → Passing s thread [x]) ∧
    ∀ thread x earlier, Passing s thread (x :: earlier) →
      (∃ y later t, Passing s thread (y :: later) ∧ x :: earlier <:+ y :: later ∧ Move y t ∧
        openPass t.world.journal = none) ∧
      ∀ t, Move x t → openPass t.world.journal = none →
        ∃ a result es, s.world.host.map Host.adapter = some a ∧
          t.world.journal = .passEnded result :: (es ++ .passBegan thread :: s.world.journal) ∧
          x.Leaves t thread result ∧
          ∀ flag, result = some flag →
            (flag = false ∧ x.world.ReadsTarget t.world false ∧ story (s.world.waiting .graphics) es
              = ran thread (s.world.waiting .graphics) ++ [.targetRead false]) ∨
            ∃ current, FindsTarget (t :: x :: earlier) current ∧ x.world.Presents t.world flag ∧
              story (s.world.waiting .graphics) es = ran thread (s.world.waiting .graphics) ++
                .targetRead true :: (reloads (a.due current) ++
                  .renderCalled :: if flag then [.rendered] else []) := by
  refine ⟨h.ledger.lined .graphics, fun thread x e => e.passing h, ?_⟩
  intro thread x earlier p
  constructor
  · obtain ⟨later, y, t, pass, suffix, last, closed⟩ := p.can_end h
    exact ⟨y, later, t, pass, suffix, last, closed⟩
  · intro t m closed
    obtain ⟨a, result, es, now, adapter, ending⟩ := p.ending h m closed
    refine ⟨a, result, es, adapter, ending.journal, ending.leaves, ?_⟩
    rintro flag rfl
    cases ending.outcome with
    | untargeted absent told => exact .inl ⟨rfl, absent, told⟩
    | @drawn current _ _ _ presents read _ _ told =>
      rw [a.update_reload] at told
      exact .inr ⟨current, read, presents, told⟩

def Machine.sampleCall (call : Script) : Machine :=
  Request.render.begin ((Request.push none call).carryOut Machine.sample.world 5).world 0

theorem reachable_sampleCall (call : Script) : Reachable .standard (Machine.sampleCall call).alone :=
  (reachable_sample.alone_carryOut rfl (.push none call) 5).alone_begin (Machine.run_stack _) .render 0

def Machine.sampleFailing : Machine := Machine.sampleCall (.act (.failRender (.surfaceLost "gone")) .done)

def Machine.sampleUntargeted : Machine := Machine.sampleCall (.act (.setTarget false) .done)

theorem result_of_head {journal older : List Event} {result expected : Option Bool}
    (split : journal = .passEnded result :: older) (head : journal.head? = some (.passEnded expected)) :
    result = expected := by
  rw [split] at head
  cases head
  rfl

theorem render_pass_course_sample :
    (Reachable .standard Machine.sampleRender.alone ∧
      ∃ (earlier : List System) (a : Adapter) (es : List Event) (current : Resolution),
        Passing Machine.sampleRender.alone 0 ((Machine.sampleRender.step.runFor 8).alone :: earlier) ∧
        FindsTarget ((Machine.sampleRender.step.runFor 8).step.alone ::
          (Machine.sampleRender.step.runFor 8).alone :: earlier) current ∧
        (Machine.sampleRender.step.runFor 8).world.Presents
          (Machine.sampleRender.step.runFor 8).step.world true ∧
        (Machine.sampleRender.step.runFor 8).step.world.journal
          = .passEnded (some true) :: (es ++ .passBegan 0 :: Machine.sampleRender.world.journal) ∧
        story (Machine.sampleRender.world.waiting .graphics) es
          = ran 0 (Machine.sampleRender.world.waiting .graphics) ++
            .targetRead true :: (reloads (a.due current) ++ [.renderCalled, .rendered])) ∧
    (Reachable .standard Machine.sampleFailing.alone ∧
      (Machine.sampleFailing.step.runFor 7).world.renderer.failures = [.surfaceLost "gone"] ∧
      ∃ (earlier : List System) (a : Adapter) (es : List Event) (current : Resolution),
        Passing Machine.sampleFailing.alone 0 ((Machine.sampleFailing.step.runFor 7).alone :: earlier) ∧
        FindsTarget ((Machine.sampleFailing.step.runFor 7).step.alone ::
          (Machine.sampleFailing.step.runFor 7).alone :: earlier) current ∧
        (Machine.sampleFailing.step.runFor 7).world.Presents
          (Machine.sampleFailing.step.runFor 7).step.world false ∧
        (Machine.sampleFailing.step.runFor 7).step.world.journal
          = .passEnded (some false) :: (es ++ .passBegan 0 :: Machine.sampleFailing.world.journal) ∧
        story (Machine.sampleFailing.world.waiting .graphics) es
          = ran 0 (Machine.sampleFailing.world.waiting .graphics) ++
            .targetRead true :: (reloads (a.due current) ++ [.renderCalled])) ∧
    Reachable .standard Machine.sampleUntargeted.alone ∧
      ∃ (earlier : List System) (es : List Event),
        Passing Machine.sampleUntargeted.alone 0
          ((Machine.sampleUntargeted.step.runFor 5).alone :: earlier) ∧
        (Machine.sampleUntargeted.step.runFor 5).world.ReadsTarget
          (Machine.sampleUntargeted.step.runFor 5).step.world false ∧
        (Machine.sampleUntargeted.step.runFor 5).step.world.journal
          = .passEnded (some false) :: (es ++ .passBegan 0 :: Machine.sampleUntargeted.world.journal) ∧
        story (Machine.sampleUntargeted.world.waiting .graphics) es
          = ran 0 (Machine.sampleUntargeted.world.waiting .graphics) ++ [.targetRead false] := by
  refine ⟨?rendered, ?failed, ?untargeted⟩
  case rendered =>
    obtain ⟨earlier, p⟩ := passing_sampleRender
    obtain ⟨_, ends⟩ := (render_pass_course reachable_sampleRender).2.2 _ _ _ p
    obtain ⟨a, result, es, _, journal, _, course⟩ :=
      ends (Machine.sampleRender.step.runFor 8).step.alone (.turn [] _ [] .step) (by decide)
    obtain rfl : result = some true := result_of_head journal (by decide)
    rcases course true rfl with ⟨untrue, _⟩ | ⟨current, read, presents, told⟩
    · cases untrue
    · exact ⟨reachable_sampleRender, earlier, a, es, current, p, read, presents, journal, told⟩
  case failed =>
    obtain ⟨earlier, p⟩ :=
      Machine.sampleFailing.passes_alone 0 7 (by decide) (by decide)
    obtain ⟨_, ends⟩ := (render_pass_course (reachable_sampleCall _)).2.2 _ _ _ p
    obtain ⟨a, result, es, _, journal, _, course⟩ :=
      ends (Machine.sampleFailing.step.runFor 7).step.alone (.turn [] _ [] .step) (by decide)
    obtain rfl : result = some false := result_of_head journal (by decide)
    rcases course false rfl with ⟨_, ⟨absent, _⟩, _⟩ | ⟨current, read, presents, told⟩
    · exact absurd absent (by decide)
    · exact ⟨reachable_sampleCall _, by decide, earlier, a, es, current, p, read, presents, journal, told⟩
  case untargeted =>
    obtain ⟨earlier, p⟩ :=
      Machine.sampleUntargeted.passes_alone 0 5 (by decide) (by decide)
    obtain ⟨_, ends⟩ := (render_pass_course (reachable_sampleCall _)).2.2 _ _ _ p
    obtain ⟨a, result, es, _, journal, _, course⟩ :=
      ends (Machine.sampleUntargeted.step.runFor 5).step.alone (.turn [] _ [] .step) (by decide)
    obtain rfl : result = some false := result_of_head journal (by decide)
    rcases course false rfl with ⟨_, absent, told⟩ | ⟨current, _, _, told⟩
    · exact ⟨reachable_sampleCall _, earlier, es, p, absent, journal, told⟩
    · -- A pass that draws has called the renderer.
      have written : .renderCalled ∈ es := mem_of_told told (by simp)
      have unwritten : .renderCalled ∉ (Machine.sampleUntargeted.step.runFor 5).step.world.journal := by
        decide
      refine absurd ?_ unwritten
      rw [show (Machine.sampleUntargeted.step.runFor 5).step.world.journal = _ from journal]
      simp [written]

end

end FrameHost
