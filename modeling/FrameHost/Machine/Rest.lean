import FrameHost.Machine.Run

/-!
Termination of the machine. A step decreases the weight (`weight_step_lt`), so the fuel of `Machine.run`
suffices and its final stack is empty (`run_stack`).
-/
namespace FrameHost

structure Renderer.SameHooks (r s : Renderer) : Prop where
  reload : r.onReload = s.onReload
  render : r.onRender = s.onRender

theorem Renderer.SameHooks.of_eq {r s : Renderer} (h : r = s) : r.SameHooks s := h ▸ ⟨rfl, rfl⟩

namespace World

variable (w : World) (p : Nat)

theorem recordAll_eq (es : List Event) : ∃ j, w.recordAll es = { w with journal := j } := by
  induction es generalizing w with
  | nil => exact ⟨w.journal, rfl⟩
  | cons e es ih => exact ih (w.record e)

@[simp] theorem weight_recordAll (es : List Event) : (w.recordAll es).weight p = w.weight p := by
  obtain ⟨j, h⟩ := w.recordAll_eq es
  rw [h]; rfl

@[simp] theorem renderer_recordAll (es : List Event) : (w.recordAll es).renderer = w.renderer := by
  obtain ⟨j, h⟩ := w.recordAll_eq es
  rw [h]

@[simp] theorem weight_record (e : Event) : (w.record e).weight p = w.weight p := rfl
@[simp] theorem weight_log (r : LogRecord) : (w.log r).weight p = w.weight p := rfl
@[simp] theorem weight_say (text : String) : (w.say text).weight p = w.weight p := rfl
@[simp] theorem weight_ticketed : w.ticketed.weight p = w.weight p := rfl
@[simp] theorem renderer_record (e : Event) : (w.record e).renderer = w.renderer := rfl
@[simp] theorem renderer_log (r : LogRecord) : (w.log r).renderer = w.renderer := rfl
@[simp] theorem renderer_say (text : String) : (w.say text).renderer = w.renderer := rfl
@[simp] theorem renderer_ticketed : w.ticketed.renderer = w.renderer := rfl

@[simp] theorem weight_leaveGate (saved : Bool) : (w.leaveGate saved).weight p = w.weight p := by
  cases h : w.graphics <;> simp [leaveGate, weight, h]

@[simp] theorem renderer_leaveGate (saved : Bool) : (w.leaveGate saved).renderer = w.renderer := rfl

@[simp] theorem weight_setAdapter (a : Adapter) : (w.setAdapter a).weight p = w.weight p := rfl
@[simp] theorem renderer_setAdapter (a : Adapter) : (w.setAdapter a).renderer = w.renderer := rfl

@[simp] theorem renderer_discardCalls (q : CallQueue) : (w.discardCalls q).renderer = w.renderer := by
  unfold discardCalls destroyAll
  rw [renderer_recordAll]
  split <;> rfl

@[simp] theorem weight_discardCalls (q : CallQueue) : (w.discardCalls q).weight p = w.weight p := by
  unfold discardCalls destroyAll
  rw [weight_recordAll]
  split <;> rfl

theorem weight_dropHandle_le (slot : Nat) : (w.dropHandle slot).weight p ≤ w.weight p := by
  unfold dropHandle releaseGraphics
  split
  · exact Nat.le_refl _
  · split
    · exact Nat.le_refl _
    · rw [weight_discardCalls]
      simp only [weight, Option.getD_none]
      exact Nat.add_le_add_right (Nat.add_le_add_right (Nat.zero_le _) _) _

theorem renderer_dropHandle (slot : Nat) : (w.dropHandle slot).renderer = w.renderer := by
  unfold dropHandle releaseGraphics
  split
  · rfl
  · split
    · rfl
    · rw [renderer_discardCalls]

theorem weight_dispatch_le (r : Runnable) : (w.dispatch r).weight p ≤ w.weight p + (r.body.weight p + 2) := by
  unfold dispatch
  dsimp only
  split
  · exact Nat.le_add_right _ _
  · simp only [weight, record, weigh_append, weigh_cons, weigh_nil]
    omega

theorem renderer_dispatch (r : Runnable) : (w.dispatch r).renderer = w.renderer := by
  unfold dispatch
  dsimp only
  split <;> rfl

theorem handle?_graphics {slot : Nat} {g : Graphics} (h : w.handle? slot = some g) : w.graphics = some g := by
  unfold handle? at h
  split at h
  · exact h
  · cases h

end World

theorem Machine.remaining_proceed (p : Nat) (w : World) (fs : List Frame) :
    (Machine.proceed w fs).remaining p = w.weight p + stackWeight p w.renderer fs := rfl

namespace World

variable (w : World) (p : Nat) (thread : Nat) (below : List Frame)

theorem remaining_start (r : Runnable) :
    (w.start thread r below).remaining p = w.weight p +
    (r.body.weight p + 1 + stackWeight p w.renderer below) := by
  simp only [start, Machine.remaining_proceed, weight_record, renderer_record, stackWeight_cons, Frame.weight]
  omega

theorem remaining_post_le {g : Graphics} (h : w.graphics = some g) (r : Runnable) :
    (w.post g thread r below).remaining p ≤ w.weight p +
    (r.body.weight p + 2 + stackWeight p w.renderer below) := by
  unfold post
  dsimp only
  split
  · rw [remaining_start, weight_record, renderer_record]
    omega
  · simp only [Machine.remaining_proceed, weight, h, record, Option.getD_some, CallQueue.push_calls,
      weigh_append, weigh_cons, weigh_nil]
    omega

theorem renderer_post (g : Graphics) (r : Runnable) :
    (w.post g thread r below).world.renderer = w.renderer := by
  unfold post
  dsimp only
  split <;> rfl

theorem remaining_drain (line : Line) (calls : List Runnable) :
    (w.drain thread line calls below).remaining p
      = w.weight p + (weigh p calls + 1 + stackWeight p w.renderer below) := by
  unfold drain
  dsimp only
  split <;> rfl

theorem renderer_drain (line : Line) (calls : List Runnable) :
    (w.drain thread line calls below).world.renderer = w.renderer := by
  unfold drain
  dsimp only
  split <;> rfl

end World

theorem Op.remaining_perform (op : Op) (w : World) (thread : Nat) (next : Script) (p : Nat) :
    (op.perform w thread next).remaining p < w.weight p + (op.weight + next.weight p) ∧
      (op.perform w thread next).world.renderer.SameHooks w.renderer := by
  have go (v : World) (hv : v.weight p ≤ w.weight p) (hr : v.renderer.SameHooks w.renderer) (n : Nat)
    (hn : 0 < n) :
      (Machine.proceed v [.script thread next]).remaining p < w.weight p + (n + next.weight p) ∧
        (Machine.proceed v [.script thread next]).world.renderer.SameHooks w.renderer := by
    refine ⟨?_, hr⟩
    rw [Machine.remaining_proceed, stackWeight_cons, stackWeight_nil, Frame.weight]
    omega
  cases op with
  | raise message => exact ⟨Nat.lt_add_of_pos_right (Nat.add_pos_left Nat.one_pos _), ⟨rfl, rfl⟩⟩
  | query handle =>
    unfold perform
    dsimp only
    split <;> exact go _ (Nat.le_refl _) ⟨rfl, rfl⟩ 1 Nat.one_pos
  | dropHandle handle =>
    exact go _ (w.weight_dropHandle_le p handle) (.of_eq (w.renderer_dropHandle handle)) 1 Nat.one_pos
  | chain count handle =>
    unfold perform
    dsimp only
    split
    · rename_i count g hg
      have hp := World.remaining_post_le (w.say s!"chain {count + 1}").ticketed p thread
        [.script thread next] (World.handle?_graphics _ hg)
        ((w.say s!"chain {count + 1}").runnable none (.act (.chain count handle) .done))
      refine ⟨Nat.lt_of_le_of_lt hp ?_, .of_eq (World.renderer_post ..)⟩
      simp only [World.weight_ticketed, World.weight_say, World.runnable, Script.weight, stackWeight_cons,
        stackWeight_nil, Frame.weight, Op.weight]
      omega
    · exact go _ (Nat.le_refl _) ⟨rfl, rfl⟩ _ (Nat.succ_pos _)
  | runMain =>
    unfold perform
    dsimp only
    split
    · refine ⟨?_, ⟨rfl, rfl⟩⟩
      simp only [World.round, Machine.remaining_proceed, World.weight_record, World.weight_ticketed,
        stackWeight_cons, stackWeight_nil, Frame.weight, Op.weight]
      omega
    · exact go _ (Nat.le_refl _) ⟨rfl, rfl⟩ 3 (Nat.succ_pos _)
  | drainQueue =>
    unfold perform
    dsimp only
    split
    · exact go _ (Nat.le_refl _) ⟨rfl, rfl⟩ 3 (Nat.succ_pos _)
    · rename_i q hq
      refine ⟨?_, .of_eq (World.renderer_drain ..)⟩
      rw [World.remaining_drain]
      simp only [World.weight, hq, CallQueue.take, Option.getD_some, CallQueue.empty_calls, weigh_nil,
        stackWeight_cons, stackWeight_nil, Frame.weight, Op.weight]
      omega
  | queueLength =>
    unfold perform
    dsimp only
    split <;> exact go _ (Nat.le_refl _) ⟨rfl, rfl⟩ 1 Nat.one_pos
  | _ =>
    refine go _ ?_ ?_ 1 Nat.one_pos
    · exact Nat.le_refl _
    · exact ⟨rfl, rfl⟩

/-- A script that is installed at a hook may run once for each pass on the stack below. -/
theorem Nest.remaining_perform (kind : Nest) (w : World) (thread : Nat) (body next : Script) (p : Nat)
    (below : List Frame) (passes : below.countP Frame.isPass ≤ p) :
    (kind.perform w thread body next).remaining p
        + stackWeight p (kind.perform w thread body next).world.renderer below
      < w.weight p + ((Script.nest kind body next).weight p + stackWeight p w.renderer below) := by
  have go (v : World) (n : Nat) (hn : v.weight p + stackWeight p v.renderer below
        < w.weight p + (n + stackWeight p w.renderer below)) :
      (Machine.proceed v [.script thread next]).remaining p + stackWeight p v.renderer below
        < w.weight p + (n + next.weight p + stackWeight p w.renderer below) := by
    rw [Machine.remaining_proceed, stackWeight_cons, stackWeight_nil, Frame.weight]
    omega
  cases kind with
  | times count =>
    cases count with
    | zero =>
      show w.weight p + (next.weight p + 0) + stackWeight p w.renderer below < _
      simp only [Script.weight]
      omega
    | succ count =>
      show w.weight p + (body.weight p + ((Script.nest (.times count) body next).weight p + 0))
        + stackWeight p w.renderer below < _
      simp only [Script.weight, Nat.add_mul, Nat.one_mul]
      omega
  | spawn =>
    show w.weight p + (body.weight p + (1 + (next.weight p + 0))) + stackWeight p w.renderer below < _
    simp only [Script.weight]
    omega
  | catching =>
    show w.weight p + (body.weight p + (1 + (next.weight p + 0))) + stackWeight p w.renderer below < _
    simp only [Script.weight]
    omega
  | push handle label =>
    unfold perform
    dsimp only
    split
    · exact go _ _ (by simp only [World.weight_say, World.renderer_say]; omega)
    · rename_i g hg
      have hp := World.remaining_post_le w.ticketed p thread [.script thread next] (World.handle?_graphics _ hg)
        (w.runnable label body)
      rw [World.renderer_post]
      simp only [World.weight_ticketed, World.runnable, stackWeight_cons, stackWeight_nil, Frame.weight,
        World.renderer_ticketed, Script.weight] at hp ⊢
      omega
  | dispatch sender label =>
    have hd := w.ticketed.weight_dispatch_le p (w.runnable label body)
    have hr := w.ticketed.renderer_dispatch (w.runnable label body)
    refine go _ (body.weight p + 3) ?_
    split
    · rw [hr]
      simp only [World.weight_ticketed, World.runnable, World.renderer_ticketed] at hd ⊢
      omega
    · simp only [World.weight_say, World.renderer_say]
      omega
  | enqueue label =>
    unfold perform
    dsimp only
    split
    · exact go _ _ (by simp only [World.weight_say, World.renderer_say]; omega)
    · rename_i q hq
      refine go _ (body.weight p + 3) ?_
      simp only [World.weight, hq, World.record, World.ticketed, World.runnable, Option.getD_some,
        CallQueue.push_calls, weigh_append, weigh_cons, weigh_nil]
      omega
  | install hook =>
    have h := stackWeight_install p w.renderer hook body below
    have k := Nat.mul_le_mul_right (body.weight p) passes
    refine go _ (p * body.weight p + 1) ?_
    show w.weight p + stackWeight p (w.renderer.install hook body) below < _
    omega

namespace World

variable (w : World) (p : Nat) (thread : Nat) (saved : Bool)

theorem remaining_draw_lt :
    (w.draw thread saved).remaining p < w.weight p + (w.renderer.onRender.weight p + 3) ∧
      (w.draw thread saved).world.renderer = w.renderer := by
  unfold draw
  split
  · exact ⟨by show w.weight p + 1 < _; omega, rfl⟩
  · exact ⟨by show w.weight p + (w.renderer.onRender.weight p + 1) < _; omega, rfl⟩

theorem remaining_load_lt (r : Reload) :
    (w.load thread saved r).remaining p < w.weight p + (w.renderer.weight p + 4) ∧
      (w.load thread saved r).world.renderer.SameHooks w.renderer := by
  have h : (w.renderer.reload r.resolution).SameHooks w.renderer := by
    unfold Renderer.reload
    split <;> exact ⟨rfl, rfl⟩
  unfold load
  split
  · exact ⟨by show w.weight p + 1 < _; omega, ⟨rfl, rfl⟩⟩
  · refine ⟨?_, h⟩
    show w.weight p + (w.renderer.onReload.weight p +
      ((w.renderer.reload r.resolution).onRender.weight p + 3)) < _
    rw [h.render, Renderer.weight]
    omega

theorem remaining_refresh_lt (a : Adapter) :
    (w.refresh thread saved a).remaining p < w.weight p + (w.renderer.weight p + 4) ∧
      (w.refresh thread saved a).world.renderer.SameHooks w.renderer := by
  unfold refresh
  dsimp only
  split
  · have h := remaining_draw_lt ((w.setAdapter (a.update w.renderer.resolution).2).recordAll
      ((a.update w.renderer.resolution).1.records.map .log)) p thread saved
    rw [weight_recordAll, renderer_recordAll, weight_setAdapter, renderer_setAdapter] at h
    refine ⟨Nat.lt_of_lt_of_le h.1 ?_, .of_eq h.2⟩
    rw [Renderer.weight]
    omega
  · rename_i r _
    have h := remaining_load_lt ((w.setAdapter (a.update w.renderer.resolution).2).recordAll
      ((a.update w.renderer.resolution).1.records.map .log)) p thread saved r
    rwa [weight_recordAll, renderer_recordAll, weight_setAdapter, renderer_setAdapter] at h

theorem remaining_endPass (rendered : Bool) :
    (w.endPass saved rendered).remaining p = w.weight p ∧
      (w.endPass saved rendered).world.renderer = w.renderer :=
  ⟨w.weight_leaveGate p saved, rfl⟩

theorem remaining_enterPass_lt :
    (w.enterPass thread).remaining p < w.weight p + (w.renderer.weight p + 6) ∧
      (w.enterPass thread).world.renderer = w.renderer := by
  unfold enterPass
  split
  · exact ⟨by show w.weight p + 0 < _; omega, rfl⟩
  · rename_i g hg
    dsimp only
    split
    · refine ⟨?_, renderer_drain ..⟩
      rw [remaining_drain]
      simp only [weight, record, hg, CallQueue.take, Option.getD_some, CallQueue.empty_calls, weigh_nil,
        stackWeight_cons, stackWeight_nil, Frame.weight]
      omega
    · exact ⟨by show w.weight p + 0 < _; omega, rfl⟩

end World

theorem Frame.remaining_advance_lt (f : Frame) (w : World) (answer : Answer) (p : Nat) (below : List Frame)
    (passes : below.countP Frame.isPass ≤ p) :
    (f.advance w answer).remaining p + stackWeight p (f.advance w answer).world.renderer below
      < w.weight p + (f.weight p w.renderer + stackWeight p w.renderer below) := by
  have light {m : Machine} {n : Nat} (h : m.remaining p < w.weight p + n)
      (k : m.world.renderer.SameHooks w.renderer) :
      m.remaining p + stackWeight p m.world.renderer below
        < w.weight p + (n + stackWeight p w.renderer below) := by
    rw [stackWeight_congr p k.reload k.render]
    omega
  have one (v : World) (hv : v.weight p = w.weight p) (hr : v.renderer.SameHooks w.renderer) :
      (Machine.proceed v []).remaining p < w.weight p + 1 ∧
        (Machine.proceed v []).world.renderer.SameHooks w.renderer :=
    ⟨by rw [Machine.remaining_proceed, stackWeight_nil]; omega, hr⟩
  cases f with
  | script thread rest =>
    cases rest with
    | done => exact light (one w rfl ⟨rfl, rfl⟩).1 ⟨rfl, rfl⟩
    | act op next =>
      have h := op.remaining_perform w thread next p
      exact light h.1 h.2
    | nest kind body next => exact kind.remaining_perform w thread body next p below passes
  | running ticket => exact light (one _ rfl ⟨rfl, rfl⟩).1 ⟨rfl, rfl⟩
  | catching => exact light (one w rfl ⟨rfl, rfl⟩).1 ⟨rfl, rfl⟩
  | joined => exact light (one w rfl ⟨rfl, rfl⟩).1 ⟨rfl, rfl⟩
  | batch thread activation rest count =>
    cases rest with
    | nil => exact light (one _ rfl ⟨rfl, rfl⟩).1 ⟨rfl, rfl⟩
    | cons r rest =>
      refine light (n := (weigh p (r :: rest) + 1)) ?_ ⟨rfl, rfl⟩
      simp only [advance, World.nextCall]
      rw [World.remaining_start]
      simp only [World.weight_record, stackWeight_cons, stackWeight_nil, Frame.weight, weigh_cons]
      omega
  | drained => cases answer <;> exact light (one _ rfl ⟨rfl, rfl⟩).1 ⟨rfl, rfl⟩
  | round thread activation queued ran =>
    simp only [advance, World.nextMain]
    split
    · rename_i r waiting _ hw
      refine light (n := 1) ?_ ⟨rfl, rfl⟩
      rw [World.remaining_start]
      simp only [World.weight, hw, World.record, stackWeight_cons, stackWeight_nil, Frame.weight, weigh_cons]
      omega
    · split <;> exact light (one _ rfl ⟨rfl, rfl⟩).1 ⟨rfl, rfl⟩
  | ranMain => cases answer <;> exact light (one _ rfl ⟨rfl, rfl⟩).1 ⟨rfl, rfl⟩
  | enter thread =>
    have h := w.remaining_enterPass_lt p thread
    exact light h.1 (.of_eq h.2)
  | pass thread saved phase =>
    cases phase with
    | target =>
      simp only [advance, World.readTarget]
      split
      · rename_i h _ _
        have k := (w.record (.targetRead w.renderer.hasTarget)).remaining_refresh_lt p thread saved h.adapter
        exact light k.1 k.2
      · have k := ((w.record (.targetRead w.renderer.hasTarget)).log .noRenderTarget).remaining_endPass p
          saved false
        refine light ?_ (.of_eq k.2)
        rw [k.1]
        show w.weight p < w.weight p + (w.renderer.weight p + 4)
        omega
    | loaded settings =>
      simp only [advance, World.finishLoad]
      split
      · rename_i h _
        have k := (w.setAdapter (h.adapter.loaded settings)).remaining_draw_lt p thread saved
        exact light k.1 (.of_eq k.2)
      · have k := w.remaining_draw_lt p thread saved
        exact light k.1 (.of_eq k.2)
    | presenting =>
      simp only [advance, World.present]
      split
      · rename_i error failures _
        have k := World.remaining_endPass ({ w with renderer := { w.renderer with failures } }.log
          (.frameFailed error)) p saved false
        refine light ?_ ⟨rfl, rfl⟩
        rw [k.1]
        exact Nat.lt_succ_self _
      · have k := (w.record .rendered).remaining_endPass p saved true
        refine light ?_ (.of_eq k.2)
        rw [k.1]
        exact Nat.lt_succ_self _
  | frameEnd =>
    simp only [advance, World.endFrame]
    split <;> split <;> exact light (one _ rfl ⟨rfl, rfl⟩).1 ⟨rfl, rfl⟩

theorem Frame.weight_pos (p : Nat) (r : Renderer) (f : Frame) : 0 < f.weight p r := by
  cases f with
  | script thread rest => exact rest.weight_pos p
  | pass thread saved phase => cases phase <;> exact Nat.succ_pos _
  | _ => exact Nat.succ_pos _

theorem Frame.remaining_unwind_lt (f : Frame) (w : World) (fault : Fault) (p : Nat) (below : List Frame) :
    (f.unwind w fault).remaining p + stackWeight p (f.unwind w fault).world.renderer below
      < w.weight p + (f.weight p w.renderer + stackWeight p w.renderer below) := by
  have h := f.weight_pos p w.renderer
  have light (m : Machine) (hw : m.remaining p = w.weight p) (hr : m.world.renderer = w.renderer) :
      m.remaining p + stackWeight p m.world.renderer below
        < w.weight p + (f.weight p w.renderer + stackWeight p w.renderer below) := by
    rw [hw, hr]
    omega
  cases f with
  | batch thread activation rest count =>
    exact light _ (w.weight_recordAll p _) (w.renderer_recordAll _)
  | pass thread saved phase => exact light _ (w.weight_leaveGate p saved) rfl
  | _ => exact light _ rfl rfl

namespace World

theorem passes_post (w : World) (g : Graphics) (thread : Nat) (r : Runnable) (below : List Frame) :
    (w.post g thread r below).stack.countP Frame.isPass = below.countP Frame.isPass := by
  unfold post
  dsimp only
  split <;> rfl

theorem passes_draw (w : World) (thread : Nat) (saved : Bool) :
    (w.draw thread saved).stack.countP Frame.isPass = 1 := by
  unfold draw
  split <;> rfl

theorem passes_load (w : World) (thread : Nat) (saved : Bool) (r : Reload) :
    (w.load thread saved r).stack.countP Frame.isPass = 1 := by
  unfold load
  split <;> rfl

end World

theorem Op.passes_perform (op : Op) (w : World) (thread : Nat) (next : Script) :
    (op.perform w thread next).stack.countP Frame.isPass = 0 := by
  cases op with
  | chain count handle =>
    unfold perform
    dsimp only
    split
    · exact World.passes_post ..
    · rfl
  | runMain =>
    unfold perform
    dsimp only
    split <;> rfl
  | drainQueue =>
    unfold perform
    dsimp only
    split <;> rfl
  | _ => rfl

theorem Nest.passes_perform (kind : Nest) (w : World) (thread : Nat) (body next : Script) :
    (kind.perform w thread body next).stack.countP Frame.isPass = 0 := by
  cases kind with
  | times count => cases count <;> rfl
  | push handle label =>
    unfold perform
    dsimp only
    split
    · rfl
    · exact World.passes_post ..
  | enqueue label =>
    unfold perform
    dsimp only
    split <;> rfl
  | _ => rfl

theorem Frame.passes_advance_le (f : Frame) (w : World) (answer : Answer) :
    (f.advance w answer).stack.countP isPass ≤ [f].countP isPass := by
  cases f with
  | script thread rest =>
    cases rest with
    | done => exact Nat.le_refl 0
    | act op next => exact Nat.le_of_eq (op.passes_perform w thread next)
    | nest kind body next => exact Nat.le_of_eq (kind.passes_perform w thread body next)
  | batch thread activation rest count => cases rest <;> exact Nat.le_refl 0
  | drained => cases answer <;> exact Nat.le_refl 0
  | round thread activation queued ran =>
    simp only [advance, World.nextMain]
    split <;> exact Nat.le_refl 0
  | ranMain => cases answer <;> exact Nat.le_refl 0
  | enter thread =>
    simp only [advance, World.enterPass]
    split
    · exact Nat.zero_le 1
    · split
      · exact Nat.le_refl 1
      · exact Nat.zero_le 1
  | pass thread saved phase =>
    cases phase with
    | target =>
      simp only [advance, World.readTarget]
      split
      · simp only [World.refresh]
        split
        · exact Nat.le_of_eq (World.passes_draw ..)
        · exact Nat.le_of_eq (World.passes_load ..)
      · exact Nat.zero_le 1
    | loaded settings =>
      simp only [advance, World.finishLoad]
      split <;> exact Nat.le_of_eq (World.passes_draw ..)
    | presenting =>
      simp only [advance, World.present]
      split <;> exact Nat.zero_le 1
  | frameEnd =>
    simp only [advance, World.endFrame]
    split <;> exact Nat.le_refl 0
  | _ => exact Nat.le_refl 0

theorem Frame.passes_unwind (f : Frame) (w : World) (fault : Fault) : (f.unwind w fault).stack = [] := by
  cases f <;> rfl

namespace Machine

theorem passes_step_le (m : Machine) : m.step.passes ≤ m.passes := by
  obtain ⟨w, fault, answer, stack⟩ := m
  cases stack with
  | nil => exact Nat.le_refl _
  | cons f below =>
    cases fault with
    | none =>
      have h := f.passes_advance_le w answer
      simp only [step, passes, List.countP_append, List.countP_cons, List.countP_nil] at h ⊢
      omega
    | some fault =>
      simp only [step, passes, f.passes_unwind, List.nil_append, List.countP_cons]
      omega

/-- The weight of a machine with a nonempty stack decreases with every step. -/
theorem weight_step_lt (m : Machine) (h : m.stack ≠ []) : m.step.weight < m.weight := by
  have hp := m.passes_step_le
  refine Nat.lt_of_le_of_lt (m := m.step.remaining m.passes) ?_ ?_
  · exact Nat.add_le_add (World.weight_mono hp _) (stackWeight_mono hp _ _)
  · obtain ⟨w, fault, answer, stack⟩ := m
    cases stack with
    | nil => exact absurd rfl h
    | cons f below =>
      have hb : below.countP Frame.isPass ≤ passes ⟨w, fault, answer, f :: below⟩ := by
        simp only [passes, List.countP_cons]
        omega
      rw [weight]
      generalize passes ⟨w, fault, answer, f :: below⟩ = p at hb
      cases fault with
      | none =>
        have k := f.remaining_advance_lt w answer p below hb
        simp only [step, remaining, stackWeight_append, stackWeight_cons] at k ⊢
        omega
      | some fault =>
        have k := f.remaining_unwind_lt w fault p below
        simp only [step, remaining, stackWeight_append, stackWeight_cons] at k ⊢
        omega

theorem runFor_stack (fuel : Nat) (m : Machine) (h : m.weight ≤ fuel) : (runFor fuel m).stack = [] := by
  induction fuel generalizing m with
  | zero =>
    cases hs : m.stack with
    | nil => exact hs
    | cons f below =>
      have := m.weight_step_lt (by simp [hs])
      omega
  | succ fuel ih =>
    unfold runFor
    split
    · assumption
    · rename_i hs
      have := m.weight_step_lt (by simp [hs])
      exact ih m.step (by omega)

theorem run_stack (m : Machine) : m.run.stack = [] := runFor_stack _ m (Nat.le_refl _)

end Machine

end FrameHost
