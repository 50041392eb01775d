import FrameHost.Proofs.Choices
import FrameHost.Proofs.History
import FrameHost.Proofs.Reloads

/-!
Renders that fail. The outcome of a render is visible only in the result of the pass, the events of the
renderer and the log record of a skipped frame; no later step depends on it.
-/
namespace FrameHost

/-- The event without the outcome of a render; none if it records only that. -/
def Event.unjudged? : Event → Option Event
  | rendered | log (.frameFailed _) | log .frameSkipped => none
  | passEnded (some _) => some (.passEnded (some true))
  | e => some e

def Event.isVerdict : Event → Bool
  | rendered | passEnded (some _) | log (.frameFailed _) | log .frameSkipped => true
  | _ => false

def unjudged (journal : List Event) : List Event := journal.filterMap Event.unjudged?

inductive Answer.UpToVerdicts : Answer → Answer → Prop where
  | same (a : Answer) : UpToVerdicts a a
  | flags (p q : Bool) : UpToVerdicts (.flag p) (.flag q)

/-- The worlds differ at most in the failures of the renderer and in the outcomes recorded. -/
structure World.UpToVerdicts (w v : World) : Prop where
  world : v = { w with
    journal := v.journal, renderer := { w.renderer with failures := v.renderer.failures } }
  journal : unjudged v.journal = unjudged w.journal

structure Strand.UpToVerdicts (σ τ : Strand) : Prop where
  fault : τ.fault = σ.fault
  answer : σ.answer.UpToVerdicts τ.answer
  stack : τ.stack = σ.stack

structure Machine.UpToVerdicts (m n : Machine) : Prop where
  world : m.world.UpToVerdicts n.world
  strand : m.strand.UpToVerdicts n.strand

structure System.UpToVerdicts (s d : System) : Prop where
  world : s.world.UpToVerdicts d.world
  strands : List.Forall₂ Strand.UpToVerdicts s.strands d.strands

def World.withFailures (w : World) (errors : List RenderError) : World :=
  { w with renderer := { w.renderer with failures := errors } }

def System.withFailures (s : System) (errors : List RenderError) :
    System := ⟨s.world.withFailures errors, s.strands⟩
def Machine.withFailures (m : Machine) (errors : List RenderError) :
    Machine := { m with world := m.world.withFailures errors }

/-- A run with its choices and moments, latest first, in which the failures of the renderer are replaced at
every moment. -/
inductive FailingRun (s : System) : List Choice → List (List RenderError) → List System → Prop where
  | here (errors : List RenderError) : FailingRun s [] [errors] [s.withFailures errors]
  | goes {x y : System} {choices : List Choice} {failureLists : List (List RenderError)} {earlier : List System}
      {c : Choice} (run : FailingRun s choices failureLists (x :: earlier)) (m : x.Takes c y)
      (errors : List RenderError) :
      FailingRun s (c :: choices) (errors :: failureLists) (y.withFailures errors :: x :: earlier)

theorem unjudged_append (es older : List Event) : unjudged (es ++ older) = unjudged es ++ unjudged older :=
  List.filterMap_append

theorem unjudged_silent {e : Event} (silent : e.unjudged? = none) (older : List Event) :
    unjudged (e :: older) = unjudged older := by
  rw [unjudged, List.filterMap_cons, silent]
  rfl

theorem unjudged_cons {e : Event} (fact : e.isVerdict = false) (older : List Event) :
    unjudged (e :: older) = e :: unjudged older := by
  have told : e.unjudged? = some e := by
    cases e with
    | passEnded rendered => cases rendered <;> first | rfl | cases fact
    | log r => cases r <;> first | rfl | cases fact
    | _ => first | rfl | cases fact
  rw [unjudged, List.filterMap_cons, told]
  rfl

theorem filter_unjudged {kind : Event → Bool} (factual : ∀ e, kind e = true → e.isVerdict = false)
    (journal : List Event) : (unjudged journal).filter kind = journal.filter kind := by
  have verdict {e : Event} (h : e.isVerdict = true) : ¬kind e = true := fun told => by
    simp [factual e told] at h
  induction journal with
  | nil => rfl
  | cons e older ih =>
    by_cases h : e.isVerdict = true
    · rw [List.filter_cons_of_neg (verdict h), ← ih]
      cases e with
      | passEnded rendered =>
        cases rendered with
        | none => cases h
        | some flag => exact List.filter_cons_of_neg (verdict (e := .passEnded (some true)) rfl)
      | log r => cases r <;> first | rfl | cases h
      | rendered => rfl
      | _ => cases h
    · rw [unjudged_cons (by simpa using h), List.filter_cons, List.filter_cons, ih]

namespace World.UpToVerdicts

variable {w v : World}

theorem refl (w : World) : w.UpToVerdicts w := ⟨rfl, rfl⟩

theorem withFailures (h : w.UpToVerdicts v) (errors other : List RenderError) :
    (w.withFailures errors).UpToVerdicts (v.withFailures other) := by
  refine ⟨?_, h.journal⟩
  rw [h.world]
  rfl

theorem since (h : w.UpToVerdicts v) : ∃ (u : World) (past other : Past), w = u.since past ∧ v = u.since other ∧
    unjudged other.events = unjudged past.events := by
  refine ⟨{ w with journal := [], renderer := { w.renderer with failures := [] } },
    ⟨w.journal, w.renderer.failures⟩, ⟨v.journal, v.renderer.failures⟩, ?_, ?_, h.journal⟩
  · simp [World.since]
  · rw [h.world]
    simp [World.since]

theorem filter (h : w.UpToVerdicts v) (kind : Event → Bool)
    (factual : ∀ e, kind e = true → e.isVerdict = false) :
    v.journal.filter kind = w.journal.filter kind := by
  rw [← filter_unjudged factual, h.journal, filter_unjudged factual]

end World.UpToVerdicts

namespace Machine

variable {m n : Machine}

theorem upToVerdicts_since (m : Machine) {past other : Past}
    (same : unjudged other.events = unjudged past.events) :
    (m.since past).UpToVerdicts (m.since other) := by
  refine ⟨⟨rfl, ?_⟩, ⟨rfl, .same _, rfl⟩⟩
  change unjudged (m.world.journal ++ other.events) = unjudged (m.world.journal ++ past.events)
  rw [unjudged_append, unjudged_append, same]

theorem UpToVerdicts.lay (h : m.UpToVerdicts n) (below : List Frame) :
    Machine.UpToVerdicts { m with stack := m.stack ++ below } { n with stack := n.stack ++ below } :=
  ⟨h.world, h.strand.fault, h.strand.answer, congrArg (· ++ below) h.strand.stack⟩

end Machine

section
variable {w v : World} {σ τ : Strand} {a b : Answer}

/-- A pass ends the same way, except for its result, whether or not the render fails. -/
theorem World.present_verdict (w : World) (saved : Bool) : ∃ rendered e, e.unjudged? = none ∧
    w.present saved = .answering
      { w.leaveGate saved with
        journal := .passEnded (some rendered) :: e :: w.journal
        renderer := { w.renderer with failures := w.renderer.failures.tail } } (.flag rendered) := by
  obtain ⟨journal, tickets, threads, graphics, handles, channel, standalone,
    ⟨hasTarget, resolution, sticky, failures, onReload, onRender⟩, desktop, host⟩ := w
  cases failures with
  | nil => exact ⟨true, .rendered, rfl, rfl⟩
  | cons error failures => exact ⟨false, .log (.frameFailed error), rfl, rfl⟩

theorem World.present_upToVerdicts (h : w.UpToVerdicts v) (saved : Bool) :
    (w.present saved).UpToVerdicts (v.present saved) := by
  obtain ⟨p, e, silent, left⟩ := w.present_verdict saved
  obtain ⟨q, d, mute, right⟩ := v.present_verdict saved
  rw [left, right]
  refine ⟨⟨?_, ?_⟩, rfl, .flags p q, rfl⟩
  · rw [h.world]
    rfl
  · change .passEnded (some true) :: unjudged (d :: v.journal) = .passEnded (some true) :: unjudged
      (e :: w.journal)
    rw [unjudged_silent silent, unjudged_silent mute, h.journal]

theorem World.endFrame_upToVerdicts (h : w.UpToVerdicts v) (a b : Answer) :
    (w.endFrame a).UpToVerdicts (v.endFrame b) := by
  -- The log record of a skipped frame is a verdict.
  have logged (u : World) (c : Answer) : u.UpToVerdicts
    (if c = .flag false then u.log .frameSkipped else u) := by
    split
    · exact ⟨rfl, rfl⟩
    · exact .refl u
  have told : World.UpToVerdicts (if a = .flag false then w.log .frameSkipped else w)
      (if b = .flag false then v.log .frameSkipped else v) := by
    have mine := logged w a
    have other := logged v b
    refine ⟨?_, by rw [other.journal, h.journal, mine.journal]⟩
    split <;> split <;> rw [h.world] <;> rfl
  have same : v.host = w.host := by rw [h.world]
  have hosts (u : World) (c : Answer) : (if c = .flag false then u.log .frameSkipped else u).host = u.host := by
    split <;> rfl
  unfold endFrame
  dsimp only
  rw [hosts, hosts, same]
  split
  · refine ⟨⟨?_, ?_⟩, rfl, .same _, rfl⟩
    · rw [told.world]
      rfl
    · exact (unjudged_cons rfl _).trans ((congrArg _ told.journal).trans (unjudged_cons rfl _).symm)
  · exact ⟨told, rfl, .same _, rfl⟩

/-- A step of a frame preserves equality up to verdicts. -/
theorem Frame.advance_upToVerdicts (f : Frame) (h : w.UpToVerdicts v) (k : a.UpToVerdicts b) :
    (f.advance w a).UpToVerdicts (f.advance v b) := by
  obtain ⟨u, past, other, rfl, rfl, same⟩ := h.since
  have alike (answer : Answer) (drawn : ∀ thread saved, f ≠ .pass thread saved .presenting) :
      (f.advance (u.since past) answer).UpToVerdicts (f.advance (u.since other) answer) := by
    rw [Frame.advance_since u past f answer (.inr drawn), Frame.advance_since u other f answer (.inr drawn)]
    exact Machine.upToVerdicts_since _ same
  have deaf (ignores : ∀ answer, f.advance (u.since other) answer = f.advance (u.since other) a)
      (drawn : ∀ thread saved, f ≠ .pass thread saved .presenting) :
      (f.advance (u.since past) a).UpToVerdicts (f.advance (u.since other) b) := by
    rw [ignores b]
    exact alike a drawn
  cases f with
  | drained =>
    cases k with
    | same a => exact alike a (by simp)
    | flags p q => exact ⟨h, rfl, .same _, rfl⟩
  | ranMain =>
    cases k with
    | same a => exact alike a (by simp)
    | flags p q => exact ⟨h, rfl, .same _, rfl⟩
  | frameEnd => exact World.endFrame_upToVerdicts h a b
  | pass thread saved phase =>
    cases phase with
    | presenting => exact World.present_upToVerdicts h saved
    | target => exact deaf (fun _ => rfl) (by simp)
    | loaded settings => exact deaf (fun _ => rfl) (by simp)
  | script thread rest => exact deaf (fun _ => by cases rest <;> rfl) (by simp)
  | _ => exact deaf (fun _ => rfl) (by simp)

theorem Strand.step_upToVerdicts (h : w.UpToVerdicts v) (k : σ.UpToVerdicts τ) :
    (σ.on w).step.UpToVerdicts (τ.on v).step := by
  obtain ⟨fault, a, stack⟩ := σ
  obtain ⟨fault', b, stack'⟩ := τ
  obtain ⟨raised, answers, frames⟩ := k
  obtain rfl : fault = fault' := raised.symm
  obtain rfl : stack = stack' := frames.symm
  cases stack with
  | nil => exact ⟨h, rfl, answers, rfl⟩
  | cons f below =>
    cases fault with
    | none => exact (f.advance_upToVerdicts h answers).lay below
    | some panic =>
      obtain ⟨u, past, other, rfl, rfl, same⟩ := h.since
      have unwound : (f.unwind (u.since past) panic).UpToVerdicts (f.unwind (u.since other) panic) := by
        rw [Frame.unwind_since, Frame.unwind_since]
        exact Machine.upToVerdicts_since _ same
      exact unwound.lay below

theorem Request.begin_upToVerdicts (h : w.UpToVerdicts v) (r : Request) (thread : Nat) :
    (r.begin w thread).UpToVerdicts (r.begin v thread) := by
  obtain ⟨u, past, other, rfl, rfl, same⟩ := h.since
  rw [Request.begin_since, Request.begin_since]
  exact Machine.upToVerdicts_since _ same

end

section
variable {s d t : System} {c : Choice}

theorem framesOf_upToVerdicts {k l : List Strand} (h : List.Forall₂ Strand.UpToVerdicts k l) :
    framesOf l = framesOf k := by
  induction h with
  | nil => rfl
  | cons first _ ih => rw [framesOf_cons, framesOf_cons, first.stack, ih]

theorem System.UpToVerdicts.withFailures (h : s.UpToVerdicts d) (errors other : List RenderError) :
    (s.withFailures errors).UpToVerdicts (d.withFailures other) :=
    ⟨h.world.withFailures errors other, h.strands⟩

theorem System.UpToVerdicts.takes (h : s.UpToVerdicts d) (m : s.Takes c t) :
    ∃ e, d.Takes c e ∧ t.UpToVerdicts e := by
  obtain ⟨v, strands⟩ := d
  obtain ⟨world, pairs⟩ := h
  cases m with
  | @takes w m before σ after place turn =>
    obtain ⟨early, τ, late, rfl, sooner, mine, later⟩ := forall₂_place pairs
    have others := framesOf_upToVerdicts (List.rel_append sooner later)
    suffices ∃ n, τ.Takes v (framesOf (early ++ late)) c.begins n ∧ m.UpToVerdicts n by
      obtain ⟨n, takes, upToVerdicts⟩ := this
      exact ⟨_, .takes early τ late (sooner.length_eq.symm.trans place) takes, upToVerdicts.world,
        List.rel_append sooner (.cons upToVerdicts.strand later)⟩
    generalize c.begins = begins at turn
    cases turn with
    | step => exact ⟨_, .step, Strand.step_upToVerdicts world mine⟩
    | begin r thread idle free =>
      exact ⟨_, .begin r thread (mine.stack.trans idle) (others ▸ free), r.begin_upToVerdicts world thread⟩

end

section
variable {s : System} {choices : List Choice} {failureLists : List (List RenderError)} {run : List System}

theorem Onward.failingRun {errors : List RenderError} (r : Onward (s.withFailures errors) run) :
    ∃ choices failureLists, FailingRun s choices failureLists run := by
  induction r with
  | here => exact ⟨[], [errors], .here errors⟩
  | goes r m ih =>
    obtain ⟨choices, failureLists, failingRun⟩ := ih
    obtain ⟨c, takes⟩ := m.takes
    exact ⟨c :: choices, _, failingRun.goes takes _⟩

/-- The same choices are possible with any other failures. -/
theorem FailingRun.other (r : FailingRun s choices failureLists run) {others : List (List RenderError)}
    (length : others.length = failureLists.length) :
    ∃ other, FailingRun s choices others other ∧ List.Forall₂ System.UpToVerdicts run other := by
  induction r generalizing others with
  | here errors =>
    obtain ⟨failureList, rfl⟩ := List.length_eq_one_iff.mp length
    have upToVerdicts : s.UpToVerdicts s := ⟨.refl _, List.forall₂_same.mpr fun σ _ => ⟨rfl, .same _, rfl⟩⟩
    exact ⟨_, .here failureList, .cons (upToVerdicts.withFailures errors failureList) .nil⟩
  | @goes x y choices failureLists earlier c r m errors ih =>
    cases others with
    | nil => simp at length
    | cons failureList others =>
      obtain ⟨run, failingRun, upToVerdicts⟩ := ih (Nat.succ.inj length)
      obtain ⟨d, before, now, past, rfl⟩ := List.forall₂_cons_left_iff.mp upToVerdicts
      obtain ⟨e, takes, next⟩ := now.takes m
      exact ⟨_, failingRun.goes takes failureList, .cons (next.withFailures errors failureList) upToVerdicts⟩

theorem FailingRun.length (r : FailingRun s choices failureLists run) :
    failureLists.length = choices.length + 1 := by
  induction r with
  | here => rfl
  | goes _ _ _ ih => rw [List.length_cons, List.length_cons, ih]

theorem FailingRun.unique {other : List System} (r : FailingRun s choices failureLists run)
    (q : FailingRun s choices failureLists other) :
    run = other := by
  induction r generalizing other with
  | here => cases q; rfl
  | goes _ m errors ih =>
    cases q with
    | goes q n =>
      obtain ⟨rfl, rfl⟩ := List.cons.inj (ih q)
      rw [m.unique n]

/-- With failures of the renderer chosen anew at every moment, the same choices are possible for any other
failures, and all moments agree up to the failures, the results of passes and the records of them. Hence
calls, reloads with their arguments and attempts to render are the same, in the same order. -/
theorem failed_renders_change_nothing_else (s : System) :
    (∀ errors run, Onward (s.withFailures errors) run →
    ∃ choices failureLists, FailingRun s choices failureLists run) ∧
    ∀ choices failureLists run, FailingRun s choices failureLists run →
      (∀ others, others.length = failureLists.length → ∃ other, FailingRun s choices others other) ∧
      ∀ others other, FailingRun s choices others other → List.Forall₂ (fun x y => x.UpToVerdicts y ∧
        ∀ kind, (∀ e, kind e = true → e.isVerdict = false) →
          y.world.journal.filter kind = x.world.journal.filter kind) run other := by
  refine ⟨fun errors run r => r.failingRun, fun choices failureLists run r => ⟨fun others length => ?_, ?_⟩⟩
  · obtain ⟨other, failingRun, _⟩ := r.other length
    exact ⟨other, failingRun⟩
  · intro others other q
    obtain ⟨same, failingRun, upToVerdicts⟩ := r.other (q.length.trans r.length.symm)
    obtain rfl := failingRun.unique q
    exact upToVerdicts.imp fun x y h => ⟨h, h.world.filter⟩

theorem FailingRun.alone_runFor {m : Machine} (k : Nat)
    (r : FailingRun s choices failureLists (m.alone :: run)) :
    ∃ failureLists run, FailingRun s (List.replicate k ⟨0, none⟩ ++ choices) failureLists
    ((m.runFor k).alone :: run) := by
  induction k generalizing m choices failureLists run with
  | zero => exact ⟨failureLists, run, r⟩
  | succ k ih =>
    have next : m.runFor (k + 1) = m.step.runFor k := by
      cases stack : m.stack with
      | nil =>
        have rest : m.step = m := by simp [Machine.step, stack]
        rw [rest]
        cases k <;> simp [Machine.runFor, stack]
      | cons => simp [Machine.runFor, stack]
    have turn : m.alone.Takes ⟨0, none⟩ m.step.alone := .takes [] m.strand [] rfl .step
    obtain ⟨failureLists, run, failingRun⟩ := ih (r.goes turn m.step.world.renderer.failures)
    refine ⟨failureLists, run, ?_⟩
    rw [next, List.replicate_succ', List.append_assoc]
    exact failingRun

theorem failed_renders_change_nothing_else_sample :
    ∃ choices failureLists others x y run other,
      FailingRun Machine.sampleRender.alone choices failureLists (x :: run) ∧
      FailingRun Machine.sampleRender.alone choices others (y :: other) ∧
      x.world.journal.head? = some (.passEnded (some true)) ∧
      y.world.journal.head? = some (.passEnded (some false)) ∧ x.UpToVerdicts y ∧
      y.world.journal.filter Event.isReload = x.world.journal.filter Event.isReload ∧
      (x.world.journal.filter Event.isReload).length = 1 ∧
      ∃ choices failureLists, FailingRun Machine.sampleRender.alone choices failureLists
      [Machine.sampleRender.alone.withFailures []] := by
  let fine := Machine.sampleRender.withFailures []
  let failing := Machine.sampleRender.withFailures [.surfaceLost "gone"]
  obtain ⟨failureLists, run, draws⟩ := FailingRun.alone_runFor (m := fine) 10
    (.here (s := Machine.sampleRender.alone) [])
  obtain ⟨others, other, fails⟩ := FailingRun.alone_runFor (m := failing) 10
    (.here (s := Machine.sampleRender.alone) [.surfaceLost "gone"])
  obtain ⟨unchanging, failingRun⟩ := failed_renders_change_nothing_else Machine.sampleRender.alone
  have course := (failingRun _ _ _ draws).2 _ _ fails
  obtain ⟨upToVerdicts, same⟩ := (List.forall₂_cons.mp course).1
  have reloads := same Event.isReload (by intro e told; cases e <;> first | rfl | cases told)
  exact ⟨_, failureLists, others, _, _, run, other, draws, fails, by decide, by decide, upToVerdicts,
    reloads, by decide, unchanging [] _ .here⟩

end

end FrameHost
