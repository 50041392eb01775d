import Mathlib.Data.List.Forall2
import FrameHost.Proofs.History
import FrameHost.Proofs.PassCourse

/-!
Pushes inside a pass. Where the graphics thread pushes through a live handle, running the runnable on the
spot gives the same states and the same events, except for the submissions.
-/
namespace FrameHost

structure Push where
  world : World
  call : Runnable
  next : Script

def Script.push? (w : World) : Script → Option Push
  | .nest (.push handle label) body next =>
      (w.handle? handle).map fun _ => ⟨w, w.runnable label body, next⟩
  | .act (.chain (count + 1) handle) next =>
      (w.handle? handle).map fun _ =>
        ⟨w.say s!"chain {count + 1}", w.runnable none (.act (.chain count handle) .done), next⟩
  | _ => none

def Frame.push? (w : World) : Frame → Option (Nat × Push)
  | .script thread rest => (rest.push? w).map fun p => (thread, p)
  | _ => none

/-- The step of a frame in which pushes of the graphics thread run at once without a submission. -/
def Frame.direct (graphics : Nat) (f : Frame) (w : World) (answer : Answer) : Machine :=
  match f.push? w with
  | some (thread, p) =>
      if thread = graphics then p.world.ticketed.start thread p.call [.script thread p.next]
      else f.advance w answer
  | none => f.advance w answer

def Machine.direct (graphics : Nat) (m : Machine) : Machine :=
  match m.fault, m.stack with
  | none, f :: below =>
      let n := f.direct graphics m.world m.answer
      { n with stack := n.stack ++ below }
  | _, _ => m.step

inductive DirectTurn (graphics : Nat) (w : World) (others : List Frame) (σ : Strand) : Machine → Prop where
  | step : DirectTurn graphics w others σ ((σ.on w).direct graphics)
  | begin (r : Request) (thread : Nat) (idle : σ.stack = [])
      (free : r.needsHost = true → ∀ f ∈ others, f.holdsHost = false) :
      DirectTurn graphics w others σ (r.begin w thread)

/-- A move of a system in which the graphics thread runs its pushes directly. -/
inductive DirectMove (graphics : Nat) : System → System → Prop where
  | turn {w : World} {m : Machine} (before : List Strand) (σ : Strand) (after : List Strand)
      (h : DirectTurn graphics w (framesOf (before ++ after)) σ m) :
      DirectMove graphics ⟨w, before ++ σ :: after⟩ ⟨m.world, before ++ m.strand :: after⟩

/-- The moments of a run inside a pass, latest first. The last move may end the pass. -/
inductive Inside (move : System → System → Prop) (thread : Nat) (s : System) : List System → Prop where
  | here : Inside move thread s [s]
  | goes {x y : System} {earlier : List System} (p : Inside move thread s (x :: earlier))
      (opened : openPass x.world.journal = some thread) (m : move x y) :
      Inside move thread s (y :: x :: earlier)

def Event.isHandOver : Event → Bool
  | submitted .graphics _ => true
  | _ => false

def effects (journal : List Event) : List Event := journal.filter fun e => !e.isHandOver

structure World.Alike (w v : World) : Prop where
  world : v = { w with journal := v.journal }
  effects : effects v.journal = effects w.journal

structure System.Alike (s d : System) : Prop where
  strands : d.strands = s.strands
  world : s.world.Alike d.world

structure Machine.Alike (m n : Machine) : Prop where
  strand : n.strand = m.strand
  world : m.world.Alike n.world

theorem effects_append (es older : List Event) : effects (es ++ older) = effects es ++ effects older :=
  List.filter_append ..

theorem openPass_effects (journal : List Event) : openPass (effects journal) = openPass journal := by
  induction journal with
  | nil => rfl
  | cons e older ih =>
    cases e with
    | submitted line ticket => cases line <;> exact ih
    | passBegan | passEnded => rfl
    | _ => exact ih

theorem World.Alike.openPass {w v : World} (h : w.Alike v) : openPass v.journal = openPass w.journal := by
  rw [← openPass_effects, h.effects, openPass_effects]

theorem World.Alike.graphics {w v : World} (h : w.Alike v) : v.graphics = w.graphics := by rw [h.world]

theorem World.Alike.since {w v : World} (h : w.Alike v) :
    ∃ (u : World) (past other : List Event), w = u.since ⟨past, []⟩ ∧ v = u.since ⟨other, []⟩ ∧
      FrameHost.effects other = FrameHost.effects past :=
  ⟨{ w with journal := [] }, w.journal, v.journal, rfl, h.world, h.effects⟩

theorem Machine.alike_since (m : Machine) {past other : List Event} (same : effects other = effects past) :
    (m.since ⟨past, []⟩).Alike (m.since ⟨other, []⟩) := by
  refine ⟨rfl, rfl, ?_⟩
  change effects (m.world.journal ++ other) = effects (m.world.journal ++ past)
  rw [effects_append, effects_append, same]

theorem Machine.Alike.refl (m : Machine) : m.Alike m := ⟨rfl, rfl, rfl⟩

theorem Machine.Alike.trans {k m n : Machine} (h : k.Alike m) (l : m.Alike n) : k.Alike n := by
  refine ⟨l.strand.trans h.strand, ?_, l.world.effects.trans h.world.effects⟩
  rw [l.world.world, h.world.world]

theorem Machine.Alike.lay {m n : Machine} (h : m.Alike n) (below : List Frame) :
    Machine.Alike { m with stack := m.stack ++ below } { n with stack := n.stack ++ below } := by
  obtain ⟨strand, world⟩ := h
  simp only [Machine.strand, Strand.mk.injEq] at strand
  obtain ⟨fault, answer, stack⟩ := strand
  exact ⟨by simp only [Machine.strand, fault, answer, stack], world⟩

theorem Frame.push?_post {w : World} {f : Frame} {thread : Nat} {p : Push}
    (h : f.push? w = some (thread, p)) (answer : Answer) :
    ∃ g, p.world.graphics = some g ∧ w.graphics = some g ∧
      f.advance w answer = p.world.ticketed.post g thread p.call [.script thread p.next] := by
  cases f with
  | script t rest =>
    simp only [push?, Option.map_eq_some_iff, Prod.mk.injEq] at h
    obtain ⟨p, h, rfl, rfl⟩ := h
    cases rest with
    | done => cases h
    | act op next =>
      cases op with
      | chain count handle =>
        cases count with
        | zero => cases h
        | succ count =>
          obtain ⟨g, live, rfl⟩ := Option.map_eq_some_iff.mp h
          refine ⟨g, w.handle?_graphics live, w.handle?_graphics live, ?_⟩
          have still : (w.say s!"chain {count + 1}").handle? handle = some g := live
          simp only [advance, Op.perform, still]
          rfl
      | _ => cases h
    | nest kind body next =>
      cases kind with
      | push handle label =>
        obtain ⟨g, live, rfl⟩ := Option.map_eq_some_iff.mp h
        refine ⟨g, w.handle?_graphics live, w.handle?_graphics live, ?_⟩
        simp only [advance, Nest.perform, live]
      | _ => cases h
  | _ => cases h

theorem Frame.advance_alike_direct {w : World} {thread : Nat}
    (allowed : ∀ g, w.graphics = some g → g.allows thread = true) (f : Frame) (answer : Answer) :
    (f.advance w answer).Alike (f.direct thread w answer) := by
  unfold direct
  cases h : f.push? w with
  | none => exact .refl _
  | some found =>
    obtain ⟨t, p⟩ := found
    by_cases own : t = thread
    · subst own
      obtain ⟨g, _, shared, posts⟩ := Frame.push?_post h answer
      simp only [if_true, posts, World.post, allowed g shared]
      exact ⟨rfl, rfl, rfl⟩
    · simp only [own, if_false]
      exact .refl _

/-- On a thread with graphics allowed, a step equals the direct step up to the submission. -/
theorem Machine.step_alike_direct {m : Machine} {thread : Nat}
    (allowed : ∀ g, m.world.graphics = some g → g.allows thread = true) :
    m.step.Alike (m.direct thread) := by
  unfold direct
  split
  · rename_i f below calm stack
    simp only [step, calm, stack]
    exact (f.advance_alike_direct allowed m.answer).lay below
  · exact .refl _

theorem Strand.step_alike {w v : World} (h : w.Alike v) (σ : Strand) :
    (σ.on w).step.Alike (σ.on v).step := by
  obtain ⟨u, past, other, rfl, rfl, same⟩ := h.since
  rw [Strand.step_since _ _ σ (.inl rfl), Strand.step_since _ _ σ (.inl rfl)]
  exact Machine.alike_since _ same

theorem Strand.step_alike_direct {w v : World} (h : w.Alike v) {thread : Nat}
    (allowed : ∀ g, w.graphics = some g → g.allows thread = true) (σ : Strand) :
    (σ.on w).step.Alike ((σ.on v).direct thread) := by
  have there : ∀ g, (σ.on v).world.graphics = some g → g.allows thread = true := h.graphics ▸ allowed
  exact (σ.step_alike h).trans (Machine.step_alike_direct there)

theorem Request.begin_alike {w v : World} (h : w.Alike v) (r : Request) (thread : Nat) :
    (r.begin w thread).Alike (r.begin v thread) := by
  obtain ⟨u, past, other, rfl, rfl, same⟩ := h.since
  rw [Request.begin_since, Request.begin_since]
  exact Machine.alike_since _ same

variable {b : AdapterOptions} {s t d : System} {thread : Nat}

theorem Reachable.allowed (h : Reachable b s) (opened : openPass s.world.journal = some thread) :
    ∀ g, s.world.graphics = some g → g.allows thread = true := by
  intro g shared
  refine (h.allows_iff shared thread).mpr ⟨?_, (h.inPass_iff thread).mpr opened⟩
  rw [h.gated.owner g shared, h.gated.bound thread opened]

theorem Reachable.hostless {w : World} {before after : List Strand} {σ : Strand}
    (h : Reachable b ⟨w, before ++ σ :: after⟩) (opened : openPass w.journal = some thread)
    (idle : σ.stack = []) {r : Request}
    (free : r.needsHost = true → ∀ f ∈ framesOf (before ++ after), f.holdsHost = false) :
    r.needsHost = false := by
  -- The strand is idle, so the pass that goes on belongs to another.
  obtain ⟨saved, phase, mem⟩ := (h.inPass_iff thread).mpr opened
  have other : Frame.pass thread saved phase ∈ framesOf (before ++ after) := by
    have swapped := (frames_swap before after σ).mem_iff.mp mem
    simpa [idle] using swapped
  cases needs : r.needsHost with
  | false => rfl
  | true => cases free needs _ other

theorem System.Alike.simulate (same : s.Alike d) (h : Reachable b s)
    (opened : openPass s.world.journal = some thread) (m : Move s t) :
    ∃ e, DirectMove thread d e ∧ t.Alike e := by
  obtain ⟨v, strands⟩ := d
  obtain ⟨rfl, world⟩ := same
  cases m with
  | @turn w m before σ after turn =>
    suffices ∃ n, DirectTurn thread v (framesOf (before ++ after)) σ n ∧ m.Alike n by
      obtain ⟨n, direct, alike⟩ := this
      exact ⟨_, .turn before σ after direct, by rw [alike.strand], alike.world⟩
    cases turn with
    | step => exact ⟨_, .step, σ.step_alike_direct world (h.allowed opened)⟩
    | begin r t idle free =>
      exact ⟨_, .begin r t idle free, r.begin_alike world t⟩

theorem System.Alike.simulated {e : System} (same : s.Alike d) (h : Reachable b s)
    (opened : openPass s.world.journal = some thread) (m : DirectMove thread d e) :
    ∃ t, Move s t ∧ t.Alike e := by
  obtain ⟨w, strands⟩ := s
  obtain ⟨eq, world⟩ := same
  cases m with
  | @turn v n before σ after turn =>
    obtain rfl : before ++ σ :: after = strands := eq
    suffices ∃ m, Turn w (framesOf (before ++ after)) σ m ∧ m.Alike n by
      obtain ⟨m, real, alike⟩ := this
      exact ⟨_, .turn before σ after real, by rw [alike.strand], alike.world⟩
    cases turn with
    | step => exact ⟨_, .step, σ.step_alike_direct world (h.allowed opened)⟩
    | begin r t idle free =>
      exact ⟨_, .begin r t idle free, r.begin_alike world t⟩

theorem Inside.reachable {moments : List System} (p : Inside Move thread s (t :: moments))
    (h : Reachable b s) : Reachable b t := by
  generalize same : t :: moments = run at p
  induction p generalizing t moments with
  | here => cases same; exact h
  | goes _ _ m ih => cases same; exact (ih rfl).move m

/-- Every run inside a pass has a direct run that agrees with it at every moment. -/
theorem Inside.simulate {run : List System} (p : Inside Move thread s run) (h : Reachable b s) :
    ∃ direct, Inside (DirectMove thread) thread s direct ∧ List.Forall₂ System.Alike run direct := by
  induction p with
  | here => exact ⟨[s], .here, .cons ⟨rfl, rfl, rfl⟩ .nil⟩
  | goes p opened m ih =>
    obtain ⟨direct, q, alike⟩ := ih
    cases alike with
    | @cons x d earlier before same rest =>
      obtain ⟨e, move, next⟩ := same.simulate (p.reachable h) opened m
      exact ⟨e :: d :: before, q.goes (same.world.openPass.trans opened) move,
        .cons next (.cons same rest)⟩

theorem Inside.simulated {direct : List System} (q : Inside (DirectMove thread) thread s direct)
    (h : Reachable b s) :
    ∃ run, Inside Move thread s run ∧ List.Forall₂ System.Alike run direct := by
  induction q with
  | here => exact ⟨[s], .here, .cons ⟨rfl, rfl, rfl⟩ .nil⟩
  | goes q opened m ih =>
    obtain ⟨run, p, alike⟩ := ih
    cases alike with
    | @cons x d earlier before same rest =>
      have real : openPass x.world.journal = some thread := same.world.openPass.symm.trans opened
      obtain ⟨t, move, next⟩ := same.simulated (p.reachable h) real m
      exact ⟨t :: x :: earlier, p.goes real move, .cons next (.cons same rest)⟩

end FrameHost
