import FrameHost.Proofs.OmittedPasses
import FrameHost.Proofs.Transparency

/-!
Frames skipped because the renderer has no target. They neither reload nor draw, keep all requests to the
adapter, and have no effect on later turns.
-/
namespace FrameHost

def Event.isDrawing : Event → Bool
  | reloaded .. | renderCalled | rendered | passEnded (some true) => true
  | _ => false

structure NothingDrawn (s t : System) (es : List Event) : Prop where
  undrawn : ∀ e ∈ es, e.isDrawing = false
  adapter : t.world.adapter? = s.world.adapter? ∨ t.world.adapter? = none
  waits : ∀ thread saved phase, .pass thread saved phase ∈ t.frames → phase = .target

theorem Event.isDrawing_of_isChore {e : Event} (h : e.isChore = true) : e.isDrawing = false := by
  cases e <;> first | rfl | cases h

theorem AdapterMove.nothingDrawn {w : World} {others popped : List Frame} {fault : Option Fault} {n : Machine}
    {ds : List Event} (m : AdapterMove w others fault popped n) (news : n.world.journal = ds ++ w.journal)
    (unasked : ∀ r, .requested r ∉ ds) (missed : .targetRead true ∉ ds)
    (waits : ∀ thread saved phase, popped = [.pass thread saved phase] → phase = .target) :
    (∀ e ∈ ds, e.isDrawing = false) ∧ (n.world.adapter? = w.adapter? ∨ n.world.adapter? = none) ∧
      ∀ thread saved phase, .pass thread saved phase ∈ n.stack → phase = .target := by
  have same (es : List Event) (journal : n.world.journal = es ++ w.journal) : es = ds :=
    List.append_cancel_right (journal.symm.trans news)
  have chores {es : List Event} (h : ∀ e ∈ es, e.isChore = true) : ∀ e ∈ es, e.isDrawing = false :=
    fun e he => Event.isDrawing_of_isChore (h e he)
  cases m with
  | aside added adapter unguarded =>
    obtain ⟨es, journal, nothingDrawn⟩ := added
    obtain rfl := same _ journal
    refine ⟨chores nothingDrawn, .inl adapter, fun thread saved phase mem => ?_⟩
    have guarded := mem_guards.mpr ⟨phase, mem⟩
    rw [unguarded] at guarded
    cases guarded
  | departs added gone empty =>
    obtain ⟨es, journal, nothingDrawn⟩ := added
    obtain rfl := same _ journal
    exact ⟨chores nothingDrawn, .inr gone, by simp [empty]⟩
  | asks r before after =>
    obtain ⟨es, early, _⟩ := before
    obtain ⟨fs, late, _⟩ := after
    obtain rfl := same (fs ++ .requested r :: es) (by rw [late, World.record, early]; simp)
    exact absurd (by simp) (unasked r)
  | @begins _ _ thread _ _ _ added adapter laid =>
    obtain ⟨es, journal, nothingDrawn⟩ := added
    obtain rfl := same (es ++ [.passBegan thread]) (by rw [journal, World.record]; simp)
    refine ⟨fun e he => ?_, .inl adapter, by simp [laid]⟩
    rcases List.mem_append.mp he with chore | began
    · exact chores nothingDrawn e chore
    · rw [List.mem_singleton.mp began]
      rfl
  | misses journal adapter empty =>
    obtain rfl := same ([_, _, _]) journal
    exact ⟨by simp [Event.isDrawing], .inl adapter, by simp [empty]⟩
  | @draws _ _ _ _ logs _ _ _ _ journal =>
    obtain rfl := same (.renderCalled :: (logs ++ [.targetRead true])) (by rw [journal]; simp)
    exact absurd (by simp) missed
  | @loads _ _ _ _ logs r _ _ _ _ journal =>
    obtain rfl := same (.reloaded r.settings r.resolution :: (logs ++ [.targetRead true]))
      (by rw [journal]; simp)
    exact absurd (by simp) missed
  | returns => cases waits _ _ _ rfl
  | presents => cases waits _ _ _ rfl
  | aborts journal adapter empty =>
    obtain rfl := same ([_]) journal
    exact ⟨by simp [Event.isDrawing], .inl adapter, by simp [empty]⟩

section
variable {b : AdapterOptions} {s x t : System} {es ds : List Event} {thread : Nat} {earlier : List System}

theorem NothingDrawn.goes (d : NothingDrawn s x es) (h : Reachable b x) (m : Move x t)
    (news : t.world.journal = ds ++ x.world.journal) (unasked : ∀ r, .requested r ∉ ds)
    (missed : .targetRead true ∉ ds) : NothingDrawn s t (ds ++ es) := by
  obtain ⟨σ, popped, below, others, n, act⟩ := m.act
  rw [act.world] at news
  obtain ⟨undrawn, adapter, laid⟩ := (act.effect.adapterMove
    (h.gated.perm act.before)).nothingDrawn news unasked missed
    fun thread saved phase top => d.waits thread saved phase (act.before.mem_iff.mpr (by simp [top]))
  refine ⟨fun e he => ?_, ?_, fun thread saved phase mem => ?_⟩
  · rcases List.mem_append.mp he with new | old
    · exact undrawn e new
    · exact d.undrawn e old
  · rw [act.world]
    rcases adapter with kept | gone
    · rw [kept]
      exact d.adapter
    · exact .inr gone
  · rcases List.mem_append.mp (act.after.mem_iff.mp mem) with top | rest
    · exact laid thread saved phase top
    · exact d.waits thread saved phase (act.before.mem_iff.mpr (List.mem_append_right _ rest))

theorem Onward.grows (run : Onward s (t :: earlier)) : ∃ es, t.world.journal = es ++ s.world.journal := by
  generalize moments : t :: earlier = l at run
  induction run generalizing t earlier with
  | here =>
    cases moments
    exact ⟨[], rfl⟩
  | goes _ m ih =>
    cases moments
    obtain ⟨es, old⟩ := ih rfl
    obtain ⟨ds, new⟩ := m.grows
    exact ⟨ds ++ es, by rw [new, old, List.append_assoc]⟩

/-- Any number of passes without a target draws nothing. -/
theorem Onward.nothingDrawn (run : Onward s (t :: earlier)) (h : Reachable b s)
    (closed : openPass s.world.journal = none)
    (news : t.world.journal = es ++ s.world.journal) (unasked : ∀ r, .requested r ∉ es)
    (missed : .targetRead true ∉ es) : NothingDrawn s t es := by
  generalize moments : t :: earlier = l at run
  induction run generalizing t earlier es with
  | here =>
    cases moments
    obtain rfl : es = [] := List.append_left_eq_self.mp news.symm
    refine ⟨by simp, .inl rfl, fun thread saved phase mem => ?_⟩
    have opened := ((h.gated.passes thread saved).mp (mem_guards.mpr ⟨phase, mem⟩)).1
    rw [closed] at opened
    cases opened
  | @goes x y earlier run m ih =>
    cases moments
    obtain ⟨fs, old⟩ := run.grows
    obtain ⟨ds, new⟩ := m.grows
    obtain rfl : es = ds ++ fs := by
      rw [new, old, ← List.append_assoc] at news
      exact (List.append_cancel_right news).symm
    have before : NothingDrawn s x fs := ih old (fun r mem => unasked r (List.mem_append_right _ mem))
      (fun mem => missed (List.mem_append_right _ mem)) rfl
    exact before.goes (run.reachable h) m new (fun r mem => unasked r (List.mem_append_left _ mem))
      fun mem => missed (List.mem_append_left _ mem)

theorem captured_later {older : List Event} {first : Nat} (owner : captured older = some first)
    (es : List Event) : captured (es ++ older) = some first := by
  induction es with
  | nil => exact owner
  | cons e es ih =>
    cases e with
    | passBegan t => simp [captured, ih]
    | _ => exact ih

theorem Reachable.context (h : Reachable b s) (k : Reachable b t)
    (news : t.world.journal = es ++ s.world.journal)
    (was : s.world.host.isSome = true) (is : t.world.host.isSome = true)
    (closed : openPass s.world.journal = none) (left : openPass t.world.journal = none) :
    ∃ g q, s.world.graphics = some g ∧ t.world.graphics = some ⟨⟨captured t.world.journal⟩, g.gate, q⟩ ∧
      ∀ first, g.affinity.owner = some first → captured t.world.journal = some first := by
  obtain ⟨g, shared⟩ := Option.isSome_iff_exists.mp (h.gated.shared was)
  obtain ⟨⟨⟨owner⟩, ⟨allowed⟩, q⟩, present⟩ := Option.isSome_iff_exists.mp (k.gated.shared is)
  have gate : g.gate = ⟨allowed⟩ := by
    have early := h.gated.gate g shared
    have late : allowed = _ := k.gated.gate _ present
    rw [closed] at early
    rw [left] at late
    obtain ⟨⟨_⟩, ⟨_⟩, _⟩ := g
    exact congrArg Gate.mk (early.trans late.symm)
  have owns : owner = captured t.world.journal := k.gated.owner _ present
  refine ⟨g, q, shared, by rw [present, gate, owns], fun first mine => ?_⟩
  rw [news]
  exact captured_later ((h.gated.owner g shared).symm.trans mine) es

structure Skipped (s t : System) (thread : Nat) (es : List Event) : Prop where
  told : story (s.world.waiting .graphics) es = ran thread (s.world.waiting .graphics) ++ [.targetRead false]
  adapter : t.world.adapter? = s.world.adapter?
  context : ∃ g q, s.world.graphics = some g ∧ t.world.graphics = some ⟨g.affinity.bind thread, g.gate, q⟩

theorem Passing.skipped (p : Passing s thread (x :: earlier)) (h : Reachable b s) (m : Move x t)
    (closed : FrameHost.openPass t.world.journal = none) :
    ∃ result es, t.world.journal = .passEnded result :: (es ++ .passBegan thread :: s.world.journal) ∧
      x.Leaves t thread result ∧ ∀ flag, result = some flag → .targetRead true ∉ es →
        flag = false ∧ Skipped s t thread es := by
  obtain ⟨a, result, es, now, adapter, ending⟩ := p.ending h m closed
  refine ⟨result, es, ending.journal, ending.leaves, ?_⟩
  rintro flag rfl missed
  cases ending.outcome with
  | drawn _ _ _ _ _ told => exact absurd (mem_of_told told (by simp)) missed
  | untargeted _ told =>
    refine ⟨rfl, told, ending.adapter.trans adapter.symm, ?_⟩
    have hosted {w : World} {now : Adapter} (here : w.host.map Host.adapter = some now) :
      w.host.isSome = true := by
      cases host : w.host with
      | none => simp [host] at here
      | some _ => rfl
    have later := (p.latest h).move m
    have news : t.world.journal
        = .passEnded (some false) :: (es ++ [.passBegan thread]) ++ s.world.journal := by
      rw [ending.journal]
      simp
    obtain ⟨g, q, shared, present, kept⟩ :=
      h.context later news (hosted adapter) (hosted ending.adapter) p.closed closed
    have owner : captured t.world.journal = some thread :=
      m.captured_kept (p.latest h) ((p.latest h).gated.bound thread p.openPass)
    have bound : g.affinity.bind thread = ⟨some thread⟩ := by
      cases first : g.affinity.owner with
      | none => simp [Affinity.bind, first]
      | some other =>
        obtain rfl : other = thread := Option.some.inj ((kept other first).symm.trans owner)
        simp [Affinity.bind, first]
    refine ⟨g, q, shared, ?_⟩
    rw [present, owner, bound]

theorem PassPushes.left {calls : List Runnable} (j : PassPushes s thread (x :: earlier) calls)
    (h : Reachable b s)
    (m : Move x t) (closed : FrameHost.openPass t.world.journal = none) :
    t.world.waiting .graphics = calls := by
  obtain ⟨p, waiting⟩ := j.waiting h
  obtain ⟨push, pushes⟩ := m.pushes
  rw [pushes.waiting (p.latest h) p.openPass, pushes.foreign_last (p.latest h) p.openPass closed, waiting,
    List.append_nil]

/-- While the adapter gets no request and no pass finds a target, the renderer neither reloads nor draws, no
pass returns `true`, and the adapter is unchanged. A pass without a target that returns, returns `false`; it
has run the waiting calls, and the queue holds the calls pushed meanwhile by other threads. Passes on the
graphics thread that find neither calls nor a target can be left out: all other turns are possible without
them and write the same events up to tickets. -/
theorem skipped_frames_are_invisible (h : Reachable b s) :
    (∀ t earlier es, Onward s (t :: earlier) → openPass s.world.journal = none →
      t.world.journal = es ++ s.world.journal → (∀ r, .requested r ∉ es) → .targetRead true ∉ es →
        (∀ e ∈ es, e.isDrawing = false) ∧
          (t.world.host.isSome = true → t.world.adapter? = s.world.adapter?)) ∧
    (∀ thread x earlier t, Passing s thread (x :: earlier) → Move x t → openPass t.world.journal = none →
      ∃ result es, t.world.journal = .passEnded result :: (es ++ .passBegan thread :: s.world.journal) ∧
        x.Leaves t thread result ∧ ∀ flag, result = some flag → .targetRead true ∉ es →
          flag = false ∧ Skipped s t thread es ∧
            ∀ calls, PassPushes s thread (x :: earlier) calls → t.world.waiting .graphics = calls) ∧
    ∀ out choices told x, OmittingRun s out choices told x →
      ∃ γ others y, Chosen s choices others y ∧ x.Beside out γ y ∧
        others.map (List.map Event.nameless) = told.map (List.map Event.nameless) ∧
        y.world.journal.filter Event.isReload = x.world.journal.filter Event.isReload := by
  refine ⟨?_, ?_, fun out choices told x spared => spared.beside h⟩
  · intro t earlier es run closed news unasked missed
    have nothingDrawn := run.nothingDrawn h closed news unasked missed
    refine ⟨nothingDrawn.undrawn, fun hosted => nothingDrawn.adapter.resolve_right fun gone => ?_⟩
    simp [World.adapter?, Option.isSome_iff_ne_none.mp hosted] at gone
  · intro thread x earlier t p m closed
    obtain ⟨result, es, journal, leaves, skipped⟩ := p.skipped h m closed
    refine ⟨result, es, journal, leaves, fun flag returned missed => ?_⟩
    obtain ⟨isFalse, skip⟩ := skipped flag returned missed
    exact ⟨isFalse, skip, fun calls joined => joined.left h m closed⟩

end

def Machine.sampleAbsent : Machine :=
  let drawn := Request.render.carryOut Machine.sample.world 0
  (Request.act (.act (.setTarget false) .done)).carryOut drawn.world 0

def Machine.sampleSkipped : Machine :=
  let pushed := (Request.push none .done).carryOut Machine.sampleAbsent.world 5
  Request.render.begin pushed.world 0

theorem reachable_sampleAbsent : Reachable .standard Machine.sampleAbsent.alone :=
  (reachable_sample.alone_carryOut rfl .render 0).alone_carryOut (by decide) _ 0

theorem reachable_sampleSkipped : Reachable .standard Machine.sampleSkipped.alone :=
  (reachable_sampleAbsent.alone_carryOut (by decide) (.push none .done) 5).alone_begin (by decide) .render 0

theorem Onward.alone_runFor {s : System} {m : Machine} {earlier : List System} (k : Nat)
    (run : Onward s (m.alone :: earlier)) : ∃ before, Onward s ((m.runFor k).alone :: before) := by
  induction k generalizing m earlier with
  | zero => exact ⟨earlier, run⟩
  | succ k ih =>
    unfold Machine.runFor
    split
    · exact ⟨earlier, run⟩
    · exact ih (run.goes (.turn [] m.strand [] .step))

theorem omittingRun_sampleAbsent : ∃ x, OmittingRun Machine.sampleAbsent.alone none
    [⟨0, some (.push none .done, 5)⟩] [[.submitted .graphics 2]] x := by
  let rest := Machine.sampleAbsent
  let called := Request.render.begin rest.world 0
  let returned := called.step.step.step
  have calls : rest.alone.Takes ⟨0, some (.render, 0)⟩ called.alone :=
    .takes [] rest.strand [] rfl (.begin .render 0 (by decide) (by simp))
  have skip (m : Machine) (k : Nat) (run : OmittingRun rest.alone (some (0, 0)) [] [] m.alone)
      (news : m.step.world.journal = m.step.world.journal.take k ++ m.world.journal)
      (blank : ∀ e ∈ m.step.world.journal.take k, e.isSkip = true) :
      OmittingRun rest.alone (some (0, 0)) [] [] m.step.alone :=
    run.skips (.takes [] m.strand [] rfl .step) news blank
  have begun := skip called 2 (OmittingRun.here.calls calls (by decide)) (by decide) (by decide)
  have drained := skip called.step 1 begun (by decide) (by decide)
  have missed := skip called.step.step 3 drained (by decide) (by decide)
  have back : OmittingRun rest.alone none [] [] returned.alone := missed.returns rfl (by decide)
  have pushes : returned.alone.Takes ⟨0, some (.push none .done, 5)⟩
      ((Request.push none .done).begin returned.world 5).alone :=
    .takes [] returned.strand [] rfl (.begin _ 5 (by decide) (by simp))
  exact ⟨_, back.goes pushes (by decide) (by simp)⟩

theorem skipped_frames_are_invisible_sample :
    (∃ earlier es, Onward Machine.sampleSkipped.alone ((Machine.sampleSkipped.runFor 6).alone :: earlier) ∧
      (Machine.sampleSkipped.runFor 6).world.journal = es ++ Machine.sampleSkipped.world.journal ∧
      .targetRead false ∈ es ∧ (∀ e ∈ es, e.isDrawing = false) ∧
      (Machine.sampleSkipped.runFor 6).world.adapter? = Machine.sampleSkipped.world.adapter?) ∧
    (∃ earlier es calls,
      Passing Machine.sampleSkipped.alone 0 ((Machine.sampleSkipped.step.runFor 4).alone :: earlier) ∧
      Skipped Machine.sampleSkipped.alone (Machine.sampleSkipped.step.runFor 4).step.alone 0 es ∧
      (Machine.sampleSkipped.step.runFor 4).step.world.waiting .graphics = calls) ∧
    ∃ told y, Chosen Machine.sampleAbsent.alone [⟨0, some (.push none .done, 5)⟩] told y ∧
      told.map (List.map Event.nameless) = [[.submitted .graphics 0]] := by
  obtain ⟨nothingDrawn, passes, _⟩ := skipped_frames_are_invisible reachable_sampleSkipped
  obtain ⟨_, _, keepsRunnables⟩ := skipped_frames_are_invisible reachable_sampleAbsent
  refine ⟨?_, ?_, ?_⟩
  · obtain ⟨earlier, run⟩ := Onward.alone_runFor 6 (Onward.here (s := Machine.sampleSkipped.alone))
    let es := (Machine.sampleSkipped.runFor 6).world.journal.take 10
    have none : ∀ e ∈ es, e.isRequest = false := by decide
    obtain ⟨undrawn, kept⟩ := nothingDrawn _ earlier es run (by decide) (by decide)
      (fun r mem => by cases none _ mem)
      (by decide)
    exact ⟨earlier, es, run, by decide, by decide, undrawn, kept (by decide)⟩
  · obtain ⟨earlier, p⟩ := Machine.sampleSkipped.passes_alone 0 4 (by decide) (by decide)
    obtain ⟨calls, joined⟩ := p.joined
    obtain ⟨result, es, journal, _, skipped⟩ := passes 0 _ earlier
      (Machine.sampleSkipped.step.runFor 4).step.alone p (.turn [] _ [] .step) (by decide)
    have last : (Machine.sampleSkipped.step.runFor 4).step.world.journal.head? = some
      (.passEnded (some false)) := by
      decide
    obtain rfl : result = some false := by
      rw [show (Machine.sampleSkipped.step.runFor 4).step.world.journal = _ from journal] at last
      cases last
      rfl
    have missed : .targetRead true ∉ es := by
      intro mem
      have all : (Machine.sampleSkipped.step.runFor 4).step.world.journal.count
        (.targetRead true) = 1 := by decide
      have old : Machine.sampleSkipped.alone.world.journal.count (.targetRead true) = 1 := by decide
      have new := List.count_pos_iff.mpr mem
      rw [show (Machine.sampleSkipped.step.runFor 4).step.world.journal = _ from journal] at all
      simp only [List.count_cons, List.count_append, old] at all
      omega
    obtain ⟨_, skip, left⟩ := skipped false rfl missed
    exact ⟨earlier, es, calls, p, skip, left calls joined⟩
  · obtain ⟨x, spared⟩ := omittingRun_sampleAbsent
    obtain ⟨γ, told, y, chosen, _, same, _⟩ := keepsRunnables _ _ _ x spared
    exact ⟨told, y, chosen, same⟩

end FrameHost
