import FrameHost.Proofs.Stage

/-!
The course of a render pass. From its beginning to its end, with arbitrary turns of other strands in
between, a pass runs the waiting calls, reads the target, reloads the renderer at most once and draws.
-/
namespace FrameHost

/-- The moments of a pass begun by `thread` after `s`, latest first. -/
inductive Passing (s : System) (thread : Nat) : List System → Prop where
  | begins {x : System} (m : Move s x) (closed : openPass s.world.journal = none)
      (opened : openPass x.world.journal = some thread) : Passing s thread [x]
  | goes {x y : System} {earlier : List System} (p : Passing s thread (x :: earlier)) (m : Move x y)
      (opened : openPass y.world.journal = some thread) : Passing s thread (y :: x :: earlier)

/-- Between two of these moments, latest first, the target is read and found, and the renderer has the
resolution `current` there. -/
def FindsTarget (moments : List System) (current : Resolution) : Prop :=
  ∃ later y x earlier, moments = later ++ y :: x :: earlier ∧
    x.world.ReadsTarget y.world true ∧ x.world.renderer.resolution = current

theorem FindsTarget.later {moments : List System} {current : Resolution}
    (h : FindsTarget moments current) (y : System) :
    FindsTarget (y :: moments) current := by
  obtain ⟨later, y', x, earlier, rfl, read, same⟩ := h
  exact ⟨y :: later, y', x, earlier, rfl, read, same⟩

theorem HostEffect.top {w : World} {others : List Frame} {fault : Option Fault} {popped : List Frame}
    {n : Machine}
    (d : HostEffect w others fault popped n) :
    (popped = [] ∧ ∀ f ∈ others, f.holdsHost = false) ∨ (∃ thread, popped = [.enter thread]) ∨
      ∃ thread saved phase, popped = [.pass thread saved phase] := by
  cases d with
  | dropHost free => exact .inl ⟨rfl, free⟩
  | ask _ _ _ free => exact .inl ⟨rfl, free⟩
  | enter thread => exact .inr (.inl ⟨thread, rfl⟩)
  | _ => exact .inr (.inr ⟨_, _, _, rfl⟩)

theorem GateMove.entered {w v : World} {others popped laid : List Frame} {thread : Nat}
    (m : GateMove w others popped v laid) (closed : openPass w.journal = none)
    (opened : openPass v.journal = some thread) :
    popped = [.enter thread] ∧ ∃ g, w.graphics = some g ∧
      (g.affinity.bind thread).isCurrent thread = true := by
  cases m with
  | keepsGate h => simp [h.openPass, closed] at opened
  | begins h => simp [h.openPass, closed] at opened
  | departs h => simp [h.openPass, closed] at opened
  | @opens g t shared owned entered =>
    obtain ⟨opens, _⟩ := w.enterPass_opens t shared owned
    obtain rfl : t = thread := Option.some.inj (opens.openPass.symm.trans opened)
    exact ⟨entered, g, shared, owned⟩
  | closes h => simp [h.openPass] at opened

theorem pass_place {fs gs up down : List Frame} {p q : Frame}
    (single : (fs ++ p :: gs).countP Frame.isPass ≤ 1)
    (hp : p.isPass = true) (hq : q.isPass = true) (eq : fs ++ p :: gs = up ++ q :: down) :
    fs = up ∧ p = q ∧ gs = down := by
  induction fs generalizing up with
  | nil =>
    cases up with
    | nil =>
      obtain ⟨rfl, rfl⟩ := List.cons.inj eq
      exact ⟨rfl, rfl, rfl⟩
    | cons u up =>
      have rest : gs = up ++ q :: down := (List.cons.inj eq).2
      simp only [rest, List.nil_append, List.countP_cons, List.countP_append, hp, hq, if_true] at single
      omega
  | cons f fs ih =>
    cases up with
    | nil =>
      have first : f = q := (List.cons.inj eq).1
      simp only [first, List.cons_append, List.countP_cons, List.countP_append, hp, hq,
        if_true] at single
      omega
    | cons u up =>
      obtain ⟨rfl, rest⟩ := List.cons.inj eq
      have fewer : (fs ++ p :: gs).countP Frame.isPass ≤ 1 := by
        rw [List.cons_append, List.countP_cons] at single
        omega
      obtain ⟨rfl, same⟩ := ih fewer rest
      exact ⟨rfl, same⟩

theorem HostEffect.reads {w : World} {others : List Frame} {thread : Nat} {saved : Bool} {n : Machine}
    (d : HostEffect w others none [.pass thread saved .target] n) :
    w.ReadsTarget n.world w.renderer.hasTarget := by
  cases d with
  | target => exact w.readTarget_reads thread saved
  | abort _ _ _ unwinding => cases unwinding

/-- The state `x` of a pass that began in `s`: the events `es` since then, the adapter `now` and the stage
of its strand. -/
structure PassMoment (s : System) (thread : Nat) (a : Adapter) (found : Resolution → Prop) (x : System)
    (es : List Event)
    (now : Adapter) : Prop where
  journal : x.world.journal = es ++ .passBegan thread :: s.world.journal
  within : ∀ e ∈ es, e.isBracket = false
  adapter : x.world.host.map Host.adapter = some now
  stage : ∀ σ ∈ x.strands, ∀ up saved phase down, σ.stack = up ++ .pass thread saved phase :: down →
    Stage (s.world.waiting .graphics) thread a found σ.fault up phase now es

def System.Leaves (x t : System) (thread : Nat) (result : Option Bool) : Prop :=
  ∃ σ ∈ x.strands, ∃ saved phase below, σ.stack = .pass thread saved phase :: below ∧
    match result with
    | some flag => σ.fault = none ∧ ⟨none, .flag flag, below⟩ ∈ t.strands
    | none => σ.fault.isSome = true

structure Ending (s : System) (thread : Nat) (a : Adapter) (found : Resolution → Prop) (x t : System)
    (result : Option Bool) (es : List Event) (now : Adapter) : Prop where
  journal : t.world.journal = .passEnded result :: (es ++ .passBegan thread :: s.world.journal)
  adapter : t.world.host.map Host.adapter = some now
  outcome : Outcome (s.world.waiting .graphics) thread a found x.world t.world result now es
  leaves : x.Leaves t thread result

section
variable {b : AdapterOptions} {s t : System} {σ : Strand} {popped below : List Frame}
    {others : List Strand} {n : Machine}

theorem Act.others_passless (act : Act s t σ popped below others n)
    (single : t.frames.countP Frame.isPass ≤ 1)
    (mine : 1 ≤ (n.stack ++ below).countP Frame.isPass) {τ : Strand} (hτ : τ ∈ others) {p : Frame}
    (hp : p ∈ τ.stack) :
    p.isPass = false := by
  rw [act.after.countP_eq, ← List.append_assoc, List.countP_append] at single
  have none : (framesOf others).countP Frame.isPass = 0 := by omega
  simpa using List.countP_eq_zero.mp none p (List.mem_flatMap.mpr ⟨τ, hτ, hp⟩)

theorem Act.single_stack (act : Act s t σ popped below others n)
    (single : t.frames.countP Frame.isPass ≤ 1) :
    (n.stack ++ below).countP Frame.isPass ≤ 1 := by
  rw [act.after.countP_eq, ← List.append_assoc, List.countP_append] at single
  omega

theorem Act.only_pass {front : List Frame} {calls : List Runnable} {thread : Nat} {saved : Bool}
    {phase : Phase} {a now : Adapter} {found : Resolution → Prop} {es : List Event}
    (act : Act s t σ popped below others n) (single : t.frames.countP Frame.isPass ≤ 1)
    (laid : n.stack = front ++ [.pass thread saved phase])
    (here : Stage calls thread a found n.fault front phase now es) :
    ∀ τ ∈ t.strands, ∀ up saved phase down, τ.stack = up ++ .pass thread saved phase :: down →
      Stage calls thread a found τ.fault up phase now es := by
  intro τ hτ up saved' phase' down stack
  rcases (act.new τ).mp hτ with rfl | other
  · have top : n.stack ++ below = front ++ .pass thread saved phase :: below := by simp [laid]
    have alone := act.single_stack single
    rw [top] at alone stack
    obtain ⟨rfl, frame, _⟩ := pass_place alone rfl rfl stack
    cases frame
    exact here
  · have mine : 1 ≤ (n.stack ++ below).countP Frame.isPass :=
      List.countP_pos_iff.mpr ⟨.pass thread saved phase, by simp [laid], rfl⟩
    have passless := act.others_passless single mine other (p := .pass thread saved' phase')
      (by simp [stack])
    cases passless

theorem Reachable.pass_begins {x : System} {thread : Nat} (h : Reachable b s) (m : Move s x)
    (closed : openPass s.world.journal = none) (opened : openPass x.world.journal = some thread)
    (found : Resolution → Prop) :
    ∃ a es, s.world.host.map Host.adapter = some a ∧ PassMoment s thread a found x es a := by
  have single := (h.move m).gated.single
  obtain ⟨σ, popped, below, others, n, act⟩ := m.act
  rw [act.world] at opened
  obtain ⟨rfl, g, shared, owned⟩ := act.effect.gateMove.entered closed opened
  have hosted : s.world.host.isSome = true :=
    h.gated.hosted (.enter thread) (act.before.mem_iff.mpr List.mem_cons_self) rfl
  obtain ⟨host, isHost⟩ := Option.isSome_iff_exists.mp hosted
  rcases act.effect.aside_or_host with ⟨aside, _⟩ | d
  · rw [(World.KeepsGate.of_aside aside).openPass, closed] at opened
    cases opened
  · cases d with
    | enter =>
      let began : World :=
        { s.world with graphics := some ⟨g.affinity.bind thread, ⟨true⟩, .empty⟩ }.record
        (.passBegan thread)
      have entered := s.world.enterPass_eq thread shared owned
      obtain ⟨es, journal, untouched⟩ :=
        (World.silent_drain began thread .graphics g.queue.calls
          [.pass thread g.gate.allowed .target]).journal
      have aside := World.Aside.drain began thread .graphics g.queue.calls
          [.pass thread g.gate.allowed .target]
      obtain ⟨es', same, chores⟩ := aside.journal
      obtain rfl : es = es' := List.append_cancel_right (journal.symm.trans same)
      have calls : s.world.waiting .graphics = [] ++ g.queue.calls := by simp [World.waiting, shared]
      have untold : story (s.world.waiting .graphics) es = [] := by
        apply story_untold
        intro e he
        have runnableEvent := untouched e he
        have work := isWork_of_isChore (chores e he)
        cases e <;> first | exact work | cases runnableEvent
      rw [entered] at act
      refine ⟨host.adapter, es, by simp [isHost], ?_, ?_, ?_, ?_⟩
      · rw [act.world]
        exact journal
      · exact fun e he => Event.isBracket_of_isChore (chores e he)
      · rw [act.world, aside.adapter]
        simp [began, World.record, isHost]
      · have first : Stage (s.world.waiting .graphics) thread host.adapter found none
            [.batch thread began.tickets g.queue.calls g.queue.calls.length] .target host.adapter es :=
          .between calls untold
        exact act.only_pass single rfl first

theorem PassMoment.aside {x y : System} {thread : Nat} {a now : Adapter} {found : Resolution → Prop}
    {es : List Event}
    (mo : PassMoment s thread a found x es now) (act : Act x y σ popped below others n)
    (ledger : Ledger y.world y.frames)
    (aside : x.world.Aside n.world) (unguarded : guards n.stack = []) :
    ∃ es, PassMoment s thread a found y es now := by
  obtain ⟨new, journal, chores⟩ := aside.journal
  have written : n.world.journal = new ++ (es ++ .passBegan thread :: s.world.journal) := by
    rw [journal, mo.journal]
  rw [act.world] at ledger
  refine ⟨new ++ es, ?_, ?_, ?_, ?_⟩
  · rw [act.world, written, List.append_assoc]
  · intro e he
    rcases List.mem_append.mp he with chore | old
    · exact Event.isBracket_of_isChore (chores e chore)
    · exact mo.within e old
  · rw [act.world, aside.adapter]
    exact mo.adapter
  · intro τ hτ up saved phase down stack
    rcases (act.new τ).mp hτ with rfl | other
    · -- The frame of the pass is below the frames pushed.
      have deep : ∃ mid, up = n.stack ++ mid ∧ below = mid ++ .pass thread saved phase :: down := by
        rcases List.append_eq_append_iff.mp stack with ⟨mid, front, rest⟩ | ⟨mid, front, rest⟩
        · exact ⟨mid, front, rest⟩
        · cases mid with
          | nil => exact ⟨[], by simpa using front.symm, by simpa using rest.symm⟩
          | cons f mid =>
            -- Otherwise the turn would have pushed a pass, and with it a guard.
            obtain ⟨rfl, _⟩ := List.cons.inj rest
            have guarded := mem_guards.mpr
                ⟨phase, show Frame.pass thread saved phase ∈ n.stack by simp [front]⟩
            simp [unguarded] at guarded
      obtain ⟨mid, rfl, rfl⟩ := deep
      rcases act.top with ⟨_, bottom⟩ | ⟨f, rfl⟩
      · simp at bottom
      · refine (mo.stage σ act.mem (f :: mid) saved phase down act.stack).above
          act.effect mo.journal written chores ledger ?_
        intro g hg
        apply act.after.mem_iff.mpr
        rcases List.mem_append.mp hg with laid | kept
        · exact List.mem_append_left _ laid
        · exact List.mem_append_right _ (List.mem_append_left _ (List.mem_append_left _ kept))
    · refine (mo.stage τ ((act.old τ).mpr (.inr other)) up saved phase down stack).wait
        ledger ?_ written chores
      intro g hg
      refine List.mem_flatMap.mpr ⟨τ, hτ, ?_⟩
      rw [stack]
      exact List.mem_append_left _ hg

theorem Reachable.pass_on_top {x y : System} {thread : Nat} (h : Reachable b x)
    (opened : openPass x.world.journal = some thread) (act : Act x y σ popped below others n)
    (d : HostEffect x.world (below ++ framesOf others) σ.fault popped n) :
    ∃ saved phase, popped = [.pass thread saved phase] := by
  obtain ⟨phase, mem⟩ := mem_guards.mp ((h.gated.passes thread false).mpr ⟨opened, rfl⟩)
  have place := act.before.mem_iff.mp mem
  have single := h.gated.single
  rw [act.before.countP_eq] at single
  rcases d.top with ⟨rfl, free⟩ | ⟨t, rfl⟩ | ⟨t, saved, ph, rfl⟩
  · exact absurd (free _ place) (by simp [Frame.holdsHost])
  · rcases List.mem_cons.mp place with eq | rest
    · cases eq
    · have two : 1 ≤ (below ++ framesOf others).countP Frame.isPass :=
        List.countP_pos_iff.mpr ⟨_, rest, rfl⟩
      simp only [List.singleton_append, List.countP_cons, Frame.isPass, if_true] at single
      omega
  · have guarded := mem_guards.mpr ⟨ph, act.before.mem_iff.mpr List.mem_cons_self⟩
    obtain ⟨same, _⟩ := (h.gated.passes t saved).mp guarded
    obtain rfl : thread = t := Option.some.inj (opened.symm.trans same)
    exact ⟨saved, ph, rfl⟩

theorem PassMoment.openPass {x : System} {thread : Nat} {a now : Adapter} {found : Resolution → Prop}
    {es : List Event}
    (mo : PassMoment s thread a found x es now) : openPass x.world.journal = some thread := by
  rw [mo.journal, openPass_append mo.within]
  rfl

theorem PassMoment.mono {x : System} {thread : Nat} {a now : Adapter} {found also : Resolution → Prop}
    {es : List Event}
    (mo : PassMoment s thread a found x es now) (grows : ∀ current, found current → also current) :
    PassMoment s thread a also x es now :=
  ⟨mo.journal, mo.within, mo.adapter, fun σ hσ up saved phase down stack =>
    (mo.stage σ hσ up saved phase down stack).mono grows⟩

theorem Reachable.gateOpen {x : System} {thread : Nat} (h : Reachable b x)
    (opened : openPass x.world.journal = some thread) : x.world.GateOpen := by
  obtain ⟨phase, mem⟩ := mem_guards.mp ((h.gated.passes thread false).mpr ⟨opened, rfl⟩)
  obtain ⟨g, shared⟩ := Option.isSome_iff_exists.mp (h.gated.shared (h.gated.hosted _ mem rfl))
  rw [World.GateOpen, shared, Option.getD_some, h.gated.gate g shared, opened]
  rfl

theorem PassMoment.goes {x y : System} {thread : Nat} {a now next : Adapter} {found : Resolution → Prop}
    {es new : List Event} {saved : Bool} {front : List Frame} {later : Phase}
    (mo : PassMoment s thread a found x es now) (act : Act x y σ popped below others n)
    (single : y.frames.countP Frame.isPass ≤ 1)
    (goes : GoesOnTo (s.world.waiting .graphics) thread a found saved es
      (.passBegan thread :: s.world.journal) n front later next new) :
    PassMoment s thread a found y (new ++ es) next := by
  refine ⟨?_, ?_, ?_, ?_⟩
  · rw [act.world, goes.journal, List.append_assoc]
  · intro e he
    rcases List.mem_append.mp he with news | old
    · exact goes.within e news
    · exact mo.within e old
  · rw [act.world]
    exact goes.adapter
  · exact act.only_pass single goes.stack goes.stage

theorem Act.ends {x y : System} {thread : Nat} {a now : Adapter} {found : Resolution → Prop}
    {es new : List Event} {saved : Bool} {phase : Phase} {result : Option Bool}
    (act : Act x y σ [.pass thread saved phase] below others n)
    (ends : EndsWith (s.world.waiting .graphics) thread a found x.world es
      (.passBegan thread :: s.world.journal) n result now new)
    (aborted : result.isNone = σ.fault.isSome) :
    Ending s thread a found x y result (new ++ es) now := by
  refine ⟨?_, ?_, act.world ▸ ends.outcome, σ, act.mem, saved, phase, below, act.stack, ?_⟩
  · rw [act.world, ends.journal, List.append_assoc]
  · rw [act.world]
    exact ends.adapter
  · cases result with
    | none => simpa using aborted.symm
    | some flag =>
      obtain ⟨calm, answer⟩ := ends.answer flag rfl
      refine ⟨by simpa using aborted.symm, (act.new _).mpr (.inl ?_)⟩
      rw [calm, answer, ends.stack]
      rfl

theorem PassMoment.next {x y : System} {thread : Nat} {a now : Adapter} {earlier : List System}
    {es : List Event}
    (mo : PassMoment s thread a (FindsTarget (x :: earlier)) x es now) (h : Reachable b x) (m : Move x y) :
    (∃ es now, PassMoment s thread a (FindsTarget (y :: x :: earlier)) y es now) ∨
      ∃ result es now, Ending s thread a (FindsTarget (y :: x :: earlier)) x y result es now := by
  have after := h.move m
  obtain ⟨σ, popped, below, others, n, act⟩ := m.act
  have seen := mo.mono fun _ => (FindsTarget.later · y)
  rcases act.effect.aside_or_host with ⟨aside, unguarded⟩ | d
  · obtain ⟨es, goes⟩ := seen.aside act after.ledger aside unguarded
    exact .inl ⟨es, now, goes⟩
  · obtain ⟨saved, phase, rfl⟩ := h.pass_on_top mo.openPass act d
    -- A pass that reads its target here finds the resolution of this moment.
    have reads : x.world.renderer.hasTarget = true → phase = .target → σ.fault = none →
        FindsTarget (y :: x :: earlier) x.world.renderer.resolution := by
      rintro present rfl calm
      rw [calm] at d
      have read := d.reads
      rw [present, ← act.world] at read
      exact ⟨[], y, x, earlier, rfl, read, rfl⟩
    rcases (seen.stage σ act.mem [] saved phase below act.stack).pass d (h.gateOpen mo.openPass)
        mo.adapter mo.journal reads with
      ⟨front, later, now', new, goes⟩ | ⟨result, new, ends, aborted⟩
    · exact .inl ⟨new ++ es, now', seen.goes act after.gated.single goes⟩
    · exact .inr ⟨result, new ++ es, now, act.ends ends aborted⟩

end

section
variable {b : AdapterOptions} {s x : System} {thread : Nat} {earlier : List System}

theorem Passing.reachable {moments : List System} (p : Passing s thread moments) (h : Reachable b s) :
    ∀ x ∈ moments, Reachable b x := by
  induction p with
  | begins m closed opened =>
    intro x hx
    rw [List.mem_singleton.mp hx]
    exact h.move m
  | @goes x y earlier p m opened ih =>
    intro z hz
    rcases List.mem_cons.mp hz with rfl | old
    · exact (ih x List.mem_cons_self).move m
    · exact ih z old

theorem Passing.latest (p : Passing s thread (x :: earlier)) (h : Reachable b s) : Reachable b x :=
  p.reachable h x List.mem_cons_self

theorem Passing.openPass (p : Passing s thread (x :: earlier)) :
    openPass x.world.journal = some thread := by
  cases p <;> assumption

/-- At every moment a pass is in one of the stages. -/
theorem Passing.moment (p : Passing s thread (x :: earlier)) (h : Reachable b s) :
    ∃ a es now, s.world.host.map Host.adapter = some a ∧
      PassMoment s thread a (FindsTarget (x :: earlier)) x es now := by
  generalize same : x :: earlier = moments at p
  induction p generalizing x earlier with
  | begins m closed opened =>
    cases same
    obtain ⟨a, es, adapter, first⟩ := h.pass_begins m closed opened (FindsTarget _)
    exact ⟨a, es, a, adapter, first⟩
  | @goes x' y before p m opened ih =>
    cases same
    obtain ⟨a, es, now, adapter, moment⟩ := ih rfl
    rcases moment.next (p.latest h) m with ⟨es, now, next⟩ | ⟨result, es, now, ending⟩
    · exact ⟨a, es, now, adapter, next⟩
    · rw [ending.journal] at opened
      cases opened

/-- A pass ended by a turn has completed its course. -/
theorem Passing.ending {t : System} (p : Passing s thread (x :: earlier)) (h : Reachable b s)
    (m : Move x t)
    (closed : FrameHost.openPass t.world.journal = none) :
    ∃ a result es now, s.world.host.map Host.adapter = some a ∧
      Ending s thread a (FindsTarget (t :: x :: earlier)) x t result es now := by
  obtain ⟨a, es, now, adapter, moment⟩ := p.moment h
  rcases moment.next (p.latest h) m with ⟨es, now, next⟩ | ⟨result, es, now, ending⟩
  · rw [next.openPass] at closed
    cases closed
  · exact ⟨a, result, es, now, adapter, ending⟩

theorem Passing.can_end (p : Passing s thread (x :: earlier)) (h : Reachable b s) :
    ∃ later y t, Passing s thread (y :: later) ∧ x :: earlier <:+ y :: later ∧ Move y t ∧
      FrameHost.openPass t.world.journal = none := by
  obtain ⟨phase, mem⟩ := mem_guards.mp (((p.latest h).gated.passes thread false).mpr ⟨p.openPass, rfl⟩)
  obtain ⟨σ, hσ, inStack⟩ := List.mem_flatMap.mp mem
  -- The weight of the strand decreases with each of its steps.
  induction weight : (σ.on x.world).weight using Nat.strongRecOn generalizing x earlier σ phase with
  | ind k ih =>
    obtain ⟨w, strands⟩ := x
    obtain ⟨before, after, rfl⟩ := List.append_of_mem hσ
    have busy : (σ.on w).stack ≠ [] := List.ne_nil_of_mem inStack
    have lighter := (σ.on w).weight_step_lt busy
    have turn : Move ⟨w, before ++ σ :: after⟩
        ⟨(σ.on w).step.world, before ++ (σ.on w).step.strand :: after⟩ :=
      .turn before σ after .step
    cases opened : FrameHost.openPass (σ.on w).step.world.journal with
    | none => exact ⟨earlier, _, _, p, List.suffix_refl _, turn, opened⟩
    | some other =>
      obtain ⟨a, es, now, _, moment⟩ := p.moment h
      rcases moment.next (p.latest h) turn with ⟨es, now, next⟩ | ⟨result, es, now, ending⟩
      · have goes := p.goes turn next.openPass
        obtain ⟨phase', mem'⟩ :=
          mem_guards.mp (((goes.latest h).gated.passes thread false).mpr ⟨next.openPass, rfl⟩)
        have single := (p.latest h).gated.single
        have mine : 1 ≤ σ.stack.countP Frame.isPass := List.countP_pos_iff.mpr ⟨_, inStack, rfl⟩
        have passless : (framesOf (before ++ after)).countP Frame.isPass = 0 := by
          rw [System.frames, (frames_swap before after σ).countP_eq, List.countP_append] at single
          omega
        have still : Frame.pass thread false phase' ∈ (σ.on w).step.stack := by
          rcases List.mem_append.mp
              ((frames_swap before after (σ.on w).step.strand).mem_iff.mp mem') with own | other
          · exact own
          · exact absurd rfl (List.countP_eq_zero.mp passless _ other)
        obtain ⟨later, y, t, pass, suffix, last, closed⟩ :=
          ih _ (weight ▸ lighter) goes phase' mem' (σ.on w).step.strand
          (by simp) still rfl
        exact ⟨later, y, t, pass, (List.suffix_cons _ _).trans suffix, last, closed⟩
      · have closed : FrameHost.openPass (σ.on w).step.world.journal = none := by
          rw [ending.journal]
          rfl
        rw [closed] at opened
        cases opened

theorem Passing.alone_all (kind : System → Prop) (k : Nat) {m : Machine} {earlier : List System}
    (p : Passing s thread (m.alone :: earlier)) (old : ∀ y ∈ m.alone :: earlier, kind y)
    (opened : ∀ i ≤ k, FrameHost.openPass (m.runFor i).world.journal = some thread)
    (all : ∀ i ≤ k, kind (m.runFor i).alone) :
    ∃ before, Passing s thread ((m.runFor k).alone :: before) ∧
      ∀ y ∈ (m.runFor k).alone :: before, kind y := by
  induction k generalizing m earlier with
  | zero => exact ⟨earlier, p, old⟩
  | succ k ih =>
    unfold Machine.runFor at opened all ⊢
    cases busy : m.stack with
    | nil => exact ⟨earlier, p, old⟩
    | cons f below =>
      have later (i : Nat) (bound : i ≤ k) :
          FrameHost.openPass (m.step.runFor i).world.journal = some thread := by
        have next := opened (i + 1) (by omega)
        simpa only [busy] using next
      have kinds (i : Nat) (bound : i ≤ k) : kind (m.step.runFor i).alone := by
        have next := all (i + 1) (by omega)
        simpa only [busy] using next
      have goes : Passing s thread (m.step.alone :: m.alone :: earlier) :=
        p.goes (.turn [] m.strand [] .step) (later 0 (Nat.zero_le k))
      refine ih goes ?_ later kinds
      intro y hy
      rcases List.mem_cons.mp hy with rfl | before
      · exact kinds 0 (Nat.zero_le k)
      · exact old y before

theorem Passing.alone_runFor (k : Nat) {m : Machine} {earlier : List System}
    (p : Passing s thread (m.alone :: earlier))
    (opened : ∀ i ≤ k, FrameHost.openPass (m.runFor i).world.journal = some thread) :
    ∃ before, Passing s thread ((m.runFor k).alone :: before) := by
  obtain ⟨before, pass, _⟩ := p.alone_all (fun _ => True) k (fun _ _ => trivial) opened fun _ _ => trivial
  exact ⟨before, pass⟩

theorem Machine.passes_alone {m : Machine} (thread k : Nat)
    (closed : FrameHost.openPass m.world.journal = none)
    (opened : ∀ i ≤ k, FrameHost.openPass (m.step.runFor i).world.journal = some thread) :
    ∃ earlier, Passing m.alone thread ((m.step.runFor k).alone :: earlier) := by
  have begins : Passing m.alone thread [m.step.alone] :=
    .begins (.turn [] m.strand [] .step) closed (opened 0 (Nat.zero_le k))
  exact begins.alone_runFor k opened

end

def Machine.sampleRender : Machine :=
  let pushed := (Request.push none .done).carryOut Machine.sample.world 5
  let configured := (Request.adapter (.config ⟨⟨.auto, 30, .ofNat 1⟩, 1⟩)).carryOut pushed.world 0
  let resized := (Request.adapter (.resize 800 600)).carryOut configured.world 0
  Request.render.begin resized.world 0

theorem reachable_sampleRender : Reachable .standard Machine.sampleRender.alone := by
  have pushed := reachable_sample.alone_carryOut rfl (.push none .done) 5
  have configured := pushed.alone_carryOut (by decide) (.adapter (.config ⟨⟨.auto, 30, .ofNat 1⟩, 1⟩)) 0
  have resized := configured.alone_carryOut (by decide) (.adapter (.resize 800 600)) 0
  exact resized.alone_begin (by decide) .render 0

theorem passing_sampleRender :
    ∃ earlier, Passing Machine.sampleRender.alone 0
      ((Machine.sampleRender.step.runFor 8).alone :: earlier) :=
  Machine.sampleRender.passes_alone 0 8 (by decide) (by decide)

end FrameHost
