import FrameHost.Proofs.Cause

/-!
Where graphics runnables start, and the states a pushed runnable can be in.
-/
namespace FrameHost

theorem Ledger.line_unique {w : World} {fs : List Frame} (h : Ledger w fs) {k l : Line} {ticket : Nat}
    (hk : .submitted k ticket ∈ w.journal) (hl : .submitted l ticket ∈ w.journal) : k = l := by
  have once := h.once ticket
  rw [World.tally, List.countP_eq_length_filter] at once
  have fk : .submitted k ticket ∈ w.journal.filter (Event.submits ticket) :=
    List.mem_filter.mpr ⟨hk, by simp [Event.submits]⟩
  have fl : .submitted l ticket ∈ w.journal.filter (Event.submits ticket) :=
    List.mem_filter.mpr ⟨hl, by simp [Event.submits]⟩
  cases only : w.journal.filter (Event.submits ticket) with
  | nil => simp [only] at fk
  | cons e es =>
    cases es with
    | nil =>
      rw [only, List.mem_singleton] at fk fl
      cases fk.trans fl.symm
      rfl
    | cons d es => simp [only] at once

theorem Ledger.copies_elsewhere {w : World} {fs : List Frame} (h : Ledger w fs) {k l : Line}
    {ticket : Nat}
    (pushed : .submitted k ticket ∈ w.journal) (other : l ≠ k) : copies ticket (w.waiting l) = 0 := by
  apply List.countP_eq_zero.mpr
  intro r hr same
  have filed := h.filed l r hr
  rw [beq_iff_eq.mp same] at filed
  exact other (h.line_unique filed pushed)

section
variable {b : AdapterOptions} {s t : System}

theorem Reachable.allows_of_openPass (h : Reachable b s) {thread : Nat}
    (opened : openPass s.world.journal = some thread) :
    s.InPass thread ∧ ∃ g, s.world.graphics = some g ∧ g.affinity.owner = some thread ∧
      g.allows thread = true := by
  have inPass := (h.inPass_iff thread).mpr opened
  obtain ⟨saved, phase, hf⟩ := inPass
  have hosted := h.gated.hosted _ hf rfl
  obtain ⟨g, shared⟩ := Option.isSome_iff_exists.mp (h.gated.shared hosted)
  have owner : g.affinity.owner = some thread :=
    (h.gated.owner g shared).trans (h.gated.bound thread opened)
  exact ⟨⟨saved, phase, hf⟩, g, shared, owner, (h.allows_iff shared thread).mpr
    ⟨owner, saved, phase, hf⟩⟩

theorem Reachable.openPass_of_start (h : Reachable b s) (m : Move s t) {ticket thread : Nat}
    (pushed : .submitted .graphics ticket ∈ t.world.journal)
    (started : .started ticket thread ∈ t.world.journal)
    (first : .started ticket thread ∉ s.world.journal) : openPass t.world.journal = some thread := by
  obtain ⟨σ, popped, below, others, n, act⟩ := m.act
  have ledger := (h.move m).ledger
  have kept := act.effect.ledgerMove.kept
  have filed := h.ledger.filed
  rw [act.world] at pushed started ledger ⊢
  have unique {line : Line} (r : .submitted line ticket ∈ n.world.journal) : line = .graphics :=
    ledger.line_unique r pushed
  have cause := (act.effect.cause _ started rfl).resolve_left first
  generalize event : Event.started ticket thread = e at cause
  cases cause with
  | inline _ shared allowed within =>
    cases event
    rw [within]
    exact (h.inPass_iff thread).mp ((h.allows_iff shared thread).mp allowed).2
  | @called r rest activation count _ top within =>
    cases event
    rw [within]
    have stacked := (h.orderly σ act.mem).stacked
    have before := act.before
    rw [act.stack, top] at stacked
    rw [top] at before
    obtain ⟨based, rests⟩ := stacked.1
    have line := unique (kept _ (rests.filed r List.mem_cons_self))
    -- A batch of graphics calls is above the pass that emptied the queue.
    cases below with
    | nil => exact based.elim
    | cons f below =>
      cases f with
      | pass other saved phase =>
        have same : other = thread := by cases phase <;> first | exact based | exact based.elim
        subst same
        refine (h.inPass_iff other).mp ⟨saved, phase, ?_⟩
        exact before.mem_iff.mpr (by simp)
      | drained => cases line
      | _ => exact based.elim
  | served _ waits =>
    cases event
    cases unique (kept _ (filed .mainThread _ waits))
  | _ => cases event

/-- Graphics calls are allowed exactly to the captured thread inside a pass, and every graphics runnable
starts on that thread, inside its pass, with graphics allowed. -/
theorem graphics_allowed_iff_inside_pass (h : Reachable b s) :
    (∀ g, s.world.graphics = some g → g.affinity.owner = captured s.world.journal ∧
      ∀ thread, g.allows thread = true ↔ g.affinity.owner = some thread ∧ s.InPass thread) ∧
    (∀ thread, s.InPass thread ↔ openPass s.world.journal = some thread) ∧
    ∀ t ticket thread, Move s t → .submitted .graphics ticket ∈ t.world.journal →
      .started ticket thread ∈ t.world.journal → .started ticket thread ∉ s.world.journal →
      t.InPass thread ∧ ∃ g, t.world.graphics = some g ∧ g.affinity.owner = some thread ∧
        g.allows thread = true := by
  refine ⟨?_, h.inPass_iff, ?_⟩
  · intro g shared
    exact ⟨h.gated.owner g shared, h.allows_iff shared⟩
  · intro t ticket thread m pushed started first
    have opened := h.openPass_of_start m pushed started first
    exact (h.move m).allows_of_openPass opened

def Machine.samplePass : Machine :=
  (Request.render.begin ((Request.push none .done).carryOut Machine.sample.world 5).world 0).step

theorem reachable_samplePass : Reachable .standard Machine.samplePass.alone :=
  ((reachable_sample.alone_carryOut rfl (.push none .done) 5).alone_begin rfl .render 0).alone_runFor 1

theorem graphics_allowed_to_queued_call :
    Reachable .standard Machine.samplePass.alone ∧ Machine.samplePass.step.alone.InPass 0 ∧
      ∃ g, Machine.samplePass.step.world.graphics = some g ∧ g.affinity.owner = some 0 ∧
        g.allows 0 = true := by
  refine ⟨reachable_samplePass, ?_⟩
  have starts := (graphics_allowed_iff_inside_pass reachable_samplePass).2.2
  exact starts Machine.samplePass.step.alone 0 0 (.turn [] _ [] .step) (by decide) (by decide)
    (by decide)

theorem Reachable.spilled (h : Reachable b s) {σ : Strand} (mem : σ ∈ s.strands)
    (failing : σ.fault.isSome = true)
    {thread activation count : Nat} {rest : List Runnable} {below : List Frame}
    (stack : σ.stack = .batch thread activation rest count :: below) {r : Runnable} (hr : r ∈ rest)
    (pushed : .submitted .graphics r.ticket ∈ s.world.journal) :
    ∃ first, Called s.world.journal .graphics activation first rest ∧ Broke s.world s.frames first := by
  have orderly := h.orderly σ mem
  have stacked := orderly.stacked
  rw [stack] at stacked
  obtain ⟨first, called, broke⟩ := orderly.blamed thread activation rest count below failing stack
  have line := h.ledger.line_unique (stacked.1.2.filed r hr) pushed
  exact ⟨first, line ▸ called, broke⟩

theorem Ledger.one_condition {w : World} {fs : List Frame} (h : Ledger w fs) {line : Line} {ticket : Nat}
    (pushed : .submitted line ticket ∈ w.journal) :
    copies ticket (w.waiting line) + heldBy ticket fs + w.tally (Event.starts ticket)
      + w.tally (Event.destroys ticket) = 1 := by
  have balance := h.balance ticket
  have once := h.once ticket
  have counted : 1 ≤ w.tally (Event.submits ticket) :=
    List.countP_pos_iff.mpr ⟨_, pushed, by simp [Event.submits]⟩
  -- The ticket was pushed to one line only, so the other two lines hold no copy.
  have elsewhere (l : Line) (other : l ≠ line) := h.copies_elsewhere pushed other
  unfold World.held at balance
  cases line with
  | graphics =>
    have main := elsewhere .mainThread (by decide)
    have standalone := elsewhere .standalone (by decide)
    omega
  | mainThread =>
    have graphics := elsewhere .graphics (by decide)
    have standalone := elsewhere .standalone (by decide)
    omega
  | standalone =>
    have graphics := elsewhere .graphics (by decide)
    have main := elsewhere .mainThread (by decide)
    omega

theorem Reachable.destroyed_by (h : Reachable b s) (m : Move s t) {ticket : Nat} {label : Option String}
    (pushed : .submitted .graphics ticket ∈ t.world.journal)
    (destroyed : .destroyed ticket label ∈ t.world.journal)
    (first : .destroyed ticket label ∉ s.world.journal) :
    (∃ activation first rest, Called s.world.journal .graphics activation first rest ∧
      ticket ∈ rest.map Runnable.ticket ∧ Broke s.world s.frames first) ∨
    (ticket ∈ (s.world.waiting .graphics).map Runnable.ticket ∧ t.world.graphics = none ∧
      t.world.host = none ∧ t.world.handles.any id = false) := by
  obtain ⟨σ, popped, below, others, n, act⟩ := m.act
  have ledger := (h.move m).ledger
  have kept := act.effect.ledgerMove.kept
  have filed := h.ledger.filed
  rw [act.world] at pushed destroyed ledger ⊢
  have unique {line : Line} (r : .submitted line ticket ∈ n.world.journal) : line = .graphics :=
    ledger.line_unique r pushed
  have cause := (act.effect.cause _ destroyed rfl).resolve_left first
  generalize event : Event.destroyed ticket label = e at cause
  cases cause with
  | @spilled r rest thread activation count failing top hr =>
    cases event
    have stack := act.stack
    rw [top] at stack
    -- All calls of a batch were pushed before the batch was taken.
    have old : .submitted .graphics r.ticket ∈ s.world.journal := by
      have stacked := (h.orderly σ act.mem).stacked
      rw [stack] at stacked
      have rests := stacked.1.2
      have line := unique (kept _ (rests.filed r hr))
      exact line ▸ rests.filed r hr
    obtain ⟨first, called, broke⟩ := h.spilled act.mem failing stack hr old
    exact .inl ⟨activation, first, rest, called, List.mem_map_of_mem hr, broke⟩
  | released waits gone unhosted unhandled =>
    cases event
    exact .inr ⟨List.mem_map_of_mem waits, gone, unhosted, unhandled⟩
  | unreceived waits =>
    cases event
    cases unique (kept _ (filed .mainThread _ waits))
  | refused _ submitted =>
    cases event
    cases unique submitted
  | _ => cases event

/-- Every pushed graphics runnable is, at every moment, in exactly one of four states: waiting in the queue,
in the rest of a batch, started once, or destroyed once without a start. It is destroyed only with the rest
of a batch in which an earlier call raised, or with the queue once host and handles are gone. -/
theorem graphics_runnable_in_one_condition (h : Reachable b s) :
    (∀ ticket, .submitted .graphics ticket ∈ s.world.journal →
      copies ticket (s.world.waiting .graphics) + heldBy ticket s.frames + s.world.tally
        (Event.starts ticket)
        + s.world.tally (Event.destroys ticket) = 1) ∧
    ∀ t ticket label, Move s t → .submitted .graphics ticket ∈ t.world.journal →
      .destroyed ticket label ∈ t.world.journal → .destroyed ticket label ∉ s.world.journal →
      (∃ activation first rest, Called s.world.journal .graphics activation first rest ∧
        ticket ∈ rest.map Runnable.ticket ∧ Broke s.world s.frames first) ∨
      (ticket ∈ (s.world.waiting .graphics).map Runnable.ticket ∧ t.world.graphics = none ∧
        t.world.host = none ∧
        t.world.handles.any id = false) := by
  constructor
  · intro ticket pushed
    exact h.ledger.one_condition pushed
  · intro t ticket label m pushed destroyed first
    exact h.destroyed_by m pushed destroyed first

def Machine.sampleFault : Machine :=
  let first := (Request.push none (.act (.raise "lost") .done)).carryOut Machine.sample.world 5
  let second := (Request.push (some "late") .done).carryOut first.world 5
  (Request.render.begin second.world 0).runFor 4

theorem reachable_sampleFault : Reachable .standard Machine.sampleFault.alone := by
  have first := reachable_sample.alone_carryOut rfl (.push none (.act (.raise "lost") .done)) 5
  have second := first.alone_carryOut (by decide) (.push (some "late") .done) 5
  exact (second.alone_begin (by decide) .render 0).alone_runFor 4

theorem graphics_runnable_spilled :
    Reachable .standard Machine.sampleFault.alone ∧
      copies 1 (Machine.sampleFault.world.waiting .graphics) + heldBy 1 Machine.sampleFault.alone.frames
        + Machine.sampleFault.world.tally (Event.starts 1) + Machine.sampleFault.world.tally
          (Event.destroys 1) = 1 ∧
      ∃ activation first rest,
        Called Machine.sampleFault.world.journal .graphics activation first rest ∧
        1 ∈ rest.map Runnable.ticket ∧
          Broke Machine.sampleFault.world Machine.sampleFault.alone.frames first := by
  have conditions := graphics_runnable_in_one_condition reachable_sampleFault
  refine ⟨reachable_sampleFault, conditions.1 1 (by decide), ?_⟩
  have cause := conditions.2 Machine.sampleFault.step.alone 1 (some "late") (.turn [] _ [] .step) (by decide)
      (by decide)
    (by decide)
  exact cause.resolve_right fun released => absurd released.2.1 (by decide)

end

end FrameHost
