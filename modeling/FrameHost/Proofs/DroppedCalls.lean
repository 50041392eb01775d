import FrameHost.Proofs.CallMove

/-!
The accounting of dropped calls. A queue that is dropped announces the calls it destroys, so the calls
dropped without an announcement are exactly those that a fault destroys with the rest of a batch.
-/
namespace FrameHost

/-- The warnings announce the dropped calls that were never taken out of a queue. -/
structure DropsAnnounced (w : World) : Prop where
  called : ∀ k ∈ batched w.journal, k ∈ told Event.call? w.journal
  queued : ∀ line, line ≠ .mainThread → ∀ r ∈ w.waiting line, r.ticket ∉ batched w.journal
  count : (droppedCalls w.journal).countP (· ∉ batched w.journal) = announced w.journal

section
variable {w v : World} {fs popped : List Frame} {fault : Option Fault} {n : Machine} {k : Nat}

theorem DropsAnnounced.grow {dropped taken : List Nat} {count : Nat} (h : DropsAnnounced w)
    (countsCalls : w.CountsCalls v dropped taken count) (called : ∀ k ∈ taken, k ∈ told Event.call? w.journal)
    (undropped : ∀ k ∈ taken, k ∉ droppedCalls w.journal)
    (told : dropped.countP (· ∉ taken ++ batched w.journal) = count)
    (queued : ∀ line, line ≠ .mainThread → ∀ r ∈ v.waiting line, r.ticket ∉ taken ++ batched w.journal) :
    DropsAnnounced v := by
  obtain ⟨es, journal⟩ := countsCalls.journal
  constructor
  · intro k mem
    rw [countsCalls.taken] at mem
    rw [journal, told_append]
    rcases List.mem_append.mp mem with new | old
    · exact List.mem_append_left _ (called k new)
    · exact List.mem_append_left _ (h.called k old)
  · rw [countsCalls.taken]
    exact queued
  · have same : (droppedCalls w.journal).countP (· ∉ taken ++ batched w.journal)
        = (droppedCalls w.journal).countP (· ∉ batched w.journal) := by
      apply List.countP_congr
      intro k mem
      have apart : k ∉ taken := fun new => undropped k new mem
      simp [apart]
    rw [countsCalls.dropped, countsCalls.taken, List.countP_append, same, h.count, told, countsCalls.announced]

theorem Ledger.waits_undestroyed (ledger : Ledger w fs) {line : Line} :
    ∀ k ∈ (w.waiting line).map Runnable.ticket, k ∉ told Event.destroyedTicket? w.journal := by
  intro k waits destroyed
  have balance := ledger.balance k
  have once := ledger.once k
  have held : 0 < w.held k := by
    obtain ⟨r, hr, rfl⟩ := List.mem_map.mp waits
    have copied : 0 < copies r.ticket (w.waiting line) :=
      List.countP_pos_iff.mpr ⟨r, hr, by simp⟩
    unfold World.held
    cases line <;> omega
  have counted := World.tally_destroyed destroyed
  omega

theorem DropsAnnounced.callMoves (h : DropsAnnounced w) (ledger : Ledger w fs)
    (callMove : CallMove w fault popped v) :
    DropsAnnounced v := by
  cases callMove with
  | free countsCalls waits =>
    apply h.grow countsCalls (by simp) (by simp) (by simp)
    intro line own r mem
    rcases waits line own r mem with old | next
    · exact h.queued line own r old
    · rw [next]
      exact fun taken => ledger.next_uncalled (h.called _ taken)
  | takes line own countsCalls emptied others =>
    apply h.grow countsCalls (ledger.waits_called own) ?_ (by simp) ?_
    · intro k mem dropped
      exact ledger.waits_undestroyed k mem (List.mem_filter.mp dropped).1
    · intro l away r mem taken
      by_cases here : l = line
      · subst here
        rw [emptied] at mem
        cases mem
      · rw [others l here] at mem
        rcases List.mem_append.mp taken with new | old
        · obtain ⟨x, hx, same⟩ := List.mem_map.mp new
          have filed := ledger.filed line x hx
          rw [same] at filed
          exact here (ledger.line_unique (ledger.filed l r mem) filed)
        · exact h.queued l away r mem old
  | spills thread activation count rest line unwinding top own rests countsCalls waiting =>
    apply h.grow countsCalls (by simp) (by simp) ?_ ?_
    · rw [List.countP_eq_zero]
      intro k mem
      obtain ⟨before, began⟩ := rests.began
      have taken : k ∈ batched w.journal :=
        mem_batched.mpr ⟨line, activation, _, own, began, List.mem_append_right before mem⟩
      simpa using taken
    · intro l away r mem
      rw [waiting] at mem
      exact h.queued l away r mem

theorem Ledger.dropped_once (ledger : Ledger w fs) : (droppedCalls w.journal).Nodup ∧
    ∀ k ∈ droppedCalls w.journal, w.tally (Event.starts k) = 0 := by
  constructor
  · exact ledger.destroyed_nodup.filter _
  · intro k dropped
    have counted := World.tally_destroyed (List.mem_filter.mp dropped).1
    have balance := ledger.balance k
    have once := ledger.once k
    omega

theorem World.LosesLine.shorter {line : Line} (losesLine : w.LosesLine line v) (l : Line) :
    ∀ r ∈ v.waiting l, r ∈ w.waiting l := by
  intro r mem
  by_cases here : l = line
  · subst here
    rw [losesLine.emptied] at mem
    cases mem
  · exact losesLine.others l here ▸ mem

theorem DropsAnnounced.losesLine {line : Line} (h : DropsAnnounced w) (ledger : Ledger w fs)
    (losesLine : w.LosesLine line v) :
    DropsAnnounced v := by
  by_cases own : line = .mainThread
  · subst own
    apply h.grow (losesLine.countsCalls_nothing ledger) (by simp) (by simp) (by simp)
    exact fun l away r mem => h.queued l away r (losesLine.shorter l r mem)
  · apply h.grow (losesLine.countsCalls own ledger) (by simp) (by simp)
    · rw [List.countP_eq_length.mpr, List.length_map]
      intro k mem
      obtain ⟨r, hr, rfl⟩ := List.mem_map.mp mem
      simpa using h.queued line own r hr
    · exact fun l away r mem => h.queued l away r (losesLine.shorter l r mem)

theorem World.Blank.countsCalls (blank : w.Blank) : World.empty.CountsCalls w [] [] 0 := by
  apply World.countsCalls_mute (List.append_nil _).symm
  exact fun e he => Event.isMute_of_isApart (Event.isApart_of_isRemark (blank.journal e he))

theorem World.Blank.dropsAnnounced (blank : w.Blank) : DropsAnnounced w := by
  have untaken : batched w.journal = [] := blank.countsCalls.taken
  have undropped : droppedCalls w.journal = [] := blank.countsCalls.dropped
  constructor
  · simp [untaken]
  · simp [untaken]
  · rw [undropped, blank.countsCalls.announced]
    rfl

theorem kept_dropsAnnounced : Kept fun w _ => DropsAnnounced w where
  blank := World.Blank.dropsAnnounced
  perm := fun _ h => h
  keepsRunnables := fun keepsRunnables h => by
    apply h.grow keepsRunnables.countsCalls (by simp) (by simp) (by simp)
    rw [keepsRunnables.waiting]
    exact h.queued
  losesLine := fun ledger losesLine h => h.losesLine ledger losesLine
  moves := fun ledger d h => h.callMoves ledger (d.callMove ledger)

theorem World.LosesLines.drops (h : w.LosesLines v) (ledger : Ledger w fs) :
    batched v.journal = batched w.journal ∧
    (∀ line, line ≠ .mainThread → ∀ r ∈ v.waiting line, r ∈ w.waiting line) ∧
    ∀ k ∈ droppedCalls v.journal, k ∈ droppedCalls w.journal ∨
      ∃ line, line ≠ .mainThread ∧ k ∈ (w.waiting line).map Runnable.ticket := by
  induction h with
  | keepsRunnables keepsRunnables =>
    refine ⟨keepsRunnables.countsCalls.taken, ?_, ?_⟩
    · rw [keepsRunnables.waiting]
      exact fun _ _ _ mem => mem
    · rw [keepsRunnables.countsCalls.dropped, List.append_nil]
      exact fun _ mem => .inl mem
  | @losesLine w v line losesLine =>
    have left : ∀ l, l ≠ .mainThread → ∀ r ∈ v.waiting l, r ∈ w.waiting l :=
      fun l _ r mem => losesLine.shorter l r mem
    by_cases own : line = .mainThread
    · subst own
      have countsCalls := losesLine.countsCalls_nothing ledger
      refine ⟨countsCalls.taken, left, ?_⟩
      rw [countsCalls.dropped, List.append_nil]
      exact fun _ mem => .inl mem
    · have countsCalls := losesLine.countsCalls own ledger
      refine ⟨countsCalls.taken, left, ?_⟩
      intro k mem
      rw [countsCalls.dropped] at mem
      rcases List.mem_append.mp mem with old | new
      · exact .inl old
      · exact .inr ⟨line, own, new⟩
  | trans first second ih more =>
    obtain ⟨taken, left, dropped⟩ := ih ledger
    obtain ⟨taken', left', dropped'⟩ := more (ledger.losesLines first)
    refine ⟨taken'.trans taken, fun line own r mem => left line own r (left' line own r mem), ?_⟩
    intro k mem
    rcases dropped' k mem with old | ⟨line, own, waits⟩
    · exact dropped k old
    · obtain ⟨r, hr, rfl⟩ := List.mem_map.mp waits
      exact .inr ⟨line, own, List.mem_map_of_mem (left line own r hr)⟩

end

/-- A call was destroyed with the rest of a batch in which an earlier call broke. -/
def Spilled (w : World) (fs : List Frame) (k : Nat) : Prop :=
  ∃ line activation first rest, Called w.journal line activation first rest ∧
    k ∈ rest.map Runnable.ticket ∧ Broke w fs first

section
variable {s t : System} {k : Nat}

theorem InUse.spills (h : InUse s) {σ : Strand} {popped below : List Frame} {others : List Strand}
    {n : Machine} (act : Act s t σ popped below others n) {thread activation count : Nat}
    {rest : List Runnable} (top : popped = [.batch thread activation rest count])
    (unwinding : σ.fault.isSome = true) (mem : k ∈ rest.map Runnable.ticket) :
    Spilled s.world s.frames k := by
  have stack : σ.stack = .batch thread activation rest count :: below := by
    rw [act.stack, top]
    rfl
  obtain ⟨first, called, broke⟩ :=
    (h.orderly σ act.mem).blamed thread activation rest count below unwinding stack
  exact ⟨_, activation, first, rest, called, mem, broke⟩

theorem InUse.drops (h : InUse s) (a : Advance s t) (dropped : k ∈ droppedCalls t.world.journal)
    (taken : k ∈ batched t.world.journal) :
    k ∈ droppedCalls s.world.journal ∧ k ∈ batched s.world.journal ∨ Spilled s.world s.frames k := by
  have dropsAnnounced := kept_dropsAnnounced.inUse h
  have shed (losesLines : s.world.LosesLines t.world) :
      k ∈ droppedCalls s.world.journal ∧ k ∈ batched s.world.journal := by
    obtain ⟨same, _, grown⟩ := losesLines.drops h.ledger
    rw [same] at taken
    rcases grown k dropped with old | ⟨line, own, waits⟩
    · exact ⟨old, taken⟩
    · obtain ⟨r, hr, rfl⟩ := List.mem_map.mp waits
      exact absurd taken (dropsAnnounced.queued line own r hr)
  cases a with
  | external external => exact .inl (shed external.losesLines)
  | move m =>
    obtain ⟨σ, popped, below, others, n, act⟩ := m.act
    cases h.runnableTurn act with
    | losesLines losesLines => exact .inl (shed (act.world ▸ losesLines))
    | @moves u v before runnableMove after =>
      have ledger := (h.ledger.perm act.before).losesLines (.keepsRunnables before)
      rw [act.world, after.countsCalls.dropped, List.append_nil] at dropped
      rw [act.world, after.countsCalls.taken, List.nil_append] at taken
      have was : droppedCalls u.journal = droppedCalls s.world.journal := by
        rw [before.countsCalls.dropped, List.append_nil]
      have had : batched u.journal = batched s.world.journal := before.countsCalls.taken
      cases runnableMove.callMove ledger with
      | free countsCalls =>
        rw [countsCalls.dropped, List.append_nil, was] at dropped
        rw [countsCalls.taken, List.nil_append, had] at taken
        exact .inl ⟨dropped, taken⟩
      | takes line own countsCalls =>
        rw [countsCalls.dropped, List.append_nil] at dropped
        rw [countsCalls.taken] at taken
        rcases List.mem_append.mp taken with new | old
        · exact absurd (List.mem_filter.mp dropped).1 (ledger.waits_undestroyed k new)
        · exact .inl ⟨was ▸ dropped, had ▸ old⟩
      | spills thread activation count rest line unwinding top own rests countsCalls =>
        rw [countsCalls.dropped] at dropped
        rw [countsCalls.taken, List.nil_append, had] at taken
        rcases List.mem_append.mp dropped with old | new
        · exact .inl ⟨was ▸ old, taken⟩
        · exact .inr (h.spills act top unwinding new)

/-- A broken call stays broken. -/
theorem InUse.broke_later (h : InUse s) (a : Advance s t) (broke : Broke s.world s.frames k)
    (started : ∃ thread, .started k thread ∈ s.world.journal) : Broke t.world t.frames k := by
  obtain ⟨popped, laid, others, before, ledgerMove, after⟩ := a.ledgerMove
  have later := (broke.perm before).ledgerMove ledgerMove ((h.next a).ledger.perm after) started
  exact later.perm after.symm

theorem Advance.kept (a : Advance s t) : ∀ e ∈ s.world.journal, e ∈ t.world.journal := by
  obtain ⟨popped, laid, others, before, ledgerMove, after⟩ := a.ledgerMove
  exact ledgerMove.kept

theorem InUse.spilled_later (h : InUse s) (a : Advance s t) (spilled : Spilled s.world s.frames k) :
    Spilled t.world t.frames k := by
  obtain ⟨line, activation, first, rest, called, mem, broke⟩ := spilled
  exact ⟨line, activation, first, rest, called.mono a.kept, mem, h.broke_later a broke called.started⟩

theorem InUse.spilled (h : InUse s) (dropped : k ∈ droppedCalls s.world.journal)
    (taken : k ∈ batched s.world.journal) : Spilled s.world s.frames k := by
  induction h with
  | idle strands blank =>
    rw [blank.countsCalls.taken] at taken
    cases taken
  | next used a ih =>
    rcases used.drops a dropped taken with ⟨dropped, taken⟩ | spilled
    · exact used.spilled_later a (ih dropped taken)
    · exact used.spilled_later a spilled

/-- The dropped calls are those announced by warnings and those already taken out of a queue; the latter
were destroyed with the rest of a batch in which an earlier call broke. Where no call breaks, the warnings
announce all dropped calls. -/
theorem dropped_calls_announced_or_spilled (h : InUse s) :
    (droppedCalls s.world.journal).Nodup ∧
    (∀ k ∈ droppedCalls s.world.journal, s.world.tally (Event.starts k) = 0) ∧
    (droppedCalls s.world.journal).length = announced s.world.journal
      + (droppedCalls s.world.journal).countP (· ∈ batched s.world.journal) ∧
    (∀ k ∈ droppedCalls s.world.journal, k ∈ batched s.world.journal → Spilled s.world s.frames k) ∧
    ((∀ line activation first rest, Called s.world.journal line activation first rest →
        ¬ Broke s.world s.frames first) →
      (droppedCalls s.world.journal).length = announced s.world.journal) := by
  have dropsAnnounced := kept_dropsAnnounced.inUse h
  obtain ⟨nodup, unstarted⟩ := h.ledger.dropped_once
  have split := List.length_eq_countP_add_countP (l := droppedCalls s.world.journal)
    (p := (· ∈ batched s.world.journal))
  have count := dropsAnnounced.count
  have total : (droppedCalls s.world.journal).length = announced s.world.journal
      + (droppedCalls s.world.journal).countP (· ∈ batched s.world.journal) := by
    simp only [decide_eq_true_eq, decide_not] at split count
    omega
  refine ⟨nodup, unstarted, total, fun k dropped taken => h.spilled dropped taken, ?_⟩
  intro sound
  have none : (droppedCalls s.world.journal).countP (· ∈ batched s.world.journal) = 0 := by
    rw [List.countP_eq_zero]
    intro k dropped taken
    obtain ⟨line, activation, first, rest, called, _, broke⟩ :=
      h.spilled dropped (by simpa using taken)
    exact sound line activation first rest called broke
  rw [total, none]
  rfl

def World.sampleQueue : World := { World.empty with standalone := some .empty }

theorem inUse_sampleQueue : InUse (Machine.proceed World.sampleQueue []).alone := by
  have blank : World.sampleQueue.Blank := by
    constructor
    · intro line
      cases line <;> rfl
    · simp [World.sampleQueue, World.empty]
  exact .idle 1 blank

def Machine.queueDropped (m : Machine) : System := ⟨QueueSession.drop m.world, m.alone.strands⟩

theorem InUse.queueDropped {m : Machine} (h : InUse m.alone) : InUse m.queueDropped :=
  h.next (.external .dropQueue)

def Machine.sampleIdleCall : Machine :=
  (Request.act (.nest (.enqueue (some "late")) (.act (.note "never") .done) .done)).carryOut
    World.sampleQueue 0

def Machine.sampleSpill : Machine :=
  let first := (Request.act (.nest (.enqueue none) (.act (.raise "boom") .done) .done)).carryOut
    World.sampleQueue 0
  let second := (Request.act (.nest (.enqueue (some "lost")) (.act (.note "never") .done) .done)).carryOut
    first.world 0
  (Request.act (.act .drainQueue .done)).carryOut second.world 0

theorem inUse_sampleSpill : InUse Machine.sampleSpill.queueDropped := by
  have first := inUse_sampleQueue.alone_carryOut rfl
    (.act (.nest (.enqueue none) (.act (.raise "boom") .done) .done)) 0
  have second := first.alone_carryOut (by decide)
    (.act (.nest (.enqueue (some "lost")) (.act (.note "never") .done) .done)) 0
  have drained : InUse Machine.sampleSpill.alone :=
    second.alone_carryOut (by decide) (.act (.act .drainQueue .done)) 0
  exact drained.queueDropped

theorem calls_announced_and_spilled :
    InUse Machine.sampleIdleCall.queueDropped ∧ InUse Machine.sampleSpill.queueDropped ∧
      droppedCalls Machine.sampleIdleCall.queueDropped.world.journal = [0] ∧
      (droppedCalls Machine.sampleIdleCall.queueDropped.world.journal).length
        = announced Machine.sampleIdleCall.queueDropped.world.journal ∧
      droppedCalls Machine.sampleSpill.queueDropped.world.journal = [1] ∧
      (droppedCalls Machine.sampleSpill.queueDropped.world.journal).length
        = announced Machine.sampleSpill.queueDropped.world.journal
          + (droppedCalls Machine.sampleSpill.queueDropped.world.journal).countP
              (· ∈ batched Machine.sampleSpill.queueDropped.world.journal) ∧
      Spilled Machine.sampleSpill.queueDropped.world Machine.sampleSpill.queueDropped.frames 1 := by
  have used : InUse Machine.sampleIdleCall.queueDropped :=
    (inUse_sampleQueue.alone_carryOut rfl _ 0).queueDropped
  obtain ⟨_, _, _, _, announces⟩ := dropped_calls_announced_or_spilled used
  obtain ⟨_, _, total, spilled, _⟩ := dropped_calls_announced_or_spilled inUse_sampleSpill
  refine ⟨used, inUse_sampleSpill, by decide, announces ?_, by decide, total,
    spilled 1 (by decide) (by decide)⟩
  intro line activation first rest called
  have journal : Machine.sampleIdleCall.queueDropped.world.journal
      = [.destroyed 0 (some "late"), .log (.droppingCalls 1), .submitted .standalone 0] := by decide
  have took := called.took
  simp [journal] at took

theorem dropped_without_announcement : ¬ ∀ s : System, InUse s → s.world.graphics = none →
    s.world.standalone = none → (droppedCalls s.world.journal).length = announced s.world.journal := by
  intro claim
  have counts := claim Machine.sampleSpill.queueDropped inUse_sampleSpill (by decide) (by decide)
  exact absurd counts (by decide)

end

end FrameHost
