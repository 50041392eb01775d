import FrameHost.Proofs.ChannelMove

/-!
The order in which the channel serves its runnables. The runnables dispatched are, in this order, those
started, those lost and those waiting, for any number and nesting of rounds.
-/
namespace FrameHost

/-- Runnables start in dispatch order, each taken by an activation; losses come after the starts, and
nothing is lost while the receiver is there. -/
structure InOrder (w : World) : Prop where
  closed : w.channel.receiver = .gone → w.waiting .mainThread = []
  spared : w.channel.receiver ≠ .gone → lossesOf .mainThread w.journal = []
  parts : pushes .mainThread w.journal = startsOf .mainThread w.journal
    ++ lossesOf .mainThread w.journal ++ (w.waiting .mainThread).map Runnable.ticket
  taken : ∀ k ∈ startsOf .mainThread w.journal, ∃ activation, .took activation k ∈ w.journal

section
variable {line : Line} {es older : List Event}

theorem startsOf_append (kept : ∀ e ∈ es, e.pushed? line = none) :
    startsOf line (es ++ older)
      = startsOf line older
        ++ (told Event.startedTicket? es).filter fun ticket => ticket ∈ pushes line older := by
  rw [startsOf, toldOf_append (by simp [told_none kept]), ← pushes_told, pushes_idle kept]
  rfl

theorem startsOf_idle (idle : ∀ e ∈ es, e.isIdle = true) :
    startsOf line (es ++ older) = startsOf line older :=
  toldOf_idle (fun e he => Event.startedTicket?_idle (idle e he)) fun e he =>
    Event.pushed?_idle (idle e he) line

end

section
variable {w v : World}

theorem InOrder.whole (h : InOrder w) (alive : w.channel.receiver ≠ .gone) :
    startsOf .mainThread w.journal ++ (w.waiting .mainThread).map Runnable.ticket
      = pushes .mainThread w.journal := by
  rw [h.parts, h.spared alive, List.append_nil]

/-- The runnables started are a prefix of the runnables dispatched. -/
theorem InOrder.order (h : InOrder w) :
    startsOf .mainThread w.journal <+: pushes .mainThread w.journal := by
  rw [h.parts, List.append_assoc]
  exact List.prefix_append ..

theorem InOrder.took {handed lost : List Nat} {refusals : Nat} (h : InOrder w)
    (tells : w.Tells v handed [] lost refusals) :
    ∀ k ∈ startsOf .mainThread v.journal, ∃ activation, .took activation k ∈ v.journal := by
  intro k mem
  rw [tells.begun, List.append_nil] at mem
  obtain ⟨es, journal⟩ := tells.journal
  obtain ⟨activation, taken⟩ := h.taken k mem
  exact ⟨activation, journal ▸ List.mem_append_right es taken⟩

theorem InOrder.passes (h : InOrder w) (p : ChannelMove w v) : InOrder v := by
  cases p with
  | apart off =>
    constructor
    · rw [off.receiver, off.waiting]
      exact h.closed
    · rw [off.receiver, off.tells.lost, List.append_nil]
      exact h.spared
    · rw [off.tells.handed, off.tells.begun, off.tells.lost, off.waiting, h.parts]
      simp
    · exact h.took off.tells
  | accepts r alive tells last receiver =>
    constructor
    · exact fun gone => absurd (receiver ▸ gone) alive
    · intro _
      rw [tells.lost, List.append_nil]
      exact h.spared alive
    · rw [tells.handed, tells.begun, tells.lost, last, h.parts]
      simp
    · exact h.took tells
  | refuses ticket gone tells reported waiting receiver =>
    constructor
    · intro _
      rw [waiting]
      exact h.closed gone
    · exact fun alive => absurd (receiver.trans gone) alive
    · rw [tells.handed, tells.begun, tells.lost, waiting, h.parts, h.closed gone]
      simp
    · exact h.took tells
  | serves activation r rest waits tells taken left receiver =>
    -- The receiver that serves a runnable is there, so nothing was lost.
    have alive : w.channel.receiver ≠ .gone := by
      intro gone
      rw [h.closed gone] at waits
      cases waits
    have none := h.spared alive
    constructor
    · exact fun gone => absurd (receiver ▸ gone) alive
    · intro _
      rw [tells.lost, none]
      rfl
    · rw [tells.handed, tells.begun, tells.lost, left, h.parts, none, waits]
      simp
    · intro k mem
      obtain ⟨es, journal⟩ := tells.journal
      rw [tells.begun] at mem
      rcases List.mem_append.mp mem with old | new
      · obtain ⟨activation, taken⟩ := h.taken k old
        exact ⟨activation, journal ▸ List.mem_append_right es taken⟩
      · rw [List.mem_singleton.mp new]
        exact ⟨activation, taken⟩

theorem InOrder.losesChannel (h : InOrder w) (s : w.LosesChannel v) : InOrder v := by
  constructor
  · exact fun _ => s.emptied
  · exact fun alive => absurd s.gone alive
  · rw [s.tells.handed, s.tells.begun, s.tells.lost, s.emptied, h.parts]
    simp
  · exact h.took s.tells

theorem World.Blank.inOrder (blank : w.Blank) : InOrder w := by
  have started : startsOf .mainThread w.journal = [] := blank.untold _ _
  have lost : lossesOf .mainThread w.journal = [] := blank.untold _ _
  constructor
  · exact fun _ => blank.waiting .mainThread
  · exact fun _ => lost
  · rw [blank.pushed, started, lost, blank.waiting]
    rfl
  · simp [started]

end

theorem kept_inOrder : Kept fun w _ => InOrder w :=
  .ofChannelMoves World.Blank.inOrder (fun p h => h.passes p) fun s h => h.losesChannel s

end FrameHost
