import FrameHost.Proofs.MainThread

/-!
The runnables that the channel to the main thread loses. A dispatch without a receiver destroys its runnable
and logs a warning; runnables that were accepted and still wait when the receiver is dropped are destroyed
without a warning.
-/
namespace FrameHost

/-- The receiver is gone throughout, and each runnable dispatched from `w` to `v` is destroyed with a
warning of its own. -/
structure World.Refuses (w v : World) : Prop where
  gone : v.channel.receiver = .gone
  reported : ∃ late, w.Tells v late [] late late.length ∧ ∀ k ∈ late, Refused v.journal k

/-- The receiver is gone, and `waited` are the tickets that waited in the channel when it went. -/
inductive ReceiverLost : System → List Nat → Prop where
  | never {w : World} (strands : Nat) (blank : w.Blank) (gone : w.channel.receiver = .gone) :
      ReceiverLost ⟨w, List.replicate strands .idle⟩ []
  | lost {s t : System} (used : InUse s) (a : Advance s t) (alive : s.world.channel.receiver ≠ .gone)
      (gone : t.world.channel.receiver = .gone) :
      ReceiverLost t ((s.world.waiting .mainThread).map Runnable.ticket)
  | later {s t : System} {waited : List Nat} (r : ReceiverLost s waited) (a : Advance s t) :
      ReceiverLost t waited

section
variable {w v : World}

theorem World.KeepsChannel.refuses (off : w.KeepsChannel v) (gone : w.channel.receiver = .gone) : w.Refuses v :=
  ⟨off.receiver.trans gone, [], off.tells, by simp⟩

theorem World.LosesChannel.refuses (s : w.LosesChannel v) (empty : w.waiting .mainThread = []) :
    w.Refuses v := by
  have tells := s.tells
  rw [empty] at tells
  exact ⟨s.gone, [], tells, by simp⟩

theorem World.Refuses.trans {u : World} (h : u.Refuses w) (k : w.Refuses v) : u.Refuses v := by
  obtain ⟨_, early, first, old⟩ := h
  obtain ⟨gone, late, second, new⟩ := k
  obtain ⟨es, journal⟩ := second.journal
  refine ⟨gone, early ++ late, ?_, ?_⟩
  · rw [List.length_append]
    exact first.trans second
  · intro k mem
    rcases List.mem_append.mp mem with before | after
    · exact journal ▸ (old k before).later es
    · exact new k after

theorem InOrder.refuses (h : InOrder w) (gone : w.channel.receiver = .gone) (p : ChannelMove w v) :
    w.Refuses v := by
  cases p with
  | apart off => exact off.refuses gone
  | accepts r alive => exact absurd gone alive
  | refuses ticket _ tells reported waiting receiver =>
    exact ⟨receiver.trans gone, [ticket], tells, by simpa using reported⟩
  | serves activation r rest waits =>
    rw [h.closed gone] at waits
    cases waits

end

def Unrefused (w : World) : Prop :=
  w.channel.receiver ≠ .gone → w.tally Event.isRefusal = 0

theorem World.Blank.unrefused {w : World} (blank : w.Blank) : w.tally Event.isRefusal = 0 := by
  rw [World.tally, List.countP_eq_zero]
  intro e he
  have apart := Event.isApart_of_isRemark (blank.journal e he)
  simp [Event.isRefusal_apart apart]

theorem kept_unrefused : Kept fun w _ => Unrefused w := by
  refine .ofChannelMoves (fun blank _ => blank.unrefused) ?_ fun s _ alive => absurd s.gone alive
  intro w v p none alive
  have before : w.channel.receiver ≠ .gone := p.receiver ▸ alive
  cases p with
  | apart off => exact off.tells.refusals.trans (none before)
  | accepts r _ tells => exact tells.refusals.trans (none before)
  | refuses ticket gone => exact absurd gone before
  | serves activation r rest waits tells => exact tells.refusals.trans (none before)

section
variable {s t : System}

theorem InUse.losesChannel (h : InUse s) (a : Advance s t) (alive : s.world.channel.receiver ≠ .gone)
    (gone : t.world.channel.receiver = .gone) : s.world.LosesChannel t.world := by
  rcases h.channel_cases a with losesChannel | ⟨u, v, before, channelMove, after⟩
  · exact losesChannel
  · have receiver := after.receiver.trans (channelMove.receiver.trans before.receiver)
    exact absurd (receiver ▸ gone) alive

theorem InUse.refuses (h : InUse s) (a : Advance s t) (gone : s.world.channel.receiver = .gone) :
    s.world.Refuses t.world := by
  have order := kept_inOrder.inUse h
  rcases h.channel_cases a with losesChannel | ⟨u, v, before, channelMove, after⟩
  · exact losesChannel.refuses (order.closed gone)
  · have early := before.refuses gone
    have during := (order.passes (.apart before)).refuses early.gone channelMove
    exact (early.trans during).trans (after.refuses during.gone)

theorem ReceiverLost.inUse {waited : List Nat} (r : ReceiverLost s waited) : InUse s := by
  induction r with
  | never strands blank => exact .idle strands blank
  | lost used a => exact used.next a
  | later _ a ih => exact ih.next a

theorem InUse.receiverLost (h : InUse s) (gone : s.world.channel.receiver = .gone) :
    ∃ waited, ReceiverLost s waited := by
  induction h with
  | idle strands blank => exact ⟨[], .never strands blank gone⟩
  | @next s t used a ih =>
    by_cases before : s.world.channel.receiver = .gone
    · obtain ⟨waited, r⟩ := ih before
      exact ⟨waited, r.later a⟩
    · exact ⟨_, .lost used a before gone⟩

theorem InUse.lost_with_receiver (h : InUse s) (a : Advance s t) (alive : s.world.channel.receiver ≠ .gone)
    (gone : t.world.channel.receiver = .gone) :
    lossesOf .mainThread t.world.journal = (s.world.waiting .mainThread).map Runnable.ticket ∧
      t.world.tally Event.isRefusal = 0 := by
  have losesChannel := h.losesChannel a alive gone
  constructor
  · rw [losesChannel.tells.lost, (kept_inOrder.inUse h).spared alive]
    rfl
  · rw [losesChannel.tells.refusals, kept_unrefused.inUse h alive]

/-- The runnables that waited when the receiver went have no warning, and every later loss is refused. -/
theorem ReceiverLost.losses {waited : List Nat} (r : ReceiverLost s waited) :
    s.world.channel.receiver = .gone ∧ ∃ refused, lossesOf .mainThread s.world.journal = waited ++ refused ∧
      s.world.tally Event.isRefusal = refused.length ∧ ∀ k ∈ refused, Refused s.world.journal k := by
  induction r with
  | never strands blank gone => exact ⟨gone, [], blank.untold _ _, blank.unrefused, by simp⟩
  | lost used a alive gone =>
    obtain ⟨lost, silent⟩ := used.lost_with_receiver a alive gone
    exact ⟨gone, [], by rw [lost, List.append_nil], silent, by simp⟩
  | @later s t waited r a ih =>
    obtain ⟨gone, refused, split, count, old⟩ := ih
    obtain ⟨still, late, tells, new⟩ := r.inUse.refuses a gone
    obtain ⟨es, journal⟩ := tells.journal
    refine ⟨still, refused ++ late, ?_, ?_, ?_⟩
    · rw [tells.lost, split, List.append_assoc]
    · rw [tells.refusals, count, List.length_append]
    · intro k mem
      rcases List.mem_append.mp mem with before | after
      · exact journal ▸ (old k before).later es
      · exact new k after

/-- Each dispatched runnable was started, was lost after all those started, or still waits, and each only
once. While the receiver is there, none is lost and no warning is written; once it is gone, none waits.
Among the lost runnables, those that waited when the receiver went have no warning, and every other one was
dispatched later and refused, with one warning each. Hence all losses are reported if nothing waited then.
-/
theorem dispatched_work_starts_waits_or_is_lost (h : InUse s) :
    (pushes .mainThread s.world.journal).Nodup ∧
    pushes .mainThread s.world.journal = startsOf .mainThread s.world.journal
      ++ lossesOf .mainThread s.world.journal ++ (s.world.waiting .mainThread).map Runnable.ticket ∧
    (s.world.channel.receiver = .gone →
      s.world.waiting .mainThread = [] ∧ ∃ waited, ReceiverLost s waited) ∧
    (s.world.channel.receiver ≠ .gone →
      lossesOf .mainThread s.world.journal = [] ∧ s.world.tally Event.isRefusal = 0) ∧
    (∀ waited, ReceiverLost s waited → ∃ refused,
      lossesOf .mainThread s.world.journal = waited ++ refused ∧
      s.world.tally Event.isRefusal = refused.length ∧ ∀ k ∈ refused, Refused s.world.journal k) ∧
    (ReceiverLost s [] → ∀ k ∈ lossesOf .mainThread s.world.journal, Refused s.world.journal k) ∧
    (∀ t, Advance s t → s.world.channel.receiver = .gone → s.world.Refuses t.world) ∧
    ∀ t, Advance s t → s.world.channel.receiver ≠ .gone → t.world.channel.receiver = .gone →
      lossesOf .mainThread t.world.journal = (s.world.waiting .mainThread).map Runnable.ticket ∧
      t.world.tally Event.isRefusal = 0 := by
  have order := kept_inOrder.inUse h
  refine ⟨h.ledger.pushes_nodup _, order.parts, ?_, ?_, ?_, ?_, ?_, ?_⟩
  · exact fun gone => ⟨order.closed gone, h.receiverLost gone⟩
  · exact fun alive => ⟨order.spared alive, kept_unrefused.inUse h alive⟩
  · exact fun waited r => r.losses.2
  · intro r k mem
    obtain ⟨_, refused, split, _, reported⟩ := r.losses
    rw [split] at mem
    exact reported k mem
  · exact fun t a gone => h.refuses a gone
  · exact fun t a alive gone => h.lost_with_receiver a alive gone

def Machine.sampleWaiting : Machine :=
  (Request.act (.nest (.dispatch 0 (some "lost")) (.act (.note "never") .done) .done)).carryOut
    World.sampleChannel 0

theorem inUse_sampleWaiting : InUse Machine.sampleWaiting.alone :=
  inUse_sampleChannel.alone_carryOut rfl _ 0

def Machine.sampleReceiverDropped : Machine := Request.dropReceiver.begin Machine.sampleWaiting.world 0

def Machine.sampleLateDispatch : Machine :=
  (Request.act (.nest (.dispatch 0 (some "late")) (.act (.note "never") .done) .done)).carryOut
    Machine.sampleReceiverDropped.world 0

theorem move_sampleReceiverDropped : Move Machine.sampleWaiting.alone Machine.sampleReceiverDropped.alone :=
  .turn [] Machine.sampleWaiting.strand [] (.begin .dropReceiver 0 (by decide) (by decide))

theorem receiverLost_sampleLateDispatch : ReceiverLost Machine.sampleLateDispatch.alone [0] := by
  have keeps (s t : System) (r : ReceiverLost s [0]) (m : Move s t) : ReceiverLost t [0] := r.later (.move m)
  have severed : ReceiverLost Machine.sampleReceiverDropped.alone [0] :=
    .lost inUse_sampleWaiting (.move move_sampleReceiverDropped) (by decide) (by decide)
  exact Machine.alone_steps keeps _ (Machine.alone_begins keeps severed (by decide) _ 0)

theorem channel_lost_in_silence :
    (InUse Machine.sampleWaiting.alone ∧
      Machine.sampleWaiting.world.channel.receiver ≠ .gone ∧
      Machine.sampleReceiverDropped.world.channel.receiver = .gone ∧
      lossesOf .mainThread Machine.sampleReceiverDropped.world.journal = [0] ∧
      Machine.sampleReceiverDropped.world.tally Event.isRefusal = 0) ∧
    InUse Machine.sampleLateDispatch.alone ∧ ReceiverLost Machine.sampleLateDispatch.alone [0] ∧
      pushes .mainThread Machine.sampleLateDispatch.world.journal = [0, 1] ∧
      lossesOf .mainThread Machine.sampleLateDispatch.world.journal = [0, 1] ∧
      Machine.sampleLateDispatch.world.tally Event.isRefusal = 1 ∧
      Refused Machine.sampleLateDispatch.world.journal 1 := by
  constructor
  · have alive : Machine.sampleWaiting.world.channel.receiver ≠ .gone := by decide
    have gone : Machine.sampleReceiverDropped.world.channel.receiver = .gone := by decide
    obtain ⟨_, _, _, _, _, _, _, lost⟩ := dispatched_work_starts_waits_or_is_lost inUse_sampleWaiting
    exact ⟨inUse_sampleWaiting, alive, gone,
      lost Machine.sampleReceiverDropped.alone (.move move_sampleReceiverDropped) alive gone⟩
  · have lost := receiverLost_sampleLateDispatch
    obtain ⟨_, _, _, _, late, _⟩ := dispatched_work_starts_waits_or_is_lost lost.inUse
    obtain ⟨refused, split, count, reported⟩ := late [0] lost
    have losses : lossesOf .mainThread Machine.sampleLateDispatch.world.journal = [0, 1] := by decide
    obtain rfl : refused = [1] := by
      rw [show lossesOf .mainThread Machine.sampleLateDispatch.alone.world.journal = _ from losses] at split
      simpa using split.symm
    exact ⟨lost.inUse, lost, by decide, losses, count, reported 1 List.mem_cons_self⟩

theorem lost_without_warning : ¬ ∀ (s : System) (k : Nat) (label : Option String), InUse s →
    .submitted .mainThread k ∈ s.world.journal → .destroyed k label ∈ s.world.journal →
    ∃ r, .log r ∈ s.world.journal ∧ r.level = .warn := by
  intro claim
  have used : InUse Machine.sampleReceiverDropped.alone :=
    inUse_sampleWaiting.alone_begin (by decide) .dropReceiver 0
  obtain ⟨r, logged, _⟩ := claim _ 0 (some "lost") used (by decide) (by decide)
  have journal : Machine.sampleReceiverDropped.world.journal
      = [.destroyed 0 (some "lost"), .submitted .mainThread 0] := by decide
  simp [Machine.alone, journal] at logged

end

end FrameHost
