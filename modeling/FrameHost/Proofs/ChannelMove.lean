import FrameHost.Proofs.RunnableMove
import FrameHost.Proofs.RunnableStates

/-!
The channel to the main thread as a function of the journal: the runnables dispatched, started and
destroyed, and the number of refused dispatches. A runnable move has one of four effects on the channel
(`ChannelMove`); besides, the channel may be lost (`World.LosesChannel`).
-/
namespace FrameHost

def Event.isRefusal : Event → Bool
  | log .mainThreadGone => true
  | _ => false

/-- A dispatch without a receiver: the runnable was destroyed at once, and a warning followed. -/
def Refused (journal : List Event) (ticket : Nat) : Prop :=
  ∃ newer older label, journal = newer ++ .log .mainThreadGone :: .destroyed ticket label
    :: .submitted .mainThread ticket :: older

/-- The journal grows by events that dispatch `handed`, start `begun`, destroy `lost` and refuse `refusals`
times. -/
structure World.Tells (w v : World) (handed begun lost : List Nat) (refusals : Nat) : Prop where
  journal : ∃ es, v.journal = es ++ w.journal
  handed : pushes .mainThread v.journal = pushes .mainThread w.journal ++ handed
  begun : startsOf .mainThread v.journal = startsOf .mainThread w.journal ++ begun
  lost : lossesOf .mainThread v.journal = lossesOf .mainThread w.journal ++ lost
  refusals : v.tally Event.isRefusal = w.tally Event.isRefusal + refusals

structure World.KeepsChannel (w v : World) : Prop where
  tells : w.Tells v [] [] [] 0
  waiting : v.waiting .mainThread = w.waiting .mainThread
  receiver : v.channel.receiver = w.channel.receiver

inductive ChannelMove (w v : World) : Prop where
  | apart (off : w.KeepsChannel v)
  | accepts (r : Runnable) (alive : w.channel.receiver ≠ .gone) (tells : w.Tells v [r.ticket] [] [] 0)
      (last : v.waiting .mainThread = w.waiting .mainThread ++ [r])
      (receiver : v.channel.receiver = w.channel.receiver)
  | refuses (ticket : Nat) (gone : w.channel.receiver = .gone) (tells : w.Tells v [ticket] [] [ticket] 1)
      (reported : Refused v.journal ticket) (waiting : v.waiting .mainThread = w.waiting .mainThread)
      (receiver : v.channel.receiver = w.channel.receiver)
  | serves (activation : Nat) (r : Runnable) (rest : List Runnable)
      (waits : w.waiting .mainThread = r :: rest) (tells : w.Tells v [] [r.ticket] [] 0)
      (taken : .took activation r.ticket ∈ v.journal) (left : v.waiting .mainThread = rest)
      (receiver : v.channel.receiver = w.channel.receiver)

structure World.LosesChannel (w v : World) : Prop where
  tells : w.Tells v [] [] ((w.waiting .mainThread).map Runnable.ticket) 0
  emptied : v.waiting .mainThread = []
  gone : v.channel.receiver = .gone

theorem ChannelMove.receiver {w v : World} (p : ChannelMove w v) : v.channel.receiver = w.channel.receiver := by
  cases p with
  | apart off => exact off.receiver
  | _ => assumption

theorem World.Tells.trans {u v w : World} {handed begun lost handed' begun' lost' : List Nat} {n m : Nat}
    (h : u.Tells v handed begun lost n) (k : v.Tells w handed' begun' lost' m) :
    u.Tells w (handed ++ handed') (begun ++ begun') (lost ++ lost') (n + m) := by
  obtain ⟨es, old⟩ := h.journal
  obtain ⟨ds, new⟩ := k.journal
  constructor
  · exact ⟨ds ++ es, by rw [new, old, List.append_assoc]⟩
  · rw [k.handed, h.handed, List.append_assoc]
  · rw [k.begun, h.begun, List.append_assoc]
  · rw [k.lost, h.lost, List.append_assoc]
  · rw [k.refusals, h.refusals, Nat.add_assoc]

theorem World.KeepsChannel.trans {u v w : World} (h : u.KeepsChannel v) (k : v.KeepsChannel w) :
    u.KeepsChannel w :=
  ⟨h.tells.trans k.tells, k.waiting.trans h.waiting, k.receiver.trans h.receiver⟩

theorem Refused.later {journal : List Event} {ticket : Nat} (h : Refused journal ticket)
    (es : List Event) : Refused (es ++ journal) ticket := by
  obtain ⟨newer, older, label, rfl⟩ := h
  exact ⟨es ++ newer, older, label, (List.append_assoc ..).symm⟩

namespace Event

variable {e : Event}

theorem destroyedTicket?_apart (h : e.isApart = true) : e.destroyedTicket? = none := by
  cases e <;> first | rfl | cases h

theorem isRefusal_apart (h : e.isApart = true) : e.isRefusal = false := by
  cases e with
  | log r => cases r <;> first | rfl | cases h
  | _ => rfl

end Event

theorem told_destructions (rs : List Runnable) :
    told Event.destroyedTicket? (destructions rs) = rs.map Runnable.ticket := by
  rw [told, destructions, List.filterMap_reverse, List.reverse_reverse, List.filterMap_map]
  exact List.filterMap_eq_map (f := Runnable.ticket) ▸ rfl

section
variable {w v : World} {fs popped : List Frame} {fault : Option Fault} {n : Machine} {es : List Event}

theorem World.tells (journal : v.journal = es ++ w.journal)
    (unstarted : ∀ k ∈ pushes .mainThread es, k ∉ told Event.startedTicket? w.journal)
    (undestroyed : ∀ k ∈ pushes .mainThread es, k ∉ told Event.destroyedTicket? w.journal) :
    w.Tells v (pushes .mainThread es)
      ((told Event.startedTicket? es).filter fun k => k ∈ pushes .mainThread v.journal)
      ((told Event.destroyedTicket? es).filter fun k => k ∈ pushes .mainThread v.journal)
      (es.countP Event.isRefusal) := by
  constructor
  · exact ⟨es, journal⟩
  · rw [journal, pushes_append]
  · rw [journal]
    exact toldOf_append fun k old new => unstarted k new old
  · rw [journal]
    exact toldOf_append fun k old new => undestroyed k new old
  · rw [tally, tally, journal, List.countP_append, Nat.add_comm]

theorem Ledger.tells (ledger : Ledger w fs) (journal : v.journal = es ++ w.journal)
    (handed : pushes .mainThread es = [w.tickets]) :
    w.Tells v [w.tickets]
      ((told Event.startedTicket? es).filter fun k => k ∈ pushes .mainThread v.journal)
      ((told Event.destroyedTicket? es).filter fun k => k ∈ pushes .mainThread v.journal)
      (es.countP Event.isRefusal) := by
  have tells := World.tells journal (by simpa [handed] using ledger.unstarted)
    (by simpa [handed] using ledger.undestroyed)
  rwa [handed] at tells

theorem World.tells_kept (journal : v.journal = es ++ w.journal)
    (kept : ∀ e ∈ es, e.pushed? .mainThread = none) :
    w.Tells v [] ((told Event.startedTicket? es).filter fun k => k ∈ pushes .mainThread w.journal)
      ((told Event.destroyedTicket? es).filter fun k => k ∈ pushes .mainThread w.journal)
      (es.countP Event.isRefusal) := by
  have none : pushes .mainThread es = [] := told_none kept
  have tells := World.tells journal (by simp [none]) (by simp [none])
  rwa [none, journal, pushes_idle kept] at tells

theorem Ledger.elsewhere (ledger : Ledger w fs) {line : Line} {k : Nat} (own : line ≠ .mainThread)
    (filed : .submitted line k ∈ w.journal) : k ∉ pushes .mainThread w.journal := by
  intro mem
  exact own (ledger.line_unique filed (mem_pushes.mp mem))

theorem Ledger.next_unpushed (ledger : Ledger w fs) (line : Line) : w.tickets ∉ pushes line w.journal := by
  intro mem
  exact Nat.lt_irrefl _ (ledger.pushed_early mem)

theorem World.keepsChannel (journal : v.journal = es ++ w.journal)
    (kept : ∀ e ∈ es, e.pushed? .mainThread = none)
    (unbegun : ∀ k ∈ told Event.startedTicket? es, k ∉ pushes .mainThread w.journal)
    (unlost : ∀ k ∈ told Event.destroyedTicket? es, k ∉ pushes .mainThread w.journal)
    (quiet : ∀ e ∈ es, e.isRefusal = false)
    (waiting : v.waiting .mainThread = w.waiting .mainThread)
    (receiver : v.channel.receiver = w.channel.receiver) : w.KeepsChannel v := by
  have tells := World.tells_kept journal kept
  have silent : es.countP Event.isRefusal = 0 := by
    rw [List.countP_eq_zero]
    intro e he
    simp [quiet e he]
  rw [List.filter_eq_nil_iff.mpr (by simpa using unbegun), List.filter_eq_nil_iff.mpr (by simpa using unlost),
    silent] at tells
  exact ⟨tells, waiting, receiver⟩

theorem World.Writes.keepsChannel {e : Event} (writes : w.Writes [e] v)
    (kept : e.pushed? .mainThread = none)
    (mute : e.startedTicket? = none ∧ e.destroyedTicket? = none ∧ e.isRefusal = false)
    (waiting : v.waiting .mainThread = w.waiting .mainThread) : w.KeepsChannel v := by
  obtain ⟨unstarted, undestroyed, quiet⟩ := mute
  refine World.keepsChannel writes.journal (by simpa using kept) ?_ ?_ (by simpa using quiet) waiting
    writes.receiver
  · rw [told_none (by simpa using unstarted)]
    simp
  · rw [told_none (by simpa using undestroyed)]
    simp

theorem World.KeepsRunnables.keepsChannel (keepsRunnables : w.KeepsRunnables v) : w.KeepsChannel v := by
  obtain ⟨es, journal, apart⟩ := keepsRunnables.journal
  have idle (e : Event) (he : e ∈ es) : e.isIdle = true := Event.isIdle_of_isApart (apart e he)
  refine World.keepsChannel journal ?_ ?_ ?_ ?_ (congrFun keepsRunnables.waiting _) keepsRunnables.receiver
  · exact fun e he => Event.pushed?_idle (idle e he) _
  · rw [told_none fun e he => Event.startedTicket?_idle (idle e he)]
    simp
  · rw [told_none fun e he => Event.destroyedTicket?_apart (apart e he)]
    simp
  · exact fun e he => Event.isRefusal_apart (apart e he)

theorem lossNotice_quiet (line : Line) (count : Nat) :
    ∀ e ∈ lossNotice line count, e.destroyedTicket? = none ∧ e.isRefusal = false := by
  unfold lossNotice
  split <;> simp [Event.destroyedTicket?, Event.isRefusal]

theorem destructions_quiet (rs : List Runnable) : ∀ e ∈ destructions rs, e.isRefusal = false := by
  intro e he
  obtain ⟨r, _, rfl⟩ := List.mem_map.mp (List.mem_reverse.mp he)
  rfl

theorem World.LosesLine.keepsChannel {line : Line} (losesLine : w.LosesLine line v) (own : line ≠ .mainThread)
    (ledger : Ledger w fs) : w.KeepsChannel v := by
  have receiver : v.channel.receiver = w.channel.receiver := by
    rw [losesLine.receiver, if_neg own]
  have idle : ∀ e ∈ destructions (w.waiting line) ++ lossNotice line (w.waiting line).length,
      e.isIdle = true := by
    intro e he
    rcases List.mem_append.mp he with destroyed | logged
    · exact destructions_idle _ e destroyed
    · exact lossNotice_idle _ _ e logged
  refine World.keepsChannel losesLine.journal ?_ ?_ ?_ ?_
    (losesLine.others _ fun same => own same.symm) receiver
  · exact fun e he => Event.pushed?_idle (idle e he) _
  · rw [told_none fun e he => Event.startedTicket?_idle (idle e he)]
    simp
  · rw [told_append, told_none fun e he => (lossNotice_quiet line _ e he).1, told_destructions]
    intro k mem
    obtain ⟨r, hr, rfl⟩ := List.mem_map.mp (by simpa using mem)
    exact ledger.elsewhere own (ledger.filed line r hr)
  · intro e he
    rcases List.mem_append.mp he with destroyed | logged
    · exact destructions_quiet _ e destroyed
    · exact (lossNotice_quiet _ _ e logged).2

theorem World.LosesLine.losesChannel (losesLine : w.LosesLine .mainThread v) (ledger : Ledger w fs) :
    w.LosesChannel v := by
  have journal : v.journal = destructions (w.waiting .mainThread) ++ w.journal := by
    rw [losesLine.journal, lossNotice, if_pos (.inl rfl), List.append_nil]
  have idle := destructions_idle (w.waiting .mainThread)
  have tells := World.tells_kept journal fun e he => Event.pushed?_idle (idle e he) _
  have quiet : (destructions (w.waiting .mainThread)).countP Event.isRefusal = 0 := by
    rw [List.countP_eq_zero]
    intro e he
    simp [destructions_quiet _ e he]
  have all : ((w.waiting .mainThread).map Runnable.ticket).filter
      (fun k => k ∈ pushes .mainThread w.journal) = (w.waiting .mainThread).map Runnable.ticket := by
    rw [List.filter_eq_self]
    intro k mem
    obtain ⟨r, hr, rfl⟩ := List.mem_map.mp mem
    simpa using mem_pushes.mpr (ledger.filed .mainThread r hr)
  rw [told_none fun e he => Event.startedTicket?_idle (idle e he), told_destructions, all, quiet] at tells
  exact ⟨tells, losesLine.emptied, losesLine.receiver⟩

/-- If lines are lost, either the channel is one of them or it is unchanged. -/
theorem World.LosesLines.channel (h : w.LosesLines v) (ledger : Ledger w fs) :
    w.KeepsChannel v ∨ w.LosesChannel v := by
  induction h with
  | keepsRunnables keepsRunnables => exact .inl keepsRunnables.keepsChannel
  | @losesLine w v line losesLine =>
    by_cases own : line = .mainThread
    · subst own
      exact .inr (losesLine.losesChannel ledger)
    · exact .inl (losesLine.keepsChannel own ledger)
  | @trans u v w first second ih more =>
    rcases ih ledger with off | losesChannel
    · rcases more (ledger.losesLines first) with off' | losesChannel'
      · exact .inl (off.trans off')
      · have tells := off.tells.trans losesChannel'.tells
        rw [off.waiting] at tells
        exact .inr ⟨tells, losesChannel'.emptied, losesChannel'.gone⟩
    · -- A channel without a receiver is empty.
      rcases more (ledger.losesLines first) with off' | losesChannel'
      · have tells : u.Tells w [] [] ((u.waiting .mainThread).map Runnable.ticket) 0 := by
          simpa using losesChannel.tells.trans off'.tells
        exact .inr ⟨tells, off'.waiting.trans losesChannel.emptied, off'.receiver.trans losesChannel.gone⟩
      · have tells : u.Tells w [] [] ((u.waiting .mainThread).map Runnable.ticket) 0 := by
          simpa [losesChannel.emptied] using losesChannel.tells.trans losesChannel'.tells
        exact .inr ⟨tells, losesChannel'.emptied, losesChannel'.gone⟩

/-- Every runnable move is a channel move. -/
theorem RunnableMove.channelMove (d : RunnableMove w fault popped n) (ledger : Ledger w fs) :
    ChannelMove w n.world := by
  have nothing : ChannelMove w w := .apart (World.KeepsRunnables.refl w).keepsChannel
  cases d with
  | aside same => exact same ▸ nothing
  | abandons ticket world => exact world ▸ nothing
  | finishes ticket world =>
    have writes : w.Writes [.finished ticket] n.world := ⟨by rw [world]; rfl, by rw [world]; rfl⟩
    exact .apart (writes.keepsChannel rfl ⟨rfl, rfl, rfl⟩ (by rw [world]; rfl))
  | queues line r own writes tickets last others received =>
    by_cases here : line = .mainThread
    · subst here
      have tells := ledger.tells writes.journal rfl
      rw [← own] at tells
      exact .accepts r (received rfl) tells last writes.receiver
    · have kept : (Event.submitted line w.tickets).pushed? .mainThread = none := by
        simp [Event.pushed?, here]
      exact .apart (writes.keepsChannel kept ⟨rfl, rfl, rfl⟩ (others _ fun same => here same.symm))
  | inline thread body writes tickets waiting =>
    have unpushed := ledger.next_unpushed .mainThread
    exact .apart (World.keepsChannel writes.journal (by simp [Event.pushed?])
      (by simpa [told, Event.startedTicket?] using unpushed) (by simp [told, Event.destroyedTicket?])
      (by simp [Event.isRefusal]) (congrFun waiting _) writes.receiver)
  | refuses label writes tickets waiting gone =>
    have handed : pushes .mainThread [.log .mainThreadGone, .destroyed w.tickets label,
        .submitted .mainThread w.tickets] = [w.tickets] := rfl
    have tells := ledger.tells writes.journal handed
    have mem : w.tickets ∈ pushes .mainThread n.world.journal := by
      rw [writes.journal, pushes_append, handed]
      simp
    have told : told Event.destroyedTicket? [.log .mainThreadGone, .destroyed w.tickets label,
        .submitted .mainThread w.tickets] = [w.tickets] := rfl
    rw [told, List.filter_cons_of_pos (by simpa using mem)] at tells
    exact .refuses w.tickets gone tells ⟨[], w.journal, label, writes.journal⟩ (congrFun waiting _)
      writes.receiver
  | takes line thread own writes tickets emptied others =>
    exact .apart (writes.keepsChannel rfl ⟨rfl, rfl, rfl⟩ (others _ fun same => own same.symm))
  | rounds thread writes tickets waiting =>
    exact .apart (writes.keepsChannel rfl ⟨rfl, rfl, rfl⟩ (congrFun waiting _))
  | calls thread activation count r rest line well own rests writes tickets waiting =>
    have foreign := ledger.elsewhere own (rests.filed r List.mem_cons_self)
    exact .apart (World.keepsChannel writes.journal (by simp [Event.pushed?])
      (by simpa [told, Event.startedTicket?] using foreign) (by simp [told, Event.destroyedTicket?])
      (by simp [Event.isRefusal]) (congrFun waiting _) writes.receiver)
  | serves thread activation queued ran r rest well short waits writes tickets left =>
    have kept : ∀ e ∈ [Event.started r.ticket thread, .took activation r.ticket],
        e.pushed? .mainThread = none := by simp [Event.pushed?]
    have mem : r.ticket ∈ pushes .mainThread w.journal :=
      mem_pushes.mpr (ledger.filed .mainThread r (by simp [waits]))
    have told : told Event.startedTicket? [.started r.ticket thread, .took activation r.ticket]
        = [r.ticket] := rfl
    have tells := World.tells_kept writes.journal kept
    rw [told, List.filter_cons_of_pos (by simpa using mem)] at tells
    refine .serves activation r rest waits tells ?_ left writes.receiver
    rw [writes.journal]
    simp
  | closes thread activation count line well own rests writes tickets waiting =>
    exact .apart (writes.keepsChannel rfl ⟨rfl, rfl, rfl⟩ (congrFun waiting _))
  | returns thread activation queued ran well spent writes tickets waiting =>
    exact .apart (writes.keepsChannel rfl ⟨rfl, rfl, rfl⟩ (congrFun waiting _))
  | spills thread activation count rest line unwinding own rests world =>
    have journal : n.world.journal = destructions rest ++ w.journal := by
      rw [world, World.journal_destroyAll]
    obtain ⟨j, eq⟩ := w.destroyAll_eq rest
    have still : n.world = { w with journal := j } := world.trans eq
    refine .apart (World.keepsChannel journal ?_ ?_ ?_ (destructions_quiet rest) (by rw [still]; rfl)
      (by rw [still]))
    · exact fun e he => Event.pushed?_idle (destructions_idle rest e he) _
    · rw [told_none fun e he => Event.startedTicket?_idle (destructions_idle rest e he)]
      simp
    · rw [told_destructions]
      intro k mem
      obtain ⟨r, hr, rfl⟩ := List.mem_map.mp mem
      exact ledger.elsewhere own (rests.filed r hr)

/-- A property preserved by channel moves and by the loss of the channel is kept in use. -/
theorem Kept.ofChannelMoves {P : World → Prop} (blank : ∀ {w : World}, w.Blank → P w)
    (passes : ∀ {w v : World}, ChannelMove w v → P w → P v)
    (losesChannel : ∀ {w v : World}, w.LosesChannel v → P w → P v) :
    Kept fun w _ => P w where
  blank := blank
  perm := fun _ h => h
  keepsRunnables := fun keepsRunnables h => passes (.apart keepsRunnables.keepsChannel) h
  losesLine := by
    intro w v fs line ledger losesLine h
    by_cases own : line = .mainThread
    · subst own
      exact losesChannel (losesLine.losesChannel ledger) h
    · exact passes (.apart (losesLine.keepsChannel own ledger)) h
  moves := fun ledger d h => passes (d.channelMove ledger) h

theorem InUse.channel_cases {s t : System} (h : InUse s) (a : Advance s t) :
    s.world.LosesChannel t.world ∨
      ∃ u v, s.world.KeepsChannel u ∧ ChannelMove u v ∧ v.KeepsChannel t.world := by
  have lines (losesLines : s.world.LosesLines t.world) : s.world.LosesChannel t.world ∨
      ∃ u v, s.world.KeepsChannel u ∧ ChannelMove u v ∧ v.KeepsChannel t.world := by
    rcases losesLines.channel h.ledger with off | losesChannel
    · exact .inr ⟨s.world, t.world, (World.KeepsRunnables.refl _).keepsChannel, .apart off,
        (World.KeepsRunnables.refl _).keepsChannel⟩
    · exact .inl losesChannel
  cases a with
  | external external => exact lines external.losesLines
  | move m =>
    obtain ⟨σ, popped, below, others, n, act⟩ := m.act
    rw [act.world] at lines ⊢
    cases h.runnableTurn act with
    | losesLines losesLines => exact lines losesLines
    | @moves u v before runnableMove after =>
      have ledger := (h.ledger.perm act.before).losesLines (.keepsRunnables before)
      exact .inr ⟨u, v, before.keepsChannel, runnableMove.channelMove ledger, after.keepsChannel⟩

end

end FrameHost
