import Mathlib.Algebra.GroupWithZero.Nat
import FrameHost.Proofs.ChannelMove

/-!
The queues of calls as a function of the journal: the calls destroyed without a start, the calls taken out
of a queue as a batch, and the numbers announced by warnings. A runnable move has one of three effects on
calls (`CallMove`); besides, a queue may be lost.
-/
namespace FrameHost

namespace Event

def call? : Event → Option Nat
  | submitted line ticket => if line = .mainThread then none else some ticket
  | _ => none

def batch : Event → List Nat
  | began line _ waiting => if line = .mainThread then [] else waiting
  | _ => []

def announces : Event → Nat
  | log (.droppingCalls count) => count
  | _ => 0

def isMute : Event → Bool
  | submitted line _ | began line _ _ => line = .mainThread
  | destroyed .. | log (.droppingCalls _) => false
  | _ => true

theorem tells_of_isMute {e : Event} (h : e.isMute = true) :
    e.call? = none ∧ e.destroyedTicket? = none ∧ e.batch = [] ∧ e.announces = 0 := by
  cases e with
  | submitted line ticket => exact ⟨if_pos (by simpa [isMute] using h), rfl, rfl, rfl⟩
  | began line activation waiting => exact ⟨rfl, rfl, if_pos (by simpa [isMute] using h), rfl⟩
  | log r => cases r <;> first | exact ⟨rfl, rfl, rfl, rfl⟩ | cases h
  | _ => first | exact ⟨rfl, rfl, rfl, rfl⟩ | cases h

theorem isMute_of_isApart {e : Event} (h : e.isApart = true) : e.isMute = true := by
  cases e with
  | log r => cases r <;> first | rfl | cases h
  | _ => first | rfl | cases h

end Event

/-- The calls destroyed without a start, oldest first. -/
def droppedCalls (journal : List Event) : List Nat := toldOf Event.destroyedTicket? Event.call? journal

def batched (journal : List Event) : List Nat := journal.flatMap Event.batch

def announced (journal : List Event) : Nat := (journal.map Event.announces).sum

/-- The journal grows by events that drop the calls `dropped`, batch the calls `taken` and announce `count`
drops. -/
structure World.CountsCalls (w v : World) (dropped taken : List Nat) (count : Nat) : Prop where
  journal : ∃ es, v.journal = es ++ w.journal
  dropped : droppedCalls v.journal = droppedCalls w.journal ++ dropped
  taken : batched v.journal = taken ++ batched w.journal
  announced : announced v.journal = announced w.journal + count

inductive CallMove (w : World) (fault : Option Fault) (popped : List Frame) (v : World) : Prop where
  | free (countsCalls : w.CountsCalls v [] [] 0)
      (waits : ∀ line, line ≠ .mainThread → ∀ r ∈ v.waiting line, r ∈ w.waiting line ∨ r.ticket = w.tickets)
  | takes (line : Line) (own : line ≠ .mainThread)
      (countsCalls : w.CountsCalls v [] ((w.waiting line).map Runnable.ticket) 0)
      (emptied : v.waiting line = [])
      (others : ∀ l, l ≠ line → v.waiting l = w.waiting l)
  | spills (thread activation count : Nat) (rest : List Runnable) (line : Line)
      (unwinding : fault.isSome = true) (top : popped = [.batch thread activation rest count])
      (own : line ≠ .mainThread) (rests : Rests w.journal line activation rest)
      (countsCalls : w.CountsCalls v (rest.map Runnable.ticket) [] 0) (waiting : v.waiting = w.waiting)

section
variable {journal es older : List Event} {k : Nat}

theorem mem_calls :
    k ∈ told Event.call? journal ↔ ∃ line, line ≠ .mainThread ∧ .submitted line k ∈ journal := by
  rw [mem_told]
  constructor
  · rintro ⟨e, mem, called⟩
    cases e <;> simp only [Event.call?, reduceCtorEq] at called
    split at called
    · cases called
    · rename_i line ticket own
      cases called
      exact ⟨line, own, mem⟩
  · rintro ⟨line, own, mem⟩
    exact ⟨_, mem, by simp [Event.call?, own]⟩

theorem mem_batched : k ∈ batched journal ↔
    ∃ line activation waiting, line ≠ .mainThread ∧ .began line activation waiting ∈ journal ∧ k ∈ waiting := by
  rw [batched, List.mem_flatMap]
  constructor
  · rintro ⟨e, mem, taken⟩
    cases e <;> simp only [Event.batch, List.not_mem_nil] at taken
    split at taken
    · cases taken
    · rename_i line activation waiting own
      exact ⟨line, activation, waiting, own, mem, taken⟩
  · rintro ⟨line, activation, waiting, own, mem, taken⟩
    exact ⟨_, mem, by simpa [Event.batch, own] using taken⟩

theorem batched_append (es older : List Event) : batched (es ++ older) = batched es ++ batched older :=
  List.flatMap_append

theorem announced_append (es older : List Event) :
    announced (es ++ older) = announced es + announced older := by
  rw [announced, List.map_append, List.sum_append]
  rfl

end

section
variable {w v : World} {fs popped : List Frame} {fault : Option Fault} {n : Machine} {es : List Event} {k : Nat}

theorem World.countsCalls (journal : v.journal = es ++ w.journal)
    (fresh : ∀ k ∈ told Event.call? es, k ∉ told Event.destroyedTicket? w.journal) :
    w.CountsCalls v
      ((told Event.destroyedTicket? es).filter fun k => k ∈ told Event.call? v.journal) (batched es)
      (announced es) := by
  constructor
  · exact ⟨es, journal⟩
  · rw [journal]
    exact toldOf_append fun k old new => fresh k new old
  · rw [journal, batched_append]
  · rw [journal, announced_append, Nat.add_comm]

theorem World.countsCalls_nothing (journal : v.journal = es ++ w.journal)
    (fresh : ∀ k ∈ told Event.call? es, k ∉ told Event.destroyedTicket? w.journal)
    (undropped : ∀ k ∈ told Event.destroyedTicket? es, k ∉ told Event.call? v.journal)
    (untaken : ∀ e ∈ es, e.batch = []) (silent : ∀ e ∈ es, e.announces = 0) : w.CountsCalls v [] [] 0 := by
  have countsCalls := World.countsCalls journal fresh
  have taken : batched es = [] := List.flatMap_eq_nil_iff.mpr untaken
  have count : announced es = 0 := by
    rw [announced, List.sum_eq_zero_iff_forall_eq_nat]
    intro c mem
    obtain ⟨e, he, rfl⟩ := List.mem_map.mp mem
    exact silent e he
  rw [List.filter_eq_nil_iff.mpr (by simpa using undropped), taken, count] at countsCalls
  exact countsCalls

theorem World.countsCalls_mute (journal : v.journal = es ++ w.journal) (mute : ∀ e ∈ es, e.isMute = true) :
    w.CountsCalls v [] [] 0 := by
  have tells (e : Event) (he : e ∈ es) := Event.tells_of_isMute (mute e he)
  have uncalled : told Event.call? es = [] := told_none fun e he => (tells e he).1
  have undestroyed : told Event.destroyedTicket? es = [] := told_none fun e he => (tells e he).2.1
  apply World.countsCalls_nothing journal (by simp [uncalled]) (by simp [undestroyed])
  · exact fun e he => (tells e he).2.2.1
  · exact fun e he => (tells e he).2.2.2

theorem World.KeepsRunnables.countsCalls (keepsRunnables : w.KeepsRunnables v) : w.CountsCalls v [] [] 0 := by
  obtain ⟨es, journal, apart⟩ := keepsRunnables.journal
  exact World.countsCalls_mute journal fun e he => Event.isMute_of_isApart (apart e he)

/-- The runnables of the channel are not calls. -/
theorem Ledger.uncalled (ledger : Ledger w fs) (filed : .submitted .mainThread k ∈ w.journal) :
    k ∉ told Event.call? w.journal := by
  intro mem
  obtain ⟨line, own, called⟩ := mem_calls.mp mem
  exact own (ledger.line_unique called filed)

theorem Ledger.next_uncalled (ledger : Ledger w fs) : w.tickets ∉ told Event.call? w.journal := by
  intro mem
  obtain ⟨line, _, called⟩ := mem_calls.mp mem
  exact ledger.next_unpushed line (mem_pushes.mpr called)

theorem Ledger.fresh_calls (ledger : Ledger w fs) (handed : ∀ line k, .submitted line k ∈ es → k = w.tickets) :
    ∀ k ∈ told Event.call? es, k ∉ told Event.destroyedTicket? w.journal := by
  intro k mem
  obtain ⟨line, _, called⟩ := mem_calls.mp mem
  rw [handed line k called]
  exact ledger.undestroyed

theorem Ledger.waits_called (ledger : Ledger w fs) {line : Line} (own : line ≠ .mainThread) :
    ∀ k ∈ (w.waiting line).map Runnable.ticket, k ∈ told Event.call? w.journal := by
  intro k mem
  obtain ⟨r, hr, rfl⟩ := List.mem_map.mp mem
  exact mem_calls.mpr ⟨line, own, ledger.filed line r hr⟩

theorem destructions_counts (rs : List Runnable) : told Event.call? (destructions rs) = [] ∧
    batched (destructions rs) = [] ∧ announced (destructions rs) = 0 := by
  have each (e : Event) (he : e ∈ destructions rs) : e.call? = none ∧ e.batch = [] ∧ e.announces = 0 := by
    obtain ⟨r, _, rfl⟩ := List.mem_map.mp (List.mem_reverse.mp he)
    exact ⟨rfl, rfl, rfl⟩
  refine ⟨told_none fun e he => (each e he).1, List.flatMap_eq_nil_iff.mpr fun e he => (each e he).2.1, ?_⟩
  rw [announced, List.sum_eq_zero_iff_forall_eq_nat]
  intro c mem
  obtain ⟨e, he, rfl⟩ := List.mem_map.mp mem
  exact (each e he).2.2

theorem lossNotice_counts {line : Line} (own : line ≠ .mainThread) (count : Nat) :
    told Event.call? (lossNotice line count) = [] ∧ told Event.destroyedTicket? (lossNotice line count) = [] ∧
      batched (lossNotice line count) = [] ∧ announced (lossNotice line count) = count := by
  unfold lossNotice
  by_cases none : count = 0
  · simp [none, told, batched, announced]
  · simp [none, own, told, batched, announced, Event.batch, Event.announces, Event.call?,
      Event.destroyedTicket?]

theorem World.LosesLine.countsCalls {line : Line} (losesLine : w.LosesLine line v) (own : line ≠ .mainThread)
    (ledger : Ledger w fs) :
    w.CountsCalls v ((w.waiting line).map Runnable.ticket) [] (w.waiting line).length := by
  obtain ⟨uncalled, untaken, silent⟩ := destructions_counts (w.waiting line)
  obtain ⟨noCall, noLoss, noBatch, count⟩ := lossNotice_counts own (w.waiting line).length
  have kept : told Event.call? (destructions (w.waiting line) ++ lossNotice line (w.waiting line).length)
      = [] := by
    rw [told_append, uncalled, noCall]
    rfl
  have countsCalls := World.countsCalls losesLine.journal (by simp [kept])
  have all : ((w.waiting line).map Runnable.ticket).filter (fun k => k ∈ told Event.call? v.journal)
      = (w.waiting line).map Runnable.ticket := by
    rw [List.filter_eq_self, losesLine.journal, told_append Event.call? _ w.journal, kept, List.append_nil]
    intro k mem
    simpa using ledger.waits_called own k mem
  rw [told_append Event.destroyedTicket?, noLoss, List.nil_append, told_destructions, all, batched_append,
    untaken, noBatch, announced_append, silent, count, Nat.zero_add] at countsCalls
  exact countsCalls

theorem World.LosesLine.countsCalls_nothing (losesLine : w.LosesLine .mainThread v) (ledger : Ledger w fs) :
    w.CountsCalls v [] [] 0 := by
  have journal : v.journal = destructions (w.waiting .mainThread) ++ w.journal := by
    rw [losesLine.journal, lossNotice, if_pos (.inl rfl), List.append_nil]
  obtain ⟨uncalled, untaken, silent⟩ := destructions_counts (w.waiting .mainThread)
  have countsCalls := World.countsCalls journal (by simp [uncalled])
  have none : ((w.waiting .mainThread).map Runnable.ticket).filter
      (fun k => k ∈ told Event.call? v.journal) = [] := by
    rw [List.filter_eq_nil_iff, journal, told_append, uncalled, List.append_nil]
    intro k mem
    obtain ⟨r, hr, rfl⟩ := List.mem_map.mp mem
    simpa using ledger.uncalled (ledger.filed .mainThread r hr)
  rw [told_destructions, none, untaken, silent] at countsCalls
  exact countsCalls

theorem CallMove.mute (writes : w.Writes es v) (mute : ∀ e ∈ es, e.isMute = true)
    (waiting : ∀ line, line ≠ .mainThread → v.waiting line = w.waiting line) : CallMove w fault popped v := by
  refine .free (World.countsCalls_mute writes.journal mute) ?_
  intro line own r mem
  exact .inl (waiting line own ▸ mem)

/-- Every runnable move is a call move. -/
theorem RunnableMove.callMove (d : RunnableMove w fault popped n) (ledger : Ledger w fs) :
    CallMove w fault popped n.world := by
  have unchanged : w.Writes [] w := ⟨rfl, rfl⟩
  have nothing : CallMove w fault popped w := .mute unchanged (by simp) fun _ _ => rfl
  cases d with
  | aside same => exact same ▸ nothing
  | abandons ticket world => exact world ▸ nothing
  | finishes ticket world =>
    have writes : w.Writes [.finished ticket] n.world := ⟨by rw [world]; rfl, by rw [world]; rfl⟩
    exact .mute writes (by simp [Event.isMute]) fun line _ => by rw [world]; rfl
  | queues line r own writes tickets last others =>
    refine .free (World.countsCalls_nothing writes.journal (ledger.fresh_calls (by simp))
      (by simp [told, Event.destroyedTicket?]) (by simp [Event.batch]) (by simp [Event.announces])) ?_
    intro l _ x mem
    by_cases here : l = line
    · subst here
      rw [last] at mem
      rcases List.mem_append.mp mem with old | new
      · exact .inl old
      · rw [List.mem_singleton.mp new]
        exact .inr own
    · exact .inl (others l here ▸ mem)
  | inline thread body writes tickets waiting =>
    refine .free (World.countsCalls_nothing writes.journal (ledger.fresh_calls (by simp))
      (by simp [told, Event.destroyedTicket?]) (by simp [Event.batch]) (by simp [Event.announces])) ?_
    intro l _ x mem
    exact .inl (waiting ▸ mem)
  | refuses label writes tickets waiting gone =>
    have uncalled : told Event.call? [.log .mainThreadGone, .destroyed w.tickets label,
        .submitted .mainThread w.tickets] = [] := rfl
    have undropped : w.tickets ∉ told Event.call? n.world.journal := by
      rw [writes.journal, told_append, uncalled, List.append_nil]
      exact ledger.next_uncalled
    refine .free (World.countsCalls_nothing writes.journal (by simp [uncalled])
      (by simpa [told, Event.destroyedTicket?] using undropped) (by simp [Event.batch])
      (by simp [Event.announces])) ?_
    intro l _ x mem
    exact .inl (waiting ▸ mem)
  | takes line thread own writes tickets emptied others =>
    have countsCalls := World.countsCalls writes.journal (by simp [told, Event.call?])
    have taken : batched [.began line w.tickets ((w.waiting line).map Runnable.ticket)]
        = (w.waiting line).map Runnable.ticket := by
      simp [batched, Event.batch, own]
    rw [taken] at countsCalls
    exact .takes line own countsCalls emptied others
  | rounds thread writes tickets waiting =>
    exact .mute writes (by simp [Event.isMute]) fun line _ => congrFun waiting line
  | calls thread activation count r rest line well own rests writes tickets waiting =>
    exact .mute writes (by simp [Event.isMute]) fun line _ => congrFun waiting line
  | serves thread activation queued ran r rest well short waits writes tickets left others =>
    exact .mute writes (by simp [Event.isMute]) others
  | closes thread activation count line well own rests writes tickets waiting =>
    exact .mute writes (by simp [Event.isMute]) fun line _ => congrFun waiting line
  | returns thread activation queued ran well spent writes tickets waiting =>
    exact .mute writes (by simp [Event.isMute]) fun line _ => congrFun waiting line
  | spills thread activation count rest line unwinding own rests world =>
    have journal : n.world.journal = destructions rest ++ w.journal := by
      rw [world, World.journal_destroyAll]
    have waiting : n.world.waiting = w.waiting := by
      rw [world]
      exact LedgerMove.waiting_destroyAll w rest
    obtain ⟨uncalled, untaken, silent⟩ := destructions_counts rest
    have countsCalls := World.countsCalls journal (by simp [uncalled])
    have all : (rest.map Runnable.ticket).filter (fun k => k ∈ told Event.call? n.world.journal)
        = rest.map Runnable.ticket := by
      rw [List.filter_eq_self, journal, told_append, uncalled, List.append_nil]
      intro k mem
      obtain ⟨r, hr, rfl⟩ := List.mem_map.mp mem
      simpa using mem_calls.mpr ⟨line, own, rests.filed r hr⟩
    rw [told_destructions, all, untaken, silent] at countsCalls
    exact .spills thread activation count rest line unwinding rfl own rests countsCalls waiting

end

end FrameHost
