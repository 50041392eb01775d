import FrameHost.Proofs.DispatchOrder
import FrameHost.Proofs.ActivationOrder

/-!
Rounds of main-thread work. A round takes at most as many runnables as waited when it began, each from the
head of the line. Nested rounds take from the same line, so a round may take runnables that did not wait
when it began.
-/
namespace FrameHost

/-- A round that found `queued`: `prior` was started before it began, and `since` was started later, by this
round or by others. -/
structure RoundProgress (journal : List Event) (activation : Nat) (queued prior since : List Nat) : Prop where
  pushed : prior ++ queued <+: pushes .mainThread journal
  started : startsOf .mainThread journal = prior ++ since
  order : (takes activation journal).Sublist since
  bounded : (takes activation journal).length ≤ queued.length

structure RoundCourse (journal : List Event) (alive : Prop) (activation : Nat) (queued : List Nat) : Prop where
  seen : ∃ prior since, RoundProgress journal activation queued prior since
  returned : ∀ count, .ended activation count ∈ journal →
    count = (takes activation journal).length ∧ (alive → ∀ k ∈ queued, k ∈ startsOf .mainThread journal)

def World.Receiving (w : World) : Prop := w.channel.receiver ≠ .gone

structure Rounds (w : World) (fs : List Frame) : Prop where
  course : ∀ a queued, .began .mainThread a queued ∈ w.journal → RoundCourse w.journal w.Receiving a queued
  underway : ∀ thread a count ran, .round thread a count ran ∈ fs →
    (∃ queued, .began .mainThread a queued ∈ w.journal ∧ queued.length = count) ∧
    (takes a w.journal).length = ran

section
variable {es older : List Event} {alive before : Prop} {a : Nat} {queued prior since : List Nat}

theorem takes_untaken (untaken : ∀ x, .took a x ∉ es) : takes a (es ++ older) = takes a older := by
  apply takes_idle
  intro e he
  cases taken : e.takenBy? a with
  | none => rfl
  | some x =>
    have mem : x ∈ takes a es := mem_told.mpr ⟨e, he, taken⟩
    exact absurd (mem_takes.mp mem) (untaken x)

theorem RoundProgress.found {journal : List Event} (h : RoundProgress journal a queued prior since)
    (order : startsOf .mainThread journal <+: pushes .mainThread journal)
    (enough : queued.length ≤ since.length) : queued <+: since := by
  have longer : (prior ++ queued).length ≤ (prior ++ since).length := by
    simp only [List.length_append]
    omega
  have reached := List.prefix_of_prefix_length_le h.pushed (h.started ▸ order) longer
  exact (List.prefix_append_right_inj prior).mp reached

theorem RoundProgress.grow (h : RoundProgress older a queued prior since) {begun : List Nat}
    (untaken : ∀ x, .took a x ∉ es)
    (started : startsOf .mainThread (es ++ older) = startsOf .mainThread older ++ begun) :
    RoundProgress (es ++ older) a queued prior (since ++ begun) := by
  have same : takes a (es ++ older) = takes a older := takes_untaken untaken
  constructor
  · rw [pushes_append]
    exact h.pushed.trans (List.prefix_append ..)
  · rw [started, h.started, List.append_assoc]
  · rw [same]
    exact h.order.trans (List.sublist_append_left ..)
  · rw [same]
    exact h.bounded

theorem RoundCourse.carry (h : RoundCourse older before a queued) {begun : List Nat}
    (untaken : ∀ x, .took a x ∉ es)
    (unended : ∀ c, .ended a c ∉ es)
    (started : startsOf .mainThread (es ++ older) = startsOf .mainThread older ++ begun)
    (earlier : alive → before) : RoundCourse (es ++ older) alive a queued := by
  constructor
  · obtain ⟨prior, since, seen⟩ := h.seen
    exact ⟨prior, since ++ begun, seen.grow untaken started⟩
  · intro count ended
    obtain ⟨all, found⟩ := h.returned count ((List.mem_append.mp ended).resolve_left (unended count))
    constructor
    · rw [takes_untaken untaken]
      exact all
    · intro now k mem
      rw [started]
      exact List.mem_append_left _ (found (earlier now) k mem)

theorem RoundCourse.serves {k thread : Nat} (h : RoundCourse older before a queued)
    (started : startsOf .mainThread ([.started k thread, .took a k] ++ older)
      = startsOf .mainThread older ++ [k])
    (short : (takes a older).length < queued.length) (going : ∀ c, .ended a c ∉ older) :
    RoundCourse ([.started k thread, .took a k] ++ older) alive a queued := by
  constructor
  · obtain ⟨prior, since, seen⟩ := h.seen
    refine ⟨prior, since ++ [k], ?_, ?_, ?_, ?_⟩
    · rw [pushes_append]
      exact seen.pushed.trans (List.prefix_append ..)
    · rw [started, seen.started, List.append_assoc]
    · rw [takes_took]
      exact seen.order.append (.refl _)
    · rw [takes_took, List.length_append, List.length_singleton]
      omega
  · intro count ended
    have old : .ended a count ∈ older := by simpa using ended
    exact absurd old (going count)

/-- A round returns when it has taken as many runnables as it found, or when the line is empty. -/
theorem RoundCourse.returns {count : Nat} (h : RoundCourse older before a queued)
    (taken : (takes a older).length = count) (going : ∀ c, .ended a c ∉ older)
    (order : startsOf .mainThread older <+: pushes .mainThread older)
    (spent : alive → count < queued.length → startsOf .mainThread older = pushes .mainThread older) :
    RoundCourse ([.ended a count] ++ older) alive a queued := by
  have idle : ∀ e ∈ [Event.ended a count], e.pushed? .mainThread = none := by simp [Event.pushed?]
  have started : startsOf .mainThread ([.ended a count] ++ older) = startsOf .mainThread older := by
    rw [startsOf_append idle]
    exact List.append_nil _
  have same : takes a ([.ended a count] ++ older) = takes a older := takes_untaken (by simp)
  obtain ⟨prior, since, seen⟩ := h.seen
  constructor
  · refine ⟨prior, since ++ [], seen.grow (by simp) ?_⟩
    rw [started, List.append_nil]
  · intro c ended
    have now : c = count := by
      rcases List.mem_append.mp ended with new | old
      · simpa using new
      · exact absurd old (going c)
    rw [same, started, seen.started]
    refine ⟨now.trans taken.symm, ?_⟩
    intro here k mem
    apply List.mem_append_right
    by_cases short : count < queued.length
    · -- The line is empty, so every dispatched runnable was started.
      have all := seen.pushed
      rw [← spent here short, seen.started] at all
      exact ((List.prefix_append_right_inj prior).mp all).subset mem
    · have enough : queued.length ≤ since.length := by
        have fewer := seen.order.length_le
        omega
      exact (seen.found order enough).subset mem

end

section
variable {w v : World} {fs gs others popped : List Frame} {fault : Option Fault} {n : Machine}

theorem Ledger.startsOf_grows (ledger : Ledger w fs) {es : List Event}
    (handed : ∀ k, .submitted .mainThread k ∈ es → k = w.tickets) :
    ∃ begun, startsOf .mainThread (es ++ w.journal) = startsOf .mainThread w.journal ++ begun := by
  refine ⟨_, toldOf_append ?_⟩
  intro k started pushed
  rw [handed k (mem_pushes.mp pushed)] at started
  exact ledger.unstarted started

theorem Rounds.carry (h : Rounds w fs) {es : List Event} (journal : v.journal = es ++ w.journal)
    (started : ∃ begun, startsOf .mainThread (es ++ w.journal) = startsOf .mainThread w.journal ++ begun)
    (unopened : ∀ a queued, .began .mainThread a queued ∉ es)
    (untaken : ∀ a queued, .began .mainThread a queued ∈ w.journal → ∀ x, .took a x ∉ es)
    (unended : ∀ a queued, .began .mainThread a queued ∈ w.journal → ∀ c, .ended a c ∉ es)
    (receiving : v.Receiving → w.Receiving)
    (frames : ∀ thread a count ran, .round thread a count ran ∈ gs → .round thread a count ran ∈ fs) :
    Rounds v gs := by
  obtain ⟨begun, started⟩ := started
  constructor
  · intro a queued mem
    rw [journal] at mem ⊢
    have old := (List.mem_append.mp mem).resolve_left (unopened a queued)
    exact (h.course a queued old).carry (untaken a queued old) (unended a queued old) started receiving
  · intro thread a count ran mem
    obtain ⟨⟨queued, began, length⟩, taken⟩ := h.underway thread a count ran (frames thread a count ran mem)
    rw [journal]
    refine ⟨⟨queued, List.mem_append_right es began, length⟩, ?_⟩
    rw [takes_untaken (untaken a queued began)]
    exact taken

theorem Rounds.idle (h : Rounds w fs) (es : List Event) (journal : v.journal = es ++ w.journal)
    (idle : ∀ e ∈ es, e.isIdle = true) (receiving : v.Receiving → w.Receiving)
    (frames : ∀ thread a count ran, .round thread a count ran ∈ gs → .round thread a count ran ∈ fs) :
    Rounds v gs := by
  refine h.carry journal ⟨[], ?_⟩ ?_ ?_ ?_ receiving frames
  · rw [startsOf_idle idle, List.append_nil]
  · intro a queued mem
    cases idle _ mem
  · intro a queued _ x mem
    cases idle _ mem
  · intro a queued _ c mem
    cases idle _ mem

theorem Rounds.keepsRunnables (h : Rounds w fs) (keepsRunnables : w.KeepsRunnables v) : Rounds v fs := by
  obtain ⟨es, journal, apart⟩ := keepsRunnables.journal
  have receiving : v.Receiving → w.Receiving := by
    unfold World.Receiving
    rw [keepsRunnables.receiver]
    exact id
  exact h.idle es journal (fun e he => Event.isIdle_of_isApart (apart e he)) receiving fun _ _ _ _ mem => mem

theorem Rounds.losesLine (h : Rounds w fs) {line : Line} (losesLine : w.LosesLine line v) : Rounds v fs := by
  obtain ⟨es, journal, idle⟩ := losesLine.idle
  have receiving : v.Receiving → w.Receiving := by
    unfold World.Receiving
    rw [losesLine.receiver]
    split
    · exact fun alive => absurd rfl alive
    · exact id
  exact h.idle es journal idle receiving fun _ _ _ _ mem => mem

theorem World.Writes.receiving {es : List Event} (writes : w.Writes es v) : v.Receiving → w.Receiving := by
  unfold World.Receiving
  rw [writes.receiver]
  exact id

theorem carried_rest {laid : List Frame} {f : Frame} {a : Nat} (own : f.activation? = some a)
    (none : ∀ f ∈ laid, f.activation? = none) (mem : f ∈ laid ++ others) : f ∈ popped ++ others := by
  rcases List.mem_append.mp mem with new | old
  · rw [none f new] at own
    cases own
  · exact List.mem_append_right popped old

theorem Numbered.afar (numbered : Numbered w fs) {a : Nat} {queued : List Nat}
    (began : .began .mainThread a queued ∈ w.journal) {line : Line} {ws : List Nat} (own : line ≠ .mainThread)
    (found : .began line a ws ∈ w.journal) : False :=
  own (numbered.unique _ _ _ _ _ found began).1

theorem Numbered.foreign (numbered : Numbered w fs) {line : Line} {a : Nat} {rest : List Runnable}
    (own : line ≠ .mainThread) (rests : Rests w.journal line a rest) (queued : List Nat) :
    .began .mainThread a queued ∉ w.journal := by
  intro began
  obtain ⟨taken, other⟩ := rests.began
  exact numbered.afar began own other

theorem InOrder.waits (h : InOrder w) :
    startsOf .mainThread w.journal ++ (w.waiting .mainThread).map Runnable.ticket
      <+: pushes .mainThread w.journal := by
  by_cases alive : w.channel.receiver = .gone
  · rw [h.closed alive, List.map_nil, List.append_nil]
    exact h.order
  · exact h.whole alive ▸ List.prefix_refl _

theorem Rounds.rounds (h : Rounds w (popped ++ others)) (order : InOrder w)
    (numbered : Numbered w (popped ++ others)) {thread : Nat} {below : List Frame}
    (writes : w.Writes [.began .mainThread w.tickets ((w.waiting .mainThread).map Runnable.ticket)] v)
    (loose : Loose below) :
    Rounds v (.round thread w.tickets (w.waiting .mainThread).length 0 :: below ++ others) := by
  have unpushed : ∀ e ∈ [Event.began .mainThread w.tickets ((w.waiting .mainThread).map Runnable.ticket)],
      e.pushed? .mainThread = none := by simp [Event.pushed?]
  have started : startsOf .mainThread v.journal = startsOf .mainThread w.journal := by
    rw [writes.journal, startsOf_append unpushed]
    exact List.append_nil _
  have untaken : takes w.tickets v.journal = [] := numbered.untaken writes
  constructor
  · intro a queued mem
    rw [writes.journal] at mem
    rcases List.mem_append.mp mem with new | old
    · obtain ⟨rfl, rfl⟩ : a = w.tickets ∧ queued = (w.waiting .mainThread).map Runnable.ticket := by
        simpa using new
      constructor
      · refine ⟨startsOf .mainThread w.journal, [], ?_, ?_, ?_, ?_⟩
        · rw [writes.journal, pushes_idle unpushed]
          exact order.waits
        · rw [started, List.append_nil]
        · rw [untaken]
        · rw [untaken]
          exact Nat.zero_le _
      · intro count ended
        have before : .ended w.tickets count ∈ w.journal := by simpa [writes.journal] using ended
        exact absurd rfl (numbered.fresh before)
    · rw [writes.journal]
      have same : startsOf .mainThread ([.began .mainThread w.tickets
          ((w.waiting .mainThread).map Runnable.ticket)] ++ w.journal)
          = startsOf .mainThread w.journal ++ [] := startsOf_append unpushed
      exact (h.course a queued old).carry (by simp) (by simp) same writes.receiving
  · intro thread' a count ran mem
    rcases List.mem_cons.mp mem with new | later
    · cases new
      have began : .began .mainThread w.tickets ((w.waiting .mainThread).map Runnable.ticket)
          ∈ v.journal := by
        rw [writes.journal]
        exact List.mem_cons_self
      refine ⟨⟨_, began, List.length_map Runnable.ticket⟩, ?_⟩
      rw [untaken]
      rfl
    · obtain ⟨⟨queued, began, length⟩, taken⟩ := h.underway thread' a count ran
        (carried_rest rfl loose.none later)
      rw [writes.journal]
      refine ⟨⟨queued, List.mem_cons_of_mem _ began, length⟩, ?_⟩
      rw [takes_untaken (by simp)]
      exact taken

theorem Rounds.serves {thread a queued ran : Nat} {r : Runnable}
    (h : Rounds w (.round thread a queued ran :: others))
    (numbered : Numbered w (.round thread a queued ran :: others))
    (filed : r.ticket ∈ pushes .mainThread w.journal) (short : ran < queued)
    (writes : w.Writes [.started r.ticket thread, .took a r.ticket] v) :
    Rounds v ([.script thread r.body, .running r.ticket, .round thread a queued (ran + 1)] ++ others) := by
  have unpushed : ∀ e ∈ [Event.started r.ticket thread, .took a r.ticket],
      e.pushed? .mainThread = none := by simp [Event.pushed?]
  have started : startsOf .mainThread ([.started r.ticket thread, .took a r.ticket] ++ w.journal)
      = startsOf .mainThread w.journal ++ [r.ticket] := by
    rw [startsOf_append unpushed]
    simp [told, Event.startedTicket?, filed]
  obtain ⟨⟨ws, began, length⟩, taken⟩ := h.underway thread a queued ran List.mem_cons_self
  have mine : a ∈ activations (.round thread a queued ran :: others) :=
    mem_activations.mpr ⟨_, List.mem_cons_self, rfl⟩
  rw [writes.journal.symm] at started
  constructor
  · intro b us mem
    have old : .began .mainThread b us ∈ w.journal := by simpa [writes.journal] using mem
    rw [writes.journal] at started ⊢
    by_cases here : b = a
    · subst here
      have same : us = ws := (numbered.unique _ _ _ _ _ old began).2
      have room : (takes b w.journal).length < us.length := by
        rw [same, length, taken]
        exact short
      exact (h.course b us old).serves started room (numbered.going b mine)
    · exact (h.course b us old).carry (by simp [here]) (by simp) started writes.receiving
  · intro thread' b count ran' mem
    rw [writes.journal]
    rcases List.mem_append.mp mem with new | later
    · obtain ⟨rfl, rfl, rfl, rfl⟩ : thread' = thread ∧ b = a ∧ count = queued ∧ ran' = ran + 1 := by
        simpa using new
      refine ⟨⟨ws, List.mem_append_right _ began, length⟩, ?_⟩
      rw [takes_took, List.length_append, taken, List.length_singleton]
    · have other : b ≠ a := by
        rintro rfl
        exact numbered.alone rfl (mem_activations.mpr ⟨_, later, rfl⟩)
      obtain ⟨⟨us, opened, size⟩, count⟩ :=
        h.underway thread' b count ran' (List.mem_cons_of_mem _ later)
      refine ⟨⟨us, List.mem_append_right _ opened, size⟩, ?_⟩
      rw [takes_untaken (by simp [other])]
      exact count

theorem Rounds.returns {thread a queued ran : Nat} (h : Rounds w (.round thread a queued ran :: others))
    (order : InOrder w) (numbered : Numbered w (.round thread a queued ran :: others))
    (spent : ran < queued → w.waiting .mainThread = []) (writes : w.Writes [.ended a ran] v) :
    Rounds v others := by
  obtain ⟨⟨ws, began, length⟩, taken⟩ := h.underway thread a queued ran List.mem_cons_self
  have mine : a ∈ activations (.round thread a queued ran :: others) :=
    mem_activations.mpr ⟨_, List.mem_cons_self, rfl⟩
  have empty : v.Receiving → ran < ws.length →
      startsOf .mainThread w.journal = pushes .mainThread w.journal := by
    intro alive short
    have whole := order.whole (writes.receiving alive)
    rw [spent (length ▸ short)] at whole
    simpa using whole
  constructor
  · intro b us mem
    have old : .began .mainThread b us ∈ w.journal := by simpa [writes.journal] using mem
    rw [writes.journal]
    by_cases here : b = a
    · subst here
      obtain rfl : us = ws := (numbered.unique _ _ _ _ _ old began).2
      exact (h.course b us old).returns taken (numbered.going b mine) order.order empty
    · have same : startsOf .mainThread ([.ended a ran] ++ w.journal)
          = startsOf .mainThread w.journal ++ [] := startsOf_append (by simp [Event.pushed?])
      exact (h.course b us old).carry (by simp) (by simp [here]) same writes.receiving
  · intro thread' b count ran' mem
    obtain ⟨⟨us, opened, size⟩, count⟩ := h.underway thread' b count ran' (List.mem_cons_of_mem _ mem)
    rw [writes.journal]
    refine ⟨⟨us, List.mem_append_right _ opened, size⟩, ?_⟩
    rw [takes_untaken (by simp)]
    exact count

theorem Rounds.moves (h : Rounds w (popped ++ others)) (order : InOrder w)
    (numbered : Numbered w (popped ++ others)) (ledger : Ledger w (popped ++ others))
    (d : RunnableMove w fault popped n) : Rounds n.world (n.stack ++ others) := by
  cases d with
  | aside same calm loose =>
    rw [same]
    exact h.idle [] rfl (by simp) id fun _ _ _ _ => carried_rest rfl loose.none
  | finishes ticket world stack =>
    rw [world, stack]
    exact h.idle [.finished ticket] rfl (by simp [Event.isIdle]) id fun _ _ _ _ => List.mem_append_right _
  | abandons ticket world stack =>
    rw [world, stack]
    exact h.idle [] rfl (by simp) id fun _ _ _ _ => List.mem_append_right _
  | queues line r own writes tickets last same received calm loose =>
    refine h.carry writes.journal (ledger.startsOf_grows ?_) (by simp) (by simp) (by simp)
      writes.receiving fun _ _ _ _ => carried_rest rfl loose.none
    intro k mem
    simp only [List.mem_singleton, Event.submitted.injEq] at mem
    exact mem.2
  | inline thread body writes tickets waiting calm stack loose =>
    rw [stack]
    refine h.carry writes.journal (ledger.startsOf_grows (by simp)) (by simp) (by simp) (by simp)
      writes.receiving fun _ _ _ _ => carried_rest rfl ?_
    exact List.forall_mem_cons.mpr ⟨rfl, List.forall_mem_cons.mpr ⟨rfl, loose.none⟩⟩
  | refuses label writes tickets waiting gone calm loose =>
    exact h.carry writes.journal (ledger.startsOf_grows (by simp)) (by simp) (by simp) (by simp)
      writes.receiving fun _ _ _ _ => carried_rest rfl loose.none
  | takes line thread own writes tickets emptied same calm stack loose =>
    rw [stack]
    refine h.carry writes.journal (ledger.startsOf_grows (by simp)) ?_ (by simp) (by simp)
      writes.receiving fun _ _ _ _ mem => ?_
    · intro a queued mem
      simp only [List.mem_singleton, Event.began.injEq] at mem
      exact own mem.1.symm
    · rcases List.mem_cons.mp mem with new | later
      · cases new
      · exact carried_rest rfl loose.none later
  | rounds thread writes tickets waiting calm stack loose =>
    rw [stack]
    exact h.rounds order numbered writes loose
  | calls thread a count r rest line well own rests writes tickets waiting stack =>
    rw [stack]
    refine h.carry writes.journal (ledger.startsOf_grows (by simp)) (by simp) ?_ (by simp)
      writes.receiving fun _ _ _ _ mem => ?_
    · intro b queued began x mem
      obtain ⟨rfl, _⟩ : b = a ∧ x = r.ticket := by simpa using mem
      exact numbered.foreign own rests queued began
    · rcases List.mem_append.mp mem with new | later
      · simp at new
      · exact List.mem_append_right _ later
  | serves thread a queued ran r rest well short waits writes tickets left same stack =>
    have filed : r.ticket ∈ pushes .mainThread w.journal :=
      mem_pushes.mpr (ledger.filed .mainThread r (by simp [waits]))
    rw [stack]
    exact Rounds.serves h numbered filed short writes
  | closes thread a count line well own rests writes tickets waiting stack =>
    rw [stack]
    refine h.carry writes.journal (ledger.startsOf_grows (by simp)) (by simp) (by simp) ?_
      writes.receiving fun _ _ _ _ => List.mem_append_right _
    intro b queued began c mem
    obtain ⟨rfl, _⟩ : b = a ∧ c = count := by simpa using mem
    exact numbered.foreign own rests queued began
  | returns thread a queued ran well spent writes tickets waiting stack =>
    rw [stack]
    exact Rounds.returns h order numbered spent writes
  | spills thread a count rest line unwinding own rests world stack =>
    have receiving : n.world.Receiving → w.Receiving := by
      obtain ⟨j, eq⟩ := w.destroyAll_eq rest
      rw [world, eq]
      exact id
    rw [stack]
    exact h.idle _ (world ▸ w.journal_destroyAll rest) (destructions_idle rest) receiving fun _ _ _ _ =>
      List.mem_append_right _

end

theorem World.Blank.rounds {w : World} (blank : w.Blank) : Rounds w [] := by
  constructor
  · intro a queued mem
    cases blank.events _ mem
  · intro thread a count ran mem
    cases mem

theorem kept_rounds : Kept fun w fs => InOrder w ∧ Numbered w fs ∧ Rounds w fs where
  blank := fun blank => ⟨blank.inOrder, blank.numbered, blank.rounds⟩
  perm := fun p ⟨order, numbered, h⟩ => by
    refine ⟨order, numbered.perm p, h.course, ?_⟩
    intro thread a count ran mem
    exact h.underway thread a count ran (p.mem_iff.mpr mem)
  keepsRunnables := fun keepsRunnables ⟨order, numbered, h⟩ =>
    ⟨order.passes (.apart keepsRunnables.keepsChannel), numbered.keepsRunnables keepsRunnables,
    h.keepsRunnables keepsRunnables⟩
  losesLine := fun ledger losesLine ⟨order, numbered, h⟩ =>
    ⟨kept_inOrder.losesLine ledger losesLine order, numbered.losesLine losesLine, h.losesLine losesLine⟩
  moves := fun ledger d ⟨order, numbered, h⟩ =>
    ⟨kept_inOrder.moves ledger d order, numbered.moves d, h.moves order numbered ledger d⟩

end FrameHost
