import FrameHost.Proofs.Rounds

/-!
The guarantees of the channel to the main thread while its receiver is there, and the runnables that a round
takes.
-/
namespace FrameHost

section
variable {s t : System}

theorem InUse.activationEvents (h : InUse s) (a : Advance s t) {e : Event} {b : Nat}
    (own : e.activation? = some b)
    (mem : e ∈ t.world.journal) : e ∈ s.world.journal ∨
    ∃ σ popped below others n u v es, Act s t σ popped below others n ∧ s.world.KeepsRunnables u ∧
      ActivationEvents u σ.fault popped { n with world := v } es ∧ e ∈ es := by
  cases a with
  | external external => exact .inl (external.losesLines.recalls own mem)
  | move m =>
    obtain ⟨σ, popped, below, others, n, act⟩ := m.act
    rw [act.world] at mem
    cases h.runnableTurn act with
    | losesLines losesLines => exact .inl (losesLines.recalls own mem)
    | @moves u v before runnableMove after =>
      obtain ⟨es, journal, news⟩ := runnableMove.activationEvents
      have written : e ∈ es ++ u.journal := journal ▸ (World.LosesLines.keepsRunnables after).recalls own mem
      rcases List.mem_append.mp written with new | old
      · exact .inr ⟨σ, popped, below, others, n, u, v, es, act, before, news, new⟩
      · exact .inl ((World.LosesLines.keepsRunnables before).recalls own old)

theorem InUse.finds (h : InUse s) (a : Advance s t) {line : Line} {b : Nat} {queued : List Nat}
    (began : .began line b queued ∈ t.world.journal) (first : .began line b queued ∉ s.world.journal) :
    queued = (s.world.waiting line).map Runnable.ticket := by
  obtain ⟨σ, popped, below, others, n, u, v, es, act, before, news, mem⟩ :=
    (h.activationEvents a rfl began).resolve_left first
  rw [← before.waiting]
  cases news with
  | none silent => cases silent _ mem
  | began line =>
    simp only [List.mem_singleton, Event.began.injEq] at mem
    obtain ⟨rfl, _, rfl⟩ := mem
    rfl
  | took => simp at mem
  | ended => simp at mem

/-- An activation that ends answers with its count. -/
theorem InUse.answers (h : InUse s) (a : Advance s t) {b count : Nat}
    (ended : .ended b count ∈ t.world.journal) (first : .ended b count ∉ s.world.journal) :
    ∃ τ ∈ t.strands, τ.fault = none ∧ τ.answer = .count count := by
  obtain ⟨σ, popped, below, others, n, u, v, es, act, before, news, mem⟩ :=
    (h.activationEvents a rfl ended).resolve_left first
  cases news with
  | none silent => cases silent _ mem
  | began line => simp at mem
  | took => simp at mem
  | ended count' well top own answer =>
    obtain ⟨_, rfl⟩ : b = _ ∧ count = count' := by simpa using mem
    exact ⟨_, (act.new _).mpr (.inl rfl), answer.1, answer.2⟩

theorem Frame.unwind_waiting (f : Frame) (w : World) (raised : Fault) :
    (f.unwind w raised).world.waiting = w.waiting := by
  cases f with
  | batch thread activation rest count => exact LedgerMove.waiting_destroyAll w rest
  | pass thread saved phase => exact (World.KeepsRunnables.leaveGate w saved).waiting
  | _ => rfl

theorem Strand.step_waiting {σ : Strand} (w : World) (raised : σ.fault.isSome = true) :
    (σ.on w).step.world.waiting = w.waiting := by
  obtain ⟨fault, answer, stack⟩ := σ
  cases fault with
  | none => cases raised
  | some fault =>
    cases stack with
    | nil => rfl
    | cons f below => exact f.unwind_waiting w fault

theorem not_chosen_after {chosen before after : List Nat} {k : Nat}
    (nodup : (before ++ k :: after).Nodup) (sub : chosen.Sublist (before ++ k :: after))
    (last : chosen.getLast? = some k) : ∀ x ∈ after, x ∉ chosen := by
  obtain ⟨front, rfl⟩ := List.getLast?_eq_some_iff.mp last
  obtain ⟨left, right, split, first, second⟩ := List.append_sublist_iff.mp sub
  have late : k ∈ right := second.subset List.mem_cons_self
  intro x mem chosen
  have unlike : x ≠ k := by
    rintro rfl
    exact (List.nodup_cons.mp (List.nodup_append.mp nodup).2.1).1 mem
  have early : x ∈ left := first.subset (by simpa [unlike] using chosen)
  rw [split] at nodup
  have apart := (List.nodup_append.mp nodup).2.2
  rcases List.append_eq_append_iff.mp split with ⟨more, grown, rest⟩ | ⟨more, grown, rest⟩
  · -- The chosen elements before `k` would otherwise contain an element after `k`.
    cases more with
    | nil =>
      rw [← split] at nodup
      have early : x ∈ before := by simpa [grown] using early
      exact (List.nodup_append.mp nodup).2.2 x early x (List.mem_cons_of_mem k mem) rfl
    | cons y more =>
      obtain ⟨rfl, _⟩ := List.cons.inj rest
      exact apart k (by simp [grown]) k late rfl
  · rw [← split] at nodup
    have early : x ∈ before := by simp [grown, early]
    exact (List.nodup_append.mp nodup).2.2 x early x (List.mem_cons_of_mem k mem) rfl

theorem InUse.started_of_took (h : InUse s) {a k : Nat} {queued : List Nat}
    (began : .began .mainThread a queued ∈ s.world.journal) (took : .took a k ∈ s.world.journal) :
    k ∈ startsOf .mainThread s.world.journal ∧
      (takes a s.world.journal).Sublist (startsOf .mainThread s.world.journal) := by
  obtain ⟨_, _, rounds⟩ := kept_rounds.inUse h
  obtain ⟨prior, since, seen⟩ := (rounds.course a queued began).seen
  have sub : (takes a s.world.journal).Sublist (startsOf .mainThread s.world.journal) := by
    rw [seen.started]
    exact seen.order.trans (List.sublist_append_right ..)
  exact ⟨sub.subset (mem_takes.mpr took), sub⟩

/-- A runnable that has not finished leaves the later ones in the line, in order, except those started by
other rounds. -/
theorem InUse.leaves_later (h : InUse s) (alive : s.world.channel.receiver ≠ .gone) {a k : Nat}
    {queued : List Nat} (began : .began .mainThread a queued ∈ s.world.journal)
    (took : .took a k ∈ s.world.journal) (unfinished : .finished k ∉ s.world.journal) :
    ∃ before after, pushes .mainThread s.world.journal
        = before ++ k :: (after ++ (s.world.waiting .mainThread).map Runnable.ticket) ∧
      ∀ x ∈ after, .took a x ∉ s.world.journal := by
  obtain ⟨order, _, _⟩ := kept_rounds.inUse h
  obtain ⟨started, sub⟩ := h.started_of_took began took
  obtain ⟨before, after, split⟩ := List.append_of_mem started
  refine ⟨before, after, ?_, ?_⟩
  · rw [← order.whole alive, split, List.append_assoc, List.cons_append]
  · intro x mem taken
    have nodup : (before ++ k :: after).Nodup :=
      split ▸ (h.ledger.pushes_nodup .mainThread).sublist order.order.sublist
    have last := h.activationsOrdered.sequential.last a k took unfinished
    exact not_chosen_after nodup (split ▸ sub) last x mem (mem_takes.mpr taken)

/-- While the receiver is there, the runnables dispatched are those started, in this order, followed by
those waiting, and none starts twice. A fault changes nothing in the line, and a round whose runnable has
not finished takes no later one and does not return. A round that begins finds all that waits; when it
returns, all of that has been started, and the count returned is no larger. -/
theorem main_thread_work_in_dispatch_order (h : InUse s) (alive : s.world.channel.receiver ≠ .gone) :
    pushes .mainThread s.world.journal = startsOf .mainThread s.world.journal
      ++ (s.world.waiting .mainThread).map Runnable.ticket ∧
    (∀ k, s.world.tally (Event.starts k) ≤ 1) ∧
    (∀ σ ∈ s.strands, σ.fault.isSome = true → (σ.on s.world).step.world.waiting = s.world.waiting) ∧
    (∀ a queued k, .began .mainThread a queued ∈ s.world.journal → .took a k ∈ s.world.journal →
      .finished k ∉ s.world.journal →
      (∃ before after, pushes .mainThread s.world.journal
          = before ++ k :: (after ++ (s.world.waiting .mainThread).map Runnable.ticket) ∧
        ∀ x ∈ after, .took a x ∉ s.world.journal) ∧
      ∀ count, .ended a count ∉ s.world.journal) ∧
    (∀ t a queued, Advance s t → .began .mainThread a queued ∈ t.world.journal →
      .began .mainThread a queued ∉ s.world.journal →
      queued = (s.world.waiting .mainThread).map Runnable.ticket) ∧
    (∀ t a count, Advance s t → .ended a count ∈ t.world.journal → .ended a count ∉ s.world.journal →
      ∃ τ ∈ t.strands, τ.fault = none ∧ τ.answer = .count count) ∧
    ∀ a queued count, .began .mainThread a queued ∈ s.world.journal → .ended a count ∈ s.world.journal →
      (∀ k ∈ queued, k ∈ startsOf .mainThread s.world.journal) ∧ count ≤ queued.length := by
  obtain ⟨order, _, rounds⟩ := kept_rounds.inUse h
  refine ⟨(order.whole alive).symm, h.ledger.starts_le_one, ?_, ?_, ?_, ?_, ?_⟩
  · intro σ _ raised
    exact σ.step_waiting s.world raised
  · intro a queued k began took unfinished
    exact ⟨h.leaves_later alive began took unfinished,
      fun count => h.activationsOrdered.sequential.ongoing a k count took unfinished⟩
  · intro t a queued advance began first
    exact h.finds advance began first
  · intro t a count advance ended first
    exact h.answers advance ended first
  · intro a queued count began ended
    have course := rounds.course a queued began
    obtain ⟨taken, found⟩ := course.returned count ended
    obtain ⟨prior, since, seen⟩ := course.seen
    exact ⟨found alive, taken ▸ seen.bounded⟩

def World.sampleChannel : World := { World.empty with channel := .new .free }

theorem inUse_sampleChannel : InUse (Machine.proceed World.sampleChannel []).alone :=
  .idle 1 (World.blank_channel .free)

def Machine.sampleNested : Machine :=
  let inner : Script := .nest .catching (.act .runMain .done) .done
  let handed : Script := .nest (.dispatch 0 none) inner
    (.nest (.dispatch 0 none) (.act (.raise "lost") .done) (.nest (.dispatch 0 none) .done .done))
  Request.runMain.carryOut ((Request.act handed).carryOut World.sampleChannel 0).world 0

theorem inUse_sampleNested : InUse Machine.sampleNested.alone :=
  (inUse_sampleChannel.alone_carryOut rfl _ 0).alone_carryOut (by decide) .runMain 0

theorem main_thread_work_across_rounds :
    InUse Machine.sampleNested.alone ∧ Machine.sampleNested.world.channel.receiver ≠ .gone ∧
      pushes .mainThread Machine.sampleNested.world.journal
        = startsOf .mainThread Machine.sampleNested.world.journal
          ++ (Machine.sampleNested.world.waiting .mainThread).map Runnable.ticket ∧
      (∀ count, .ended 4 count ∉ Machine.sampleNested.world.journal) ∧
      (∀ k ∈ [0, 1, 2], k ∈ startsOf .mainThread Machine.sampleNested.world.journal) ∧
      2 ≤ [0, 1, 2].length := by
  have alive : Machine.sampleNested.world.channel.receiver ≠ .gone := by decide
  obtain ⟨order, _, _, unfinished, _, _, returned⟩ :=
    main_thread_work_in_dispatch_order inUse_sampleNested alive
  refine ⟨inUse_sampleNested, alive, order, ?_, ?_⟩
  · exact (unfinished 4 [1, 2] 1 (by decide) (by decide) (by decide)).2
  · exact returned 3 [0, 1, 2] 2 (by decide) (by decide)

theorem eq_take_of_sublist {chosen all : List Nat} {n : Nat} (sub : chosen.Sublist all) (nodup : all.Nodup)
    (front : ∀ k ∈ all.take n, k ∈ chosen) (short : chosen.length ≤ n) : chosen = all.take n := by
  induction all generalizing chosen n with
  | nil => simpa using sub
  | cons x all ih =>
    cases n with
    | zero => simpa using short
    | succ n =>
      have away := (List.nodup_cons.mp nodup).1
      have first : x ∈ chosen := front x (by simp)
      cases sub with
      | cons _ sub => exact absurd (sub.subset first) away
      | @cons_cons chosen _ _ sub =>
        have rest : ∀ k ∈ all.take n, k ∈ chosen := by
          intro k mem
          have unlike : k ≠ x := by
            rintro rfl
            exact away (List.mem_of_mem_take mem)
          simpa [unlike] using front k (by simp [mem])
        simp only [List.length_cons] at short
        rw [List.take_succ_cons, ← ih sub (List.nodup_cons.mp nodup).2 rest (by omega)]

theorem countP_outside_le {xs ys : List Nat} (first : xs.Nodup) (second : ys.Nodup)
    (fewer : xs.length ≤ ys.length) : xs.countP (· ∉ ys) ≤ ys.countP (· ∉ xs) := by
  have common : xs.countP (· ∈ ys) = ys.countP (· ∈ xs) := by
    rw [List.countP_eq_length_filter, List.countP_eq_length_filter]
    apply List.Perm.length_eq
    rw [List.perm_ext_iff_of_nodup (first.filter _) (second.filter _)]
    intro k
    simp [and_comm]
  have left := List.length_eq_countP_add_countP (l := xs) (p := (· ∈ ys))
  have right := List.length_eq_countP_add_countP (l := ys) (p := (· ∈ xs))
  simp only [decide_eq_true_eq] at left right
  simp only [decide_not] at *
  omega

/-- The runnables started since a round began; `together` says that they and the runnables found agree up to
the shorter length. -/
structure StartedSince (journal : List Event) (activation : Nat) (queued since : List Nat) : Prop where
  chosen : (takes activation journal).Sublist since
  bounded : (takes activation journal).length ≤ queued.length
  nodup : since.Nodup ∧ queued.Nodup
  together : queued <+: since ∨ since <+: queued
  taken : ∀ k ∈ since, ∃ b, .took b k ∈ journal

theorem InUse.since (h : InUse s) {a : Nat} {queued : List Nat}
    (began : .began .mainThread a queued ∈ s.world.journal) :
    ∃ since, StartedSince s.world.journal a queued since := by
  obtain ⟨order, _, rounds⟩ := kept_rounds.inUse h
  obtain ⟨prior, since, seen⟩ := (rounds.course a queued began).seen
  have distinct := h.ledger.pushes_nodup .mainThread
  refine ⟨since, seen.order, seen.bounded, ⟨?_, ?_⟩, ?_, ?_⟩
  · have started : (prior ++ since).Nodup := seen.started ▸ distinct.sublist order.order.sublist
    exact (List.nodup_append.mp started).2.1
  · exact (List.nodup_append.mp (distinct.sublist seen.pushed.sublist)).2.1
  · rcases Nat.le_total queued.length since.length with enough | few
    · exact .inl (seen.found order.order enough)
    · have longer : (prior ++ since).length ≤ (prior ++ queued).length := by
        simp only [List.length_append]
        omega
      have reached := List.prefix_of_prefix_length_le (seen.started ▸ order.order) seen.pushed longer
      exact .inr ((List.prefix_append_right_inj prior).mp reached)
  · intro k mem
    apply order.taken k
    rw [seen.started]
    exact List.mem_append_right _ mem

section
variable {journal : List Event} {a : Nat} {queued since : List Nat}

theorem StartedSince.outside (h : StartedSince journal a queued since) :
    (takes a journal).countP (· ∉ queued) ≤ queued.countP fun k => ∃ b ∈ takers k journal, b ≠ a := by
  rcases h.together with found | few
  · apply Nat.le_trans (countP_outside_le (h.nodup.1.sublist h.chosen) h.nodup.2 h.bounded)
    apply List.countP_mono_left
    intro k mem missed
    obtain ⟨b, took⟩ := h.taken k (found.subset mem)
    simp only [decide_eq_true_eq] at missed ⊢
    refine ⟨b, mem_takers.mpr took, ?_⟩
    rintro rfl
    exact missed (mem_takes.mpr took)
  · have none : (takes a journal).countP (· ∉ queued) = 0 := by
      rw [List.countP_eq_zero]
      intro k mem
      simpa using few.subset (h.chosen.subset mem)
    omega

theorem StartedSince.front (h : StartedSince journal a queued since)
    (alone : ∀ k ∈ queued, ∀ b, .took b k ∈ journal → b = a) : takes a journal <+: queued := by
  have front : since.take queued.length <+: queued := by
    rcases h.together with found | few
    · exact ⟨[], (List.append_nil _).trans (List.prefix_iff_eq_take.mp found).symm⟩
    · exact (List.take_prefix ..).trans few
  have mine : ∀ k ∈ since.take queued.length, k ∈ takes a journal := by
    intro k mem
    obtain ⟨b, took⟩ := h.taken k (List.mem_of_mem_take mem)
    rw [alone k (front.subset mem) b took] at took
    exact mem_takes.mpr took
  rw [eq_take_of_sublist h.chosen h.nodup.1 mine h.bounded]
  exact front

end

/-- A round takes at most as many runnables as it found. Those beyond the ones it found are no more than the
ones that others took of them, and if others took none, it takes a prefix of those it found. -/
theorem round_takes_in_place_of_others (h : InUse s) {a : Nat} {queued : List Nat}
    (began : .began .mainThread a queued ∈ s.world.journal) :
    (takes a s.world.journal).length ≤ queued.length ∧
    (takes a s.world.journal).countP (· ∉ queued)
      ≤ queued.countP (fun k => ∃ b ∈ takers k s.world.journal, b ≠ a) ∧
    ((∀ k ∈ queued, ∀ b, .took b k ∈ s.world.journal → b = a) →
      takes a s.world.journal <+: queued) := by
  obtain ⟨since, course⟩ := h.since began
  exact ⟨course.bounded, course.outside, course.front⟩

def Machine.sampleLate : Machine :=
  let nested : Script := .act .runMain (.nest (.dispatch 0 (some "late")) (.act (.note "late") .done) .done)
  let first := (Request.act (.nest (.dispatch 0 (some "first")) nested .done)).carryOut World.sampleChannel 0
  let second := (Request.act (.nest (.dispatch 0 (some "second")) (.act (.note "second") .done) .done)).carryOut
    first.world 0
  Request.runMain.carryOut second.world 0

theorem inUse_sampleLate : InUse Machine.sampleLate.alone :=
  ((inUse_sampleChannel.alone_carryOut rfl _ 0).alone_carryOut (by decide) _ 0).alone_carryOut (by decide)
    .runMain 0

theorem round_takes_late_runnable :
    InUse Machine.sampleLate.alone ∧ .began .mainThread 2 [0, 1] ∈ Machine.sampleLate.world.journal ∧
      takes 2 Machine.sampleLate.world.journal = [0, 4] ∧
      (takes 2 Machine.sampleLate.world.journal).countP (· ∉ [0, 1])
        ≤ [0, 1].countP (fun k => ∃ b ∈ takers k Machine.sampleLate.world.journal, b ≠ 2) := by
  have began : .began .mainThread 2 [0, 1] ∈ Machine.sampleLate.world.journal := by decide
  exact ⟨inUse_sampleLate, began, by decide, (round_takes_in_place_of_others inUse_sampleLate began).2.1⟩

theorem round_takes_unseen : ¬ ∀ (s : System) (a k : Nat) (queued : List Nat), InUse s →
    .began .mainThread a queued ∈ s.world.journal → .took a k ∈ s.world.journal → k ∈ queued := by
  intro claim
  have late := claim Machine.sampleLate.alone 2 4 [0, 1] inUse_sampleLate (by decide) (by decide)
  exact absurd late (by decide)

end

end FrameHost
