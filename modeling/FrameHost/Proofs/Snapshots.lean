import FrameHost.Proofs.DroppedCalls
import FrameHost.Proofs.Rounds

/-!
The calls that an activation finds in a queue: all calls pushed that no activation has found there before,
in push order. Activations may be nested to any depth; each takes the calls it found, in this order.
-/
namespace FrameHost

/-- The calls pushed to a queue that no activation found there and that were neither started at once nor
destroyed. -/
def unclaimed (line : Line) (journal : List Event) : List Nat :=
  (pushes line journal).filter fun k => k ∉ batched journal ∧ k ∉ told Event.startedTicket? journal ∧
    k ∉ told Event.destroyedTicket? journal

/-- Every activation on a queue finds the unclaimed calls when it begins, and starts each call right after
it takes it. -/
inductive SnapshotJournal : List Event → Prop where
  | opens : SnapshotJournal []
  | aside {e : Event} {older : List Event} (silent : e.activation? = none) (h : SnapshotJournal older) :
      SnapshotJournal (e :: older)
  | begins {line : Line} {a : Nat} {ws : List Nat} {older : List Event}
      (found : line ≠ .mainThread → ws = unclaimed line older) (h : SnapshotJournal older) :
      SnapshotJournal (.began line a ws :: older)
  | takes {a k thread : Nat} {older : List Event} (h : SnapshotJournal older) :
      SnapshotJournal (.started k thread :: .took a k :: older)
  | ends {a count : Nat} {older : List Event} (h : SnapshotJournal older) :
      SnapshotJournal (.ended a count :: older)

section
variable {journal older es : List Event} {line : Line} {a k : Nat} {ws : List Nat}

theorem Event.startedTicket?_of_starts {e : Event} (starts : e.starts k = true) :
    e.startedTicket? = some k := by
  cases e <;> first | exact congrArg some (beq_iff_eq.mp starts) | cases starts

theorem Event.destroyedTicket?_of_destroys {e : Event} (destroys : e.destroys k = true) :
    e.destroyedTicket? = some k := by
  cases e <;> first | exact congrArg some (beq_iff_eq.mp destroys) | cases destroys

theorem mem_started : k ∈ told Event.startedTicket? journal ↔ ∃ thread, .started k thread ∈ journal := by
  rw [mem_told]
  constructor
  · rintro ⟨e, mem, named⟩
    cases e <;> cases named
    exact ⟨_, mem⟩
  · rintro ⟨thread, mem⟩
    exact ⟨_, mem, rfl⟩

theorem mem_destroyed : k ∈ told Event.destroyedTicket? journal ↔ ∃ label, .destroyed k label ∈ journal := by
  rw [mem_told]
  constructor
  · rintro ⟨e, mem, named⟩
    cases e <;> cases named
    exact ⟨_, mem⟩
  · rintro ⟨label, mem⟩
    exact ⟨_, mem, rfl⟩

theorem unclaimed_apart (apart : ∀ e ∈ es, e.isApart = true) :
    unclaimed line (es ++ older) = unclaimed line older := by
  have idle (e : Event) (he : e ∈ es) : e.isIdle = true := Event.isIdle_of_isApart (apart e he)
  have unbatched : batched es = [] := List.flatMap_eq_nil_iff.mpr fun e he =>
    (Event.tells_of_isMute (Event.isMute_of_isApart (apart e he))).2.2.1
  have unstarted : told Event.startedTicket? es = [] := told_none fun e he =>
    Event.startedTicket?_idle (idle e he)
  have undestroyed : told Event.destroyedTicket? es = [] :=
    told_none fun e he => Event.destroyedTicket?_apart (apart e he)
  rw [unclaimed, pushes_idle fun e he => Event.pushed?_idle (idle e he) line, batched_append, told_append,
    told_append, unbatched, unstarted, undestroyed, List.nil_append, List.append_nil, List.append_nil,
    unclaimed]

theorem eq_filter_of_sublist {chosen all : List Nat} {p : Nat → Bool} (sub : chosen.Sublist all)
    (nodup : all.Nodup) (mem : ∀ k ∈ all, k ∈ chosen ↔ p k = true) : chosen = all.filter p := by
  induction sub with
  | slnil => rfl
  | @cons chosen all x sub ih =>
    obtain ⟨away, rest⟩ := List.nodup_cons.mp nodup
    have left : ¬ p x = true := fun own => away (sub.subset ((mem x List.mem_cons_self).mpr own))
    rw [List.filter_cons_of_neg left]
    exact ih rest fun k hk => mem k (List.mem_cons_of_mem x hk)
  | @cons_cons chosen all x sub ih =>
    obtain ⟨away, rest⟩ := List.nodup_cons.mp nodup
    rw [List.filter_cons_of_pos ((mem x List.mem_cons_self).mp List.mem_cons_self), ← ih rest]
    intro k hk
    have other : k ≠ x := by
      rintro rfl
      exact away hk
    simpa [other] using mem k (List.mem_cons_of_mem x hk)

theorem heldBy_pos {fs : List Frame} (held : 0 < heldBy k fs) : ∃ thread a rest count,
    .batch thread a rest count ∈ fs ∧ k ∈ rest.map Runnable.ticket := by
  induction fs with
  | nil => cases held
  | cons f fs ih =>
    rw [heldBy_cons] at held
    by_cases here : 0 < f.held k
    · cases f with
      | batch thread a rest count =>
        obtain ⟨r, hr, same⟩ := List.countP_pos_iff.mp here
        exact ⟨thread, a, rest, count, List.mem_cons_self, List.mem_map.mpr ⟨r, hr, beq_iff_eq.mp same⟩⟩
      | _ => cases here
    · obtain ⟨thread, a, rest, count, mem, left⟩ := ih (by omega)
      exact ⟨thread, a, rest, count, List.mem_cons_of_mem f mem, left⟩

theorem lineUnder_ne (below : List Frame) : lineUnder below ≠ .mainThread := by
  unfold lineUnder
  split <;> decide

theorem Stacked.rests {fs : List Frame} (h : Stacked journal fs) {thread count : Nat} {rest : List Runnable}
    (mem : .batch thread a rest count ∈ fs) : ∃ line, line ≠ .mainThread ∧ Rests journal line a rest := by
  induction fs with
  | nil => cases mem
  | cons f fs ih =>
    rcases List.mem_cons.mp mem with rfl | later
    · exact ⟨_, lineUnder_ne fs, h.1.2⟩
    · exact ih h.2 later

namespace SnapshotJournal

theorem asides (silent : ∀ e ∈ es, e.activation? = none) (h : SnapshotJournal older) :
    SnapshotJournal (es ++ older) := by
  induction es with
  | nil => exact h
  | cons e es ih =>
    exact .aside (silent e List.mem_cons_self) (ih fun x hx => silent x (List.mem_cons_of_mem e hx))

theorem found (h : SnapshotJournal journal) (own : line ≠ .mainThread)
    (since : .began line a ws :: older <:+ journal) :
    ws = unclaimed line older := by
  induction h with
  | opens => simp at since
  | aside silent h ih =>
    rcases List.suffix_cons_iff.mp since with here | later
    · cases here
      cases silent
    · exact ih later
  | begins found h ih =>
    rcases List.suffix_cons_iff.mp since with here | later
    · cases here
      exact found own
    · exact ih later
  | takes h ih => exact ih (by simpa [List.suffix_cons_iff] using since)
  | ends h ih => exact ih (by simpa [List.suffix_cons_iff] using since)

theorem starts (h : SnapshotJournal journal) (since : .took a k :: older <:+ journal) :
    ∃ thread, .started k thread :: .took a k :: older <:+ journal := by
  have longer (front : List Event) {rest : List Event}
      (sub : ∃ thread, .started k thread :: .took a k :: older <:+ rest) :
      ∃ thread, .started k thread :: .took a k :: older <:+ front ++ rest := by
    obtain ⟨thread, sub⟩ := sub
    exact ⟨thread, sub.trans (List.suffix_append front rest)⟩
  induction h with
  | opens => simp at since
  | @aside e _ silent h ih =>
    rcases List.suffix_cons_iff.mp since with here | later
    · cases here
      cases silent
    · exact longer [e] (ih later)
  | @begins line b ws _ found h ih =>
    exact longer [.began line b ws] (ih (by simpa [List.suffix_cons_iff] using since))
  | @takes b x thread _ h ih =>
    rcases List.suffix_cons_iff.mp since with here | later
    · cases here
    · rcases List.suffix_cons_iff.mp later with here | later
      · cases here
        exact ⟨thread, List.suffix_rfl⟩
      · exact longer [.started x thread, .took b x] (ih later)
  | @ends b count _ h ih => exact longer [.ended b count] (ih (by simpa [List.suffix_cons_iff] using since))

end SnapshotJournal

end

section
variable {s t : System} {line : Line} {a k : Nat}

theorem InUse.rests (h : InUse s) {thread count : Nat} {rest : List Runnable}
    (mem : .batch thread a rest count ∈ s.frames) :
    ∃ line, line ≠ .mainThread ∧ Rests s.world.journal line a rest := by
  obtain ⟨σ, hσ, top⟩ := List.mem_flatMap.mp mem
  exact (h.orderly σ hσ).stacked.rests top

theorem InUse.held_batched (h : InUse s) (held : 0 < heldBy k s.frames) : k ∈ batched s.world.journal := by
  obtain ⟨thread, a, rest, count, mem, left⟩ := heldBy_pos held
  obtain ⟨line, own, rests⟩ := h.rests mem
  obtain ⟨before, began⟩ := rests.began
  exact mem_batched.mpr ⟨line, a, _, own, began, List.mem_append_right before left⟩

/-- The waiting calls of a queue are its unclaimed calls. -/
theorem InUse.left (h : InUse s) (own : line ≠ .mainThread) :
    (s.world.waiting line).map Runnable.ticket = unclaimed line s.world.journal := by
  have ledger := h.ledger
  refine eq_filter_of_sublist (ledger.lined line) (ledger.pushes_nodup line) fun k pushed => ?_
  have one := ledger.one_condition (mem_pushes.mp pushed)
  simp only [decide_eq_true_eq]
  constructor
  · intro waits
    obtain ⟨r, hr, rfl⟩ := List.mem_map.mp waits
    have held : 0 < copies r.ticket (s.world.waiting line) := List.countP_pos_iff.mpr ⟨r, hr, by simp⟩
    refine ⟨(kept_dropsAnnounced.inUse h).queued line own r hr, ?_, ledger.waits_undestroyed _ waits⟩
    intro started
    obtain ⟨thread, started⟩ := mem_started.mp started
    have counted := World.one_le_starts started
    omega
  · rintro ⟨unbatched, unstarted, undestroyed⟩
    have unheld : heldBy k s.frames = 0 := Nat.eq_zero_of_not_pos fun held => unbatched (h.held_batched held)
    have idle : s.world.tally (Event.starts k) = 0 := List.countP_eq_zero.mpr fun e he starts =>
      unstarted (mem_told.mpr ⟨e, he, Event.startedTicket?_of_starts starts⟩)
    have spared : s.world.tally (Event.destroys k) = 0 := List.countP_eq_zero.mpr fun e he destroys =>
      undestroyed (mem_told.mpr ⟨e, he, Event.destroyedTicket?_of_destroys destroys⟩)
    have waits : 0 < copies k (s.world.waiting line) := by omega
    obtain ⟨r, hr, same⟩ := List.countP_pos_iff.mp waits
    exact List.mem_map.mpr ⟨r, hr, beq_iff_eq.mp same⟩

theorem InUse.snapshotJournal (h : InUse s) : SnapshotJournal s.world.journal := by
  have idly {w v : World} (losesLines : w.LosesLines v) (h : SnapshotJournal w.journal) :
    SnapshotJournal v.journal := by
    obtain ⟨es, journal, idle⟩ := losesLines.idle
    rw [journal]
    exact h.asides fun e he => Event.activation?_idle (idle e he)
  induction h with
  | idle strands blank =>
    have silent (e : Event) (he : e ∈ _) : e.activation? = none := Event.activation?_idle (blank.events e he)
    simpa using SnapshotJournal.opens.asides silent
  | next used a ih =>
    cases a with
    | external e => exact idly e.losesLines ih
    | move m =>
      obtain ⟨σ, popped, below, others, n, act⟩ := m.act
      rw [act.world]
      cases used.runnableTurn act with
      | losesLines losesLines => exact idly losesLines ih
      | @moves u v before runnableMove after =>
        have early := idly (.keepsRunnables before) ih
        refine idly (.keepsRunnables after) ?_
        obtain ⟨es, journal, news⟩ := runnableMove.activationEvents
        change v.journal = es ++ u.journal at journal
        rw [journal]
        cases news with
        | none silent => exact early.asides silent
        | began line =>
          refine .begins (fun own => ?_) early
          obtain ⟨es, grown, apart⟩ := before.journal
          change (u.waiting line).map Runnable.ticket = unclaimed line u.journal
          rw [before.waiting, used.left own, grown, unclaimed_apart apart]
        | took => exact early.takes
        | ended => exact early.ends

end

end FrameHost
