import Mathlib.Data.List.Nodup
import FrameHost.Proofs.Batch
import FrameHost.Session.Queue

/-!
The tickets that a journal names: those started, destroyed or taken by an activation, oldest first, and
their restriction to one line.
-/
namespace FrameHost

namespace Event

def startedTicket? : Event → Option Nat
  | started ticket _ => some ticket
  | _ => none

def destroyedTicket? : Event → Option Nat
  | destroyed ticket _ => some ticket
  | _ => none

def takenBy? (activation : Nat) : Event → Option Nat
  | took a ticket => if a = activation then some ticket else none
  | _ => none

def takerOf? (ticket : Nat) : Event → Option Nat
  | took activation t => if t = ticket then some activation else none
  | _ => none

end Event

def told (pick : Event → Option Nat) (journal : List Event) : List Nat :=
  (journal.filterMap pick).reverse

/-- The tickets picked by `pick` that `own` picks as well. -/
def toldOf (pick own : Event → Option Nat) (journal : List Event) : List Nat :=
  (told pick journal).filter fun ticket => ticket ∈ told own journal

def takes (activation : Nat) (journal : List Event) : List Nat := told (Event.takenBy? activation) journal

def takers (ticket : Nat) (journal : List Event) : List Nat := told (Event.takerOf? ticket) journal

def startsOf (line : Line) (journal : List Event) : List Nat :=
  toldOf Event.startedTicket? (Event.pushed? line) journal

def lossesOf (line : Line) (journal : List Event) : List Nat :=
  toldOf Event.destroyedTicket? (Event.pushed? line) journal

section
variable {pick own : Event → Option Nat} {line : Line} {es older : List Event} {ticket : Nat}

theorem told_append (pick : Event → Option Nat) (es older : List Event) :
    told pick (es ++ older) = told pick older ++ told pick es := by
  simp [told]

theorem mem_told {journal : List Event} :
    ticket ∈ told pick journal ↔ ∃ e ∈ journal, pick e = some ticket := by
  simp only [told, List.mem_reverse, List.mem_filterMap]

theorem told_none (silent : ∀ e ∈ es, pick e = none) : told pick es = [] := by
  rw [told, List.reverse_eq_nil_iff, List.filterMap_eq_nil_iff]
  exact silent

theorem pushes_told (line : Line) (journal : List Event) :
    pushes line journal = told (Event.pushed? line) journal := rfl

theorem startedTickets_told (journal : List Event) :
    startedTickets journal = told Event.startedTicket? journal := by
  rw [startedTickets, told, ← List.filterMap_reverse]
  congr 1

theorem startedTickets_append (es older : List Event) :
    startedTickets (es ++ older) = startedTickets older ++ startedTickets es := by
  simp only [startedTickets_told, told_append]

/-- New events append to `toldOf` when none of them submits a ticket that was picked before. -/
theorem toldOf_append (fresh : ∀ k ∈ told pick older, k ∉ told own es) :
    toldOf pick own (es ++ older)
      = toldOf pick own older ++ (told pick es).filter fun ticket => ticket ∈ told own (es ++ older) := by
  rw [toldOf, told_append pick, List.filter_append]
  congr 1
  apply List.filter_congr
  intro k old
  simp [told_append, fresh k old]

theorem toldOf_idle (silent : ∀ e ∈ es, pick e = none) (kept : ∀ e ∈ es, own e = none) :
    toldOf pick own (es ++ older) = toldOf pick own older := by
  rw [toldOf_append (by simp [told_none kept]), told_none silent]
  exact List.append_nil _

theorem pushes_idle (kept : ∀ e ∈ es, e.pushed? line = none) :
    pushes line (es ++ older) = pushes line older := by
  rw [pushes_append, pushes_told line es, told_none kept, List.append_nil]

theorem takes_idle {activation : Nat} (silent : ∀ e ∈ es, e.takenBy? activation = none) :
    takes activation (es ++ older) = takes activation older := by
  rw [takes, told_append, told_none silent, List.append_nil, takes]

theorem takes_took {activation thread : Nat} (ticket : Nat) (older : List Event) :
    takes activation ([.started ticket thread, .took activation ticket] ++ older)
      = takes activation older ++ [ticket] := by
  rw [takes, told_append]
  simp [told, List.filterMap_cons, Event.takenBy?, takes]

theorem mem_takers {activation : Nat} {journal : List Event} :
    activation ∈ takers ticket journal ↔ .took activation ticket ∈ journal := by
  rw [takers, mem_told]
  constructor
  · rintro ⟨e, mem, taken⟩
    cases e <;> simp only [Event.takerOf?, reduceCtorEq] at taken
    split at taken
    · cases taken
      subst ticket
      exact mem
    · cases taken
  · intro mem
    exact ⟨_, mem, by simp [Event.takerOf?]⟩

theorem mem_takes {activation : Nat} {journal : List Event} :
    ticket ∈ takes activation journal ↔ .took activation ticket ∈ journal := by
  rw [takes, mem_told]
  constructor
  · rintro ⟨e, mem, taken⟩
    cases e <;> simp only [Event.takenBy?, reduceCtorEq] at taken
    split at taken
    · cases taken
      subst activation
      exact mem
    · cases taken
  · intro mem
    exact ⟨_, mem, by simp [Event.takenBy?]⟩

end

section
variable {w : World} {fs : List Frame} {k : Nat}

theorem Ledger.pushed_early (h : Ledger w fs) {line : Line} (pushed : k ∈ pushes line w.journal) :
    k < w.tickets := by
  apply Nat.lt_of_not_le
  intro late
  have none := h.fresh k late
  have one : 0 < w.tally (Event.submits k) :=
    List.countP_pos_iff.mpr ⟨_, mem_pushes.mp pushed, by simp [Event.submits]⟩
  omega

/-- The next ticket occurs in no event of the journal. -/
theorem Ledger.untold (h : Ledger w fs) : w.tally (Event.starts w.tickets) = 0 ∧
    w.tally (Event.destroys w.tickets) = 0 := by
  have balance := h.balance w.tickets
  have none := h.fresh w.tickets (Nat.le_refl _)
  omega

theorem Ledger.unstarted (h : Ledger w fs) : w.tickets ∉ told Event.startedTicket? w.journal := by
  intro mem
  obtain ⟨e, he, named⟩ := mem_told.mp mem
  have counted : 0 < w.tally (Event.starts w.tickets) := by
    refine List.countP_pos_iff.mpr ⟨e, he, ?_⟩
    cases e <;> simp_all [Event.startedTicket?, Event.starts]
  have none := h.untold.1
  omega

theorem World.tally_destroyed (destroyed : k ∈ told Event.destroyedTicket? w.journal) :
    0 < w.tally (Event.destroys k) := by
  obtain ⟨e, he, named⟩ := mem_told.mp destroyed
  refine List.countP_pos_iff.mpr ⟨e, he, ?_⟩
  cases e <;> simp_all [Event.destroyedTicket?, Event.destroys]

theorem Ledger.undestroyed (h : Ledger w fs) : w.tickets ∉ told Event.destroyedTicket? w.journal := by
  intro mem
  have counted := World.tally_destroyed mem
  have none := h.untold.2
  omega

theorem World.count_told_le {pick : Event → Option Nat} {p : Event → Bool}
    (named : ∀ e, pick e = some k → p e = true) (w : World) : (told pick w.journal).count k ≤ w.tally p := by
  rw [told, List.count_reverse, tally, List.count, List.countP_filterMap]
  apply List.countP_mono_left
  intro e _ picked
  apply named e
  cases picks : pick e <;> simp_all

theorem Ledger.pushes_nodup (h : Ledger w fs) (line : Line) : (pushes line w.journal).Nodup := by
  rw [List.nodup_iff_count_le_one]
  intro k
  have once := h.once k
  have fewer : (pushes line w.journal).count k ≤ w.tally (Event.submits k) := by
    apply w.count_told_le
    intro e named
    cases e <;> simp only [Event.pushed?, reduceCtorEq] at named
    split at named <;> simp_all [Event.submits]
  omega

theorem Ledger.destroyed_nodup (h : Ledger w fs) : (told Event.destroyedTicket? w.journal).Nodup := by
  rw [List.nodup_iff_count_le_one]
  intro k
  have once := h.once k
  have balance := h.balance k
  have fewer : (told Event.destroyedTicket? w.journal).count k ≤ w.tally (Event.destroys k) := by
    apply w.count_told_le
    intro e named
    cases e <;> simp_all [Event.destroyedTicket?, Event.destroys]
  omega

end

end FrameHost
