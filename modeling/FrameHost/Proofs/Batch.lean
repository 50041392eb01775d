import FrameHost.Proofs.Ledger

/-!
The frames above and below a batch of calls. A batch is directly above the pass that took it, or above the
drain of the standalone queue, and the frame directly above it is the call it started last. Hence a fault
that reaches a batch was raised by a call of that batch.
-/
namespace FrameHost

def lineUnder : List Frame → Line
  | .pass .. :: _ => .graphics
  | _ => .standalone

/-- `rest` is the part of an activation that has not started, and all of it was submitted to `line`. -/
structure Rests (journal : List Event) (line : Line) (activation : Nat) (rest : List Runnable) :
    Prop where
  began : ∃ taken, .began line activation (taken ++ rest.map Runnable.ticket) ∈ journal
  filed : ∀ r ∈ rest, .submitted line r.ticket ∈ journal

structure Called (journal : List Event) (line : Line) (activation ticket : Nat) (rest : List Runnable) :
    Prop where
  began : ∃ taken, .began line activation (taken ++ ticket :: rest.map Runnable.ticket) ∈ journal
  took : .took activation ticket ∈ journal
  started : ∃ thread, .started ticket thread ∈ journal

def Based (thread : Nat) : List Frame → Prop
  | .pass t _ .target :: _ => t = thread
  | .drained :: _ => True
  | _ => False

/-- A batch is above its pass or drain; a frame above a batch is the call that the batch took last. -/
def Fits (journal : List Event) : Frame → List Frame → Prop
  | .batch thread activation rest _, below =>
    Based thread below ∧ Rests journal (lineUnder below) activation rest
  | f, .batch _ activation rest _ :: below =>
      ∃ ticket, f = .running ticket ∧ Called journal (lineUnder below) activation ticket rest
  | _, _ => True

def Stacked (journal : List Event) : List Frame → Prop
  | [] => True
  | f :: below => Fits journal f below ∧ Stacked journal below

def Clear : List Frame → Prop
  | .batch .. :: _ => False
  | _ => True

def Frame.isBatch : Frame → Bool
  | batch .. => true
  | _ => false

section
variable {journal later : List Event} {line : Line} {activation ticket : Nat} {rest : List Runnable}
  {f : Frame} {fs below : List Frame}

theorem Rests.mono (h : Rests journal line activation rest) (grows : ∀ e ∈ journal, e ∈ later) :
    Rests later line activation rest := by
  obtain ⟨taken, began⟩ := h.began
  exact ⟨⟨taken, grows _ began⟩, fun r hr => grows _ (h.filed r hr)⟩

theorem Called.mono (h : Called journal line activation ticket rest)
    (grows : ∀ e ∈ journal, e ∈ later) :
    Called later line activation ticket rest := by
  obtain ⟨taken, began⟩ := h.began
  obtain ⟨thread, started⟩ := h.started
  exact ⟨⟨taken, grows _ began⟩, grows _ h.took, thread, grows _ started⟩

theorem Rests.next {r : Runnable} (h : Rests journal line activation (r :: rest)) :
    Rests journal line activation rest := by
  obtain ⟨taken, began⟩ := h.began
  refine ⟨⟨taken ++ [r.ticket], ?_⟩, fun x hx => h.filed x (List.mem_cons_of_mem r hx)⟩
  simpa using began

theorem Rests.called {r : Runnable} {thread : Nat} (h : Rests journal line activation (r :: rest))
    (took : .took activation r.ticket ∈ journal) (started : .started r.ticket thread ∈ journal) :
    Called journal line activation r.ticket rest := by
  obtain ⟨taken, began⟩ := h.began
  exact ⟨⟨taken, by simpa using began⟩, took, thread, started⟩

theorem fits_of_clear (single : f.isBatch = false) (clear : Clear below) : Fits journal f below := by
  cases f with
  | batch => cases single
  | _ =>
    cases below with
    | nil => trivial
    | cons g below => cases g <;> trivial

theorem Fits.clear (h : Fits journal f below) (calm : ∀ ticket, f ≠ .running ticket) : Clear below := by
  cases below with
  | nil => trivial
  | cons g below =>
    cases g with
    | batch t a rest c =>
      cases f with
      | running ticket => exact absurd rfl (calm ticket)
      | batch => exact h.1.elim
      | _ =>
        obtain ⟨ticket, eq, _⟩ := h
        cases eq
    | _ => trivial

theorem Fits.mono (h : Fits journal f below) (grows : ∀ e ∈ journal, e ∈ later) :
    Fits later f below := by
  by_cases batch : f.isBatch = true
  · cases f with
    | batch => exact ⟨h.1, h.2.mono grows⟩
    | _ => cases batch
  · cases below with
    | nil => exact fits_of_clear (by simpa using batch) trivial
    | cons g below =>
      cases g with
      | batch t a rest c =>
        cases f with
        | running ticket =>
          obtain ⟨k, eq, called⟩ := h
          exact ⟨k, eq, called.mono grows⟩
        | batch => exact absurd rfl batch
        | _ =>
          obtain ⟨k, eq, _⟩ := h
          cases eq
      | _ => exact fits_of_clear (by simpa using batch) trivial

theorem Stacked.mono (h : Stacked journal fs) (grows : ∀ e ∈ journal, e ∈ later) :
    Stacked later fs := by
  induction fs with
  | nil => trivial
  | cons f fs ih => exact ⟨h.1.mono grows, ih h.2⟩

theorem Stacked.drop (h : Stacked journal (fs ++ below)) : Stacked journal below := by
  induction fs with
  | nil => exact h
  | cons f fs ih => exact ih h.2

theorem Stacked.lay (fs : List Frame) (h : Stacked journal below) (clear : Clear below)
    (single : ∀ f ∈ fs, f.isBatch = false) :
    Stacked journal (fs ++ below) ∧ Clear (fs ++ below) := by
  induction fs with
  | nil => exact ⟨h, clear⟩
  | cons f fs ih =>
    obtain ⟨stacked, open_⟩ := ih fun x hx => single x (List.mem_cons_of_mem f hx)
    have here := single f List.mem_cons_self
    refine ⟨⟨fits_of_clear here open_, stacked⟩, ?_⟩
    cases f <;> trivial

theorem Stacked.clear (fs : List Frame) (h : Stacked journal (fs ++ below))
    (calm : ∀ f ∈ fs, ∀ ticket, f ≠ .running ticket)
    (bottom : fs = [] → below = []) : Clear below := by
  induction fs with
  | nil => simp [bottom rfl, Clear]
  | cons f fs ih =>
    by_cases last : fs = []
    · subst last
      exact h.1.clear (calm f List.mem_cons_self)
    · exact ih h.2 (fun x hx => calm x (List.mem_cons_of_mem f hx)) fun none => absurd none last

end

theorem isBatch_plain {fs : List Frame} (h : Plain fs) : ∀ f ∈ fs, f.isBatch = false := by
  intro f hf
  have plain := h f hf
  cases f <;> first | rfl | cases plain

theorem calm_light {fs : List Frame} (h : Light fs) : ∀ f ∈ fs, ∀ ticket, f ≠ .running ticket := by
  rintro f hf ticket rfl
  have light := h _ hf
  cases light

theorem GoesOn.stacked {w : World} {thread : Nat} {saved : Bool} {m : Machine} {below : List Frame}
    {journal : List Event}
    (h : GoesOn w thread saved m) (stacked : Stacked journal below) (clear : Clear below) :
    Stacked journal (m.stack ++ below) ∧ Clear (m.stack ++ below) := by
  obtain ⟨front, phase, stack, plain⟩ := h.stays
  rw [stack]
  apply stacked.lay _ clear
  intro f hf
  rcases List.mem_append.mp hf with old | new
  · exact isBatch_plain plain f old
  · rw [List.mem_singleton.mp new]
    rfl

theorem HostEffect.calm {w : World} {others : List Frame} {fault : Option Fault} {popped : List Frame}
    {n : Machine} (d : HostEffect w others fault popped n) :
    ∀ f ∈ popped, ∀ ticket, f ≠ .running ticket := by
  cases d <;> simp

theorem HostEffect.stacked {w : World} {others : List Frame} {fault : Option Fault}
    {popped below : List Frame} {n : Machine}
    (d : HostEffect w others fault popped n) (h : Stacked w.journal (popped ++ below))
    (bottom : popped = [] → below = []) (kept : ∀ e ∈ w.journal, e ∈ n.world.journal)
    (filed : ∀ line, ∀ r ∈ w.waiting line, .submitted line r.ticket ∈ w.journal) :
    Stacked n.world.journal (n.stack ++ below) := by
  have base : Stacked n.world.journal below := h.drop.mono kept
  have clear : Clear below := h.clear popped d.calm bottom
  cases d with
  | dropHost free => exact base
  | ask still hosted r free =>
    rw [World.ask_stack]
    exact base
  | @enter g thread shared owned =>
    have waiting (r : Runnable) (hr : r ∈ g.queue.calls) :
        .submitted .graphics r.ticket ∈ w.journal :=
      filed .graphics r (by simpa [World.waiting, shared] using hr)
    rw [w.enterPass_eq thread shared owned] at kept base ⊢
    obtain ⟨stacked, -⟩ :=
      base.lay [.pass thread g.gate.allowed .target] clear (by simp [Frame.isBatch])
    refine ⟨⟨rfl, ⟨⟨[], ?_⟩, ?_⟩⟩, stacked⟩
    · exact World.began_mem_drain _ thread .graphics g.queue.calls _
    · intro r hr
      exact kept _ (waiting r hr)
  | target thread saved =>
    rcases w.readTarget_goesOn thread saved with goes | ends
    · exact (goes.stacked base clear).1
    · rw [ends]
      exact base
  | loaded thread saved settings =>
    exact ((w.finishLoad_goesOn thread saved settings).stacked base clear).1
  | present thread saved =>
    rw [w.present_stack]
    exact base
  | abort thread saved phase => exact base

theorem StepEffect.stacked {w : World} {others : List Frame} {fault : Option Fault}
    {popped below : List Frame} {n : Machine}
    (d : StepEffect w others fault popped n) (h : Stacked w.journal (popped ++ below))
    (bottom : popped = [] → below = [])
    (filed : ∀ line, ∀ r ∈ w.waiting line, .submitted line r.ticket ∈ w.journal) :
    Stacked n.world.journal (n.stack ++ below) := by
  have kept := d.ledgerMove.kept
  have grown : Stacked n.world.journal (popped ++ below) := h.mono kept
  have base : Stacked n.world.journal below := grown.drop
  have clear (light : Light popped) : Clear below := h.clear popped (calm_light light) bottom
  have plainly {laid : List Frame} (light : Light popped) (plain : Plain laid) :
      Stacked n.world.journal (laid ++ below) := (base.lay laid (clear light) (isBatch_plain plain)).1
  cases d with
  | quiet still light plain => exact plainly light plain
  | finish ticket => exact base
  | abandon ticket => exact base
  | @post _ laid v g thread label body still light plain shared =>
    rcases v.ticketed.post_stack g thread (v.runnable label body) laid with inline | queued
    · rw [inline]
      refine (base.lay _ (clear light) ?_).1
      simpa [Frame.isBatch] using isBatch_plain plain
    · rw [queued]
      exact plainly light plain
  | dispatch label body light plain => exact plainly light plain
  | enqueue label body light plain held => exact plainly light plain
  | @drain _ laid q thread light plain held =>
    refine ⟨⟨trivial, ⟨⟨[], ?_⟩, ?_⟩⟩, plainly light (plain_cons rfl plain)⟩
    · exact World.began_mem_drain _ thread .standalone q.calls _
    · intro r hr
      refine kept _ (filed .standalone r ?_)
      simpa [World.waiting, held] using hr
  | round thread light plain =>
    exact (base.lay _ (clear light) (List.forall_mem_cons.mpr ⟨rfl, isBatch_plain plain⟩)).1
  | nextCall thread activation rest count =>
    obtain ⟨based, rests⟩ := grown.1
    cases rest with
    | nil => exact base
    | cons r rest =>
      have took : .took activation r.ticket ∈
          (w.nextCall thread activation count (r :: rest)).world.journal :=
        List.mem_cons_of_mem _ List.mem_cons_self
      have started : .started r.ticket thread ∈
          (w.nextCall thread activation count (r :: rest)).world.journal :=
        List.mem_cons_self
      have called := rests.called took started
      refine ⟨trivial, ⟨r.ticket, rfl, called⟩, ⟨based, rests.next⟩, base⟩
  | nextMain thread activation queued ran =>
    have alone := clear (light_one rfl)
    unfold World.nextMain at base ⊢
    split at base
    · rename_i r waiting _ _
      exact (base.lay [.script thread r.body, .running r.ticket, .round thread activation queued
        (ran + 1)] alone
        (by simp [Frame.isBatch])).1
    · exact base
  | spill thread activation rest count unwinding => exact base
  | dropHandle slot still _ light plain => exact plainly light plain
  | dropReceiver => exact base
  | render thread hosted free =>
    exact (base.lay [.enter thread] (clear light_nil) (by simp [Frame.isBatch])).1
  | redraw thread hosted free =>
    refine (base.lay _ (clear light_nil) ?_).1
    simp [World.round, Machine.proceed, Frame.isBatch]
  | host d => exact d.stacked h bottom kept filed

/-- A call that neither runs nor finished; if it started, a fault ended it. -/
structure Broke (w : World) (fs : List Frame) (ticket : Nat) : Prop where
  unfinished : w.tally (Event.finishes ticket) = 0
  gone : fs.countP (Frame.isRunning ticket) = 0

/-- The batches of a strand fit their stack, and a fault at a batch was raised by its last call. -/
structure Strand.Orderly (w : World) (fs : List Frame) (σ : Strand) : Prop where
  stacked : Stacked w.journal σ.stack
  blamed : ∀ thread activation rest count below, σ.fault.isSome = true →
    σ.stack = .batch thread activation rest count :: below →
    ∃ ticket, Called w.journal (lineUnder below) activation ticket rest ∧ Broke w fs ticket

theorem Ledger.starts_le_one {w : World} {fs : List Frame} (h : Ledger w fs) (k : Nat) :
    w.tally (Event.starts k) ≤ 1 := by
  have balance := h.balance k
  have once := h.once k
  omega

theorem World.one_le_starts {w : World} {ticket thread : Nat} (h : .started ticket thread ∈ w.journal) :
    1 ≤ w.tally (Event.starts ticket) :=
  List.countP_pos_iff.mpr ⟨_, h, by simp [Event.starts]⟩

section
variable {w v : World} {popped laid others fs gs : List Frame}

theorem Broke.ledgerMove {ticket : Nat} (h : Broke w (popped ++ others) ticket) (t : LedgerMove w popped v laid)
    (ledger : Ledger v (laid ++ others)) (started : ∃ thread, .started ticket thread ∈ w.journal) :
    Broke v (laid ++ others) ticket := by
  obtain ⟨thread, started⟩ := started
  have early := World.one_le_starts started
  have late := ledger.starts_le_one ticket
  have change := t.running ticket
  have unfinished := h.unfinished
  have gone := h.gone
  rw [List.countP_append] at gone
  refine ⟨by omega, ?_⟩
  rw [List.countP_append]
  omega

theorem Broke.perm {ticket : Nat} (p : fs.Perm gs) (h : Broke w fs ticket) : Broke w gs ticket :=
  ⟨h.unfinished, by rw [← p.countP_eq]; exact h.gone⟩

theorem Ledger.broke {ticket : Nat} (h : Ledger w (.running ticket :: others)) :
    Broke w others ticket := by
  have runs := h.running ticket
  have once := h.starts_le_one ticket
  simp only [List.countP_cons, Frame.isRunning, beq_self_eq_true, if_true] at runs
  exact ⟨by omega, by omega⟩

theorem Strand.Orderly.ledgerMove {σ : Strand} (h : σ.Orderly w fs) (before : fs.Perm (popped ++ others))
    (t : LedgerMove w popped v laid) (ledger : Ledger v (laid ++ others))
    (after : gs.Perm (laid ++ others)) :
    σ.Orderly v gs := by
  refine ⟨h.stacked.mono t.kept, ?_⟩
  intro thread activation rest count below fault stack
  obtain ⟨ticket, called, broke⟩ := h.blamed thread activation rest count below fault stack
  refine ⟨ticket, called.mono t.kept, ?_⟩
  exact ((broke.perm before).ledgerMove t ledger called.started).perm after.symm

end

theorem HostEffect.clear {w : World} {others : List Frame} {fault : Option Fault}
    {popped below : List Frame} {n : Machine}
    (d : HostEffect w others fault popped n) (h : Stacked w.journal (popped ++ below))
    (bottom : popped = [] → below = []) (failing : n.fault.isSome = true) :
    Clear (n.stack ++ below) := by
  have clear : Clear below := h.clear popped d.calm bottom
  cases d with
  | dropHost free => exact clear
  | ask still hosted r free =>
    rw [World.ask_stack]
    exact clear
  | enter thread shared owned =>
    rw [w.enterPass_eq thread shared owned] at failing
    cases failing
  | target thread saved =>
    rcases w.readTarget_goesOn thread saved with goes | ends
    · exact (goes.stacked h.drop clear).2
    · rw [ends]
      exact clear
  | loaded thread saved settings =>
    exact ((w.finishLoad_goesOn thread saved settings).stacked h.drop clear).2
  | present thread saved =>
    rw [w.present_stack]
    exact clear
  | abort thread saved phase => exact clear

theorem StepEffect.bare_batch {w : World} {others : List Frame} {fault : Option Fault}
    {popped below : List Frame}
    {n : Machine}
    (d : StepEffect w others fault popped n) (h : Stacked w.journal (popped ++ below))
    (bottom : popped = [] → below = [])
    (failing : n.fault.isSome = true) (bare : ¬ Clear (n.stack ++ below)) :
    ∃ ticket, popped = [.running ticket] ∧ n.world = w ∧ n.stack = [] := by
  have covered (calm : ∀ f ∈ popped, ∀ ticket, f ≠ .running ticket) : Clear below :=
    h.clear popped calm bottom
  cases d with
  | abandon ticket => exact ⟨ticket, rfl, rfl, rfl⟩
  | quiet still light plain =>
    have clear := (h.drop.lay _ (covered (calm_light light)) (isBatch_plain plain)).2
    exact absurd clear bare
  | spill => exact absurd (covered (by simp)) bare
  | nextCall thread activation rest count => cases rest <;> cases failing
  | nextMain thread activation queued ran =>
    unfold World.nextMain at failing
    split at failing <;> cases failing
  | post thread label body still light plain shared =>
    unfold World.post at failing
    dsimp only at failing
    split at failing <;> cases failing
  | host d => exact absurd (d.clear h bottom failing) bare
  | _ => cases failing

/-- Every move preserves `Strand.Orderly` for all strands. -/
theorem Move.orderly {s t : System} (m : Move s t) (was : Ledger s.world s.frames)
    (h : ∀ σ ∈ s.strands, σ.Orderly s.world s.frames) :
    ∀ σ ∈ t.strands, σ.Orderly t.world t.frames := by
  obtain ⟨σ, popped, below, others, n, act⟩ := m.act
  have ledger := was.perm act.before
  have stacked : Stacked s.world.journal (popped ++ below) := act.stack ▸ (h σ act.mem).stacked
  rw [act.world]
  intro τ hτ
  rcases (act.new τ).mp hτ with rfl | old
  · refine ⟨act.effect.stacked stacked act.bottom was.filed, ?_⟩
    intro thread activation rest count base fault top
    -- A fault on top of a batch has just unwound the call above it.
    have bare : ¬ Clear (n.stack ++ below) := by
      intro clear
      rw [show n.stack ++ below = _ from top] at clear
      exact clear
    obtain ⟨ticket, rfl, world, empty⟩ := act.effect.bare_batch stacked act.bottom fault bare
    obtain rfl : below = .batch thread activation rest count :: base := by simpa [empty] using top
    obtain ⟨k, eq, called⟩ := stacked.1
    cases eq
    have broke : Broke s.world _ ticket := ledger.broke
    have after := act.after
    rw [empty] at after
    rw [world]
    exact ⟨ticket, called, broke.perm after.symm⟩
  · have waits := h τ ((act.old τ).mpr (.inr old))
    exact waits.ledgerMove act.before act.effect.ledgerMove (ledger.ledgerMove act.effect.ledgerMove) act.after

theorem Strand.Orderly.idle (w : World) (fs : List Frame) : Strand.idle.Orderly w fs :=
  ⟨trivial, by simp [Strand.idle]⟩

theorem Reachable.orderly {b : AdapterOptions} {s : System} (h : Reachable b s) :
    ∀ σ ∈ s.strands, σ.Orderly s.world s.frames := by
  induction h with
  | built strands bare h =>
    intro σ hσ
    obtain rfl := List.eq_of_mem_replicate hσ
    exact .idle _ _
  | move reached m ih => exact m.orderly reached.ledger ih

end FrameHost
