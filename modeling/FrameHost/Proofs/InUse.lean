import FrameHost.Proofs.Batch
import FrameHost.Session.Channel
import FrameHost.Session.Queue

/-!
Runnable lines in use, with or without a host. Any number of strands start from a world in which nothing
waits; the receiver may belong to a platform or be free, and there may be a standalone queue. Between turns,
senders may be cloned or dropped and the standalone queue may be dropped. A built host is such a system
(`Reachable.inUse`), and so is a session with a channel (`ChannelSession.rested_run`).
-/
namespace FrameHost

inductive ExternalMove (w : World) : World → Prop where
  | cloneSender (slot : Nat) (held : w.channel.hasSender slot = true) :
      ExternalMove w { w with channel := w.channel.cloneSender }
  | dropSender (slot : Nat) : ExternalMove w { w with channel := w.channel.dropSender slot }
  | dropQueue : ExternalMove w (QueueSession.drop w)

inductive Advance : System → System → Prop where
  | move {s t : System} (m : Move s t) : Advance s t
  | external {s : System} {v : World} (e : ExternalMove s.world v) : Advance s ⟨v, s.strands⟩

inductive InUse : System → Prop where
  | idle {w : World} (strands : Nat) (blank : w.Blank) : InUse ⟨w, List.replicate strands .idle⟩
  | next {s t : System} (h : InUse s) (a : Advance s t) : InUse t

theorem Reachable.inUse {b : AdapterOptions} {s : System} (h : Reachable b s) : InUse s := by
  induction h with
  | built strands bare h => exact .idle strands (World.fresh_build bare h).blank
  | move _ m ih => exact ih.next (.move m)

theorem QueueSession.drop_ledgerMove (w : World) : LedgerMove w [] (QueueSession.drop w) [] := by
  unfold QueueSession.drop
  split
  · exact (World.Still.refl w).ledgerMove_light light_nil light_nil
  · rename_i q held
    have calls : q.calls = w.waiting .standalone := by
      simp only [World.waiting, held, Option.getD_some]
    have gone : w.Silent { w with standalone := none } := ⟨⟨[], rfl, by simp⟩, Nat.le_refl _⟩
    refine World.discardCalls_ledgerMove .standalone q calls gone rfl ?_ light_nil light_nil
    intro l other
    cases l <;> first | exact absurd rfl other | rfl

section
variable {w v : World} {s t : System}

theorem ExternalMove.ledgerMove (e : ExternalMove w v) : LedgerMove w [] v [] := by
  cases e with
  | cloneSender slot held =>
    have still : w.Still { w with channel := w.channel.cloneSender } :=
      ⟨⟨⟨[], rfl, by simp⟩, Nat.le_refl _⟩, funext fun line => by cases line <;> rfl⟩
    exact still.ledgerMove_light light_nil light_nil
  | dropSender slot =>
    have still : w.Still { w with channel := w.channel.dropSender slot } :=
      ⟨⟨⟨[], rfl, by simp⟩, Nat.le_refl _⟩, funext fun line => by cases line <;> rfl⟩
    exact still.ledgerMove_light light_nil light_nil
  | dropQueue => exact QueueSession.drop_ledgerMove w

theorem Advance.ledgerMove (a : Advance s t) : ∃ popped laid others, s.frames.Perm (popped ++ others) ∧
    LedgerMove s.world popped t.world laid ∧ t.frames.Perm (laid ++ others) := by
  cases a with
  | move m =>
    obtain ⟨σ, popped, below, others, n, act⟩ := m.act
    exact ⟨popped, n.stack, _, act.before, act.world ▸ act.effect.ledgerMove, act.after⟩
  | external e => exact ⟨[], [], _, .refl _, e.ledgerMove, .refl _⟩

theorem InUse.ledger (h : InUse s) : Ledger s.world s.frames := by
  induction h with
  | idle strands blank =>
    simp only [System.frames, framesOf_idle]
    exact blank.ledger
  | next _ a ih =>
    obtain ⟨popped, laid, others, before, ledgerMove, after⟩ := a.ledgerMove
    exact ((ih.perm before).ledgerMove ledgerMove).perm after.symm

theorem InUse.orderly (h : InUse s) : ∀ σ ∈ s.strands, σ.Orderly s.world s.frames := by
  induction h with
  | idle strands blank =>
    intro σ hσ
    obtain rfl := List.eq_of_mem_replicate hσ
    exact .idle _ _
  | next used a ih =>
    cases a with
    | move m => exact m.orderly used.ledger ih
    | external e =>
      intro σ hσ
      exact (ih σ hσ).ledgerMove (.refl _) e.ledgerMove (used.ledger.ledgerMove e.ledgerMove) (.refl _)

end

section
variable {m : Machine}

theorem InUse.move {s t : System} (h : InUse s) (m : Move s t) : InUse t := h.next (.move m)

theorem InUse.alone_runFor (fuel : Nat) (h : InUse m.alone) : InUse (m.runFor fuel).alone :=
  Machine.alone_steps (fun _ _ => .move) fuel h

theorem InUse.alone_begin (h : InUse m.alone) (idle : m.stack = []) (r : Request) (thread : Nat) :
    InUse (r.begin m.world thread).alone :=
  Machine.alone_begins (fun _ _ => .move) h idle r thread

theorem InUse.alone_carryOut (h : InUse m.alone) (idle : m.stack = []) (r : Request) (thread : Nat) :
    InUse (r.carryOut m.world thread).alone :=
  (h.alone_begin idle r thread).alone_runFor _

end

theorem World.blank_channel (receiver : Receiver) :
    World.Blank { World.empty with channel := .new receiver } := by
  constructor
  · intro line
    cases line <;> rfl
  · simp [World.empty]

/-- A world in which one strand of a system in use is idle. -/
def Rested (w : World) : Prop := ∃ σ : Strand, σ.stack = [] ∧ InUse ⟨w, [σ]⟩

section
variable {w v : World}

theorem Rested.carryOut (h : Rested w) (r : Request) (thread : Nat) : Rested (r.carryOut w thread).world := by
  obtain ⟨σ, idle, used⟩ := h
  have used : InUse (σ.on w).alone := used
  exact ⟨(r.carryOut w thread).strand, (r.begin w thread).run_stack, used.alone_carryOut idle r thread⟩

theorem Rested.dropReceiver (h : Rested w) (held : w.channel.receiver = .free) : Rested w.dropReceiver := by
  obtain ⟨σ, idle, used⟩ := h
  have used : InUse (σ.on w).alone := used
  have dropped := used.alone_begin idle .dropReceiver Threads.main
  have left : Request.dropReceiver.begin w Threads.main = .proceed w.dropReceiver [] := by
    simp [Request.begin, held]
  change InUse (Request.dropReceiver.begin w Threads.main).alone at dropped
  rw [left] at dropped
  exact ⟨_, rfl, dropped⟩

theorem Rested.external (h : Rested w) (e : ExternalMove w v) : Rested v := by
  obtain ⟨σ, idle, used⟩ := h
  exact ⟨σ, idle, used.next (.external e)⟩

/-- A dispatch outside all scripts equals one by a script that does nothing else. -/
theorem Rested.dispatch (h : Rested w) {sender : Nat} (held : w.channel.hasSender sender = true)
    (label : Option String) (body : Script) : Rested (w.ticketed.dispatch (w.runnable label body)) := by
  obtain ⟨σ, idle, used⟩ := h
  have used : InUse (σ.on w).alone := used
  let sends : Request := .act (.nest (.dispatch sender label) body .done)
  have stepped := (used.alone_begin idle sends Threads.main).alone_runFor 2
  have sent : (sends.begin w Threads.main).runFor 2
      = .proceed (w.ticketed.dispatch (w.runnable label body)) [] := by
    simp [sends, Request.begin, Machine.runFor, Machine.step, Frame.advance, Nest.perform, Machine.proceed,
      held]
  change InUse ((sends.begin w Threads.main).runFor 2).alone at stepped
  rw [sent] at stepped
  exact ⟨_, rfl, stepped⟩

namespace ChannelSession

theorem rested_perform (h : Rested w) (r : ChannelRequest) : Rested (perform r w).2 := by
  cases r with
  | send sender label body =>
    by_cases held : w.channel.hasSender sender = true
    · simpa [perform, held] using h.dispatch held label body
    · simpa [perform, held] using h
  | clone sender =>
    by_cases held : w.channel.hasSender sender = true
    · simpa [perform, held] using h.external (.cloneSender sender held)
    · simpa [perform, held] using h
  | dropSender sender => exact h.external (.dropSender sender)
  | dropReceiver =>
    by_cases held : w.channel.receiver = .free
    · simpa [perform, held] using h.dropReceiver held
    · simpa [perform, held] using h
  | run =>
    by_cases held : w.channel.receiver = .free
    · simpa [perform, held, Request.carryOut, Request.begin] using h.carryOut .runMain Threads.main
    · simpa [perform, held] using h
  | act body => exact h.carryOut (.act body) Threads.main
  | describe sender => exact h
  | unknown => exact h

theorem rested_runSteps {τ : Type} (view : ChannelRequest → World → τ) (steps : List ChannelRequest)
    (h : Rested w) : Rested (runSteps perform World.journal view w steps).2 := by
  induction steps generalizing w with
  | nil => exact h
  | cons r steps ih => exact ih (rested_perform h r)

theorem rested_run {τ : Type} (view : ChannelRequest → World → τ) (steps : List ChannelRequest) :
    Rested (runSteps perform World.journal view { World.empty with channel := .new .free } steps).2 :=
  rested_runSteps view steps ⟨.idle, rfl, .idle 1 (World.blank_channel .free)⟩

end ChannelSession

end

end FrameHost
