import FrameHost.Proofs.JournalQueries
import FrameHost.Proofs.Cause
import FrameHost.Proofs.InUse

/-!
The effects of one turn on runnables. Lines may be lost with the runnables that wait in them
(`World.LosesLines`); otherwise at most one runnable is submitted, started, finished or refused, or one
activation begins, ends or is unwound (`RunnableMove`). Invariants of systems in use are proved by cases on
these moves (`Kept`).
-/
namespace FrameHost

def Frame.activation? : Frame → Option Nat
  | batch _ activation _ _ | round _ activation _ _ => some activation
  | _ => none

def Event.activation? : Event → Option Nat
  | began _ activation _ | took activation _ | ended activation _ => some activation
  | _ => none

def Frame.isLoose : Frame → Bool
  | running _ | batch .. | round .. => false
  | _ => true

def Loose (fs : List Frame) : Prop := ∀ f ∈ fs, f.isLoose = true

def NoRunning (fs : List Frame) : Prop := ∀ f ∈ fs, ∀ ticket, f ≠ .running ticket

def Event.isIdle : Event → Bool
  | submitted .. | started .. | began .. | took .. | ended .. => false
  | _ => true

def lossNotice (line : Line) (count : Nat) : List Event :=
  if line = .mainThread ∨ count = 0 then [] else [.log (.droppingCalls count)]

def destructions (rs : List Runnable) : List Event :=
  (rs.map fun r => .destroyed r.ticket r.label).reverse

structure World.LosesLine (line : Line) (w v : World) : Prop where
  journal : v.journal = destructions (w.waiting line) ++ lossNotice line (w.waiting line).length ++ w.journal
  tickets : v.tickets = w.tickets
  emptied : v.waiting line = []
  others : ∀ l, l ≠ line → v.waiting l = w.waiting l
  receiver : v.channel.receiver = if line = .mainThread then .gone else w.channel.receiver

inductive World.LosesLines : World → World → Prop where
  | keepsRunnables {w v : World} (h : w.KeepsRunnables v) : LosesLines w v
  | losesLine {w v : World} (line : Line) (h : w.LosesLine line v) : LosesLines w v
  | trans {u v w : World} (h : LosesLines u v) (k : LosesLines v w) : LosesLines u w

structure World.Writes (w : World) (es : List Event) (v : World) : Prop where
  journal : v.journal = es ++ w.journal
  receiver : v.channel.receiver = w.channel.receiver

/-- The effect of a turn on runnables where no line is lost. -/
inductive RunnableMove (w : World) (fault : Option Fault) : List Frame → Machine → Prop where
  | aside {popped : List Frame} {n : Machine} (same : n.world = w) (calm : NoRunning popped)
      (loose : Loose n.stack) : RunnableMove w fault popped n
  | finishes {n : Machine} (ticket : Nat) (world : n.world = w.record (.finished ticket))
      (stack : n.stack = []) : RunnableMove w fault [.running ticket] n
  | abandons {n : Machine} (ticket : Nat) (world : n.world = w) (stack : n.stack = [])
      (failing : n.fault.isSome = true) : RunnableMove w fault [.running ticket] n
  | queues {popped : List Frame} {n : Machine} (line : Line) (r : Runnable) (own : r.ticket = w.tickets)
      (writes : w.Writes [.submitted line w.tickets] n.world) (tickets : n.world.tickets = w.tickets + 1)
      (last : n.world.waiting line = w.waiting line ++ [r])
      (others : ∀ l, l ≠ line → n.world.waiting l = w.waiting l)
      (received : line = .mainThread → w.channel.receiver ≠ .gone) (calm : NoRunning popped)
      (loose : Loose n.stack) : RunnableMove w fault popped n
  | inline {popped below : List Frame} {n : Machine} (thread : Nat) (body : Script)
      (writes : w.Writes [.started w.tickets thread, .submitted .graphics w.tickets] n.world)
      (tickets : n.world.tickets = w.tickets + 1) (waiting : n.world.waiting = w.waiting)
      (calm : NoRunning popped) (laid : n.stack = .script thread body :: .running w.tickets :: below)
      (loose : Loose below) : RunnableMove w fault popped n
  | refuses {popped : List Frame} {n : Machine} (label : Option String)
      (writes : w.Writes [.log .mainThreadGone, .destroyed w.tickets label,
        .submitted .mainThread w.tickets] n.world)
      (tickets : n.world.tickets = w.tickets + 1) (waiting : n.world.waiting = w.waiting)
      (gone : w.channel.receiver = .gone) (calm : NoRunning popped) (loose : Loose n.stack) :
      RunnableMove w fault popped n
  | takes {popped below : List Frame} {n : Machine} (line : Line) (thread : Nat) (own : line ≠ .mainThread)
      (writes : w.Writes [.began line w.tickets ((w.waiting line).map Runnable.ticket)] n.world)
      (tickets : n.world.tickets = w.tickets + 1) (emptied : n.world.waiting line = [])
      (others : ∀ l, l ≠ line → n.world.waiting l = w.waiting l) (calm : NoRunning popped)
      (laid : n.stack = .batch thread w.tickets (w.waiting line) (w.waiting line).length :: below)
      (loose : Loose below) : RunnableMove w fault popped n
  | rounds {popped below : List Frame} {n : Machine} (thread : Nat)
      (writes : w.Writes [.began .mainThread w.tickets ((w.waiting .mainThread).map Runnable.ticket)] n.world)
      (tickets : n.world.tickets = w.tickets + 1) (waiting : n.world.waiting = w.waiting)
      (calm : NoRunning popped)
      (laid : n.stack = .round thread w.tickets (w.waiting .mainThread).length 0 :: below)
      (loose : Loose below) : RunnableMove w fault popped n
  | calls {n : Machine} (thread activation count : Nat) (r : Runnable) (rest : List Runnable) (line : Line)
      (well : fault = none) (own : line ≠ .mainThread) (rests : Rests w.journal line activation (r :: rest))
      (writes : w.Writes [.started r.ticket thread, .took activation r.ticket] n.world)
      (tickets : n.world.tickets = w.tickets) (waiting : n.world.waiting = w.waiting)
      (laid : n.stack = [.script thread r.body, .running r.ticket, .batch thread activation rest count]) :
      RunnableMove w fault [.batch thread activation (r :: rest) count] n
  | serves {n : Machine} (thread activation queued ran : Nat) (r : Runnable) (rest : List Runnable)
      (well : fault = none) (short : ran < queued) (waits : w.waiting .mainThread = r :: rest)
      (writes : w.Writes [.started r.ticket thread, .took activation r.ticket] n.world)
      (tickets : n.world.tickets = w.tickets) (left : n.world.waiting .mainThread = rest)
      (others : ∀ l, l ≠ .mainThread → n.world.waiting l = w.waiting l)
      (laid : n.stack
        = [.script thread r.body, .running r.ticket, .round thread activation queued (ran + 1)]) :
      RunnableMove w fault [.round thread activation queued ran] n
  | closes {n : Machine} (thread activation count : Nat) (line : Line) (well : fault = none)
      (own : line ≠ .mainThread) (rests : Rests w.journal line activation [])
      (writes : w.Writes [.ended activation count] n.world) (tickets : n.world.tickets = w.tickets)
      (waiting : n.world.waiting = w.waiting) (stack : n.stack = [])
      (answer : n.fault = none ∧ n.answer = .count count) :
      RunnableMove w fault [.batch thread activation [] count] n
  | returns {n : Machine} (thread activation queued ran : Nat) (well : fault = none)
      (spent : ran < queued → w.waiting .mainThread = [])
      (writes : w.Writes [.ended activation ran] n.world) (tickets : n.world.tickets = w.tickets)
      (waiting : n.world.waiting = w.waiting) (stack : n.stack = [])
      (answer : n.fault = none ∧ n.answer = .count ran) :
      RunnableMove w fault [.round thread activation queued ran] n
  | spills {n : Machine} (thread activation count : Nat) (rest : List Runnable) (line : Line)
      (unwinding : fault.isSome = true) (own : line ≠ .mainThread)
      (rests : Rests w.journal line activation rest)
      (world : n.world = w.destroyAll rest) (stack : n.stack = []) (failing : n.fault.isSome = true) :
      RunnableMove w fault [.batch thread activation rest count] n

namespace Event

theorem isIdle_of_isApart {e : Event} (h : e.isApart = true) : e.isIdle = true := by
  cases e <;> first | rfl | cases h

variable {e : Event} (h : e.isIdle = true)
include h

theorem pushed?_idle (line : Line) : e.pushed? line = none := by
  cases e <;> first | rfl | cases h

theorem startedTicket?_idle : e.startedTicket? = none := by
  cases e <;> first | rfl | cases h

theorem takenBy?_idle (activation : Nat) : e.takenBy? activation = none := by
  cases e <;> first | rfl | cases h

theorem activation?_idle : e.activation? = none := by
  cases e <;> first | rfl | cases h

end Event

theorem lossNotice_idle (line : Line) (count : Nat) : ∀ e ∈ lossNotice line count, e.isIdle = true := by
  unfold lossNotice
  split <;> simp [Event.isIdle]

theorem destructions_idle (rs : List Runnable) : ∀ e ∈ destructions rs, e.isIdle = true := by
  intro e he
  obtain ⟨r, _, rfl⟩ := List.mem_map.mp (List.mem_reverse.mp he)
  rfl

inductive ActivationEvents (w : World) (fault : Option Fault) (popped : List Frame) (n : Machine) :
    List Event → Prop where
  | none {es : List Event} (silent : ∀ e ∈ es, e.activation? = none) : ActivationEvents w fault popped n es
  | began (line : Line) :
      ActivationEvents w fault popped n [.began line w.tickets ((w.waiting line).map Runnable.ticket)]
  | took {f : Frame} {a : Nat} (ticket thread : Nat) (well : fault = none) (top : popped = [f])
      (own : f.activation? = some a) :
      ActivationEvents w fault popped n [.started ticket thread, .took a ticket]
  | ended {f : Frame} {a : Nat} (count : Nat) (well : fault = none) (top : popped = [f])
      (own : f.activation? = some a) (answer : n.fault = none ∧ n.answer = .count count) :
      ActivationEvents w fault popped n [.ended a count]

theorem loose_nil : Loose [] := by simp [Loose]

theorem loose_plain {fs : List Frame} (h : Plain fs) : Loose fs := by
  intro f hf
  have plain := h f hf
  cases f <;> first | rfl | cases plain

theorem loose_cons {f : Frame} {fs : List Frame} (h : f.isLoose = true) (k : Loose fs) : Loose (f :: fs) := by
  intro x hx
  rcases List.mem_cons.mp hx with eq | mem
  · exact eq ▸ h
  · exact k x mem

theorem GoesOn.loose {w : World} {thread : Nat} {saved : Bool} {m : Machine} (h : GoesOn w thread saved m) :
    Loose m.stack := by
  obtain ⟨front, phase, stack, plain⟩ := h.stays
  rw [stack]
  intro f hf
  rcases List.mem_append.mp hf with old | new
  · exact loose_plain plain f old
  · rw [List.mem_singleton.mp new]
    rfl

namespace World

theorem journal_destroyAll (w : World) (rs : List Runnable) :
    (w.destroyAll rs).journal = destructions rs ++ w.journal := w.journal_recordAll _

theorem destroyAll_eq (w : World) (rs : List Runnable) : ∃ j, w.destroyAll rs = { w with journal := j } :=
  w.recordAll_eq _

theorem LosesLines.refl (w : World) : w.LosesLines w := .keepsRunnables (.refl w)

theorem LosesLines.of_quiet {w v : World} (h : w.Quiet v) : w.LosesLines v := .keepsRunnables (.of_quiet h)

/-- The warning is written only if the queue is not empty. -/
theorem losesLine_discardCalls {w v : World} {line : Line} {q : CallQueue} (calls : q.calls = w.waiting line)
    (own : line ≠ .mainThread) (journal : v.journal = w.journal) (tickets : v.tickets = w.tickets)
    (emptied : v.waiting line = []) (others : ∀ l, l ≠ line → v.waiting l = w.waiting l)
    (receiver : v.channel.receiver = w.channel.receiver) : w.LosesLine line (v.discardCalls q) := by
  have written : (v.discardCalls q).journal
      = destructions (w.waiting line) ++ lossNotice line (w.waiting line).length ++ w.journal := by
    unfold discardCalls
    rw [journal_destroyAll, calls, List.append_assoc]
    apply congrArg (destructions (w.waiting line) ++ ·)
    cases waits : w.waiting line with
    | nil => simp [CallQueue.isEmpty, calls, waits, lossNotice, journal]
    | cons r rs =>
      simp [CallQueue.isEmpty, CallQueue.length, calls, waits, lossNotice, own, log, record, journal]
  obtain ⟨j, eq⟩ := discardCalls_eq v q
  rw [eq] at written ⊢
  refine ⟨written, tickets, emptied, others, ?_⟩
  rw [if_neg own]
  exact receiver

theorem losesLine_releaseGraphics {w : World} {g : Graphics}
    (unheld : ¬(w.host.isSome || w.handles.any id) = true)
    (shared : w.graphics = some g) : w.LosesLine .graphics w.releaseGraphics := by
  have calls : g.queue.calls = w.waiting .graphics := by simp only [waiting, shared, Option.getD_some]
  simp only [releaseGraphics, unheld, shared, Bool.false_eq_true, if_false]
  refine losesLine_discardCalls calls (by decide) rfl rfl rfl ?_ rfl
  intro l other
  cases l <;> first | exact absurd rfl other | rfl

theorem losesLines_releaseGraphics (w : World) : w.LosesLines w.releaseGraphics := by
  by_cases held : (w.host.isSome || w.handles.any id) = true
  · rw [releaseGraphics, if_pos held]
    exact .refl w
  · cases shared : w.graphics with
    | none =>
      rw [releaseGraphics, if_neg held, shared]
      exact .refl w
    | some g => exact .losesLine .graphics (losesLine_releaseGraphics held shared)

theorem losesLines_dropHandle (w : World) (slot : Nat) : w.LosesLines (w.dropHandle slot) := by
  have emptied : w.KeepsRunnables { w with handles := w.handles.set slot false } := ⟨.of_eq rfl, rfl, rfl, rfl⟩
  exact (LosesLines.keepsRunnables emptied).trans (losesLines_releaseGraphics _)

theorem losesLine_dropReceiver (w : World) : w.LosesLine .mainThread w.dropReceiver := by
  have written : w.dropReceiver.journal
      = destructions (w.waiting .mainThread) ++ lossNotice .mainThread (w.waiting .mainThread).length
        ++ w.journal := by
    unfold dropReceiver
    rw [journal_destroyAll]
    simp [lossNotice, waiting]
  obtain ⟨j, eq⟩ := dropReceiver_eq w
  rw [eq] at written ⊢
  refine ⟨written, rfl, rfl, ?_, rfl⟩
  intro l other
  cases l <;> first | exact absurd rfl other | rfl

theorem losesLines_dropHost (w : World) : w.LosesLines w.dropHost := by
  unfold dropHost
  split
  · exact .refl w
  · have gone : w.KeepsRunnables { w with host := none } := ⟨.of_eq rfl, rfl, rfl, rfl⟩
    have released := (LosesLines.keepsRunnables gone).trans (losesLines_releaseGraphics _)
    dsimp only
    split
    · exact released.trans (.losesLine .mainThread (losesLine_dropReceiver _))
    · exact released

end World

theorem ExternalMove.losesLines {w v : World} (e : ExternalMove w v) : w.LosesLines v := by
  cases e with
  | cloneSender slot held =>
    exact .keepsRunnables ⟨.of_eq rfl, rfl, funext fun line => by cases line <;> rfl, rfl⟩
  | dropSender slot =>
    exact .keepsRunnables ⟨.of_eq rfl, rfl, funext fun line => by cases line <;> rfl, rfl⟩
  | dropQueue =>
    unfold QueueSession.drop
    split
    · exact .refl w
    · rename_i q held
      have calls : q.calls = w.waiting .standalone := by
        simp only [World.waiting, held, Option.getD_some]
      refine .losesLine .standalone (World.losesLine_discardCalls calls (by decide) rfl rfl rfl ?_ rfl)
      intro l other
      cases l <;> first | exact absurd rfl other | rfl

section
variable {w : World} {others popped : List Frame} {fault : Option Fault} {n : Machine}

/-- One turn: either lines are lost, or one runnable move takes place between remarks. -/
inductive RunnableTurn (w : World) (fault : Option Fault) (popped : List Frame) (n : Machine) : Prop where
  | losesLines (h : w.LosesLines n.world) (calm : NoRunning popped) (loose : Loose n.stack)
  | moves {u v : World} (before : w.KeepsRunnables u)
      (runnableMove : RunnableMove u fault popped { n with world := v })
      (after : v.KeepsRunnables n.world)

theorem RunnableTurn.of_runnableMove (d : RunnableMove w fault popped n) : RunnableTurn w fault popped n :=
  .moves (.refl w) d (.refl _)

theorem RunnableTurn.afterwards {u : World} (keepsRunnables : w.KeepsRunnables u)
    (d : RunnableTurn u fault popped n) :
    RunnableTurn w fault popped n := by
  cases d with
  | losesLines h calm loose => exact .losesLines (.trans (.keepsRunnables keepsRunnables) h) calm loose
  | moves before runnableMove after => exact .moves (keepsRunnables.trans before) runnableMove after

theorem RunnableTurn.steps (d : RunnableTurn w fault popped n) :
    ∃ u v, w.LosesLines u ∧ RunnableMove u fault popped { n with world := v } ∧ v.KeepsRunnables n.world := by
  cases d with
  | losesLines h calm loose => exact ⟨n.world, n.world, h, .aside rfl calm loose, .refl _⟩
  | moves before runnableMove after => exact ⟨_, _, .keepsRunnables before, runnableMove, after⟩

theorem World.post_runnableTurn {g : Graphics} {below : List Frame} (shared : w.graphics = some g)
    (thread : Nat)
    (label : Option String) (body : Script) (calm : NoRunning popped) (loose : Loose below) :
    RunnableTurn w fault popped (w.ticketed.post g thread (w.runnable label body) below) := by
  apply RunnableTurn.of_runnableMove
  unfold post
  dsimp only
  split
  · exact .inline thread body ⟨rfl, rfl⟩ rfl rfl calm rfl loose
  · refine .queues .graphics (w.runnable label body) rfl ⟨rfl, rfl⟩ rfl ?_ ?_ (by simp) calm loose
    · simp [waiting, shared, Machine.proceed]
    · intro l other
      cases l <;> first | exact absurd rfl other | rfl

theorem World.dispatch_runnableTurn {below : List Frame} (label : Option String) (body : Script)
    (calm : NoRunning popped) (loose : Loose below) :
    RunnableTurn w fault popped (.proceed (w.ticketed.dispatch (w.runnable label body)) below) := by
  apply RunnableTurn.of_runnableMove
  unfold dispatch
  dsimp only
  split
  · rename_i gone
    exact .refuses label ⟨rfl, rfl⟩ rfl rfl gone calm loose
  · rename_i received
    refine .queues .mainThread (w.runnable label body) rfl ⟨rfl, rfl⟩ rfl rfl ?_ (fun _ => received)
      calm loose
    intro l other
    cases l <;> first | exact absurd rfl other | rfl

theorem World.drain_runnableTurn {v : World} (line : Line) {calls : List Runnable} {below : List Frame}
    (waits : calls = w.waiting line) (thread : Nat) (own : line ≠ .mainThread) (journal : v.journal = w.journal)
    (tickets : v.tickets = w.tickets) (emptied : v.waiting line = [])
    (same : ∀ l, l ≠ line → v.waiting l = w.waiting l)
    (receiver : v.channel.receiver = w.channel.receiver) (calm : NoRunning popped) (loose : Loose below) :
    RunnableTurn w fault popped (v.drain thread line calls below) := by
  subst waits
  apply RunnableTurn.moves (v := v.ticketed.record
    (.began line v.tickets ((w.waiting line).map Runnable.ticket)))
    (.refl w)
  · refine .takes line thread own ⟨?_, receiver⟩ (congrArg (· + 1) tickets) emptied same calm ?_ loose
    · rw [← tickets]
      exact congrArg (_ :: ·) journal
    · rw [← tickets]
      rfl
  · unfold drain
    dsimp only
    split
    · exact .refl _
    · exact .log _ rfl

theorem World.nextMain_runnableTurn (thread activation queued ran : Nat) :
    RunnableTurn w none [.round thread activation queued ran] (w.nextMain thread activation queued ran) := by
  unfold nextMain
  split
  · rename_i r rest short waits
    apply RunnableTurn.of_runnableMove
    refine .serves thread activation queued ran r rest rfl (by simpa using short) waits ⟨rfl, rfl⟩ rfl
      rfl ?_ rfl
    intro l other
    cases l <;> first | exact absurd rfl other | rfl
  · rename_i spent
    have noted : w.KeepsRunnables (if ran = 0 then w else w.log (.ranMainThread ran)) := by
      split
      · exact .refl w
      · exact .log w rfl
    have waiting : (if ran = 0 then w else w.log (.ranMainThread ran)).waiting = w.waiting := by
      split <;> rfl
    refine RunnableTurn.afterwards noted (.of_runnableMove
      (.returns thread activation queued ran rfl ?_ ⟨rfl, rfl⟩ rfl rfl
      rfl ⟨rfl, rfl⟩))
    intro short
    rw [waiting]
    cases left : w.waiting .mainThread with
    | nil => rfl
    | cons r rest => exact (spent r rest (by simpa using short) left).elim

theorem HostEffect.runnableTurn (d : HostEffect w others fault popped n) : RunnableTurn w fault popped n := by
  cases d with
  | dropHost free => exact .losesLines w.losesLines_dropHost (by simp [NoRunning]) loose_nil
  | @ask v h still hosted r free =>
    have loose : Loose (v.ask h r).stack := by
      rw [World.ask_stack]
      exact loose_nil
    exact .losesLines ((World.LosesLines.of_quiet still).trans (.keepsRunnables (.ask v h r)))
      (by simp [NoRunning]) loose
  | @enter g thread shared owned =>
    let opened : World :=
      { w with graphics := some ⟨g.affinity.bind thread, ⟨true⟩, g.queue⟩ }.record (.passBegan thread)
    have began : w.KeepsRunnables opened :=
      (World.KeepsRunnables.setGraphics w (k := ⟨g.affinity.bind thread, ⟨true⟩, g.queue⟩) shared rfl).trans
        (.record _ rfl)
    rw [w.enterPass_eq thread shared owned]
    refine RunnableTurn.afterwards began
      (World.drain_runnableTurn .graphics rfl thread (by decide) rfl rfl rfl ?_ rfl (by simp [NoRunning])
        (loose_cons rfl loose_nil))
    intro l other
    cases l <;> first | exact absurd rfl other | rfl
  | target thread saved =>
    have loose : Loose (w.readTarget thread saved).stack := by
      rcases w.readTarget_goesOn thread saved with goes | ends
      · exact goes.loose
      · rw [ends]
        exact loose_nil
    exact .losesLines (.keepsRunnables (.readTarget w thread saved)) (by simp [NoRunning]) loose
  | loaded thread saved settings =>
    exact .losesLines (.keepsRunnables (.finishLoad w thread saved settings)) (by simp [NoRunning])
      (w.finishLoad_goesOn thread saved settings).loose
  | present thread saved =>
    have loose : Loose (w.present saved).stack := by
      rw [w.present_stack]
      exact loose_nil
    exact .losesLines (.keepsRunnables (.present w saved)) (by simp [NoRunning]) loose
  | abort thread saved phase =>
    exact .losesLines (.keepsRunnables ((World.KeepsRunnables.leaveGate w saved).trans (.record _ rfl)))
      (by simp [NoRunning])
      loose_nil

/-- Every effect is a runnable turn. -/
theorem StepEffect.runnableTurn (d : StepEffect w others fault popped n)
    (rests : ∀ thread activation rest count, popped = [.batch thread activation rest count] →
      ∃ line, line ≠ .mainThread ∧ Rests w.journal line activation rest) :
    RunnableTurn w fault popped n := by
  cases d with
  | quiet still light plain => exact .losesLines (.of_quiet still) (calm_light light) (loose_plain plain)
  | finish ticket => exact .of_runnableMove (.finishes ticket rfl rfl)
  | abandon ticket => exact .of_runnableMove (.abandons ticket rfl rfl rfl)
  | post thread label body still light plain shared =>
    exact .afterwards (.of_quiet still)
      (World.post_runnableTurn shared thread label body (calm_light light) (loose_plain plain))
  | dispatch label body light plain =>
    exact World.dispatch_runnableTurn label body (calm_light light) (loose_plain plain)
  | @enqueue _ laid q label body light plain held =>
    apply RunnableTurn.of_runnableMove
    refine .queues .standalone (w.runnable label body) rfl ⟨rfl, rfl⟩ rfl ?_ ?_ (by simp)
      (calm_light light) (loose_plain plain)
    · simp [World.waiting, held, World.record, Machine.proceed]
    · intro l other
      cases l <;> first | exact absurd rfl other | rfl
  | drain thread light plain held =>
    refine World.drain_runnableTurn .standalone ?_ thread (by decide) rfl rfl rfl ?_ rfl
      (calm_light light) (loose_cons rfl (loose_plain plain))
    · simp only [World.waiting, held, Option.getD_some]
    · intro l other
      cases l <;> first | exact absurd rfl other | rfl
  | round thread light plain =>
    exact .of_runnableMove (.rounds thread ⟨rfl, rfl⟩ rfl rfl (calm_light light) rfl (loose_plain plain))
  | nextCall thread activation rest count calm =>
    obtain ⟨line, own, rested⟩ := rests thread activation rest count rfl
    cases rest with
    | nil =>
      exact .of_runnableMove (.closes thread activation count line calm own rested ⟨rfl, rfl⟩ rfl rfl rfl
        ⟨rfl, rfl⟩)
    | cons r rest =>
      exact .of_runnableMove (.calls thread activation count r rest line calm own rested ⟨rfl, rfl⟩ rfl rfl rfl)
  | nextMain thread activation queued ran calm =>
    subst calm
    exact World.nextMain_runnableTurn thread activation queued ran
  | spill thread activation rest count unwinding =>
    obtain ⟨line, own, rested⟩ := rests thread activation rest count rfl
    exact .of_runnableMove (.spills thread activation count rest line
      (by simp [unwinding]) own rested rfl rfl rfl)
  | dropHandle slot still handles light plain =>
    exact .losesLines ((w.losesLines_dropHandle slot).trans (.of_quiet still)) (calm_light light)
      (loose_plain plain)
  | dropReceiver =>
    exact .losesLines (.losesLine .mainThread w.losesLine_dropReceiver)
      (by simp [NoRunning]) loose_nil
  | render thread hosted free => exact .losesLines (.refl w) (by simp [NoRunning]) (loose_cons rfl loose_nil)
  | redraw thread hosted free =>
    exact .of_runnableMove (.rounds thread ⟨rfl, rfl⟩ rfl rfl (by simp [NoRunning]) rfl
      (loose_cons rfl (loose_cons rfl loose_nil)))
  | host d => exact d.runnableTurn

end

section
variable {w : World} {popped : List Frame} {fault : Option Fault} {n : Machine}

theorem RunnableMove.activationEvents (d : RunnableMove w fault popped n) :
    ∃ es, n.world.journal = es ++ w.journal ∧ ActivationEvents w fault popped n es := by
  cases d with
  | aside same => exact ⟨[], by rw [same]; rfl, .none (by simp)⟩
  | finishes ticket world =>
    exact ⟨[.finished ticket], by rw [world]; rfl, .none (by simp [Event.activation?])⟩
  | abandons ticket world => exact ⟨[], by rw [world]; rfl, .none (by simp)⟩
  | queues line r own writes => exact ⟨_, writes.journal, .none (by simp [Event.activation?])⟩
  | inline thread body writes => exact ⟨_, writes.journal, .none (by simp [Event.activation?])⟩
  | refuses label writes => exact ⟨_, writes.journal, .none (by simp [Event.activation?])⟩
  | takes line thread own writes => exact ⟨_, writes.journal, .began line⟩
  | rounds thread writes => exact ⟨_, writes.journal, .began .mainThread⟩
  | calls thread activation count r rest line well own rests writes =>
    exact ⟨_, writes.journal, .took r.ticket thread well rfl rfl⟩
  | serves thread activation queued ran r rest well short waits writes =>
    exact ⟨_, writes.journal, .took r.ticket thread well rfl rfl⟩
  | closes thread activation count line well own rests writes tickets waiting stack answer =>
    exact ⟨_, writes.journal, .ended count well rfl rfl answer⟩
  | returns thread activation queued ran well spent writes tickets waiting stack answer =>
    exact ⟨_, writes.journal, .ended ran well rfl rfl answer⟩
  | spills thread activation count rest line unwinding own rests world =>
    refine ⟨destructions rest, by rw [world, World.journal_destroyAll], .none fun e he => ?_⟩
    exact Event.activation?_idle (destructions_idle rest e he)

theorem RunnableMove.kept (d : RunnableMove w fault popped n) : ∀ e ∈ w.journal, e ∈ n.world.journal := by
  obtain ⟨es, journal, _⟩ := d.activationEvents
  intro e he
  rw [journal]
  exact List.mem_append_right es he

end

section
variable {w v : World} {fs : List Frame}

theorem World.LosesLine.destroyAll {line : Line} (h : w.LosesLine line v) :
    v = { v with journal := lossNotice line (w.waiting line).length ++ w.journal }.destroyAll
      (w.waiting line) := by
  have written := World.journal_destroyAll
    { v with journal := lossNotice line (w.waiting line).length ++ w.journal } (w.waiting line)
  obtain ⟨j, eq⟩ := World.destroyAll_eq
    { v with journal := lossNotice line (w.waiting line).length ++ w.journal } (w.waiting line)
  have journal := h.journal
  rw [List.append_assoc] at journal
  rw [eq] at written ⊢
  have same : j = v.journal := written.trans journal.symm
  rw [same]

theorem World.LosesLine.idle {line : Line} (losesLine : w.LosesLine line v) :
    ∃ es, v.journal = es ++ w.journal ∧ ∀ e ∈ es, e.isIdle = true := by
  refine ⟨_, losesLine.journal, ?_⟩
  intro e he
  rcases List.mem_append.mp he with destroyed | logged
  · exact destructions_idle _ e destroyed
  · exact lossNotice_idle _ _ e logged

theorem lossNotice_untouched (line : Line) (count : Nat) :
    ∀ e ∈ lossNotice line count, e.isRunnableEvent = false := by
  unfold lossNotice
  split <;> simp [Event.isRunnableEvent]

theorem World.LosesLine.ledgerMove {line : Line} (h : w.LosesLine line v) : LedgerMove w [] v [] := by
  rw [h.destroyAll]
  have silent : w.Silent { v with journal := lossNotice line (w.waiting line).length ++ w.journal } :=
    ⟨⟨_, rfl, lossNotice_untouched line _⟩, Nat.le_of_eq h.tickets.symm⟩
  refine .destroyed (w.waiting line) silent ?_ ?_ fun _ => Nat.le_refl _
  · intro l
    by_cases here : l = line
    · subst here
      exact h.emptied ▸ List.nil_sublist _
    · exact h.others l here ▸ .refl _
  · intro k
    have moved := LedgerMove.held_line line h.others k
    rw [h.emptied, copies_nil] at moved
    exact moved.symm

theorem World.LosesLines.ledgerMove (h : w.LosesLines v) : LedgerMove w [] v [] := by
  induction h with
  | keepsRunnables h => exact h.still.ledgerMove_light light_nil light_nil
  | losesLine line h => exact h.ledgerMove
  | trans _ _ first second => exact first.trans second

theorem World.Blank.events {w : World} (blank : w.Blank) (e : Event) (he : e ∈ w.journal) :
    e.isIdle = true :=
  Event.isIdle_of_isApart (Event.isApart_of_isRemark (blank.journal e he))

theorem World.Blank.pushed {w : World} (blank : w.Blank) (line : Line) : pushes line w.journal = [] :=
  told_none fun e he => Event.pushed?_idle (blank.events e he) line

theorem World.Blank.untold {w : World} (blank : w.Blank) (pick : Event → Option Nat) (line : Line) :
    toldOf pick (Event.pushed? line) w.journal = [] := by
  simp [toldOf, ← pushes_told, blank.pushed line]

theorem Ledger.losesLines (h : Ledger w fs) (losesLines : w.LosesLines v) :
    Ledger v fs := h.ledgerMove losesLines.ledgerMove

/-- The conditions under which a property of world and stacks is an invariant of systems in use. -/
structure Kept (P : World → List Frame → Prop) : Prop where
  blank : ∀ {w}, w.Blank → P w []
  perm : ∀ {w fs gs}, fs.Perm gs → P w fs → P w gs
  keepsRunnables : ∀ {w v fs}, w.KeepsRunnables v → P w fs → P v fs
  losesLine : ∀ {w v fs line}, Ledger w fs → w.LosesLine line v → P w fs → P v fs
  moves : ∀ {w fault popped others n}, Ledger w (popped ++ others) → RunnableMove w fault popped n →
    P w (popped ++ others) → P n.world (n.stack ++ others)

variable {P : World → List Frame → Prop}

theorem Kept.losesLines (k : Kept P) (h : w.LosesLines v) (ledger : Ledger w fs) (holds : P w fs) : P v fs := by
  induction h with
  | keepsRunnables h => exact k.keepsRunnables h holds
  | losesLine line h => exact k.losesLine ledger h holds
  | trans first _ ih more => exact more (ledger.losesLines first) (ih ledger holds)

variable {s t : System}

theorem InUse.runnableTurn (h : InUse s) {σ : Strand} {popped below : List Frame} {others : List Strand}
    {n : Machine} (act : Act s t σ popped below others n) : RunnableTurn s.world σ.fault popped n := by
  apply act.effect.runnableTurn
  rintro thread activation rest count rfl
  have stacked := (h.orderly σ act.mem).stacked
  rw [act.stack] at stacked
  refine ⟨lineUnder below, ?_, stacked.1.2⟩
  unfold lineUnder
  split <;> decide

theorem Kept.inUse (k : Kept P) (h : InUse s) : P s.world s.frames := by
  induction h with
  | idle strands blank =>
    simp only [System.frames, framesOf_idle]
    exact k.blank blank
  | next used a ih =>
    cases a with
    | external e => exact k.losesLines e.losesLines used.ledger ih
    | move m =>
      obtain ⟨σ, popped, below, others, n, act⟩ := m.act
      obtain ⟨u, v, losesLines, runnableMove, keepsRunnables⟩ := (used.runnableTurn act).steps
      have ledger := used.ledger.perm act.before
      have before := k.losesLines losesLines ledger (k.perm act.before ih)
      have after := k.moves (ledger.losesLines losesLines) runnableMove before
      rw [act.world]
      exact k.perm act.after.symm (k.keepsRunnables keepsRunnables after)

end

end FrameHost
