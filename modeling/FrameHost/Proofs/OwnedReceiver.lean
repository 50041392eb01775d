import FrameHost.Proofs.Rounds
import FrameHost.Proofs.HostFrames

/-!
The receiver owned by a platform. It cannot be taken from a platform during a frame, and no script or
request can begin a round with it; so only the round of a frame starts runnables of the channel.
-/
namespace FrameHost

def Frame.isRound : Frame → Bool
  | round .. => true
  | _ => false

def Roundless (fs : List Frame) : Prop := ∀ f ∈ fs, f.isRound = false

/-- Every round is that of a frame, directly above the pass and the end of the frame. -/
def Rounded : List Frame → Prop
  | [] => True
  | .round thread _ _ _ :: below => below = [.enter thread, .frameEnd]
  | _ :: below => Rounded below

theorem roundless_nil : Roundless [] := by simp [Roundless]

theorem roundless_cons {f : Frame} {fs : List Frame} (h : f.isRound = false) (k : Roundless fs) :
    Roundless (f :: fs) := List.forall_mem_cons.mpr ⟨h, k⟩

theorem roundless_plain {fs : List Frame} (h : Plain fs) : Roundless fs := by
  intro f hf
  have plain := h f hf
  cases f <;> first | rfl | cases plain

theorem rounded_cons {f : Frame} {below : List Frame} (h : f.isRound = false) :
    Rounded (f :: below) ↔ Rounded below := by
  cases f <;> first | rfl | cases h

theorem rounded_front {front below : List Frame} (h : Roundless front) (k : Rounded below) :
    Rounded (front ++ below) := by
  induction front with
  | nil => exact k
  | cons f front ih =>
    have rest : Roundless front := fun g hg => h g (List.mem_cons_of_mem f hg)
    exact (rounded_cons (h f List.mem_cons_self)).mpr (ih rest)

theorem Rounded.tail {f : Frame} {below : List Frame} (h : Rounded (f :: below)) : Rounded below := by
  cases f with
  | round thread =>
    obtain rfl : below = [.enter thread, .frameEnd] := h
    trivial
  | _ => exact h

section
variable {w : World} {others : List Frame} {σ : Strand} {m : Machine}

theorem Op.roundless (owned : w.channel.receiver ≠ .free) (op : Op) (thread : Nat) (next : Script) :
    Roundless (op.perform w thread next).stack := by
  have go {v : World} : Roundless (Machine.proceed v [.script thread next]).stack :=
    roundless_cons rfl roundless_nil
  cases op with
  | raise message => exact roundless_nil
  | query handle =>
    unfold perform
    dsimp only
    split <;> exact go
  | chain count handle =>
    unfold perform
    dsimp only
    split
    · rename_i g _
      rcases World.post_stack _ g thread _ [.script thread next] with inline | queued
      · rw [inline]
        exact roundless_cons rfl (roundless_cons rfl (roundless_cons rfl roundless_nil))
      · rw [queued]
        exact roundless_cons rfl roundless_nil
    · exact go
  | runMain =>
    simp only [perform, if_neg owned]
    exact go
  | drainQueue =>
    unfold perform
    dsimp only
    split
    · exact go
    · exact roundless_cons rfl (roundless_cons rfl (roundless_cons rfl roundless_nil))
  | queueLength =>
    unfold perform
    dsimp only
    split <;> exact go
  | _ => exact go

theorem Nest.roundless (kind : Nest) (thread : Nat) (body next : Script) :
    Roundless (kind.perform w thread body next).stack := by
  have go {v : World} : Roundless (Machine.proceed v [.script thread next]).stack :=
    roundless_cons rfl roundless_nil
  cases kind with
  | times count =>
    cases count with
    | zero => exact go
    | succ count => exact roundless_cons rfl (roundless_cons rfl roundless_nil)
  | spawn => exact roundless_cons rfl (roundless_cons rfl (roundless_cons rfl roundless_nil))
  | catching => exact roundless_cons rfl (roundless_cons rfl (roundless_cons rfl roundless_nil))
  | push handle label =>
    unfold perform
    dsimp only
    split
    · exact go
    · rename_i g _
      rcases World.post_stack _ g thread _ [.script thread next] with inline | queued
      · rw [inline]
        exact roundless_cons rfl (roundless_cons rfl (roundless_cons rfl roundless_nil))
      · rw [queued]
        exact roundless_cons rfl roundless_nil
  | dispatch sender label => exact go
  | enqueue label =>
    unfold perform
    dsimp only
    split <;> exact go
  | install hook => exact go

theorem GoesOn.roundless {thread : Nat} {saved : Bool} (g : GoesOn w thread saved m) : Roundless m.stack := by
  obtain ⟨front, phase, stack, plain⟩ := g.stays
  rw [stack]
  intro f hf
  rcases List.mem_append.mp hf with fresh | last
  · exact roundless_plain plain f fresh
  · rw [List.mem_singleton.mp last]
    rfl

theorem Frame.roundless (owned : w.channel.receiver ≠ .free) {f : Frame} (h : f.isRound = false)
    (answer : Answer) : Roundless (f.advance w answer).stack := by
  cases f with
  | script thread rest =>
    cases rest with
    | done => exact roundless_nil
    | act op next => exact op.roundless owned thread next
    | nest kind body next => exact kind.roundless thread body next
  | batch thread activation rest count =>
    cases rest with
    | nil => exact roundless_nil
    | cons r rest => exact roundless_cons rfl (roundless_cons rfl (roundless_cons rfl roundless_nil))
  | drained => cases answer <;> exact roundless_nil
  | round => cases h
  | ranMain => cases answer <;> exact roundless_nil
  | enter thread =>
    simp only [advance, World.enterPass]
    split
    · exact roundless_nil
    · split
      · exact roundless_cons rfl (roundless_cons rfl roundless_nil)
      · exact roundless_nil
  | pass thread saved phase =>
    cases phase with
    | target =>
      rcases w.readTarget_goesOn thread saved with goes | ended
      · exact goes.roundless
      · simp only [advance, ended]
        exact roundless_nil
    | loaded settings => exact (w.finishLoad_goesOn thread saved settings).roundless
    | presenting =>
      simp only [advance, w.present_stack]
      exact roundless_nil
  | frameEnd =>
    simp only [advance, World.endFrame]
    split <;> exact roundless_nil
  | _ => exact roundless_nil

theorem Frame.unwind_stack (f : Frame) (w : World) (fault : Fault) : (f.unwind w fault).stack = [] := by
  cases f <;> rfl

theorem Request.roundless (owned : w.channel.receiver ≠ .free) (r : Request) (thread : Nat) :
    Roundless (r.begin w thread).stack ∨
      r = .event .redraw ∧ r.begin w thread = w.round thread [.enter thread, .frameEnd] := by
  have none {v : World} {fault : Option Fault} {answer : Answer} :
      Roundless (⟨v, fault, answer, []⟩ : Machine).stack := roundless_nil
  have toHost {f : Host → Machine} (served : ∀ h, Roundless (f h).stack) : Roundless (ofHost w f).stack := by
    unfold ofHost
    split
    · exact none
    · exact served _
  cases r with
  | act body => exact .inl (roundless_cons rfl roundless_nil)
  | render => exact .inl (toHost fun h => roundless_cons rfl roundless_nil)
  | push label body =>
    refine .inl (toHost fun h => ?_)
    split
    · exact none
    · rename_i g _
      rcases World.post_stack _ g thread _ [] with inline | queued
      · rw [inline]
        exact roundless_cons rfl (roundless_cons rfl roundless_nil)
      · rw [queued]
        exact roundless_nil
  | adapter r =>
    refine .inl (toHost fun h => ?_)
    rw [World.ask_stack]
    exact roundless_nil
  | runMain =>
    simp only [begin, if_neg owned]
    exact .inl none
  | title text =>
    refine .inl (toHost fun h => ?_)
    split <;> exact none
  | event e =>
    unfold begin ofHost
    dsimp only
    split
    · exact .inl none
    · split
      · exact .inl none
      · rename_i h _ p _
        cases e with
        | resumed =>
          left
          unfold World.handle World.resume
          dsimp only
          split
          · exact none
          · split
            · exact none
            · split <;> exact none
        | aboutToWait =>
          left
          unfold World.handle
          dsimp only
          split <;> exact none
        | closeRequested => exact .inl none
        | resized width height =>
          left
          unfold World.handle
          rw [World.ask_stack]
          exact roundless_nil
        | redraw => exact .inr ⟨rfl, rfl⟩
        | other => exact .inl none
  | dispatch label body => exact .inl (toHost fun h => none)
  | fullscreen on => exact .inl (toHost fun h => none)
  | cursor visible => exact .inl (toHost fun h => none)
  | terminate => exact .inl (toHost fun h => none)
  | attach => exact .inl (toHost fun h => none)
  | _ => exact .inl none

theorem Turn.rounded (h : Turn w others σ m) (owned : w.channel.receiver ≠ .free) (k : Rounded σ.stack) :
    Rounded m.stack := by
  cases h with
  | step =>
    obtain ⟨fault, answer, stack⟩ := σ
    cases stack with
    | nil => exact k
    | cons f below =>
      cases fault with
      | some raised =>
        have gone := f.unwind_stack w raised
        simp only [Strand.on, Machine.step, gone]
        exact k.tail
      | none =>
        simp only [Strand.on, Machine.step]
        cases own : f.isRound with
        | false => exact rounded_front (f.roundless owned own answer) k.tail
        | true =>
          cases f with
          | round thread activation queued ran =>
            obtain rfl : below = [.enter thread, .frameEnd] := k
            simp only [Frame.advance, World.nextMain]
            split
            · exact rfl
            · trivial
          | _ => cases own
  | begin r thread idle free =>
    rcases r.roundless owned thread with none | ⟨_, redraw⟩
    · have bottom : Rounded [] := trivial
      simpa using rounded_front none bottom
    · rw [redraw]
      exact rfl

theorem World.dropHandle_channel (w : World) (slot : Nat) : (w.dropHandle slot).channel = w.channel := by
  unfold dropHandle releaseGraphics
  split
  · rfl
  · split
    · rfl
    · rename_i g _
      obtain ⟨j, eq⟩ := World.discardCalls_eq
        { { w with handles := w.handles.set slot false } with graphics := none } g.queue
      rw [eq]

theorem World.post_channel (w : World) (g : Graphics) (thread : Nat) (r : Runnable) (below : List Frame) :
    (w.post g thread r below).world.channel = w.channel := by
  unfold post
  dsimp only
  split <;> rfl

theorem World.drain_channel (w : World) (thread : Nat) (line : Line) (calls : List Runnable)
    (below : List Frame) : (w.drain thread line calls below).world.channel = w.channel := by
  cases calls <;> rfl

theorem StepEffect.receiver {fault : Option Fault} {popped : List Frame} {n : Machine}
    (d : StepEffect w others fault popped n) (busy : popped ≠ []) :
    n.world.channel.receiver = w.channel.receiver := by
  cases d with
  | quiet still => rw [still.channel]
  | finish | abandon | enqueue => rfl
  | post thread label body still => rw [World.post_channel, ← still.channel]; rfl
  | dispatch =>
    simp only [Machine.proceed, World.dispatch]
    split <;> rfl
  | drain => rw [World.drain_channel]
  | round => rfl
  | nextCall thread activation rest => cases rest <;> rfl
  | nextMain =>
    unfold World.nextMain
    split
    · rfl
    · split <;> rfl
  | spill thread activation rest =>
    obtain ⟨j, eq⟩ := w.destroyAll_eq rest
    simp only [Machine.failing, eq]
  | dropHandle slot still => rw [Machine.proceed, still.channel, w.dropHandle_channel]
  | dropReceiver | render | redraw => exact absurd rfl busy
  | host d =>
    cases d with
    | dropHost | ask => exact absurd rfl busy
    | enter thread shared owned => rw [w.enterPass_eq thread shared owned, World.drain_channel]; rfl
    | target thread saved => exact (World.KeepsRunnables.readTarget w thread saved).receiver
    | loaded thread saved settings => exact (World.KeepsRunnables.finishLoad w thread saved settings).receiver
    | present thread saved => exact (World.KeepsRunnables.present w saved).receiver
    | abort thread saved => exact (World.KeepsRunnables.leaveGate w saved).receiver

/-- While a strand holds the host, the receiver stays with the platform. -/
theorem Turn.receiver (h : Turn w others σ m) (owned : w.channel.receiver ≠ .free)
    (held : σ.stack ≠ [] ∨ ∃ f ∈ others, f.holdsHost = true) :
    m.world.channel.receiver = w.channel.receiver := by
  cases h with
  | step =>
    obtain ⟨fault, answer, stack⟩ := σ
    cases stack with
    | nil => rfl
    | cons f below =>
      cases fault with
      | none =>
        have effect : StepEffect w [] none [f] (f.advance w answer) := f.effect_advance answer
        exact effect.receiver (by simp)
      | some raised =>
        have effect : StepEffect w [] (some raised) [f] (f.unwind w raised) := f.effect_unwind raised
        exact effect.receiver (by simp)
  | begin r thread idle free =>
    have hostless : r.needsHost = false := by
      rw [← Bool.not_eq_true]
      intro needs
      rcases held with busy | ⟨f, hf, holds⟩
      · exact busy idle
      · rw [free needs f hf] at holds
        cases holds
    cases r with
    | runMain =>
      simp only [Request.begin, if_neg owned]
      rfl
    | newHandle =>
      simp only [Request.begin, Machine.proceed]
      split <;> rfl
    | dropHandle slot => exact congrArg Channel.receiver (w.dropHandle_channel slot)
    | dropReceiver =>
      simp only [Request.begin, if_neg owned]
      rfl
    | act | userFullscreen | scale | failNextWindow => rfl
    | _ => cases hostless

end

section
variable {b : AdapterOptions} {s t : System}

theorem InUse.receiver (h : InUse s) (m : Move s t) :
    t.world.channel.receiver = s.world.channel.receiver ∨ t.world.channel.receiver = .gone := by
  rcases h.channel_cases (.move m) with losesChannel | ⟨u, v, before, channelMove, after⟩
  · exact .inr losesChannel.gone
  · exact .inl (after.receiver.trans (channelMove.receiver.trans before.receiver))

theorem Reachable.rounded (h : Reachable b s) (owned : s.world.channel.receiver = .platform) :
    ∀ σ ∈ s.strands, Rounded σ.stack := by
  induction h with
  | built strands bare h =>
    intro σ hσ
    rw [List.eq_of_mem_replicate hσ]
    trivial
  | @move s t reached m ih =>
    have before : s.world.channel.receiver = .platform := by
      rcases reached.inUse.receiver m with same | gone
      · exact same ▸ owned
      · rw [gone] at owned
        cases owned
    have old := ih before
    cases m with
    | @turn w m early σ late turn =>
      have free : w.channel.receiver ≠ .free := by
        rw [show w.channel.receiver = .platform from before]
        decide
      intro τ hτ
      rcases List.mem_append.mp hτ with here | rest
      · exact old τ (List.mem_append_left _ here)
      · rcases List.mem_cons.mp rest with rfl | here
        · exact turn.rounded free (old σ (by simp))
        · exact old τ (by simp [here])

end

inductive LineMove (w : World) (fault : Option Fault) (popped : List Frame) (n : Machine) : Prop where
  | waits (new : List Runnable) (line : n.world.waiting .mainThread = w.waiting .mainThread ++ new)
      (starts : startsOf .mainThread n.world.journal = startsOf .mainThread w.journal)
  | serves (thread a queued ran : Nat) (r : Runnable) (well : fault = none)
      (top : popped = [.round thread a queued ran]) (short : ran < queued)
      (line : w.waiting .mainThread = r :: n.world.waiting .mainThread)
      (starts : startsOf .mainThread n.world.journal = startsOf .mainThread w.journal ++ [r.ticket])
      (told : .started r.ticket thread ∈ n.world.journal ∧ .took a r.ticket ∈ n.world.journal)
      (laid : n.stack = [.script thread r.body, .running r.ticket, .round thread a queued (ran + 1)])

section
variable {w v : World} {fault : Option Fault} {popped : List Frame} {n : Machine}

theorem InOrder.unstarted (h : InOrder w) (k : InOrder v) (alive : w.channel.receiver ≠ .gone)
    (still : v.channel.receiver ≠ .gone) {new : List Runnable}
    (line : v.waiting .mainThread = w.waiting .mainThread ++ new)
    (handed : pushes .mainThread v.journal = pushes .mainThread w.journal ++ new.map Runnable.ticket) :
    startsOf .mainThread v.journal = startsOf .mainThread w.journal := by
  have before := h.whole alive
  have after := k.whole still
  rw [handed, ← before, line, List.map_append, List.append_assoc] at after
  exact List.append_cancel_right after

theorem RunnableMove.line (d : RunnableMove w fault popped n) (before : InOrder w) (after : InOrder n.world)
    (alive : w.channel.receiver ≠ .gone) (still : n.world.channel.receiver ≠ .gone) :
    LineMove w fault popped n := by
  have waits (new : List Runnable) (line : n.world.waiting .mainThread = w.waiting .mainThread ++ new)
      (handed : pushes .mainThread n.world.journal = pushes .mainThread w.journal ++ new.map Runnable.ticket) :
      LineMove w fault popped n := .waits new line (before.unstarted after alive still line handed)
  have rests (es : List Event) (line : n.world.waiting .mainThread = w.waiting .mainThread)
      (journal : n.world.journal = es ++ w.journal) (none : ∀ e ∈ es, e.pushed? .mainThread = none) :
      LineMove w fault popped n := by
    refine waits [] (by simpa using line) ?_
    rw [journal, pushes_idle none, List.map_nil, List.append_nil]
  cases d with
  | aside same => exact rests [] (by rw [same]) (by rw [same]; rfl) (by simp)
  | finishes ticket world => exact rests [_] (by rw [world]; rfl) (by rw [world]; rfl) (by simp [Event.pushed?])
  | abandons ticket world => exact rests [] (by rw [world]) (by rw [world]; rfl) (by simp)
  | queues line r own writes tickets last others =>
    by_cases main : line = .mainThread
    · subst main
      refine waits [r] last ?_
      rw [writes.journal, pushes_append, List.map_singleton, own]
      rfl
    · exact rests _ (others _ fun same => main same.symm) writes.journal (by simp [Event.pushed?, main])
  | inline thread body writes tickets waiting =>
    exact rests _ (congrFun waiting _) writes.journal (by simp [Event.pushed?])
  | refuses label writes tickets waiting gone => exact absurd gone alive
  | takes line thread own writes tickets emptied others =>
    exact rests _ (others _ fun same => own same.symm) writes.journal (by simp [Event.pushed?])
  | rounds thread writes tickets waiting =>
    exact rests _ (congrFun waiting _) writes.journal (by simp [Event.pushed?])
  | calls thread activation count r rest line well own listed writes tickets waiting =>
    exact rests _ (congrFun waiting _) writes.journal (by simp [Event.pushed?])
  | serves thread a queued ran r rest well short line writes tickets left others laid =>
    have kept : pushes .mainThread n.world.journal = pushes .mainThread w.journal := by
      rw [writes.journal, pushes_idle (by simp [Event.pushed?])]
    have starts : startsOf .mainThread n.world.journal = startsOf .mainThread w.journal ++ [r.ticket] := by
      have whole := after.whole still
      rw [kept, ← before.whole alive, line, left, List.map_cons, List.append_cons] at whole
      exact List.append_cancel_right whole
    refine .serves thread a queued ran r well rfl short (left ▸ line) starts ?_ laid
    rw [writes.journal]
    simp
  | closes thread activation count line well own listed writes tickets waiting =>
    exact rests _ (congrFun waiting _) writes.journal (by simp [Event.pushed?])
  | returns thread activation queued ran well spent writes tickets waiting =>
    exact rests _ (congrFun waiting _) writes.journal (by simp [Event.pushed?])
  | spills thread activation count rest line unwinding own listed world =>
    refine rests (destructions rest) ?_ ?_ fun e he => Event.pushed?_idle (destructions_idle rest e he) _
    · rw [world, LedgerMove.waiting_destroyAll]
    · rw [world, World.journal_destroyAll]

theorem LineMove.between {u v : World} (before : w.KeepsRunnables u)
    (l : LineMove u fault popped { n with world := v })
    (after : v.KeepsRunnables n.world) (starts : startsOf .mainThread u.journal =
    startsOf .mainThread w.journal)
    (kept : startsOf .mainThread n.world.journal = startsOf .mainThread v.journal) :
    LineMove w fault popped n := by
  have same := congrFun before.waiting .mainThread
  have still := congrFun after.waiting .mainThread
  obtain ⟨es, journal, _⟩ := after.journal
  cases l with
  | waits new line more => exact .waits new (by rw [still, line, same]) (by rw [kept, more, starts])
  | serves thread a queued ran r well top short line more told laid =>
    refine .serves thread a queued ran r well top short ?_ (by rw [kept, more, starts]) ?_ laid
    · rw [← same, line, still]
    · rw [journal]
      exact ⟨List.mem_append_right es told.1, List.mem_append_right es told.2⟩

end

section
variable {s t : System} {σ : Strand} {popped below : List Frame} {others : List Strand} {n : Machine}

theorem InUse.line (h : InUse s) (act : Act s t σ popped below others n)
    (alive : t.world.channel.receiver ≠ .gone) : LineMove s.world σ.fault popped n := by
  have ledger := h.ledger.perm act.before
  obtain ⟨order, numbered, rounds⟩ := kept_rounds.inUse h
  rw [act.world] at alive
  cases h.runnableTurn act with
  | losesLines losesLines =>
    rcases losesLines.channel ledger with off | losesChannel
    · refine .waits [] (by simpa using off.waiting) ?_
      rw [off.tells.begun, List.append_nil]
    · exact absurd losesChannel.gone alive
  | @moves u v before runnableMove after =>
    have filed := ledger.losesLines (.keepsRunnables before)
    have started (x y : World) (keepsRunnables : x.KeepsRunnables y) :
        startsOf .mainThread y.journal = startsOf .mainThread x.journal := by
      obtain ⟨es, journal, apart⟩ := keepsRunnables.journal
      rw [journal, startsOf_idle fun e he => Event.isIdle_of_isApart (apart e he)]
    have first : InOrder u := order.passes (.apart before.keepsChannel)
    have last : InOrder v := kept_inOrder.moves filed runnableMove first
    have still : v.channel.receiver ≠ .gone := after.receiver ▸ alive
    have there : u.channel.receiver ≠ .gone := (runnableMove.channelMove filed).receiver ▸ still
    exact (runnableMove.line first last there still).between before after (started _ _ before)
      (started _ _ after)

end

end FrameHost
