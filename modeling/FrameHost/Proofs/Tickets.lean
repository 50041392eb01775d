import FrameHost.Proofs.StepEffect
import FrameHost.Proofs.History

/-!
Tickets identify runnables and activations, and no step depends on their values: a machine with all tickets
set to zero makes the same steps. On a thread that does not own the graphics context, no step depends on the
gate either.
-/
namespace FrameHost

def Runnable.nameless (r : Runnable) : Runnable := { r with ticket := 0 }

def Event.nameless : Event → Event
  | submitted line _ => submitted line 0
  | started _ thread => started 0 thread
  | finished _ => finished 0
  | destroyed _ label => destroyed 0 label
  | began line _ waiting => began line 0 (waiting.map fun _ => 0)
  | took _ _ => took 0 0
  | ended _ count => ended 0 count
  | e => e

def Frame.nameless : Frame → Frame
  | running _ => running 0
  | batch thread _ rest count => batch thread 0 (rest.map Runnable.nameless) count
  | round thread _ queued ran => round thread 0 queued ran
  | f => f

def CallQueue.nameless (q : CallQueue) : CallQueue := ⟨q.calls.map Runnable.nameless⟩

def Channel.nameless (c : Channel) : Channel := { c with waiting := c.waiting.map Runnable.nameless }

def Graphics.seen (γ : Gate → Gate) (g : Graphics) : Graphics := ⟨g.affinity, γ g.gate, g.queue.nameless⟩

/-- The world with all tickets zero and the gate mapped by `γ`. -/
def World.seen (γ : Gate → Gate) (w : World) : World :=
  { w with
    journal := w.journal.map Event.nameless
    tickets := 0
    graphics := w.graphics.map (Graphics.seen γ)
    channel := w.channel.nameless
    standalone := w.standalone.map CallQueue.nameless }

def Strand.nameless (σ : Strand) : Strand := { σ with stack := σ.stack.map Frame.nameless }

def Machine.seen (γ : Gate → Gate) (m : Machine) : Machine :=
  ⟨m.world.seen γ, m.fault, m.answer, m.stack.map Frame.nameless⟩

def Frame.thread? : Frame → Option Nat
  | script thread _ | batch thread .. | round thread .. | enter thread | pass thread .. => some thread
  | _ => none

/-- The frame reads no gate: it does not hold the host, and its thread does not own the context. -/
def Frame.IgnoresGate (w : World) (f : Frame) : Prop :=
  f.holdsHost = false ∧
    ∀ thread, f.thread? = some thread → ∀ g, w.graphics = some g → g.inContext thread = false

@[simp] theorem Runnable.nameless_nameless (r : Runnable) : r.nameless.nameless = r.nameless := rfl

@[simp] theorem namelessAll (rs : List Runnable) :
    (rs.map Runnable.nameless).map Runnable.nameless = rs.map Runnable.nameless := by
  simp [Function.comp_def]

@[simp] theorem Event.nameless_nameless (e : Event) : e.nameless.nameless = e.nameless := by
  cases e <;> simp [nameless]

theorem Event.nameless_of_isRemark {e : Event} (h : e.isRemark = true) : e.nameless = e := by
  cases e <;> first | rfl | cases h

@[simp] theorem Frame.nameless_nameless (f : Frame) : f.nameless.nameless = f.nameless := by
  cases f <;> simp [nameless]

@[simp] theorem Frame.holdsHost_nameless (f : Frame) : f.nameless.holdsHost = f.holdsHost := by
  cases f <;> rfl

theorem Graphics.seen_seen (g : Graphics) (γ : Gate → Gate) : (g.seen γ).seen id = g.seen γ := by
  simp [seen, CallQueue.nameless, Function.comp_def]

namespace World

variable (w : World) (γ : Gate → Gate)

theorem seen_seen : (w.seen γ).seen id = w.seen γ := by
  obtain ⟨journal, tickets, threads, graphics, handles, channel, standalone, renderer, desktop, host⟩ := w
  cases graphics <;> cases standalone <;>
    simp [seen, Graphics.seen, CallQueue.nameless, Channel.nameless, Function.comp_def]

end World

theorem Machine.seen_seen (m : Machine) (γ : Gate → Gate) : (m.seen γ).seen id = m.seen γ := by
  simp [seen, World.seen_seen, Function.comp_def]

/-- Erasing the tickets once more changes nothing. -/
theorem Machine.seen_of {m n : Machine} {γ : Gate → Gate} (h : m.seen γ = n) : m.seen γ = n.seen id := by
  rw [← h, m.seen_seen]

theorem Machine.ite_seen {c : Prop} {this that : Decidable c} {m n k l : Machine} {γ : Gate → Gate}
    (holds : m.seen γ = k.seen id) (fails : n.seen γ = l.seen id) :
    (@ite Machine c this m n).seen γ = (@ite Machine c that k l).seen id := by
  rw [apply_ite (Machine.seen γ), apply_ite (Machine.seen id)]
  exact ite_congr rfl (fun _ => holds) fun _ => fails

namespace World

variable (w : World) (γ : Gate → Gate)

@[simp] theorem host_seen : (w.seen γ).host = w.host := rfl
@[simp] theorem tickets_seen : (w.seen γ).tickets = 0 := rfl
@[simp] theorem threads_seen : (w.seen γ).threads = w.threads := rfl
@[simp] theorem handles_seen : (w.seen γ).handles = w.handles := rfl
@[simp] theorem renderer_seen : (w.seen γ).renderer = w.renderer := rfl
@[simp] theorem desktop_seen : (w.seen γ).desktop = w.desktop := rfl
@[simp] theorem channel_seen : (w.seen γ).channel = w.channel.nameless := rfl
@[simp] theorem graphics_seen : (w.seen γ).graphics = w.graphics.map (Graphics.seen γ) := rfl
@[simp] theorem standalone_seen : (w.seen γ).standalone = w.standalone.map CallQueue.nameless := rfl

theorem ite_seen {c : Prop} {this that : Decidable c} {u v x y : World}
    (holds : u.seen γ = x) (fails : v.seen γ = y) :
    (@ite World c this u v).seen γ = @ite World c that x y := by
  rw [apply_ite (World.seen γ)]
  exact ite_congr rfl (fun _ => holds) fun _ => fails

theorem handle?_seen (slot : Nat) : (w.seen γ).handle? slot = (w.handle? slot).map (Graphics.seen γ) := by
  unfold handle?
  rw [handles_seen]
  split <;> rfl

theorem record_seen (e : Event) : (w.record e).seen γ = (w.seen γ).record e.nameless := rfl
theorem log_seen (r : LogRecord) : (w.log r).seen γ = (w.seen γ).log r := rfl
theorem say_seen (text : String) : (w.say text).seen γ = (w.seen γ).say text := rfl
theorem ticketed_seen : w.ticketed.seen γ = w.seen γ := rfl

theorem recordAll_seen (es : List Event) :
    (w.recordAll es).seen γ = (w.seen γ).recordAll (es.map Event.nameless) := by
  induction es generalizing w with
  | nil => rfl
  | cons e es ih => exact ih (w.record e)

theorem recordAll_same {es : List Event} (h : ∀ e ∈ es, e.nameless = e) :
    (w.recordAll es).seen γ = (w.seen γ).recordAll es := by
  rw [recordAll_seen, List.map_congr_left h, List.map_id']

theorem destroyAll_seen (rs : List Runnable) :
    (w.destroyAll rs).seen γ = (w.seen γ).destroyAll (rs.map Runnable.nameless) := by
  rw [destroyAll, recordAll_seen, destroyAll, List.map_map, List.map_map]
  rfl

theorem discardCalls_seen (q : CallQueue) :
    (w.discardCalls q).seen γ = (w.seen γ).discardCalls q.nameless := by
  have empty : q.nameless.isEmpty = q.isEmpty := by simp [CallQueue.isEmpty, CallQueue.nameless]
  have length : q.nameless.length = q.length := by simp [CallQueue.length, CallQueue.nameless]
  unfold discardCalls
  rw [destroyAll_seen, empty, length, ite_seen γ rfl (log_seen w γ _)]
  rfl

theorem releaseGraphics_seen : w.releaseGraphics.seen γ = (w.seen γ).releaseGraphics := by
  unfold releaseGraphics
  refine ite_seen γ rfl ?_
  rw [graphics_seen]
  cases w.graphics with
  | none => rfl
  | some g => exact discardCalls_seen { w with graphics := none } γ g.queue

theorem dropHandle_seen (slot : Nat) : (w.dropHandle slot).seen γ = (w.seen γ).dropHandle slot :=
  releaseGraphics_seen { w with handles := w.handles.set slot false } γ

theorem dropReceiver_seen : w.dropReceiver.seen γ = (w.seen γ).dropReceiver :=
  destroyAll_seen { w with channel := { w.channel with receiver := .gone, waiting := [] } } γ
    w.channel.waiting

theorem dispatch_seen (r : Runnable) : (w.dispatch r).seen γ = (w.seen γ).dispatch r.nameless := by
  unfold dispatch
  refine ite_seen γ rfl ?_
  simp [seen, record, Channel.nameless, Event.nameless, Runnable.nameless]

theorem dispatch_next_seen (label : Option String) (body : Script) :
    (w.ticketed.dispatch (w.runnable label body)).seen γ
      = ((w.seen γ).ticketed.dispatch ((w.seen γ).runnable label body)).seen id := by
  rw [dispatch_seen w.ticketed γ, dispatch_seen (w.seen γ).ticketed id, ticketed_seen, ticketed_seen, seen_seen]
  rfl

theorem post_seen {g : Graphics} (thread : Nat) (r : Runnable) (below : List Frame)
    (same : (g.seen γ).allows thread = g.allows thread) :
    (w.post g thread r below).seen γ
      = (w.seen γ).post (g.seen γ) thread r.nameless (below.map Frame.nameless) := by
  unfold post
  dsimp only
  rw [same]
  split
  · rfl
  · simp [Machine.seen, Machine.proceed, seen, record, Graphics.seen, CallQueue.nameless, CallQueue.push,
      Event.nameless, Runnable.nameless]

theorem post_next_seen {g : Graphics} (thread : Nat) (label : Option String) (body : Script)
    (below : List Frame)
    (same : (g.seen γ).allows thread = g.allows thread) :
    (w.ticketed.post g thread (w.runnable label body) below).seen γ
      = ((w.seen γ).ticketed.post (g.seen γ) thread ((w.seen γ).runnable label body) below).seen id := by
  rw [post_seen w.ticketed γ thread (w.runnable label body) below same,
    post_seen (w.seen γ).ticketed id thread ((w.seen γ).runnable label body) below rfl,
    g.seen_seen, ticketed_seen, ticketed_seen, seen_seen]
  rfl

theorem drain_seen (thread : Nat) (line : Line) (calls : List Runnable) (below : List Frame) :
    (w.drain thread line calls below).seen γ
      = ((w.seen γ).drain thread line (calls.map Runnable.nameless) (below.map Frame.nameless)).seen id := by
  have tickets : ((calls.map Runnable.nameless).map Runnable.ticket).map (fun _ => 0)
      = (calls.map Runnable.ticket).map fun _ => 0 := by
    simp [Function.comp_def]
  have began : (w.ticketed.record (.began line w.tickets (calls.map Runnable.ticket))).seen γ
      = (((w.seen γ).ticketed.record
        (.began line 0 ((calls.map Runnable.nameless).map Runnable.ticket))).seen id) := by
    rw [record_seen, ticketed_seen, record_seen, ticketed_seen, seen_seen, Event.nameless, Event.nameless,
      tickets]
  have told : (if calls.isEmpty then w.ticketed.record (.began line w.tickets (calls.map Runnable.ticket))
        else (w.ticketed.record (.began line w.tickets (calls.map Runnable.ticket))).log
          (.runningCalls calls.length)).seen γ
      = (if (calls.map Runnable.nameless).isEmpty then (w.seen γ).ticketed.record
          (.began line 0 ((calls.map Runnable.nameless).map Runnable.ticket))
        else ((w.seen γ).ticketed.record
          (.began line 0 ((calls.map Runnable.nameless).map Runnable.ticket))).log
          (.runningCalls (calls.map Runnable.nameless).length)).seen id := by
    rw [List.isEmpty_map, List.length_map]
    split
    · exact began
    · exact congrArg (fun v : World => v.log (.runningCalls calls.length)) began
  unfold drain Machine.seen
  simp only [Machine.proceed, told, tickets_seen, List.map_cons, List.length_map, Frame.nameless, namelessAll]
  simp [Function.comp_def]

theorem round_seen (thread : Nat) (below : List Frame) :
    (w.round thread below).seen γ = ((w.seen γ).round thread (below.map Frame.nameless)).seen id := by
  have top (activation queued : Nat) :
      (Frame.round thread activation queued 0).nameless = .round thread 0 queued 0 := rfl
  simp [round, Machine.seen, Machine.proceed, record_seen, ticketed_seen, seen_seen, Event.nameless, top,
    Channel.nameless, Function.comp_def]

theorem nextCall_seen (thread activation count : Nat) (rest : List Runnable) :
    (w.nextCall thread activation count rest).seen γ
      = (w.seen γ).nextCall thread 0 count (rest.map Runnable.nameless) := by
  cases rest <;> rfl

theorem nextMain_seen (thread activation queued ran : Nat) :
    (w.nextMain thread activation queued ran).seen γ = (w.seen γ).nextMain thread 0 queued ran := by
  obtain ⟨journal, tickets, threads, graphics, handles, ⟨senders, receiver, waiting⟩, standalone, renderer,
    desktop, host⟩ := w
  have ended (v : World) : (Machine.answering ((if ran = 0 then v else v.log (.ranMainThread ran)).record
        (.ended activation ran)) (.count ran)).seen γ
      = .answering ((if ran = 0 then v.seen γ else (v.seen γ).log (.ranMainThread ran)).record
        (.ended 0 ran)) (.count ran) := by
    split <;> rfl
  unfold nextMain
  cases waiting with
  | nil =>
    cases decide (ran < queued) <;> exact ended _
  | cons r waiting =>
    cases decide (ran < queued) with
    | false => exact ended _
    | true => rfl

theorem enterPass_seen (thread : Nat) :
    (w.enterPass thread).seen id = ((w.seen id).enterPass thread).seen id := by
  unfold enterPass
  rw [graphics_seen]
  cases w.graphics with
  | none => exact Machine.seen_of rfl
  | some g =>
    refine Machine.ite_seen ?_ (Machine.seen_of rfl)
    exact drain_seen (World.record { w with graphics := some ⟨g.affinity.bind thread, g.gate.enter.1,
      g.queue.take.2⟩ } (.passBegan thread)) id thread .graphics _ _

theorem leaveGate_seen (saved : Bool) : (w.leaveGate saved).seen id = (w.seen id).leaveGate saved := by
  unfold leaveGate
  simp only [seen, Option.map_map]
  rfl

theorem endPass_seen (saved rendered : Bool) :
    (w.endPass saved rendered).seen id = (w.seen id).endPass saved rendered :=
  congrArg (fun v : World => Machine.answering (v.record (.passEnded (some rendered))) (.flag rendered))
    (w.leaveGate_seen saved)

theorem checkGate_seen (operation : String) : (w.seen id).checkGate operation = w.checkGate operation := by
  unfold checkGate
  rw [graphics_seen]
  cases w.graphics <;> rfl

theorem draw_seen (thread : Nat) (saved : Bool) :
    (w.draw thread saved).seen id = (w.seen id).draw thread saved := by
  unfold draw
  rw [checkGate_seen]
  split <;> rfl

theorem load_seen (thread : Nat) (saved : Bool) (r : Reload) :
    (w.load thread saved r).seen id = (w.seen id).load thread saved r := by
  unfold load
  rw [checkGate_seen]
  split <;> rfl

theorem refresh_seen (thread : Nat) (saved : Bool) (a : Adapter) :
    (w.refresh thread saved a).seen id = (w.seen id).refresh thread saved a := by
  unfold refresh
  rw [renderer_seen]
  generalize a.update w.renderer.resolution = u
  obtain ⟨⟨records, reload⟩, a⟩ := u
  have told : ((w.setAdapter a).recordAll (records.map .log)).seen id
      = ((w.seen id).setAdapter a).recordAll (records.map .log) := by
    refine recordAll_same (w.setAdapter a) id fun e he => ?_
    obtain ⟨r, _, rfl⟩ := List.mem_map.mp he
    rfl
  dsimp only
  rw [← told]
  cases reload with
  | none => exact draw_seen _ thread saved
  | some r => exact load_seen _ thread saved r

theorem readTarget_seen (thread : Nat) (saved : Bool) :
    (w.readTarget thread saved).seen id = (w.seen id).readTarget thread saved := by
  have missed : (((w.record (.targetRead w.renderer.hasTarget)).log .noRenderTarget).endPass saved
    false).seen id
      = (((w.seen id).record (.targetRead w.renderer.hasTarget)).log .noRenderTarget).endPass saved false :=
    endPass_seen _ saved false
  obtain ⟨journal, tickets, threads, graphics, handles, channel, standalone,
    ⟨hasTarget, resolution, sticky, failures, onReload, onRender⟩, desktop, host⟩ := w
  cases hasTarget with
  | false => exact missed
  | true =>
    cases host with
    | none => exact missed
    | some h => exact refresh_seen (World.record _ (.targetRead true)) thread saved h.adapter

theorem finishLoad_seen (thread : Nat) (saved : Bool) (settings : Settings) :
    (w.finishLoad thread saved settings).seen id = (w.seen id).finishLoad thread saved settings := by
  unfold finishLoad
  rw [host_seen]
  cases w.host with
  | none => exact w.draw_seen thread saved
  | some h => exact (w.setAdapter (h.adapter.loaded settings)).draw_seen thread saved

theorem present_seen (saved : Bool) : (w.present saved).seen id = (w.seen id).present saved := by
  unfold present
  rw [renderer_seen]
  split
  · exact endPass_seen _ saved false
  · exact endPass_seen _ saved true

theorem endFrame_seen (answer : Answer) : (w.endFrame answer).seen γ = (w.seen γ).endFrame answer := by
  have told : (if answer = .flag false then w.log .frameSkipped else w).seen γ
      = if answer = .flag false then (w.seen γ).log .frameSkipped else w.seen γ :=
    ite_seen γ rfl rfl
  have host (v : World) : (if answer = .flag false then v.log .frameSkipped else v).host = v.host := by
    split <;> rfl
  unfold endFrame
  dsimp only
  rw [host, host, host_seen, ← told]
  split <;> rfl

end World

section
variable (w : World) (γ : Gate → Gate)

theorem Op.perform_seen (op : Op) (thread : Nat) (next : Script)
    (same : ∀ g, w.graphics = some g → (g.seen γ).allows thread = g.allows thread) :
    (op.perform w thread next).seen γ = (op.perform (w.seen γ) thread next).seen id := by
  have shared {slot : Nat} {g : Graphics} (h : w.handle? slot = some g) :
      (g.seen γ).allows thread = g.allows thread := same g (World.handle?_graphics w h)
  cases op with
  | query handle =>
    unfold perform
    dsimp only
    rw [World.handle?_seen]
    cases full : w.handle? handle with
    | none => exact Machine.seen_of rfl
    | some g =>
      have pending : (g.seen γ).queue.length = g.queue.length := by
        simp [Graphics.seen, CallQueue.nameless, CallQueue.length]
      dsimp only [Option.map_some]
      rw [shared full, pending]
      exact Machine.seen_of rfl
  | dropHandle handle =>
    refine Machine.seen_of ?_
    exact congrArg (fun v : World => Machine.proceed (v.say _) [.script thread next])
      (w.dropHandle_seen γ handle)
  | chain count handle =>
    unfold perform
    dsimp only
    rw [← World.say_seen, World.handle?_seen]
    cases count with
    | zero => exact Machine.seen_of rfl
    | succ count =>
      cases full : (w.say s!"chain {count + 1}").handle? handle with
      | none => exact Machine.seen_of rfl
      | some g => exact World.post_next_seen _ γ thread none _ [.script thread next] (shared full)
  | runMain =>
    unfold perform
    exact Machine.ite_seen (w.round_seen γ thread _) (Machine.seen_of rfl)
  | drainQueue =>
    unfold perform
    dsimp only
    rw [World.standalone_seen]
    cases w.standalone with
    | none => exact Machine.seen_of rfl
    | some q => exact World.drain_seen { w with standalone := some .empty } γ thread .standalone _ _
  | queueLength =>
    unfold perform
    dsimp only
    rw [World.standalone_seen]
    cases w.standalone with
    | none => exact Machine.seen_of rfl
    | some q =>
      have length : q.nameless.length = q.length := by simp [CallQueue.length, CallQueue.nameless]
      have empty : q.nameless.isEmpty = q.isEmpty := by simp [CallQueue.isEmpty, CallQueue.nameless]
      dsimp only [Option.map_some]
      rw [length, empty]
      exact Machine.seen_of rfl
  | _ => exact Machine.seen_of rfl

theorem Nest.perform_seen (kind : Nest) (thread : Nat) (body next : Script)
    (same : ∀ g, w.graphics = some g → (g.seen γ).allows thread = g.allows thread) :
    (kind.perform w thread body next).seen γ = (kind.perform (w.seen γ) thread body next).seen id := by
  cases kind with
  | times count => cases count <;> exact Machine.seen_of rfl
  | push handle label =>
    unfold perform
    dsimp only
    rw [World.handle?_seen]
    cases full : w.handle? handle with
    | none => exact Machine.seen_of rfl
    | some g =>
      exact w.post_next_seen γ thread label body [.script thread next] (same g (World.handle?_graphics w full))
  | dispatch sender label =>
    have sent : (if w.channel.hasSender sender then w.ticketed.dispatch (w.runnable label body)
          else w.say "no sender").seen γ
        = (if (w.seen γ).channel.hasSender sender then (w.seen γ).ticketed.dispatch
        ((w.seen γ).runnable label body)
          else (w.seen γ).say "no sender").seen id := by
      rw [show (w.seen γ).channel.hasSender sender = w.channel.hasSender sender from rfl]
      split
      · exact w.dispatch_next_seen γ label body
      · exact ((w.say "no sender").seen_seen γ).symm
    exact congrArg (fun v => Machine.proceed v [.script thread next]) sent
  | enqueue label =>
    unfold perform
    dsimp only
    rw [World.standalone_seen]
    cases w.standalone with
    | none => exact Machine.seen_of rfl
    | some q =>
      have queued : (q.push (w.runnable label body)).nameless
          = (q.nameless.push ((w.seen γ).runnable label body)).nameless := by
        simp [CallQueue.nameless, CallQueue.push, World.runnable, Runnable.nameless, Function.comp_def]
      show Machine.proceed ({ w.seen γ with standalone := some _ }.record (.submitted .standalone 0))
          [.script thread next] = .proceed ({ (w.seen γ).seen id with standalone := some _ }.record
          (.submitted .standalone 0)) [.script thread next]
      rw [w.seen_seen, queued]
  | install hook => cases hook <;> exact Machine.seen_of rfl
  | _ => exact Machine.seen_of rfl

theorem Frame.IgnoresGate.allows {f : Frame} {thread : Nat} {g : Graphics} (h : f.IgnoresGate w)
    (runs : f.thread? = some thread) (shared : w.graphics = some g) :
    (g.seen γ).allows thread = g.allows thread := by
  have foreign : g.inContext thread = false := h.2 thread runs g shared
  have also : (g.seen γ).inContext thread = false := foreign
  rw [Graphics.allows, Graphics.allows, foreign, also, Bool.false_and, Bool.false_and]

theorem Frame.advance_seen (f : Frame) (answer : Answer) (ignoresGate : γ = id ∨ f.IgnoresGate w) :
    (f.advance w answer).seen γ = (f.nameless.advance (w.seen γ) answer).seen id := by
  have allows {thread : Nat} (runs : f.thread? = some thread) (g : Graphics) (shared : w.graphics = some g) :
      (g.seen γ).allows thread = g.allows thread := by
    rcases ignoresGate with rfl | ignoresGate
    · rfl
    · exact ignoresGate.allows w γ runs shared
  have hosted (holds : f.holdsHost = true) : γ = id :=
    ignoresGate.resolve_right fun h => by simp [h.1] at holds
  cases f with
  | script thread rest =>
    cases rest with
    | done => exact Machine.seen_of rfl
    | act op next => exact op.perform_seen w γ thread next (allows rfl)
    | nest kind body next => exact kind.perform_seen w γ thread body next (allows rfl)
  | running ticket => exact Machine.seen_of rfl
  | catching => exact Machine.seen_of rfl
  | joined => exact Machine.seen_of rfl
  | batch thread activation rest count => exact Machine.seen_of (w.nextCall_seen γ thread activation count rest)
  | drained =>
    have left : ((w.seen γ).standalone.getD .empty).length = (w.standalone.getD .empty).length := by
      rw [World.standalone_seen]
      cases w.standalone <;> simp [CallQueue.nameless, CallQueue.length]
    cases answer with
    | count n =>
      change _ = (Machine.proceed ((w.seen γ).say
        s!"drained {n} left {((w.seen γ).standalone.getD .empty).length}") []).seen id
      rw [left]
      exact Machine.seen_of rfl
    | _ => exact Machine.seen_of rfl
  | round thread activation queued ran => exact Machine.seen_of (w.nextMain_seen γ thread activation queued ran)
  | ranMain =>
    have left : (w.seen γ).channel.waiting.length = w.channel.waiting.length := by
      simp [Channel.nameless]
    cases answer with
    | count n =>
      change _ = (Machine.proceed ((w.seen γ).say
        s!"run_main {n} left {(w.seen γ).channel.waiting.length}") []).seen id
      rw [left]
      exact Machine.seen_of rfl
    | _ => exact Machine.seen_of rfl
  | enter thread =>
    obtain rfl := hosted rfl
    exact w.enterPass_seen thread
  | pass thread saved phase =>
    obtain rfl := hosted rfl
    cases phase with
    | target => exact Machine.seen_of (w.readTarget_seen thread saved)
    | loaded settings => exact Machine.seen_of (w.finishLoad_seen thread saved settings)
    | presenting => exact Machine.seen_of (w.present_seen saved)
  | frameEnd => exact Machine.seen_of (w.endFrame_seen γ answer)

theorem Frame.unwind_seen (f : Frame) (fault : Fault) (ignoresGate : γ = id ∨ f.IgnoresGate w) :
    (f.unwind w fault).seen γ = (f.nameless.unwind (w.seen γ) fault).seen id := by
  cases f with
  | batch thread activation rest count =>
    exact Machine.seen_of (congrArg (fun v => Machine.failing v fault []) (w.destroyAll_seen γ rest))
  | pass thread saved phase =>
    obtain rfl := ignoresGate.resolve_right fun h => by cases h.1
    exact Machine.seen_of (congrArg (fun v : World => Machine.failing (v.record (.passEnded none)) fault [])
      (w.leaveGate_seen saved))
  | _ => exact Machine.seen_of rfl

/-- A step commutes with erasing tickets. -/
theorem Strand.step_seen (σ : Strand)
    (ignoresGate : γ = id ∨ ∀ f below, σ.stack = f :: below → f.IgnoresGate w) :
    (σ.on w).step.seen γ = (σ.nameless.on (w.seen γ)).step.seen id := by
  obtain ⟨fault, answer, stack⟩ := σ
  cases stack with
  | nil => exact Machine.seen_of rfl
  | cons f below =>
    have top : γ = id ∨ f.IgnoresGate w := ignoresGate.imp_right fun h => h f below rfl
    have lay {m n : Machine} (same : m.seen γ = n.seen id) :
        Machine.seen γ { m with stack := m.stack ++ below }
          = Machine.seen id { n with stack := n.stack ++ below.map Frame.nameless } := by
      obtain ⟨world, fault, answer, stack⟩ := Machine.mk.inj same
      simp [Machine.seen, world, fault, answer, stack, Function.comp_def]
    cases fault with
    | none => exact lay (f.advance_seen w γ answer top)
    | some raised => exact lay (f.unwind_seen w γ raised top)

end

namespace World

variable (w : World) (γ : Gate → Gate)

theorem dropHost_seen : w.dropHost.seen γ = (w.seen γ).dropHost := by
  unfold dropHost
  rw [host_seen]
  cases w.host with
  | none => rfl
  | some h =>
    have released : (World.releaseGraphics { w with host := none }).seen γ
        = World.releaseGraphics { w.seen γ with host := none } :=
      releaseGraphics_seen { w with host := none } γ
    dsimp only
    rw [← released]
    exact ite_seen γ (dropReceiver_seen _ γ) rfl

theorem ask_seen (h : Host) (r : AdapterRequest) : (w.ask h r).seen γ = (w.seen γ).ask h r := by
  have warned : ((w.record (.requested r)).recordAll (r.warnings.map .log)).seen γ
      = ((w.seen γ).record (.requested r)).recordAll (r.warnings.map .log) := by
    refine recordAll_same _ γ fun e he => ?_
    obtain ⟨x, _, rfl⟩ := List.mem_map.mp he
    rfl
  unfold ask
  dsimp only
  rw [← warned]
  cases h.adapter.request r <;> rfl

theorem attachWindow_seen (h : Host) (window : Nat) :
    (w.attachWindow h window).seen γ = (w.seen γ).attachWindow h window := by
  unfold attachWindow
  cases h.controls with
  | panel p => rfl
  | window c =>
    refine recordAll_same (w.setControls (.window (c.attach window).1)) γ fun e he => ?_
    obtain rfl := List.mem_singleton.mp he
    rfl

theorem resume_seen (h : Host) (p : Platform) : (w.resume h p).seen γ = ((w.seen γ).resume h p).seen id := by
  unfold resume
  refine Machine.ite_seen (Machine.seen_of rfl) ?_
  obtain ⟨journal, tickets, threads, graphics, handles, channel, standalone, renderer,
    ⟨windows, scale, failure⟩, host⟩ := w
  cases failure with
  | some reason => exact Machine.seen_of rfl
  | none =>
    refine Machine.ite_seen (Machine.seen_of ?_) (Machine.seen_of rfl)
    let number := windows.length + 1
    let created : World := ⟨.log (.windowCreated (scale.scale 800).toPixels (scale.scale 600).toPixels scale) ::
      .windowAsked p.title :: journal, tickets, threads, graphics, handles, channel, standalone, renderer,
      ⟨windows ++ [false], scale, none⟩, host⟩
    exact congrArg (fun v : World => Machine.proceed
      ((v.record (.commanded number .redraw)).setPlatform { p with window := some number }) [])
      (created.attachWindow_seen γ h number)

theorem handle_seen (h : Host) (p : Platform) (thread : Nat) (e : WindowEvent) :
    (w.handle h p thread e).seen γ = ((w.seen γ).handle h p thread e).seen id := by
  cases e with
  | resumed => exact w.resume_seen γ h p
  | aboutToWait => exact Machine.ite_seen (Machine.seen_of rfl) (Machine.seen_of rfl)
  | resized width height =>
    exact Machine.seen_of (ask_seen (w.log (.windowResized width height)) γ h (.resize width height))
  | redraw => exact w.round_seen γ thread [.enter thread, .frameEnd]
  | _ => exact Machine.seen_of rfl

end World

theorem Request.begin_seen (w : World) (γ : Gate → Gate) (r : Request) (thread : Nat)
    (ignoresGate : γ = id ∨ r.needsHost = false) :
    (r.begin w thread).seen γ = (r.begin (w.seen γ) thread).seen id := by
  have toHost {f g : Host → Machine} (served : ∀ h, (f h).seen γ = (g h).seen id) :
      (ofHost w f).seen γ = (ofHost (w.seen γ) g).seen id := by
    unfold ofHost
    rw [World.host_seen]
    cases w.host with
    | none => exact Machine.seen_of rfl
    | some h => exact served h
  have done {v u : World} (same : v.seen γ = u) :
      (Machine.proceed v []).seen γ = (Machine.proceed u []).seen id := by
    refine Machine.seen_of ?_
    rw [← same]
    rfl
  have hosted (needs : r.needsHost = true) : γ = id :=
    ignoresGate.resolve_right fun h => by simp [h] at needs
  cases r with
  | push label body =>
    obtain rfl := hosted rfl
    refine toHost fun h => ?_
    rw [World.graphics_seen]
    cases w.graphics with
    | none => exact Machine.seen_of rfl
    | some g => exact w.post_next_seen id thread label body [] rfl
  | dispatch label body =>
    exact toHost fun h => congrArg (fun v => Machine.proceed v []) (w.dispatch_next_seen γ label body)
  | adapter r => exact toHost fun h => Machine.seen_of (w.ask_seen γ h r)
  | fullscreen on =>
    refine toHost fun h => done ?_
    exact World.recordAll_same _ γ fun e he =>
      Event.nameless_of_isRemark (h.controls.setFullscreen_remarks w.desktop on e he)
  | cursor visible =>
    refine toHost fun h => done ?_
    exact World.recordAll_same _ γ fun e he => Event.nameless_of_isRemark
      (h.controls.setCursor_remarks visible e he)
  | terminate =>
    refine toHost fun h => done ?_
    exact World.recordAll_same _ γ fun e he => Event.nameless_of_isRemark (h.controls.terminate_remarks e he)
  | runMain =>
    unfold begin
    exact Machine.ite_seen (w.round_seen γ thread []) (Machine.seen_of rfl)
  | newHandle =>
    have shared : (w.seen γ).graphics.isSome = w.graphics.isSome := Option.isSome_map
    unfold begin
    dsimp only
    rw [shared]
    exact done (World.ite_seen γ rfl rfl)
  | dropHandle slot => exact done (w.dropHandle_seen γ slot)
  | dropReceiver => exact done (World.ite_seen γ (w.dropReceiver_seen γ) rfl)
  | dropHost => exact done (w.dropHost_seen γ)
  | attach =>
    exact toHost fun h => done
      (World.attachWindow_seen { w with desktop := w.desktop.openWindow.1 } γ h w.desktop.openWindow.2)
  | title text =>
    refine toHost fun h => ?_
    cases h.platform <;> exact Machine.seen_of rfl
  | event e =>
    refine toHost fun h => ?_
    cases h.platform with
    | none => exact Machine.seen_of rfl
    | some p => exact w.handle_seen γ h p thread e
  | act | userFullscreen | scale | failNextWindow => exact Machine.seen_of rfl
  | render => exact toHost fun h => Machine.seen_of rfl

end FrameHost
