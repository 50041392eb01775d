import FrameHost.Proofs.Inline
import FrameHost.Proofs.PushTree

/-!
The queue of graphics calls during a pass: it holds the calls pushed by other threads since the pass began.
Pushes of the thread of the pass never wait.
-/
namespace FrameHost

def Strand.push? (σ : Strand) (w : World) : Option (Nat × Runnable) :=
  match σ.fault, σ.stack with
  | none, f :: _ => (f.push? w).map fun (thread, p) => (thread, p.call)
  | _, _ => none

def Request.push? (w : World) (thread : Nat) : Request → Option (Nat × Runnable)
  | push label body =>
      if w.host.isSome && w.graphics.isSome then some (thread, w.runnable label body) else none
  | _ => none

inductive Pushes : System → System → Option (Nat × Runnable) → Prop where
  | step {w : World} (before : List Strand) (σ : Strand) (after : List Strand) :
      Pushes ⟨w, before ++ σ :: after⟩ ⟨(σ.on w).step.world, before ++ (σ.on w).step.strand :: after⟩
        (σ.push? w)
  | begin {w : World} (before : List Strand) (σ : Strand) (after : List Strand) (r : Request) (thread : Nat)
      (idle : σ.stack = [])
      (free : r.needsHost = true → ∀ f ∈ framesOf (before ++ after), f.holdsHost = false) :
      Pushes ⟨w, before ++ σ :: after⟩
        ⟨(r.begin w thread).world, before ++ (r.begin w thread).strand :: after⟩ (r.push? w thread)

def foreign (thread : Nat) : Option (Nat × Runnable) → List Runnable
  | some (pusher, r) => if pusher = thread then [] else [r]
  | none => []

/-- The moments of a pass, latest first, and the calls pushed by other threads since it began, in push
order. -/
inductive PassPushes (s : System) (thread : Nat) : List System → List Runnable → Prop where
  | begins {x : System} (p : Passing s thread [x]) : PassPushes s thread [x] []
  | goes {x y : System} {earlier : List System} {calls : List Runnable} {push : Option (Nat × Runnable)}
      (p : PassPushes s thread (x :: earlier) calls) (m : Pushes x y push)
      (opened : openPass y.world.journal = some thread) :
      PassPushes s thread (y :: x :: earlier) (calls ++ foreign thread push)

theorem Pushes.move {s t : System} {push : Option (Nat × Runnable)} (m : Pushes s t push) : Move s t := by
  cases m with
  | step before σ after => exact .turn before σ after .step
  | begin before σ after r thread idle free => exact .turn before σ after (.begin r thread idle free)

theorem Move.pushes {s t : System} (m : Move s t) : ∃ push, Pushes s t push := by
  cases m with
  | turn before σ after turn =>
    cases turn with
    | step => exact ⟨_, .step before σ after⟩
    | begin r thread idle free => exact ⟨_, .begin before σ after r thread idle free⟩

theorem World.waiting_dropHandle {w : World} (hosted : w.host.isSome = true) (slot : Nat) :
    (w.dropHandle slot).waiting = w.waiting := by
  simp only [dropHandle, releaseGraphics, hosted, Bool.true_or, if_true]
  rfl

theorem World.waiting_post {w : World} {g : Graphics} (shared : w.graphics = some g) {thread : Nat}
    (closed : g.allows thread = false) (r : Runnable) (below : List Frame) :
    (w.post g thread r below).world.waiting .graphics = w.waiting .graphics ++ [r] := by
  have before : w.waiting .graphics = g.queue.calls := by simp [waiting, shared]
  rw [post, closed, before]
  rfl

theorem World.waiting_dispatch (w : World) (r : Runnable) :
    (w.dispatch r).waiting .graphics = w.waiting .graphics := by
  unfold dispatch
  dsimp only
  split <;> rfl

theorem World.waiting_drain (w : World) (thread : Nat) (line : Line) (calls : List Runnable)
    (below : List Frame) : (w.drain thread line calls below).world.waiting = w.waiting := by
  cases calls <;> rfl

theorem World.waiting_dropReceiver (w : World) :
    w.dropReceiver.waiting .graphics = w.waiting .graphics := by
  unfold dropReceiver
  rw [LedgerMove.waiting_destroyAll]
  rfl

section
variable {w : World}

theorem Op.waiting_perform (hosted : w.host.isSome = true) (op : Op) (thread : Nat) (next : Script)
    (none : (Script.act op next).push? w = none) :
    (op.perform w thread next).world.waiting .graphics = w.waiting .graphics := by
  cases op with
  | query handle =>
    unfold perform
    dsimp only
    split <;> rfl
  | dropHandle handle => exact congrFun (w.waiting_dropHandle hosted handle) .graphics
  | chain count handle =>
    cases count with
    | zero => rfl
    | succ count =>
      have dead : (w.say s!"chain {count + 1}").handle? handle = .none := Option.map_eq_none_iff.mp none
      simp only [perform, dead]
      rfl
  | runMain =>
    unfold perform
    dsimp only
    split <;> rfl
  | drainQueue =>
    unfold perform
    dsimp only
    split
    · rfl
    · exact congrFun (World.waiting_drain _ thread .standalone _ _) .graphics
  | queueLength =>
    unfold perform
    dsimp only
    split <;> rfl
  | _ => rfl

theorem Nest.waiting_perform (kind : Nest) (thread : Nat) (body next : Script)
    (none : (Script.nest kind body next).push? w = none) :
    (kind.perform w thread body next).world.waiting .graphics = w.waiting .graphics := by
  cases kind with
  | times count => cases count <;> rfl
  | push handle label =>
    have dead : w.handle? handle = .none := Option.map_eq_none_iff.mp none
    simp only [perform, dead]
    rfl
  | dispatch sender label =>
    unfold perform
    dsimp only
    split
    · exact World.waiting_dispatch w.ticketed _
    · rfl
  | enqueue label =>
    unfold perform
    dsimp only
    split <;> rfl
  | _ => rfl

theorem Frame.waiting_advance (hosted : w.host.isSome = true) {f : Frame} (none : f.push? w = none)
    (under : ∀ thread, f ≠ .enter thread) (answer : Answer) :
    (f.advance w answer).world.waiting .graphics = w.waiting .graphics := by
  cases f with
  | script thread rest =>
    have none : rest.push? w = .none := Option.map_eq_none_iff.mp none
    cases rest with
    | done => rfl
    | act op next => exact op.waiting_perform hosted thread next none
    | nest kind body next => exact kind.waiting_perform thread body next none
  | batch thread activation rest count => cases rest <;> rfl
  | drained => cases answer <;> rfl
  | round thread activation queued ran =>
    simp only [advance, World.nextMain]
    split
    · rfl
    · split <;> rfl
  | ranMain => cases answer <;> rfl
  | enter thread => exact absurd rfl (under thread)
  | pass thread saved phase =>
    cases phase with
    | target => exact congrFun (World.KeepsRunnables.readTarget w thread saved).waiting .graphics
    | loaded settings =>
      exact congrFun (World.KeepsRunnables.finishLoad w thread saved settings).waiting .graphics
    | presenting => exact congrFun (World.KeepsRunnables.present w saved).waiting .graphics
  | frameEnd =>
    have shown : (if answer = .flag false then w.log .frameSkipped else w).waiting = w.waiting := by
      split <;> rfl
    simp only [advance, World.endFrame]
    split <;> exact congrFun shown .graphics
  | _ => rfl

theorem Frame.waiting_unwind (f : Frame) (fault : Fault) :
    (f.unwind w fault).world.waiting .graphics = w.waiting .graphics := by
  cases f with
  | batch thread activation rest count => exact congrFun (LedgerMove.waiting_destroyAll w rest) .graphics
  | pass thread saved phase => exact congrFun (World.KeepsRunnables.leaveGate w saved).waiting .graphics
  | _ => rfl

theorem Frame.waiting_push {thread pusher : Nat} {live : List Nat} {p : Push}
    (inside : w.Admits thread live) {f : Frame} (pushing : f.push? w = some (pusher, p)) (answer : Answer) :
    (f.advance w answer).world.waiting .graphics
      = w.waiting .graphics ++ foreign thread (some (pusher, p.call)) := by
  obtain ⟨g, here, shared, posts⟩ := Frame.push?_post pushing answer
  have before : p.world.waiting .graphics = w.waiting .graphics := by
    rw [World.waiting, World.waiting, here, shared]
  rw [posts, foreign, ← before]
  have allows := inside.allows g shared pusher
  by_cases own : pusher = thread
  · rw [World.post, if_pos (allows.mpr own), if_pos own, List.append_nil]
    rfl
  · rw [World.waiting_post (w := p.world.ticketed) here (Bool.eq_false_iff.mpr (mt allows.mp own)), if_neg own]
    rfl

theorem Request.waiting_begin (hosted : w.host.isSome = true) (r : Request) (thread : Nat)
    (free : r.needsHost = false) :
    (r.begin w thread).world.waiting .graphics = w.waiting .graphics := by
  cases r with
  | runMain =>
    unfold begin
    dsimp only
    split <;> rfl
  | newHandle =>
    simp only [begin, Machine.proceed]
    split <;> rfl
  | dropHandle slot => exact congrFun (w.waiting_dropHandle hosted slot) .graphics
  | dropReceiver =>
    simp only [begin, Machine.proceed]
    split
    · exact w.waiting_dropReceiver
    · rfl
  | act | userFullscreen | scale | failNextWindow => rfl
  | _ => cases free

end

variable {b : AdapterOptions} {s t x : System} {thread : Nat} {push : Option (Nat × Runnable)}

theorem Reachable.hosted (h : Reachable b s) (opened : openPass s.world.journal = some thread) :
    s.world.host.isSome = true := by
  obtain ⟨saved, phase, mem⟩ := (h.inPass_iff thread).mpr opened
  exact h.gated.hosted _ mem rfl

theorem Reachable.enterless (h : Reachable b s) (opened : openPass s.world.journal = some thread)
    {f : Frame} (mem : f ∈ s.frames) (t : Nat) : f ≠ .enter t := by
  rintro rfl
  obtain ⟨saved, phase, inside⟩ := (h.inPass_iff thread).mpr opened
  obtain ⟨before, after, frames⟩ := List.append_of_mem mem
  have single := h.gated.single
  rw [frames] at single inside
  have other : Frame.pass thread saved phase ∈ before ++ after := by simpa using inside
  have counted : 1 ≤ (before ++ after).countP Frame.isPass := List.countP_pos_iff.mpr ⟨_, other, rfl⟩
  simp only [List.countP_append, List.countP_cons, Frame.isPass, if_true] at single counted
  omega

/-- A move inside a pass appends the call pushed by another thread, if any, and keeps the queue otherwise.
-/
theorem Pushes.waiting (m : Pushes s t push) (h : Reachable b s)
    (opened : openPass s.world.journal = some thread) :
    t.world.waiting .graphics = s.world.waiting .graphics ++ foreign thread push := by
  have hosted := h.hosted opened
  have inside : s.world.Admits thread [] := h.admits opened (by simp)
  cases m with
  | @step w before σ after =>
    obtain ⟨fault, answer, stack⟩ := σ
    cases stack with
    | nil => cases fault <;> simp [Strand.push?, foreign, Strand.on, Machine.step]
    | cons f below =>
      have mem : f ∈ System.frames ⟨w, before ++ ⟨fault, answer, f :: below⟩ :: after⟩ := by
        simp [System.frames]
      cases fault with
      | some raised =>
        simp only [Strand.push?, foreign, List.append_nil]
        exact f.waiting_unwind raised
      | none =>
        cases pushing : f.push? w with
        | none =>
          simp only [Strand.push?, pushing, Option.map_none, foreign, List.append_nil]
          exact Frame.waiting_advance hosted pushing (h.enterless opened mem) answer
        | some found =>
          simp only [Strand.push?, pushing, Option.map_some]
          exact Frame.waiting_push inside pushing answer
  | @begin w before σ after r pusher idle free =>
    have hostless := h.hostless opened idle free
    have none : r.push? w pusher = .none := by cases r <;> first | rfl | cases hostless
    rw [none]
    exact (r.waiting_begin hosted pusher hostless).trans (List.append_nil _).symm

theorem Pushes.foreign_last (m : Pushes s t push) (h : Reachable b s)
    (opened : openPass s.world.journal = some thread) (closed : openPass t.world.journal = none) :
    foreign thread push = [] := by
  cases m with
  | @step w before σ after =>
    obtain ⟨fault, answer, stack⟩ := σ
    cases stack with
    | nil => cases fault <;> rfl
    | cons f below =>
      cases fault with
      | some raised => rfl
      | none =>
        cases pushing : f.push? w with
        | none => simp [Strand.push?, pushing, foreign]
        | some found =>
          have effect : StepEffect w [] none [f] (f.advance w answer) := f.effect_advance answer
          rcases effect.aside_or_host with ⟨aside, _⟩ | d
          · have same : openPass (f.advance w answer).world.journal = openPass w.journal :=
              (World.KeepsGate.of_aside aside).openPass
            rw [show openPass (f.advance w answer).world.journal = none from closed, opened] at same
            cases same
          · rcases d.top with ⟨empty, _⟩ | ⟨_, top⟩ | ⟨_, _, _, top⟩
            · cases empty
            · obtain rfl := List.singleton_inj.mp top
              cases pushing
            · obtain rfl := List.singleton_inj.mp top
              cases pushing
  | @begin w before σ after r pusher idle free =>
    have hostless := h.hostless opened idle free
    cases r <;> first | rfl | cases hostless

theorem Move.begins_empty (m : Move s x)
    (closed : openPass s.world.journal = none) (opened : openPass x.world.journal = some thread) :
    x.world.waiting .graphics = [] := by
  obtain ⟨σ, popped, below, others, n, act⟩ := m.act
  rw [act.world] at opened ⊢
  obtain ⟨rfl, g, shared, owned⟩ := act.effect.gateMove.entered closed opened
  rcases act.effect.aside_or_host with ⟨aside, _⟩ | d
  · rw [(World.KeepsGate.of_aside aside).openPass, closed] at opened
    cases opened
  · cases d with
    | enter =>
      rw [s.world.enterPass_eq thread shared owned, World.waiting_drain]
      rfl

/-- During a pass the queue holds the calls pushed by other threads since it began. -/
theorem PassPushes.waiting {earlier : List System} {calls : List Runnable}
    (j : PassPushes s thread (x :: earlier) calls) (h : Reachable b s) :
    Passing s thread (x :: earlier) ∧ x.world.waiting .graphics = calls := by
  generalize same : x :: earlier = moments at j
  induction j generalizing x earlier with
  | begins p =>
    cases same
    cases p with
    | begins m closed opened => exact ⟨.begins m closed opened, m.begins_empty closed opened⟩
  | goes j m opened ih =>
    cases same
    obtain ⟨p, waiting⟩ := ih rfl
    refine ⟨p.goes m.move opened, ?_⟩
    rw [m.waiting (p.latest h) p.openPass, waiting]

theorem Passing.joined {earlier : List System} (p : Passing s thread (x :: earlier)) :
    ∃ calls, PassPushes s thread (x :: earlier) calls := by
  generalize same : x :: earlier = moments at p
  induction p generalizing x earlier with
  | begins m closed opened => exact ⟨[], .begins (.begins m closed opened)⟩
  | goes p m opened ih =>
    obtain ⟨calls, joined⟩ := ih rfl
    obtain ⟨push, pushes⟩ := m.pushes
    exact ⟨_, joined.goes pushes opened⟩

/-- Every run inside a pass agrees at every moment with a run in which the thread of the pass runs its
pushes directly, and conversely: strands with their faults, queue and world are the same, and so is the
journal without submissions. A tree of pushes on that thread runs depth first, in pre-order, before the pass
can end. During the pass and at its end the queue holds the calls pushed by other threads since it began, in
push order. -/
theorem pushes_run_inline_inside_pass {earlier : List System} (h : Reachable b s)
    (p : Passing s thread (x :: earlier)) :
    (∀ run, Inside Move thread x run →
      ∃ direct, Inside (DirectMove thread) thread x direct ∧ List.Forall₂ System.Alike run direct) ∧
    (∀ direct, Inside (DirectMove thread) thread x direct →
      ∃ run, Inside Move thread x run ∧ List.Forall₂ System.Alike run direct) ∧
    (∀ place live body answer below saved phase n es y,
      x.strands[place]? = some ⟨none, answer, .script thread body :: below⟩ →
      .pass thread saved phase ∈ below → Tree live body → StrandRun place below live x n es y →
      n ≤ body.weight 0 ∧ (∃ later, Passing s thread (y :: later) ∧ x :: earlier <:+ y :: later) ∧
        ∃ τ left, y.strands[place]? = some τ ∧ τ.stack = left ++ below ∧
          (left = [] → Told thread thread body es τ.fault)) ∧
    (∃ calls, PassPushes s thread (x :: earlier) calls) ∧
    ∀ calls, PassPushes s thread (x :: earlier) calls → x.world.waiting .graphics = calls ∧
      ∀ t, Move x t → openPass t.world.journal = none → t.world.waiting .graphics = calls := by
  have reached := p.latest h
  refine ⟨fun run r => r.simulate reached, fun direct r => r.simulated reached, ?_, p.joined, ?_⟩
  · intro place live body answer below saved phase n es y here mine tree strandRun
    exact strandRun.tree h p here mine tree
  · intro calls joined
    obtain ⟨_, waiting⟩ := joined.waiting h
    refine ⟨waiting, ?_⟩
    intro t m closed
    obtain ⟨push, pushes⟩ := m.pushes
    rw [pushes.waiting reached p.openPass, pushes.foreign_last reached p.openPass closed, waiting,
      List.append_nil]

theorem StrandRun.alone_runFor (below : List Frame) (live : List Nat) (n : Nat) {m : Machine}
    (busy : ∀ i < n, (m.runFor i).stack ≠ [])
    (above : ∀ i < n, below <:+ (m.runFor i).stack.tail)
    (handles : ∀ i < n, ∀ handle ∈ live, ((m.runFor i).world.handle? handle).isSome = true) :
    ∃ es, StrandRun 0 below live m.alone n es (m.runFor n).alone := by
  induction n generalizing m with
  | zero => exact ⟨[], .rest _⟩
  | succ n ih =>
    obtain ⟨f, rest, stack⟩ := List.exists_cons_of_ne_nil (busy 0 (Nat.succ_pos n))
    have top : m.stack = f :: rest := stack
    have next (i : Nat) : m.runFor (i + 1) = m.step.runFor i := by simp only [Machine.runFor, top]
    obtain ⟨es, later⟩ := ih (m := m.step) (fun i bound => next i ▸ busy (i + 1) (by omega))
      (fun i bound => next i ▸ above (i + 1) (by omega))
      fun i bound => next i ▸ handles (i + 1) (by omega)
    obtain ⟨up, split⟩ := above 0 (Nat.succ_pos n)
    have tail : up ++ below = rest := split.trans (congrArg List.tail stack)
    have lives : ∀ handle ∈ live, ∃ g, m.world.handle? handle = some g := fun handle mem =>
      Option.isSome_iff_exists.mp (handles 0 (Nat.succ_pos n) handle mem)
    have first : StrandRun 0 below live ⟨m.world, [] ++ m.strand :: []⟩ (n + 1)
        ((m.strand.writes m.world).reverse ++ es) (m.step.runFor n).alone :=
      .own rfl (top.trans (congrArg _ tail.symm)) lives later
    rw [next]
    exact ⟨_, first⟩

def Script.sampleTree : Script :=
  .nest (.push 0 none) (.act (.note "inner") .done)
    (.nest .catching (.nest (.push 0 none) (.act (.raise "lost") .done) .done)
      (.nest .spawn (.nest (.push 0 none) .done .done) .done))

theorem Script.tree_sampleTree : Tree [0] .sampleTree := by
  have mem : 0 ∈ [0] := List.mem_cons_self
  exact .push none mem (.note "inner" .done) (.catching (.push none mem (.raise "lost" .done) .done)
    (.spawn (.push none mem .done .done) .done))

def Machine.sampleTree : Machine :=
  let pushed := (Request.push none .sampleTree).carryOut Machine.sample.world 0
  Request.render.begin pushed.world 0

theorem reachable_sampleTree : Reachable .standard Machine.sampleTree.alone := by
  have pushed := reachable_sample.alone_carryOut rfl (.push none .sampleTree) 0
  exact pushed.alone_begin (by decide) .render 0

theorem pushes_run_inline_inside_pass_sample :
    Reachable .standard Machine.sampleTree.alone ∧
      ∃ later es calls,
        Passing Machine.sampleTree.alone 0 ((Machine.sampleTree.step.runFor 16).alone :: later) ∧
        Told 0 0 .sampleTree es none ∧
        PassPushes Machine.sampleTree.alone 0 ((Machine.sampleTree.step.runFor 16).alone :: later) calls ∧
        calls.map Runnable.ticket = [4] := by
  have begins : Passing Machine.sampleTree.alone 0 [Machine.sampleTree.step.alone] :=
    .begins (.turn [] _ [] .step) (by decide) (by decide)
  have called := begins.goes (.turn [] _ [] .step) (y := (Machine.sampleTree.step.runFor 1).alone)
    (by decide)
  let base : List Frame := [.running 0, .batch 0 1 [] 1, .pass 0 false .target]
  obtain ⟨es, strandRun⟩ := StrandRun.alone_runFor base [0] 15 (m := Machine.sampleTree.step.runFor 1)
    (by decide) (by decide) (by decide)
  obtain ⟨_, _, trees, _⟩ := pushes_run_inline_inside_pass reachable_sampleTree called
  obtain ⟨_, ⟨later, goes, _⟩, τ, left, here, stack, told⟩ :=
    trees 0 [0] .sampleTree .nothing base false .target 15 es _ (by decide) (by decide)
      Script.tree_sampleTree strandRun
  obtain ⟨_, _, _, ⟨calls, joined⟩, waits⟩ := pushes_run_inline_inside_pass reachable_sampleTree goes
  have stack' : left ++ base = base := stack.symm.trans
    (congrArg Strand.stack (Option.some.inj here).symm)
  have done := told (List.append_left_eq_self.mp stack')
  have calm : τ.fault = none := by rw [← Option.some.inj here]; rfl
  refine ⟨reachable_sampleTree, later, es, calls, goes, calm ▸ done, joined, ?_⟩
  have waiting := (waits calls joined).1
  rw [← waiting]
  rfl

end FrameHost
