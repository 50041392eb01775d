import FrameHost.Proofs.RunnableStates
import FrameHost.Proofs.HostFrames
import FrameHost.Proofs.Transparency

/-!
The calls pushed to the graphics thread in a frame of a platform before its pass. The gate is closed until
the pass begins, so every such call waits, also when the graphics thread pushes it.
-/
namespace FrameHost

inductive System.Redraws (thread : Nat) : System → System → Prop where
  | redraws {w : World} (before : List Strand) (σ : Strand) (after : List Strand) {h : Host} {p : Platform}
      (idle : σ.stack = []) (free : ∀ f ∈ framesOf (before ++ after), f.holdsHost = false)
      (hosted : w.host = some h) (platform : h.platform = some p) :
      Redraws thread ⟨w, before ++ σ :: after⟩
        ⟨((Request.event .redraw).begin w thread).world,
          before ++ ((Request.event .redraw).begin w thread).strand :: after⟩

def Strand.inFrame (σ : Strand) : Bool := decide (.frameEnd ∈ σ.stack)

/-- A move with the call it pushes to the graphics thread, and whether the strand of a frame pushes it. -/
inductive MovePushing : System → System → Option (Bool × Runnable) → Prop where
  | step {w : World} (before : List Strand) (σ : Strand) (after : List Strand) :
      MovePushing ⟨w, before ++ σ :: after⟩ ⟨(σ.on w).step.world, before ++ (σ.on w).step.strand :: after⟩
        ((σ.push? w).map fun (_, call) => (σ.inFrame, call))
  | begin {w : World} (before : List Strand) (σ : Strand) (after : List Strand) (r : Request) (thread : Nat)
      (idle : σ.stack = [])
      (free : r.needsHost = true → ∀ f ∈ framesOf (before ++ after), f.holdsHost = false) :
      MovePushing ⟨w, before ++ σ :: after⟩
        ⟨(r.begin w thread).world, before ++ (r.begin w thread).strand :: after⟩
        ((r.push? w thread).map fun (_, call) => (false, call))

/-- The moments of a frame before its pass, latest first, and the calls pushed since the frame began in push
order, each marked by whether the strand of the frame pushed it. -/
inductive FrameCalls (s : System) (thread : Nat) : List System → List (Bool × Runnable) → Prop where
  | begins {x : System} (r : s.Redraws thread x) : FrameCalls s thread [x] []
  | goes {x y : System} {earlier : List System} {calls : List (Bool × Runnable)}
      {push : Option (Bool × Runnable)} (g : FrameCalls s thread (x :: earlier) calls)
      (m : MovePushing x y push)
      (inFrame : .frameEnd ∈ y.frames) (closed : openPass y.world.journal = none) :
      FrameCalls s thread (y :: x :: earlier) (calls ++ push.toList)

section
variable {s t : System} {push : Option (Bool × Runnable)} {thread : Nat}

theorem MovePushing.move (m : MovePushing s t push) : Move s t := by
  cases m with
  | step before σ after => exact .turn before σ after .step
  | begin before σ after r thread idle free => exact .turn before σ after (.begin r thread idle free)

theorem Move.movePushing (m : Move s t) : ∃ push, MovePushing s t push := by
  cases m with
  | turn before σ after turn =>
    cases turn with
    | step => exact ⟨_, .step before σ after⟩
    | begin r thread idle free => exact ⟨_, .begin before σ after r thread idle free⟩

theorem Request.begin_redraw {w : World} {h : Host} {p : Platform} (hosted : w.host = some h)
    (platform : h.platform = some p) (thread : Nat) :
    (Request.event .redraw).begin w thread = w.round thread [.enter thread, .frameEnd] := by
  simp only [Request.begin, Request.ofHost, hosted, platform]
  rfl

theorem System.Redraws.move (r : s.Redraws thread t) : Move s t := by
  cases r with
  | redraws before σ after idle free => exact .turn before σ after (.begin _ thread idle fun _ => free)

theorem System.Redraws.round (r : s.Redraws thread t) :
    t.world = (s.world.round thread [.enter thread, .frameEnd]).world ∧
      ⟨none, .nothing, [.round thread s.world.tickets (s.world.waiting .mainThread).length 0,
        .enter thread, .frameEnd]⟩ ∈ t.strands := by
  cases r with
  | redraws before σ after idle free hosted platform =>
    rw [Request.begin_redraw hosted platform]
    exact ⟨rfl, List.mem_append_right _ List.mem_cons_self⟩

end

section
variable {b : AdapterOptions} {s x y : System} {thread : Nat} {push : Option (Bool × Runnable)}

theorem Reachable.closed_of_enter (h : Reachable b s) (mem : .enter thread ∈ s.frames) :
    openPass s.world.journal = none := by
  cases opened : openPass s.world.journal with
  | none => rfl
  | some other => exact absurd rfl (h.enterless opened mem thread)

theorem System.Redraws.enter_mem (r : s.Redraws thread x) : .enter thread ∈ x.frames :=
  List.mem_flatMap.mpr ⟨_, r.round.2, by simp⟩

theorem World.enterPass_cases {w : World} {g : Graphics} (shared : w.graphics = some g) (thread : Nat) :
    openPass (w.enterPass thread).world.journal = some thread ∧
      (∃ f saved, (w.enterPass thread).stack = [f, .pass thread saved .target]) ∨
      w.enterPass thread = .failing w .offGraphicsThread [] := by
  cases owned : (g.affinity.bind thread).isCurrent thread with
  | true =>
    obtain ⟨opens, activation, stack⟩ := w.enterPass_opens thread shared owned
    exact .inl ⟨opens.openPass, _, _, stack⟩
  | false =>
    right
    simp only [World.enterPass, shared, owned, Bool.false_eq_true, if_false]

theorem Frame.waiting_closed {w : World} (hosted : w.host.isSome = true)
    (gate : ∀ g, w.graphics = some g → g.gate.allowed = false) {f : Frame} {answer : Answer}
    (still : ∀ k, f = .enter k → (w.enterPass k).world = w) :
    (f.advance w answer).world.waiting .graphics
      = w.waiting .graphics ++ ((f.push? w).map fun (_, p) => p.call).toList := by
  cases pushing : f.push? w with
  | none =>
    rw [Option.map_none, Option.toList_none, List.append_nil]
    by_cases enters : ∃ k, f = .enter k
    · obtain ⟨k, rfl⟩ := enters
      exact congrArg (World.waiting · .graphics) (still k rfl)
    · exact Frame.waiting_advance hosted pushing (not_exists.mp enters) answer
  | some found =>
    obtain ⟨pusher, p⟩ := found
    obtain ⟨g, here, shared, posts⟩ := Frame.push?_post pushing answer
    have shut : g.allows pusher = false := by simp [Graphics.allows, gate g shared]
    have before : p.world.waiting .graphics = w.waiting .graphics := by
      rw [World.waiting, World.waiting, here, shared]
    rw [posts, World.waiting_post (w := p.world.ticketed) here shut, ← before]
    rfl

theorem MovePushing.waiting (m : MovePushing x y push) (h : Reachable b x) (inFrame : .frameEnd ∈ x.frames)
    (closed : openPass x.world.journal = none) (still : openPass y.world.journal = none) :
    y.world.waiting .graphics = x.world.waiting .graphics ++ (push.map Prod.snd).toList := by
  have hosted : x.world.host.isSome = true := h.gated.hosted .frameEnd inFrame rfl
  have gate : ∀ g, x.world.graphics = some g → g.gate.allowed = false := by
    intro g shared
    rw [h.gated.gate g shared, closed]
    rfl
  cases m with
  | @step w before σ after =>
    obtain ⟨fault, answer, stack⟩ := σ
    cases stack with
    | nil => cases fault <;> simp [Strand.push?, Strand.on, Machine.step]
    | cons f below =>
      cases fault with
      | some raised =>
        simp only [Strand.push?, Option.map_none, Option.toList_none, List.append_nil]
        exact f.waiting_unwind raised
      | none =>
        have waits : (f.advance w answer).world.waiting .graphics
            = w.waiting .graphics ++ ((f.push? w).map fun (_, p) => p.call).toList := by
          refine Frame.waiting_closed hosted gate fun k enters => ?_
          subst enters
          obtain ⟨g, shared⟩ := Option.isSome_iff_exists.mp (h.gated.shared hosted)
          rcases World.enterPass_cases shared k with ⟨opens, _⟩ | refused
          · rw [show openPass (w.enterPass k).world.journal = none from still] at opens
            cases opens
          · rw [refused]
            rfl
        simp only [Strand.push?, Option.map_map]
        exact waits
  | @begin w before σ after r pusher idle free =>
    have other : .frameEnd ∈ framesOf (before ++ after) := by
      have swapped := (frames_swap before after σ).mem_iff.mp inFrame
      simpa [idle] using swapped
    have hostless : r.needsHost = false := by
      cases needs : r.needsHost with
      | false => rfl
      | true => cases free needs _ other
    have none : r.push? w pusher = .none := by cases r <;> first | rfl | cases hostless
    rw [none]
    exact (r.waiting_begin hosted pusher hostless).trans (List.append_nil _).symm

theorem Reachable.unheld (h : Reachable b s) (closed : openPass s.world.journal = none) {k : Nat}
    (pushed : .submitted .graphics k ∈ s.world.journal) {f : Frame} (mem : f ∈ s.frames) : f.held k = 0 := by
  obtain ⟨σ, hσ, inStack⟩ := List.mem_flatMap.mp mem
  obtain ⟨up, below, stack⟩ := List.append_of_mem inStack
  have stacked := (h.orderly σ hσ).stacked
  rw [stack] at stacked
  cases f with
  | batch owner activation rest count =>
    obtain ⟨based, rests⟩ := stacked.drop.1
    apply List.countP_eq_zero.mpr
    intro r hr same
    have line : lineUnder below = .graphics := by
      have filed := rests.filed r hr
      rw [beq_iff_eq.mp same] at filed
      exact h.ledger.line_unique filed pushed
    cases below with
    | nil => cases line
    | cons g below =>
      cases g with
      | pass other saved phase =>
        have inside : s.InPass other := ⟨saved, phase, List.mem_flatMap.mpr ⟨σ, hσ, by simp [stack]⟩⟩
        rw [(h.inPass_iff other).mp inside] at closed
        cases closed
      | _ => cases line
  | _ => rfl

theorem heldBy_none {fs : List Frame} {k : Nat} (none : ∀ f ∈ fs, f.held k = 0) : heldBy k fs = 0 := by
  induction fs with
  | nil => rfl
  | cons f fs ih =>
    obtain ⟨first, rest⟩ := List.forall_mem_cons.mp none
    rw [heldBy_cons, first, ih rest]

theorem Reachable.starts_what_waits {u : System} (h : Reachable b s) (later : Reachable b u)
    (closed : openPass s.world.journal = none) {new : List Event}
    (journal : u.world.journal = new ++ s.world.journal) {k pusher : Nat}
    (pushed : .submitted .graphics k ∈ s.world.journal) (started : .started k pusher ∈ new) :
    k ∈ (s.world.waiting .graphics).map Runnable.ticket := by
  have grown (p : Event → Bool) : u.world.tally p = new.countP p + s.world.tally p := by
    rw [World.tally, journal, List.countP_append]
    rfl
  have starts := grown (Event.starts k)
  have destroys := grown (Event.destroys k)
  have one : 1 ≤ new.countP (Event.starts k) :=
    List.countP_pos_iff.mpr ⟨_, started, by simp [Event.starts]⟩
  have before := h.ledger.one_condition pushed
  have after := later.ledger.one_condition (journal ▸ List.mem_append_right new pushed)
  have held : heldBy k s.frames = 0 := heldBy_none fun f mem => h.unheld closed pushed mem
  obtain ⟨r, hr, same⟩ := List.countP_pos_iff.mp
    (show 0 < copies k (s.world.waiting .graphics) by omega)
  exact List.mem_map.mpr ⟨r, hr, beq_iff_eq.mp same⟩

theorem Reachable.unstarted_waiting (h : Reachable b s) {r : Runnable} (hr : r ∈ s.world.waiting .graphics)
    (pusher : Nat) : .started r.ticket pusher ∉ s.world.journal := by
  intro started
  have starts : 1 ≤ s.world.tally (Event.starts r.ticket) :=
    List.countP_pos_iff.mpr ⟨_, started, by simp [Event.starts]⟩
  have waits := one_le_copies hr
  have condition := h.ledger.one_condition (h.ledger.filed .graphics r hr)
  omega

theorem FrameCalls.latest {earlier : List System} {calls : List (Bool × Runnable)}
    (g : FrameCalls s thread (x :: earlier) calls) (h : Reachable b s) : Reachable b x := by
  generalize same : x :: earlier = moments at g
  induction g generalizing x earlier with
  | begins r =>
    cases same
    exact h.move r.move
  | goes g m inFrame closed ih =>
    cases same
    exact (ih rfl).move m.move

/-- The queue holds the calls that waited when the frame began, followed by the calls pushed since. -/
theorem FrameCalls.queue {earlier : List System} {calls : List (Bool × Runnable)}
    (g : FrameCalls s thread (x :: earlier) calls) (h : Reachable b s) :
    .frameEnd ∈ x.frames ∧ openPass x.world.journal = none ∧
      x.world.waiting .graphics = s.world.waiting .graphics ++ calls.map Prod.snd := by
  generalize same : x :: earlier = moments at g
  induction g generalizing x earlier with
  | begins r =>
    cases same
    refine ⟨List.mem_flatMap.mpr ⟨_, r.round.2, by simp⟩, (h.move r.move).closed_of_enter r.enter_mem, ?_⟩
    rw [r.round.1, List.map_nil, List.append_nil]
    rfl
  | @goes x y earlier calls push g m inFrame closed ih =>
    cases same
    obtain ⟨before, shut, queue⟩ := ih rfl
    refine ⟨inFrame, closed, ?_⟩
    rw [m.waiting (g.latest h) before shut closed, queue, List.map_append, List.append_assoc]
    cases push <;> rfl

end

end FrameHost
