import FrameHost.Proofs.AbortedReload
import FrameHost.Proofs.GraphicsThread

/-!
The origin of panics. The assertions on the gate and on window sizes hold in every reachable system; a fault
that unwinds a pass was raised by a script above it, or by an attempt on a thread that does not own the
context.
-/
namespace FrameHost

def Fault.isAssertion : Fault → Bool
  | gateClosed _ | zeroWindow | zeroDebounce => true
  | _ => false

inductive Frame.Raises (w : World) : Frame → Fault → Prop where
  | script (thread : Nat) (message : String) (next : Script) :
      Raises w (.script thread (.act (.raise message) next)) (.raised message)
  | turnedDown {g : Graphics} (thread : Nat) (shared : w.graphics = some g)
      (other : (g.affinity.bind thread).isCurrent thread = false) :
      Raises w (.enter thread) .offGraphicsThread

/-- The next turn of a strand raises a panic in a script above the pass of `thread`. -/
inductive System.Throws (thread : Nat) (message : String) : System → System → Prop where
  | throws {w : World} (before : List Strand) (σ : Strand) (after : List Strand) {t : Nat} {next : Script}
      {up below : List Frame} {saved : Bool} {phase : Phase}
      (stack : σ.stack = .script t (.act (.raise message) next) :: (up ++ .pass thread saved phase :: below))
      (calm : σ.fault = none) :
      Throws thread message ⟨w, before ++ σ :: after⟩
        ⟨(σ.on w).step.world, before ++ (σ.on w).step.strand :: after⟩

/-- Between two of these moments, latest first, a script above the pass raised the panic. -/
def Thrown (thread : Nat) (message : String) (moments : List System) : Prop :=
  ∃ later y x earlier, moments = later ++ y :: x :: earlier ∧ x.Throws thread message y

theorem Thrown.later {thread : Nat} {message : String} {moments : List System}
    (h : Thrown thread message moments) (y : System) : Thrown thread message (y :: moments) := by
  obtain ⟨later, z, x, earlier, rfl, throws⟩ := h
  exact ⟨y :: later, z, x, earlier, rfl, throws⟩

namespace World

variable (w : World) (thread : Nat)

theorem post_calm (g : Graphics) (r : Runnable) (below : List Frame) :
    (w.post g thread r below).fault = none := by
  unfold post
  dsimp only
  split <;> rfl

theorem nextCall_calm (activation count : Nat) (rest : List Runnable) :
    (w.nextCall thread activation count rest).fault = none := by
  cases rest <;> rfl

theorem nextMain_calm (activation queued ran : Nat) :
    (w.nextMain thread activation queued ran).fault = none := by
  unfold nextMain
  split <;> rfl

theorem present_calm (saved : Bool) : (w.present saved).fault = none := by
  unfold present
  split <;> rfl

theorem endFrame_calm (answer : Answer) : (w.endFrame answer).fault = none := by
  unfold endFrame
  dsimp only
  split <;> rfl

variable {w}

theorem draw_calm (gate : w.GateOpen) (saved : Bool) : (w.draw thread saved).fault = none := by
  simp only [draw, gate.check]
  rfl

theorem load_calm (gate : w.GateOpen) (saved : Bool) (r : Reload) :
    (w.load thread saved r).fault = none := by
  simp only [load, gate.check]
  rfl

theorem refresh_calm (gate : w.GateOpen) (saved : Bool) (a : Adapter) :
    (w.refresh thread saved a).fault = none := by
  have still : GateOpen ((w.setAdapter (a.update w.renderer.resolution).2).recordAll
      ((a.update w.renderer.resolution).1.records.map .log)) := by
    obtain ⟨j, eq⟩ := (w.setAdapter (a.update w.renderer.resolution).2).recordAll_eq
      ((a.update w.renderer.resolution).1.records.map .log)
    rw [eq]
    exact gate
  unfold refresh
  dsimp only
  split
  · exact draw_calm thread still saved
  · exact load_calm thread still saved _

theorem readTarget_calm (gate : w.GateOpen) (saved : Bool) : (w.readTarget thread saved).fault = none := by
  have still : (w.record (.targetRead w.renderer.hasTarget)).GateOpen := gate
  unfold readTarget
  dsimp only
  split
  · exact refresh_calm thread still saved _
  · rfl

theorem finishLoad_calm (gate : w.GateOpen) (saved : Bool) (settings : Settings) :
    (w.finishLoad thread saved settings).fault = none := by
  unfold finishLoad
  split
  · rename_i h hosted
    have still : (w.setAdapter (h.adapter.loaded settings)).GateOpen := gate
    exact draw_calm thread still saved
  · exact draw_calm thread gate saved

end World

section
variable {w : World} {fault : Fault}

theorem Op.raises (op : Op) {thread : Nat} {next : Script}
    (h : (op.perform w thread next).fault = some fault) :
    Frame.Raises w (.script thread (.act op next)) fault := by
  have calm {m : Machine} (faultless : m.fault = none) (h : m.fault = some fault) :
      Frame.Raises w (.script thread (.act op next)) fault := by
    rw [faultless] at h
    cases h
  cases op with
  | raise message =>
    cases h
    exact .script thread message next
  | chain count handle =>
    unfold perform at h
    dsimp only at h
    split at h
    · exact calm (World.post_calm _ _ _ _ _) h
    · cases h
  | runMain =>
    unfold perform at h
    dsimp only at h
    split at h <;> cases h
  | drainQueue =>
    unfold perform at h
    dsimp only at h
    split at h <;> cases h
  | _ => cases h

theorem Nest.calm (kind : Nest) (thread : Nat) (body next : Script) :
    (kind.perform w thread body next).fault = none := by
  cases kind with
  | times count => cases count <;> rfl
  | push handle label =>
    unfold perform
    dsimp only
    split
    · rfl
    · exact World.post_calm _ _ _ _ _
  | enqueue label =>
    unfold perform
    dsimp only
    split <;> rfl
  | _ => rfl

theorem Frame.advance_raises {f : Frame} {answer : Answer}
    (gate : ∀ thread saved phase, f = .pass thread saved phase → w.GateOpen)
    (h : (f.advance w answer).fault = some fault) : f.Raises w fault := by
  have calm {m : Machine} (faultless : m.fault = none) (h : m.fault = some fault) : f.Raises w fault := by
    rw [faultless] at h
    cases h
  cases f with
  | script thread rest =>
    cases rest with
    | done => cases h
    | act op next => exact op.raises h
    | nest kind body next => exact calm (kind.calm thread body next) h
  | batch thread activation rest count => exact calm (w.nextCall_calm thread activation count rest) h
  | drained => cases answer <;> cases h
  | round thread activation queued ran => exact calm (w.nextMain_calm thread activation queued ran) h
  | ranMain => cases answer <;> cases h
  | enter thread =>
    cases shared : w.graphics with
    | none =>
      simp only [advance, World.enterPass, shared] at h
      cases h
    | some g =>
      cases owned : (g.affinity.bind thread).isCurrent thread with
      | true =>
        simp only [advance, w.enterPass_eq thread shared owned] at h
        cases h
      | false =>
        simp only [advance, World.enterPass, shared, owned, Bool.false_eq_true, if_false] at h
        cases h
        exact .turnedDown thread shared owned
  | pass thread saved phase =>
    have isOpen := gate thread saved phase rfl
    cases phase with
    | target => exact calm (World.readTarget_calm thread isOpen saved) h
    | loaded settings => exact calm (World.finishLoad_calm thread isOpen saved settings) h
    | presenting => exact calm (w.present_calm saved) h
  | frameEnd => exact calm (w.endFrame_calm answer) h
  | _ => cases h

theorem Frame.unwind_raises {f : Frame} {raised : Fault} (h : (f.unwind w raised).fault = some fault) :
    raised = fault ∧ (f.unwind w raised).stack = [] := by
  cases f <;> cases h <;> exact ⟨rfl, rfl⟩

theorem World.ask_proceeds {v : World} (h : Host) (r : AdapterRequest) : ∃ u, v.ask h r = .proceed u [] := by
  obtain ⟨resize, asked⟩ := h.adapter.request_ok r
  simp only [ask, asked]
  exact ⟨_, rfl⟩

theorem AdapterRequest.begin_proceeds (r : AdapterRequest) (w : World) (thread : Nat) :
    ∃ v, (Request.adapter r).begin w thread = .proceed v [] := by
  unfold Request.begin Request.ofHost
  dsimp only
  split
  · exact ⟨_, rfl⟩
  · exact World.ask_proceeds _ r

theorem Request.begin_raises {r : Request} {thread : Nat} (h : (r.begin w thread).fault = some fault) :
    fault = .invalidScale ∧ (r.begin w thread).stack = [] := by
  have calm {m : Machine} (faultless : m.fault = none) (h : m.fault = some fault) :
      fault = .invalidScale ∧ m.stack = [] := by
    rw [faultless] at h
    cases h
  have toHost {f : Host → Machine} (h : (ofHost w f).fault = some fault)
      (served : ∀ k, (f k).fault = some fault → fault = .invalidScale ∧ (f k).stack = []) :
      fault = .invalidScale ∧ (ofHost w f).stack = [] := by
    unfold ofHost at h ⊢
    split at h
    · cases h
    · exact served _ h
  cases r with
  | act body => cases h
  | push label body =>
    refine toHost h fun k h => ?_
    cases shared : w.graphics with
    | none =>
      simp only [shared] at h
      cases h
    | some g =>
      simp only [shared] at h ⊢
      exact calm (World.post_calm _ _ _ _ _) h
  | adapter r =>
    refine toHost h fun k h => ?_
    obtain ⟨v, asked⟩ := World.ask_proceeds (v := w) k r
    rw [asked] at h
    cases h
  | runMain =>
    unfold begin at h
    dsimp only at h
    split at h <;> cases h
  | title text =>
    refine toHost h fun k h => ?_
    split at h <;> cases h
  | event e =>
    refine toHost h fun k h => ?_
    cases isPlatform : k.platform with
    | none =>
      simp only [isPlatform] at h
      cases h
    | some p =>
      simp only [isPlatform] at h ⊢
      cases e with
      | resumed =>
        simp only [World.handle, World.resume] at h ⊢
        split at h
        · cases h
        · rename_i windowless
          split at h
          · cases h
          · split at h
            · cases h
            · rename_i invalid
              cases h
              refine ⟨rfl, ?_⟩
              simp [windowless, invalid, Machine.failing]
      | aboutToWait =>
        simp only [World.handle] at h
        split at h <;> cases h
      | resized width height =>
        obtain ⟨v, asked⟩ := World.ask_proceeds (v := w.log (.windowResized width height)) k
          (.resize width height)
        simp only [World.handle, asked] at h
        cases h
      | _ => cases h
  | dispatch | render | fullscreen | cursor | terminate | attach =>
    refine toHost h fun k h => ?_
    cases h
  | newHandle | dropHandle | dropReceiver | dropHost | userFullscreen | scale | failNextWindow => cases h

end

section
variable {b : AdapterOptions} {s x y : System} {thread : Nat}

/-- The gate assertions hold whenever a pass is under way. -/
theorem Reachable.gate_holds (h : Reachable b s) {saved : Bool} {phase : Phase}
    (mem : .pass thread saved phase ∈ s.frames) : s.world.GateOpen :=
  h.gated.gateOpen mem

theorem System.mem_frames {σ : Strand} {f : Frame} (mem : σ ∈ s.strands) (top : f ∈ σ.stack) : f ∈ s.frames :=
  List.mem_flatMap.mpr ⟨σ, mem, top⟩

theorem Strand.step_raises {σ : Strand} {w : World} {fault : Fault}
    (gate : ∀ thread saved phase, .pass thread saved phase ∈ σ.stack → w.GateOpen)
    (raised : (σ.on w).step.fault = some fault) :
    σ.stack = [] ∧ (σ.on w).step.stack = [] ∨
      ∃ f, σ.stack = f :: (σ.on w).step.stack ∧ (σ.fault = some fault ∨ σ.fault = none ∧ f.Raises w fault) := by
  obtain ⟨before, answer, stack⟩ := σ
  cases stack with
  | nil => exact .inl ⟨rfl, rfl⟩
  | cons f below =>
    refine .inr ⟨f, ?_⟩
    cases before with
    | some already =>
      obtain ⟨rfl, gone⟩ := Frame.unwind_raises (w := w) raised
      have left : (f.unwind w already).stack ++ below = below := by rw [gone, List.nil_append]
      exact ⟨congrArg (f :: ·) left.symm, .inl rfl⟩
    | none =>
      have raises : f.Raises w fault :=
        Frame.advance_raises (fun thread saved phase pass =>
        gate thread saved phase (pass ▸ List.mem_cons_self))
          raised
      refine ⟨congrArg (f :: ·) ?_, .inr ⟨rfl, raises⟩⟩
      cases raises with
      | script t message next => rfl
      | turnedDown t shared other =>
        change below = (w.enterPass t).stack ++ below
        simp only [World.enterPass, shared, other, Bool.false_eq_true, if_false]
        rfl

/-- The fault of a strand with frames left was raised by a script or by an attempt at a pass on a wrong
thread; the latter unwinds only the end of a frame. -/
theorem Reachable.faults (h : Reachable b s) : ∀ σ ∈ s.strands, ∀ fault, σ.fault = some fault →
    (∃ message, fault = .raised message) ∨
    fault = .offGraphicsThread ∧ (σ.stack = [] ∨ σ.stack = [.frameEnd]) ∨
    fault = .invalidScale ∧ σ.stack = [] := by
  induction h with
  | built strands bare h =>
    intro σ hσ fault raised
    rw [List.eq_of_mem_replicate hσ] at raised
    cases raised
  | @move s t reached m ih =>
    cases m with
    | @turn w m before σ after h =>
      have mine : σ ∈ before ++ σ :: after := by simp
      intro τ hτ fault raised
      have place : τ = m.strand ∨ τ ∈ before ++ σ :: after := by
        simp only [List.mem_append, List.mem_cons] at hτ ⊢
        tauto
      rcases place with rfl | old
      · cases h with
        | begin r thread idle free => exact .inr (.inr (Request.begin_raises raised))
        | step =>
          have gate (thread : Nat) (saved : Bool) (phase : Phase) (pass : .pass thread saved phase ∈ σ.stack) :
              w.GateOpen := reached.gate_holds (System.mem_frames mine pass)
          change (σ.on w).step.fault = some fault at raised
          change _ ∨ _ ∧ ((σ.on w).step.stack = [] ∨ (σ.on w).step.stack = [.frameEnd]) ∨
            _ ∧ (σ.on w).step.stack = []
          rcases Strand.step_raises gate raised with ⟨rest, still⟩ | ⟨f, stack, already | ⟨_, raises⟩⟩
          · rw [still]
            have held : σ.fault = some fault := by
              simpa only [Strand.on, Machine.step, rest] using raised
            have kept := ih σ mine fault held
            rwa [rest] at kept
          · rcases ih σ mine fault already with script | ⟨off, empty | last⟩ | ⟨_, empty⟩
            · exact .inl script
            · simp [empty] at stack
            · rw [last] at stack
              exact .inr (.inl ⟨off, .inl (List.cons.inj stack).2.symm⟩)
            · simp [empty] at stack
          · cases raises with
            | script t message next => exact .inl ⟨message, rfl⟩
            | turnedDown t shared other =>
              -- The frames left by a rejected attempt are those below it.
              have stacked := reached.hostStack σ mine
              rw [stack] at stacked
              exact .inr (.inl ⟨rfl, stacked⟩)
      · exact ih τ old fault raised

theorem Reachable.tries_raise (h : Reachable b s) {σ : Strand} (hσ : σ ∈ s.strands) {below : List Frame}
    (stack : σ.stack = .enter thread :: below) (calm : σ.fault = none) :
    ((σ.on s.world).step.fault = none ∧ captured (σ.on s.world).step.world.journal = some thread) ∨
    ((σ.on s.world).step = .failing s.world .offGraphicsThread below ∧
      ∃ first, captured s.world.journal = some first ∧ first ≠ thread) := by
  obtain ⟨before, after, split⟩ := List.append_of_mem hσ
  have frames := frames_swap before after σ
  rw [← split, stack] at frames
  have gated := h.gated.perm frames
  rw [System.Tries.step stack calm]
  by_cases mine : ∀ first, captured s.world.journal = some first → first = thread
  · obtain ⟨g, shared⟩ := Option.isSome_iff_exists.mp
      (gated.shared (gated.hosted (.enter thread) List.mem_cons_self rfl))
    have owned : (g.affinity.bind thread).isCurrent thread = true := by
      rw [Affinity.isCurrent, Affinity.bind_owner, gated.owner g shared]
      cases first : captured s.world.journal with
      | none => simp
      | some t => simp [mine t first]
    refine .inl ⟨by rw [s.world.enterPass_eq thread shared owned]; rfl, ?_⟩
    change captured (s.world.enterPass thread).world.journal = some thread
    rw [gated.admits mine]
    cases first : captured s.world.journal with
    | none => rfl
    | some t => rw [mine t first, Option.some_or]
  · obtain ⟨first, owner, other⟩ : ∃ first, captured s.world.journal = some first ∧ first ≠ thread := by
      simpa using mine
    refine .inr ⟨?_, first, owner, other⟩
    rw [gated.refuses owner other]
    rfl

theorem Move.begins_calm (m : Move s x) (h : Reachable b s) (closed : openPass s.world.journal = none)
    (opened : openPass x.world.journal = some thread) {σ : Strand} (hσ : σ ∈ x.strands)
    {up below : List Frame} {saved : Bool} {phase : Phase}
    (stack : σ.stack = up ++ .pass thread saved phase :: below) : σ.fault = none := by
  have single := (h.move m).gated.single
  obtain ⟨ρ, popped, rest, others, n, act⟩ := m.act
  rw [act.world] at opened
  obtain ⟨rfl, g, shared, owned⟩ := act.effect.gateMove.entered closed opened
  rcases act.effect.aside_or_host with ⟨aside, _⟩ | d
  · rw [(World.KeepsGate.of_aside aside).openPass, closed] at opened
    cases opened
  · cases d with
    | enter =>
      rcases (act.new σ).mp hσ with rfl | other
      · rw [s.world.enterPass_eq thread shared owned]
        rfl
      · -- The pass that begins is the only one.
        have mine : 1 ≤ ((s.world.enterPass thread).stack ++ rest).countP Frame.isPass := by
          rw [s.world.enterPass_eq thread shared owned]
          exact List.countP_pos_iff.mpr ⟨.pass thread g.gate.allowed .target,
            by simp [World.drain, Machine.proceed], rfl⟩
        have none := act.others_passless single mine other (p := .pass thread saved phase) (by simp [stack])
        cases none

theorem Passing.thrown {moments : List System} (p : Passing s thread (x :: moments)) (h : Reachable b s) :
    ∀ σ ∈ x.strands, ∀ up saved phase below, σ.stack = up ++ .pass thread saved phase :: below →
      ∀ fault, σ.fault = some fault →
        ∃ message, fault = .raised message ∧ Thrown thread message (x :: moments) := by
  generalize same : x :: moments = run at p
  induction p generalizing x moments with
  | begins m closed opened =>
    cases same
    intro σ hσ up saved phase below stack fault raised
    rw [m.begins_calm h closed opened hσ stack] at raised
    cases raised
  | @goes x' y before p m opened ih =>
    cases same
    have reached := p.latest h
    intro τ hτ up saved phase below stack fault raised
    have earlier (σ : Strand) (hσ : σ ∈ x'.strands) (up : List Frame)
        (stack : σ.stack = up ++ .pass thread saved phase :: below) (held : σ.fault = some fault) :
        ∃ message, fault = .raised message ∧ Thrown thread message (y :: x' :: before) := by
      obtain ⟨message, is, thrown⟩ := ih rfl σ hσ up saved phase below stack fault held
      exact ⟨message, is, thrown.later y⟩
    cases m with
    | @turn w m left σ right h =>
      have place : τ = m.strand ∨ τ ∈ left ++ σ :: right := by
        simp only [List.mem_append, List.mem_cons] at hτ ⊢
        tauto
      have mine : σ ∈ left ++ σ :: right := by simp
      rcases place with rfl | old
      · cases h with
        | begin r t idle free =>
          obtain ⟨_, empty⟩ := Request.begin_raises raised
          have none : (r.begin w t).stack = up ++ .pass thread saved phase :: below := stack
          simp [empty] at none
        | step =>
          have gate (t : Nat) (s : Bool) (ph : Phase) (pass : .pass t s ph ∈ σ.stack) : w.GateOpen :=
            reached.gate_holds (System.mem_frames mine pass)
          change (σ.on w).step.stack = up ++ .pass thread saved phase :: below at stack
          rcases Strand.step_raises gate raised with ⟨_, still⟩ | ⟨f, top, already | ⟨calm, raises⟩⟩
          · simp [still] at stack
          · rw [stack] at top
            exact earlier σ mine (f :: up) top already
          · rw [stack] at top
            cases raises with
            | script t message next =>
              exact ⟨message, rfl, [], _, _, before, rfl, .throws left σ right top calm⟩
            | turnedDown t shared other =>
              -- A rejected attempt runs nothing, so it is not above another pass.
              have stacked := reached.hostStack σ mine
              rw [top] at stacked
              rcases stacked with empty | last
              · simp at empty
              · cases up <;> simp at last
      · exact earlier τ old up stack raised

end

theorem AdapterOptions.chosen_frames {changes : List OptionChange} {b : AdapterOptions}
    (chosen : changes.foldlM OptionChange.apply .standard = .ok b) : b.frames ≠ 0 := by
  have keeps (changes : List OptionChange) : ∀ a b : AdapterOptions, a.frames ≠ 0 →
      changes.foldlM OptionChange.apply a = .ok b → b.frames ≠ 0 := by
    induction changes with
    | nil =>
      rintro a b positive ⟨⟩
      exact positive
    | cons change changes ih =>
      intro a b positive chosen
      rw [List.foldlM_cons] at chosen
      cases change with
      | settings s => exact ih { a with settings := s } b positive chosen
      | frames n =>
        by_cases zero : n = 0
        · simp only [OptionChange.apply, AdapterOptions.withFrames, zero, if_true] at chosen
          cases chosen
        · simp only [OptionChange.apply, AdapterOptions.withFrames, zero, if_false] at chosen
          exact ih { a with frames := n } b zero chosen
  exact keeps changes .standard b (by decide) chosen

theorem World.build_succeeds {b : AdapterOptions} (positive : b.frames ≠ 0) (w : World) (kind : HostKind)
    (panel : Panel) : ∃ v, w.build kind panel b = .ok v := by
  simp only [build, Adapter.build, Debouncer.new, positive, if_false]
  exact ⟨_, rfl⟩

section
variable {b : AdapterOptions} {changes : List OptionChange}

/-- With options from a builder the host is built, and no assertion on a window size or on the gate fails.
Requests to the adapter do not panic. An attempt at a pass panics exactly on a thread other than the
graphics thread, and a pass that panics does so with a fault raised by a script above it. -/
theorem assertions_never_fail (chosen : changes.foldlM OptionChange.apply .standard = .ok b) :
    (∀ w kind panel, ∃ v, World.build w kind panel b = .ok v) ∧
    ∀ s, Reachable b s →
      (∀ h, s.world.host = some h → 1 ≤ h.adapter.resize.window) ∧
      (∀ σ ∈ s.strands, ∀ fault, σ.fault = some fault → fault.isAssertion = false) ∧
      (∀ thread saved phase, .pass thread saved phase ∈ s.frames → ∀ operation,
        s.world.checkGate operation = .ok ()) ∧
      (∀ r thread, ∃ v, (Request.adapter r).begin s.world thread = .proceed v []) ∧
      (∀ σ ∈ s.strands, ∀ thread below, σ.stack = .enter thread :: below → σ.fault = none →
        ((σ.on s.world).step.fault = none ∧ captured (σ.on s.world).step.world.journal = some thread) ∨
        ((σ.on s.world).step = .failing s.world .offGraphicsThread below ∧
          ∃ first, captured s.world.journal = some first ∧ first ≠ thread)) ∧
      ∀ thread x earlier, Passing s thread (x :: earlier) →
        ∀ σ ∈ x.strands, ∀ up saved phase below, σ.stack = up ++ .pass thread saved phase :: below →
          ∀ fault, σ.fault = some fault →
            ∃ message, fault = .raised message ∧ Thrown thread message (x :: earlier) := by
  refine ⟨World.build_succeeds (AdapterOptions.chosen_frames chosen), fun s h => ?_⟩
  refine ⟨?_, ?_, ?_, fun r thread => r.begin_proceeds s.world thread, ?_, fun thread x earlier p => p.thrown h⟩
  · intro k hosted
    rw [h.debouncerMatches.window k hosted]
    exact h.debouncerMatches.positive
  · intro σ hσ fault raised
    rcases h.faults σ hσ fault raised with ⟨message, rfl⟩ | ⟨rfl, _⟩ | ⟨rfl, _⟩ <;> rfl
  · intro thread saved phase mem operation
    exact (h.gate_holds mem).check operation
  · intro σ hσ thread below stack calm
    exact h.tries_raise hσ stack calm

end

theorem assertions_never_fail_sample :
    [OptionChange.frames 3].foldlM OptionChange.apply .standard = .ok .standard ∧
      Reachable .standard Machine.sampleBroken.alone ∧
      ∃ earlier, Passing Machine.sampleBroken.alone 0
          ((Machine.sampleBroken.step.runFor 3).alone :: earlier) ∧
        ∃ message, Thrown 0 message ((Machine.sampleBroken.step.runFor 3).alone :: earlier) ∧
          (Machine.sampleBroken.step.runFor 3).fault = some (.raised message) := by
  have chosen : [OptionChange.frames 3].foldlM OptionChange.apply .standard = .ok .standard := rfl
  obtain ⟨earlier, p⟩ := passing_sampleBroken
  obtain ⟨_, runs⟩ := assertions_never_fail chosen
  obtain ⟨_, _, _, _, _, throws⟩ := runs _ reachable_sampleBroken
  have stack : (Machine.sampleBroken.step.runFor 3).strand.stack
      = [] ++ .pass 0 false (.loaded ⟨.auto, 30, .ofNat 1⟩) :: [] := by decide
  obtain ⟨fault, raised⟩ : ∃ fault, (Machine.sampleBroken.step.runFor 3).strand.fault = some fault := by
    exact ⟨_, rfl⟩
  obtain ⟨message, rfl, thrown⟩ := throws 0 _ earlier p _ List.mem_cons_self _ _ _ _ stack fault raised
  exact ⟨chosen, reachable_sampleBroken, earlier, p, message, thrown, raised⟩

end FrameHost
