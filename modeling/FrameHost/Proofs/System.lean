import FrameHost.Host.Build
import FrameHost.Host.Request

/-!
A host used by any number of strands of control over one shared world. A strand carries out one request
after another, and the steps of the strands interleave arbitrarily. A request that needs the host starts
only while no other strand has it; scripts, handles and channels are not restricted. A strand may begin each
request on any thread number, which over-approximates real threads.
-/
namespace FrameHost

structure Strand where
  fault : Option Fault
  answer : Answer
  stack : List Frame
  deriving DecidableEq, Repr

def Strand.idle : Strand := ⟨none, .nothing, []⟩
def Strand.on (σ : Strand) (w : World) : Machine := ⟨w, σ.fault, σ.answer, σ.stack⟩
def Machine.strand (m : Machine) : Strand := ⟨m.fault, m.answer, m.stack⟩

/-- Whether the frame belongs to a request with exclusive access to the host. -/
def Frame.holdsHost : Frame → Bool
  | enter _ | pass .. | frameEnd => true
  | _ => false

def Request.needsHost : Request → Bool
  | act _ | runMain | newHandle | dropHandle _ | dropReceiver | userFullscreen .. | scale _ |
      failNextWindow _ =>
    false
  | _ => true

structure System where
  world : World
  strands : List Strand

def framesOf (strands : List Strand) : List Frame := strands.flatMap Strand.stack
def System.frames (s : System) : List Frame := framesOf s.strands

/-- One step of a strand, or the start of a request by an idle strand, while the other strands have the
frames `others`. -/
inductive Turn (w : World) (others : List Frame) (σ : Strand) : Machine → Prop where
  | step : Turn w others σ (σ.on w).step
  | begin (r : Request) (thread : Nat) (idle : σ.stack = [])
      (free : r.needsHost = true → ∀ f ∈ others, f.holdsHost = false) :
      Turn w others σ (r.begin w thread)

inductive Move : System → System → Prop where
  | turn {w : World} {m : Machine} (before : List Strand) (σ : Strand) (after : List Strand)
      (h : Turn w (framesOf (before ++ after)) σ m) :
      Move ⟨w, before ++ σ :: after⟩ ⟨m.world, before ++ m.strand :: after⟩

structure World.Bare (w : World) : Prop where
  standalone : w.standalone = none
  journal : ∀ e ∈ w.journal, ∃ text, e = .said text

/-- The systems reached from a newly built host by any number of strands. -/
inductive Reachable (b : AdapterOptions) : System → Prop where
  | built {w v : World} {kind : HostKind} {panel : Panel} (strands : Nat) (bare : w.Bare)
      (h : w.build kind panel b = .ok v) : Reachable b ⟨v, List.replicate strands .idle⟩
  | move {s t : System} (h : Reachable b s) (m : Move s t) : Reachable b t

@[simp] theorem framesOf_nil : framesOf [] = [] := rfl

@[simp] theorem framesOf_cons (σ : Strand) (l : List Strand) :
    framesOf (σ :: l) = σ.stack ++ framesOf l := rfl

@[simp] theorem framesOf_append (k l : List Strand) : framesOf (k ++ l) = framesOf k ++ framesOf l := by
  simp [framesOf]

@[simp] theorem framesOf_idle (n : Nat) : framesOf (List.replicate n .idle) = [] := by
  simp [framesOf, Strand.idle]

/-- The frames of a system up to permutation: those of strand `σ` come first. -/
theorem frames_swap (before after : List Strand) (σ : Strand) :
    (framesOf (before ++ σ :: after)).Perm (σ.stack ++ framesOf (before ++ after)) := by
  simp only [framesOf_append, framesOf_cons]
  exact List.perm_append_comm_assoc ..

def Machine.alone (m : Machine) : System := ⟨m.world, [m.strand]⟩

section
variable {m : Machine} {holds : System → Prop}

theorem Machine.alone_steps (keeps : ∀ s t, holds s → Move s t → holds t) (fuel : Nat)
    (h : holds m.alone) : holds (m.runFor fuel).alone := by
  induction fuel generalizing m with
  | zero => exact h
  | succ fuel ih =>
    unfold Machine.runFor
    split
    · exact h
    · exact ih (keeps _ _ h (.turn [] m.strand [] .step))

theorem Machine.alone_begins (keeps : ∀ s t, holds s → Move s t → holds t) (h : holds m.alone)
    (idle : m.stack = []) (r : Request) (thread : Nat) : holds (r.begin m.world thread).alone :=
  keeps _ _ h (.turn [] m.strand [] (.begin r thread idle (by simp)))

end

section
variable {b : AdapterOptions} {m : Machine}

theorem Reachable.alone_runFor (fuel : Nat) (h : Reachable b m.alone) :
    Reachable b (m.runFor fuel).alone :=
  Machine.alone_steps (fun _ _ => .move) fuel h

theorem Reachable.alone_begin (h : Reachable b m.alone) (idle : m.stack = []) (r : Request)
    (thread : Nat) :
    Reachable b (r.begin m.world thread).alone :=
  Machine.alone_begins (fun _ _ => .move) h idle r thread

theorem Reachable.alone_carryOut (h : Reachable b m.alone) (idle : m.stack = []) (r : Request)
    (thread : Nat) :
    Reachable b (r.carryOut m.world thread).alone :=
  (h.alone_begin idle r thread).alone_runFor _

end

def Machine.sample : Machine :=
  .proceed ((World.empty.build .panel ⟨true, false, none, true, true, true⟩ .standard).toOption.getD
    .empty) []

theorem bare_empty : World.Bare .empty := ⟨rfl, by simp [World.empty]⟩

theorem reachable_sample : Reachable .standard Machine.sample.alone := by
  have built : World.empty.build .panel ⟨true, false, none, true, true, true⟩
      .standard = .ok Machine.sample.world := rfl
  exact .built 1 bare_empty built

def Machine.samplePlatform : Machine :=
  .proceed ((World.empty.build .platform ⟨true, false, none, true, true, true⟩ .standard).toOption.getD
    .empty) []

theorem samplePlatform_built : World.empty.build .platform ⟨true, false, none, true, true, true⟩ .standard
    = .ok Machine.samplePlatform.world := rfl

end FrameHost
