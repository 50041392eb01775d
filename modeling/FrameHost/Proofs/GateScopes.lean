import FrameHost.Gate.Script

/-!
Guards in nested scopes. A program whose guards all belong to scopes restores the gate, whether it ends or
raises, and inside it the gate is open exactly at points within a scope or if it was open at the start.
Hence the events of a run are determined by the program text.
-/
namespace FrameHost

structure GateAccount where
  shown : List GateEvent
  fault : Option Fault
  deriving DecidableEq, Repr

namespace GateAccount

def andThen (first next : GateAccount) : GateAccount :=
  match first.fault with
  | none => ⟨next.shown ++ first.shown, next.fault⟩
  | some _ => first

def caught (first : GateAccount) : GateAccount :=
  match first.fault with
  | none => first
  | some fault => ⟨.caught fault :: first.shown, none⟩

end GateAccount

def GateOp.isSlotless : GateOp → Bool
  | openSlot | closeSlot _ => false
  | _ => true

def GateOp.told (isOpen : Bool) : GateOp → GateAccount
  | openSlot | closeSlot _ => ⟨[], none⟩
  | check operation => if isOpen then ⟨[.passed operation], none⟩ else ⟨[], some (.gateClosed operation)⟩
  | read => ⟨[.saw isOpen], none⟩
  | raise message => ⟨[], some (.raised message)⟩

namespace GateScript

def isNested : GateScript → Bool
  | done => true
  | act op next => op.isSlotless && next.isNested
  | scope body next | catching body next => body.isNested && next.isNested

/-- The events of a program as a function of its text, where the gate is open inside scopes. -/
def told (isOpen : Bool) : GateScript → GateAccount
  | done => ⟨[], none⟩
  | act op next => (op.told isOpen).andThen (next.told isOpen)
  | scope body next => (body.told true).andThen (next.told isOpen)
  | catching body next => (body.told isOpen).caught.andThen (next.told isOpen)

/-- The points reached by the run of a program, each with its number of enclosing scopes, the rest of the
sequence and the state. -/
inductive Reaches : GateScript → GateState → Nat → GateScript → GateState → Prop where
  | here {p : GateScript} {s : GateState} : Reaches p s 0 p s
  | performed {op : GateOp} {next rest : GateScript} {s after t : GateState} {depth : Nat}
      (performed : s.perform op = (after, none)) (later : Reaches next after depth rest t) :
      Reaches (.act op next) s depth rest t
  | inside {body next rest : GateScript} {s t : GateState} {depth : Nat}
      (inner : Reaches body { s with gate := s.gate.enter.1 } depth rest t) :
      Reaches (.scope body next) s (depth + 1) rest t
  | left {body next rest : GateScript} {s after t : GateState} {depth : Nat}
      (ended : body.run { s with gate := s.gate.enter.1 } = (after, none))
      (later : Reaches next { after with gate := after.gate.leave s.gate.enter.2 } depth rest t) :
      Reaches (.scope body next) s depth rest t
  | trying {body next rest : GateScript} {s t : GateState} {depth : Nat}
      (inner : Reaches body s depth rest t) : Reaches (.catching body next) s depth rest t
  | tried {body next rest : GateScript} {s after t : GateState} {depth : Nat}
      (ended : body.run s = (after, none)) (later : Reaches next after depth rest t) :
      Reaches (.catching body next) s depth rest t
  | caught {body next rest : GateScript} {s after t : GateState} {depth : Nat} {fault : Fault}
      (raised : body.run s = (after, some fault))
      (later : Reaches next (after.record (.caught fault)) depth rest t) :
      Reaches (.catching body next) s depth rest t

end GateScript

def GateState.after (s : GateState) (a : GateAccount) : GateState × Option Fault :=
  ({ s with events := a.shown ++ s.events }, a.fault)

section
variable {s : GateState} {op : GateOp}

@[simp] theorem GateState.after_gate (s : GateState) (a : GateAccount) : (s.after a).1.gate = s.gate := rfl

theorem GateState.perform_told (slotless : op.isSlotless = true) :
    s.perform op = s.after (op.told s.gate.allowed) := by
  cases op with
  | openSlot => cases slotless
  | closeSlot slot => cases slotless
  | check operation =>
    cases allowed : s.gate.allowed <;> simp [perform, Gate.check, GateOp.told, after, record, allowed]
  | read => rfl
  | raise message => rfl

namespace GateScript

variable {p body next rest : GateScript}

theorem run_after (told : ∀ s, next.run s = s.after (next.told s.gate.allowed)) {first : GateAccount}
    (calm : first.fault = none) (s : GateState) :
    next.run (s.after first).1 = s.after (first.andThen (next.told s.gate.allowed)) := by
  rw [told, GateState.after_gate]
  simp only [GateState.after, GateAccount.andThen, calm, List.append_assoc]

theorem run_told (nested : p.isNested = true) (s : GateState) : p.run s = s.after (p.told s.gate.allowed) := by
  induction p generalizing s with
  | done => rfl
  | act op next ih =>
    obtain ⟨slotless, nested⟩ := Bool.and_eq_true_iff.mp nested
    rw [run, told, GateState.perform_told slotless]
    cases raised : (op.told s.gate.allowed).fault with
    | none =>
      rw [← run_after (ih nested) raised]
      simp only [GateState.after, raised]
    | some fault => simp only [GateState.after, GateAccount.andThen, raised]
  | scope body next ihBody ihNext =>
    obtain ⟨inner, later⟩ := Bool.and_eq_true_iff.mp nested
    have entered : body.run { s with gate := s.gate.enter.1 }
        = GateState.after { s with gate := s.gate.enter.1 } (body.told true) := ihBody inner _
    rw [told]
    cases raised : (body.told true).fault with
    | none =>
      rw [← run_after (ihNext later) raised]
      simp only [run, entered, GateState.after, raised]
      rfl
    | some fault =>
      simp only [run, entered, GateState.after, GateAccount.andThen, raised]
      rfl
  | catching body next ihBody ihNext =>
    obtain ⟨inner, later⟩ := Bool.and_eq_true_iff.mp nested
    have calm : (body.told s.gate.allowed).caught.fault = none := by
      cases raised : (body.told s.gate.allowed).fault <;> simp [GateAccount.caught, raised]
    rw [run, told, ihBody inner, ← run_after (ihNext later) calm]
    cases raised : (body.told s.gate.allowed).fault with
    | none => simp only [GateState.after, GateAccount.caught, raised]
    | some fault =>
      simp only [GateState.after, GateAccount.caught, raised]
      rfl

theorem gate_of_run {after : GateState} {fault : Option Fault} (nested : p.isNested = true)
    (run : p.run s = (after, fault)) : after.gate = s.gate := by
  rw [run_told nested] at run
  rw [← (Prod.mk.inj run).1]

theorem Reaches.gate {depth : Nat} {t : GateState} (r : p.Reaches s depth rest t) (nested : p.isNested = true) :
    t.gate.allowed = (decide (0 < depth) || s.gate.allowed) := by
  induction r with
  | here => simp
  | @performed op next rest s after t depth performed later ih =>
    obtain ⟨slotless, nested⟩ := Bool.and_eq_true_iff.mp nested
    rw [GateState.perform_told slotless] at performed
    have same : after.gate = s.gate := by
      rw [← (Prod.mk.inj performed).1]
    rw [← same]
    exact ih nested
  | inside inner ih =>
    have isOpen := ih (Bool.and_eq_true_iff.mp nested).1
    rw [isOpen]
    simp [Gate.enter]
  | left ended later ih => exact ih (Bool.and_eq_true_iff.mp nested).2
  | trying inner ih => exact ih (Bool.and_eq_true_iff.mp nested).1
  | tried ended later ih =>
    obtain ⟨inner, nested⟩ := Bool.and_eq_true_iff.mp nested
    rw [← gate_of_run inner ended]
    exact ih nested
  | caught raised later ih =>
    obtain ⟨inner, nested⟩ := Bool.and_eq_true_iff.mp nested
    rw [← gate_of_run inner raised]
    exact ih nested

end GateScript

end

/-- A program whose guards all belong to scopes restores the gate, whether it ends or a fault escapes. At
points inside a scope the gate is open and checks pass; at points outside all scopes it is as at the start,
and checks fail exactly if it is closed. Hence the events and the fault are determined by the text. -/
theorem gate_follows_scopes {p : GateScript} (nested : p.isNested = true) (s : GateState) :
    (p.run s).1.gate = s.gate ∧
    (∀ depth rest t, p.Reaches s depth rest t →
      (0 < depth → t.gate.allowed = true ∧ ∀ operation, t.gate.check operation = .ok ()) ∧
      (depth = 0 → t.gate = s.gate ∧
        ∀ operation, t.gate.check operation = .error (.gateClosed operation) ↔ s.gate.allowed = false)) ∧
    p.run s = s.after (p.told s.gate.allowed) := by
  refine ⟨?_, fun depth rest t reached => ⟨fun within => ?_, ?_⟩, p.run_told nested s⟩
  · rw [p.run_told nested, GateState.after_gate]
  · have isOpen : t.gate.allowed = true := by simp [reached.gate nested, within]
    exact ⟨isOpen, fun operation => by simp [Gate.check, isOpen]⟩
  · rintro rfl
    have same : t.gate.allowed = s.gate.allowed := by simp [reached.gate nested]
    refine ⟨congrArg Gate.mk same, fun operation => ?_⟩
    cases found : s.gate.allowed <;> simp [Gate.check, same, found]

def GateScript.sampleCaught : GateScript :=
  .catching (.scope (.scope (.act .read (.act (.raise "lost") .done)) .done) .done) (.act (.check "draw") .done)

theorem gate_follows_scopes_sample :
    GateScript.sampleCaught.isNested = true ∧ (GateScript.sampleCaught.run .initial).1.gate = .closed ∧
      GateScript.sampleCaught.run .initial
        = GateState.initial.after ⟨[.caught (.raised "lost"), .saw true], some (.gateClosed "draw")⟩ ∧
      ∃ t, GateScript.sampleCaught.Reaches .initial 0 (.act (.check "draw") .done) t ∧
        t.gate.check "draw" = .error (.gateClosed "draw") := by
  obtain ⟨same, points, shows⟩ := gate_follows_scopes (p := .sampleCaught) rfl .initial
  obtain ⟨t, reached⟩ : ∃ t, GateScript.sampleCaught.Reaches .initial 0 (.act (.check "draw") .done) t :=
    ⟨_, .caught rfl .here⟩
  exact ⟨rfl, same, shows, t, reached, (((points _ _ _ reached).2 rfl).2 "draw").mpr rfl⟩

end FrameHost
