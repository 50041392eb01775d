import FrameHost.Proofs.TimerCalls

/-!
The length of a timer handle. The registry is called before the handle is updated, so a call that faults
keeps the handle: it always holds the length of the last call that returned.
-/
namespace FrameHost

/-- The length of the last call that returned, or `chosen`. The calls come latest first, each with its
fault. -/
def lastTaken (chosen : Span) : List (Span × Option Fault) → Span
  | [] => chosen
  | (length, none) :: _ => length
  | (_, some _) :: older => lastTaken chosen older

section
variable {σ α : Type}

/-- The histories of a timer with the identifier `id`, with the calls that set its length, latest first. The
registry may change state before each call, so its answers are arbitrary. -/
inductive TimerHistory (reg : Bool → Registry σ α) (length : Span) (repeats : Bool) (action : α)
    (id : TimerId) :
    List (Span × Option Fault) → TimerHandle → Prop where
  | makes {t : TimerHandle} (unwinding : Bool) (s : σ)
      (made : (TimerHandle.create (reg unwinding) length repeats action s).1 = .ok t)
      (given : ((reg unwinding).new length repeats action ((reg unwinding).inLogicThread s).2).1 = .ok id) :
      TimerHistory reg length repeats action id [] t
  | sets {calls : List (Span × Option Fault)} {t : TimerHandle}
      (before : TimerHistory reg length repeats action id calls t) (unwinding : Bool) (s : σ) (next : Span) :
      TimerHistory reg length repeats action id ((next, (t.setLength (reg unwinding) next s).1) :: calls)
        (t.setLength (reg unwinding) next s).2.1

inductive SetLengthOutcome (reg : Registry σ α) (t : TimerHandle) (next : Span) (s : σ) :
    Option Fault → TimerHandle → Prop where
  | taken (inside : (reg.inLogicThread s).1 = true)
      (answer : (reg.set t.id next (reg.inLogicThread s).2).1 = none) :
      SetLengthOutcome reg t next s none { t with length := next }
  | outside (wrong : (reg.inLogicThread s).1 = false) :
      SetLengthOutcome reg t next s (some (.offLogicThread .set)) t
  | refused {fault : Fault} (inside : (reg.inLogicThread s).1 = true)
      (answer : (reg.set t.id next (reg.inLogicThread s).2).1 = some fault) :
      SetLengthOutcome reg t next s (some fault) t

end

section
variable {σ α : Type} {reg : Registry σ α} {t : TimerHandle} {s : σ}

theorem TimerHandle.setLength_outcome (reg : Registry σ α) (t : TimerHandle) (next : Span) (s : σ) :
    SetLengthOutcome reg t next s (t.setLength reg next s).1 (t.setLength reg next s).2.1 := by
  rcases asking : reg.inLogicThread s with ⟨inside, asked⟩
  cases inside with
  | false =>
    simp only [setLength, asking]
    exact .outside (by rw [asking])
  | true =>
    rcases calling : reg.set t.id next asked with ⟨fault, after⟩
    have answer : (reg.set t.id next (reg.inLogicThread s).2).1 = fault := by rw [asking, calling]
    simp only [setLength, asking, calling]
    cases fault with
    | none => exact .taken (by rw [asking]) answer
    | some fault => exact .refused (by rw [asking]) answer

theorem TimerHandle.create_made {length : Span} {repeats : Bool} {action : α} {id : TimerId}
    (made : (create reg length repeats action s).1 = .ok t)
    (given : (reg.new length repeats action (reg.inLogicThread s).2).1 = .ok id) :
    t = ⟨id, length, repeats⟩ := by
  rcases asking : reg.inLogicThread s with ⟨inside, asked⟩
  cases inside with
  | false => simp [create, asking] at made
  | true =>
    rcases answering : reg.new length repeats action asked with ⟨answer, after⟩
    obtain rfl : answer = .ok id := by simpa [asking, answering] using given
    simpa [create, asking, answering, eq_comm] using made

end

section
variable {σ α : Type} {reg : Bool → Registry σ α} {length : Span} {repeats : Bool} {action : α} {id : TimerId}
    {calls : List (Span × Option Fault)} {t : TimerHandle}

theorem TimerHistory.handle (h : TimerHistory reg length repeats action id calls t) :
    t = ⟨id, lastTaken length calls, repeats⟩ := by
  induction h with
  | makes unwinding s made given => exact TimerHandle.create_made made given
  | @sets calls t before unwinding s next ih =>
    have outcome := t.setLength_outcome (reg unwinding) next s
    generalize (t.setLength (reg unwinding) next s).1 = fault at outcome ⊢
    generalize (t.setLength (reg unwinding) next s).2.1 = now at outcome ⊢
    cases outcome with
    | taken inside answer => rw [ih]; rfl
    | outside wrong => exact ih
    | refused inside answer => exact ih

/-- A handle holds the length of the last call that returned, or the one it was made with, and always the
identifier and the repetition it was made with. A call returns if it comes on the logic thread and the
registry accepts the length; otherwise it raises the fault of the first check that fails and keeps the
handle. -/
theorem timer_shows_last_length (h : TimerHistory reg length repeats action id calls t) :
    t.length = lastTaken length calls ∧ t.id = id ∧ t.repeats = repeats ∧
      ∀ unwinding s next,
        ((t.setLength (reg unwinding) next s).1 = none ↔ ((reg unwinding).inLogicThread s).1 = true ∧
          ((reg unwinding).set t.id next ((reg unwinding).inLogicThread s).2).1 = none) ∧
        ((t.setLength (reg unwinding) next s).1 = none →
          (t.setLength (reg unwinding) next s).2.1 = ⟨id, next, repeats⟩) ∧
        ∀ fault, (t.setLength (reg unwinding) next s).1 = some fault →
          (t.setLength (reg unwinding) next s).2.1 = t := by
  obtain rfl := h.handle
  refine ⟨rfl, rfl, rfl, fun unwinding s next => ?_⟩
  have outcome := TimerHandle.setLength_outcome (reg unwinding) ⟨id, lastTaken length calls, repeats⟩ next s
  generalize (TimerHandle.setLength (reg unwinding) ⟨id, lastTaken length calls, repeats⟩ next s).1 = fault
    at outcome ⊢
  generalize (TimerHandle.setLength (reg unwinding) ⟨id, lastTaken length calls, repeats⟩ next s).2.1 = now
    at outcome ⊢
  cases outcome with
  | taken inside answer => simp [inside, answer]
  | outside wrong => simp [wrong]
  | refused inside answer => simp [answer]

theorem timer_shows_last_length_sample : ∃ t : TimerHandle,
    TimerHistory TimerTable.registry ⟨1, 0⟩ true .done ⟨7⟩
      [(⟨4, 0⟩, some (.registryFailed .set)), (⟨3, 0⟩, none), (⟨2, 0⟩, some (.offLogicThread .set))] t ∧
    t.length = ⟨3, 0⟩ ∧ t.id = ⟨7⟩ ∧ t.repeats = true := by
  have made : TimerHistory TimerTable.registry ⟨1, 0⟩ true .done ⟨7⟩ [] ⟨⟨7⟩, ⟨1, 0⟩, true⟩ :=
    .makes false (.initial true 7) rfl rfl
  have outside := made.sets false (.initial false 8) ⟨2, 0⟩
  have taken := outside.sets false (.initial true 8) ⟨3, 0⟩
  have failing := taken.sets false { TimerTable.initial true 8 with failOn := some .set } ⟨4, 0⟩
  obtain ⟨length, id, repeats, _⟩ := timer_shows_last_length failing
  exact ⟨_, failing, length, id, repeats⟩

end

end FrameHost
