import FrameHost.Timer.Routine

/-!
The calls that a registry receives for one timer. For any answers and faults of the registry they form one
word: a `new`, one `set` for each length set on the logic thread, and at most one final `delete`, each after
a query of the thread.
-/
namespace FrameHost

inductive RegistryCall (α : Type) where
  | asked (inside : Bool)
  | new (length : Span) (repeats : Bool) (action : α) (answer : Except Fault TimerId)
  | set (id : TimerId) (length : Span)
  | delete (id : TimerId)

def RegistryCall.isCall {α : Type} : RegistryCall α → Bool
  | asked _ => false
  | _ => true

/-- The state of a timer. A dropped one records whether a fault was unwinding and what the query of the
thread would answer. -/
inductive TimerStage where
  | unmade (fault : Fault)
  | living (t : TimerHandle)
  | dropped (t : TimerHandle) (unwinding inside : Bool)

section
variable {σ α : Type}

/-- The registry with a record of the calls it receives, oldest first. -/
def Registry.listening (reg : Registry σ α) : Registry (σ × List (RegistryCall α)) α where
  inLogicThread s :=
    let (inside, after) := reg.inLogicThread s.1
    (inside, after, s.2 ++ [.asked inside])
  new length repeats action s :=
    let (answer, after) := reg.new length repeats action s.1
    (answer, after, s.2 ++ [.new length repeats action answer])
  set id length s :=
    let (fault, after) := reg.set id length s.1
    (fault, after, s.2 ++ [.set id length])
  delete id s :=
    let (fault, after) := reg.delete id s.1
    (fault, after, s.2 ++ [.delete id])
  log r s := (reg.log r s.1, s.2)

def Registry.making (reg : Registry σ α) (length : Span) (repeats : Bool) (action : α) (s : σ) :
    List (RegistryCall α) :=
  match reg.inLogicThread s with
  | (false, _) => [.asked false]
  | (true, after) => [.asked true, .new length repeats action (reg.new length repeats action after).1]

def TimerId.setting (id : TimerId) (length : Span) (inside : Bool) : List (RegistryCall α) :=
  .asked inside :: if inside then [.set id length] else []

def TimerId.settings (id : TimerId) (sets : List (Span × Bool)) : List (RegistryCall α) :=
  sets.flatMap fun (length, inside) => id.setting length inside

def TimerId.dropping (id : TimerId) (unwinding inside : Bool) : List (RegistryCall α) :=
  if unwinding then [.delete id] else .asked inside :: if inside then [.delete id] else []

/-- The histories of a timer, with the lengths set and the answers of the query before each, and the calls
received. The registry may change state before each operation, so its answers are arbitrary. -/
inductive TimerTrace (reg : Bool → Registry σ α) (length : Span) (repeats : Bool) (action : α) :
    TimerStage → List (Span × Bool) → List (RegistryCall α) → Prop where
  | fails {fault : Fault} (unwinding : Bool) (s : σ)
      (made : (TimerHandle.create (reg unwinding) length repeats action s).1 = .error fault) :
      TimerTrace reg length repeats action (.unmade fault) []
        (TimerHandle.create (reg unwinding).listening length repeats action (s, [])).2.2
  | makes {t : TimerHandle} (unwinding : Bool) (s : σ)
      (made : (TimerHandle.create (reg unwinding) length repeats action s).1 = .ok t) :
      TimerTrace reg length repeats action (.living t) []
        (TimerHandle.create (reg unwinding).listening length repeats action (s, [])).2.2
  | sets {t : TimerHandle} {sets : List (Span × Bool)} {heard : List (RegistryCall α)}
      (life : TimerTrace reg length repeats action (.living t) sets heard) (unwinding : Bool) (s : σ)
      (next : Span) :
      TimerTrace reg length repeats action (.living (t.setLength (reg unwinding) next s).2.1)
        (sets ++ [(next, ((reg unwinding).inLogicThread s).1)])
        (t.setLength (reg unwinding).listening next (s, heard)).2.2.2
  | drops {t : TimerHandle} {sets : List (Span × Bool)} {heard : List (RegistryCall α)}
      (life : TimerTrace reg length repeats action (.living t) sets heard) (unwinding : Bool) (s : σ) :
      TimerTrace reg length repeats action
        (.dropped t unwinding ((reg unwinding).inLogicThread s).1) sets
        (t.drop (reg unwinding).listening unwinding (s, heard)).2.2

end

section
variable {σ α : Type} (reg : Registry σ α) (t : TimerHandle) (length : Span) (s : σ)
    (heard : List (RegistryCall α))

@[simp] theorem Registry.listening_inLogicThread : reg.listening.inLogicThread (s, heard)
    = ((reg.inLogicThread s).1, (reg.inLogicThread s).2, heard ++ [.asked (reg.inLogicThread s).1]) := rfl

@[simp] theorem Registry.listening_new (repeats : Bool) (action : α) :
    reg.listening.new length repeats action (s, heard)
      = ((reg.new length repeats action s).1, (reg.new length repeats action s).2,
        heard ++ [.new length repeats action (reg.new length repeats action s).1]) := rfl

@[simp] theorem Registry.listening_set (id : TimerId) : reg.listening.set id length (s, heard)
    = ((reg.set id length s).1, (reg.set id length s).2, heard ++ [.set id length]) := rfl

theorem TimerHandle.create_listening (repeats : Bool) (action : α) :
    TimerHandle.create reg.listening length repeats action (s, heard)
      = ((TimerHandle.create reg length repeats action s).1,
        (TimerHandle.create reg length repeats action s).2, heard ++ reg.making length repeats action s) := by
  rcases asking : reg.inLogicThread s with ⟨inside, asked⟩
  cases inside with
  | false => simp [create, Registry.making, asking]
  | true =>
    rcases calling : reg.new length repeats action asked with ⟨answer, after⟩
    cases answer <;> simp [create, Registry.making, asking, calling, Registry.listening]

theorem TimerHandle.setLength_listening :
    t.setLength reg.listening length (s, heard)
      = ((t.setLength reg length s).1, (t.setLength reg length s).2.1, (t.setLength reg length s).2.2,
        heard ++ t.id.setting length (reg.inLogicThread s).1) := by
  rcases asking : reg.inLogicThread s with ⟨inside, asked⟩
  cases inside with
  | false => simp [setLength, TimerId.setting, asking]
  | true =>
    rcases calling : reg.set t.id length asked with ⟨fault, after⟩
    cases fault <;> simp [setLength, TimerId.setting, asking, calling]

theorem TimerHandle.drop_listening (unwinding : Bool) :
    t.drop reg.listening unwinding (s, heard)
      = ((t.drop reg unwinding s).1, (t.drop reg unwinding s).2,
        heard ++ t.id.dropping unwinding (reg.inLogicThread s).1) := by
  cases unwinding with
  | true => rfl
  | false =>
    rcases asking : reg.inLogicThread s with ⟨inside, asked⟩
    cases inside <;> simp [drop, delete, TimerId.dropping, asking, Registry.listening]

variable {reg} in
theorem TimerHandle.making_of_ok {repeats : Bool} {action : α} {t : TimerHandle}
    (made : (TimerHandle.create reg length repeats action s).1 = .ok t) :
    reg.making length repeats action s = [.asked true, .new length repeats action (.ok t.id)] := by
  rcases asking : reg.inLogicThread s with ⟨inside, asked⟩
  cases inside with
  | false => simp [create, asking] at made
  | true =>
    rcases answering : reg.new length repeats action asked with ⟨_ | id, after⟩
    · simp [create, asking, answering] at made
    · obtain rfl : ⟨id, length, repeats⟩ = t := by simpa [create, asking, answering] using made
      simp [Registry.making, asking, answering]

variable {reg} in
theorem TimerHandle.making_of_error {repeats : Bool} {action : α} {fault : Fault}
    (made : (TimerHandle.create reg length repeats action s).1 = .error fault) :
    reg.making length repeats action s = [.asked false] ∧ fault = .offLogicThread .new ∨
      reg.making length repeats action s = [.asked true, .new length repeats action (.error fault)] := by
  rcases asking : reg.inLogicThread s with ⟨inside, asked⟩
  cases inside with
  | false =>
    obtain rfl : .offLogicThread .new = fault := by simpa [create, asking] using made
    exact .inl ⟨by simp [Registry.making, asking], rfl⟩
  | true =>
    rcases answering : reg.new length repeats action asked with ⟨refusal | id, after⟩
    · obtain rfl : refusal = fault := by simpa [create, asking, answering] using made
      exact .inr (by simp [Registry.making, asking, answering])
    · simp [create, asking, answering] at made

theorem TimerHandle.setLength_id : (t.setLength reg length s).2.1.id = t.id := by
  unfold setLength
  split
  · rfl
  · split <;> rfl

end

section
variable {σ α : Type} {reg : Bool → Registry σ α} {length : Span} {repeats : Bool} {action : α}
    {stage : TimerStage} {sets : List (Span × Bool)} {heard : List (RegistryCall α)}

def TimerStage.Tells (length : Span) (repeats : Bool) (action : α) (sets : List (Span × Bool))
    (heard : List (RegistryCall α)) : TimerStage → Prop
  | .unmade fault => sets = [] ∧ (heard = [.asked false] ∧ fault = .offLogicThread .new ∨
      heard = [.asked true, .new length repeats action (.error fault)])
  | .living t => heard = .asked true :: .new length repeats action (.ok t.id) :: t.id.settings sets
  | .dropped t unwinding inside => heard = .asked true :: .new length repeats action (.ok t.id) ::
      (t.id.settings sets ++ t.id.dropping unwinding inside)

theorem TimerTrace.tells (life : TimerTrace reg length repeats action stage sets heard) :
    stage.Tells length repeats action sets heard := by
  induction life with
  | fails unwinding s made =>
    rw [TimerHandle.create_listening, List.nil_append]
    exact ⟨rfl, TimerHandle.making_of_error length s made⟩
  | makes unwinding s made =>
    rw [TimerHandle.create_listening, List.nil_append]
    exact TimerHandle.making_of_ok length s made
  | @sets t sets heard life unwinding s next ih =>
    have told : heard = _ := ih
    have more : t.id.settings (α := α) (sets ++ [(next, ((reg unwinding).inLogicThread s).1)])
        = t.id.settings sets ++ t.id.setting next ((reg unwinding).inLogicThread s).1 := by
      simp [TimerId.settings]
    rw [TimerHandle.setLength_listening, told, TimerStage.Tells, TimerHandle.setLength_id, more]
    rfl
  | @drops t sets heard life unwinding s ih =>
    have told : heard = _ := ih
    rw [TimerHandle.drop_listening, told]
    rfl

theorem calls_settings (id : TimerId) (sets : List (Span × Bool)) :
    (id.settings sets).filter (RegistryCall.isCall (α := α))
      = (sets.filter Prod.snd).map fun (length, _) => .set id length := by
  induction sets with
  | nil => rfl
  | cons first rest ih =>
    obtain ⟨length, inside⟩ := first
    have split : id.settings (α := α) ((length, inside) :: rest)
        = id.setting length inside ++ id.settings rest := List.flatMap_cons
    rw [split, List.filter_append, ih]
    cases inside <;> rfl

theorem calls_dropping (id : TimerId) (unwinding inside : Bool) :
    (id.dropping unwinding inside).filter (RegistryCall.isCall (α := α))
      = if unwinding || inside then [.delete id] else [] := by
  cases unwinding <;> cases inside <;> rfl

/-- For any answers and faults a registry receives: a query of the thread and, if the answer is yes, a
`new`; then for each length a query and, if yes, a `set`; then, if the timer is dropped, a `delete`, without
a query while a fault unwinds, and otherwise after a query that answers yes. All calls carry the identifier
returned by `new`, and a timer that was not made causes no further call. -/
theorem registry_hears_one_word (life : TimerTrace reg length repeats action stage sets heard) :
    (∀ fault, stage = .unmade fault → sets = [] ∧
      (heard = [.asked false] ∧ fault = .offLogicThread .new ∨
        heard = [.asked true, .new length repeats action (.error fault)])) ∧
    (∀ t, stage = .living t →
      heard = .asked true :: .new length repeats action (.ok t.id) :: t.id.settings sets ∧
      heard.filter RegistryCall.isCall = .new length repeats action (.ok t.id) ::
        (sets.filter Prod.snd).map fun (length, _) => .set t.id length) ∧
    ∀ t unwinding inside, stage = .dropped t unwinding inside →
      heard = .asked true :: .new length repeats action (.ok t.id) ::
        (t.id.settings sets ++ t.id.dropping unwinding inside) ∧
      heard.filter RegistryCall.isCall = .new length repeats action (.ok t.id) ::
        ((sets.filter Prod.snd).map (fun (length, _) => .set t.id length) ++
          if unwinding || inside then [.delete t.id] else []) := by
  have told := life.tells
  refine ⟨?_, ?_, ?_⟩
  · rintro fault rfl
    exact told
  · rintro t rfl
    have word : heard = _ := told
    refine ⟨word, ?_⟩
    rw [word, ← calls_settings t.id sets]
    rfl
  · rintro t unwinding inside rfl
    have word : heard = _ := told
    refine ⟨word, ?_⟩
    rw [word, ← calls_settings t.id sets, ← calls_dropping t.id unwinding inside, ← List.filter_append]
    rfl

end

theorem registry_hears_one_word_sample : ∃ (t : TimerHandle) (heard : List (RegistryCall Routine)),
    TimerTrace TimerTable.registry ⟨1, 0⟩ true .done (.dropped t true false)
      [(⟨2, 0⟩, false), (⟨3, 0⟩, true)] heard ∧
    heard.filter RegistryCall.isCall
      = [.new ⟨1, 0⟩ true .done (.ok ⟨7⟩), .set ⟨7⟩ ⟨3, 0⟩, .delete ⟨7⟩] := by
  have made : TimerTrace TimerTable.registry ⟨1, 0⟩ true .done (.living ⟨⟨7⟩, ⟨1, 0⟩, true⟩) [] _ :=
    .makes false (.initial true 7) rfl
  have outside := made.sets false (.initial false 8) ⟨2, 0⟩
  have failing := outside.sets false { TimerTable.initial true 8 with failOn := some .set } ⟨3, 0⟩
  have gone := failing.drops true (.initial false 8)
  exact ⟨_, _, gone, ((registry_hears_one_word gone).2.2 _ true false rfl).2⟩

end FrameHost
