import FrameHost.Proofs.OpenPass

/-!
The frames that hold the host. A request with exclusive access keeps them at the bottom of its stack: the
pass and, on a platform, the end of the frame. The frames above them run scripts of the pass or of the
main-thread round.
-/
namespace FrameHost

def OnlyEnters (fs : List Frame) : Prop := ∃ thread, fs = [.enter thread]

/-- The frames that hold the host are a pass, the end of a frame, or both in this order. Nothing is above a
pass about to begin, except in a frame of a platform. -/
def HostStack : List Frame → Prop
  | [] => True
  | .enter _ :: below => below = [] ∨ below = [.frameEnd]
  | .pass .. :: below => below = [] ∨ below = [.frameEnd]
  | .frameEnd :: below => below = []
  | _ :: below => ¬OnlyEnters below ∧ HostStack below

/-- The frames holding the host that an effect pushes, while the other frames are `others`. -/
inductive HostFrameMove (w : World) (others popped : List Frame) : World → List Frame → Prop where
  | plain {v : World} {laid : List Frame} (none : ∀ f ∈ laid, f.holdsHost = false) :
      HostFrameMove w others popped v laid
  | render (thread : Nat) (fresh : popped = []) (free : ∀ f ∈ others, f.holdsHost = false) :
      HostFrameMove w others popped w [.enter thread]
  | redraw {v : World} (thread activation queued : Nat) (fresh : popped = [])
      (free : ∀ f ∈ others, f.holdsHost = false) :
      HostFrameMove w others popped v [.round thread activation queued 0, .enter thread, .frameEnd]
  | pass {v : World} {f : Frame} {front : List Frame} (thread : Nat) (saved : Bool) (phase : Phase)
      (was : popped = [f]) (isPass : f.isPass = true) (none : ∀ f ∈ front, f.holdsHost = false) :
      HostFrameMove w others popped v (front ++ [.pass thread saved phase])

section
variable {f : Frame} {front below : List Frame}

theorem hostStack_cons (free : f.holdsHost = false) :
    HostStack (f :: below) ↔ ¬OnlyEnters below ∧ HostStack below := by
  cases f <;> first | rfl | cases free

theorem hostStack_pass (h : f.isPass = true) : HostStack (f :: below) ↔ below = [] ∨ below = [.frameEnd] := by
  cases f <;> first | rfl | cases h

theorem onlyEnters_front (free : ∀ f ∈ front, f.holdsHost = false) (busy : front ≠ []) (down : List Frame) :
    ¬OnlyEnters (front ++ down) := by
  rintro ⟨thread, eq⟩
  cases front with
  | nil => exact busy rfl
  | cons f front =>
    obtain rfl := (List.cons.inj eq).1
    cases free (.enter thread) List.mem_cons_self

theorem hostStack_front (free : ∀ f ∈ front, f.holdsHost = false) (ready : ¬OnlyEnters below)
    (h : HostStack below) :
    HostStack (front ++ below) := by
  induction front with
  | nil => exact h
  | cons f front ih =>
    have rest : ∀ g ∈ front, g.holdsHost = false := fun g hg => free g (List.mem_cons_of_mem f hg)
    refine (hostStack_cons (free f List.mem_cons_self)).mpr ⟨?_, ih rest⟩
    cases front with
    | nil => exact ready
    | cons g front => exact onlyEnters_front rest (List.cons_ne_nil g front) below

theorem HostStack.tail (h : HostStack (f :: below)) : ¬OnlyEnters below ∧ HostStack below := by
  have bottom (ends : below = [] ∨ below = [.frameEnd]) : ¬OnlyEnters below ∧ HostStack below := by
    rcases ends with rfl | rfl
    · exact ⟨by simp [OnlyEnters], trivial⟩
    · exact ⟨by simp [OnlyEnters], rfl⟩
  cases f with
  | enter thread => exact bottom h
  | pass thread saved phase => exact bottom h
  | frameEnd => exact bottom (.inl h)
  | _ => exact h

end

section
variable {w v : World} {others popped laid below : List Frame} {fault : Option Fault} {n : Machine}

theorem HostFrameMove.hostStack (l : HostFrameMove w others popped v laid)
    (top : popped = [] ∧ below = [] ∨ ∃ f, popped = [f]) (h : HostStack (popped ++ below)) :
    HostStack (laid ++ below) := by
  have down : ¬OnlyEnters below ∧ HostStack below := by
    rcases top with ⟨rfl, rfl⟩ | ⟨f, rfl⟩
    · exact ⟨by simp [OnlyEnters], trivial⟩
    · exact h.tail
  have bottom (fresh : popped = []) : below = [] := by
    rcases top with ⟨_, empty⟩ | ⟨f, one⟩
    · exact empty
    · simp [fresh] at one
  cases l with
  | plain none => exact hostStack_front none down.1 down.2
  | render thread fresh => simp [bottom fresh, HostStack]
  | redraw thread activation queued fresh =>
    rw [bottom fresh]
    exact ⟨by simp [OnlyEnters], .inr rfl⟩
  | pass thread saved phase was isPass none =>
    subst was
    have stacked : HostStack (.pass thread saved phase :: below) := (hostStack_pass isPass).mp h
    rw [List.append_assoc]
    exact hostStack_front none (by simp [OnlyEnters]) stacked

theorem GoesOn.hostFrameMove {thread : Nat} {saved : Bool} {phase : Phase} {m : Machine}
    (g : GoesOn w thread saved m) : HostFrameMove v others [.pass thread saved phase] m.world m.stack := by
  obtain ⟨front, later, stack, plain⟩ := g.stays
  rw [stack]
  exact .pass thread saved later rfl rfl (hosts_plain plain)

theorem HostEffect.hostFrameMove (d : HostEffect w others fault popped n) :
    HostFrameMove w others popped n.world n.stack := by
  have none {m : Machine} (empty : m.stack = []) : HostFrameMove w others popped m.world m.stack := by
    rw [empty]
    exact .plain (by simp)
  cases d with
  | dropHost => exact none rfl
  | ask => exact none (World.ask_stack ..)
  | @enter g thread shared owned =>
    obtain ⟨_, activation, stack⟩ := w.enterPass_opens thread shared owned
    have loose : ∀ f ∈ [Frame.batch thread activation g.queue.calls g.queue.calls.length],
        f.holdsHost = false := by simp [Frame.holdsHost]
    rw [stack]
    exact .pass thread g.gate.allowed .target rfl rfl loose
  | target thread saved =>
    rcases w.readTarget_goesOn thread saved with goes | ended
    · exact goes.hostFrameMove
    · exact none ended
  | loaded thread saved settings => exact (w.finishLoad_goesOn thread saved settings).hostFrameMove
  | present thread saved => exact none (w.present_stack saved)
  | abort => exact none rfl

theorem StepEffect.hostFrameMove (d : StepEffect w others fault popped n) :
    HostFrameMove w others popped n.world n.stack := by
  have task (front : List Frame) {laid : List Frame} {v : World} (loose : ∀ f ∈ front, f.holdsHost = false)
      (plain : Plain laid) : HostFrameMove w others popped v (front ++ laid) :=
    .plain (List.forall_mem_append.mpr ⟨loose, hosts_plain plain⟩)
  have one {front : List Frame} {v : World} (loose : ∀ f ∈ front, f.holdsHost = false) :
      HostFrameMove w others popped v front := .plain loose
  cases d with
  | quiet still light plain => exact task [] (by simp) plain
  | finish => exact one (by simp [Machine.proceed])
  | abandon => exact one (by simp [Machine.failing])
  | @post _ below v g thread label body still light plain shared =>
    rcases v.ticketed.post_stack g thread (v.runnable label body) below with inline | queued
    · rw [inline]
      exact task [_, _] (by simp [Frame.holdsHost]) plain
    · rw [queued]
      exact task [] (by simp) plain
  | dispatch label body light plain => exact task [] (by simp) plain
  | enqueue label body light plain => exact task [] (by simp) plain
  | drain thread light plain => exact task [_, _] (by simp [Frame.holdsHost]) plain
  | round thread light plain => exact task [_] (by simp [Frame.holdsHost]) plain
  | nextCall thread activation rest count =>
    cases rest with
    | nil => exact one (by simp [World.nextCall, Machine.answering])
    | cons => exact one (by simp [World.nextCall, World.start, Machine.proceed, Frame.holdsHost])
  | nextMain thread activation queued ran =>
    unfold World.nextMain
    split
    · exact one (by simp [World.start, Machine.proceed, Frame.holdsHost])
    · exact one (by simp [Machine.answering])
  | spill => exact one (by simp [Machine.failing])
  | dropHandle slot still handles light plain => exact task [] (by simp) plain
  | dropReceiver => exact one (by simp [Machine.proceed])
  | render thread hosted free => exact .render thread rfl free
  | redraw thread hosted free => exact .redraw thread _ _ rfl free
  | host d => exact d.hostFrameMove

end

theorem two_places {before after early late : List Strand} {σ τ : Strand}
    (h : before ++ σ :: after = early ++ τ :: late) :
    (before = early ∧ σ = τ ∧ after = late) ∨
      (∃ mid, early = before ++ σ :: mid ∧ after = mid ++ τ :: late) ∨
      ∃ mid, before = early ++ τ :: mid ∧ late = mid ++ σ :: after := by
  rcases List.append_eq_append_iff.mp h with ⟨mid, rfl, rest⟩ | ⟨mid, rfl, rest⟩
  · cases mid with
    | nil =>
      obtain ⟨rfl, rfl⟩ := List.cons.inj rest
      exact .inl ⟨(List.append_nil _).symm, rfl, rfl⟩
    | cons ρ mid =>
      obtain ⟨rfl, rfl⟩ := List.cons.inj rest
      exact .inr (.inl ⟨mid, rfl, rfl⟩)
  · cases mid with
    | nil =>
      obtain ⟨rfl, rfl⟩ := List.cons.inj rest
      exact .inl ⟨List.append_nil _, rfl, rfl⟩
    | cons ρ mid =>
      obtain ⟨rfl, rfl⟩ := List.cons.inj rest
      exact .inr (.inr ⟨mid, rfl, rfl⟩)

section
variable {w v : World} {others popped laid : List Frame}

/-- Above other frames of the stack, only a pass pushes frames that hold the host. -/
theorem HostFrameMove.loose {f : Frame} (l : HostFrameMove w others [f] v laid) (passless : f.isPass = false) :
    ∀ g ∈ laid, g.holdsHost = false := by
  cases l with
  | plain none => exact none
  | render _ fresh => cases fresh
  | redraw _ _ _ fresh => cases fresh
  | pass _ _ _ was isPass =>
    obtain rfl := List.singleton_inj.mp was
    rw [passless] at isPass
    cases isPass

theorem HostFrameMove.last_pass {thread : Nat} {saved : Bool} {phase : Phase}
    (l : HostFrameMove w others popped v laid)
    (mem : .pass thread saved phase ∈ laid) : ∃ front, laid = front ++ [.pass thread saved phase] := by
  cases l with
  | plain none => cases none _ mem
  | render => simp at mem
  | redraw => simp at mem
  | @pass _ _ front _ _ _ _ _ none =>
    rcases List.mem_append.mp mem with own | last
    · cases none _ own
    · exact ⟨front, congrArg (front ++ [·]) (List.mem_singleton.mp last).symm⟩

theorem HostFrameMove.hostless (l : HostFrameMove w others popped v laid)
    (apart : ∀ f ∈ popped, f.holdsHost = false)
    (taken : ∃ f ∈ others, f.holdsHost = true) : ∀ f ∈ laid, f.holdsHost = false := by
  obtain ⟨f, hf, holds⟩ := taken
  cases l with
  | plain none => exact none
  | render _ _ free =>
    rw [free f hf] at holds
    cases holds
  | redraw _ _ _ _ free =>
    rw [free f hf] at holds
    cases holds
  | @pass _ g _ _ _ _ was isPass =>
    have holds : g.holdsHost = true := by cases g <;> first | rfl | cases isPass
    simp [apart g (by simp [was])] at holds

end

variable {b : AdapterOptions} {s : System}

def Strand.HasHost (σ : Strand) : Prop := ∃ f ∈ σ.stack, f.holdsHost = true

theorem framesOf_host {strands : List Strand} (h : (framesOf strands).countP Frame.holdsHost ≠ 0) :
    ∃ τ ∈ strands, τ.HasHost := by
  obtain ⟨f, hf, holds⟩ := List.countP_pos_iff.mp (Nat.pos_of_ne_zero h)
  obtain ⟨τ, hτ, mem⟩ := List.mem_flatMap.mp hf
  exact ⟨τ, hτ, f, mem, holds⟩

theorem countP_stack_le {strands : List Strand} {σ : Strand} (h : σ ∈ strands) (p : Frame → Bool) :
    σ.stack.countP p ≤ (framesOf strands).countP p := by
  obtain ⟨before, after, rfl⟩ := List.append_of_mem h
  rw [(frames_swap before after σ).countP_eq, List.countP_append]
  exact Nat.le_add_right ..

/-- At most one strand holds the host. -/
theorem Reachable.sole (h : Reachable b s) : ∀ σ ∈ s.strands, σ.HasHost →
    s.frames.countP Frame.holdsHost = σ.stack.countP Frame.holdsHost := by
  induction h with
  | built strands bare h =>
    intro σ hσ ⟨f, hf, _⟩
    rw [List.eq_of_mem_replicate hσ] at hf
    cases hf
  | @move s t reached m ih =>
    obtain ⟨σ, popped, below, others, n, act⟩ := m.act
    have total := act.before.countP_eq Frame.holdsHost
    have after := act.after.countP_eq Frame.holdsHost
    simp only [List.countP_append] at total after
    have hostFrameMove := act.effect.hostFrameMove
    -- While another strand holds the host, the acting strand has no such frame and pushes none.
    have apart (τ : Strand) (hτ : τ ∈ others) (has : τ.HasHost) :
        t.frames.countP Frame.holdsHost = τ.stack.countP Frame.holdsHost ∧
          (n.stack ++ below).countP Frame.holdsHost = 0 := by
      have all := ih τ ((act.old τ).mpr (.inr hτ)) has
      have part := countP_stack_le hτ Frame.holdsHost
      have loose : popped.countP Frame.holdsHost = 0 := by omega
      obtain ⟨f, hf, holds⟩ := has
      have there : f ∈ below ++ framesOf others :=
        List.mem_append_right _ (List.mem_flatMap.mpr ⟨τ, hτ, hf⟩)
      have none : ∀ f ∈ n.stack, f.holdsHost = false :=
        hostFrameMove.hostless (by simpa using List.countP_eq_zero.mp loose) ⟨f, there, holds⟩
      have laid : n.stack.countP Frame.holdsHost = 0 := List.countP_eq_zero.mpr (by simpa using none)
      rw [List.countP_append]
      omega
    intro τ hτ has
    rcases (act.new τ).mp hτ with rfl | other
    · have rest : (framesOf others).countP Frame.holdsHost = 0 := by
        refine Decidable.byContradiction fun some => ?_
        obtain ⟨ρ, hρ, owns⟩ := framesOf_host some
        obtain ⟨f, hf, holds⟩ := has
        exact List.countP_eq_zero.mp (apart ρ hρ owns).2 f hf holds
      change _ = (n.stack ++ below).countP Frame.holdsHost
      rw [List.countP_append]
      omega
    · exact (apart τ other has).1

section
variable {t : System} {σ φ ψ : Strand} {popped below : List Frame} {others : List Strand} {n : Machine}

theorem Reachable.bystander (h : Reachable b s) (act : Act s t σ popped below others n) (hφ : φ ∈ others)
    (has : φ.HasHost) : ∀ f ∈ σ.stack, f.holdsHost = false := by
  have all := h.sole φ ((act.old φ).mpr (.inr hφ)) has
  have part := countP_stack_le hφ Frame.holdsHost
  rw [act.before.countP_eq, ← List.append_assoc, ← act.stack, List.countP_append] at all
  have none : σ.stack.countP Frame.holdsHost = 0 := by omega
  simpa using List.countP_eq_zero.mp none

theorem Reachable.holder (h : Reachable b s) (act : Act s t σ popped below others n) (has : σ.HasHost) :
    ∀ f ∈ framesOf others, f.holdsHost = false := by
  have all := h.sole σ act.mem has
  rw [act.before.countP_eq, ← List.append_assoc, ← act.stack, List.countP_append] at all
  have none : (framesOf others).countP Frame.holdsHost = 0 := by omega
  simpa using List.countP_eq_zero.mp none

theorem Reachable.one_holder (h : Reachable b s) (hφ : φ ∈ s.strands) (hψ : ψ ∈ s.strands)
    (has : φ.HasHost) (also : ψ.HasHost) : φ = ψ := by
  obtain ⟨before, after, split⟩ := List.append_of_mem hφ
  have all := h.sole φ hφ has
  rw [System.frames, split, (frames_swap before after φ).countP_eq, List.countP_append] at all
  have none : (framesOf (before ++ after)).countP Frame.holdsHost = 0 := by omega
  have place : ψ = φ ∨ ψ ∈ before ++ after := by
    rw [split] at hψ
    simpa [or_left_comm] using hψ
  refine (place.resolve_right fun other => ?_).symm
  obtain ⟨f, hf, holds⟩ := also
  exact List.countP_eq_zero.mp none f (List.mem_flatMap.mpr ⟨ψ, other, hf⟩) holds

end

theorem Reachable.hostStack (h : Reachable b s) : ∀ σ ∈ s.strands, HostStack σ.stack := by
  induction h with
  | built strands bare h =>
    intro σ hσ
    rw [List.eq_of_mem_replicate hσ]
    trivial
  | move _ m ih =>
    obtain ⟨σ, popped, below, others, n, act⟩ := m.act
    intro τ hτ
    rcases (act.new τ).mp hτ with rfl | other
    · have hostStack := ih σ act.mem
      rw [act.stack] at hostStack
      exact act.effect.hostFrameMove.hostStack act.top hostStack
    · exact ih τ ((act.old τ).mpr (.inr other))

end FrameHost
