import FrameHost.Proofs.AdapterMove
import FrameHost.Proofs.RenderPass
import FrameHost.Proofs.HostFrames
import Mathlib.Data.List.Forall2

/-!
The graphics thread, that is, the thread of the first attempt at a render pass, whatever its outcome. An
attempt on any other thread is rejected, and no later run depends on it.
-/
namespace FrameHost

inductive System.New (b : AdapterOptions) : System → Prop where
  | built {w v : World} {kind : HostKind} {panel : Panel} (strands : Nat) (bare : w.Bare)
      (h : w.build kind panel b = .ok v) : New b ⟨v, List.replicate strands .idle⟩

/-- The moments of a run, latest first. -/
inductive Onward (s : System) : List System → Prop where
  | here : Onward s [s]
  | goes {x y : System} {earlier : List System} (run : Onward s (x :: earlier)) (m : Move x y) :
      Onward s (y :: x :: earlier)

/-- The next turn of a strand attempts a render pass. -/
inductive System.Tries (thread : Nat) : System → System → Prop where
  | tries {w : World} (before : List Strand) (σ : Strand) (after : List Strand) {below : List Frame}
      (stack : σ.stack = .enter thread :: below) (calm : σ.fault = none) :
      Tries thread ⟨w, before ++ σ :: after⟩
        ⟨(σ.on w).step.world, before ++ (σ.on w).step.strand :: after⟩

inductive Untried : List System → Prop where
  | start (s : System) : Untried [s]
  | goes {s t : System} {earlier : List System} (u : Untried (s :: earlier))
      (none : ∀ thread, ¬s.Tries thread t) : Untried (t :: s :: earlier)

inductive FirstTry (thread : Nat) : List System → Prop where
  | now {s t : System} {earlier : List System} (u : Untried (s :: earlier)) (tries : s.Tries thread t) :
      FirstTry thread (t :: s :: earlier)
  | before {t : System} {earlier : List System} (h : FirstTry thread earlier) : FirstTry thread (t :: earlier)

def Strand.Like (σ τ : Strand) : Prop := σ = τ ∨ σ.stack = [] ∧ τ.stack = []

structure System.Like (s d : System) : Prop where
  world : s.world = d.world
  strands : List.Forall₂ Strand.Like s.strands d.strands

/-- Every run from either system is matched, moment by moment, by a run from the other. -/
def Indistinct (s d : System) : Prop :=
  (∀ run, Onward s run → ∃ other, Onward d other ∧ List.Forall₂ System.Like run other) ∧
    ∀ other, Onward d other → ∃ run, Onward s run ∧ List.Forall₂ System.Like run other

section
variable {w v : World} {others popped laid : List Frame} {fault : Option Fault} {n : Machine} {thread : Nat}

theorem GateMove.captured (m : GateMove w others popped v laid)
    (calm : ∀ thread, popped ≠ [.enter thread]) : captured v.journal = captured w.journal := by
  cases m with
  | keepsGate h => exact h.captured
  | begins h => exact h.captured
  | departs h => exact h.captured
  | opens thread _ _ entered => exact absurd entered (calm thread)
  | closes h => exact h.captured

theorem AdapterMove.began (m : AdapterMove w others fault popped n)
    (told : .passBegan thread ∈ n.world.journal) :
    .passBegan thread ∈ w.journal ∨ openPass n.world.journal = some thread := by
  have kept (es : List Event) (journal : n.world.journal = es ++ w.journal)
      (none : ∀ e ∈ es, e ≠ .passBegan thread) : .passBegan thread ∈ w.journal := by
    rw [journal] at told
    rcases List.mem_append.mp told with new | old
    · exact absurd rfl (none _ new)
    · exact old
  have chore {e : Event} (h : e.isChore = true) : e ≠ .passBegan thread := by
    rintro rfl
    cases h
  -- Both branches of the target phase write its reading, log records and calls to the renderer only.
  have onPass {last : Event} {logs : List Event} (head : last ≠ .passBegan thread)
      (chores : ∀ e ∈ logs, e.isChore = true) :
      ∀ e ∈ last :: (logs ++ [.targetRead true]), e ≠ .passBegan thread := by
    intro e he
    rcases List.mem_cons.mp he with rfl | rest
    · exact head
    · rcases List.mem_append.mp rest with log | read
      · exact chore (chores e log)
      · rw [List.mem_singleton.mp read]
        simp
  cases m with
  | aside chores =>
    obtain ⟨es, journal, chores⟩ := chores
    exact .inl (kept es journal fun e he => chore (chores e he))
  | departs chores =>
    obtain ⟨es, journal, chores⟩ := chores
    exact .inl (kept es journal fun e he => chore (chores e he))
  | asks r before after =>
    obtain ⟨es, first, chores⟩ := before
    obtain ⟨ds, second, later⟩ := after
    refine .inl (kept (ds ++ .requested r :: es) (by rw [second, World.record, first]; simp) ?_)
    intro e he
    rcases List.mem_append.mp he with new | rest
    · exact chore (later e new)
    · rcases List.mem_cons.mp rest with rfl | old
      · simp
      · exact chore (chores e old)
  | @begins _ _ t _ _ _ chores =>
    obtain ⟨es, journal, chores⟩ := chores
    have opened : openPass n.world.journal = some t := by
      rw [journal, openPass_append fun e he => Event.isBracket_of_isChore (chores e he)]
      rfl
    rw [journal] at told
    rcases List.mem_append.mp told with new | rest
    · exact absurd rfl (chore (chores _ new))
    · rcases List.mem_cons.mp rest with eq | old
      · cases eq
        exact .inr opened
      · exact .inl old
  | misses journal => exact .inl (kept [_, _, _] journal (by simp))
  | @draws _ _ _ _ logs _ chores _ _ journal =>
    exact .inl (kept (.renderCalled :: (logs ++ [.targetRead true])) (by rw [journal]; simp)
      (onPass (by simp) chores))
  | @loads _ _ _ _ logs r _ chores _ _ journal =>
    exact .inl (kept (.reloaded r.settings r.resolution :: (logs ++ [.targetRead true]))
      (by rw [journal]; simp) (onPass (by simp) chores))
  | returns _ journal => exact .inl (kept [_] journal (by simp))
  | presents told journal =>
    refine .inl (kept [_, _] journal ?_)
    rcases told with rfl | ⟨error, rfl⟩ <;> simp
  | aborts journal => exact .inl (kept [_] journal (by simp))

theorem Gated.refuses {first : Nat} (h : Gated w (.enter thread :: others))
    (owner : FrameHost.captured w.journal = some first) (other : first ≠ thread) :
    w.enterPass thread = .failing w .offGraphicsThread [] := by
  have hosted : w.host.isSome = true := h.hosted (.enter thread) List.mem_cons_self rfl
  obtain ⟨g, shared⟩ := Option.isSome_iff_exists.mp (h.shared hosted)
  have turned : (g.affinity.bind thread).isCurrent thread = false := by
    simp [Affinity.isCurrent, h.owner g shared, owner, other]
  simp only [World.enterPass, shared, turned, Bool.false_eq_true, if_false]

theorem Gated.admits (h : Gated w (.enter thread :: others))
    (mine : ∀ first, FrameHost.captured w.journal = some first → first = thread) :
    FrameHost.captured (w.enterPass thread).world.journal
      = (FrameHost.captured w.journal).or (some thread) := by
  have hosted : w.host.isSome = true := h.hosted (.enter thread) List.mem_cons_self rfl
  obtain ⟨g, shared⟩ := Option.isSome_iff_exists.mp (h.shared hosted)
  have owned : (g.affinity.bind thread).isCurrent thread = true := by
    rw [Affinity.isCurrent, Affinity.bind_owner, h.owner g shared]
    cases first : FrameHost.captured w.journal with
    | none => simp
    | some t => simp [mine t first]
  exact (w.enterPass_opens thread shared owned).1.captured

end

section
variable {b : AdapterOptions} {s t : System} {thread : Nat}

theorem System.Tries.move (tries : s.Tries thread t) : Move s t := by
  cases tries with
  | tries before σ after => exact .turn before σ after .step

theorem System.Tries.step {w : World} {σ : Strand} {below : List Frame}
    (stack : σ.stack = .enter thread :: below) (calm : σ.fault = none) :
    (σ.on w).step = { w.enterPass thread with stack := (w.enterPass thread).stack ++ below } := by
  simp only [Strand.on, Machine.step, stack, calm]
  rfl

theorem System.Tries.captured (tries : s.Tries thread t) (h : Reachable b s) :
    captured t.world.journal = (captured s.world.journal).or (some thread) := by
  cases tries with
  | @tries w before σ after below stack calm =>
    have frames := frames_swap before after σ
    rw [stack] at frames
    have gated := h.gated.perm frames
    change FrameHost.captured (σ.on w).step.world.journal = _
    rw [step stack calm]
    by_cases mine : ∀ first, FrameHost.captured w.journal = some first → first = thread
    · exact gated.admits mine
    · obtain ⟨first, owner, other⟩ : ∃ first, FrameHost.captured w.journal = some first ∧ first ≠ thread := by
        simpa using mine
      rw [gated.refuses owner other, owner]
      exact owner

theorem Move.captured (m : Move s t) (none : ∀ thread, ¬s.Tries thread t) :
    captured t.world.journal = captured s.world.journal := by
  cases m with
  | @turn w _ before σ after h =>
    cases h with
    | step =>
      obtain ⟨fault, answer, stack⟩ := σ
      cases stack with
      | nil => cases fault <;> rfl
      | cons f below =>
        by_cases entering : ∃ thread, f = .enter thread
        · obtain ⟨thread, rfl⟩ := entering
          cases fault with
          | none => exact absurd (.tries before _ after rfl rfl) (none thread)
          | some raised => rfl
        · have calm : ∀ thread, [f] ≠ [.enter thread] := fun thread eq =>
            entering ⟨thread, List.singleton_inj.mp eq⟩
          cases fault with
          | none =>
            have effect : StepEffect w [] .none [f] (f.advance w answer) := f.effect_advance answer
            exact effect.gateMove.captured calm
          | some raised =>
            have effect : StepEffect w [] (some raised) [f] (f.unwind w raised) := f.effect_unwind raised
            exact effect.gateMove.captured calm
    | begin r thread idle free =>
      have effect : StepEffect w (framesOf (before ++ after)) .none []
        (r.begin w thread) := r.effect w thread free
      exact effect.gateMove.captured (by simp)

theorem System.New.reachable (new : s.New b) : Reachable b s := by
  cases new with
  | built strands bare h => exact .built strands bare h

theorem System.New.idle (new : s.New b) : ∀ σ ∈ s.strands, σ.stack = [] := by
  cases new with
  | built strands bare h =>
    intro σ hσ
    rw [List.eq_of_mem_replicate hσ]
    rfl

theorem System.New.captured (new : s.New b) : captured s.world.journal = none := by
  cases new with
  | built strands bare h =>
    have plain := (World.fresh_build bare h).journal
    have added := captured_append
      (fun e he => Event.isBracket_of_isChore (Event.isChore_of_isRemark (plain e he))) []
    rwa [List.append_nil] at added

theorem untried_cons {earlier : List System} :
    Untried (t :: s :: earlier) ↔ Untried (s :: earlier) ∧ ∀ thread, ¬s.Tries thread t := by
  constructor
  · rintro (_ | ⟨u, none⟩)
    exact ⟨u, none⟩
  · rintro ⟨u, none⟩
    exact .goes u none

theorem firstTry_cons {earlier : List System} :
    FirstTry thread (t :: s :: earlier) ↔
      Untried (s :: earlier) ∧ s.Tries thread t ∨ FirstTry thread (s :: earlier) := by
  constructor
  · rintro (⟨u, tries⟩ | h)
    · exact .inl ⟨u, tries⟩
    · exact .inr h
  · rintro (⟨u, tries⟩ | h)
    · exact .now u tries
    · exact .before h

section
variable {s₀ : System} {earlier : List System}

theorem Onward.reachable (run : Onward s₀ (s :: earlier)) (h : Reachable b s₀) : Reachable b s := by
  generalize same : s :: earlier = moments at run
  induction run generalizing s earlier with
  | here =>
    cases same
    exact h
  | goes run m ih =>
    cases same
    exact (ih rfl).move m

/-- The captured thread is the thread of the first attempt. -/
theorem Onward.captured (run : Onward s₀ (s :: earlier)) (new : s₀.New b) :
    (Untried (s :: earlier) ↔ captured s.world.journal = none) ∧
      ∀ first, FirstTry first (s :: earlier) ↔ captured s.world.journal = some first := by
  generalize same : s :: earlier = moments at run
  induction run generalizing s earlier with
  | here =>
    cases same
    refine ⟨⟨fun _ => new.captured, fun _ => .start s₀⟩, fun first => ?_⟩
    rw [new.captured]
    constructor
    · rintro (_ | past)
      cases past
    · nofun
  | @goes x y earlier run m ih =>
    cases same
    obtain ⟨untried, firsts⟩ := ih rfl
    have reached := run.reachable new.reachable
    simp only [untried_cons, firstTry_cons, untried, firsts]
    by_cases tried : ∃ thread, x.Tries thread y
    · obtain ⟨thread, tries⟩ := tried
      have now := tries.captured reached
      cases before : FrameHost.captured x.world.journal with
      | none =>
        rw [before, Option.none_or] at now
        refine ⟨⟨fun ⟨_, nobody⟩ => absurd tries (nobody thread), fun unset => by simp [now] at unset⟩, ?_⟩
        intro first
        constructor
        · rintro (⟨_, own⟩ | past)
          · rw [own.captured reached, before, Option.none_or]
          · cases past
        · intro is
          rw [now] at is
          exact .inl ⟨rfl, Option.some.inj is ▸ tries⟩
      | some f => simp [now, before]
    · have nobody : ∀ thread, ¬x.Tries thread y := not_exists.mp tried
      simp [m.captured nobody, nobody]

end

theorem Move.captured_kept (m : Move s t) (h : Reachable b s) {first : Nat}
    (owner : FrameHost.captured s.world.journal = some first) :
    FrameHost.captured t.world.journal = some first := by
  by_cases tried : ∃ thread, s.Tries thread t
  · obtain ⟨thread, tries⟩ := tried
    rw [tries.captured h, owner]
    rfl
  · rw [m.captured (not_exists.mp tried), owner]

theorem Reachable.began_captured (h : Reachable b s) (told : .passBegan thread ∈ s.world.journal) :
    captured s.world.journal = some thread := by
  induction h with
  | built strands bare h => cases (World.fresh_build bare h).journal _ told
  | @move s t reached m ih =>
    have later := (reached.move m).gated
    obtain ⟨σ, popped, below, others, n, act⟩ := m.act
    have adapter := act.effect.adapterMove (reached.gated.perm act.before)
    rw [act.world] at told
    rcases adapter.began told with old | opened
    · exact m.captured_kept reached (ih old)
    · exact later.bound thread (act.world ▸ opened)

end

section
variable {s t d : System} {σ τ : Strand} {w : World} {others : List Frame} {m : Machine}

theorem Strand.Like.refl (σ : Strand) : σ.Like σ := .inl rfl

theorem Strand.Like.symm (h : σ.Like τ) : τ.Like σ := by
  rcases h with rfl | ⟨rest, also⟩
  · exact .inl rfl
  · exact .inr ⟨also, rest⟩

theorem Strand.Like.stack (h : σ.Like τ) : σ.stack = τ.stack := by
  rcases h with rfl | ⟨rest, also⟩
  · rfl
  · rw [rest, also]

theorem System.Like.symm (h : s.Like d) : d.Like s :=
  ⟨h.world.symm, List.Forall₂.flip (h.strands.imp fun _ _ => Strand.Like.symm)⟩

theorem framesOf_like {k l : List Strand} (h : List.Forall₂ Strand.Like k l) : framesOf k = framesOf l := by
  induction h with
  | nil => rfl
  | cons first _ ih => rw [framesOf_cons, framesOf_cons, first.stack, ih]

theorem Turn.like (h : Turn w others σ m) (l : σ.Like τ) :
    ∃ n, Turn w others τ n ∧ m.world = n.world ∧ m.strand.Like n.strand := by
  rcases l with rfl | ⟨rest, also⟩
  · exact ⟨m, h, rfl, .refl _⟩
  · cases h with
    | step =>
      have idle {ρ : Strand} (rest : ρ.stack = []) : (ρ.on w).step = ρ.on w := by
        simp only [Strand.on, Machine.step, rest]
      refine ⟨_, .step, ?_⟩
      rw [idle rest, idle also]
      exact ⟨rfl, .inr ⟨rest, also⟩⟩
    | begin r thread _ free => exact ⟨_, .begin r thread also free, rfl, .refl _⟩

theorem forall₂_place {R : Strand → Strand → Prop} {before after strands : List Strand}
    (h : List.Forall₂ R (before ++ σ :: after) strands) :
    ∃ early τ late, strands = early ++ τ :: late ∧ List.Forall₂ R before early ∧ R σ τ ∧
      List.Forall₂ R after late := by
  induction before generalizing strands with
  | nil =>
    obtain ⟨τ, late, first, rest, rfl⟩ := List.forall₂_cons_left_iff.mp h
    exact ⟨[], τ, late, rfl, .nil, first, rest⟩
  | cons ρ before ih =>
    obtain ⟨ρ', others, first, rest, rfl⟩ := List.forall₂_cons_left_iff.mp h
    obtain ⟨early, τ, late, rfl, sooner, mine, later⟩ := ih rest
    exact ⟨ρ' :: early, τ, late, rfl, .cons first sooner, mine, later⟩

theorem like_append {before after early late : List Strand}
    (sooner : List.Forall₂ Strand.Like before early) (mine : σ.Like τ)
    (later : List.Forall₂ Strand.Like after late) :
    List.Forall₂ Strand.Like (before ++ σ :: after) (early ++ τ :: late) :=
  List.rel_append sooner (.cons mine later)

theorem Move.like (m : Move s t) (l : s.Like d) : ∃ e, Move d e ∧ t.Like e := by
  obtain ⟨v, strands⟩ := d
  obtain ⟨world, pairs⟩ := l
  cases m with
  | @turn w _ before σ after h =>
    obtain rfl : w = v := world
    obtain ⟨early, τ, late, rfl, sooner, mine, later⟩ := forall₂_place pairs
    rw [framesOf_like (List.rel_append sooner later)] at h
    obtain ⟨n, turn, same, like⟩ := h.like mine
    exact ⟨_, .turn early τ late turn, same, like_append sooner like later⟩

theorem Onward.like {run : List System} (r : Onward s run) (l : s.Like d) :
    ∃ other, Onward d other ∧ List.Forall₂ System.Like run other := by
  induction r with
  | here => exact ⟨[d], .here, .cons l .nil⟩
  | goes r m ih =>
    obtain ⟨other, onward, pairs⟩ := ih
    obtain ⟨y, earlier, now, past, rfl⟩ := List.forall₂_cons_left_iff.mp pairs
    obtain ⟨e, next, like⟩ := m.like now
    exact ⟨e :: y :: earlier, onward.goes next, .cons like pairs⟩

theorem System.Like.indistinct (l : s.Like d) : Indistinct s d := by
  refine ⟨fun run r => r.like l, fun other r => ?_⟩
  obtain ⟨run, onward, pairs⟩ := r.like l.symm
  exact ⟨run, onward, List.Forall₂.flip (pairs.imp fun _ _ => System.Like.symm)⟩

theorem Turn.fewer {fewer : List Frame} (h : Turn w others σ m) (sub : ∀ f ∈ fewer, f ∈ others) :
    Turn w fewer σ m := by
  cases h with
  | step => exact .step
  | begin r thread idle free => exact .begin r thread idle fun needs f hf => free needs f (sub f hf)

theorem Turn.calls {thread : Nat} (h : Turn w others σ m) (hostStack : HostStack σ.stack)
    (calling : m.stack = [.enter thread]) : σ.stack = [] ∧ m.world = w := by
  obtain ⟨popped, below, n, stack, top, effect, rfl⟩ := h.effect
  rw [stack] at hostStack
  have split : n.stack ++ below = [.enter thread] := calling
  have laid := effect.hostFrameMove
  generalize n.world = v, n.stack = frames at laid split
  cases laid with
  | plain none =>
    cases frames with
    | nil =>
      -- No frame is above such a pass, so none can have been popped from it.
      rcases top with ⟨_, rfl⟩ | ⟨f, rfl⟩
      · cases split
      · exact absurd ⟨thread, split⟩ hostStack.tail.1
    | cons f frames =>
      obtain rfl : f = .enter thread := (List.cons.inj split).1
      cases none (.enter thread) List.mem_cons_self
  | render t fresh =>
    obtain rfl : below = [] := (List.cons.inj split).2
    exact ⟨by rw [stack, fresh, List.append_nil], rfl⟩
  | redraw => cases split
  | pass t saved phase was isPass none =>
    have mem : Frame.pass t saved phase ∈ [.enter thread] := split ▸ by simp
    simp at mem

/-- A system with a strand about to attempt a pass is, up to the state of that strand, also reached without
the request for the pass. -/
theorem Onward.uncalled {b : AdapterOptions} {s₀ : System} {earlier : List System} {before after : List Strand}
    {thread : Nat} (run : Onward s₀ (⟨w, before ++ σ :: after⟩ :: earlier)) (new : s₀.New b)
    (stack : σ.stack = [.enter thread]) :
    ∃ d past, Onward s₀ (d :: past) ∧ d.Like ⟨w, before ++ .idle :: after⟩ := by
  generalize same : (⟨w, before ++ σ :: after⟩ : System) :: earlier = moments at run
  induction run generalizing w before after earlier with
  | here =>
    obtain ⟨rfl, _⟩ := List.cons.inj same
    simp [new.idle σ (by simp)] at stack
  | @goes x y past run m ih =>
    obtain ⟨rfl, _⟩ := List.cons.inj same
    -- The run without the call takes the turns of the other strands.
    have follow {u v : World} {k l k' l' : List Strand} (was : x = ⟨u, k ++ σ :: l⟩)
        (next : Move ⟨u, k ++ .idle :: l⟩ ⟨v, k' ++ .idle :: l'⟩) :
        ∃ d past, Onward s₀ (d :: past) ∧ d.Like ⟨v, k' ++ .idle :: l'⟩ := by
      obtain ⟨d, older, onward, like⟩ := ih (show (⟨u, k ++ σ :: l⟩ : System) :: past = x :: past by rw [was])
      obtain ⟨e, move, same⟩ := next.like like.symm
      exact ⟨e, d :: older, onward.goes move, same.symm⟩
    have at_rest (k l : List Strand) (f : Frame) (hf : f ∈ framesOf (k ++ .idle :: l)) :
        f ∈ framesOf (k ++ σ :: l) := by
      simp only [framesOf_append, framesOf_cons, List.mem_append] at hf ⊢
      rcases hf with left | none | right
      · exact .inl left
      · cases none
      · exact .inr (.inr right)
    generalize now : (⟨w, before ++ σ :: after⟩ : System) = y at m
    cases m with
    | @turn u m early τ late h =>
      obtain ⟨rfl, places⟩ := System.mk.inj now
      rcases two_places places with ⟨rfl, rfl, rfl⟩ | ⟨mid, rfl, rfl⟩ | ⟨mid, rfl, rfl⟩
      · obtain ⟨rest, still⟩ := h.calls ((run.reachable new.reachable).hostStack τ (by simp)) stack
        refine ⟨_, past, run, still.symm, ?_⟩
        exact like_append (List.forall₂_same.mpr fun _ _ => .refl _) (.inr ⟨rest, rfl⟩)
          (List.forall₂_same.mpr fun _ _ => .refl _)
      · have fewer : Turn u (framesOf ((before ++ .idle :: mid) ++ late)) τ m :=
          h.fewer fun f hf => by simpa using at_rest before (mid ++ late) f (by simpa using hf)
        have next := Move.turn (before ++ .idle :: mid) τ late fewer
        simp only [List.append_assoc, List.cons_append] at next
        exact follow (by simp) next
      · have fewer : Turn u (framesOf (early ++ (mid ++ .idle :: after))) τ m :=
          h.fewer fun f hf => by simpa using at_rest (early ++ mid) after f (by simpa using hf)
        have next := Move.turn early τ (mid ++ .idle :: after) fewer
        rw [← List.cons_append, ← List.cons_append, ← List.append_assoc, ← List.append_assoc] at next
        exact follow (by simp) next

end

section
variable {b : AdapterOptions} {s s₀ : System}

theorem Reachable.turned_down {w : World} {before after : List Strand} {σ : Strand} {below : List Frame}
    {first thread : Nat} (h : Reachable b ⟨w, before ++ σ :: after⟩)
    (stack : σ.stack = .enter thread :: below) (calm : σ.fault = none) (owner : captured w.journal = some first)
    (other : first ≠ thread) :
    (below = [] ∨ below = [.frameEnd]) ∧ (σ.on w).step = .failing w .offGraphicsThread below ∧
      (σ.on w).runFor 2 = .failing w .offGraphicsThread [] := by
  have frames := frames_swap before after σ
  rw [stack] at frames
  have refused := (h.gated.perm frames).refuses owner other
  have ends : below = [] ∨ below = [.frameEnd] := by
    have hostStack := h.hostStack σ (by simp)
    rwa [stack] at hostStack
  have step : (σ.on w).step = .failing w .offGraphicsThread below := by
    rw [System.Tries.step stack calm, refused]
    rfl
  have twice : (σ.on w).runFor 2 = (Machine.failing w .offGraphicsThread below).runFor 1 := by
    rw [← step]
    simp only [Machine.runFor, Strand.on, stack]
  refine ⟨ends, step, twice.trans ?_⟩
  rcases ends with rfl | rfl <;> rfl

/-- All passes of a run are on the thread of the first attempt, whatever its outcome, and the context
belongs to that thread from then on and to none before. An attempt from another thread panics and does not
change the world; later runs are those of a system whose strand was idle, and, outside frames of a platform,
such a system is reached without the attempt. -/
theorem passes_keep_to_first_thread {earlier : List System} (new : s₀.New b)
    (run : Onward s₀ (s :: earlier)) :
    (∀ thread, .passBegan thread ∈ s.world.journal ∨ s.InPass thread → FirstTry thread (s :: earlier)) ∧
    (∀ g thread, s.world.graphics = some g →
      (g.inContext thread = true ↔ FirstTry thread (s :: earlier))) ∧
    (∀ first other, FirstTry first (s :: earlier) → FirstTry other (s :: earlier) → first = other) ∧
    (∀ thread t, s.Tries thread t → (∀ first, FirstTry first (s :: earlier) → first = thread) →
      FirstTry thread (t :: s :: earlier) ∧ Passing s thread [t]) ∧
    ∀ first thread w before σ after below, s = ⟨w, before ++ σ :: after⟩ →
      σ.stack = .enter thread :: below → σ.fault = none → FirstTry first (s :: earlier) → first ≠ thread →
      (below = [] ∨ below = [.frameEnd]) ∧ (σ.on w).step = .failing w .offGraphicsThread below ∧
      (σ.on w).runFor 2 = .failing w .offGraphicsThread [] ∧
      Indistinct ⟨w, before ++ (Machine.failing w .offGraphicsThread []).strand :: after⟩
        ⟨w, before ++ .idle :: after⟩ ∧
      (below = [] → ∃ d past, Onward s₀ (d :: past) ∧ d.Like ⟨w, before ++ .idle :: after⟩) := by
  have h := run.reachable new.reachable
  obtain ⟨untried, firsts⟩ := run.captured new
  refine ⟨?_, ?_, ?_, ?_, ?_⟩
  · intro thread began
    rw [firsts]
    rcases began with told | inside
    · exact h.began_captured told
    · exact h.gated.bound thread ((h.inPass_iff thread).mp inside)
  · intro g thread shared
    rw [firsts, ← h.gated.owner g shared, Graphics.inContext, Affinity.isCurrent, beq_iff_eq]
  · intro first other one two
    exact Option.some.inj (((firsts first).mp one).symm.trans ((firsts other).mp two))
  · intro thread t tries mine
    constructor
    · rw [((run.goes tries.move).captured new).2, tries.captured h]
      cases owner : captured s.world.journal with
      | none => rfl
      | some first => rw [mine first ((firsts first).mpr owner), Option.some_or]
    · cases tries with
      | tries before σ after stack calm =>
        have enters := System.Enters.enters before σ after stack calm fun first owner =>
          mine first ((firsts first).mpr owner)
        exact enters.passing h
  · rintro first thread w before σ after below rfl stack calm tried other
    obtain ⟨ends, step, twice⟩ := h.turned_down stack calm ((firsts first).mp tried) other
    have like : System.Like ⟨w, before ++ (Machine.failing w .offGraphicsThread []).strand :: after⟩
        ⟨w, before ++ .idle :: after⟩ :=
      ⟨rfl, like_append (List.forall₂_same.mpr fun _ _ => .refl _) (.inr ⟨rfl, rfl⟩)
        (List.forall₂_same.mpr fun _ _ => .refl _)⟩
    refine ⟨ends, step, twice, like.indistinct, ?_⟩
    rintro rfl
    exact run.uncalled new stack

end

def Machine.sampleSecondThread : Machine :=
  let pushed := (Request.push none (.act (.raise "lost") .done)).carryOut Machine.sample.world 0
  let aborted := Request.render.carryOut pushed.world 0
  Request.render.begin aborted.world 1

theorem onward_sampleSecondThread :
    ∃ earlier, Onward Machine.sample.alone (Machine.sampleSecondThread.alone :: earlier) := by
  have keeps (x y : System) (h : ∃ earlier, Onward Machine.sample.alone (x :: earlier)) (m : Move x y) :
      ∃ earlier, Onward Machine.sample.alone (y :: earlier) := by
    obtain ⟨earlier, run⟩ := h
    exact ⟨_, run.goes m⟩
  have begun {m : Machine} (h : ∃ earlier, Onward Machine.sample.alone (m.alone :: earlier))
      (idle : m.stack = []) (r : Request) (thread : Nat) :=
    Machine.alone_begins keeps h idle r thread
  have done {m : Machine} (h : ∃ earlier, Onward Machine.sample.alone (m.alone :: earlier))
      (idle : m.stack = []) (r : Request) (thread : Nat) :
      ∃ earlier, Onward Machine.sample.alone ((r.carryOut m.world thread).alone :: earlier) :=
    Machine.alone_steps keeps _ (begun h idle r thread)
  have pushed := done ⟨[], .here⟩ rfl (.push none (.act (.raise "lost") .done)) 0
  have aborted := done pushed (by decide) .render 0
  exact begun aborted (by decide) .render 1

theorem passes_keep_to_first_thread_sample :
    ∃ earlier, Onward Machine.sample.alone (Machine.sampleSecondThread.alone :: earlier) ∧
      FirstTry 0 (Machine.sampleSecondThread.alone :: earlier) ∧
      ¬FirstTry 1 (Machine.sampleSecondThread.alone :: earlier) ∧
      Machine.sampleSecondThread.step = .failing Machine.sampleSecondThread.world .offGraphicsThread [] ∧
      Indistinct Machine.sampleSecondThread.step.alone ⟨Machine.sampleSecondThread.world, [.idle]⟩ ∧
      ∃ d past, Onward Machine.sample.alone (d :: past) ∧
        d.Like ⟨Machine.sampleSecondThread.world, [.idle]⟩ := by
  obtain ⟨earlier, run⟩ := onward_sampleSecondThread
  have new : Machine.sample.alone.New .standard := .built 1 ⟨rfl, by simp [World.empty]⟩
    (show World.empty.build .panel ⟨true, false, none, true, true, true⟩ .standard
      = .ok Machine.sample.world from rfl)
  obtain ⟨passes, context, _, _, refused⟩ := passes_keep_to_first_thread new run
  have first := passes 0 (.inl (by decide))
  have other : ¬FirstTry 1 (Machine.sampleSecondThread.alone :: earlier) := by
    obtain ⟨g, shared⟩ : ∃ g, Machine.sampleSecondThread.world.graphics = some g := ⟨_, rfl⟩
    rw [← context g 1 shared]
    cases shared
    decide
  obtain ⟨_, panics, _, same, without⟩ := refused 0 1 Machine.sampleSecondThread.world []
    Machine.sampleSecondThread.strand [] [] rfl rfl rfl first (by decide)
  refine ⟨earlier, run, first, other, panics, ?_, without rfl⟩
  have step : Machine.sampleSecondThread.step = .failing Machine.sampleSecondThread.world
    .offGraphicsThread [] :=
    panics
  rw [step]
  exact same

end FrameHost
