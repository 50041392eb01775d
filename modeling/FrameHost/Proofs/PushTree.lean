import FrameHost.Proofs.History
import FrameHost.Proofs.PassCourse

/-!
The events of a tree of pushes inside a pass. On the thread of the pass every push runs at once, so the tree
runs depth first and in pre-order; pushes of spawned threads wait.
-/
namespace FrameHost

/-- The scripts built from notes, faults, loops, catches, spawns, and pushes through the handles `live`. -/
inductive Tree (live : List Nat) : Script → Prop where
  | done : Tree live .done
  | note (text : String) {next : Script} (rest : Tree live next) : Tree live (.act (.note text) next)
  | raise (message : String) (next : Script) : Tree live (.act (.raise message) next)
  | chain (count : Nat) {handle : Nat} {next : Script} (mem : handle ∈ live) (rest : Tree live next) :
      Tree live (.act (.chain count handle) next)
  | times (count : Nat) {body next : Script} (inner : Tree live body) (rest : Tree live next) :
      Tree live (.nest (.times count) body next)
  | spawn {body next : Script} (inner : Tree live body) (rest : Tree live next) :
      Tree live (.nest .spawn body next)
  | catching {body next : Script} (inner : Tree live body) (rest : Tree live next) :
      Tree live (.nest .catching body next)
  | push {handle : Nat} (label : Option String) {body next : Script} (mem : handle ∈ live)
      (inner : Tree live body) (rest : Tree live next) : Tree live (.nest (.push handle label) body next)

def shown (heading : String) : Option Fault → List Event
  | none => []
  | some fault => [.said (heading ++ fault.message)]

/-- The events of a script on a thread inside a pass, oldest first, and the fault that escapes. On the
graphics thread the events of a pushed body stand between its start and its end, before any later event. -/
inductive Told (graphics : Nat) : Nat → Script → List Event → Option Fault → Prop where
  | done {thread : Nat} : Told graphics thread .done [] none
  | note {thread : Nat} (text : String) {next : Script} {es : List Event} {fault : Option Fault}
      (rest : Told graphics thread next es fault) :
      Told graphics thread (.act (.note text) next) (.said text :: es) fault
  | raise {thread : Nat} (message : String) (next : Script) :
      Told graphics thread (.act (.raise message) next) [] (some (.raised message))
  | last {thread handle : Nat} {next : Script} {es : List Event} {fault : Option Fault}
      (rest : Told graphics thread next es fault) :
      Told graphics thread (.act (.chain 0 handle) next) (.said s!"chain {0}" :: es) fault
  | link {thread count handle : Nat} {next : Script} {es : List Event} {fault : Option Fault}
      (pushed : Told graphics thread (.nest (.push handle none) (.act (.chain count handle) .done) next) es
        fault) :
      Told graphics thread (.act (.chain (count + 1) handle) next) (.said s!"chain {count + 1}" :: es) fault
  | never {thread : Nat} (body : Script) {next : Script} {es : List Event} {fault : Option Fault}
      (rest : Told graphics thread next es fault) :
      Told graphics thread (.nest (.times 0) body next) es fault
  | again {thread count : Nat} {body next : Script} {es later : List Event} {fault : Option Fault}
      (once : Told graphics thread body es none)
      (rest : Told graphics thread (.nest (.times count) body next) later fault) :
      Told graphics thread (.nest (.times (count + 1)) body next) (es ++ later) fault
  | broke {thread : Nat} (count : Nat) {body : Script} (next : Script) {es : List Event} {raised : Fault}
      (once : Told graphics thread body es (some raised)) :
      Told graphics thread (.nest (.times (count + 1)) body next) es (some raised)
  | ran (handle ticket : Nat) (label : Option String) {body next : Script} {es later : List Event}
      {fault : Option Fault} (inner : Told graphics graphics body es none)
      (rest : Told graphics graphics next later fault) :
      Told graphics graphics (.nest (.push handle label) body next)
        (.submitted .graphics ticket :: .started ticket graphics :: (es ++ .finished ticket :: later)) fault
  | failed (handle ticket : Nat) (label : Option String) {body : Script} (next : Script) {es : List Event}
      {raised : Fault} (inner : Told graphics graphics body es (some raised)) :
      Told graphics graphics (.nest (.push handle label) body next)
        (.submitted .graphics ticket :: .started ticket graphics :: es) (some raised)
  | waits {thread : Nat} (handle ticket : Nat) (label : Option String) (body : Script) {next : Script}
      {es : List Event} {fault : Option Fault} (other : thread ≠ graphics)
      (rest : Told graphics thread next es fault) :
      Told graphics thread (.nest (.push handle label) body next) (.submitted .graphics ticket :: es) fault
  | catching {thread : Nat} {body next : Script} {es later : List Event} {raised fault : Option Fault}
      (inner : Told graphics thread body es raised) (rest : Told graphics thread next later fault) :
      Told graphics thread (.nest .catching body next) (es ++ (shown "caught: " raised ++ later)) fault
  | spawn {thread child : Nat} {body next : Script} {es later : List Event} {raised fault : Option Fault}
      (inner : Told graphics child body es raised) (rest : Told graphics thread next later fault) :
      Told graphics thread (.nest .spawn body next) (es ++ (shown "spawn panicked: " raised ++ later)) fault

def Frame.RunsTree (live : List Nat) : Frame → Prop
  | script _ rest => Tree live rest
  | running _ | catching | joined => True
  | _ => False

inductive Tells (graphics : Nat) : Option Fault → List Frame → List Event → Option Fault → Prop where
  | empty {fault : Option Fault} : Tells graphics fault [] [] fault
  | script {thread : Nat} {rest : Script} {up : List Frame} {es later : List Event}
      {raised fault : Option Fault} (told : Told graphics thread rest es raised)
      (tells : Tells graphics raised up later fault) :
      Tells graphics none (.script thread rest :: up) (es ++ later) fault
  | ran {ticket : Nat} {up : List Frame} {es : List Event} {fault : Option Fault}
      (tells : Tells graphics none up es fault) :
      Tells graphics none (.running ticket :: up) (.finished ticket :: es) fault
  | caught {up : List Frame} {es : List Event} {raised fault : Option Fault}
      (tells : Tells graphics none up es fault) :
      Tells graphics raised (.catching :: up) (shown "caught: " raised ++ es) fault
  | joined {up : List Frame} {es : List Event} {raised fault : Option Fault}
      (tells : Tells graphics none up es fault) :
      Tells graphics raised (.joined :: up) (shown "spawn panicked: " raised ++ es) fault
  | skipped {thread : Nat} {rest : Script} {up : List Frame} {es : List Event} {raised : Fault}
      {fault : Option Fault} (tells : Tells graphics (some raised) up es fault) :
      Tells graphics (some raised) (.script thread rest :: up) es fault
  | broke {ticket : Nat} {up : List Frame} {es : List Event} {raised : Fault} {fault : Option Fault}
      (tells : Tells graphics (some raised) up es fault) :
      Tells graphics (some raised) (.running ticket :: up) es fault

structure World.Admits (graphics : Nat) (live : List Nat) (w : World) : Prop where
  allows : ∀ g, w.graphics = some g → ∀ thread, g.allows thread = true ↔ thread = graphics
  handles : ∀ handle ∈ live, ∃ g, w.handle? handle = some g

structure Carries (graphics : Nat) (live : List Nat) (fault : Option Fault) (f : Frame) (m : Machine) :
    Prop where
  runsTree : ∀ x ∈ m.stack, x.RunsTree live
  lighter : stackWeight 0 .initial m.stack < f.weight 0 .initial
  tells : ∀ up later out, Tells graphics m.fault (m.stack ++ up) later out →
    Tells graphics fault (f :: up) (m.world.journal.reverse ++ later) out

section
variable {graphics thread : Nat} {live : List Nat} {w : World}

theorem Tells.script_cons {rest next : Script} {e : Event} {up : List Frame} {later : List Event}
    {out : Option Fault}
    (h : Tells graphics none (.script thread next :: up) later out)
    (told : ∀ es fault, Told graphics thread next es fault → Told graphics thread rest (e :: es) fault) :
    Tells graphics none (.script thread rest :: up) (e :: later) out := by
  cases h with
  | script inner tells => exact .script (told _ _ inner) tells

theorem carries_said {rest next : Script} {text : String} (fresh : w.journal = [])
    (runsTree : Tree live next)
    (lighter : next.weight 0 < rest.weight 0)
    (told : ∀ es fault, Told graphics thread next es fault →
      Told graphics thread rest (.said text :: es) fault) :
    Carries graphics live none (.script thread rest) (.proceed (w.say text) [.script thread next]) := by
  refine ⟨by simpa [Machine.proceed, Frame.RunsTree] using runsTree, lighter, ?_⟩
  intro up later out tells
  simp only [Machine.proceed, World.say, World.record, fresh, List.reverse_singleton, List.singleton_append]
  exact Tells.script_cons tells told

/-- A push runs at once on the graphics thread and waits on any other. -/
theorem carries_post {g : Graphics} {handle ticket : Nat} {label : Option String} {body next : Script}
    (told : List Event) (fresh : w.journal = told.reverse) (allows : ∀ t, g.allows t = true ↔ t = graphics)
    (inner : Tree live body) (rest : Tree live next) {f : Script}
    (lighter : body.weight 0 + 1 + next.weight 0 < f.weight 0)
    (tells : ∀ es fault, Told graphics thread (.nest (.push handle label) body next) es fault →
      Told graphics thread f (told ++ es) fault) :
    Carries graphics live none (.script thread f)
      (w.post g thread ⟨ticket, label, body⟩ [.script thread next]) := by
  unfold World.post
  dsimp only
  by_cases own : thread = graphics
  · subst own
    rw [if_pos ((allows thread).mpr rfl)]
    refine ⟨by simp [World.start, Machine.proceed, Frame.RunsTree, inner, rest], ?_, ?_⟩
    · simp only [World.start, Machine.proceed, stackWeight_cons, stackWeight_nil, Frame.weight]
      omega
    · intro up later out above
      simp only [World.start, Machine.proceed, World.record, fresh, List.reverse_cons, List.reverse_reverse,
        List.append_assoc]
      -- Either the body ends and the script continues, or its fault skips the rest.
      cases above with
      | @script _ _ _ es _ raised _ body' above =>
        cases above with
        | ran above =>
          cases above with
          | @script _ _ _ es' _ _ _ next' above =>
            have whole := Tells.script (tells _ _ (.ran handle ticket label body' next')) above
            simpa using whole
        | broke above =>
          cases above with
          | skipped above =>
            have whole := Tells.script (tells _ _ (.failed handle ticket label next body')) above
            simpa using whole
  · have denied : ¬ g.allows thread = true := fun allowed => own ((allows thread).mp allowed)
    rw [if_neg denied]
    refine ⟨by simpa [Machine.proceed, Frame.RunsTree] using rest, ?_, ?_⟩
    · simp only [Machine.proceed, stackWeight_cons, stackWeight_nil, Frame.weight]
      omega
    · intro up later out above
      simp only [Machine.proceed, World.record, fresh, List.reverse_cons, List.reverse_reverse]
      cases above with
      | script next' above =>
        have whole := Tells.script (tells _ _ (.waits handle ticket label body own next')) above
        simpa using whole

theorem Carries.pop {fault after : Option Fault} {f : Frame} {v : World} {answer : Answer}
    (told : List Event) (wrote : v.journal = told.reverse)
    (tells : ∀ up later out, Tells graphics after up later out →
      Tells graphics fault (f :: up) (told ++ later) out) :
    Carries graphics live fault f ⟨v, after, answer, []⟩ := by
  refine ⟨by simp, f.weight_pos 0 .initial, ?_⟩
  intro up later out above
  simp only [wrote, List.reverse_reverse]
  exact tells up later out above

theorem World.Admits.advance (h : w.Admits graphics live) (fresh : w.journal = []) {rest : Script}
    (tree : Tree live rest) (answer : Answer) :
    Carries graphics live none (.script thread rest) ((Frame.script thread rest).advance w answer) := by
  have silent {laid : List Frame} {v : World} (still : v.journal = [])
      (runsTree : ∀ x ∈ laid, x.RunsTree live)
      (lighter : stackWeight 0 .initial laid < rest.weight 0)
      (tells : ∀ up later out, Tells graphics none (laid ++ up) later out →
        Tells graphics none (.script thread rest :: up) later out) :
      Carries graphics live none (.script thread rest) (.proceed v laid) := by
    refine ⟨runsTree, lighter, ?_⟩
    intro up later out above
    simp only [Machine.proceed, still, List.reverse_nil, List.nil_append]
    exact tells up later out above
  cases tree with
  | done => exact .pop [] fresh fun _ _ _ above => .script .done above
  | @note text next rest =>
    exact carries_said fresh rest (by simp [Script.weight, Op.weight]) fun es fault told => .note text told
  | raise message next => exact .pop [] fresh fun _ _ _ above => .script (.raise message next) above
  | @chain count handle next mem rest =>
    obtain ⟨g, live⟩ := h.handles handle mem
    cases count with
    | zero =>
      simp only [Frame.advance, Op.perform]
      refine carries_said fresh rest (by simp [Script.weight, Op.weight]) fun es fault told => .last told
    | succ count =>
      have still : (w.say s!"chain {count + 1}").handle? handle = some g := live
      simp only [Frame.advance, Op.perform, still]
      refine carries_post [.said s!"chain {count + 1}"] (congrArg (List.cons _) fresh)
        (h.allows g (w.handle?_graphics live)) (.chain count mem .done) rest ?_
        fun es fault told => .link told
      simp only [Script.weight, Op.weight]
      omega
  | @times count body next inner rest =>
    cases count with
    | zero =>
      refine silent fresh (by simpa [Frame.RunsTree] using rest) (by simp [Frame.weight, Script.weight]) ?_
      intro up later out above
      cases above with
      | script told above => exact .script (.never body told) above
    | succ count =>
      refine silent fresh (by simp [Frame.RunsTree, inner, Tree.times count inner rest]) ?_ ?_
      · simp only [stackWeight_cons, stackWeight_nil, Frame.weight, Script.weight, Nat.add_mul]
        omega
      · intro up later out above
        cases above with
        | @script _ _ _ es _ raised _ once above =>
          cases above with
          | script more above =>
            rw [← List.append_assoc]
            exact .script (.again once more) above
          | skipped above => exact .script (.broke count next once) above
  | @spawn body next inner rest =>
    refine silent fresh (by simp [Frame.RunsTree, inner, rest]) ?_ ?_
    · simp only [stackWeight_cons, stackWeight_nil, Frame.weight, Script.weight]
      omega
    · intro up later out above
      cases above with
      | script inside above =>
        cases above with
        | joined above =>
          cases above with
          | script told above => simpa using Tells.script (.spawn inside told) above
  | @catching body next inner rest =>
    refine silent fresh (by simp [Frame.RunsTree, inner, rest]) ?_ ?_
    · simp only [stackWeight_cons, stackWeight_nil, Frame.weight, Script.weight]
      omega
    · intro up later out above
      cases above with
      | script inside above =>
        cases above with
        | caught above =>
          cases above with
          | script told above => simpa using Tells.script (.catching inside told) above
  | @push handle label body next mem inner rest =>
    obtain ⟨g, live⟩ := h.handles handle mem
    simp only [Frame.advance, Nest.perform, live]
    refine carries_post (w := w.ticketed) [] fresh (h.allows g (w.handle?_graphics live)) inner rest ?_
      fun es fault told => told
    simp only [Script.weight]
    omega

theorem World.Admits.advances (h : w.Admits graphics live) (fresh : w.journal = []) {f : Frame}
    (runsTree : f.RunsTree live) (answer : Answer) :
    Carries graphics live none f (f.advance w answer) := by
  cases f with
  | script thread rest => exact h.advance fresh runsTree answer
  | running ticket =>
    exact .pop [.finished ticket] (congrArg (List.cons _) fresh) fun _ _ _ above => .ran above
  | catching => exact .pop [] fresh fun _ _ _ above => .caught above
  | joined => exact .pop [] fresh fun _ _ _ above => .joined above
  | _ => cases runsTree

theorem Frame.carries_unwind (fresh : w.journal = []) {f : Frame} (runsTree : f.RunsTree live)
    (raised : Fault) :
    Carries graphics live (some raised) f (f.unwind w raised) := by
  cases f with
  | script thread rest => exact .pop [] fresh fun _ _ _ above => .skipped above
  | running ticket => exact .pop [] fresh fun _ _ _ above => .broke above
  | catching =>
    exact .pop (shown "caught: " (some raised)) (congrArg (List.cons _) fresh)
      fun _ _ _ above => .caught above
  | joined =>
    exact .pop (shown "spawn panicked: " (some raised)) (congrArg (List.cons _) fresh)
      fun _ _ _ above => .joined above
  | _ => cases runsTree

def Strand.writes (σ : Strand) (w : World) : List Event :=
  (σ.on { w with journal := [] }).step.world.journal

theorem World.Admits.step {below up : List Frame} {f : Frame} {σ : Strand} (h : w.Admits graphics live)
    (stack : σ.stack = f :: (up ++ below)) (runsTree : ∀ x ∈ f :: up, x.RunsTree live) :
    ∃ laid, (σ.on w).step.stack = laid ++ below ∧ (∀ x ∈ laid, x.RunsTree live) ∧
      stackWeight 0 .initial laid < stackWeight 0 .initial (f :: up) ∧
      ∀ later out, Tells graphics (σ.on w).step.fault laid later out →
        Tells graphics σ.fault (f :: up) ((σ.writes w).reverse ++ later) out := by
  -- Steps do not read the journal, so the events written are those from an empty one.
  let blank : World := { w with journal := [] }
  have bare : blank.Admits graphics live := ⟨h.allows, h.handles⟩
  have same : (σ.on w).step = (σ.on blank).step.since ⟨w.journal, []⟩ :=
    Strand.step_since blank ⟨w.journal, []⟩ σ (.inl rfl)
  obtain ⟨fault, answer, below'⟩ := σ
  obtain rfl : below' = f :: (up ++ below) := stack
  have carried (m : Machine) (carries : Carries graphics live fault f m)
      (steps : (Strand.on ⟨fault, answer, f :: (up ++ below)⟩ blank).step
        = { m with stack := m.stack ++ (up ++ below) }) :
      ∃ laid, (Strand.on ⟨fault, answer, f :: (up ++ below)⟩ w).step.stack = laid ++ below ∧
        (∀ x ∈ laid, x.RunsTree live) ∧
        stackWeight 0 .initial laid < stackWeight 0 .initial (f :: up) ∧
        ∀ later out, Tells graphics (Strand.on ⟨fault, answer, f :: (up ++ below)⟩ w).step.fault laid later
          out → Tells graphics fault (f :: up)
            ((Strand.writes ⟨fault, answer, f :: (up ++ below)⟩ w).reverse ++ later) out := by
    have wrote : Strand.writes ⟨fault, answer, f :: (up ++ below)⟩ w = m.world.journal := by
      change (Strand.on ⟨fault, answer, f :: (up ++ below)⟩ blank).step.world.journal = _
      rw [steps]
    rw [same, steps, wrote]
    refine ⟨m.stack ++ up, (List.append_assoc ..).symm, ?_, ?_, carries.tells up⟩
    · intro x hx
      rcases List.mem_append.mp hx with new | old
      · exact carries.runsTree x new
      · exact runsTree x (List.mem_cons_of_mem f old)
    · have lighter := carries.lighter
      simp only [stackWeight_append, stackWeight_cons]
      omega
  cases fault with
  | none => exact carried _ (bare.advances rfl (runsTree f List.mem_cons_self) answer) rfl
  | some raised => exact carried _ (Frame.carries_unwind rfl (runsTree f List.mem_cons_self) raised) rfl

end

/-- The steps of one strand above the frames `below`, with their number and their events, oldest first; the
other strands move freely. -/
inductive StrandRun (place : Nat) (below : List Frame) (live : List Nat) :
    System → Nat → List Event → System → Prop where
  | rest (x : System) : StrandRun place below live x 0 [] x
  | own {w : World} {before after : List Strand} {σ : Strand} {f : Frame} {up : List Frame} {n : Nat}
      {es : List Event} {y : System} (here : before.length = place)
      (above : σ.stack = f :: (up ++ below)) (handles : ∀ handle ∈ live, ∃ g, w.handle? handle = some g)
      (later : StrandRun place below live
        ⟨(σ.on w).step.world, before ++ (σ.on w).step.strand :: after⟩ n es y) :
      StrandRun place below live ⟨w, before ++ σ :: after⟩ (n + 1) ((σ.writes w).reverse ++ es) y
  | other {x z y : System} {n : Nat} {es : List Event} (m : Move x z)
      (same : z.strands[place]? = x.strands[place]?) (later : StrandRun place below live z n es y) :
      StrandRun place below live x n es y

section
variable {b : AdapterOptions} {s x y : System} {thread place n : Nat} {earlier : List System}
  {below up : List Frame} {live : List Nat} {es : List Event} {σ : Strand}

theorem Reachable.admits (h : Reachable b s) (opened : openPass s.world.journal = some thread)
    (handles : ∀ handle ∈ live, ∃ g, s.world.handle? handle = some g) :
    s.world.Admits thread live := by
  refine ⟨?_, handles⟩
  intro g shared t
  have owned : g.affinity.owner = some thread := by
    rw [h.gated.owner g shared, h.gated.bound thread opened]
  rw [h.allows_iff shared t, h.inPass_iff t, owned, opened]
  simp [eq_comm]

theorem Passing.goes_on {z : System} {saved : Bool} {phase : Phase} (p : Passing s thread (x :: earlier))
    (h : Reachable b s) (m : Move x z) (mem : σ ∈ z.strands) (mine : .pass thread saved phase ∈ σ.stack) :
    Passing s thread (z :: x :: earlier) := by
  have inside : z.InPass thread := ⟨saved, phase, List.mem_flatMap.mpr ⟨σ, mem, mine⟩⟩
  exact p.goes m ((((p.latest h).move m).inPass_iff thread).mp inside)

theorem StrandRun.course (r : StrandRun place below live x n es y) (h : Reachable b s)
    (p : Passing s thread (x :: earlier)) (here : x.strands[place]? = some σ) {saved : Bool} {phase : Phase}
    (mine : .pass thread saved phase ∈ below) (stack : σ.stack = up ++ below)
    (runsTree : ∀ f ∈ up, f.RunsTree live) :
    (∃ later, Passing s thread (y :: later) ∧ x :: earlier <:+ y :: later) ∧
      ∃ τ left, y.strands[place]? = some τ ∧ τ.stack = left ++ below ∧
        n + stackWeight 0 .initial left ≤ stackWeight 0 .initial up ∧
        (left = [] → Tells thread σ.fault up es τ.fault) := by
  induction r generalizing σ up earlier with
  | rest x =>
    refine ⟨⟨earlier, p, List.suffix_refl _⟩, σ, up, here, stack, by omega, ?_⟩
    rintro rfl
    exact .empty
  | @own w before after τ f front n es y at_ above handles later ih =>
    have mem : σ = τ := by
      subst at_
      simpa using here.symm
    subst mem
    obtain rfl : up = f :: front := by
      have both := stack.symm.trans above
      rw [← List.cons_append] at both
      exact List.append_cancel_right both
    have admits := (p.latest h).admits p.openPass handles
    obtain ⟨laid, next, playing, lighter, tells⟩ := admits.step above runsTree
    have stays : .pass thread saved phase ∈ (σ.on w).step.strand.stack := by
      rw [show (σ.on w).step.strand.stack = _ from next]
      exact List.mem_append_right _ mine
    have goes := p.goes_on h (.turn before σ after .step) (by simp) stays
    obtain ⟨⟨later, pass, suffix⟩, τ, left, last, rest, count, told⟩ :=
      ih goes (σ := (σ.on w).step.strand) (by subst at_; simp) next playing
    refine ⟨⟨later, pass, (List.suffix_cons _ _).trans suffix⟩, τ, left, last, rest, by omega, ?_⟩
    exact fun none => tells _ _ (told none)
  | @other x z y n es m same later ih =>
    have still : z.strands[place]? = some σ := same.trans here
    have stays : .pass thread saved phase ∈ σ.stack := stack ▸ List.mem_append_right _ mine
    have goes := p.goes_on h m (List.mem_of_getElem? still) stays
    obtain ⟨⟨later, pass, suffix⟩, rest⟩ := ih goes still stack runsTree
    exact ⟨⟨later, pass, (List.suffix_cons _ _).trans suffix⟩, rest⟩

/-- For any interleaving, the pass continues until the tree has run, within the weight of its script, and
its events are those of `Told`. -/
theorem StrandRun.tree {body : Script} {answer : Answer} (r : StrandRun place below live x n es y)
    (h : Reachable b s) (p : Passing s thread (x :: earlier))
    (here : x.strands[place]? = some ⟨none, answer, .script thread body :: below⟩) {saved : Bool}
    {phase : Phase} (mine : .pass thread saved phase ∈ below) (tree : Tree live body) :
    n ≤ body.weight 0 ∧ (∃ later, Passing s thread (y :: later) ∧ x :: earlier <:+ y :: later) ∧
      ∃ τ left, y.strands[place]? = some τ ∧ τ.stack = left ++ below ∧
        (left = [] → Told thread thread body es τ.fault) := by
  have runsTree : ∀ f ∈ [Frame.script thread body], f.RunsTree live := by simpa [Frame.RunsTree] using tree
  obtain ⟨goes, τ, left, last, stack, count, tells⟩ := r.course h p here mine rfl runsTree
  simp only [stackWeight_cons, stackWeight_nil, Frame.weight] at count
  refine ⟨by omega, goes, τ, left, last, stack, ?_⟩
  intro done
  have whole := tells done
  cases whole with
  | @script _ _ _ es later raised _ told rest =>
    cases rest with
    | empty => simpa using told

end

end FrameHost
