import FrameHost.Proofs.Activations

/-!
The order of takes within an activation. The frame directly above an activation is the runnable it took
last, and all runnables it took before have finished. Hence an activation whose runnable raised takes no
more and never ends.
-/
namespace FrameHost

/-- A frame directly above an activation is its last runnable; the earlier ones have finished. -/
def Follows (journal : List Event) (f : Frame) : List Frame → Prop
  | [] => True
  | g :: _ => ∀ a, g.activation? = some a →
      ∃ k, f = .running k ∧ ∀ x, .took a x ∈ journal → x = k ∨ .finished x ∈ journal

def ActivationStack (journal : List Event) : List Frame → Prop
  | [] => True
  | f :: below => Follows journal f below ∧ ActivationStack journal below

def TopInactive : List Frame → Prop
  | [] => True
  | f :: _ => f.activation? = none

def Settled (journal : List Event) (activation : Nat) : Prop :=
  ∀ x, .took activation x ∈ journal → .finished x ∈ journal

/-- An activation on top of a strand without a fault has no unfinished runnable. -/
structure Strand.ActivationsOrdered (journal : List Event) (σ : Strand) : Prop where
  activationStack : ActivationStack journal σ.stack
  settled : σ.fault = none → ∀ f below a, σ.stack = f :: below → f.activation? = some a →
    Settled journal a

/-- An unfinished runnable is the last one its activation took, and that activation has not ended. -/
structure Sequential (journal : List Event) : Prop where
  last : ∀ a k, .took a k ∈ journal → .finished k ∉ journal → (takes a journal).getLast? = some k
  ongoing : ∀ a k c, .took a k ∈ journal → .finished k ∉ journal → .ended a c ∉ journal

section
variable {journal later es : List Event} {f : Frame} {fs below : List Frame}

theorem follows_of_topInactive (topInactive : TopInactive below) : Follows journal f below := by
  cases below with
  | nil => trivial
  | cons g below =>
    intro a own
    rw [show g.activation? = none from topInactive] at own
    cases own

theorem Follows.topInactive (h : Follows journal f below) (calm : ∀ k, f ≠ .running k) : TopInactive below := by
  cases below with
  | nil => trivial
  | cons g below =>
    cases own : g.activation? with
    | none => exact own
    | some a =>
      obtain ⟨k, eq, _⟩ := h a own
      exact absurd eq (calm k)

theorem ActivationStack.drop (h : ActivationStack journal (fs ++ below)) : ActivationStack journal below := by
  induction fs with
  | nil => exact h
  | cons f fs ih => exact ih h.2

theorem ActivationStack.topInactive (h : ActivationStack journal (fs ++ below))
    (top : fs = [] ∧ below = [] ∨ ∃ f, fs = [f])
    (calm : NoRunning fs) : TopInactive below := by
  rcases top with ⟨_, empty⟩ | ⟨f, rfl⟩
  · rw [empty]
    trivial
  · exact h.1.topInactive (calm f List.mem_cons_self)

theorem ActivationStack.lay (fs : List Frame) (h : ActivationStack journal below)
    (topInactive : TopInactive below)
    (none : ∀ f ∈ fs, f.activation? = none) :
    ActivationStack journal (fs ++ below) ∧ TopInactive (fs ++ below) := by
  induction fs with
  | nil => exact ⟨h, topInactive⟩
  | cons f fs ih =>
    obtain ⟨activationStack, covered⟩ := ih fun x hx => none x (List.mem_cons_of_mem f hx)
    exact ⟨⟨follows_of_topInactive covered, activationStack⟩, none f List.mem_cons_self⟩

theorem Loose.none (h : Loose fs) : ∀ f ∈ fs, f.activation? = none := by
  intro f hf
  have loose := h f hf
  cases f <;> first | rfl | cases loose

theorem ActivationStack.mono (h : ActivationStack journal fs) (kept : ∀ e ∈ journal, e ∈ later)
    (same : ∀ a ∈ activations fs, ∀ x, .took a x ∈ later → .took a x ∈ journal) : ActivationStack later fs := by
  induction fs with
  | nil => trivial
  | cons f fs ih =>
    have among {a : Nat} (mem : a ∈ activations fs) : a ∈ activations (f :: fs) := by
      obtain ⟨g, hg, own⟩ := mem_activations.mp mem
      exact mem_activations.mpr ⟨g, List.mem_cons_of_mem f hg, own⟩
    constructor
    · cases fs with
      | nil => trivial
      | cons g fs =>
        intro a own
        obtain ⟨k, eq, done⟩ := h.1 a own
        refine ⟨k, eq, ?_⟩
        intro x took
        have mine : a ∈ activations (g :: fs) := mem_activations.mpr ⟨g, List.mem_cons_self, own⟩
        exact (done x (same a (among mine) x took)).imp_right (kept _)
    · exact ih h.2 fun a mem => same a (among mem)

theorem Strand.ActivationsOrdered.mono {σ : Strand} (h : σ.ActivationsOrdered journal)
    (kept : ∀ e ∈ journal, e ∈ later)
    (same : ∀ a ∈ activations σ.stack, ∀ x, .took a x ∈ later → .took a x ∈ journal) :
    σ.ActivationsOrdered later := by
  constructor
  · exact h.activationStack.mono kept same
  · intro well f below a stack own x took
    have mine : a ∈ activations σ.stack := mem_activations.mpr ⟨f, by simp [stack], own⟩
    exact kept _ (h.settled well f below a stack own x (same a mine x took))

theorem Sequential.keeps (es : List Event) (h : Sequential journal) (quiet : ∀ e ∈ es, ∀ a, e.takenBy? a = none)
    (unended : ∀ a c, .ended a c ∉ es) : Sequential (es ++ journal) := by
  have old {a k : Nat} (took : .took a k ∈ es ++ journal) : .took a k ∈ journal := by
    rcases List.mem_append.mp took with new | old
    · have none := quiet _ new a
      simp [Event.takenBy?] at none
    · exact old
  constructor
  · intro a k took unfinished
    rw [takes_idle fun e he => quiet e he a]
    exact h.last a k (old took) fun done => unfinished (List.mem_append_right es done)
  · intro a k c took unfinished ended
    have ended := (List.mem_append.mp ended).resolve_left (unended a c)
    exact h.ongoing a k c (old took) (fun done => unfinished (List.mem_append_right es done)) ended

/-- An activation without unfinished runnables takes and starts the next one. -/
theorem Sequential.resumes {a k thread : Nat} (h : Sequential journal) (settled : Settled journal a)
    (going : ∀ c, .ended a c ∉ journal) :
    Sequential ([.started k thread, .took a k] ++ journal) := by
  -- What the activation took before has finished, so only the new runnable can be unfinished.
  have mine {x : Nat} (took : .took a x ∈ [.started k thread, .took a k] ++ journal)
      (unfinished : .finished x ∉ [.started k thread, .took a k] ++ journal) : x = k := by
    rcases List.mem_append.mp took with new | old
    · simpa using new
    · exact absurd (List.mem_append_right _ (settled x old)) unfinished
  constructor
  · intro b x took unfinished
    by_cases here : b = a
    · rw [here] at took ⊢
      rw [mine took unfinished, takes_took]
      simp
    · have other : .took b x ∈ journal := by simpa [here] using took
      rw [takes_idle (by simpa [Event.takenBy?] using fun same => here same.symm)]
      exact h.last b x other fun done => unfinished (List.mem_append_right _ done)
  · intro b x c took unfinished ended
    have before : .ended b c ∈ journal := by simpa using ended
    by_cases here : b = a
    · rw [here] at before
      exact going c before
    · have other : .took b x ∈ journal := by simpa [here] using took
      exact h.ongoing b x c other (fun done => unfinished (List.mem_append_right _ done)) before

theorem Sequential.ends {a count : Nat} (h : Sequential journal) (settled : Settled journal a) :
    Sequential ([.ended a count] ++ journal) := by
  constructor
  · intro b x took unfinished
    rw [takes_idle (by simp [Event.takenBy?])]
    exact h.last b x (by simpa using took) fun done => unfinished (List.mem_append_right _ done)
  · intro b x c took unfinished ended
    have before : .took b x ∈ journal := by simpa using took
    have open_ : .finished x ∉ journal := fun done => unfinished (List.mem_append_right _ done)
    rcases List.mem_append.mp ended with new | old
    · cases List.mem_singleton.mp new
      exact open_ (settled x before)
    · exact h.ongoing b x c before open_ old

end

section
variable {w : World} {fault : Option Fault} {popped below rest : List Frame} {n : Machine}

/-- Only the activation on top of the acting strand takes a runnable. -/
theorem RunnableMove.took (d : RunnableMove w fault popped n) {a x : Nat} (took : .took a x ∈ n.world.journal) :
    .took a x ∈ w.journal ∨ a ∈ activations popped := by
  obtain ⟨es, journal, news⟩ := d.activationEvents
  rw [journal] at took
  refine (List.mem_append.mp took).symm.imp_right fun new => ?_
  cases news with
  | none silent => cases silent _ new
  | began line => simp at new
  | took ticket thread well top own =>
    obtain ⟨rfl, _⟩ : a = _ ∧ x = ticket := by simpa using new
    rw [top]
    exact mem_activations.mpr ⟨_, List.mem_cons_self, own⟩
  | ended count well top own => simp at new

theorem RunnableMove.sequential (d : RunnableMove w fault popped n) (h : Sequential w.journal)
    (numbered : Numbered w (popped ++ rest))
    (settled : fault = none → ∀ f ∈ popped, ∀ a, f.activation? = some a → Settled w.journal a) :
    Sequential n.world.journal := by
  obtain ⟨es, journal, news⟩ := d.activationEvents
  rw [journal]
  cases news with
  | none silent =>
    apply h.keeps
    · intro e he a
      have other := silent e he
      cases e <;> first | rfl | cases other
    · intro a c mem
      cases silent _ mem
  | began line => exact h.keeps _ (by simp [Event.takenBy?]) (by simp)
  | @took f a ticket thread well top own =>
    have mem : f ∈ popped := by simp [top]
    apply h.resumes (settled well f mem a own)
    exact numbered.going a (mem_activations.mpr ⟨f, List.mem_append_left rest mem, own⟩)
  | @ended f a count well top own =>
    exact h.ends (settled well f (by simp [top]) a own)

theorem Strand.ActivationsOrdered.of_topInactive {journal : List Event} {σ : Strand}
    (activationStack : ActivationStack journal σ.stack)
    (topInactive : TopInactive σ.stack) : σ.ActivationsOrdered journal := by
  refine ⟨activationStack, ?_⟩
  intro _ f below a stack own
  rw [stack] at topInactive
  rw [show f.activation? = none from topInactive] at own
  cases own

section
variable {journal : List Event} {raised : Option Fault} {answer : Answer}

theorem Strand.ActivationsOrdered.lay (fs : List Frame) (base : ActivationStack journal below)
    (topInactive : TopInactive below)
    (none : ∀ f ∈ fs, f.activation? = none) :
    (⟨raised, answer, fs ++ below⟩ : Strand).ActivationsOrdered journal := by
  obtain ⟨activationStack, top⟩ := base.lay fs topInactive none
  exact .of_topInactive activationStack top

theorem Strand.ActivationsOrdered.begin {f : Frame} {fs : List Frame} {a : Nat}
    (base : ActivationStack journal below)
    (topInactive : TopInactive below) (loose : Loose fs) (own : f.activation? = some a)
    (fresh : ∀ x, .took a x ∉ journal) :
    (⟨raised, answer, f :: fs ++ below⟩ : Strand).ActivationsOrdered journal := by
  obtain ⟨activationStack, top⟩ := base.lay fs topInactive loose.none
  refine ⟨⟨follows_of_topInactive top, activationStack⟩, ?_⟩
  intro _ g later b eq mine x took
  obtain rfl : f = g := (List.cons.inj eq).1
  obtain rfl : a = b := Option.some.inj (own.symm.trans mine)
  exact absurd took (fresh x)

theorem Strand.ActivationsOrdered.starts {g : Frame} {a k thread : Nat} {body : Script}
    (base : ActivationStack journal below)
    (topInactive : TopInactive below) (own : g.activation? = some a)
    (done : ∀ x, .took a x ∈ journal → x = k ∨ .finished x ∈ journal) :
    (⟨raised, answer, .script thread body :: .running k :: g :: below⟩ : Strand).ActivationsOrdered journal := by
  apply Strand.ActivationsOrdered.of_topInactive
  · refine ⟨follows_of_topInactive rfl, ?_, follows_of_topInactive topInactive, base⟩
    intro b mine
    obtain rfl : a = b := Option.some.inj (own.symm.trans mine)
    exact ⟨k, rfl, done⟩
  · rfl

theorem Strand.ActivationsOrdered.finishes {older : List Event} {k : Nat}
    (follows : Follows older (.running k) below)
    (base : ActivationStack journal below) (kept : ∀ e ∈ older, e ∈ journal) (finished : .finished k ∈ journal)
    (same : ∀ a x, .took a x ∈ journal → .took a x ∈ older) :
    (⟨raised, answer, below⟩ : Strand).ActivationsOrdered journal := by
  refine ⟨base, ?_⟩
  intro _ f later a stack own x took
  obtain rfl : below = f :: later := stack
  obtain ⟨ticket, eq, done⟩ := follows a own
  cases eq
  rcases done x (same a x took) with rfl | before
  · exact finished
  · exact kept _ before

end

theorem RunnableMove.activationsOrdered (d : RunnableMove w fault popped n)
    (activationStack : ActivationStack w.journal (popped ++ below))
    (top : popped = [] ∧ below = [] ∨ ∃ f, popped = [f])
    (numbered : Numbered w (popped ++ (below ++ rest)))
    (settled : fault = none → ∀ f ∈ popped, ∀ a, f.activation? = some a → Settled w.journal a) :
    (⟨n.fault, n.answer, n.stack ++ below⟩ : Strand).ActivationsOrdered n.world.journal := by
  have kept := d.kept
  have took {a x : Nat} := d.took (a := a) (x := x)
  have base : ActivationStack n.world.journal below := by
    have single := numbered.single
    rw [activations_append, activations_append] at single
    apply activationStack.drop.mono kept
    intro a mem x taken
    apply (took taken).resolve_right
    intro popped
    exact (List.nodup_append.mp single).2.2 a popped a (List.mem_append_left _ mem) rfl
  have topInactive (calm : NoRunning popped) : TopInactive below := activationStack.topInactive top calm
  -- An activation with the next number has taken nothing yet.
  have fresh {line : Line} {ws : List Nat} (writes : w.Writes [.began line w.tickets ws] n.world) (x : Nat) :
      .took w.tickets x ∉ n.world.journal := by
    rw [← mem_takes, numbered.untaken writes]
    exact List.not_mem_nil
  -- What the activation on top took before has finished, as it may go on.
  have done {a k thread : Nat} {f : Frame} (well : fault = none) (mem : f ∈ popped)
      (own : f.activation? = some a) (writes : w.Writes [.started k thread, .took a k] n.world) :
      ∀ x, .took a x ∈ n.world.journal → x = k ∨ .finished x ∈ n.world.journal := by
    intro x taken
    rw [writes.journal] at taken
    rcases List.mem_append.mp taken with new | old
    · exact .inl (by simpa using new)
    · exact .inr (kept _ (settled well f mem a own x old))
  cases d with
  | aside same calm loose => exact .lay n.stack base (topInactive calm) loose.none
  | finishes ticket world stack =>
    rw [stack]
    refine .finishes activationStack.1 base kept ?_ fun a x taken => ?_
    · rw [world]
      exact List.mem_cons_self
    · exact (took taken).resolve_right (by simp [activations, Frame.activation?])
  | abandons ticket world stack failing =>
    rw [stack]
    refine ⟨base, ?_⟩
    intro well
    rw [show n.fault = none from well] at failing
    cases failing
  | queues line r own writes tickets last others received calm loose =>
    exact .lay n.stack base (topInactive calm) loose.none
  | @inline _ laid _ thread body writes tickets waiting calm stack loose =>
    rw [stack]
    refine .lay (.script thread body :: .running w.tickets :: laid) base (topInactive calm) ?_
    exact List.forall_mem_cons.mpr ⟨rfl, List.forall_mem_cons.mpr ⟨rfl, loose.none⟩⟩
  | refuses label writes tickets waiting gone calm loose =>
      exact .lay n.stack base (topInactive calm) loose.none
  | takes line thread own writes tickets emptied others calm stack loose =>
    rw [stack]
    exact .begin base (topInactive calm) loose rfl (fresh writes)
  | rounds thread writes tickets waiting calm stack loose =>
    rw [stack]
    exact .begin base (topInactive calm) loose rfl (fresh writes)
  | calls thread activation count r rest line well own rests writes tickets waiting stack =>
    rw [stack]
    exact .starts base (topInactive (by simp [NoRunning])) rfl (done well List.mem_cons_self rfl writes)
  | serves thread activation queued ran r rest well short waits writes tickets left others stack =>
    rw [stack]
    exact .starts base (topInactive (by simp [NoRunning])) rfl (done well List.mem_cons_self rfl writes)
  | closes thread activation count line well own rests writes tickets waiting stack =>
    rw [stack]
    exact .lay [] base (topInactive (by simp [NoRunning])) (by simp)
  | returns thread activation queued ran well spent writes tickets waiting stack =>
    rw [stack]
    exact .lay [] base (topInactive (by simp [NoRunning])) (by simp)
  | spills thread activation count rest line unwinding own rests world stack =>
    rw [stack]
    exact .lay [] base (topInactive (by simp [NoRunning])) (by simp)

end

theorem World.LosesLines.idle {w v : World} (h : w.LosesLines v) :
    ∃ es, v.journal = es ++ w.journal ∧ ∀ e ∈ es, e.isIdle = true := by
  induction h with
  | keepsRunnables h =>
    obtain ⟨es, journal, apart⟩ := h.journal
    exact ⟨es, journal, fun e he => Event.isIdle_of_isApart (apart e he)⟩
  | losesLine line h => exact h.idle
  | trans _ _ first second =>
    obtain ⟨es, he, idle⟩ := first
    obtain ⟨ds, hd, calm⟩ := second
    refine ⟨ds ++ es, by rw [hd, he, List.append_assoc], ?_⟩
    intro e mem
    rcases List.mem_append.mp mem with new | old
    · exact calm e new
    · exact idle e old

theorem World.LosesLines.recalls {w v : World} (h : w.LosesLines v) {e : Event} {a : Nat}
    (own : e.activation? = some a)
    (mem : e ∈ v.journal) : e ∈ w.journal := by
  obtain ⟨es, journal, idle⟩ := h.idle
  rw [journal] at mem
  refine (List.mem_append.mp mem).resolve_left fun new => ?_
  rw [Event.activation?_idle (idle e new)] at own
  cases own

structure ActivationsOrdered (journal : List Event) (strands : List Strand) : Prop where
  sequential : Sequential journal
  strands : ∀ σ ∈ strands, σ.ActivationsOrdered journal

theorem ActivationsOrdered.losesLines {w v : World} {l : List Strand} (h : ActivationsOrdered w.journal l)
    (losesLines : w.LosesLines v) :
    ActivationsOrdered v.journal l := by
  obtain ⟨es, journal, idle⟩ := losesLines.idle
  have unended (a c : Nat) (mem : .ended a c ∈ es) : False := by cases idle _ mem
  rw [journal]
  constructor
  · exact h.sequential.keeps es (fun e he => Event.takenBy?_idle (idle e he)) unended
  · intro σ hσ
    apply (h.strands σ hσ).mono fun e he => List.mem_append_right es he
    intro a _ x took
    refine (List.mem_append.mp took).resolve_left fun new => ?_
    cases idle _ new

/-- A runnable move preserves the order for all strands: the other activations take nothing. -/
theorem ActivationsOrdered.moves {w : World} {σ : Strand} {popped below : List Frame}
    {others l k : List Strand}
    {n : Machine} (h : ActivationsOrdered w.journal l) (d : RunnableMove w σ.fault popped n)
    (stack : σ.stack = popped ++ below)
    (top : popped = [] ∧ below = [] ∨ ∃ f, popped = [f])
    (numbered : Numbered w (popped ++ (below ++ framesOf others)))
    (old : ∀ τ, τ ∈ l ↔ τ = σ ∨ τ ∈ others)
    (new : ∀ τ, τ ∈ k ↔ τ = ⟨n.fault, n.answer, n.stack ++ below⟩ ∨ τ ∈ others) :
    ActivationsOrdered n.world.journal k := by
  have acting := h.strands σ ((old σ).mpr (.inl rfl))
  have settled : σ.fault = none → ∀ f ∈ popped, ∀ a, f.activation? = some a → Settled w.journal a := by
    intro well f mem a own
    rcases top with ⟨none, _⟩ | ⟨g, one⟩
    · simp [none] at mem
    · obtain rfl : f = g := by simpa [one] using mem
      exact acting.settled well f below a (by rw [stack, one]; rfl) own
  constructor
  · exact d.sequential h.sequential numbered settled
  · intro τ hτ
    rcases (new τ).mp hτ with rfl | away
    · exact d.activationsOrdered (stack ▸ acting.activationStack) top numbered settled
    · apply (h.strands τ ((old τ).mpr (.inr away))).mono d.kept
      intro a mem x took
      apply (d.took took).resolve_right
      intro popped
      have single := numbered.single
      rw [activations_append] at single
      refine (List.nodup_append.mp single).2.2 a popped a ?_ rfl
      obtain ⟨f, hf, own⟩ := mem_activations.mp mem
      have among : f ∈ framesOf others := List.mem_flatMap.mpr ⟨τ, away, hf⟩
      exact mem_activations.mpr ⟨f, List.mem_append_right _ among, own⟩

theorem InUse.activationsOrdered {s : System} (h : InUse s) : ActivationsOrdered s.world.journal s.strands := by
  induction h with
  | idle strands blank =>
    constructor
    · constructor
      · intro a k took
        cases blank.events _ took
      · intro a k c took
        cases blank.events _ took
    · intro σ hσ
      obtain rfl := List.eq_of_mem_replicate hσ
      exact .of_topInactive trivial trivial
  | next used a ih =>
    cases a with
    | external e => exact ih.losesLines e.losesLines
    | move m =>
      obtain ⟨σ, popped, below, others, n, act⟩ := m.act
      obtain ⟨u, v, losesLines, runnableMove, keepsRunnables⟩ := (used.runnableTurn act).steps
      have numbered := (kept_numbered.inUse used).perm act.before
      have ledger := used.ledger.perm act.before
      have moved := (ih.losesLines losesLines).moves runnableMove act.stack act.top
        (kept_numbered.losesLines losesLines ledger numbered) act.old act.new
      rw [act.world]
      exact moved.losesLines (.keepsRunnables keepsRunnables)

end FrameHost
