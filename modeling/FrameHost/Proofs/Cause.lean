import FrameHost.Proofs.Batch

/-!
The causes of a start or a destruction in one turn: an inline call, the next call of a batch, a round on the
channel, a fault that destroys a batch, the end of a queue or of the channel, or a dispatch that is refused.
-/
namespace FrameHost

def Event.settles : Event → Bool
  | started .. | destroyed .. => true
  | _ => false

/-- Why the event of a start or destruction is written by a turn that pops `popped` and leads to `v`. -/
inductive Cause (w : World) (fault : Option Fault) (popped : List Frame) (v : World) :
    Event → Prop where
  | inline {g : Graphics} (thread : Nat) (shared : w.graphics = some g)
      (allowed : g.allows thread = true)
      (within : openPass v.journal = openPass w.journal) :
      Cause w fault popped v (.started w.tickets thread)
  | called {r : Runnable} {rest : List Runnable} {activation count : Nat} (thread : Nat)
      (top : popped = [.batch thread activation (r :: rest) count])
      (within : openPass v.journal = openPass w.journal) :
      Cause w fault popped v (.started r.ticket thread)
  | served {r : Runnable} (thread : Nat) (waits : r ∈ w.waiting .mainThread) :
      Cause w fault popped v (.started r.ticket thread)
  | spilled {r : Runnable} {rest : List Runnable} {thread activation count : Nat}
      (failing : fault.isSome = true)
      (top : popped = [.batch thread activation rest count]) (mem : r ∈ rest) :
      Cause w fault popped v (.destroyed r.ticket r.label)
  | released {r : Runnable} (waits : r ∈ w.waiting .graphics) (gone : v.graphics = none)
      (unhosted : v.host = none)
      (unhandled : v.handles.any id = false) : Cause w fault popped v (.destroyed r.ticket r.label)
  | unreceived {r : Runnable} (waits : r ∈ w.waiting .mainThread) :
      Cause w fault popped v (.destroyed r.ticket r.label)
  | refused (label : Option String) (submitted : .submitted .mainThread w.tickets ∈ v.journal) :
      Cause w fault popped v (.destroyed w.tickets label)

def World.Explains (w v : World) (why : Event → Prop) : Prop :=
  ∀ e ∈ v.journal, e.settles = true → e ∈ w.journal ∨ why e

namespace World.Explains

variable {u v w : World} {why : Event → Prop}

theorem of_silent (h : w.Silent v) : w.Explains v why := by
  intro e he settles
  obtain ⟨es, journal, none⟩ := h.journal
  rw [journal] at he
  rcases List.mem_append.mp he with new | old
  · have untouched := none e new
    cases e <;> simp [Event.settles, Event.isRunnableEvent] at settles untouched
  · exact .inl old

theorem trans (h : u.Explains v why) (k : v.Explains w why) : u.Explains w why := by
  intro e he settles
  rcases k e he settles with old | new
  · exact h e old settles
  · exact .inr new

theorem record (w : World) {e : Event} (h : e.settles = true → why e) :
    w.Explains (w.record e) why := by
  intro x hx settles
  rcases List.mem_cons.mp hx with rfl | old
  · exact .inr (h settles)
  · exact .inl old

theorem pass (w : World) {e : Event} (h : e.settles = false) : w.Explains (w.record e) why :=
  record w fun settles => by simp [h] at settles

theorem destroyAll (w : World) {rs : List Runnable} (h : ∀ r ∈ rs, why (.destroyed r.ticket r.label)) :
    w.Explains (w.destroyAll rs) why := by
  intro e he _
  rw [World.destroyAll, World.journal_recordAll] at he
  rcases List.mem_append.mp he with new | old
  · obtain ⟨r, hr, rfl⟩ := List.mem_map.mp (List.mem_reverse.mp new)
    exact .inr (h r hr)
  · exact .inl old

theorem of_journal (h : v.journal = w.journal) : w.Explains v why := fun _ he _ => .inl (h ▸ he)

end World.Explains

namespace World

theorem discardCalls_eq (w : World) (q : CallQueue) :
    ∃ j, w.discardCalls q = { w with journal := j } := by
  unfold discardCalls destroyAll
  split
  · exact recordAll_eq w _
  · exact recordAll_eq (w.log _) _

theorem discardCalls_explains (w : World) (q : CallQueue) {why : Event → Prop}
    (h : ∀ r ∈ q.calls, why (.destroyed r.ticket r.label)) : w.Explains (w.discardCalls q) why := by
  unfold discardCalls
  split
  · exact .destroyAll _ h
  · exact (Explains.pass w rfl).trans (.destroyAll _ h)

theorem releaseGraphics_explains (w : World) {why : Event → Prop}
    (h : ∀ r ∈ w.waiting .graphics, w.releaseGraphics.graphics = none → w.releaseGraphics.host = none →
      w.releaseGraphics.handles.any id = false → why (.destroyed r.ticket r.label)) :
    w.Explains w.releaseGraphics why := by
  unfold releaseGraphics at h ⊢
  split
  · exact .of_journal rfl
  · rename_i alone
    rw [if_neg alone] at h
    simp only [Bool.or_eq_true, not_or, Bool.not_eq_true, Option.isSome_eq_false_iff,
      Option.isNone_iff_eq_none] at alone
    obtain ⟨unhosted, unhandled⟩ := alone
    split
    · exact .of_journal rfl
    · rename_i g shared
      simp only [shared, waiting, Option.getD_some] at h
      obtain ⟨j, eq⟩ := discardCalls_eq { w with graphics := none } g.queue
      have gone : w.Explains { w with graphics := none } why := .of_journal rfl
      refine gone.trans (discardCalls_explains _ g.queue fun r hr => h r hr ?_ ?_ ?_)
      · rw [eq]
      · rw [eq]
        exact unhosted
      · rw [eq]
        exact unhandled

theorem dropReceiver_eq (w : World) :
    ∃ j, w.dropReceiver = { w with channel :=
      { w.channel with receiver := .gone, waiting := [] }, journal := j } :=
  recordAll_eq { w with channel := { w.channel with receiver := .gone, waiting := [] } } _

theorem dropReceiver_explains (w : World) {why : Event → Prop}
    (h : ∀ r ∈ w.waiting .mainThread, why (.destroyed r.ticket r.label)) :
    w.Explains w.dropReceiver why := by
  have gone : w.Explains { w with channel := { w.channel with receiver := .gone, waiting := [] } }
      why := .of_journal rfl
  exact gone.trans (.destroyAll _ h)

theorem releaseGraphics_eq (w : World) :
    ∃ j g, w.releaseGraphics = { w with graphics := g, journal := j } := by
  unfold releaseGraphics
  split
  · exact ⟨w.journal, w.graphics, rfl⟩
  · split
    · exact ⟨w.journal, w.graphics, rfl⟩
    · rename_i g _
      obtain ⟨j, eq⟩ := discardCalls_eq { w with graphics := none } g.queue
      exact ⟨j, none, eq⟩

theorem dropHost_explains (w : World) (fault : Option Fault) (popped : List Frame) :
    w.Explains w.dropHost (Cause w fault popped w.dropHost) := by
  unfold dropHost
  split
  · exact .of_journal rfl
  · dsimp only
    obtain ⟨i, g, released⟩ := releaseGraphics_eq { w with host := none }
    have gone {why : Event → Prop} : w.Explains { w with host := none } why := .of_journal rfl
    split
    · obtain ⟨j, left⟩ := dropReceiver_eq ({ w with host := none } : World).releaseGraphics
      refine (gone.trans (releaseGraphics_explains _ ?_)).trans (dropReceiver_explains _ ?_)
      · intro r waits noGraphics unhosted unhandled
        refine .released waits ?_ ?_ ?_ <;> rw [left]
        · exact noGraphics
        · exact unhosted
        · exact unhandled
      · intro r waits
        rw [released] at waits
        exact .unreceived waits
    · refine gone.trans (releaseGraphics_explains _ ?_)
      intro r waits noGraphics unhosted unhandled
      exact .released waits noGraphics unhosted unhandled

end World

theorem HostEffect.cause {w : World} {others : List Frame} {fault : Option Fault} {popped : List Frame}
    {n : Machine} (d : HostEffect w others fault popped n) :
    w.Explains n.world (Cause w fault popped n.world) := by
  cases d with
  | dropHost free => exact w.dropHost_explains fault []
  | @ask v h still hosted r free =>
    exact .of_silent ((World.Still.of_quiet still).trans (World.KeepsRunnables.ask v h r).still).toSilent
  | enter thread shared owned =>
    rw [w.enterPass_eq thread shared owned]
    refine World.Explains.trans (v := { w with graphics := _ }.record (.passBegan thread)) ?_
      (.of_silent (World.silent_drain _ _ _ _ _).toSilent)
    exact World.Explains.pass w rfl
  | target thread saved => exact .of_silent (World.KeepsRunnables.readTarget w thread saved).still.toSilent
  | loaded thread saved settings =>
    exact .of_silent (World.KeepsRunnables.finishLoad w thread saved settings).still.toSilent
  | present thread saved => exact .of_silent (World.KeepsRunnables.present w saved).still.toSilent
  | abort thread saved phase =>
    exact .of_silent ((World.KeepsRunnables.leaveGate w saved).still.trans (World.Still.record _ rfl)).toSilent

theorem StepEffect.cause {w : World} {others : List Frame} {fault : Option Fault} {popped : List Frame}
    {n : Machine}
    (d : StepEffect w others fault popped n) : w.Explains n.world (Cause w fault popped n.world) := by
  cases d with
  | quiet still light plain => exact .of_silent (World.Still.of_quiet still).toSilent
  | finish ticket => exact .pass w rfl
  | abandon ticket => exact .of_journal rfl
  | @post _ laid v g thread label body still light plain shared =>
    have before : w.graphics = some g := still.graphics ▸ shared
    refine World.Explains.trans (.of_silent (World.Still.of_quiet still).toSilent) ?_
    unfold World.post
    dsimp only
    split
    · rename_i allowed
      refine (World.Explains.pass v rfl).trans (World.Explains.record _ fun _ => ?_)
      have same : (v.runnable label body).ticket = w.tickets := still.tickets
      rw [same]
      exact .inline thread before allowed (World.KeepsGate.of_quiet still).openPass
    · exact World.Explains.pass v rfl
  | dispatch label body light plain =>
    unfold World.dispatch
    dsimp only
    split
    · refine (World.Explains.pass w rfl).trans
        ((World.Explains.record _ fun _ => ?_).trans (World.Explains.pass _ rfl))
      exact .refused label (List.mem_cons_of_mem _ (List.mem_cons_of_mem _ List.mem_cons_self))
    · exact World.Explains.pass w rfl
  | enqueue label body light plain held => exact World.Explains.pass w rfl
  | drain thread light plain held =>
    have emptied {why : Event → Prop} : w.Explains { w with standalone := some .empty } why :=
      .of_journal rfl
    exact emptied.trans (.of_silent (World.silent_drain _ _ _ _ _).toSilent)
  | round thread light plain => exact World.Explains.pass w rfl
  | nextCall thread activation rest count =>
    cases rest with
    | nil => exact World.Explains.pass w rfl
    | cons r rest =>
      exact (World.Explains.pass w rfl).trans
        (World.Explains.record _ fun _ => .called thread rfl rfl)
  | nextMain thread activation queued ran =>
    unfold World.nextMain
    split
    · rename_i r waiting _ waits
      have served : r ∈ w.waiting .mainThread := by
        change r ∈ w.channel.waiting
        simp [waits]
      have taken {why : Event → Prop} :
          w.Explains { w with channel := { w.channel with waiting } } why := .of_journal rfl
      exact (taken.trans (World.Explains.pass _ rfl)).trans
        (World.Explains.record _ fun _ => .served thread served)
    · split
      · exact World.Explains.pass w rfl
      · exact (World.Explains.pass w rfl).trans
          (World.Explains.pass _ rfl)
  | spill thread activation rest count unwinding =>
    exact .destroyAll w fun r hr => .spilled (by simp [unwinding]) rfl hr
  | dropHandle slot still handles light plain =>
    have emptied {why : Event → Prop} : w.Explains { w with handles := w.handles.set slot false } why :=
      .of_journal rfl
    refine (emptied.trans (World.releaseGraphics_explains _ ?_)).trans
      (.of_silent (World.Still.of_quiet still).toSilent)
    intro r waits gone unhosted unhandled
    refine .released waits (still.graphics.trans gone) ?_ ?_
    · have same := still.adapter
      rw [show (w.dropHandle slot).host = none from unhosted] at same
      exact Option.map_eq_none_iff.mp same
    · exact (congrArg (·.any id) handles).trans unhandled
  | dropReceiver => exact w.dropReceiver_explains fun r hr => .unreceived hr
  | render thread hosted free => exact .of_journal rfl
  | redraw thread hosted free => exact World.Explains.pass w rfl
  | host d => exact d.cause

end FrameHost
