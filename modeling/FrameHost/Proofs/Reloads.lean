import FrameHost.Proofs.AbortedReload

/-!
Every reload is caused by a request. A pass consumes the pending requests before it calls the renderer, and
only requests make others pending, whatever size the renderer reports. So between two reloads there is a
request.
-/
namespace FrameHost

def asked : List Event → Bool
  | [] => false
  | .requested _ :: _ => true
  | .reloaded .. :: _ => false
  | _ :: older => asked older

/-- Every reload follows a request made since the previous reload. -/
def ReloadsRequested : List Event → Prop
  | [] => True
  | .reloaded .. :: older => asked older = true ∧ ReloadsRequested older
  | _ :: older => ReloadsRequested older

def Event.isReload : Event → Bool
  | reloaded .. => true
  | _ => false

def Event.isRequest : Event → Bool
  | requested _ => true
  | _ => false

def Adapter.owes (a : Adapter) : Bool := a.pending.isSome || a.resize.target.isSome

def Apart (es : List Event) : Prop := ∀ e ∈ es, e.isReload = false ∧ e.isRequest = false

inductive PendingMove (w v : World) : Prop where
  | eases (es : List Event) (journal : v.journal = es ++ w.journal) (apart : Apart es)
      (fewer : ∀ a, v.adapter? = some a → a.owes = true → ∃ was, w.adapter? = some was ∧ was.owes = true)
  | grows (es ds : List Event) (r : AdapterRequest)
      (journal : v.journal = ds ++ .requested r :: (es ++ w.journal)) (before : Apart es) (after : Apart ds)
  | unloads {a now : Adapter} (es : List Event) (settings : Settings) (size : Resolution)
      (journal : v.journal = .reloaded settings size :: (es ++ w.journal)) (apart : Apart es)
      (was : w.adapter? = some a) (owed : a.owes = true) (is : v.adapter? = some now)
      (nothing : now.owes = false)

structure PendingRequested (w : World) : Prop where
  owed : ∀ a, w.adapter? = some a → a.owes = true → asked w.journal = true
  reloadsRequested : ReloadsRequested w.journal

namespace Adapter

variable {a : Adapter} {current : Resolution}

theorem owes_of_due {r : Reload} (due : a.due current = some r) : a.owes = true := by
  unfold Adapter.due at due
  split at due
  · cases due
  · split at due
    · rename_i changed
      rcases Bool.or_eq_true_iff.mp changed with settings | size
      · obtain ⟨s, filtered⟩ := Option.isSome_iff_exists.mp settings
        simp [owes, (Option.filter_eq_some_iff.mp filtered).1]
      · obtain ⟨target, filtered⟩ := Option.isSome_iff_exists.mp size
        simp [owes, (Option.filter_eq_some_iff.mp filtered).1]
    · cases due

theorem owes_after (a : Adapter) (current : Resolution) :
    (a.update current).2.owes = (a.settling && a.owes) := by
  cases holds : a.settling <;> simp [owes, pending_after, target_after, holds]

theorem settled_of_due {r : Reload} (due : a.due current = some r) : a.settling = false := by
  cases holds : a.settling with
  | false => rfl
  | true => simp [due_of_settling holds] at due

end Adapter

section
variable {es older : List Event}

theorem asked_append (apart : Apart es) (older : List Event) :
    asked (es ++ older) = asked older := by
  induction es with
  | nil => rfl
  | cons e es ih =>
    have rest := ih fun x hx => apart x (List.mem_cons_of_mem e hx)
    obtain ⟨unloaded, unasked⟩ := apart e List.mem_cons_self
    cases e with
    | requested => cases unasked
    | reloaded => cases unloaded
    | _ => exact rest

theorem reloadsRequested_append (apart : Apart es) (reloadsRequested : ReloadsRequested older) :
    ReloadsRequested (es ++ older) := by
  induction es with
  | nil => exact reloadsRequested
  | cons e es ih =>
    have rest := ih fun x hx => apart x (List.mem_cons_of_mem e hx)
    have head := (apart e List.mem_cons_self).1
    cases e <;> first | exact rest | cases head

theorem apart_nil : Apart [] := by simp [Apart]

theorem apart_cons {e : Event} (unloaded : e.isReload = false) (unasked : e.isRequest = false)
    (h : Apart es) : Apart (e :: es) := by
  intro x hx
  rcases List.mem_cons.mp hx with rfl | mem
  · exact ⟨unloaded, unasked⟩
  · exact h x mem

theorem apart_append (h : Apart es) (k : Apart older) : Apart (es ++ older) := by
  intro x hx
  rcases List.mem_append.mp hx with mem | mem
  · exact h x mem
  · exact k x mem

theorem apart_of_chores (h : ∀ e ∈ es, e.isChore = true) : Apart es := by
  intro e he
  have chore := h e he
  cases e <;> first | exact ⟨rfl, rfl⟩ | cases chore

theorem ReloadsRequested.of_append (h : ReloadsRequested (es ++ older)) : ReloadsRequested older := by
  induction es with
  | nil => exact h
  | cons e es ih => cases e <;> first | exact ih h | exact ih h.2

theorem request_since {settings : Settings} {size : Resolution}
    (h : asked (es ++ .reloaded settings size :: older) = true) : ∃ r, .requested r ∈ es := by
  induction es with
  | nil => cases h
  | cons e es ih =>
    have later (rest : asked (es ++ .reloaded settings size :: older) = true) :
        ∃ r, .requested r ∈ e :: es := by
      obtain ⟨r, mem⟩ := ih rest
      exact ⟨r, List.mem_cons_of_mem e mem⟩
    cases e with
    | requested r => exact ⟨r, List.mem_cons_self⟩
    | reloaded => cases h
    | _ => exact later h

/-- There are no more reloads than requests, and fewer if a request was made since the last reload. -/
theorem ReloadsRequested.count_le {journal : List Event} (h : ReloadsRequested journal) :
    journal.countP Event.isReload + (asked journal).toNat ≤ journal.countP Event.isRequest := by
  induction journal with
  | nil => exact Nat.le_refl 0
  | cons e older ih =>
    cases e with
    | requested r =>
      have before := ih h
      simp only [List.countP_cons, Event.isReload, Event.isRequest, asked, Bool.toNat_true]
      simp
      omega
    | reloaded settings size =>
      have before := ih h.2
      rw [h.1] at before
      simpa [List.countP_cons, Event.isReload, Event.isRequest, asked] using before
    | _ => simpa [List.countP_cons, Event.isReload, Event.isRequest, asked] using ih h

end

section
variable {w v : World} {others popped : List Frame} {fault : Option Fault} {n : Machine}

theorem PendingMove.same (es : List Event) (journal : v.journal = es ++ w.journal) (apart : Apart es)
    (adapter : v.adapter? = w.adapter?) : PendingMove w v :=
  .eases es journal apart fun a now owes => ⟨a, adapter ▸ now, owes⟩

theorem AdapterMove.pendingMove (m : AdapterMove w others fault popped n) : PendingMove w n.world := by
  cases m with
  | aside chores adapter =>
    obtain ⟨es, journal, chores⟩ := chores
    exact .same es journal (apart_of_chores chores) adapter
  | departs chores gone =>
    obtain ⟨es, journal, chores⟩ := chores
    exact .eases es journal (apart_of_chores chores) (by simp [gone])
  | asks r before after =>
    obtain ⟨es, first, chores⟩ := before
    obtain ⟨ds, second, later⟩ := after
    refine .grows es ds r ?_ (apart_of_chores chores) (apart_of_chores later)
    rw [second, World.record, first]
  | @begins _ _ thread _ _ _ chores adapter =>
    obtain ⟨es, journal, chores⟩ := chores
    refine .same (es ++ [.passBegan thread]) ?_ ?_ adapter
    · rw [journal, World.record, List.append_assoc]
      rfl
    · exact apart_append (apart_of_chores chores) (apart_cons rfl rfl apart_nil)
  | misses journal adapter =>
    exact .same [_, _, _] journal (apart_cons rfl rfl (apart_cons rfl rfl (apart_cons rfl rfl apart_nil)))
      adapter
  | @draws _ _ _ a logs _ chores was idle journal now =>
    refine .eases (.renderCalled :: (logs ++ [.targetRead true])) (by rw [journal]; simp) ?_ ?_
    · exact apart_cons rfl rfl (apart_append (apart_of_chores chores) (apart_cons rfl rfl apart_nil))
    · intro a' now' owes
      cases now.symm.trans now'
      rw [a.owes_after] at owes
      exact ⟨a, was, (Bool.and_eq_true_iff.mp owes).2⟩
  | @loads _ _ _ a logs r _ chores was due journal now =>
    rw [a.update_reload] at due
    refine .unloads (logs ++ [.targetRead true]) r.settings r.resolution (by rw [journal]; simp) ?_ was
      (Adapter.owes_of_due due) now ?_
    · exact apart_append (apart_of_chores chores) (apart_cons rfl rfl apart_nil)
    · rw [a.owes_after, Adapter.settled_of_due due]
      rfl
  | @returns _ _ _ a settings _ was journal now =>
    refine .eases [.renderCalled] journal (apart_cons rfl rfl apart_nil) ?_
    intro a' now' owes
    cases now.symm.trans now'
    exact ⟨a, was, owes⟩
  | presents told journal adapter =>
    refine .same [_, _] journal (apart_cons rfl rfl ?_) adapter
    rcases told with rfl | ⟨error, rfl⟩ <;> exact apart_cons rfl rfl apart_nil
  | aborts journal adapter => exact .same [_] journal (apart_cons rfl rfl apart_nil) adapter

theorem PendingMove.pendingRequested (b : PendingMove w v) (h : PendingRequested w) : PendingRequested v := by
  cases b with
  | eases es journal apart fewer =>
    constructor
    · intro a now owes
      obtain ⟨was, before, owed⟩ := fewer a now owes
      rw [journal, asked_append apart]
      exact h.owed was before owed
    · rw [journal]
      exact reloadsRequested_append apart h.reloadsRequested
  | grows es ds r journal before after =>
    constructor
    · intro _ _ _
      rw [journal, asked_append after]
      rfl
    · have old : ReloadsRequested (.requested r :: (es ++ w.journal)) :=
        reloadsRequested_append before h.reloadsRequested
      rw [journal]
      exact reloadsRequested_append after old
  | unloads es settings size journal apart was owed is nothing =>
    constructor
    · intro a now owes
      cases is.symm.trans now
      rw [nothing] at owes
      cases owes
    · rw [journal]
      refine ⟨?_, reloadsRequested_append apart h.reloadsRequested⟩
      rw [asked_append apart]
      exact h.owed _ was owed

theorem World.Fresh.pendingRequested {b : AdapterOptions} (fresh : w.Fresh b) : PendingRequested w := by
  have apart : Apart w.journal := apart_of_chores fun e he =>
    Event.isChore_of_isRemark (fresh.journal e he)
  constructor
  · intro a now owes
    have first : w.adapter? = some ⟨⟨b.frames, 0, none⟩, b.settings, none⟩ := fresh.adapter
    cases now.symm.trans first
    cases owes
  · have reloadsRequested : ReloadsRequested (w.journal ++ []) := reloadsRequested_append apart trivial
    rwa [List.append_nil] at reloadsRequested

end

section
variable {b : AdapterOptions} {s t : System}

theorem Reachable.pendingMove (h : Reachable b s) (m : Move s t) : PendingMove s.world t.world := by
  obtain ⟨σ, popped, below, others, n, act⟩ := m.act
  rw [act.world]
  exact (act.effect.adapterMove (h.gated.perm act.before)).pendingMove

theorem Reachable.pendingRequested (h : Reachable b s) : PendingRequested s.world := by
  induction h with
  | built strands bare h => exact (World.fresh_build bare h).pendingRequested
  | move reached m ih => exact (reached.pendingMove m).pendingRequested ih

theorem PendingMove.unloaded {w v : World} {es : List Event} {e : Event} (b : PendingMove w v)
    (journal : v.journal = es ++ w.journal) (new : e ∈ es) (reload : e.isReload = true) :
    ∃ now, v.adapter? = some now ∧ now.owes = false := by
  have quiet {ds : List Event} (written : v.journal = ds ++ w.journal)
      (none : ∀ x ∈ ds, x.isReload = false) : False := by
    have mem : e ∈ ds := List.append_cancel_right (journal.symm.trans written) ▸ new
    rw [none e mem] at reload
    cases reload
  cases b with
  | eases ds written apart => exact (quiet written fun x hx => (apart x hx).1).elim
  | grows es ds r written before after =>
    have whole : v.journal = (ds ++ .requested r :: es) ++ w.journal := by rw [written]; simp
    refine (quiet whole fun x hx => ?_).elim
    have apart : ∀ x ∈ ds ++ es, x.isReload = false := fun x hx =>
      (apart_append after before x hx).1
    rcases List.mem_append.mp hx with newer | rest
    · exact (after x newer).1
    · rcases List.mem_cons.mp rest with rfl | older
      · rfl
      · exact (before x older).1
  | unloads ds settings size written apart was owed is nothing => exact ⟨_, is, nothing⟩

/-- Right after the renderer is told to reload, neither settings nor a resize are pending, and none are
until the next request. So between two reloads there is a request, and there are no more reloads than
requests, whatever size the renderer reports and whatever aborts its passes. -/
theorem reloads_are_asked_for (h : Reachable b s) :
    (∀ t es settings size, Move s t → t.world.journal = es ++ s.world.journal →
      .reloaded settings size ∈ es →
      ∃ a, t.world.adapter? = some a ∧ a.pending = none ∧ a.resize.target = none) ∧
    (∀ newer settings size older a, s.world.journal = newer ++ .reloaded settings size :: older →
      (∀ r, .requested r ∉ newer) → s.world.adapter? = some a →
      a.pending = none ∧ a.resize.target = none) ∧
    (∀ newer v size mid u extent older, s.world.journal
        = newer ++ .reloaded v size :: (mid ++ .reloaded u extent :: older) → ∃ r, .requested r ∈ mid) ∧
    s.world.tally Event.isReload ≤ s.world.tally Event.isRequest := by
  have bare {a : Adapter} (none : a.owes = false) : a.pending = .none ∧ a.resize.target = .none := by
    simpa [Adapter.owes] using none
  refine ⟨?_, ?_, ?_, ?_⟩
  · intro t es settings size m journal reload
    obtain ⟨a, now, none⟩ := (h.pendingMove m).unloaded journal reload rfl
    exact ⟨a, now, bare none⟩
  · intro newer settings size older a journal unasked now
    apply bare
    rw [← Bool.not_eq_true]
    intro owes
    have since := h.pendingRequested.owed a now owes
    rw [journal] at since
    obtain ⟨r, mem⟩ := request_since since
    exact unasked r mem
  · intro newer v size mid u extent older journal
    have reloadsRequested := h.pendingRequested.reloadsRequested
    rw [journal] at reloadsRequested
    exact request_since reloadsRequested.of_append.1
  · have fewer := h.pendingRequested.reloadsRequested.count_le
    unfold World.tally
    omega

end

def Machine.sampleSticky : Machine :=
  let aborted := Machine.sampleBroken.run
  let sticky := (Request.act (.act (.setSticky true) .done)).carryOut aborted.world 0
  let resized := (Request.adapter (.resize 640 480)).carryOut sticky.world 0
  Request.render.carryOut resized.world 0

theorem reachable_sampleSticky : Reachable .standard Machine.sampleSticky.alone := by
  have aborted : Reachable .standard Machine.sampleBroken.run.alone := reachable_sampleBroken.alone_runFor _
  have sticky := aborted.alone_carryOut (by decide) (.act (.act (.setSticky true) .done)) 0
  have resized := sticky.alone_carryOut (by decide) (.adapter (.resize 640 480)) 0
  exact resized.alone_carryOut (by decide) .render 0

theorem reloads_are_asked_for_sample :
    Reachable .standard Machine.sampleSticky.alone ∧
      (∃ mid older, Machine.sampleSticky.world.journal = [.passEnded none] ++
        .reloaded ⟨.auto, 60, .ofNat 1⟩ (.ofNat 640 480) :: (mid ++
          .reloaded ⟨.auto, 30, .ofNat 1⟩ (.ofNat 800 600) :: older) ∧ ∃ r, .requested r ∈ mid) ∧
      Machine.sampleSticky.world.tally Event.isReload = 2 ∧
      2 ≤ Machine.sampleSticky.world.tally Event.isRequest ∧
      ∃ a, Machine.sampleSticky.world.adapter? = some a ∧ a.pending = none ∧ a.resize.target = none := by
  obtain ⟨_, quiet, between, fewer⟩ := reloads_are_asked_for reachable_sampleSticky
  have twice : Machine.sampleSticky.world.tally Event.isReload = 2 := by decide
  have journal : Machine.sampleSticky.world.journal = [.passEnded none] ++
      .reloaded ⟨.auto, 60, .ofNat 1⟩ (.ofNat 640 480) ::
        ((Machine.sampleSticky.world.journal.drop 2).take 8 ++
          .reloaded ⟨.auto, 30, .ofNat 1⟩ (.ofNat 800 600) ::
            Machine.sampleSticky.world.journal.drop 11) := by decide
  have unasked : ∀ r, Event.requested r ∉ [Event.passEnded none] := by simp
  obtain ⟨a, is⟩ : ∃ a, Machine.sampleSticky.world.adapter? = some a := ⟨_, rfl⟩
  obtain ⟨pending, target⟩ := quiet _ _ _ _ a journal unasked is
  exact ⟨reachable_sampleSticky, ⟨_, _, journal, between _ _ _ _ _ _ _ journal⟩, twice, twice ▸ fewer,
    a, is, pending, target⟩

end FrameHost
