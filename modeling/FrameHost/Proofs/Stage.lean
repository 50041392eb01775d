import FrameHost.Proofs.Batch

/-!
The stages of a render pass, and the effect on them of a turn by another strand, of a turn above the frame
of the pass, and of a step of the pass.
-/
namespace FrameHost

namespace Event

def isWork : Event → Bool
  | targetRead _ | reloaded .. | renderCalled | rendered => true
  | _ => false

def tells (calls : List Runnable) : Event → Bool
  | started ticket _ | finished ticket => calls.any fun r => r.ticket == ticket
  | e => e.isWork

end Event

/-- The starts and ends of the calls and the events of the renderer, oldest first. -/
def story (calls : List Runnable) (es : List Event) : List Event :=
  (es.filter (Event.tells calls)).reverse

def ran (thread : Nat) (calls : List Runnable) : List Event :=
  calls.flatMap fun r => [.started r.ticket thread, .finished r.ticket]

def reloads : Option Reload → List Event
  | none => []
  | some r => [.reloaded r.settings r.resolution]

/-- The progress of a pass: the fault of its strand, the frames above its own, its phase, the present
adapter and the events since it began, newest first. `a` is the adapter that the pass found. -/
inductive Stage (calls : List Runnable) (thread : Nat) (a : Adapter) (found : Resolution → Prop) :
    Option Fault → List Frame → Phase → Adapter → List Event → Prop where
  | calling {fault : Option Fault} {up : List Frame} {activation count : Nat}
      {taken rest : List Runnable} {r : Runnable}
      {es : List Event} (split : calls = taken ++ r :: rest)
      (told : story calls es = ran thread taken ++ [.started r.ticket thread]) :
      Stage calls thread a found fault (up ++ [.running r.ticket, .batch thread activation rest count])
        .target a es
  | between {activation count : Nat} {taken rest : List Runnable} {es : List Event}
      (split : calls = taken ++ rest)
      (told : story calls es = ran thread taken) :
      Stage calls thread a found none [.batch thread activation rest count] .target a es
  | called {es : List Event} (told : story calls es = ran thread calls) :
      Stage calls thread a found none [] .target a es
  | lost {raised : Fault} {up : List Frame} {es : List Event} (bare : ∀ f ∈ up, f.isBatch = true)
      (told : es.filter Event.isWork = []) : Stage calls thread a found (some raised) up .target a es
  | loading {fault : Option Fault} {up : List Frame} {current : Resolution} {r : Reload}
      {es : List Event}
      (read : found current) (due : (a.update current).1.reload = some r)
      (told : story calls es = ran thread calls ++
        [.targetRead true, .reloaded r.settings r.resolution]) :
      Stage calls thread a found fault up (.loaded r.settings) (a.update current).2 es
  | drawing {fault : Option Fault} {up : List Frame} {current : Resolution} {now : Adapter}
      {es : List Event}
      (read : found current) (resize : now.resize = (a.update current).2.resize)
      (pending : now.pending = (a.update current).2.pending)
      (told : story calls es
        = ran thread calls ++
          .targetRead true :: (reloads (a.update current).1.reload ++ [.renderCalled])) :
      Stage calls thread a found fault up .presenting now es

@[simp] theorem story_nil (calls : List Runnable) : story calls [] = [] := rfl

theorem story_append (calls : List Runnable) (es older : List Event) :
    story calls (es ++ older) = story calls older ++ story calls es := by
  simp [story]

theorem story_cons (calls : List Runnable) (e : Event) (older : List Event) :
    story calls (e :: older) = story calls older ++ story calls [e] := story_append calls [e] older

theorem story_told {calls : List Runnable} {e : Event} (h : e.tells calls = true) :
    story calls [e] = [e] := by
  simp [story, h]

theorem story_untold {calls : List Runnable} {es : List Event} (h : ∀ e ∈ es, e.tells calls = false) :
    story calls es = [] := by
  simp only [story, List.reverse_eq_nil_iff, List.filter_eq_nil_iff, Bool.not_eq_true]
  exact h

theorem mem_of_told {calls : List Runnable} {es told : List Event} {e : Event}
    (h : story calls es = told) (mem : e ∈ told) :
    e ∈ es := by
  rw [← h] at mem
  exact (List.mem_filter.mp (List.mem_reverse.mp mem)).1

@[simp] theorem ran_nil (thread : Nat) : ran thread [] = [] := rfl

theorem ran_append (thread : Nat) (calls later : List Runnable) :
    ran thread (calls ++ later) = ran thread calls ++ ran thread later := List.flatMap_append

theorem mem_ran (thread : Nat) {calls : List Runnable} {r : Runnable} (h : r ∈ calls) :
    .started r.ticket thread ∈ ran thread calls ∧ .finished r.ticket ∈ ran thread calls :=
  ⟨List.mem_flatMap.mpr ⟨r, h, by simp⟩, List.mem_flatMap.mpr ⟨r, h, by simp⟩⟩

theorem isWork_of_isChore {e : Event} (h : e.isChore = true) : e.isWork = false := by
  cases e <;> first | rfl | cases h

theorem idle_chores {new es : List Event} (chores : ∀ e ∈ new, e.isChore = true)
    (idle : es.filter Event.isWork = []) : (new ++ es).filter Event.isWork = [] := by
  rw [List.filter_append, idle, List.append_nil]
  apply List.filter_eq_nil_iff.mpr
  intro e he
  simp [isWork_of_isChore (chores e he)]

def Accounted (journal : List Event) (fs : List Frame) (ticket : Nat) : Prop :=
  (∃ thread, .started ticket thread ∈ journal) ∧ (.finished ticket ∈ journal ∨ .running ticket ∈ fs) ∨
    1 ≤ heldBy ticket fs

theorem one_le_heldBy {fs : List Frame} {f : Frame} {ticket : Nat} (mem : f ∈ fs)
    (held : 1 ≤ f.held ticket) :
    1 ≤ heldBy ticket fs := by
  induction fs with
  | nil => cases mem
  | cons g fs ih =>
    rw [heldBy_cons]
    rcases List.mem_cons.mp mem with rfl | later
    · omega
    · have rest := ih later
      omega

theorem one_le_copies {rs : List Runnable} {r : Runnable} (mem : r ∈ rs) : 1 ≤ copies r.ticket rs :=
  List.countP_pos_iff.mpr ⟨r, mem, beq_self_eq_true _⟩

inductive Decided (v : World) (fs : List Frame) (older : List Event) (ticket : Nat) : Prop where
  | accounted (h : Accounted older fs ticket)
  | destroyed {label : Option String} (h : .destroyed ticket label ∈ older)
  | broken {thread : Nat} (started : .started ticket thread ∈ older) (broke : Broke v fs ticket)

/-- A ledger allows no further start or end of a decided runnable. -/
theorem Ledger.decided_events {v : World} {fs : List Frame} {es older : List Event} {ticket : Nat}
    (h : Ledger v fs) (journal : v.journal = es ++ older) (d : Decided v fs older ticket) :
    ∀ e ∈ es, (∀ thread, e ≠ .started ticket thread) ∧ e ≠ .finished ticket ∧ e.destroys ticket = false := by
  have balance := h.balance ticket
  have once := h.once ticket
  have runs := h.running ticket
  have split (p : Event → Bool) : v.tally p = es.countP p + older.countP p := by
    rw [World.tally, journal, List.countP_append]
  have starts := split (Event.starts ticket)
  have finishes := split (Event.finishes ticket)
  have destroys := split (Event.destroys ticket)
  have one {p : Event → Bool} {l : List Event} {e : Event} (mem : e ∈ l) (told : p e = true) :
      1 ≤ l.countP p := List.countP_pos_iff.mpr ⟨e, mem, told⟩
  have none : es.countP (Event.starts ticket) = 0 ∧ es.countP (Event.finishes ticket) = 0 ∧
      es.countP (Event.destroys ticket) = 0 := by
    cases d with
    | accounted acc =>
      rcases acc with ⟨⟨thread, began⟩, ended⟩ | held
      · have began := one began (p := Event.starts ticket) (by simp [Event.starts])
        rcases ended with ended | running
        · have ended := one ended (p := Event.finishes ticket) (by simp [Event.finishes])
          omega
        · have running : 1 ≤ fs.countP (Frame.isRunning ticket) :=
            List.countP_pos_iff.mpr ⟨_, running, by simp [Frame.isRunning]⟩
          omega
      · omega
    | destroyed gone =>
      have gone := one gone (p := Event.destroys ticket) (by simp [Event.destroys])
      omega
    | broken started broke =>
      have started := one started (p := Event.starts ticket) (by simp [Event.starts])
      have unfinished := broke.unfinished
      omega
  obtain ⟨unstarted, unfinished, spared⟩ := none
  intro e he
  refine ⟨?_, ?_, ?_⟩
  · rintro thread rfl
    exact absurd (by simp [Event.starts]) (List.countP_eq_zero.mp unstarted _ he)
  · rintro rfl
    exact absurd (by simp [Event.finishes]) (List.countP_eq_zero.mp unfinished _ he)
  · simpa using List.countP_eq_zero.mp spared e he

theorem Event.tells_chore {calls : List Runnable} {e : Event} (chore : e.isChore = true)
    (old : ∀ r ∈ calls, (∀ thread, e ≠ .started r.ticket thread) ∧ e ≠ .finished r.ticket) :
    e.tells calls = false := by
  have silent (ticket : Nat) (news : e = .finished ticket ∨ ∃ thread, e = .started ticket thread) :
      (calls.any fun r => r.ticket == ticket) = false := by
    apply List.any_eq_false.mpr
    intro r hr same
    obtain ⟨noStart, noEnd⟩ := old r hr
    rw [beq_iff_eq.mp same] at noStart noEnd
    rcases news with ended | ⟨thread, begun⟩
    · exact noEnd ended
    · exact noStart thread begun
  cases e with
  | started ticket thread => exact silent ticket (.inr ⟨thread, rfl⟩)
  | finished ticket => exact silent ticket (.inl rfl)
  | _ => first | rfl | cases chore

theorem Ledger.story_chores {v : World} {fs : List Frame} {es older : List Event}
    {calls : List Runnable} (h : Ledger v fs)
    (journal : v.journal = es ++ older) (chores : ∀ e ∈ es, e.isChore = true)
    (acc : ∀ r ∈ calls, Accounted older fs r.ticket) : story calls es = [] := by
  apply story_untold
  intro e he
  refine Event.tells_chore (chores e he) fun r hr => ?_
  obtain ⟨noStart, noEnd, _⟩ := h.decided_events journal (.accounted (acc r hr)) e he
  exact ⟨noStart, noEnd⟩

section
variable {calls : List Runnable} {thread : Nat} {a now : Adapter} {found : Resolution → Prop}
    {fault : Option Fault}
  {up : List Frame} {phase : Phase} {es older : List Event}

theorem Stage.mono (h : Stage calls thread a found fault up phase now es) {also : Resolution → Prop}
    (grows : ∀ current, found current → also current) :
    Stage calls thread a also fault up phase now es := by
  cases h with
  | calling split told => exact .calling split told
  | between split told => exact .between split told
  | called told => exact .called told
  | lost bare told => exact .lost bare told
  | loading read due told => exact .loading (grows _ read) due told
  | drawing read resize pending told => exact .drawing (grows _ read) resize pending told

theorem accounted_ran {taken : List Runnable} {tail : List Event} {fs : List Frame}
    (told : story calls es = ran thread taken ++ tail) (older : List Event) :
    ∀ r ∈ taken, Accounted (es ++ older) fs r.ticket := by
  intro r hr
  obtain ⟨started, finished⟩ := mem_ran thread hr
  have begun := mem_of_told told (List.mem_append_left tail started)
  have ended := mem_of_told told (List.mem_append_left tail finished)
  exact .inl ⟨⟨thread, List.mem_append_left _ begun⟩, .inl (List.mem_append_left _ ended)⟩

theorem Stage.accounted (h : Stage calls thread a found fault up phase now es) {fs : List Frame}
    (above : ∀ f ∈ up, f ∈ fs)
    (older : List Event) :
    (∀ r ∈ calls, Accounted (es ++ older) fs r.ticket) ∨
      (fault.isSome = true ∧ (∀ f ∈ up, f.isBatch = true) ∧ phase = .target ∧ now = a ∧
        es.filter Event.isWork = []) := by
  cases h with
  | @calling _ up activation count taken rest r _ split told =>
    refine .inl fun x hx => ?_
    subst split
    rcases List.mem_append.mp hx with ran | later
    · exact accounted_ran told older x ran
    · rcases List.mem_cons.mp later with rfl | waits
      · have started : .started x.ticket thread ∈ es := mem_of_told told (by simp)
        exact .inl ⟨⟨thread, List.mem_append_left _ started⟩, .inr (above _ (by simp))⟩
      · exact .inr (one_le_heldBy (above (.batch thread activation rest count) (by simp))
          (one_le_copies waits))
  | @between activation count taken rest _ split told =>
    refine .inl fun x hx => ?_
    subst split
    rcases List.mem_append.mp hx with ran | waits
    · exact accounted_ran (told.trans (List.append_nil _).symm) older x ran
    · exact .inr (one_le_heldBy (above (.batch thread activation rest count) (by simp))
        (one_le_copies waits))
  | called told => exact .inl (accounted_ran (told.trans (List.append_nil _).symm) older)
  | lost bare told => exact .inr ⟨rfl, bare, rfl, rfl, told⟩
  | loading read due told => exact .inl (accounted_ran told older)
  | drawing read resize pending told => exact .inl (accounted_ran told older)

theorem Stage.later (h : Stage calls thread a found fault up phase now es) {new : List Event}
    (untold : story calls new = []) :
    Stage calls thread a found fault up phase now (new ++ es) := by
  have same : story calls (new ++ es) = story calls es := by rw [story_append, untold, List.append_nil]
  have idle : new.filter Event.isWork = [] := by
    apply List.filter_eq_nil_iff.mpr
    intro e he work
    have told : e.tells calls = true := by cases e <;> first | exact work | cases work
    have mem : e ∈ story calls new := List.mem_reverse.mpr (List.mem_filter.mpr ⟨he, told⟩)
    simp [untold] at mem
  cases h with
  | calling split told => exact .calling split (same.trans told)
  | between split told => exact .between split (same.trans told)
  | called told => exact .called (same.trans told)
  | lost bare told => exact .lost bare (by rw [List.filter_append, idle, told]; rfl)
  | loading read due told => exact .loading read due (same.trans told)
  | drawing read resize pending told => exact .drawing read resize pending (same.trans told)

theorem Stage.wait (h : Stage calls thread a found fault up phase now es) {v : World} {fs : List Frame}
    {new : List Event}
    (ledger : Ledger v fs) (above : ∀ f ∈ up, f ∈ fs) (journal : v.journal = new ++ (es ++ older))
    (chores : ∀ e ∈ new, e.isChore = true) :
    Stage calls thread a found fault up phase now (new ++ es) := by
  rcases h.accounted above older with acc | ⟨failing, bare, rfl, rfl, work⟩
  · exact h.later (ledger.story_chores journal chores acc)
  · obtain ⟨raised, rfl⟩ := Option.isSome_iff_exists.mp failing
    exact .lost bare (idle_chores chores work)

theorem work_of_story (calls : List Runnable) (es : List Event) :
    es.filter Event.isWork = ((story calls es).filter Event.isWork).reverse := by
  have both : (fun e => e.isWork && e.tells calls) = Event.isWork := by
    funext e
    cases e <;> rfl
  rw [story, List.filter_reverse, List.reverse_reverse, List.filter_filter, both]

theorem ran_idle (thread : Nat) (calls : List Runnable) :
    (ran thread calls).filter Event.isWork = [] := by
  apply List.filter_eq_nil_iff.mpr
  intro e he
  obtain ⟨r, _, mem⟩ := List.mem_flatMap.mp he
  simp only [List.mem_cons, List.not_mem_nil, or_false] at mem
  rcases mem with rfl | rfl <;> exact Bool.false_ne_true

end

theorem StepEffect.of_running {w : World} {others : List Frame} {fault : Option Fault} {ticket : Nat}
    {n : Machine}
    (d : StepEffect w others fault [.running ticket] n) :
    n = .proceed (w.record (.finished ticket)) [] ∨ ∃ raised, n = .failing w raised [] := by
  have dark : ¬ Light [.running ticket] := fun light => Bool.false_ne_true (light _ List.mem_cons_self)
  cases d with
  | finish => exact .inl rfl
  | abandon => exact .inr ⟨_, rfl⟩
  | host d => cases d
  | _ => exact absurd (by assumption) dark

theorem StepEffect.of_batch {w : World} {others : List Frame} {fault : Option Fault}
    {thread activation count : Nat}
    {rest : List Runnable} {n : Machine}
    (d : StepEffect w others fault [.batch thread activation rest count] n) :
    (fault = none ∧ n = w.nextCall thread activation count rest) ∨
      ∃ raised, fault = some raised ∧ n = .failing (w.destroyAll rest) raised [] := by
  have dark : ¬ Light [.batch thread activation rest count] := fun light =>
    Bool.false_ne_true (light _ List.mem_cons_self)
  cases d with
  | nextCall _ _ _ _ calm => exact .inl ⟨calm, rfl⟩
  | spill _ _ _ _ unwinding => exact .inr ⟨_, unwinding, rfl⟩
  | host d => cases d
  | _ => exact absurd (by assumption) dark

theorem StepEffect.of_bare {w : World} {others : List Frame} {raised : Fault} {f : Frame} {n : Machine}
    (d : StepEffect w others (some raised) [f] n) (batch : f.isBatch = true) :
    ∃ rest again, n = .failing (w.destroyAll rest) again [] := by
  cases f with
  | batch thread activation rest count =>
    rcases d.of_batch with ⟨calm, _⟩ | ⟨again, _, spilled⟩
    · cases calm
    · exact ⟨rest, again, spilled⟩
  | _ => cases batch

section
variable {calls : List Runnable} {thread : Nat} {a now : Adapter} {found : Resolution → Prop}
    {fault : Option Fault} {w : World} {others fs up : List Frame} {f : Frame} {n : Machine}
    {phase : Phase} {new es older : List Event}

theorem Stage.call_ends {activation count : Nat} {taken rest : List Runnable} {r : Runnable}
    (split : calls = taken ++ r :: rest)
    (told : story calls es = ran thread taken ++ [.started r.ticket thread])
    (d : StepEffect w others fault [.running r.ticket] n) (wrote : n.world.journal = new ++ w.journal) :
    Stage calls thread a found n.fault (n.stack ++ [.batch thread activation rest count])
      .target a (new ++ es) := by
  rcases d.of_running with rfl | ⟨raised, rfl⟩
  · obtain rfl : [.finished r.ticket] = new := List.append_cancel_right wrote
    have whole : calls = (taken ++ [r]) ++ rest := by simp [split]
    have tells : Event.tells calls (.finished r.ticket) = true := by simp [Event.tells, split]
    refine .between whole ?_
    rw [List.singleton_append, story_cons, told, story_told tells, ran_append]
    simp [ran]
  · obtain rfl : [] = new := List.append_cancel_right wrote
    refine .lost (by simp [Machine.failing, Frame.isBatch]) ?_
    rw [List.nil_append, work_of_story calls es, told, List.filter_append, ran_idle]
    rfl

theorem Stage.next_call {activation count : Nat} {taken rest : List Runnable}
    (split : calls = taken ++ rest) (told : story calls es = ran thread taken)
    (d : StepEffect w others none [.batch thread activation rest count] n)
    (wrote : n.world.journal = new ++ w.journal) :
    Stage calls thread a found n.fault n.stack .target a (new ++ es) := by
  rcases d.of_batch with ⟨_, rfl⟩ | ⟨raised, failing, _⟩
  · cases rest with
    | nil =>
      obtain rfl : [.ended activation count] = new := List.append_cancel_right wrote
      rw [List.append_nil] at split
      subst split
      refine .called ?_
      rw [List.singleton_append, story_cons, told, story_untold (by simp [Event.tells, Event.isWork]),
        List.append_nil]
    | cons r rest =>
      obtain rfl : [.started r.ticket thread, .took activation r.ticket] = new :=
        List.append_cancel_right wrote
      have tells : Event.tells calls (.started r.ticket thread) = true := by simp [Event.tells, split]
      have untold : story calls [.took activation r.ticket] = [] :=
        story_untold (by simp [Event.tells, Event.isWork])
      have starts : story calls ([.started r.ticket thread, .took activation r.ticket] ++ es)
          = ran thread taken ++ [.started r.ticket thread] := by
        rw [List.cons_append, List.singleton_append, story_cons, story_cons, told,
          story_told tells, untold,
          List.append_nil]
      have next : Stage calls thread a found none
          ([.script thread r.body] ++ [.running r.ticket, .batch thread activation rest count])
          .target a _ :=
        .calling split starts
      exact next
  · cases failing

/-- A turn above the frame of a pass advances its stage. -/
theorem Stage.above (h : Stage calls thread a found fault (f :: up) phase now es)
    (d : StepEffect w others fault [f] n) (before : w.journal = es ++ older)
    (journal : n.world.journal = new ++ (es ++ older)) (chores : ∀ e ∈ new, e.isChore = true)
    (ledger : Ledger n.world fs) (covered : ∀ g ∈ n.stack ++ up, g ∈ fs) :
    Stage calls thread a found n.fault (n.stack ++ up) phase now (new ++ es) := by
  have wrote : n.world.journal = new ++ w.journal := before ▸ journal
  have still {g : Option Fault} (same : Stage calls thread a found g (n.stack ++ up) phase now es) :
      Stage calls thread a found g (n.stack ++ up) phase now (new ++ es) :=
    same.wait ledger covered journal chores
  generalize frames : f :: up = above at h
  cases h with
  | @calling _ on activation count taken rest r _ split told =>
    -- Either the call itself ends, or the frames above it continue.
    cases on with
    | nil =>
      obtain ⟨rfl, rfl⟩ := List.cons.inj frames
      exact .call_ends split told d wrote
    | cons g on =>
      obtain ⟨rfl, rfl⟩ := List.cons.inj frames
      have same : Stage calls thread a found n.fault
          ((n.stack ++ on) ++ [.running r.ticket, .batch thread activation rest count]) .target a es :=
        .calling split told
      rw [List.append_assoc] at same
      exact still same
  | between split told =>
    obtain ⟨rfl, rfl⟩ := List.cons.inj frames
    rw [List.append_nil]
    exact .next_call split told d wrote
  | called told => cases frames
  | lost bare told =>
    subst frames
    obtain ⟨rest, again, rfl⟩ := d.of_bare (bare f List.mem_cons_self)
    have bare_up : ∀ g ∈ up, g.isBatch = true := fun g hg => bare g (List.mem_cons_of_mem _ hg)
    exact .lost bare_up (idle_chores chores told)
  | loading read due told => exact still (.loading read due told)
  | drawing read resize pending told => exact still (.drawing read resize pending told)

end

structure ComesTo (w : World) (thread : Nat) (saved : Bool) (m : Machine) (new : List Event)
    (phase : Phase)
    (now : Adapter) : Prop where
  calm : m.fault = none
  journal : m.world.journal = new ++ w.journal
  adapter : m.world.host.map Host.adapter = some now
  stack : ∃ body, m.stack = [.script thread body, .pass thread saved phase]

theorem ComesTo.after {w v : World} {thread : Nat} {saved : Bool} {m : Machine} {new e : List Event}
    {phase : Phase}
    {now : Adapter} (h : ComesTo v thread saved m new phase now)
    (journal : v.journal = e ++ w.journal) :
    ComesTo w thread saved m (new ++ e) phase now :=
  ⟨h.calm, by rw [h.journal, journal, List.append_assoc], h.adapter, h.stack⟩

namespace World

def GateOpen (w : World) : Prop := (w.graphics.getD .new).gate.allowed = true

variable {w : World} {now : Adapter} (thread : Nat) (saved : Bool)

theorem GateOpen.check (h : w.GateOpen) (operation : String) : w.checkGate operation = .ok () := by
  simp only [checkGate, Gate.check, show (w.graphics.getD .new).gate.allowed = true from h, if_true]

theorem draw_comesTo (h : w.GateOpen) (hosted : w.host.map Host.adapter = some now) :
    ComesTo w thread saved (w.draw thread saved) [.renderCalled] .presenting now := by
  simp only [draw, h.check]
  exact ⟨rfl, rfl, hosted, _, rfl⟩

theorem load_comesTo (h : w.GateOpen) (hosted : w.host.map Host.adapter = some now) (r : Reload) :
    ComesTo w thread saved (w.load thread saved r)
      [.reloaded r.settings r.resolution, .log (.reloading r.settings r.resolution)]
      (.loaded r.settings) now := by
  simp only [load, h.check]
  exact ⟨rfl, rfl, hosted, _, rfl⟩

theorem readTarget_found {h : Host} (present : w.renderer.hasTarget = true) (hosted : w.host = some h) :
    w.readTarget thread saved = (w.record (.targetRead true)).refresh thread saved h.adapter := by
  simp only [readTarget, record, present, hosted]

theorem readTarget_absent (absent : w.renderer.hasTarget = false) :
    w.readTarget thread saved = ((w.record (.targetRead false)).log .noRenderTarget).endPass
      saved false := by
  simp only [readTarget, record, absent]

theorem refresh_comesTo (h : w.GateOpen) (a : Adapter) (hosted : w.host.isSome = true) :
    ∃ logs, (∀ e ∈ logs, ∃ record, e = .log record) ∧
      match (a.update w.renderer.resolution).1.reload with
      | none => ComesTo w thread saved (w.refresh thread saved a) (.renderCalled :: logs) .presenting
          (a.update w.renderer.resolution).2
      | some r => ComesTo w thread saved (w.refresh thread saved a)
          (.reloaded r.settings r.resolution :: logs) (.loaded r.settings)
          (a.update w.renderer.resolution).2 := by
  unfold refresh
  generalize a.update w.renderer.resolution = u
  dsimp only
  obtain ⟨host, eq⟩ := Option.isSome_iff_exists.mp hosted
  have journal := (w.setAdapter u.2).journal_recordAll (u.1.records.map .log)
  obtain ⟨j, folded⟩ := (w.setAdapter u.2).recordAll_eq (u.1.records.map .log)
  have gate : ((w.setAdapter u.2).recordAll (u.1.records.map .log)).GateOpen := by
    rw [folded]
    exact h
  have adapter : ((w.setAdapter u.2).recordAll (u.1.records.map .log)).host.map
      Host.adapter = some u.2 := by
    rw [folded]
    simp [setAdapter, eq]
  have logs : ∀ e ∈ (u.1.records.map Event.log).reverse, ∃ record, e = .log record := by
    intro e he
    obtain ⟨record, _, rfl⟩ := List.mem_map.mp (List.mem_reverse.mp he)
    exact ⟨record, rfl⟩
  cases u.1.reload with
  | none => exact ⟨_, logs, (draw_comesTo thread saved gate adapter).after journal⟩
  | some r =>
    refine ⟨.log (.reloading r.settings r.resolution) :: _, ?_,
      (load_comesTo thread saved gate adapter r).after journal⟩
    intro e he
    rcases List.mem_cons.mp he with rfl | later
    · exact ⟨_, rfl⟩
    · exact logs e later

end World

/-- The turn from `w` to `v` asks the renderer of `w` for its target and records the answer `present`. -/
def World.ReadsTarget (w v : World) (present : Bool) : Prop :=
  w.renderer.hasTarget = present ∧ ∃ es, v.journal = es ++ .targetRead present :: w.journal

def Renderer.report (r : Renderer) : Event :=
  match r.failures with
  | [] => .rendered
  | error :: _ => .log (.frameFailed error)

/-- The turn from `w` to `v` ends a pass with the report of the renderer of `w`. The result is `true`
exactly when that renderer has no failure pending. -/
def World.Presents (w v : World) (rendered : Bool) : Prop :=
  (rendered = true ↔ w.renderer.failures = []) ∧
    v.journal = .passEnded (some rendered) :: w.renderer.report :: w.journal

/-- The ways in which the turn from `w` to `v` ends a pass: the result, the adapter afterwards and the
events since the pass began. -/
inductive Outcome (calls : List Runnable) (thread : Nat) (a : Adapter) (found : Resolution → Prop)
    (w v : World) : Option Bool → Adapter → List Event → Prop where
  | untargeted {es : List Event} (absent : w.ReadsTarget v false)
      (told : story calls es = ran thread calls ++ [.targetRead false]) :
      Outcome calls thread a found w v (some false) a es
  | drawn {current : Resolution} {now : Adapter} {es : List Event} (rendered : Bool)
      (presents : w.Presents v rendered) (read : found current)
      (resize : now.resize = (a.update current).2.resize)
      (pending : now.pending = (a.update current).2.pending)
      (told : story calls es = ran thread calls ++
        .targetRead true :: (reloads (a.update current).1.reload ++
        .renderCalled :: if rendered then [.rendered] else [])) :
      Outcome calls thread a found w v (some rendered) now es
  | lost {es : List Event} (told : es.filter Event.isWork = []) :
      Outcome calls thread a found w v none a es
  | broken {current : Resolution} {now : Adapter} {es : List Event} (drew : Bool) (read : found current)
      (resize : now.resize = (a.update current).2.resize)
      (pending : now.pending = (a.update current).2.pending)
      (told : story calls es = ran thread calls ++
        .targetRead true :: (reloads (a.update current).1.reload ++
        if drew then [.renderCalled] else [])) : Outcome calls thread a found w v none now es

structure GoesOnTo (calls : List Runnable) (thread : Nat) (a : Adapter) (found : Resolution → Prop)
    (saved : Bool)
    (es older : List Event) (n : Machine) (front : List Frame) (phase : Phase) (now : Adapter)
    (new : List Event) :
    Prop where
  stack : n.stack = front ++ [.pass thread saved phase]
  journal : n.world.journal = new ++ (es ++ older)
  within : ∀ e ∈ new, e.isBracket = false
  adapter : n.world.host.map Host.adapter = some now
  stage : Stage calls thread a found n.fault front phase now (new ++ es)

structure EndsWith (calls : List Runnable) (thread : Nat) (a : Adapter) (found : Resolution → Prop)
    (w : World) (es older : List Event)
    (n : Machine) (result : Option Bool) (now : Adapter) (new : List Event) : Prop where
  stack : n.stack = []
  journal : n.world.journal = .passEnded result :: (new ++ (es ++ older))
  within : ∀ e ∈ new, e.isBracket = false
  adapter : n.world.host.map Host.adapter = some now
  outcome : Outcome calls thread a found w n.world result now (new ++ es)
  answer : ∀ b, result = some b → n.fault = none ∧ n.answer = .flag b

section
variable {calls : List Runnable} {thread : Nat} {a now : Adapter} {found : Resolution → Prop}
    {fault : Option Fault}
  {phase : Phase} {es older : List Event} {w : World} {others : List Frame} {saved : Bool} {n : Machine}

theorem story_log {calls : List Runnable} {logs : List Event}
    (h : ∀ e ∈ logs, ∃ record, e = .log record) :
    story calls logs = [] := by
  apply story_untold
  intro e he
  obtain ⟨record, rfl⟩ := h e he
  rfl

theorem ComesTo.goesOnTo {new : List Event} {later : Phase} (c : ComesTo w thread saved n new later now)
    (before : w.journal = es ++ older) (within : ∀ e ∈ new, e.isBracket = false)
    (stage : ∀ front, Stage calls thread a found none front later now (new ++ es)) :
    ∃ front, GoesOnTo calls thread a found saved es older n front later now new := by
  obtain ⟨body, stack⟩ := c.stack
  refine ⟨[.script thread body], stack, ?_, within, c.adapter, ?_⟩
  · rw [c.journal, before]
  · rw [c.calm]
    exact stage _

theorem readTarget_goesOnTo {h : Host} (told : story calls es = ran thread calls) (gate : w.GateOpen)
    (hosted : w.host = some h) (before : w.journal = es ++ older)
    (present : w.renderer.hasTarget = true)
    (reads : found w.renderer.resolution) :
    ∃ front later now new,
      GoesOnTo calls thread h.adapter found saved es older (w.readTarget thread saved)
        front later now new := by
  have isOpen : (w.record (.targetRead true)).GateOpen := gate
  have stillHosted : (w.record (.targetRead true)).host.isSome = true := by simp [World.record, hosted]
  obtain ⟨logs, onlyLogs, course⟩ := World.refresh_comesTo thread saved isOpen h.adapter stillHosted
  rw [← World.readTarget_found thread saved present hosted] at course
  have same : (w.record (.targetRead true)).renderer.resolution = w.renderer.resolution := rfl
  rw [same] at course
  have quiet : ∀ e ∈ logs, e.isBracket = false := by
    intro e he
    obtain ⟨record, rfl⟩ := onlyLogs e he
    rfl
  have noted : story calls (logs ++ [.targetRead true]) = [.targetRead true] := by
    rw [story_append, story_log onlyLogs, List.append_nil]
    rfl
  have within (e : Event) (plain : e.isBracket = false) :
      ∀ x ∈ e :: (logs ++ [.targetRead true]), x.isBracket = false := by
    intro x hx
    rcases List.mem_cons.mp hx with rfl | later
    · exact plain
    · rcases List.mem_append.mp later with log | read
      · exact quiet x log
      · rw [List.mem_singleton.mp read]
        rfl
  cases due : (h.adapter.update w.renderer.resolution).1.reload with
  | none =>
    rw [due] at course
    have tells : story calls (.renderCalled :: (logs ++ [.targetRead true]) ++ es)
        = ran thread calls ++
          .targetRead true :: (reloads (h.adapter.update w.renderer.resolution).1.reload ++
            [.renderCalled]) := by
      rw [story_append, told, story_cons, noted, story_told rfl, due]
      rfl
    have whole := course.after (w := w) (e := [.targetRead true]) rfl
    obtain ⟨front, goes⟩ :=
      whole.goesOnTo before (within _ rfl) fun front => .drawing reads rfl rfl tells
    exact ⟨front, _, _, _, goes⟩
  | some r =>
    rw [due] at course
    have tells : story calls (.reloaded r.settings r.resolution :: (logs ++ [.targetRead true]) ++ es)
        = ran thread calls ++ [.targetRead true, .reloaded r.settings r.resolution] := by
      rw [story_append, told, story_cons, noted, story_told rfl]
      rfl
    have whole := course.after (w := w) (e := [.targetRead true]) rfl
    obtain ⟨front, goes⟩ := whole.goesOnTo before (within _ rfl) fun front => .loading reads due tells
    exact ⟨front, _, _, _, goes⟩

theorem World.readTarget_reads (w : World) (thread : Nat) (saved : Bool) :
    w.ReadsTarget (w.readTarget thread saved).world w.renderer.hasTarget := by
  refine ⟨rfl, ?_⟩
  simp only [World.readTarget]
  split
  · rename_i a _ _
    obtain ⟨es, journal, _⟩ :=
      (World.KeepsRunnables.refresh (w.record (.targetRead w.renderer.hasTarget)) thread saved
      a.adapter).journal
    exact ⟨es, journal⟩
  · exact ⟨[.passEnded (some false), .log .noRenderTarget], rfl⟩

theorem World.present_presents (w : World) (saved : Bool) :
    w.Presents (w.present saved).world w.renderer.failures.isEmpty := by
  refine ⟨List.isEmpty_iff, ?_⟩
  unfold World.present Renderer.report
  cases w.renderer.failures <;> rfl

theorem readTarget_endsWith (told : story calls es = ran thread calls)
    (hosted : w.host.map Host.adapter = some a)
    (before : w.journal = es ++ older) (absent : w.renderer.hasTarget = false) :
    ∃ new, EndsWith calls thread a found w es older (w.readTarget thread saved) (some false) a new := by
  have reads := w.readTarget_reads thread saved
  rw [absent] at reads
  rw [World.readTarget_absent thread saved absent] at reads ⊢
  refine ⟨[.log .noRenderTarget, .targetRead false], rfl, ?_, by simp [Event.isBracket], hosted,
    .untargeted reads ?_, ?_⟩
  · rw [← before]
    rfl
  · have read : story calls [.log .noRenderTarget, .targetRead false] = [.targetRead false] := rfl
    rw [story_append, told, read]
  · rintro b ⟨⟩
    exact ⟨rfl, rfl⟩

theorem finishLoad_goesOnTo {current : Resolution} {r : Reload} {h : Host} (read : found current)
    (due : (a.update current).1.reload = some r)
    (told : story calls es = ran thread calls ++ [.targetRead true, .reloaded r.settings r.resolution])
    (gate : w.GateOpen)
    (hosted : w.host = some h) (updated : h.adapter = (a.update current).2)
    (before : w.journal = es ++ older) :
    ∃ front later now new,
      GoesOnTo calls thread a found saved es older (w.finishLoad thread saved r.settings)
        front later now new := by
  have finish : w.finishLoad thread saved r.settings = (w.setAdapter (h.adapter.loaded r.settings)).draw
      thread saved := by
    simp only [World.finishLoad, hosted]
  have stillOpen : (w.setAdapter (h.adapter.loaded r.settings)).GateOpen := gate
  have adapter : (w.setAdapter (h.adapter.loaded r.settings)).host.map Host.adapter = some
      (h.adapter.loaded r.settings) := by
    simp [World.setAdapter, hosted]
  have course := (World.draw_comesTo thread saved stillOpen adapter).after (w := w) (e := []) rfl
  rw [← finish] at course
  have tells : story calls ([.renderCalled] ++ [] ++ es)
      = ran thread calls ++
        .targetRead true :: (reloads (a.update current).1.reload ++ [.renderCalled]) := by
    rw [List.append_nil, story_append, told, story_told rfl, due, List.append_assoc]
    rfl
  have resize : (h.adapter.loaded r.settings).resize = (a.update current).2.resize := by
    rw [← updated]
    rfl
  have pending : (h.adapter.loaded r.settings).pending = (a.update current).2.pending := by
    rw [← updated]
    rfl
  obtain ⟨front, goes⟩ :=
    course.goesOnTo before (by simp [Event.isBracket]) fun front => .drawing read resize pending tells
  exact ⟨front, _, _, _, goes⟩

theorem present_endsWith {current : Resolution} (read : found current)
    (resize : now.resize = (a.update current).2.resize)
    (pending : now.pending = (a.update current).2.pending)
    (told : story calls es = ran thread calls ++
      .targetRead true :: (reloads (a.update current).1.reload ++ [.renderCalled]))
    (hosted : w.host.map Host.adapter = some now) (before : w.journal = es ++ older) :
    ∃ rendered new, EndsWith calls thread a found w es older (w.present saved) (some rendered)
      now new := by
  have presents := w.present_presents saved
  unfold World.present at presents ⊢
  split
  · rename_i error failures failing
    rw [failing] at presents
    refine ⟨false, [.log (.frameFailed error)], rfl, ?_, by simp [Event.isBracket], hosted,
      .drawn false presents read resize pending ?_, ?_⟩
    · rw [← before]
      rfl
    · have failed : story calls [.log (.frameFailed error)] = [] := rfl
      rw [story_append, told, failed, List.append_nil]
      rfl
    · rintro b ⟨⟩
      exact ⟨rfl, rfl⟩
  · rename_i failing
    rw [failing] at presents
    refine ⟨true, [.rendered], rfl, ?_, by simp [Event.isBracket], hosted,
      .drawn true presents read resize pending ?_, ?_⟩
    · rw [← before]
      rfl
    · rw [story_append, told, story_told rfl]
      simp
    · rintro b ⟨⟩
      exact ⟨rfl, rfl⟩

theorem Stage.pass (h : Stage calls thread a found fault [] phase now es)
    (d : HostEffect w others fault [.pass thread saved phase] n) (gate : w.GateOpen)
    (hosted : w.host.map Host.adapter = some now) (before : w.journal = es ++ older)
    (reads : w.renderer.hasTarget = true → phase = .target → fault = none →
      found w.renderer.resolution) :
    (∃ front later now' new, GoesOnTo calls thread a found saved es older n front later now' new) ∨
      ∃ result new, EndsWith calls thread a found w es older n result now new ∧
        result.isNone = fault.isSome := by
  obtain ⟨host, isHost, same⟩ := Option.map_eq_some_iff.mp hosted
  generalize bottom : ([] : List Frame) = up at h
  cases d with
  | target _ _ calm =>
    cases h with
    | calling => simp at bottom
    | between => cases bottom
    | lost => cases calm
    | called told =>
      by_cases present : w.renderer.hasTarget = true
      · obtain ⟨front, later, now', new, goes⟩ := readTarget_goesOnTo told gate isHost before present
          (reads present rfl rfl)
        rw [same] at goes
        exact .inl ⟨front, later, now', new, goes⟩
      · obtain ⟨new, ends⟩ := readTarget_endsWith told hosted before (by simpa using present)
        exact .inr ⟨some false, new, ends, rfl⟩
  | loaded _ _ settings calm =>
    cases h with
    | loading read due told => exact .inl (finishLoad_goesOnTo read due told gate isHost same before)
  | present _ _ calm =>
    cases h with
    | drawing read resize pending told =>
      obtain ⟨rendered, new, ends⟩ := present_endsWith read resize pending told hosted before
      exact .inr ⟨some rendered, new, ends, by simp [calm]⟩
  | @abort _ _ _ raised unwinding =>
    have outcome (v : World) : Outcome calls thread a found w v none now es := by
      cases h with
      | calling => simp at bottom
      | between => cases bottom
      | called => cases unwinding
      | lost _ told => exact .lost told
      | @loading _ _ current r _ read due told =>
        refine .broken false read rfl rfl ?_
        rw [told, due]
        rfl
      | drawing read resize pending told => exact .broken true read resize pending told
    refine .inr ⟨none, [], ⟨rfl, ?_, by simp, hosted, outcome _, ?_⟩, by simp [unwinding]⟩
    · rw [← before]
      rfl
    · rintro b ⟨⟩

end

end FrameHost
