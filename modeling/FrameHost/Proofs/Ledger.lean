import FrameHost.Proofs.OpenPass

/-!
The accounting of runnables. Every ticket pushed is in exactly one of the states waiting, held by a batch,
started and destroyed, and the counts balance in every reachable system.
-/
namespace FrameHost

namespace Event

def submits (ticket : Nat) : Event → Bool
  | submitted _ t => t == ticket
  | _ => false

def starts (ticket : Nat) : Event → Bool
  | started t _ => t == ticket
  | _ => false

def finishes (ticket : Nat) : Event → Bool
  | finished t => t == ticket
  | _ => false

def destroys (ticket : Nat) : Event → Bool
  | destroyed t _ => t == ticket
  | _ => false

def isRunnableEvent : Event → Bool
  | submitted .. | started .. | finished _ | destroyed .. => true
  | _ => false

def isApart : Event → Bool
  | log r => !r.tellsLoss
  | submitted .. | started .. | finished _ | destroyed .. | began .. | took .. | ended .. => false
  | _ => true

theorem isApart_of_isRemark {e : Event} (h : e.isRemark = true) : e.isApart = true := by
  cases e <;> first | exact h | rfl

theorem isRunnableEvent_of_isApart {e : Event} (h : e.isApart = true) : e.isRunnableEvent = false := by
  cases e <;> first | rfl | cases h

end Event

def World.tally (w : World) (p : Event → Bool) : Nat := w.journal.countP p

def World.waiting (w : World) : Line → List Runnable
  | .graphics => (w.graphics.getD .new).queue.calls
  | .mainThread => w.channel.waiting
  | .standalone => (w.standalone.getD .empty).calls

def copies (ticket : Nat) (rs : List Runnable) : Nat := rs.countP fun r => r.ticket == ticket

def World.held (w : World) (ticket : Nat) : Nat :=
  copies ticket (w.waiting .graphics) + copies ticket (w.waiting .mainThread) + copies ticket
    (w.waiting .standalone)

def Frame.held (ticket : Nat) : Frame → Nat
  | batch _ _ rest _ => copies ticket rest
  | _ => 0

def Frame.isRunning (ticket : Nat) : Frame → Bool
  | running t => t == ticket
  | _ => false

def heldBy (ticket : Nat) : List Frame → Nat
  | [] => 0
  | f :: fs => f.held ticket + heldBy ticket fs

def Event.pushed? (line : Line) : Event → Option Nat
  | submitted l ticket => if l = line then some ticket else none
  | _ => none

def pushes (line : Line) (journal : List Event) : List Nat :=
  (journal.filterMap (Event.pushed? line)).reverse

def World.Lined (w : World) (line : Line) : Prop :=
  ((w.waiting line).map Runnable.ticket).Sublist (pushes line w.journal)

/-- Runnables pushed = runnables held + started + destroyed, for each ticket. A running runnable was started
and has not finished. -/
structure Ledger (w : World) (fs : List Frame) : Prop where
  balance : ∀ k, w.tally (Event.submits k)
    = w.held k + heldBy k fs + w.tally (Event.starts k) + w.tally (Event.destroys k)
  once : ∀ k, w.tally (Event.submits k) ≤ 1
  fresh : ∀ k, w.tickets ≤ k → w.tally (Event.submits k) = 0
  running : ∀ k, w.tally (Event.finishes k) + fs.countP (Frame.isRunning k) ≤ w.tally (Event.starts k)
  lined : ∀ line, w.Lined line

/-- The change of the counts of each ticket by one effect, in the world and on the stack. -/
structure LedgerMove (w : World) (popped : List Frame) (v : World) (laid : List Frame) : Prop where
  journal : ∃ es, v.journal = es ++ w.journal
  tickets : w.tickets ≤ v.tickets
  balance : ∀ k, v.tally (Event.submits k)
      + (w.held k + heldBy k popped + w.tally (Event.starts k) + w.tally (Event.destroys k))
    = w.tally (Event.submits k)
      + (v.held k + heldBy k laid + v.tally (Event.starts k) + v.tally (Event.destroys k))
  once : ∀ k, v.tally (Event.submits k) = w.tally (Event.submits k) ∨
    w.tickets ≤ k ∧ k < v.tickets ∧ v.tally (Event.submits k) = w.tally (Event.submits k) + 1
  running : ∀ k, v.tally (Event.finishes k) + laid.countP (Frame.isRunning k) + w.tally (Event.starts k)
    ≤ w.tally (Event.finishes k) + popped.countP (Frame.isRunning k) + v.tally (Event.starts k)
  lined : ∀ line, w.Lined line → v.Lined line

@[simp] theorem World.tally_record (w : World) (e : Event) (p : Event → Bool) :
    (w.record e).tally p = w.tally p + if p e then 1 else 0 := List.countP_cons ..

@[simp] theorem World.tally_ticketed (w : World) (p : Event → Bool) : w.ticketed.tally p = w.tally p :=
  rfl
@[simp] theorem World.waiting_record (w : World) (e : Event) : (w.record e).waiting = w.waiting := rfl
@[simp] theorem World.waiting_ticketed (w : World) : w.ticketed.waiting = w.waiting := rfl
@[simp] theorem copies_nil (k : Nat) : copies k [] = 0 := rfl

@[simp] theorem copies_cons (k : Nat) (r : Runnable) (rs : List Runnable) :
    copies k (r :: rs) = copies k rs + if r.ticket == k then 1 else 0 := List.countP_cons ..

@[simp] theorem copies_append (k : Nat) (rs ts : List Runnable) :
    copies k (rs ++ ts) = copies k rs + copies k ts :=
  List.countP_append

@[simp] theorem heldBy_nil (k : Nat) : heldBy k [] = 0 := rfl

@[simp] theorem heldBy_cons (k : Nat) (f : Frame) (fs : List Frame) :
    heldBy k (f :: fs) = f.held k + heldBy k fs := rfl

@[simp] theorem heldBy_append (k : Nat) (fs gs : List Frame) :
    heldBy k (fs ++ gs) = heldBy k fs + heldBy k gs := by
  induction fs with
  | nil => simp
  | cons f fs ih => simp [ih, Nat.add_assoc]

theorem heldBy_perm {fs gs : List Frame} (p : fs.Perm gs) (k : Nat) : heldBy k fs = heldBy k gs := by
  induction p with
  | nil => rfl
  | cons f _ ih => rw [heldBy_cons, heldBy_cons, ih]
  | swap f g fs =>
    simp only [heldBy_cons]
    omega
  | trans _ _ first second => exact first.trans second

theorem heldBy_light {fs : List Frame} (h : Light fs) (k : Nat) : heldBy k fs = 0 := by
  induction fs with
  | nil => rfl
  | cons f fs ih =>
    have light := h f List.mem_cons_self
    rw [heldBy_cons, ih fun x hx => h x (List.mem_cons_of_mem f hx)]
    cases f <;> first | rfl | cases light

theorem running_light {fs : List Frame} (h : Light fs) (k : Nat) :
    fs.countP (Frame.isRunning k) = 0 := by
  apply List.countP_eq_zero.mpr
  intro f hf
  have light := h f hf
  cases f <;> first | exact Bool.false_ne_true | cases light

theorem pushes_append (line : Line) (es older : List Event) :
    pushes line (es ++ older) = pushes line older ++ pushes line es := by
  simp [pushes]

theorem mem_pushes {line : Line} {ticket : Nat} {journal : List Event} :
    ticket ∈ pushes line journal ↔ .submitted line ticket ∈ journal := by
  simp only [pushes, List.mem_reverse, List.mem_filterMap]
  constructor
  · rintro ⟨e, he, eq⟩
    cases e <;> simp only [Event.pushed?, reduceCtorEq] at eq
    split at eq
    · cases eq
      subst line
      exact he
    · cases eq
  · intro mem
    exact ⟨_, mem, by simp [Event.pushed?]⟩

theorem World.Lined.shorter {w v : World} {line : Line} (h : w.Lined line)
    (journal : ∃ es, v.journal = es ++ w.journal)
    (fewer : (v.waiting line).Sublist (w.waiting line)) : v.Lined line := by
  obtain ⟨es, eq⟩ := journal
  rw [World.Lined, eq, pushes_append]
  exact ((fewer.map _).trans h).trans (List.sublist_append_left ..)

theorem World.Lined.last {w v : World} {line : Line} {r : Runnable} (h : w.Lined line)
    (journal : v.journal = .submitted line r.ticket :: w.journal)
    (last : v.waiting line = w.waiting line ++ [r]) :
    v.Lined line := by
  have pushed : pushes line [.submitted line r.ticket] = [r.ticket] := by simp [pushes, Event.pushed?]
  have grown : pushes line v.journal = pushes line w.journal ++ [r.ticket] := by
    rw [journal, ← pushed]
    exact pushes_append line [_] w.journal
  rw [World.Lined, last, grown, List.map_append]
  exact h.append (.refl _)

theorem LedgerMove.kept {w v : World} {popped laid : List Frame} (t : LedgerMove w popped v laid) :
    ∀ e ∈ w.journal, e ∈ v.journal := by
  intro e he
  obtain ⟨es, journal⟩ := t.journal
  rw [journal]
  exact List.mem_append_right es he

theorem Ledger.filed {w : World} {fs : List Frame} (h : Ledger w fs) :
    ∀ line, ∀ r ∈ w.waiting line, .submitted line r.ticket ∈ w.journal :=
  fun line _ hr => mem_pushes.mp ((h.lined line).subset (List.mem_map_of_mem hr))

/-- A ledger move preserves the ledger, with any other frames on the stacks. -/
theorem Ledger.ledgerMove {w v : World} {popped laid others : List Frame} (h : Ledger w (popped ++ others))
    (t : LedgerMove w popped v laid) : Ledger v (laid ++ others) := by
  refine ⟨?_, ?_, ?_, ?_, ?_⟩
  · intro k
    have before := h.balance k
    have change := t.balance k
    rw [heldBy_append] at before ⊢
    omega
  · intro k
    have old := h.once k
    rcases t.once k with same | ⟨late, _, new⟩
    · omega
    · have none := h.fresh k late
      omega
  · intro k late
    have none := h.fresh k (Nat.le_trans t.tickets late)
    rcases t.once k with same | ⟨_, early, _⟩
    · omega
    · omega
  · intro k
    have before := h.running k
    have change := t.running k
    rw [List.countP_append] at before ⊢
    omega
  · intro line
    exact t.lined line (h.lined line)

theorem Ledger.perm {w : World} {fs gs : List Frame} (p : fs.Perm gs) (h : Ledger w fs) :
    Ledger w gs := by
  refine ⟨?_, h.once, h.fresh, ?_, h.lined⟩
  · intro k
    rw [h.balance k, heldBy_perm p k]
  · intro k
    rw [← p.countP_eq]
    exact h.running k

structure World.Silent (w v : World) : Prop where
  journal : ∃ es, v.journal = es ++ w.journal ∧ ∀ e ∈ es, e.isRunnableEvent = false
  tickets : w.tickets ≤ v.tickets

structure World.Still (w v : World) : Prop extends w.Silent v where
  waiting : v.waiting = w.waiting

namespace World.Silent

variable {w v : World} (h : w.Silent v)
include h

theorem grows : ∃ es, v.journal = es ++ w.journal := by
  obtain ⟨es, journal, _⟩ := h.journal
  exact ⟨es, journal⟩

theorem tally {p : Event → Bool} (runnableEvents : ∀ e, p e = true → e.isRunnableEvent = true) :
    v.tally p = w.tally p := by
  obtain ⟨es, journal, none⟩ := h.journal
  have zero : es.countP p = 0 := by
    apply List.countP_eq_zero.mpr
    intro e he counted
    have runnableEvent := runnableEvents e counted
    simp [none e he] at runnableEvent
  rw [World.tally, journal, List.countP_append, zero, Nat.zero_add, World.tally]

theorem submits (k : Nat) : v.tally (Event.submits k) = w.tally (Event.submits k) :=
  h.tally fun e he => by cases e <;> first | rfl | cases he

theorem starts (k : Nat) : v.tally (Event.starts k) = w.tally (Event.starts k) :=
  h.tally fun e he => by cases e <;> first | rfl | cases he

theorem finishes (k : Nat) : v.tally (Event.finishes k) = w.tally (Event.finishes k) :=
  h.tally fun e he => by cases e <;> first | rfl | cases he

theorem destroys (k : Nat) : v.tally (Event.destroys k) = w.tally (Event.destroys k) :=
  h.tally fun e he => by cases e <;> first | rfl | cases he

end World.Silent

/-- Lines, tickets and receiver are unchanged, and no event is about a runnable. -/
structure World.KeepsRunnables (w v : World) : Prop where
  journal : w.Adds Event.isApart v
  tickets : v.tickets = w.tickets
  waiting : v.waiting = w.waiting
  receiver : v.channel.receiver = w.channel.receiver

theorem Adapter.update_tells (a : Adapter) (current : Resolution) :
    ∀ r ∈ (a.update current).1.records, r.tellsLoss = false := by
  unfold update
  split
  · simp [LogRecord.tellsLoss]
  · simp
  · dsimp only
    split <;> simp [LogRecord.tellsLoss]

theorem AdapterRequest.warnings_tell (r : AdapterRequest) : ∀ l ∈ r.warnings, l.tellsLoss = false := by
  cases r with
  | config c =>
    unfold warnings
    split <;> simp [LogRecord.tellsLoss]
  | _ => simp [warnings]

theorem AdapterRequest.notice_tells (r : AdapterRequest) : r.notice.tellsLoss = false := by
  cases r <;> rfl

namespace World.KeepsRunnables

theorem refl (w : World) : w.KeepsRunnables w := ⟨.of_eq rfl, rfl, rfl, rfl⟩

theorem trans {u v w : World} (h : u.KeepsRunnables v) (k : v.KeepsRunnables w) : u.KeepsRunnables w :=
  ⟨h.journal.trans k.journal, k.tickets.trans h.tickets, k.waiting.trans h.waiting,
    k.receiver.trans h.receiver⟩

theorem of_quiet {w v : World} (h : w.Quiet v) : w.KeepsRunnables v := by
  refine ⟨h.journal.mono fun _ => Event.isApart_of_isRemark, h.tickets, ?_, ?_⟩
  · funext line
    cases line <;> simp only [World.waiting, h.graphics, h.channel, h.standalone]
  · rw [h.channel]

theorem record (w : World) {e : Event} (h : e.isApart = true) : w.KeepsRunnables (w.record e) :=
  ⟨.record w h, rfl, rfl, rfl⟩

theorem log (w : World) {r : LogRecord} (h : r.tellsLoss = false) : w.KeepsRunnables (w.log r) :=
  record w (by simp [Event.isApart, h])

theorem logAll (w : World) {rs : List LogRecord} (h : ∀ r ∈ rs, r.tellsLoss = false) :
    w.KeepsRunnables (w.recordAll (rs.map .log)) := by
  have added : w.Adds Event.isApart (w.recordAll (rs.map .log)) := by
    apply World.Adds.recordAll w
    intro e he
    obtain ⟨r, mem, rfl⟩ := List.mem_map.mp he
    simp [Event.isApart, h r mem]
  obtain ⟨j, eq⟩ := w.recordAll_eq (rs.map .log)
  rw [eq] at added ⊢
  exact ⟨added, rfl, rfl, rfl⟩

theorem setAdapter (w : World) (a : Adapter) : w.KeepsRunnables (w.setAdapter a) := ⟨.of_eq rfl, rfl, rfl, rfl⟩

theorem setRenderer (w : World) (r : Renderer) : w.KeepsRunnables { w with renderer := r } :=
  ⟨.of_eq rfl, rfl, rfl, rfl⟩

theorem setGraphics (w : World) {g k : Graphics} (shared : w.graphics = some g) (same : k.queue = g.queue) :
    w.KeepsRunnables { w with graphics := some k } := by
  refine ⟨.of_eq rfl, rfl, ?_, rfl⟩
  funext line
  cases line with
  | graphics => simp only [World.waiting, shared, Option.getD_some, same]
  | _ => rfl

theorem leaveGate (w : World) (saved : Bool) : w.KeepsRunnables (w.leaveGate saved) := by
  unfold World.leaveGate
  cases h : w.graphics with
  | none =>
    refine ⟨.of_eq rfl, rfl, ?_, rfl⟩
    funext line
    cases line with
    | graphics => simp only [World.waiting, h, Option.map_none]
    | _ => rfl
  | some g => exact setGraphics w h rfl

theorem endPass (w : World) (saved rendered : Bool) : w.KeepsRunnables (w.endPass saved rendered).world :=
  (leaveGate w saved).trans (record _ rfl)

theorem draw (w : World) (thread : Nat) (saved : Bool) : w.KeepsRunnables (w.draw thread saved).world := by
  unfold World.draw
  split
  · exact refl w
  · exact record w rfl

theorem load (w : World) (thread : Nat) (saved : Bool) (r : Reload) :
    w.KeepsRunnables (w.load thread saved r).world := by
  unfold World.load
  split
  · exact refl w
  · exact (log w rfl).trans ((record _ rfl).trans (setRenderer _ _))

theorem refresh (w : World) (thread : Nat) (saved : Bool) (a : Adapter) :
    w.KeepsRunnables (w.refresh thread saved a).world := by
  have folded := (setAdapter w (a.update w.renderer.resolution).2).trans
      (logAll _ (a.update_tells w.renderer.resolution))
  unfold World.refresh
  dsimp only
  split
  · exact folded.trans (draw _ thread saved)
  · exact folded.trans (load _ thread saved _)

theorem readTarget (w : World) (thread : Nat) (saved : Bool) :
    w.KeepsRunnables (w.readTarget thread saved).world := by
  have read := record w (e := .targetRead w.renderer.hasTarget) rfl
  unfold World.readTarget
  dsimp only
  split
  · exact read.trans (refresh _ thread saved _)
  · exact read.trans ((log _ rfl).trans (endPass _ saved false))

theorem finishLoad (w : World) (thread : Nat) (saved : Bool) (settings : Settings) :
    w.KeepsRunnables (w.finishLoad thread saved settings).world := by
  unfold World.finishLoad
  split
  · exact (setAdapter w _).trans (draw _ thread saved)
  · exact draw w thread saved

theorem present (w : World) (saved : Bool) : w.KeepsRunnables (w.present saved).world := by
  unfold World.present
  split
  · exact (setRenderer w _).trans ((log _ rfl).trans (endPass _ saved false))
  · exact (record w rfl).trans (endPass _ saved true)

theorem ask (w : World) (h : Host) (r : AdapterRequest) : w.KeepsRunnables (w.ask h r).world := by
  have warned := (record w (e := .requested r) rfl).trans (logAll _ r.warnings_tell)
  unfold World.ask
  dsimp only
  split
  · exact warned
  · exact warned.trans ((log _ r.notice_tells).trans (setAdapter _ _))

theorem still {w v : World} (h : w.KeepsRunnables v) : w.Still v := by
  obtain ⟨es, journal, apart⟩ := h.journal
  exact ⟨⟨⟨es, journal, fun e he => Event.isRunnableEvent_of_isApart (apart e he)⟩,
    Nat.le_of_eq h.tickets.symm⟩, h.waiting⟩

end World.KeepsRunnables

namespace World.Still

theorem refl (w : World) : w.Still w := (KeepsRunnables.refl w).still

theorem trans {u v w : World} (h : u.Still v) (k : v.Still w) : u.Still w := by
  obtain ⟨es, he, ne⟩ := h.journal
  obtain ⟨ds, hd, nd⟩ := k.journal
  refine ⟨⟨⟨ds ++ es, by rw [hd, he, List.append_assoc], ?_⟩, Nat.le_trans h.tickets k.tickets⟩,
    k.waiting.trans h.waiting⟩
  intro e mem
  rcases List.mem_append.mp mem with hm | hm
  · exact nd e hm
  · exact ne e hm

theorem of_quiet {w v : World} (h : w.Quiet v) : w.Still v := (KeepsRunnables.of_quiet h).still

theorem record (w : World) {e : Event} (h : e.isRunnableEvent = false) : w.Still (w.record e) :=
  ⟨⟨⟨[e], rfl, by simpa using h⟩, Nat.le_refl _⟩, rfl⟩

theorem ticketed (w : World) : w.Still w.ticketed := ⟨⟨⟨[], rfl, by simp⟩, Nat.le_succ _⟩, rfl⟩

theorem ledgerMove {w v : World} {popped laid : List Frame} (h : w.Still v)
    (held : ∀ k, heldBy k laid = heldBy k popped)
    (running : ∀ k, laid.countP (Frame.isRunning k) ≤ popped.countP (Frame.isRunning k)) :
    LedgerMove w popped v laid := by
  have silent := h.toSilent
  refine ⟨silent.grows, h.tickets, ?_, fun k => .inl (silent.submits k), ?_, ?_⟩
  · intro k
    have same : v.held k = w.held k := by simp only [World.held, h.waiting]
    rw [silent.submits k, silent.starts k, silent.destroys k, same, held k]
  · intro k
    have fewer := running k
    rw [silent.starts k, silent.finishes k]
    omega
  · intro line lined
    exact lined.shorter silent.grows (h.waiting ▸ .refl _)

theorem ledgerMove_light {w v : World} {popped laid : List Frame} (h : w.Still v) (light : Light popped)
    (laidLight : Light laid) :
    LedgerMove w popped v laid := by
  refine h.ledgerMove (fun k => ?_) (fun k => ?_)
  · rw [heldBy_light light, heldBy_light laidLight]
  · rw [running_light laidLight]
    exact Nat.zero_le _

end World.Still

namespace LedgerMove

theorem trans {u v w : World} {fs gs hs : List Frame} (t : LedgerMove u fs v gs) (d : LedgerMove v gs w hs) :
    LedgerMove u fs w hs := by
  refine ⟨?_, Nat.le_trans t.tickets d.tickets, ?_, ?_, ?_, fun line lined =>
    d.lined line (t.lined line lined)⟩
  · obtain ⟨es, first⟩ := t.journal
    obtain ⟨ds, second⟩ := d.journal
    exact ⟨ds ++ es, by rw [second, first, List.append_assoc]⟩
  · intro k
    have first := t.balance k
    have second := d.balance k
    omega
  · intro k
    have early := t.tickets
    have late := d.tickets
    rcases t.once k with same | ⟨lower, upper, once⟩ <;> rcases d.once k with same' |
        ⟨lower', upper', once'⟩
    · exact .inl (same'.trans same)
    · exact .inr ⟨by omega, upper', by omega⟩
    · exact .inr ⟨lower, by omega, by omega⟩
    · omega
  · intro k
    have first := t.running k
    have second := d.running k
    omega

/-- A new runnable is submitted and starts at once. -/
theorem started (v : World) (line : Line) (thread : Nat) (body : Script) {popped below : List Frame}
    (light : Light popped) (plain : Light below) :
    LedgerMove v popped ((v.ticketed.record (.submitted line v.tickets)).record (.started v.tickets thread))
      (.script thread body :: .running v.tickets :: below) := by
  refine ⟨⟨[_, _], rfl⟩, Nat.le_succ _, ?_, ?_, ?_, fun line lined =>
    lined.shorter ⟨[_, _], rfl⟩ (.refl _)⟩
  · intro k
    simp [World.held, Event.submits, Event.starts, Event.destroys, Frame.held, heldBy_light light,
      heldBy_light plain]
    omega
  · intro k
    by_cases next : v.tickets = k
    · have last : k < v.tickets + 1 := by omega
      exact .inr ⟨Nat.le_of_eq next, last, by simp [Event.submits, next]⟩
    · exact .inl (by simp [Event.submits, next])
  · intro k
    simp [Event.finishes, Event.starts, Frame.isRunning, List.countP_cons, running_light plain]
    omega

theorem held_line {v w : World} (line : Line) (same : ∀ l, l ≠ line → w.waiting l = v.waiting l)
    (k : Nat) :
    w.held k + copies k (v.waiting line) = v.held k + copies k (w.waiting line) := by
  unfold World.held
  cases line with
  | graphics => rw [same .mainThread (by decide), same .standalone (by decide)]; omega
  | mainThread => rw [same .graphics (by decide), same .standalone (by decide)]; omega
  | standalone => rw [same .graphics (by decide), same .mainThread (by decide)]; omega

/-- A new runnable is submitted and appended to its line. -/
theorem queued {v w : World} {popped below : List Frame} (line : Line) {r : Runnable}
    (own : r.ticket = v.tickets)
    (journal : w.journal = .submitted line v.tickets :: v.journal) (tickets : w.tickets = v.tickets + 1)
    (last : w.waiting line = v.waiting line ++ [r]) (same : ∀ l, l ≠ line → w.waiting l = v.waiting l)
    (light : Light popped) (plain : Light below) : LedgerMove v popped w below := by
  have tally (p : Event → Bool) :
      w.tally p = v.tally p + if p (.submitted line v.tickets) then 1 else 0 := by
    rw [World.tally, journal, List.countP_cons, World.tally]
  refine ⟨⟨[_], journal⟩, by omega, ?_, ?_, ?_, ?_⟩
  · intro k
    have moved := held_line line same k
    rw [last] at moved
    simp [tally, Event.submits, Event.starts, Event.destroys, heldBy_light light, heldBy_light plain,
      own] at moved ⊢
    omega
  · intro k
    by_cases next : v.tickets = k
    · exact .inr ⟨by omega, by omega, by simp [tally, Event.submits, next]⟩
    · exact .inl (by simp [tally, Event.submits, next])
  · intro k
    simp only [tally, Event.finishes, Event.starts, running_light plain, Bool.false_eq_true, if_false]
    omega
  · intro l lined
    by_cases here : l = line
    · subst here
      exact lined.last (own ▸ journal) last
    · exact lined.shorter ⟨[_], journal⟩ (same l here ▸ .refl _)

theorem refused (v : World) (line : Line) (label : Option String) {popped below : List Frame}
    (light : Light popped)
    (plain : Light below) :
    LedgerMove v popped ((v.ticketed.record (.submitted line v.tickets)).record (.destroyed v.tickets label))
      below := by
  refine ⟨⟨[_, _], rfl⟩, Nat.le_succ _, ?_, ?_, ?_, fun line lined =>
    lined.shorter ⟨[_, _], rfl⟩ (.refl _)⟩
  · intro k
    simp [World.held, Event.submits, Event.starts, Event.destroys, heldBy_light light,
      heldBy_light plain]
    omega
  · intro k
    by_cases next : v.tickets = k
    · have last : k < v.tickets + 1 := by omega
      exact .inr ⟨Nat.le_of_eq next, last, by simp [Event.submits, next]⟩
    · exact .inl (by simp [Event.submits, next])
  · intro k
    simp [Event.finishes, Event.starts, running_light plain]

theorem emptied {v w : World} {popped laid : List Frame} (line : Line) (silent : v.Silent w)
    (none : w.waiting line = [])
    (same : ∀ l, l ≠ line → w.waiting l = v.waiting l)
    (held : ∀ k, heldBy k laid = heldBy k popped + copies k (v.waiting line))
    (running : ∀ k, laid.countP (Frame.isRunning k) ≤ popped.countP (Frame.isRunning k)) :
    LedgerMove v popped w laid := by
  refine ⟨silent.grows, silent.tickets, ?_, fun k => .inl (silent.submits k), ?_, ?_⟩
  · intro k
    have moved := held_line line same k
    rw [none, copies_nil] at moved
    rw [silent.submits, silent.starts, silent.destroys, held]
    omega
  · intro k
    have fewer := running k
    rw [silent.starts, silent.finishes]
    omega
  · intro l lined
    apply lined.shorter silent.grows
    by_cases here : l = line
    · rw [here, none]
      exact List.nil_sublist _
    · exact same l here ▸ .refl _

theorem tally_destroyAll (w : World) (rs : List Runnable) (p : Event → Bool) :
    (w.destroyAll rs).tally p = w.tally p + rs.countP fun r => p (.destroyed r.ticket r.label) := by
  rw [World.tally, World.destroyAll, World.journal_recordAll, List.countP_append, List.countP_reverse,
    List.countP_map,
    World.tally, Nat.add_comm]
  rfl

theorem waiting_destroyAll (w : World) (rs : List Runnable) :
    (w.destroyAll rs).waiting = w.waiting := by
  obtain ⟨j, eq⟩ := w.recordAll_eq (rs.map fun r => .destroyed r.ticket r.label)
  rw [World.destroyAll, eq]
  rfl

theorem tickets_destroyAll (w : World) (rs : List Runnable) :
    (w.destroyAll rs).tickets = w.tickets := by
  obtain ⟨j, eq⟩ := w.recordAll_eq (rs.map fun r => .destroyed r.ticket r.label)
  rw [World.destroyAll, eq]

theorem destroyed {v w : World} {popped laid : List Frame} (rs : List Runnable) (silent : v.Silent w)
    (fewer : ∀ l, (w.waiting l).Sublist (v.waiting l))
    (held : ∀ k, v.held k + heldBy k popped = w.held k + heldBy k laid + copies k rs)
    (running : ∀ k, laid.countP (Frame.isRunning k) ≤ popped.countP (Frame.isRunning k)) :
    LedgerMove v popped (w.destroyAll rs) laid := by
  have others {p : Event → Bool} (h : ∀ t l, p (.destroyed t l) = false) :
      (w.destroyAll rs).tally p = w.tally p := by
    simp [tally_destroyAll, h]
  have submits (k : Nat) := (others (p := Event.submits k) fun _ _ => rfl).trans (silent.submits k)
  have starts (k : Nat) := (others (p := Event.starts k) fun _ _ => rfl).trans (silent.starts k)
  have finishes (k : Nat) := (others (p := Event.finishes k) fun _ _ => rfl).trans (silent.finishes k)
  have destroys (k : Nat) :
      (w.destroyAll rs).tally (Event.destroys k) = v.tally (Event.destroys k) + copies k rs := by
    rw [tally_destroyAll, silent.destroys]
    rfl
  have journal : ∃ es, (w.destroyAll rs).journal = es ++ v.journal := by
    obtain ⟨es, written⟩ := silent.grows
    exact ⟨_ ++ es, by rw [World.destroyAll, World.journal_recordAll, written, List.append_assoc]⟩
  refine ⟨journal, by rw [tickets_destroyAll]; exact silent.tickets, ?_, fun k =>
    .inl (submits k), ?_, ?_⟩
  · intro k
    have same : (w.destroyAll rs).held k = w.held k := by
      rw [World.held, waiting_destroyAll, World.held]
    have moved := held k
    rw [submits, starts, destroys, same]
    omega
  · intro k
    have fewer := running k
    rw [finishes, starts]
    omega
  · intro l lined
    exact lined.shorter journal (by rw [waiting_destroyAll]; exact fewer l)

theorem begun {v w : World} {popped laid : List Frame} (r : Runnable) (thread : Nat)
    (silent : v.Silent w)
    (fewer : ∀ l, (w.waiting l).Sublist (v.waiting l))
    (held : ∀ k, v.held k + heldBy k popped = w.held k + heldBy k laid + copies k [r])
    (running : ∀ k, laid.countP (Frame.isRunning k) = popped.countP (Frame.isRunning k)
      + copies k [r]) :
    LedgerMove v popped (w.record (.started r.ticket thread)) laid := by
  have starts (k : Nat) : (w.record (.started r.ticket thread)).tally (Event.starts k)
      = v.tally (Event.starts k) + copies k [r] := by
    simp [Event.starts, silent.starts]
  have journal : ∃ es, (w.record (.started r.ticket thread)).journal = es ++ v.journal := by
    obtain ⟨es, written⟩ := silent.grows
    exact ⟨_ :: es, by rw [World.record, written, List.cons_append]⟩
  refine ⟨journal, silent.tickets, ?_, ?_, ?_, fun l lined => lined.shorter journal (fewer l)⟩
  · intro k
    have same : (w.record (.started r.ticket thread)).held k = w.held k := rfl
    have moved := held k
    rw [starts, same]
    simp only [World.tally_record, Event.submits, Event.destroys, Bool.false_eq_true, if_false,
      silent.submits,
      silent.destroys]
    omega
  · intro k
    simp only [World.tally_record, Event.submits, Bool.false_eq_true, if_false, silent.submits]
    exact .inl rfl
  · intro k
    have more := running k
    rw [starts]
    simp only [World.tally_record, Event.finishes, Bool.false_eq_true, if_false, silent.finishes]
    omega

end LedgerMove

namespace World

variable {popped below : List Frame}

theorem post_ledgerMove {v : World} {g : Graphics} (shared : v.graphics = some g) (thread : Nat)
    (label : Option String)
    (body : Script) (light : Light popped) (plain : Light below) :
    LedgerMove v popped (v.ticketed.post g thread (v.runnable label body) below).world
      (v.ticketed.post g thread (v.runnable label body) below).stack := by
  unfold post
  dsimp only
  split
  · exact .started v .graphics thread body light plain
  · refine .queued .graphics (r := v.runnable label body) rfl rfl rfl ?_ ?_ light plain
    · simp [waiting, shared, Machine.proceed]
    · intro l other
      cases l <;> first | exact absurd rfl other | rfl

theorem dispatch_ledgerMove (v : World) (label : Option String) (body : Script) (light : Light popped)
    (plain : Light below) :
    LedgerMove v popped (v.ticketed.dispatch (v.runnable label body)) below := by
  unfold dispatch
  dsimp only
  split
  · exact (LedgerMove.refused v .mainThread label light plain).trans
      ((Still.record _ rfl).ledgerMove (fun _ => rfl) fun _ => Nat.le_refl _)
  · refine .queued .mainThread (r := v.runnable label body) rfl rfl rfl rfl ?_ light plain
    intro l other
    cases l <;> first | exact absurd rfl other | rfl

theorem enqueue_ledgerMove {v : World} {q : CallQueue} (held : v.standalone = some q) (label : Option String)
    (body : Script)
    (light : Light popped) (plain : Light below) :
    LedgerMove v popped ({ v.ticketed with standalone := some (q.push (v.runnable label body)) }.record
      (.submitted .standalone v.tickets)) below := by
  refine .queued .standalone (r := v.runnable label body) rfl rfl rfl ?_ ?_ light plain
  · simp only [waiting, held, record, Option.getD_some, CallQueue.push_calls]
  · intro l other
    cases l <;> first | exact absurd rfl other | rfl

theorem silent_drain (w : World) (thread : Nat) (line : Line) (calls : List Runnable)
    (below : List Frame) :
    w.Still (w.drain thread line calls below).world := by
  have began := (Still.ticketed w).trans
      (Still.record _ (e := .began line w.tickets (calls.map Runnable.ticket)) rfl)
  unfold drain
  dsimp only
  split
  · exact began
  · exact began.trans (Still.record _ rfl)

theorem drain_ledgerMove {w : World} {q : CallQueue} (held : w.standalone = some q) (thread : Nat)
    (light : Light popped)
    (plain : Light below) :
    LedgerMove w popped ({ w with standalone := some .empty }.drain thread .standalone q.calls
      (.drained :: below)).world
      ({ w with standalone := some .empty }.drain thread .standalone q.calls
        (.drained :: below)).stack := by
  have still := silent_drain { w with standalone := some .empty } thread .standalone q.calls
      (.drained :: below)
  refine .emptied .standalone ⟨still.journal, still.tickets⟩ ?_ ?_ ?_ ?_
  · rw [still.waiting]
    rfl
  · intro l other
    rw [still.waiting]
    cases l <;> first | exact absurd rfl other | rfl
  · intro k
    simp [drain, Machine.proceed, Frame.held, heldBy_light light, heldBy_light plain, waiting, held]
  · intro k
    simp [drain, Machine.proceed, Frame.isRunning, running_light plain]

theorem enterPass_ledgerMove {w : World} {g : Graphics} (shared : w.graphics = some g) (thread : Nat)
    (owned : (g.affinity.bind thread).isCurrent thread = true) :
    LedgerMove w [.enter thread] (w.enterPass thread).world (w.enterPass thread).stack := by
  let began : World :=
    { w with graphics := some ⟨g.affinity.bind thread, ⟨true⟩, .empty⟩ }.record (.passBegan thread)
  have still := silent_drain began thread .graphics g.queue.calls [.pass thread g.gate.allowed .target]
  have start : w.Silent began := ⟨⟨[.passBegan thread], rfl, by simp [Event.isRunnableEvent]⟩, Nat.le_refl _⟩
  obtain ⟨es, he, ne⟩ := still.journal
  rw [w.enterPass_eq thread shared owned]
  refine .emptied .graphics ⟨⟨es ++ [.passBegan thread], ?_, ?_⟩, still.tickets⟩ ?_ ?_ ?_ ?_
  · rw [he, List.append_assoc]
    rfl
  · intro e mem
    rcases List.mem_append.mp mem with old | new
    · exact ne e old
    · rw [List.mem_singleton.mp new]
      rfl
  · rw [still.waiting]
    rfl
  · intro l other
    rw [still.waiting]
    cases l <;> first | exact absurd rfl other | rfl
  · intro k
    simp [drain, Machine.proceed, Frame.held, waiting, shared]
  · intro k
    simp [drain, Machine.proceed, Frame.isRunning]

theorem nextCall_ledgerMove (w : World) (thread activation count : Nat) (rest : List Runnable) :
    LedgerMove w [.batch thread activation rest count] (w.nextCall thread activation count rest).world
      (w.nextCall thread activation count rest).stack := by
  cases rest with
  | nil => exact (Still.record w rfl).ledgerMove (fun _ => rfl) fun _ => Nat.le_refl _
  | cons r rest =>
    refine .begun (w := w.record (.took activation r.ticket)) r thread (Still.record w rfl).toSilent
      (fun _ => .refl _) ?_ ?_
    · intro k
      have same : (w.record (.took activation r.ticket)).held k = w.held k := rfl
      rw [same]
      simp [nextCall, start, Machine.proceed, Frame.held]
      omega
    · intro k
      simp [nextCall, start, Machine.proceed, List.countP_cons, Frame.isRunning]

theorem nextMain_ledgerMove (w : World) (thread activation queued ran : Nat) :
    LedgerMove w [.round thread activation queued ran] (w.nextMain thread activation queued ran).world
      (w.nextMain thread activation queued ran).stack := by
  unfold nextMain
  split
  · rename_i r rest _ waits
    let shorter : World :=
      { w with channel := { w.channel with waiting := rest } }.record (.took activation r.ticket)
    have others : ∀ l, l ≠ .mainThread → shorter.waiting l = w.waiting l := by
      intro l other
      cases l <;> first | exact absurd rfl other | rfl
    refine .begun (w := shorter) r thread
      ⟨⟨[.took activation r.ticket], rfl, by simp [Event.isRunnableEvent]⟩, Nat.le_refl _⟩ ?_ ?_ ?_
    · intro l
      by_cases here : l = .mainThread
      · subst here
        change rest.Sublist w.channel.waiting
        rw [waits]
        exact List.sublist_cons_self r rest
      · exact others l here ▸ .refl _
    · intro k
      have moved := LedgerMove.held_line .mainThread others k
      have before : w.waiting .mainThread = r :: rest := waits
      have after : shorter.waiting .mainThread = rest := rfl
      rw [before, after] at moved
      simp [start, Machine.proceed, Frame.held] at moved ⊢
      omega
    · intro k
      simp [start, Machine.proceed, List.countP_cons, Frame.isRunning]
  · split
    · exact (Still.record w rfl).ledgerMove (fun _ => rfl) fun _ => Nat.le_refl _
    · exact ((Still.record w rfl).trans (Still.record _ rfl)).ledgerMove (fun _ => rfl) fun _ =>
        Nat.le_refl _

theorem emptied_ledgerMove {v w : World} (line : Line) (silent : v.Silent w) (none : w.waiting line = [])
    (same : ∀ l, l ≠ line → w.waiting l = v.waiting l) {laid : List Frame} (light : Light popped)
    (plain : Light laid) :
    LedgerMove v popped (w.destroyAll (v.waiting line)) laid := by
  refine .destroyed (v.waiting line) silent ?_ ?_ ?_
  · intro l
    by_cases here : l = line
    · rw [here, none]
      exact List.nil_sublist _
    · exact same l here ▸ .refl _
  · intro k
    have moved := LedgerMove.held_line line same k
    rw [none, copies_nil] at moved
    rw [heldBy_light light, heldBy_light plain]
    omega
  · intro k
    simp [running_light light, running_light plain]

theorem dropReceiver_ledgerMove (w : World) : LedgerMove w [] w.dropReceiver [] := by
  refine emptied_ledgerMove (w := { w with channel := { w.channel with receiver := .gone, waiting := [] } })
    .mainThread
    ⟨⟨[], rfl, by simp⟩, Nat.le_refl _⟩ rfl ?_ light_nil light_nil
  intro l other
  cases l <;> first | exact absurd rfl other | rfl

theorem discardCalls_ledgerMove {v w : World} (line : Line) (q : CallQueue) (calls : q.calls = v.waiting line)
    (silent : v.Silent w) (none : w.waiting line = []) (same : ∀ l, l ≠ line → w.waiting l = v.waiting l)
    {laid : List Frame} (light : Light popped) (plain : Light laid) :
    LedgerMove v popped (w.discardCalls q) laid := by
  unfold discardCalls
  rw [calls]
  split
  · exact emptied_ledgerMove line silent none same light plain
  · have warned : v.Silent (w.log (.droppingCalls q.length)) := by
      obtain ⟨es, journal, untouched⟩ := silent.journal
      refine ⟨⟨.log (.droppingCalls q.length) :: es, ?_, ?_⟩, silent.tickets⟩
      · exact congrArg (_ :: ·) journal
      · exact List.forall_mem_cons.mpr ⟨rfl, untouched⟩
    exact emptied_ledgerMove line warned none same light plain

theorem releaseGraphics_ledgerMove (w : World) (light : Light popped) (plain : Light below) :
    LedgerMove w popped w.releaseGraphics below := by
  unfold releaseGraphics
  split
  · exact (Still.refl w).ledgerMove_light light plain
  · split
    · exact (Still.refl w).ledgerMove_light light plain
    · rename_i g shared
      have calls : g.queue.calls = w.waiting .graphics := by
        simp only [waiting, shared, Option.getD_some]
      have gone : w.Silent { w with graphics := none } := ⟨⟨[], rfl, by simp⟩, Nat.le_refl _⟩
      apply discardCalls_ledgerMove .graphics g.queue calls gone rfl
      · intro l other
        cases l <;> first | exact absurd rfl other | rfl
      · exact light
      · exact plain

theorem dropHandle_ledgerMove (w : World) (slot : Nat) (light : Light popped) (plain : Light below) :
    LedgerMove w popped (w.dropHandle slot) below := by
  have emptied : w.Still { w with handles := w.handles.set slot false } :=
    ⟨⟨⟨[], rfl, by simp⟩, Nat.le_refl _⟩, rfl⟩
  exact (emptied.ledgerMove_light light light_nil).trans (releaseGraphics_ledgerMove _ light_nil plain)

theorem dropHost_ledgerMove (w : World) : LedgerMove w [] w.dropHost [] := by
  unfold dropHost
  split
  · exact (Still.refl w).ledgerMove_light light_nil light_nil
  · have gone : w.Still { w with host := none } := ⟨⟨⟨[], rfl, by simp⟩, Nat.le_refl _⟩, rfl⟩
    have released := (gone.ledgerMove_light light_nil light_nil).trans
        (releaseGraphics_ledgerMove _ light_nil light_nil)
    dsimp only
    split
    · exact released.trans (dropReceiver_ledgerMove _)
    · exact released

/-- A batch popped by a fault is destroyed together with its frame. -/
theorem spill_ledgerMove (w : World) (thread activation : Nat) (rest : List Runnable) (count : Nat) :
    LedgerMove w [.batch thread activation rest count] (w.destroyAll rest) [] := by
  refine .destroyed rest (Still.refl w).toSilent (fun _ => .refl _) ?_ fun k => Nat.zero_le _
  intro k
  simp [Frame.held]

theorem finish_ledgerMove (w : World) (ticket : Nat) :
    LedgerMove w [.running ticket] (w.record (.finished ticket)) [] := by
  refine ⟨⟨[_], rfl⟩, Nat.le_refl _, ?_, ?_, ?_, fun _ lined => lined.shorter ⟨[_], rfl⟩ (.refl _)⟩
  · intro k
    simp [Event.submits, Event.starts, Event.destroys, Frame.held, held]
  · intro k
    exact .inl (by simp [Event.submits])
  · intro k
    simp [Event.finishes, Event.starts, Frame.isRunning]

end World

theorem GoesOn.ledgerMove {w : World} {thread : Nat} {saved : Bool} {phase : Phase} {m : Machine}
    (h : GoesOn w thread saved m) (still : w.Still m.world) :
    LedgerMove w [.pass thread saved phase] m.world m.stack := by
  obtain ⟨front, later, stack, plain⟩ := h.stays
  have light := light_of_plain plain
  refine still.ledgerMove (fun k => ?_) fun k => ?_
  · rw [stack, heldBy_append, heldBy_light light]
    rfl
  · rw [stack, List.countP_append, running_light light]
    exact Nat.le_refl _

theorem World.round_ledgerMove (w : World) (thread : Nat) {popped below : List Frame} (light : Light popped)
    (lays : Light below) : LedgerMove w popped (w.round thread below).world (w.round thread below).stack := by
  have began : w.Still (w.round thread below).world :=
    (World.Still.ticketed w).trans (World.Still.record _ rfl)
  apply began.ledgerMove_light light
  intro f hf
  rcases List.mem_cons.mp hf with rfl | below
  · rfl
  · exact lays f below

theorem HostEffect.ledgerMove {w : World} {others : List Frame} {fault : Option Fault} {popped : List Frame}
    {n : Machine}
    (h : HostEffect w others fault popped n) : LedgerMove w popped n.world n.stack := by
  cases h with
  | dropHost free => exact w.dropHost_ledgerMove
  | @ask v h still hosted r free =>
    have asked := (World.Still.of_quiet still).trans (World.KeepsRunnables.ask v h r).still
    rw [World.ask_stack]
    exact asked.ledgerMove_light light_nil light_nil
  | enter thread shared owned => exact World.enterPass_ledgerMove shared thread owned
  | target thread saved =>
    have still := (World.KeepsRunnables.readTarget w thread saved).still
    rcases w.readTarget_goesOn thread saved with goes | ends
    · exact goes.ledgerMove still
    · rw [ends]
      exact still.ledgerMove (fun _ => rfl) fun _ => Nat.zero_le _
  | loaded thread saved settings =>
    exact (w.finishLoad_goesOn thread saved settings).ledgerMove
      (World.KeepsRunnables.finishLoad w thread saved settings).still
  | present thread saved =>
    rw [w.present_stack]
    exact (World.KeepsRunnables.present w saved).still.ledgerMove (fun _ => rfl) fun _ => Nat.zero_le _
  | abort thread saved phase =>
    exact ((World.KeepsRunnables.leaveGate w saved).still.trans (World.Still.record _ rfl)).ledgerMove
      (fun _ => rfl)
      fun _ => Nat.zero_le _

theorem StepEffect.ledgerMove {w : World} {others : List Frame} {fault : Option Fault} {popped : List Frame}
    {n : Machine}
    (h : StepEffect w others fault popped n) : LedgerMove w popped n.world n.stack := by
  cases h with
  | quiet still light plain =>
    exact (World.Still.of_quiet still).ledgerMove_light light (light_of_plain plain)
  | finish ticket => exact w.finish_ledgerMove ticket
  | abandon ticket => exact (World.Still.refl w).ledgerMove (fun _ => rfl) fun _ => Nat.zero_le _
  | post thread label body still light plain shared =>
    exact ((World.Still.of_quiet still).ledgerMove_light light light_nil).trans
      (World.post_ledgerMove shared thread label body light_nil (light_of_plain plain))
  | dispatch label body light plain => exact w.dispatch_ledgerMove label body light (light_of_plain plain)
  | enqueue label body light plain held =>
    exact World.enqueue_ledgerMove held label body light (light_of_plain plain)
  | drain thread light plain held => exact World.drain_ledgerMove held thread light (light_of_plain plain)
  | round thread light plain =>
    exact w.round_ledgerMove thread light (light_of_plain plain)
  | nextCall thread activation rest count => exact w.nextCall_ledgerMove thread activation count rest
  | nextMain thread activation queued ran => exact w.nextMain_ledgerMove thread activation queued ran
  | spill thread activation rest count => exact w.spill_ledgerMove thread activation rest count
  | dropHandle slot still _ light plain =>
    exact (w.dropHandle_ledgerMove slot light light_nil).trans
      ((World.Still.of_quiet still).ledgerMove_light light_nil (light_of_plain plain))
  | dropReceiver => exact w.dropReceiver_ledgerMove
  | render thread hosted free => exact (World.Still.refl w).ledgerMove_light light_nil (light_one rfl)
  | redraw thread hosted free =>
    exact w.round_ledgerMove thread light_nil (by simp [Light, Frame.isLight])
  | host d => exact d.ledgerMove

structure World.Blank (w : World) : Prop where
  waiting : ∀ line, w.waiting line = []
  journal : ∀ e ∈ w.journal, e.isRemark = true

theorem World.Fresh.blank {b : AdapterOptions} {w : World} (fresh : w.Fresh b) : w.Blank := by
  refine ⟨fun line => ?_, fresh.journal⟩
  cases line with
  | graphics => simp only [World.waiting, fresh.graphics, Option.getD_some]; rfl
  | mainThread => exact fresh.waiting
  | standalone => simp only [World.waiting, fresh.standalone, Option.getD_none]; rfl

theorem World.Blank.ledger {w : World} (blank : w.Blank) : Ledger w [] := by
  have none {p : Event → Bool} (runnableEvents : ∀ e, p e = true → e.isRunnableEvent = true) :
    w.tally p = 0 := by
    apply List.countP_eq_zero.mpr
    intro e he counted
    have runnableEvent := runnableEvents e counted
    rw [Event.isRunnableEvent_of_isApart (Event.isApart_of_isRemark (blank.journal e he))] at runnableEvent
    cases runnableEvent
  have submits (k : Nat) : w.tally (Event.submits k) = 0 :=
    none fun e he => by cases e <;> first | rfl | cases he
  have starts (k : Nat) : w.tally (Event.starts k) = 0 :=
    none fun e he => by cases e <;> first | rfl | cases he
  have finishes (k : Nat) : w.tally (Event.finishes k) = 0 :=
    none fun e he => by cases e <;> first | rfl | cases he
  have destroys (k : Nat) : w.tally (Event.destroys k) = 0 :=
    none fun e he => by cases e <;> first | rfl | cases he
  refine ⟨?_, ?_, ?_, ?_, ?_⟩
  · intro k
    simp [submits, starts, destroys, World.held, blank.waiting]
  · intro k
    simp [submits]
  · intro k _
    exact submits k
  · intro k
    simp [starts, finishes]
  · intro line
    rw [World.Lined, blank.waiting]
    exact List.nil_sublist _

theorem Move.ledger {s t : System} (m : Move s t) (h : Ledger s.world s.frames) :
    Ledger t.world t.frames := by
  obtain ⟨σ, popped, below, others, n, act⟩ := m.act
  rw [act.world]
  exact ((h.perm act.before).ledgerMove act.effect.ledgerMove).perm act.after.symm

theorem Reachable.ledger {b : AdapterOptions} {s : System} (h : Reachable b s) :
    Ledger s.world s.frames := by
  induction h with
  | built strands bare h =>
    simp only [System.frames, framesOf_idle]
    exact (World.fresh_build bare h).blank.ledger
  | move _ m ih => exact m.ledger ih

end FrameHost
