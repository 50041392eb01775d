import FrameHost.Proofs.JournalQueries

/-!
The start order of the calls of one queue. Any number of strands push to a queue that belongs to no host.
Its drains do not overlap: a drain begins only after all calls of the previous one were started, and no call
raises. Under these conditions the calls start in push order.
-/
namespace FrameHost

def Frame.unstarted : Frame → List Runnable
  | batch _ _ rest _ => rest
  | _ => []

def unstarted (fs : List Frame) : List Runnable := fs.flatMap Frame.unstarted

def Event.ofQueue : Event → Bool
  | submitted .standalone _ | started .. | took .. | began .standalone .. => true
  | _ => false

structure World.QueueOnly (w : World) : Prop where
  host : w.host = none
  graphics : w.graphics = none
  receiver : w.channel.receiver = .gone
  waiting : w.channel.waiting = []

def Strand.callRaised (σ : Strand) : Bool :=
  match σ.fault, σ.stack with
  | some _, .batch .. :: _ => true
  | _, _ => false

/-- At most one drain is under way, and no call of it has raised. -/
def System.SingleDrain (s : System) : Prop :=
  s.frames.countP Frame.isBatch ≤ 1 ∧ ∀ σ ∈ s.strands, σ.callRaised = false

instance (s : System) : Decidable s.SingleDrain :=
  inferInstanceAs (Decidable (s.frames.countP Frame.isBatch ≤ 1 ∧ ∀ σ ∈ s.strands, _))

/-- The systems reached from an empty queue by any number of strands while at most one drain is under way
and no call raises. -/
inductive Draining : System → Prop where
  | idle {w : World} (strands : Nat) (queueOnly : w.QueueOnly) (queue : w.standalone = some .empty)
      (journal : ∀ e ∈ w.journal, e.isNote = true) : Draining ⟨w, List.replicate strands .idle⟩
  | move {s t : System} (h : Draining s) (m : Move s t) (singleDrain : t.SingleDrain) : Draining t

inductive QueueMove (w : World) : List Frame → Machine → Prop where
  | aside {popped : List Frame} {n : Machine}
      (journal : w.Adds (fun e => !e.ofQueue) n.world) (tickets : w.tickets ≤ n.world.tickets)
      (queue : n.world.waiting .standalone = w.waiting .standalone) (light : unstarted popped = [])
      (laid : ∀ f ∈ n.stack, f.isBatch = false) : QueueMove w popped n
  | pushes {popped : List Frame} {n : Machine} (r : Runnable) (ticket : r.ticket = w.tickets)
      (journal : n.world.journal = .submitted .standalone r.ticket :: w.journal)
      (tickets : n.world.tickets = w.tickets + 1)
      (queue : n.world.waiting .standalone = w.waiting .standalone ++ [r])
      (light : unstarted popped = []) (laid : ∀ f ∈ n.stack, f.isBatch = false) :
      QueueMove w popped n
  | takes {popped below : List Frame} {n : Machine} (thread : Nat) (logs : List Event)
      (quiet : ∀ e ∈ logs, e.ofQueue = false)
      (journal : n.world.journal = logs ++ .began .standalone w.tickets
        ((w.waiting .standalone).map Runnable.ticket) :: w.journal)
      (tickets : n.world.tickets = w.tickets + 1) (queue : n.world.waiting .standalone = [])
      (light : unstarted popped = [])
      (laid : n.stack = .batch thread w.tickets (w.waiting .standalone)
        (w.waiting .standalone).length :: below) (plain : Plain below) : QueueMove w popped n
  | starts {n : Machine} {thread activation count : Nat} {r : Runnable} {rest : List Runnable}
      (journal : n.world.journal = .started r.ticket thread :: .took activation r.ticket :: w.journal)
      (tickets : n.world.tickets = w.tickets)
      (queue : n.world.waiting .standalone = w.waiting .standalone)
      (laid : n.stack = [.script thread r.body, .running r.ticket, .batch thread activation rest count]) :
      QueueMove w [.batch thread activation (r :: rest) count] n

theorem unstarted_append (fs gs : List Frame) : unstarted (fs ++ gs) = unstarted fs ++ unstarted gs :=
  List.flatMap_append

theorem unstarted_bare {fs : List Frame} (h : ∀ f ∈ fs, f.isBatch = false) : unstarted fs = [] := by
  apply List.flatMap_eq_nil_iff.mpr
  intro f hf
  have other := h f hf
  cases f <;> first | rfl | cases other

theorem unstarted_batches (fs : List Frame) : unstarted (fs.filter Frame.isBatch) = unstarted fs := by
  induction fs with
  | nil => rfl
  | cons f fs ih =>
    cases batch : f.isBatch with
    | true =>
      rw [List.filter_cons_of_pos batch]
      exact congrArg (f.unstarted ++ ·) ih
    | false =>
      have none : f.unstarted = [] := by cases f <;> first | rfl | cases batch
      rw [List.filter_cons_of_neg (by simp [batch]), ih]
      exact (congrArg (· ++ unstarted fs) none).symm

theorem unstarted_perm {fs gs : List Frame} (p : fs.Perm gs) (single : fs.countP Frame.isBatch ≤ 1) :
    unstarted fs = unstarted gs := by
  rw [← unstarted_batches fs, ← unstarted_batches gs]
  have batches := p.filter Frame.isBatch
  rw [List.countP_eq_length_filter] at single
  generalize fs.filter Frame.isBatch = bs at batches single
  match bs, single with
  | [], _ => rw [List.nil_perm.mp batches]
  | [f], _ => rw [List.singleton_perm.mp batches]

theorem unstarted_light {fs : List Frame} (h : Light fs) : unstarted fs = [] := by
  apply unstarted_bare
  intro f hf
  have light := h f hf
  cases f <;> first | rfl | cases light

theorem Event.ofQueue_of_isNote {e : Event} (h : e.isNote = true) : e.ofQueue = false := by
  cases e <;> first | rfl | cases h

section
variable {w v : World} {others popped : List Frame} {fault : Option Fault} {n : Machine}

theorem World.QueueOnly.of_quiet (h : w.QueueOnly) (still : w.Quiet v) : v.QueueOnly := by
  have same := still.adapter
  rw [h.host] at same
  refine ⟨Option.map_eq_none_iff.mp same, still.graphics.trans h.graphics, ?_, ?_⟩
  · rw [still.channel]
    exact h.receiver
  · rw [still.channel]
    exact h.waiting

theorem World.QueueOnly.dropHost (h : w.QueueOnly) : w.dropHost = w := by
  simp only [World.dropHost, h.host]

theorem World.QueueOnly.dropHandle (h : w.QueueOnly) (slot : Nat) :
    w.dropHandle slot = { w with handles := w.handles.set slot false } := by
  unfold World.dropHandle World.releaseGraphics
  split
  · rfl
  · simp [h.graphics]

theorem World.QueueOnly.dispatch (h : w.QueueOnly) (r : Runnable) :
    w.dispatch r = ((w.record (.submitted .mainThread r.ticket)).record
      (.destroyed r.ticket r.label)).log .mainThreadGone := by
  unfold World.dispatch
  exact if_pos h.receiver

theorem World.QueueOnly.nextMain (h : w.QueueOnly) (thread activation queued ran : Nat) :
    w.nextMain thread activation queued ran
      = .answering ((if ran = 0 then w else w.log (.ranMainThread ran)).record
          (.ended activation ran)) (.count ran) := by
  unfold World.nextMain
  rw [h.waiting]
  split
  · rename_i waits
    cases waits
  · rfl

theorem World.QueueOnly.dropReceiver (h : w.QueueOnly) :
    w.dropReceiver = { w with channel := { w.channel with receiver := .gone, waiting := [] } } := by
  unfold World.dropReceiver
  rw [h.waiting]
  rfl

theorem HostEffect.queueOnly (d : HostEffect w others fault popped n) (h : w.QueueOnly)
    (free : ∀ f ∈ popped, f.holdsHost = false) : n = .proceed w [] := by
  cases d with
  | dropHost => rw [h.dropHost]
  | ask still hosted =>
    have host := (h.of_quiet still).host
    rw [host] at hosted
    cases hosted
  | enter => cases free _ List.mem_cons_self
  | target => cases free _ List.mem_cons_self
  | loaded => cases free _ List.mem_cons_self
  | present => cases free _ List.mem_cons_self
  | abort => cases free _ List.mem_cons_self

theorem StepEffect.queueOnly (d : StepEffect w others fault popped n) (h : w.QueueOnly)
    (free : ∀ f ∈ popped, f.holdsHost = false) :
    n.world.QueueOnly ∧ ∀ f ∈ n.stack, f.holdsHost = false := by
  have same {u : World} (host : u.host = w.host) (graphics : u.graphics = w.graphics)
      (channel : u.channel = w.channel) : u.QueueOnly :=
    ⟨host.trans h.host, graphics.trans h.graphics, channel ▸ h.receiver, channel ▸ h.waiting⟩
  cases d with
  | quiet still light plain => exact ⟨h.of_quiet still, hosts_plain plain⟩
  | finish ticket => exact ⟨same rfl rfl rfl, by simp [Machine.proceed]⟩
  | abandon ticket => exact ⟨h, by simp [Machine.failing]⟩
  | post thread label body still light plain shared =>
    rw [(h.of_quiet still).graphics] at shared
    cases shared
  | dispatch label body light plain =>
    have ticketed : w.ticketed.QueueOnly := same rfl rfl rfl
    rw [ticketed.dispatch]
    exact ⟨same rfl rfl rfl, hosts_plain plain⟩
  | enqueue label body light plain held => exact ⟨same rfl rfl rfl, hosts_plain plain⟩
  | drain thread light plain held =>
    unfold World.drain
    constructor
    · dsimp only [Machine.proceed]
      split <;> exact same rfl rfl rfl
    · intro f hf
      rcases List.mem_cons.mp hf with rfl | below
      · rfl
      · rcases List.mem_cons.mp below with rfl | later
        · rfl
        · exact hosts_plain plain f later
  | round thread light plain =>
    refine ⟨same rfl rfl rfl, ?_⟩
    intro f hf
    rcases List.mem_cons.mp hf with rfl | below
    · rfl
    · exact hosts_plain plain f below
  | nextCall thread activation rest count =>
    cases rest with
    | nil => exact ⟨same rfl rfl rfl, by simp [World.nextCall, Machine.answering]⟩
    | cons r rest =>
      refine ⟨same rfl rfl rfl, ?_⟩
      simp [World.nextCall, World.start, Machine.proceed, Frame.holdsHost]
  | nextMain thread activation queued ran =>
    rw [h.nextMain]
    refine ⟨?_, by simp [Machine.answering]⟩
    dsimp only [Machine.answering]
    split <;> exact same rfl rfl rfl
  | spill thread activation rest count unwinding =>
    obtain ⟨j, eq⟩ := w.recordAll_eq (rest.map fun r => .destroyed r.ticket r.label)
    rw [World.destroyAll, eq]
    exact ⟨same rfl rfl rfl, by simp [Machine.failing]⟩
  | dropHandle slot still handles light plain =>
    rw [h.dropHandle] at still
    exact ⟨(same (u := { w with handles := w.handles.set slot false }) rfl rfl rfl).of_quiet still,
      hosts_plain plain⟩
  | dropReceiver =>
    rw [h.dropReceiver]
    exact ⟨⟨h.host, h.graphics, rfl, rfl⟩, by simp [Machine.proceed]⟩
  | render thread hosted => simp [h.host] at hosted
  | redraw thread hosted => simp [h.host] at hosted
  | host d =>
    rw [d.queueOnly h free]
    exact ⟨h, by simp [Machine.proceed]⟩

theorem StepEffect.queueMove (d : StepEffect w others fault popped n) (h : w.QueueOnly)
    (free : ∀ f ∈ popped, f.holdsHost = false)
    (calm : ∀ f ∈ popped, f.isBatch = true → fault = none) : QueueMove w popped n := by
  cases d with
  | quiet still light plain =>
    refine .aside (still.journal.mono fun e remark => ?_) (Nat.le_of_eq still.tickets.symm) ?_
      (unstarted_light light) (isBatch_plain plain)
    · simp [Event.ofQueue_of_isNote (Event.isNote_of_isRemark remark)]
    · simp only [World.waiting, still.standalone]
  | finish ticket =>
    exact .aside (.record w rfl) (Nat.le_refl _) rfl rfl (by simp [Machine.proceed])
  | abandon ticket => exact .aside (.of_eq rfl) (Nat.le_refl _) rfl rfl (by simp [Machine.failing])
  | post thread label body still light plain shared =>
    rw [(h.of_quiet still).graphics] at shared
    cases shared
  | dispatch label body light plain =>
    have ticketed : w.ticketed.QueueOnly := ⟨h.host, h.graphics, h.receiver, h.waiting⟩
    rw [ticketed.dispatch]
    refine .aside ⟨[.log .mainThreadGone, .destroyed w.tickets label, .submitted .mainThread w.tickets],
      rfl, by simp [Event.ofQueue]⟩ (Nat.le_succ _) rfl (unstarted_light light) (isBatch_plain plain)
  | @enqueue _ below q label body light plain held =>
    refine .pushes (w.runnable label body) rfl rfl rfl ?_ (unstarted_light light) (isBatch_plain plain)
    simp [World.waiting, held, Machine.proceed, World.record]
  | @drain _ below q thread light plain held =>
    have waiting : w.waiting .standalone = q.calls := by simp [World.waiting, held]
    have laid : Plain (.drained :: below) := plain_cons rfl plain
    unfold World.drain
    dsimp only
    cases none : q.calls.isEmpty with
    | true =>
      refine .takes thread [] (by simp) ?_ rfl rfl (unstarted_light light) ?_ laid
      · rw [waiting]
        rfl
      · rw [waiting]
        rfl
    | false =>
      refine .takes thread [.log (.runningCalls q.calls.length)] (by simp [Event.ofQueue]) ?_ rfl rfl
        (unstarted_light light) ?_ laid
      · rw [waiting]
        rfl
      · rw [waiting]
        rfl
  | round thread light plain =>
    exact .aside (.record _ rfl) (Nat.le_succ _) rfl (unstarted_light light)
      (List.forall_mem_cons.mpr ⟨rfl, isBatch_plain plain⟩)
  | nextCall thread activation rest count =>
    cases rest with
    | nil =>
      exact .aside (.record w rfl) (Nat.le_refl _) rfl rfl
        (by simp [World.nextCall, Machine.answering])
    | cons r rest => exact .starts rfl rfl rfl rfl
  | nextMain thread activation queued ran =>
    rw [h.nextMain]
    by_cases none : ran = 0
    · rw [if_pos none]
      exact .aside (.record w rfl) (Nat.le_refl _) rfl rfl (by simp [Machine.answering])
    · rw [if_neg none]
      exact .aside ((World.Adds.record w rfl).trans (.record _ rfl)) (Nat.le_refl _) rfl rfl
        (by simp [Machine.answering])
  | spill thread activation rest count unwinding =>
    cases (calm _ List.mem_cons_self rfl).symm.trans unwinding
  | dropHandle slot still handles light plain =>
    rw [h.dropHandle] at still
    refine .aside (still.journal.mono fun e remark => ?_) (Nat.le_of_eq still.tickets.symm) ?_
      (unstarted_light light) (isBatch_plain plain)
    · simp [Event.ofQueue_of_isNote (Event.isNote_of_isRemark remark)]
    · exact congrArg (fun q => (q.getD .empty).calls) still.standalone
  | dropReceiver =>
    rw [h.dropReceiver]
    exact .aside (.of_eq rfl) (Nat.le_refl _) rfl rfl (by simp [Machine.proceed])
  | render thread hosted => simp [h.host] at hosted
  | redraw thread hosted => simp [h.host] at hosted
  | host d =>
    have light : unstarted popped = [] := by cases d <;> rfl
    rw [d.queueOnly h free]
    exact .aside (.of_eq rfl) (Nat.le_refl _) rfl light (by simp [Machine.proceed])

end

/-- The ticket was pushed before any drain with this number began. -/
def PushedBefore (journal : List Event) (activation ticket : Nat) : Prop :=
  ∀ later ws older, journal = later ++ .began .standalone activation ws :: older →
    ticket ∈ pushes .standalone older

/-- The calls started, the calls taken by a drain and the calls waiting are, in this order, the calls
pushed; a drain takes only calls pushed before it began. -/
structure QueueOrder (w : World) (fs : List Frame) : Prop where
  order : startedTickets w.journal ++ (unstarted fs ++ w.waiting .standalone).map Runnable.ticket
    = pushes .standalone w.journal
  fresh : ∀ k ∈ pushes .standalone w.journal, k < w.tickets
  once : (pushes .standalone w.journal).Nodup
  acts : ∀ activation ws, .began .standalone activation ws ∈ w.journal → activation < w.tickets
  took : ∀ activation k, .took activation k ∈ w.journal →
    activation < w.tickets ∧ PushedBefore w.journal activation k
  holds : ∀ thread activation rest count, .batch thread activation rest count ∈ fs →
    activation < w.tickets ∧ ∀ r ∈ rest, PushedBefore w.journal activation r.ticket
  taken : ∀ k thread, .started k thread ∈ w.journal → ∃ activation, .took activation k ∈ w.journal

theorem startedTickets_quiet {es : List Event} (h : ∀ e ∈ es, e.ofQueue = false) :
    startedTickets es = [] := by
  apply List.filterMap_eq_nil_iff.mpr
  intro e he
  have other := h e (List.mem_reverse.mp he)
  cases e <;> first | rfl | cases other

theorem pushes_quiet {es : List Event} (h : ∀ e ∈ es, e.ofQueue = false) :
    pushes .standalone es = [] := by
  apply List.eq_nil_iff_forall_not_mem.mpr
  intro k mem
  cases h _ (mem_pushes.mp mem)

theorem PushedBefore.later {journal es : List Event} {activation ticket : Nat}
    (h : PushedBefore journal activation ticket)
    (new : ∀ ws, .began .standalone activation ws ∉ es) : PushedBefore (es ++ journal) activation ticket := by
  intro later ws older split
  rcases List.append_eq_append_iff.mp split with ⟨mid, _, rest⟩ | ⟨mid, front, rest⟩
  · exact h mid ws older rest
  · cases mid with
    | nil => exact h [] ws older rest.symm
    | cons e mid =>
      obtain ⟨rfl, _⟩ := List.cons.inj rest
      exact absurd (front ▸ by simp) (new ws)

theorem QueueOrder.perm {w : World} {fs gs : List Frame} (p : fs.Perm gs)
    (single : fs.countP Frame.isBatch ≤ 1) (h : QueueOrder w fs) : QueueOrder w gs :=
  ⟨unstarted_perm p single ▸ h.order, h.fresh, h.once, h.acts, h.took,
    fun thread activation rest count mem => h.holds thread activation rest count (p.mem_iff.mpr mem),
    h.taken⟩

theorem PushedBefore.begins {journal logs : List Event} {activation ticket : Nat} {ws : List Nat}
    (quiet : ∀ e ∈ logs, e.ofQueue = false) (first : ∀ ws, .began .standalone activation ws ∉ journal)
    (pushed : ticket ∈ pushes .standalone journal) :
    PushedBefore (logs ++ .began .standalone activation ws :: journal) activation ticket := by
  have here : PushedBefore (.began .standalone activation ws :: journal) activation ticket := by
    intro later ws' older split
    cases later with
    | nil =>
      obtain ⟨_, rfl⟩ := List.cons.inj split
      exact pushed
    | cons e later =>
      obtain ⟨_, rfl⟩ := List.cons.inj split
      exact absurd (by simp) (first ws')
  exact here.later fun ws' mem => by cases quiet _ mem

theorem others_bare {front others : List Frame} (single : (front ++ others).countP Frame.isBatch ≤ 1)
    (mine : 1 ≤ front.countP Frame.isBatch) : ∀ f ∈ others, f.isBatch = false := by
  intro f hf
  rw [List.countP_append] at single
  have none : others.countP Frame.isBatch = 0 := by omega
  simpa using List.countP_eq_zero.mp none f hf

section
variable {w v : World} {fs popped others below : List Frame} {n : Machine}

theorem QueueOrder.carries (h : QueueOrder w fs) (es : List Event) (journal : v.journal = es ++ w.journal)
    (tickets : w.tickets ≤ v.tickets)
    (late : ∀ activation ws, .began .standalone activation ws ∈ es → w.tickets ≤ activation) :
    (∀ activation k, .took activation k ∈ w.journal →
      activation < v.tickets ∧ PushedBefore v.journal activation k) ∧
    ∀ thread activation rest count, .batch thread activation rest count ∈ fs →
      activation < v.tickets ∧ ∀ r ∈ rest, PushedBefore v.journal activation r.ticket := by
  have keeps {activation ticket : Nat} (early : activation < w.tickets)
      (pushedBefore : PushedBefore w.journal activation ticket) : PushedBefore v.journal activation ticket := by
    rw [journal]
    refine pushedBefore.later fun ws began => ?_
    have after := late activation ws began
    omega
  constructor
  · intro activation k mem
    obtain ⟨early, pushedBefore⟩ := h.took activation k mem
    exact ⟨Nat.lt_of_lt_of_le early tickets, keeps early pushedBefore⟩
  · intro thread activation rest count mem
    obtain ⟨early, pushedBefore⟩ := h.holds thread activation rest count mem
    exact ⟨Nat.lt_of_lt_of_le early tickets, fun r hr => keeps early (pushedBefore r hr)⟩

theorem QueueOrder.aside (h : QueueOrder w (popped ++ others)) (added : w.Adds (fun e => !e.ofQueue) v)
    (tickets : w.tickets ≤ v.tickets) (queue : v.waiting .standalone = w.waiting .standalone)
    (light : unstarted popped = []) {laid : List Frame} (bare : ∀ f ∈ laid, f.isBatch = false) :
    QueueOrder v (laid ++ others) := by
  obtain ⟨es, journal, other⟩ := added
  have quiet : ∀ e ∈ es, e.ofQueue = false := fun e he => by simpa using other e he
  have pushed : pushes .standalone v.journal = pushes .standalone w.journal := by
    rw [journal, pushes_append, pushes_quiet quiet, List.append_nil]
  have old {e : Event} (ours : e.ofQueue = true) (mem : e ∈ v.journal) : e ∈ w.journal := by
    rw [journal] at mem
    rcases List.mem_append.mp mem with new | old
    · simp [quiet e new] at ours
    · exact old
  obtain ⟨took, holds⟩ := h.carries es journal tickets
    fun activation ws mem => by cases quiet _ mem
  refine ⟨?_, ?_, ?_, ?_, ?_, ?_, ?_⟩
  · have order := h.order
    rw [unstarted_append, light, List.nil_append] at order
    rw [pushed, queue, unstarted_append, unstarted_bare bare, List.nil_append, journal,
      startedTickets_append, startedTickets_quiet quiet, List.append_nil]
    exact order
  · intro k mem
    exact Nat.lt_of_lt_of_le (h.fresh k (pushed ▸ mem)) tickets
  · rw [pushed]
    exact h.once
  · intro activation ws mem
    exact Nat.lt_of_lt_of_le (h.acts activation ws (old rfl mem)) tickets
  · exact fun activation k mem => took activation k (old rfl mem)
  · intro thread activation rest count mem
    rcases List.mem_append.mp mem with new | kept
    · cases bare _ new
    · exact holds thread activation rest count (List.mem_append_right _ kept)
  · intro k thread mem
    obtain ⟨activation, taken⟩ := h.taken k thread (old rfl mem)
    exact ⟨activation, journal ▸ List.mem_append_right _ taken⟩

theorem QueueOrder.pushes (h : QueueOrder w (popped ++ others)) {r : Runnable} (ticket : r.ticket = w.tickets)
    (journal : v.journal = .submitted .standalone r.ticket :: w.journal)
    (tickets : v.tickets = w.tickets + 1)
    (queue : v.waiting .standalone = w.waiting .standalone ++ [r])
    (light : unstarted popped = []) {laid : List Frame} (bare : ∀ f ∈ laid, f.isBatch = false) :
    QueueOrder v (laid ++ others) := by
  have pushed : FrameHost.pushes .standalone v.journal
      = FrameHost.pushes .standalone w.journal ++ [r.ticket] := by
    rw [journal]
    exact pushes_append .standalone [.submitted .standalone r.ticket] w.journal
  have old {e : Event} (other : e ≠ .submitted .standalone r.ticket) (mem : e ∈ v.journal) :
      e ∈ w.journal := by
    rw [journal] at mem
    exact (List.mem_cons.mp mem).resolve_left other
  obtain ⟨took, holds⟩ := h.carries [.submitted .standalone r.ticket] journal (by omega) (by simp)
  refine ⟨?_, ?_, ?_, ?_, ?_, ?_, ?_⟩
  · have order := h.order
    have started : startedTickets v.journal = startedTickets w.journal := by
      rw [journal, ← List.singleton_append, startedTickets_append]
      exact List.append_nil _
    rw [unstarted_append, light, List.nil_append] at order
    rw [pushed, queue, unstarted_append, unstarted_bare bare, List.nil_append, started, ← order]
    simp
  · intro k mem
    rw [pushed] at mem
    rcases List.mem_append.mp mem with before | new
    · have early := h.fresh k before
      omega
    · rw [List.mem_singleton.mp new]
      omega
  · rw [pushed]
    refine List.nodup_append.mpr ⟨h.once, by simp, ?_⟩
    intro k before last new
    have early := h.fresh k before
    have late := List.mem_singleton.mp new
    omega
  · intro activation ws mem
    have early := h.acts activation ws (old (by simp) mem)
    omega
  · exact fun activation k mem => took activation k (old (by simp) mem)
  · intro thread activation rest count mem
    rcases List.mem_append.mp mem with new | kept
    · cases bare _ new
    · exact holds thread activation rest count (List.mem_append_right _ kept)
  · intro k thread mem
    obtain ⟨activation, taken⟩ := h.taken k thread (old (by simp) mem)
    exact ⟨activation, journal ▸ List.mem_cons_of_mem _ taken⟩

theorem QueueOrder.takes (h : QueueOrder w (popped ++ others)) {thread : Nat} {logs : List Event}
    (quiet : ∀ e ∈ logs, e.ofQueue = false)
    (journal : v.journal = logs ++ .began .standalone w.tickets
      ((w.waiting .standalone).map Runnable.ticket) :: w.journal)
    (tickets : v.tickets = w.tickets + 1) (queue : v.waiting .standalone = [])
    (light : unstarted popped = []) (plain : Plain below)
    (bare : ∀ f ∈ others, f.isBatch = false) :
    QueueOrder v (.batch thread w.tickets (w.waiting .standalone) (w.waiting .standalone).length ::
      below ++ others) := by
  have order := h.order
  rw [unstarted_append, light, unstarted_bare bare, List.nil_append, List.nil_append] at order
  have written : v.journal = (logs ++ [.began .standalone w.tickets
      ((w.waiting .standalone).map Runnable.ticket)]) ++ w.journal := by simp [journal]
  have pushed : FrameHost.pushes .standalone v.journal = FrameHost.pushes .standalone w.journal := by
    rw [journal, pushes_append, pushes_quiet quiet, List.append_nil, ← List.singleton_append,
      pushes_append]
    exact List.append_nil _
  have old {e : Event} (ours : e.ofQueue = true)
      (other : ∀ ws, e ≠ .began .standalone w.tickets ws) (mem : e ∈ v.journal) : e ∈ w.journal := by
    rw [journal] at mem
    rcases List.mem_append.mp mem with new | rest
    · simp [quiet e new] at ours
    · exact (List.mem_cons.mp rest).resolve_left (other _)
  obtain ⟨took, holds⟩ := h.carries _ written (by omega) (by
    intro activation ws mem
    rcases List.mem_append.mp mem with new | new
    · cases quiet _ new
    · cases List.mem_singleton.mp new
      exact Nat.le_refl _)
  refine ⟨?_, ?_, ?_, ?_, ?_, ?_, ?_⟩
  · have started : startedTickets v.journal = startedTickets w.journal := by
      rw [journal, startedTickets_append, startedTickets_quiet quiet, List.append_nil,
        ← List.singleton_append, startedTickets_append]
      exact List.append_nil _
    have held : unstarted (.batch thread w.tickets (w.waiting .standalone)
        (w.waiting .standalone).length :: below ++ others) = w.waiting .standalone := by
      rw [unstarted_append, unstarted_bare bare, List.append_nil]
      exact (congrArg (w.waiting .standalone ++ ·) (unstarted_bare (isBatch_plain plain))).trans
        (List.append_nil _)
    rw [started, held, queue, pushed, List.append_nil]
    exact order
  · intro k mem
    have early := h.fresh k (pushed ▸ mem)
    omega
  · rw [pushed]
    exact h.once
  · intro activation ws mem
    by_cases this : activation = w.tickets
    · omega
    · have early := h.acts activation ws (old rfl (by simp [this]) mem)
      omega
  · exact fun activation k mem => took activation k (old rfl (by simp) mem)
  · intro thread' activation rest count mem
    rcases List.mem_append.mp mem with laid | kept
    · rcases List.mem_cons.mp laid with here | later
      · cases here
        refine ⟨by omega, fun r hr => ?_⟩
        rw [journal]
        refine .begins quiet (fun ws began => ?_) ?_
        · exact Nat.lt_irrefl _ (h.acts w.tickets ws began)
        · rw [← order]
          exact List.mem_append_right _ (List.mem_map_of_mem hr)
      · cases isBatch_plain plain _ later
    · exact holds thread' activation rest count (List.mem_append_right _ kept)
  · intro k thread' mem
    obtain ⟨activation, taken⟩ := h.taken k thread' (old rfl (by simp) mem)
    exact ⟨activation, written ▸ List.mem_append_right _ taken⟩

theorem QueueOrder.starts {thread activation count : Nat} {r : Runnable} {rest : List Runnable}
    (h : QueueOrder w (.batch thread activation (r :: rest) count :: others))
    (journal : v.journal = .started r.ticket thread :: .took activation r.ticket :: w.journal)
    (tickets : v.tickets = w.tickets) (queue : v.waiting .standalone = w.waiting .standalone)
    (bare : ∀ f ∈ others, f.isBatch = false) :
    QueueOrder v ([.script thread r.body, .running r.ticket, .batch thread activation rest count]
      ++ others) := by
  have written : v.journal = [.started r.ticket thread, .took activation r.ticket] ++ w.journal := journal
  have pushed : FrameHost.pushes .standalone v.journal = FrameHost.pushes .standalone w.journal := by
    rw [written, pushes_append]
    exact List.append_nil _
  obtain ⟨early, pushedBefore⟩ := h.holds thread activation (r :: rest) count List.mem_cons_self
  obtain ⟨took, holds⟩ := h.carries _ written (by omega) (by simp)
  have mine := (holds thread activation (r :: rest) count List.mem_cons_self).2
  refine ⟨?_, ?_, ?_, ?_, ?_, ?_, ?_⟩
  · have order := h.order
    have before : unstarted (.batch thread activation (r :: rest) count :: others) = r :: rest :=
      (congrArg (r :: rest ++ ·) (unstarted_bare bare)).trans (List.append_nil _)
    have after : unstarted ([.script thread r.body, .running r.ticket,
        .batch thread activation rest count] ++ others) = rest :=
      (congrArg (rest ++ ·) (unstarted_bare bare)).trans (List.append_nil _)
    have started : startedTickets v.journal = startedTickets w.journal ++ [r.ticket] := by
      rw [written, startedTickets_append]
      rfl
    rw [before] at order
    rw [started, after, queue, pushed, ← order]
    simp
  · intro k mem
    rw [tickets]
    exact h.fresh k (pushed ▸ mem)
  · rw [pushed]
    exact h.once
  · intro activation ws mem
    rw [tickets]
    refine h.acts activation ws ?_
    simpa [journal] using mem
  · intro activation' k mem
    rw [written] at mem
    rcases List.mem_append.mp mem with new | old
    · obtain ⟨rfl, rfl⟩ : activation' = activation ∧ k = r.ticket := by simpa using new
      exact ⟨tickets ▸ early, mine r List.mem_cons_self⟩
    · exact took activation' k old
  · intro thread' activation' rest' count' mem
    rcases List.mem_append.mp mem with laid | kept
    · simp only [List.mem_cons, reduceCtorEq, List.not_mem_nil, or_false, false_or] at laid
      cases laid
      exact ⟨tickets ▸ early, fun x hx => mine x (List.mem_cons_of_mem r hx)⟩
    · cases bare _ kept
  · intro k thread' mem
    rw [written] at mem ⊢
    rcases List.mem_append.mp mem with new | old
    · obtain ⟨rfl, rfl⟩ : k = r.ticket ∧ thread' = thread := by simpa using new
      exact ⟨activation, by simp⟩
    · obtain ⟨activation', taken⟩ := h.taken k thread' old
      exact ⟨activation', List.mem_append_right _ taken⟩

theorem QueueMove.queueOrder (m : QueueMove w popped n) (h : QueueOrder w (popped ++ others))
    (before : (popped ++ others).countP Frame.isBatch ≤ 1)
    (after : (n.stack ++ others).countP Frame.isBatch ≤ 1) :
    QueueOrder n.world (n.stack ++ others) := by
  cases m with
  | aside journal tickets queue light laid => exact h.aside journal tickets queue light laid
  | pushes r ticket journal tickets queue light laid =>
    exact h.pushes ticket journal tickets queue light laid
  | takes thread logs quiet journal tickets queue light laid plain =>
    rw [laid] at after ⊢
    exact h.takes quiet journal tickets queue light plain (others_bare after (by simp [Frame.isBatch]))
  | starts journal tickets queue laid =>
    rw [laid]
    exact h.starts journal tickets queue (others_bare before (by simp [Frame.isBatch]))

end

theorem Draining.singleDrain {s : System} (h : Draining s) : s.SingleDrain := by
  cases h with
  | idle strands =>
    refine ⟨by simp [System.frames], ?_⟩
    intro σ hσ
    obtain rfl := List.eq_of_mem_replicate hσ
    rfl
  | move _ _ singleDrain => exact singleDrain

theorem World.QueueOnly.queueOrder {w : World} (queue : w.standalone = some .empty)
    (journal : ∀ e ∈ w.journal, e.isNote = true) : QueueOrder w [] := by
  have quiet : ∀ e ∈ w.journal, e.ofQueue = false := fun e he =>
    Event.ofQueue_of_isNote (journal e he)
  have untold {e : Event} (ours : e.ofQueue = true) : e ∉ w.journal := fun mem => by
    simp [quiet e mem] at ours
  have pushed : pushes .standalone w.journal = [] := pushes_quiet quiet
  refine ⟨?_, ?_, ?_, ?_, ?_, ?_, ?_⟩
  · rw [startedTickets_quiet quiet, pushed]
    simp [unstarted, World.waiting, queue]
  · simp [pushed]
  · simp [pushed]
  · exact fun activation ws mem => absurd mem (untold rfl)
  · exact fun activation k mem => absurd mem (untold rfl)
  · simp
  · exact fun k thread mem => absurd mem (untold rfl)

structure System.Served (s : System) : Prop where
  queueOnly : s.world.QueueOnly
  free : ∀ f ∈ s.frames, f.holdsHost = false
  queueOrder : QueueOrder s.world s.frames

theorem Draining.served {s : System} (h : Draining s) : s.Served := by
  induction h with
  | idle strands queueOnly queue journal =>
    refine ⟨queueOnly, by simp [System.frames], ?_⟩
    rw [System.frames, framesOf_idle]
    exact World.QueueOnly.queueOrder queue journal
  | @move s t draining m singleDrain ih =>
    have was := draining.singleDrain
    obtain ⟨σ, popped, below, others, n, act⟩ := m.act
    have mine : ∀ f ∈ popped, f.holdsHost = false := fun f hf =>
      ih.free f (act.before.mem_iff.mpr (List.mem_append_left _ hf))
    have calm : ∀ f ∈ popped, f.isBatch = true → σ.fault = none := by
      intro f hf batch
      cases raised : σ.fault with
      | none => rfl
      | some fault =>
        have spared := was.2 σ act.mem
        rcases act.top with ⟨none, _⟩ | ⟨top, rfl⟩
        · simp [none] at hf
        · obtain rfl := List.mem_singleton.mp hf
          rw [Strand.callRaised, act.stack, raised] at spared
          cases f <;> first | exact absurd batch Bool.false_ne_true | cases spared
    have before := was.1
    have after := singleDrain.1
    rw [act.before.countP_eq] at before
    rw [act.after.countP_eq] at after
    obtain ⟨queueOnly, laid⟩ := act.effect.queueOnly ih.queueOnly mine
    have queueOrder := (act.effect.queueMove ih.queueOnly mine calm).queueOrder
      (ih.queueOrder.perm act.before was.1) before after
    refine ⟨act.world ▸ queueOnly, ?_, ?_⟩
    · intro f hf
      rcases List.mem_append.mp (act.after.mem_iff.mp hf) with new | kept
      · exact laid f new
      · exact ih.free f (act.before.mem_iff.mpr (List.mem_append_right _ kept))
    · rw [act.world]
      exact queueOrder.perm act.after.symm after

/-- At every moment the calls started, the calls taken by the drain under way and the calls waiting are, in
this order, the calls pushed. Hence none is lost or started twice, the calls of each producer start in the
order it pushed them, and no drain starts a call pushed after it began. -/
theorem calls_start_in_push_order {s : System} (h : Draining s) :
    startedTickets s.world.journal ++
        (unstarted s.frames ++ s.world.waiting .standalone).map Runnable.ticket
      = pushes .standalone s.world.journal ∧
    (pushes .standalone s.world.journal).Nodup ∧
    (∀ own : Nat → Bool, (startedTickets s.world.journal).filter own
      <+: (pushes .standalone s.world.journal).filter own) ∧
    (∀ k thread, .started k thread ∈ s.world.journal →
      ∃ activation, .took activation k ∈ s.world.journal) ∧
    ∀ later between older activation ws k,
      s.world.journal = later ++ .submitted .standalone k ::
        (between ++ .began .standalone activation ws :: older) →
      .took activation k ∉ s.world.journal := by
  have turn := h.served.queueOrder
  refine ⟨turn.order, turn.once, ?_, turn.taken, ?_⟩
  · intro own
    rw [← turn.order, List.filter_append]
    exact List.prefix_append _ _
  · intro later between older activation ws k journal took
    have pushedBefore : k ∈ pushes .standalone older := by
      refine (turn.took activation k took).2 (later ++ .submitted .standalone k :: between) ws older ?_
      rw [journal]
      simp
    -- The ticket would have been pushed twice.
    have once := turn.once
    rw [journal, pushes_append, ← List.singleton_append, pushes_append] at once
    have before : k ∈ pushes .standalone (between ++ .began .standalone activation ws :: older) :=
      mem_pushes.mpr (List.mem_append_right _ (List.mem_cons_of_mem _ (mem_pushes.mp pushedBefore)))
    have here : k ∈ pushes .standalone [.submitted .standalone k] := mem_pushes.mpr List.mem_cons_self
    exact (List.nodup_append.mp (List.nodup_append.mp once).1).2.2 k before k here rfl

theorem Draining.alone_runFor (fuel : Nat) {m : Machine} (h : Draining m.alone)
    (singleDrain : ∀ i ≤ fuel, (m.runFor i).alone.SingleDrain) : Draining (m.runFor fuel).alone := by
  induction fuel generalizing m with
  | zero => exact h
  | succ fuel ih =>
    unfold Machine.runFor at singleDrain ⊢
    cases busy : m.stack with
    | nil => exact h
    | cons f below =>
      have later (i : Nat) (bound : i ≤ fuel) : (m.step.runFor i).alone.SingleDrain := by
        have next := singleDrain (i + 1) (by omega)
        simpa only [busy] using next
      exact ih (h.move (.turn [] m.strand [] .step) (later 0 (Nat.zero_le fuel))) later

def Machine.sampleDrain : Machine :=
  let pushing := Script.nest (.enqueue none) .done .done
  let body := Script.nest (.enqueue none) pushing (.nest (.enqueue none) .done (.act .drainQueue .done))
  ((Request.act body).begin { World.empty with standalone := some .empty } 0).runFor 5

theorem draining_sampleDrain : Draining Machine.sampleDrain.alone := by
  have fresh : Draining ⟨{ World.empty with standalone := some .empty }, [.idle]⟩ :=
    .idle 1 ⟨rfl, rfl, rfl, rfl⟩ rfl (by simp [World.empty])
  exact .alone_runFor 5 (fresh.move (.turn [] _ [] (.begin _ 0 rfl (by simp))) (by decide)) (by decide)

theorem calls_start_in_push_order_sample :
    Draining Machine.sampleDrain.alone ∧
      pushes .standalone Machine.sampleDrain.world.journal = [0, 1, 3] ∧
      startedTickets Machine.sampleDrain.world.journal = [0] ∧
      (unstarted Machine.sampleDrain.alone.frames).map Runnable.ticket = [1] ∧
      (Machine.sampleDrain.world.waiting .standalone).map Runnable.ticket = [3] ∧
      .took 2 3 ∉ Machine.sampleDrain.world.journal := by
  obtain ⟨_, _, _, _, late⟩ := calls_start_in_push_order draining_sampleDrain
  have written : Machine.sampleDrain.alone.world.journal = [] ++ .submitted .standalone 3 ::
      ([.started 0 0, .took 2 0, .log (.runningCalls 2)] ++ .began .standalone 2 [0, 1] ::
        [.submitted .standalone 1, .submitted .standalone 0]) := by decide
  exact ⟨draining_sampleDrain, by decide, by decide, by decide, by decide, late _ _ _ _ _ _ written⟩

end FrameHost
