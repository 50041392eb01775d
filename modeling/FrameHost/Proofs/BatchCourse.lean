import FrameHost.Proofs.Rounds

/-!
The course of an activation on a queue of calls: it takes the calls it found from front to back, with
arbitrary activations inside or beside it, and returns when it has taken all.
-/
namespace FrameHost

/-- The calls taken are a prefix of those found, and all of them once the activation has returned. -/
structure Progress (journal : List Event) (activation : Nat) (ws : List Nat) : Prop where
  front : takes activation journal <+: ws
  whole : ∀ count, .ended activation count ∈ journal → takes activation journal = ws ∧ count = ws.length

structure Underway (journal : List Event) (activation : Nat) (rest : List Runnable) (count : Nat) : Prop where
  began : ∃ line, line ≠ .mainThread ∧
    .began line activation (takes activation journal ++ rest.map Runnable.ticket) ∈ journal
  size : count = (takes activation journal).length + rest.length

structure Batches (w : World) (fs : List Frame) : Prop where
  course : ∀ line a ws, line ≠ .mainThread → .began line a ws ∈ w.journal → Progress w.journal a ws
  underway : ∀ thread a rest count, .batch thread a rest count ∈ fs → Underway w.journal a rest count
  taken : ∀ a k, .took a k ∈ w.journal →
    ∃ line ws, .began line a ws ∈ w.journal ∧ .submitted line k ∈ w.journal
  started : ∀ k thread, .started k thread ∈ w.journal →
    (∃ a, .took a k ∈ w.journal) ∨ .submitted .graphics k ∈ w.journal

section
variable {es older : List Event} {a count : Nat} {ws : List Nat} {rest : List Runnable}

theorem takes_apart (apart : ∀ e ∈ es, e.activation? ≠ some a) : takes a (es ++ older) = takes a older :=
  takes_untaken fun _ took => apart _ took rfl

theorem Progress.later (h : Progress older a ws) (apart : ∀ e ∈ es, e.activation? ≠ some a) :
    Progress (es ++ older) a ws := by
  constructor
  · rw [takes_apart apart]
    exact h.front
  · intro count ended
    rw [takes_apart apart]
    exact h.whole count ((List.mem_append.mp ended).resolve_left fun new => apart _ new rfl)

theorem Underway.later (h : Underway older a rest count) (apart : ∀ e ∈ es, e.activation? ≠ some a) :
    Underway (es ++ older) a rest count := by
  obtain ⟨line, own, began⟩ := h.began
  constructor
  · rw [takes_apart apart]
    exact ⟨line, own, List.mem_append_right es began⟩
  · rw [takes_apart apart]
    exact h.size

end

section
variable {w v : World} {fs gs others popped : List Frame} {fault : Option Fault} {n : Machine} {es : List Event}

theorem Batches.grow (h : Batches w fs) (journal : v.journal = es ++ w.journal)
    (course : ∀ line a ws, line ≠ .mainThread → .began line a ws ∈ v.journal →
      (∃ e ∈ es, e.activation? = some a) → Progress v.journal a ws)
    (underway : ∀ thread a rest count, .batch thread a rest count ∈ gs →
      Underway v.journal a rest count ∨
        .batch thread a rest count ∈ fs ∧ ∀ e ∈ es, e.activation? ≠ some a)
    (taken : ∀ a k, .took a k ∈ es → ∃ line ws, .began line a ws ∈ w.journal ∧ .submitted line k ∈ w.journal)
    (started : ∀ k thread, .started k thread ∈ es → (∃ a, .took a k ∈ es) ∨ .submitted .graphics k ∈ es) :
    Batches v gs := by
  have told : ∀ e ∈ es, e ∈ v.journal := fun e he => journal ▸ List.mem_append_left w.journal he
  have kept : ∀ e ∈ w.journal, e ∈ v.journal := fun e he => journal ▸ List.mem_append_right es he
  have split {e : Event} (mem : e ∈ v.journal) : e ∈ es ∨ e ∈ w.journal := by
    rw [journal] at mem
    exact List.mem_append.mp mem
  constructor
  · intro line a ws own began
    by_cases touched : ∃ e ∈ es, e.activation? = some a
    · exact course line a ws own began touched
    · have apart : ∀ e ∈ es, e.activation? ≠ some a := fun e he same => touched ⟨e, he, same⟩
      have old := (split began).resolve_left fun new => apart _ new rfl
      rw [journal]
      exact (h.course line a ws own old).later apart
  · intro thread a rest count mem
    rcases underway thread a rest count mem with here | ⟨old, apart⟩
    · exact here
    · rw [journal]
      exact (h.underway thread a rest count old).later apart
  · intro a k took
    have early : ∃ line ws, .began line a ws ∈ w.journal ∧ .submitted line k ∈ w.journal :=
      (split took).elim (taken a k) (h.taken a k)
    obtain ⟨line, ws, began, pushed⟩ := early
    exact ⟨line, ws, kept _ began, kept _ pushed⟩
  · intro k thread begun
    rcases split begun with new | old
    · exact (started k thread new).imp (fun ⟨a, took⟩ => ⟨a, told _ took⟩) (told _)
    · exact (h.started k thread old).imp (fun ⟨a, took⟩ => ⟨a, kept _ took⟩) (kept _)

theorem Batches.elsewhere (h : Batches w fs) (journal : v.journal = es ++ w.journal)
    (foreign : ∀ line a ws, line ≠ .mainThread → .began line a ws ∈ v.journal →
    ∀ e ∈ es, e.activation? ≠ some a)
    (taken : ∀ a k, .took a k ∈ es → ∃ line ws, .began line a ws ∈ w.journal ∧ .submitted line k ∈ w.journal)
    (started : ∀ k thread, .started k thread ∈ es → (∃ a, .took a k ∈ es) ∨ .submitted .graphics k ∈ es)
    (frames : ∀ thread a rest count, .batch thread a rest count ∈ gs → .batch thread a rest count ∈ fs) :
    Batches v gs := by
  refine h.grow journal ?_ ?_ taken started
  · rintro line a ws own began ⟨e, he, told⟩
    exact absurd told (foreign line a ws own began e he)
  · intro thread a rest count mem
    have old := frames thread a rest count mem
    obtain ⟨line, own, began⟩ := (h.underway thread a rest count old).began
    exact .inr ⟨old, foreign line a _ own (journal ▸ List.mem_append_right es began)⟩

theorem Batches.silent (h : Batches w fs) (es : List Event) (journal : v.journal = es ++ w.journal)
    (silent : ∀ e ∈ es, e.activation? = none)
    (started : ∀ k thread, .started k thread ∈ es → .submitted .graphics k ∈ es)
    (frames : ∀ thread a rest count, .batch thread a rest count ∈ gs → .batch thread a rest count ∈ fs) :
    Batches v gs := by
  refine h.elsewhere journal ?_ ?_ (fun k thread begun => .inr (started k thread begun)) frames
  · intro line a ws _ _ e he told
    rw [silent e he] at told
    cases told
  · intro a k took
    cases silent _ took

theorem Batches.idle (h : Batches w fs)
    (journal : ∃ es, v.journal = es ++ w.journal ∧ ∀ e ∈ es, e.isIdle = true) :
    Batches v fs := by
  obtain ⟨es, journal, idle⟩ := journal
  refine h.silent es journal (fun e he => Event.activation?_idle (idle e he)) ?_ fun _ _ _ _ mem => mem
  intro k thread begun
  cases idle _ begun

theorem told_alone {a b : Nat} {e : Event} (only : es.filterMap Event.activation? = [a]) (he : e ∈ es)
    (told : e.activation? = some b) : b = a := by
  have mem : b ∈ es.filterMap Event.activation? := List.mem_filterMap.mpr ⟨e, he, told⟩
  simpa [only] using mem

theorem Batches.begins (h : Batches w (popped ++ others)) (numbered : Numbered w (popped ++ others))
    {line : Line}
    {thread : Nat} {below : List Frame} (own : line ≠ .mainThread)
    (writes : w.Writes [.began line w.tickets ((w.waiting line).map Runnable.ticket)] v) (loose : Loose below) :
    Batches v (.batch thread w.tickets (w.waiting line) (w.waiting line).length :: below ++ others) := by
  have untaken : takes w.tickets v.journal = [] := numbered.untaken writes
  refine h.grow writes.journal ?_ ?_ (by simp) (by simp)
  · rintro l a ws _ _ ⟨e, he, told⟩
    obtain rfl := told_alone rfl he told
    constructor
    · rw [untaken]
      exact List.nil_prefix
    · intro count ended
      have old : .ended w.tickets count ∈ w.journal := by simpa [writes.journal] using ended
      exact absurd rfl (numbered.fresh old)
  · intro thread' a rest count mem
    rcases List.mem_cons.mp mem with new | later
    · cases new
      left
      constructor
      · rw [untaken, writes.journal]
        exact ⟨line, own, List.mem_cons_self⟩
      · rw [untaken, List.length_nil, Nat.zero_add]
    · have old : .batch thread' a rest count ∈ popped ++ others := carried_rest rfl loose.none later
      refine .inr ⟨old, ?_⟩
      intro e he told
      obtain rfl := told_alone rfl he told
      exact Nat.lt_irrefl _ (numbered.under _ (mem_activations.mpr ⟨_, old, rfl⟩))

/-- The activation on top takes the next call it found. -/
theorem Batches.calls {thread a count : Nat} {r : Runnable} {rest : List Runnable} {line : Line}
    (h : Batches w (.batch thread a (r :: rest) count :: others))
    (numbered : Numbered w (.batch thread a (r :: rest) count :: others))
    (rests : Rests w.journal line a (r :: rest))
    (writes : w.Writes [.started r.ticket thread, .took a r.ticket] v) :
    Batches v ([.script thread r.body, .running r.ticket, .batch thread a rest count] ++ others) := by
  obtain ⟨⟨l, own, began⟩, size⟩ := h.underway thread a (r :: rest) count List.mem_cons_self
  have mine : a ∈ activations (.batch thread a (r :: rest) count :: others) :=
    mem_activations.mpr ⟨_, List.mem_cons_self, rfl⟩
  have grown : takes a v.journal = takes a w.journal ++ [r.ticket] := by
    rw [writes.journal, takes_took]
  refine h.grow writes.journal ?_ ?_ ?_ (by simp)
  · rintro k b ws _ found ⟨e, he, told⟩
    obtain rfl := told_alone rfl he told
    have old : .began k b ws ∈ w.journal := by simpa [writes.journal] using found
    have all : ws = takes b w.journal ++ (r :: rest).map Runnable.ticket :=
      (numbered.unique _ _ _ _ _ old began).2
    constructor
    · rw [grown, all]
      exact ⟨rest.map Runnable.ticket, by simp⟩
    · intro c ended
      have before : .ended b c ∈ w.journal := by simpa [writes.journal] using ended
      exact absurd before (numbered.going b mine c)
  · intro thread' b left size' mem
    rcases List.mem_append.mp mem with new | later
    · obtain ⟨rfl, rfl, rfl, rfl⟩ : thread' = thread ∧ b = a ∧ left = rest ∧ size' = count := by simpa using new
      left
      constructor
      · rw [grown, writes.journal]
        exact ⟨l, own, List.mem_append_right _ (by simpa using began)⟩
      · rw [grown, size]
        simp only [List.length_append, List.length_cons, List.length_nil]
        omega
    · refine .inr ⟨List.mem_cons_of_mem _ later, ?_⟩
      intro e he told
      obtain rfl := told_alone rfl he told
      exact numbered.alone rfl (mem_activations.mpr ⟨_, later, rfl⟩)
  · intro b k took
    obtain ⟨rfl, rfl⟩ : b = a ∧ k = r.ticket := by simpa using took
    obtain ⟨before, opened⟩ := rests.began
    exact ⟨line, _, opened, rests.filed r List.mem_cons_self⟩

theorem Batches.closes {thread a count : Nat} (h : Batches w (.batch thread a [] count :: others))
    (numbered : Numbered w (.batch thread a [] count :: others)) (writes : w.Writes [.ended a count] v) :
    Batches v others := by
  obtain ⟨⟨l, own, began⟩, size⟩ := h.underway thread a [] count List.mem_cons_self
  have mine : a ∈ activations (.batch thread a [] count :: others) :=
    mem_activations.mpr ⟨_, List.mem_cons_self, rfl⟩
  have same : takes a v.journal = takes a w.journal := writes.journal ▸ takes_untaken (by simp)
  refine h.grow writes.journal ?_ ?_ (by simp) (by simp)
  · rintro k b ws _ found ⟨e, he, told⟩
    obtain rfl := told_alone rfl he told
    have old : .began k b ws ∈ w.journal := by simpa [writes.journal] using found
    obtain rfl : ws = takes b w.journal := by simpa using (numbered.unique _ _ _ _ _ old began).2
    constructor
    · exact same ▸ List.prefix_rfl
    · intro c ended
      rw [writes.journal] at ended
      rcases List.mem_append.mp ended with new | before
      · obtain rfl : c = count := by simpa using new
        exact ⟨same, size⟩
      · exact absurd before (numbered.going b mine c)
  · intro thread' b left size' mem
    refine .inr ⟨List.mem_cons_of_mem _ mem, ?_⟩
    intro e he told
    obtain rfl := told_alone rfl he told
    exact numbered.alone rfl (mem_activations.mpr ⟨_, mem, rfl⟩)

theorem Batches.moves (h : Batches w (popped ++ others)) (numbered : Numbered w (popped ++ others))
    (rounds : Rounds w (popped ++ others)) (ledger : Ledger w (popped ++ others))
    (d : RunnableMove w fault popped n) : Batches n.world (n.stack ++ others) := by
  have after : Numbered n.world (n.stack ++ others) := numbered.moves d
  have kept := d.kept
  cases d with
  | aside same calm loose =>
    exact h.silent [] (by rw [same]; rfl) (by simp) (by simp) fun _ _ _ _ => carried_rest rfl loose.none
  | finishes ticket world stack =>
    rw [world, stack]
    exact h.silent [.finished ticket] rfl (by simp [Event.activation?]) (by simp)
      fun _ _ _ _ => List.mem_append_right _
  | abandons ticket world stack =>
    rw [world, stack]
    exact h.silent [] rfl (by simp) (by simp) fun _ _ _ _ => List.mem_append_right _
  | queues line r own writes tickets last same received calm loose =>
    exact h.silent _ writes.journal (by simp [Event.activation?]) (by simp)
      fun _ _ _ _ => carried_rest rfl loose.none
  | inline thread body writes tickets waiting calm stack loose =>
    rw [stack]
    refine h.silent _ writes.journal (by simp [Event.activation?]) (by simp) fun _ _ _ _ => carried_rest rfl ?_
    exact List.forall_mem_cons.mpr ⟨rfl, List.forall_mem_cons.mpr ⟨rfl, loose.none⟩⟩
  | refuses label writes tickets waiting gone calm loose =>
    exact h.silent _ writes.journal (by simp [Event.activation?]) (by simp)
      fun _ _ _ _ => carried_rest rfl loose.none
  | takes line thread own writes tickets emptied same calm stack loose =>
    rw [stack]
    exact h.begins numbered own writes loose
  | rounds thread writes tickets waiting calm stack loose =>
    have began : .began .mainThread w.tickets ((w.waiting .mainThread).map Runnable.ticket) ∈
      n.world.journal := by
      rw [writes.journal]
      exact List.mem_cons_self
    rw [stack] at after ⊢
    refine h.elsewhere writes.journal ?_ (by simp) (by simp) fun _ _ _ _ mem => ?_
    · intro line a ws own found e he told
      obtain rfl := told_alone rfl he told
      exact after.afar began own found
    · rcases List.mem_cons.mp mem with new | later
      · cases new
      · exact carried_rest rfl loose.none later
  | calls thread activation count r rest line well own rests writes tickets waiting stack =>
    rw [stack]
    exact Batches.calls h numbered rests writes
  | serves thread activation queued ran r rest well short waits writes tickets left same stack =>
    obtain ⟨⟨ws, began, _⟩, _⟩ := rounds.underway thread activation queued ran (by simp)
    rw [stack] at after ⊢
    refine h.elsewhere writes.journal ?_ ?_ (by simp) fun _ _ _ _ mem => ?_
    · intro line a vs own found e he told
      obtain rfl := told_alone rfl he told
      exact after.afar (kept _ began) own found
    · intro a k took
      obtain ⟨rfl, rfl⟩ : a = activation ∧ k = r.ticket := by simpa using took
      exact ⟨.mainThread, ws, began, ledger.filed .mainThread r (by simp [waits])⟩
    · rcases List.mem_append.mp mem with new | later
      · simp at new
      · exact List.mem_append_right _ later
  | closes thread activation count line well own rests writes tickets waiting stack =>
    rw [stack]
    exact Batches.closes h numbered writes
  | returns thread activation queued ran well spent writes tickets waiting stack =>
    obtain ⟨⟨ws, began, _⟩, _⟩ := rounds.underway thread activation queued ran (by simp)
    rw [stack] at after ⊢
    refine h.elsewhere writes.journal ?_ (by simp) (by simp) fun _ _ _ _ => List.mem_append_right _
    intro line a vs own found e he told
    obtain rfl := told_alone rfl he told
    exact after.afar (kept _ began) own found
  | spills thread activation count rest line unwinding own rests world stack =>
    rw [stack]
    refine h.silent _ (world ▸ w.journal_destroyAll rest)
      (fun e he => Event.activation?_idle (destructions_idle rest e he)) ?_ fun _ _ _ _ =>
      List.mem_append_right _
    intro k thread begun
    cases destructions_idle rest _ begun

end

theorem World.Blank.batches {w : World} (blank : w.Blank) : Batches w [] := by
  constructor
  · intro line a ws _ began
    cases blank.events _ began
  · simp
  · intro a k took
    cases blank.events _ took
  · intro k thread begun
    cases blank.events _ begun

theorem kept_batches : Kept fun w fs => (InOrder w ∧ Numbered w fs ∧ Rounds w fs) ∧ Batches w fs where
  blank := fun blank => ⟨kept_rounds.blank blank, blank.batches⟩
  perm := fun p ⟨rounds, h⟩ => by
    refine ⟨kept_rounds.perm p rounds, h.course, ?_, h.taken, h.started⟩
    intro thread a rest count mem
    exact h.underway thread a rest count (p.mem_iff.mpr mem)
  keepsRunnables := fun keepsRunnables ⟨rounds, h⟩ => by
    obtain ⟨es, journal, apart⟩ := keepsRunnables.journal
    exact ⟨kept_rounds.keepsRunnables keepsRunnables rounds,
      h.idle ⟨es, journal, fun e he => Event.isIdle_of_isApart (apart e he)⟩⟩
  losesLine := fun ledger losesLine ⟨rounds, h⟩ =>
    ⟨kept_rounds.losesLine ledger losesLine rounds, h.idle losesLine.idle⟩
  moves := fun ledger d ⟨⟨order, numbered, rounds⟩, h⟩ =>
    ⟨kept_rounds.moves ledger d ⟨order, numbered, rounds⟩, h.moves numbered rounds ledger d⟩

end FrameHost
