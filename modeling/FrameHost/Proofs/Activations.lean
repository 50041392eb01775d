import FrameHost.Proofs.RunnableMove

/-!
The numbers of activations. Each activation has a number and a frame of its own; an activation that has
ended has no frame on a stack.
-/
namespace FrameHost

def activations (fs : List Frame) : List Nat := fs.filterMap Frame.activation?

/-- Activation numbers are unique and below the next ticket, and an activation on a stack has not ended. -/
structure Numbered (w : World) (fs : List Frame) : Prop where
  early : ∀ e ∈ w.journal, ∀ a, e.activation? = some a → a < w.tickets
  under : ∀ a ∈ activations fs, a < w.tickets
  single : (activations fs).Nodup
  unique : ∀ k l a ws vs, .began k a ws ∈ w.journal → .began l a vs ∈ w.journal → k = l ∧ ws = vs
  going : ∀ a ∈ activations fs, ∀ c, .ended a c ∉ w.journal

theorem activations_append (fs gs : List Frame) :
    activations (fs ++ gs) = activations fs ++ activations gs :=
  List.filterMap_append

theorem activations_loose {fs : List Frame} (h : Loose fs) : activations fs = [] := by
  rw [activations, List.filterMap_eq_nil_iff]
  intro f hf
  have loose := h f hf
  cases f <;> first | rfl | cases loose

theorem mem_activations {a : Nat} {fs : List Frame} :
    a ∈ activations fs ↔ ∃ f ∈ fs, f.activation? = some a :=
  List.mem_filterMap

section
variable {w v : World} {fs gs popped others : List Frame} {fault : Option Fault} {n : Machine}

theorem Numbered.perm (p : fs.Perm gs) (h : Numbered w fs) : Numbered w gs := by
  have same : (activations fs).Perm (activations gs) := p.filterMap _
  constructor
  · exact h.early
  · exact fun a mem => h.under a (same.mem_iff.mpr mem)
  · exact same.nodup_iff.mp h.single
  · exact h.unique
  · exact fun a mem => h.going a (same.mem_iff.mpr mem)

theorem Numbered.fresh (h : Numbered w fs) {e : Event} (mem : e ∈ w.journal) :
    e.activation? ≠ some w.tickets := by
  intro named
  exact Nat.lt_irrefl _ (h.early e mem _ named)

theorem Numbered.untaken (h : Numbered w fs) {line : Line} {ws : List Nat}
    (writes : w.Writes [.began line w.tickets ws] v) : takes w.tickets v.journal = [] := by
  rw [List.eq_nil_iff_forall_not_mem]
  intro x mem
  have old : .took w.tickets x ∈ w.journal := by simpa [writes.journal] using mem_takes.mp mem
  exact h.fresh old rfl

theorem Numbered.keeps (h : Numbered w fs) {es : List Event} (journal : v.journal = es ++ w.journal)
    (tickets : w.tickets ≤ v.tickets) (known : ∀ e ∈ es, ∀ a, e.activation? = some a → a < w.tickets)
    (unopened : ∀ k a ws, .began k a ws ∉ es) (fewer : (activations gs).Sublist (activations fs))
    (unended : ∀ a ∈ activations gs, ∀ c, .ended a c ∉ es) : Numbered v gs := by
  have old {k : Line} {a : Nat} {ws : List Nat} (mem : .began k a ws ∈ v.journal) :
      .began k a ws ∈ w.journal := by
    rw [journal] at mem
    exact (List.mem_append.mp mem).resolve_left (unopened k a ws)
  constructor
  · intro e mem a own
    rw [journal] at mem
    rcases List.mem_append.mp mem with new | old
    · have early := known e new a own
      omega
    · have early := h.early e old a own
      omega
  · intro a mem
    have early := h.under a (fewer.subset mem)
    omega
  · exact h.single.sublist fewer
  · exact fun k l a ws vs first second => h.unique k l a ws vs (old first) (old second)
  · intro a mem c ended
    rw [journal] at ended
    rcases List.mem_append.mp ended with new | old
    · exact unended a mem c new
    · exact h.going a (fewer.subset mem) c old

theorem Numbered.idle (h : Numbered w fs) (es : List Event) (journal : v.journal = es ++ w.journal)
    (tickets : w.tickets ≤ v.tickets) (none : ∀ e ∈ es, e.activation? = none)
    (fewer : (activations gs).Sublist (activations fs)) : Numbered v gs := by
  apply h.keeps journal tickets ?_ ?_ fewer
  · intro a _ c mem
    cases none _ mem
  · intro e mem a own
    rw [none e mem] at own
    cases own
  · intro k a ws mem
    cases none _ mem

theorem Numbered.begins (h : Numbered w fs) {line : Line} {ws : List Nat}
    (writes : w.Writes [.began line w.tickets ws] v) (tickets : v.tickets = w.tickets + 1) {later : List Nat}
    (laid : activations gs = w.tickets :: later) (fewer : later.Sublist (activations fs)) :
    Numbered v gs := by
  have journal : v.journal = .began line w.tickets ws :: w.journal := writes.journal
  have older {a : Nat} (mem : a ∈ later) : a < w.tickets := h.under a (fewer.subset mem)
  have fresh {l : Line} {vs : List Nat} (mem : .began l w.tickets vs ∈ w.journal) : False := h.fresh mem rfl
  constructor
  · intro e mem a own
    rw [journal] at mem
    rcases List.mem_cons.mp mem with rfl | old
    · cases own
      omega
    · have early := h.early e old a own
      omega
  · intro a mem
    rw [laid] at mem
    rcases List.mem_cons.mp mem with rfl | old
    · omega
    · have early := older old
      omega
  · rw [laid, List.nodup_cons]
    refine ⟨?_, h.single.sublist fewer⟩
    exact fun mem => Nat.lt_irrefl _ (older mem)
  · intro k l a us vs first second
    rw [journal] at first second
    rcases List.mem_cons.mp first with here | old <;> rcases List.mem_cons.mp second with there | older
    · cases here
      cases there
      exact ⟨rfl, rfl⟩
    · cases here
      exact (fresh older).elim
    · cases there
      exact (fresh old).elim
    · exact h.unique k l a us vs old older
  · intro a mem c ended
    rw [journal] at ended
    have old : .ended a c ∈ w.journal := by simpa using ended
    rw [laid] at mem
    rcases List.mem_cons.mp mem with rfl | later
    · exact h.fresh old rfl
    · exact h.going a (fewer.subset later) c old

theorem Numbered.keepsRunnables (h : Numbered w fs) (keepsRunnables : w.KeepsRunnables v) : Numbered v fs := by
  obtain ⟨es, journal, apart⟩ := keepsRunnables.journal
  exact h.idle es journal (Nat.le_of_eq keepsRunnables.tickets.symm)
    (fun e he => Event.activation?_idle (Event.isIdle_of_isApart (apart e he))) (.refl _)

theorem Numbered.losesLine (h : Numbered w fs) {line : Line} (losesLine : w.LosesLine line v) :
    Numbered v fs := by
  obtain ⟨es, journal, idle⟩ := losesLine.idle
  exact h.idle es journal (Nat.le_of_eq losesLine.tickets.symm) (fun e he => Event.activation?_idle (idle e he))
    (.refl _)

theorem activations_rest {laid : List Frame} (loose : activations laid = []) :
    (activations (laid ++ others)).Sublist (activations (popped ++ others)) := by
  rw [activations_append, activations_append, loose]
  exact List.sublist_append_right ..

theorem activations_top {f : Frame} {a : Nat} (own : f.activation? = some a) :
    activations (f :: others) = a :: activations others := by
  rw [activations, List.filterMap_cons, own]
  rfl

/-- The activation on top of a strand has no other frame. -/
theorem Numbered.alone {f : Frame} {a : Nat} (h : Numbered w (f :: others)) (own : f.activation? = some a) :
    a ∉ activations others := by
  have single := h.single
  rw [activations_top own, List.nodup_cons] at single
  exact single.1

theorem Numbered.goesOn {f : Frame} {a k thread : Nat} (h : Numbered w (f :: others))
    (own : f.activation? = some a) (writes : w.Writes [.started k thread, .took a k] v)
    (tickets : v.tickets = w.tickets) (laid : activations gs = [a]) : Numbered v (gs ++ others) := by
  have mine : a < w.tickets := h.under a (by simp [activations_top own])
  have same : activations (gs ++ others) = activations (f :: others) := by
    rw [activations_append, laid, activations_top own]
    rfl
  refine h.keeps writes.journal (Nat.le_of_eq tickets.symm) ?_ (by simp) (same ▸ .refl _) (by simp)
  simpa [Event.activation?] using mine

theorem Numbered.ends {f : Frame} {a count : Nat} (h : Numbered w (f :: others))
    (own : f.activation? = some a) (writes : w.Writes [.ended a count] v)
    (tickets : v.tickets = w.tickets) : Numbered v others := by
  have mine : a < w.tickets := h.under a (by simp [activations_top own])
  refine h.keeps writes.journal (Nat.le_of_eq tickets.symm) ?_ (by simp) ?_ ?_
  · simpa [Event.activation?] using mine
  · rw [activations_top own]
    exact List.sublist_cons_self ..
  · rintro b mem c ended
    cases List.mem_singleton.mp ended
    exact h.alone own mem

theorem Numbered.moves (h : Numbered w (popped ++ others)) (d : RunnableMove w fault popped n) :
    Numbered n.world (n.stack ++ others) := by
  cases d with
  | aside same calm loose =>
    exact h.idle [] (by rw [same]; rfl) (same ▸ Nat.le_refl _) (by simp)
      (activations_rest (activations_loose loose))
  | finishes ticket world stack =>
    rw [stack]
    exact h.idle [.finished ticket] (by rw [world]; rfl) (by rw [world]; exact Nat.le_refl _)
      (by simp [Event.activation?]) (activations_rest rfl)
  | abandons ticket world stack =>
    rw [world, stack]
    exact h.idle [] rfl (Nat.le_refl _) (by simp) (activations_rest rfl)
  | queues line r own writes tickets last others received calm loose =>
    exact h.idle _ writes.journal (by omega) (by simp [Event.activation?])
      (activations_rest (activations_loose loose))
  | inline thread body writes tickets waiting calm laid loose =>
    have none := activations_loose loose
    rw [laid]
    exact h.idle _ writes.journal (by omega) (by simp [Event.activation?]) (activations_rest none)
  | refuses label writes tickets waiting gone calm loose =>
    exact h.idle _ writes.journal (by omega) (by simp [Event.activation?])
      (activations_rest (activations_loose loose))
  | takes line thread own writes tickets emptied same calm laid loose =>
    refine h.begins writes tickets ?_ (activations_rest (activations_loose loose))
    rw [laid]
    rfl
  | rounds thread writes tickets waiting calm laid loose =>
    refine h.begins writes tickets ?_ (activations_rest (activations_loose loose))
    rw [laid]
    rfl
  | calls thread activation count r rest line well own rests writes tickets waiting laid =>
    rw [laid]
    exact h.goesOn rfl writes tickets rfl
  | serves thread activation queued ran r rest well short waits writes tickets left same laid =>
    rw [laid]
    exact h.goesOn rfl writes tickets rfl
  | closes thread activation count line well own rests writes tickets waiting stack =>
    rw [stack]
    exact h.ends rfl writes tickets
  | returns thread activation queued ran well spent writes tickets waiting stack =>
    rw [stack]
    exact h.ends rfl writes tickets
  | spills thread activation count rest line unwinding own rests world stack =>
    obtain ⟨j, eq⟩ := w.destroyAll_eq rest
    have tickets : n.world.tickets = w.tickets := by rw [world, eq]
    rw [stack]
    refine h.idle _ (world ▸ w.journal_destroyAll rest) (Nat.le_of_eq tickets.symm) ?_ (activations_rest rfl)
    exact fun e he => Event.activation?_idle (destructions_idle rest e he)

end

theorem World.Blank.numbered {w : World} (blank : w.Blank) : Numbered w [] := by
  have silent : ∀ e ∈ w.journal, e.activation? = none := fun e he =>
    Event.activation?_idle (blank.events e he)
  constructor
  · intro e he a own
    rw [silent e he] at own
    cases own
  · simp [activations]
  · exact List.nodup_nil
  · intro k l a ws vs first
    cases silent _ first
  · simp [activations]

theorem kept_numbered : Kept Numbered where
  blank := World.Blank.numbered
  perm := Numbered.perm
  keepsRunnables := fun keepsRunnables h => h.keepsRunnables keepsRunnables
  losesLine := fun _ losesLine h => h.losesLine losesLine
  moves := fun _ d h => h.moves d

end FrameHost
