import FrameHost.Proofs.PlatformState

/-!
The owners of the graphics context: the host and the handles. Handles are stored in slots and scripts only
name them, so no waiting runnable owns one. A turn adds an owner, drops one, or keeps all (`OwnerMove`).
-/
namespace FrameHost

def World.owners (w : World) : Nat := w.host.isSome.toNat + w.handles.count true

structure World.Keeps (w v : World) : Prop where
  host : v.host.isSome = w.host.isSome
  handles : v.handles = w.handles
  graphics : v.graphics.isSome = w.graphics.isSome
  journal : w.Adds (fun e => !e.isTeardown) v

/-- The effects that may follow a drop: a message, or the destruction of the runnables in the channel of a
platform. -/
structure World.DropEffects (w v : World) : Prop where
  host : v.host = w.host
  handles : v.handles = w.handles
  graphics : v.graphics = w.graphics
  journal : ∃ es, v.journal = es ++ w.journal ∧ ∀ e ∈ es,
    (∃ text, e = .said text) ∨ ∃ r ∈ w.waiting .mainThread, e = .destroyed r.ticket r.label

inductive OwnerMove (w v : World) : Prop where
  | keeps (h : w.Keeps v)
  | gains (shared : w.graphics.isSome = true) (same : v = { w with handles := w.handles ++ [true] })
  | drops (u : World) (journal : u.journal = w.journal) (graphics : u.graphics = w.graphics)
      (channel : u.channel = w.channel) (fewer : u.owners ≤ w.owners) (one : w.owners ≤ u.owners + 1)
      (dropEffects : u.releaseGraphics.DropEffects v)

theorem Event.isTeardown_of_isRemark {e : Event} (h : e.isRemark = true) : (!e.isTeardown) = true := by
  cases e with
  | log r => cases r <;> first | rfl | cases h
  | _ => rfl

namespace World.Keeps

variable {u v w : World}

theorem of_eq (host : v.host.isSome = w.host.isSome) (handles : v.handles = w.handles)
    (graphics : v.graphics.isSome = w.graphics.isSome) (journal : v.journal = w.journal) : w.Keeps v :=
  ⟨host, handles, graphics, .of_eq journal⟩

theorem refl (w : World) : w.Keeps w := of_eq rfl rfl rfl rfl

theorem trans (h : u.Keeps v) (k : v.Keeps w) : u.Keeps w :=
  ⟨k.host.trans h.host, k.handles.trans h.handles, k.graphics.trans h.graphics, h.journal.trans k.journal⟩

theorem record (w : World) {e : Event} (h : (!e.isTeardown) = true) : w.Keeps (w.record e) :=
  ⟨rfl, rfl, rfl, .record w h⟩

theorem of_keepsPlatform (h : w.KeepsPlatform v) : w.Keeps v := by
  refine ⟨h.hosted, h.handles, h.graphics, h.journal.mono fun e inward => ?_⟩
  simp only [Event.isInward, Bool.and_eq_true] at inward
  exact inward.2

theorem recordAll (w : World) {es : List Event} (h : ∀ e ∈ es, (!e.isTeardown) = true) :
    w.Keeps (w.recordAll es) := by
  obtain ⟨j, eq⟩ := w.recordAll_eq es
  have added : w.Adds (fun e => !e.isTeardown) (w.recordAll es) := .recordAll w h
  rw [eq] at added ⊢
  exact ⟨rfl, rfl, rfl, added⟩

theorem remarks (w : World) {es : List Event} (h : ∀ e ∈ es, e.isRemark = true) : w.Keeps (w.recordAll es) :=
  recordAll w fun e he => Event.isTeardown_of_isRemark (h e he)

theorem dropReceiver (w : World) : w.Keeps w.dropReceiver := by
  have gone : w.Keeps { w with channel := { w.channel with receiver := .gone, waiting := [] } } :=
    of_eq rfl rfl rfl rfl
  exact gone.trans (of_keepsPlatform (.destroyAll _ _))

theorem setControls (w : World) (c : Controls) :
    w.Keeps (w.setControls c) := of_eq Option.isSome_map rfl rfl rfl
theorem setPlatform (w : World) (p : Platform) :
    w.Keeps (w.setPlatform p) := of_eq Option.isSome_map rfl rfl rfl

theorem endFrame (w : World) (answer : Answer) : w.Keeps (w.endFrame answer).world := by
  have told : w.Keeps (if answer = .flag false then w.log .frameSkipped else w) := by
    split
    · exact record w rfl
    · exact refl w
  unfold World.endFrame
  dsimp only
  split
  · exact told.trans (record _ rfl)
  · exact told

theorem attachWindow (w : World) (h : Host) (window : Nat) : w.Keeps (w.attachWindow h window) := by
  unfold World.attachWindow
  split
  · exact refl w
  · exact (setControls w _).trans (remarks _ (by simp [Event.isRemark]))

theorem resume (w : World) (h : Host) (p : Platform) : w.Keeps (w.resume h p).world := by
  have asked : w.Keeps (w.record (.windowAsked p.title)) := record w rfl
  unfold World.resume
  split
  · exact record w rfl
  · dsimp only
    split
    · exact asked.trans ((of_keepsPlatform (.desktop _ _)).trans ((record _ rfl).trans (record _ rfl)))
    · split
      · exact asked.trans ((of_keepsPlatform (.desktop _ _)).trans
          ((record _ (e := .log (.windowCreated _ _ _)) rfl).trans
          (((attachWindow _ h _).trans (record _ rfl)).trans (setPlatform _ _))))
      · exact asked

theorem handle (w : World) (h : Host) (p : Platform) (thread : Nat) (e : WindowEvent) :
    w.Keeps (w.handle h p thread e).world := by
  unfold World.handle
  cases e with
  | resumed => exact resume w h p
  | aboutToWait =>
    dsimp only
    split
    · exact (record w rfl).trans (record _ rfl)
    · exact refl w
  | closeRequested => exact (record w rfl).trans (record _ rfl)
  | resized width height => exact (record w rfl).trans (of_keepsPlatform (.ask _ h _))
  | redraw => exact of_keepsPlatform (.round w thread _)
  | other => exact refl w

end World.Keeps

section
variable {w : World} {others : List Frame} {σ : Strand} {m : Machine}

theorem World.DropEffects.refl (w : World) : w.DropEffects w := ⟨rfl, rfl, rfl, [], rfl, by simp⟩

theorem World.DropEffects.say (w : World) (text : String) : w.DropEffects (w.say text) :=
  ⟨rfl, rfl, rfl, [.said text], rfl, by simp⟩

theorem World.DropEffects.dropReceiver (w : World) : w.DropEffects w.dropReceiver := by
  have written : w.dropReceiver.journal = destructions (w.waiting .mainThread) ++ w.journal :=
    World.journal_destroyAll _ _
  obtain ⟨j, eq⟩ := w.dropReceiver_eq
  rw [eq] at written ⊢
  refine ⟨rfl, rfl, rfl, _, written, fun e he => .inr ?_⟩
  obtain ⟨r, hr, rfl⟩ := List.mem_map.mp (List.mem_reverse.mp he)
  exact ⟨r, hr, rfl⟩

theorem World.owners_set (w : World) (slot : Nat) :
    ({ w with handles := w.handles.set slot false }).owners ≤ w.owners ∧
      w.owners ≤ ({ w with handles := w.handles.set slot false }).owners + 1 := by
  unfold owners
  dsimp only
  by_cases short : slot < w.handles.length
  · rw [List.count_set short]
    have counted : (if (w.handles[slot] == true) = true then 1 else 0) ≤ w.handles.count true := by
      split
      · rename_i full
        exact List.count_pos_iff.mpr (beq_iff_eq.mp full ▸ List.getElem_mem short)
      · exact Nat.zero_le _
    have one : (if (w.handles[slot] == true) = true then 1 else 0) ≤ 1 := by split <;> omega
    simp only [Bool.false_beq, Bool.not_true, Bool.false_eq_true, if_false, Nat.add_zero]
    omega
  · rw [List.set_eq_of_length_le (Nat.le_of_not_lt short)]
    omega

theorem OwnerMove.dropHandle {v : World} (w : World) (slot : Nat)
    (dropEffects : (w.dropHandle slot).DropEffects v) :
    OwnerMove w v :=
  .drops { w with handles := w.handles.set slot false } rfl rfl rfl (w.owners_set slot).1 (w.owners_set slot).2
    dropEffects

theorem World.dropHost_move (w : World) : OwnerMove w w.dropHost := by
  unfold dropHost
  split
  · exact .keeps (.refl w)
  · rename_i h hosted
    refine .drops { w with host := none } rfl rfl rfl (by simp [owners]) (by simp [owners, hosted]; omega) ?_
    dsimp only
    split
    · exact .dropReceiver _
    · exact .refl _

theorem Frame.ownerMove (f : Frame) (w : World) (answer : Answer) : OwnerMove w (f.advance w answer).world := by
  by_cases ends : f = .frameEnd
  · subst ends
    exact .keeps (.endFrame w answer)
  cases drops : f.drops with
  | false => exact .keeps (.of_keepsPlatform (f.keepsPlatform w drops ends answer))
  | true =>
    obtain ⟨thread, slot, next, rfl⟩ := f.of_drops drops
    exact .dropHandle w slot (.say _ _)

theorem Request.ownerMove (r : Request) (w : World) (thread : Nat) : OwnerMove w (r.begin w thread).world := by
  have toHost {f : Host → Machine} (served : ∀ h, w.Keeps (f h).world) : w.Keeps (ofHost w f).world := by
    unfold ofHost
    split
    · exact .refl w
    · exact served _
  cases r with
  | terminate =>
    exact .keeps (toHost fun h => ((World.Keeps.record w rfl).trans (.setControls _ _)).trans
      (.remarks _ h.controls.terminate_remarks))
  | newHandle =>
    unfold begin
    dsimp only [Machine.proceed]
    split
    · rename_i shared
      exact .gains shared rfl
    · exact .keeps (.refl w)
  | dropHandle slot => exact .dropHandle w slot (.refl _)
  | dropReceiver =>
    unfold begin
    refine .keeps ?_
    dsimp only [Machine.proceed]
    split
    · exact .dropReceiver w
    · exact .refl w
  | dropHost => exact w.dropHost_move
  | attach =>
    exact .keeps (toHost fun h => (World.Keeps.of_keepsPlatform (.desktop w _)).trans
      (.attachWindow _ h _))
  | event e =>
    refine .keeps (toHost fun h => ?_)
    split
    · exact .refl w
    · exact .handle w h _ thread e
  | _ => exact .keeps (.of_keepsPlatform (Request.keepsPlatform w rfl thread))

theorem Turn.ownerMove (h : Turn w others σ m) : OwnerMove w m.world := by
  cases h with
  | step =>
    obtain ⟨fault, answer, stack⟩ := σ
    cases stack with
    | nil => exact .keeps (.refl w)
    | cons f below =>
      cases fault with
      | none => exact f.ownerMove w answer
      | some raised => exact .keeps (.of_keepsPlatform (f.unwind_keepsPlatform w raised))
  | begin r thread => exact r.ownerMove w thread

theorem Move.ownerMove {s t : System} (m : Move s t) : OwnerMove s.world t.world := by
  cases m with
  | turn before σ after h => exact h.ownerMove

end

end FrameHost
