import FrameHost.Proofs.GraphicsThread

/-!
Turns as functions of the choices that determine them: the place of the strand that takes the turn, and the
request it begins if it is idle. Two runs can thus be compared choice by choice.
-/
namespace FrameHost

/-- The place of a strand, and the request and thread with which it begins, if it begins one. -/
structure Choice where
  place : Nat
  begins : Option (Request × Nat)
  deriving DecidableEq, Repr

inductive Strand.Takes (w : World) (others : List Frame) (σ : Strand) :
    Option (Request × Nat) → Machine → Prop where
  | step : Takes w others σ none (σ.on w).step
  | begin (r : Request) (thread : Nat) (idle : σ.stack = [])
      (free : r.needsHost = true → ∀ f ∈ others, f.holdsHost = false) :
      Takes w others σ (some (r, thread)) (r.begin w thread)

inductive System.Takes (c : Choice) : System → System → Prop where
  | takes {w : World} {m : Machine} (before : List Strand) (σ : Strand) (after : List Strand)
      (place : before.length = c.place) (h : σ.Takes w (framesOf (before ++ after)) c.begins m) :
      Takes c ⟨w, before ++ σ :: after⟩ ⟨m.world, before ++ m.strand :: after⟩

section
variable {w : World} {others : List Frame} {σ : Strand} {m n : Machine} {begins : Option (Request × Nat)}

theorem Strand.Takes.turn (h : σ.Takes w others begins m) : Turn w others σ m := by
  cases h with
  | step => exact .step
  | begin r thread idle free => exact .begin r thread idle free

theorem Turn.takes (h : Turn w others σ m) : ∃ begins, σ.Takes w others begins m := by
  cases h with
  | step => exact ⟨none, .step⟩
  | begin r thread idle free => exact ⟨some (r, thread), .begin r thread idle free⟩

theorem Strand.Takes.unique (h : σ.Takes w others begins m) (k : σ.Takes w others begins n) : m = n := by
  cases h <;> cases k <;> rfl

variable {s t u : System} {c : Choice}

theorem System.Takes.move (h : s.Takes c t) : Move s t := by
  cases h with
  | takes before σ after place h => exact .turn before σ after h.turn

theorem Move.takes (m : Move s t) : ∃ c, s.Takes c t := by
  cases m with
  | turn before σ after h =>
    obtain ⟨begins, takes⟩ := h.takes
    exact ⟨⟨before.length, begins⟩, .takes before σ after rfl takes⟩

theorem System.Takes.at (h : s.Takes c t) : ∃ σ m, s.strands[c.place]? = some σ ∧
    σ.Takes s.world (framesOf (s.strands.eraseIdx c.place)) c.begins m ∧
    t = ⟨m.world, s.strands.set c.place m.strand⟩ := by
  cases h with
  | @takes w m before σ after place h =>
    refine ⟨σ, m, ?_, ?_, ?_⟩
    · simp [← place]
    · rw [← place]
      simpa [List.eraseIdx_append_of_length_le] using h
    · simp [← place]

theorem System.takes_at {σ : Strand} {m : Machine} (here : s.strands[c.place]? = some σ)
    (h : σ.Takes s.world (framesOf (s.strands.eraseIdx c.place)) c.begins m) :
    s.Takes c ⟨m.world, s.strands.set c.place m.strand⟩ := by
  obtain ⟨w, strands⟩ := s
  obtain ⟨bound, same⟩ := List.getElem?_eq_some_iff.mp here
  obtain ⟨before, after, split, place, set⟩ := @List.exists_of_set _ c.place m.strand strands bound
  simp only at same split set h ⊢
  rw [same] at split
  rw [set]
  subst split
  refine .takes before σ after place ?_
  rw [← place] at h
  simpa [List.eraseIdx_append_of_length_le] using h

theorem System.Takes.unique (h : s.Takes c t) (k : s.Takes c u) : t = u := by
  cases h with
  | @takes w m before σ after place h =>
    generalize same : (⟨w, before ++ σ :: after⟩ : System) = d at k
    cases k with
    | @takes v n early τ late there k =>
      obtain ⟨rfl, split⟩ := System.mk.inj same
      obtain ⟨rfl, rest⟩ := List.append_inj split (place.trans there.symm)
      obtain ⟨rfl, rfl⟩ := List.cons.inj rest
      rw [h.unique k]

end

end FrameHost
