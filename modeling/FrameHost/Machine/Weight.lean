import FrameHost.Machine.Step

/-!
Weights: a bound on the steps that scripts, frames and waiting runnables take. Each runnable starts at most
once and no script begins a render pass, so the weights are finite.
-/
namespace FrameHost

def Op.weight : Op → Nat
  | chain count _ => 4 * count + 1
  | runMain | drainQueue => 3
  | _ => 1

/-- A bound on the steps of a script, with `passes` render passes still to call the renderer. -/
def Script.weight (passes : Nat) : Script → Nat
  | done => 1
  | act op next => op.weight + next.weight passes
  | nest (.times count) body next => count * (body.weight passes + 1) + 1 + next.weight passes
  | nest (.install _) body next => passes * body.weight passes + 1 + next.weight passes
  | nest _ body next => body.weight passes + 3 + next.weight passes

def weigh (passes : Nat) : List Runnable → Nat
  | [] => 0
  | r :: rs => r.body.weight passes + 2 + weigh passes rs

def Renderer.weight (passes : Nat) (r : Renderer) : Nat :=
  r.onReload.weight passes + r.onRender.weight passes

namespace Frame

def isPass : Frame → Bool
  | enter _ | pass .. => true
  | _ => false

def weight (passes : Nat) (renderer : Renderer) : Frame → Nat
  | script _ rest => rest.weight passes
  | batch _ _ rest _ => weigh passes rest + 1
  | enter _ => renderer.weight passes + 6
  | pass _ _ .target => renderer.weight passes + 4
  | pass _ _ (.loaded _) => renderer.onRender.weight passes + 3
  | _ => 1

end Frame

namespace World

def weight (passes : Nat) (w : World) : Nat :=
  weigh passes (w.graphics.getD .new).queue.calls + weigh passes w.channel.waiting
    + weigh passes (w.standalone.getD .empty).calls

end World

theorem Script.weight_mono {p q : Nat} (h : p ≤ q) (s : Script) : s.weight p ≤ s.weight q := by
  induction s with
  | done => exact Nat.le_refl 1
  | act op next ih => exact Nat.add_le_add_left ih _
  | nest kind body next ihb ihn =>
    cases kind with
    | times count =>
      have := Nat.mul_le_mul_left count (Nat.add_le_add_right ihb 1)
      simp only [weight]; omega
    | install hook =>
      have := Nat.mul_le_mul h ihb
      simp only [weight]; omega
    | _ => simp only [weight]; omega

theorem Script.weight_pos (p : Nat) (s : Script) : 0 < s.weight p := by
  cases s with
  | done => exact Nat.one_pos
  | act op next => cases op <;> simp only [weight, Op.weight] <;> omega
  | nest kind body next => cases kind <;> simp only [weight] <;> omega

@[simp] theorem weigh_nil (p : Nat) : weigh p [] = 0 := rfl

@[simp] theorem weigh_cons (p : Nat) (r : Runnable) (rs : List Runnable) :
    weigh p (r :: rs) = r.body.weight p + 2 + weigh p rs := rfl

@[simp] theorem weigh_append (p : Nat) (rs ts : List Runnable) :
    weigh p (rs ++ ts) = weigh p rs + weigh p ts := by
  induction rs with
  | nil => simp
  | cons r rs ih => simp [ih, Nat.add_assoc]

theorem weigh_mono {p q : Nat} (h : p ≤ q) (rs : List Runnable) : weigh p rs ≤ weigh q rs := by
  induction rs with
  | nil => exact Nat.le_refl 0
  | cons r rs ih =>
    have := r.body.weight_mono h
    simp only [weigh_cons]; omega

theorem World.weight_mono {p q : Nat} (h : p ≤ q) (w : World) : w.weight p ≤ w.weight q :=
  Nat.add_le_add (Nat.add_le_add (weigh_mono h _) (weigh_mono h _)) (weigh_mono h _)

def stackWeight (p : Nat) (r : Renderer) : List Frame → Nat
  | [] => 0
  | f :: fs => f.weight p r + stackWeight p r fs

@[simp] theorem stackWeight_nil (p : Nat) (r : Renderer) : stackWeight p r [] = 0 := rfl

@[simp] theorem stackWeight_cons (p : Nat) (r : Renderer) (f : Frame) (fs : List Frame) :
    stackWeight p r (f :: fs) = f.weight p r + stackWeight p r fs := rfl

@[simp] theorem stackWeight_append (p : Nat) (r : Renderer) (fs gs : List Frame) :
    stackWeight p r (fs ++ gs) = stackWeight p r fs + stackWeight p r gs := by
  induction fs with
  | nil => simp
  | cons f fs ih => simp [ih, Nat.add_assoc]

theorem Frame.weight_mono {p q : Nat} (h : p ≤ q) (r : Renderer) (f : Frame) :
    f.weight p r ≤ f.weight q r := by
  have h1 := r.onReload.weight_mono h
  have h2 := r.onRender.weight_mono h
  cases f with
  | script t s => exact s.weight_mono h
  | batch t a rest n => exact Nat.add_le_add_right (weigh_mono h rest) 1
  | enter t => simp only [weight, Renderer.weight]; omega
  | pass t saved phase => cases phase <;> simp only [weight, Renderer.weight] <;> omega
  | _ => exact Nat.le_refl 1

theorem stackWeight_mono {p q : Nat} (h : p ≤ q) (r : Renderer) (fs : List Frame) :
    stackWeight p r fs ≤ stackWeight q r fs := by
  induction fs with
  | nil => exact Nat.le_refl 0
  | cons f fs ih => exact Nat.add_le_add (f.weight_mono h r) ih

theorem stackWeight_congr (p : Nat) {r s : Renderer} (h : r.onReload = s.onReload) (k : r.onRender = s.onRender)
    (fs : List Frame) : stackWeight p r fs = stackWeight p s fs := by
  induction fs with
  | nil => rfl
  | cons f fs ih =>
    rw [stackWeight_cons, stackWeight_cons, ih]
    congr 1
    cases f with
    | pass t saved phase => cases phase <;> simp only [Frame.weight, Renderer.weight, h, k]
    | _ => simp only [Frame.weight, Renderer.weight, h, k]

theorem stackWeight_install (p : Nat) (r : Renderer) (hook : Hook) (body : Script) (fs : List Frame) :
    stackWeight p (r.install hook body) fs ≤ stackWeight p r fs + fs.countP Frame.isPass * body.weight p := by
  induction fs with
  | nil => exact Nat.zero_le _
  | cons f fs ih =>
    rw [stackWeight_cons, stackWeight_cons, List.countP_cons]
    cases f with
    | pass t saved phase =>
      cases phase <;> cases hook <;>
        simp only [Frame.weight, Frame.isPass, Renderer.weight, Renderer.install, if_true, Nat.add_mul,
          Nat.one_mul] at ih ⊢ <;> omega
    | enter t =>
      cases hook <;>
        simp only [Frame.weight, Frame.isPass, Renderer.weight, Renderer.install, if_true, Nat.add_mul,
          Nat.one_mul] at ih ⊢ <;> omega
    | _ => simp only [Frame.weight, Frame.isPass, Bool.false_eq_true, if_false, Nat.add_zero] at ih ⊢; omega

end FrameHost
