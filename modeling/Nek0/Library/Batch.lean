import Mathlib.Data.List.Basic

/-!
# Handling a batch

A handler may refuse an element of a batch, and then leaves the state as it is. `stopping` gives
the rest of the batch up at the first refusal, as a loop inside one `try` does; `isolating` goes
on with the next element. Both give the elements handled, in order, and the state in the end.
-/

namespace Nek0.Library

variable {σ ε δ : Type*}

def stopping (handle : σ → ε → Except δ σ) : σ → List ε → List ε × σ
  | s, [] => ([], s)
  | s, e :: es =>
    match handle s e with
    | .ok t => (e :: (stopping handle t es).1, (stopping handle t es).2)
    | .error _ => ([], s)

def isolating (handle : σ → ε → Except δ σ) : σ → List ε → List ε × σ
  | s, [] => ([], s)
  | s, e :: es =>
    match handle s e with
    | .ok t => (e :: (isolating handle t es).1, (isolating handle t es).2)
    | .error _ => isolating handle s es

/-- Nothing that would be handled follows the first element that is refused. -/
def endsAtRefusal (handle : σ → ε → Except δ σ) : σ → List ε → Bool
  | _, [] => true
  | s, e :: es =>
    match handle s e with
    | .ok t => endsAtRefusal handle t es
    | .error _ => (isolating handle s es).1.isEmpty

section Handle

variable {handle : σ → ε → Except δ σ} {s : σ} {es : List ε}

/-- Where nothing is handled, the state stays. -/
theorem isolating_idle (idle : (isolating handle s es).1 = []) : (isolating handle s es).2 = s := by
  induction es generalizing s with
  | nil => rfl
  | cons e es ih =>
    simp only [isolating] at idle ⊢
    cases handled : handle s e with
    | ok t =>
      rw [handled] at idle
      cases idle
    | error refusal =>
      rw [handled] at idle
      exact ih idle

/-- What a loop inside one `try` handles. -/
theorem stopping_eq_isolating_iff :
    stopping handle s es = isolating handle s es ↔ endsAtRefusal handle s es = true := by
  induction es generalizing s with
  | nil => exact ⟨fun _ => rfl, fun _ => rfl⟩
  | cons e es ih =>
    rw [stopping, isolating, endsAtRefusal]
    split
    · rw [← ih, Prod.mk.injEq, List.cons.injEq, Prod.ext_iff]
      simp only [true_and]
    · rw [List.isEmpty_iff, Prod.ext_iff]
      exact ⟨fun same => same.1.symm, fun idle => ⟨idle.symm, (isolating_idle idle).symm⟩⟩

end Handle

end Nek0.Library
