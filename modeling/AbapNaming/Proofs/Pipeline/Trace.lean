import AbapNaming.Editor

/-! # Steps that ask for things

Much of a run is steps that ask for something, one after the other, and write down what they get.
What they get is settled once it was asked for, however many requests come later. So what a step
writes can be read off from everything that was ever asked for.
-/

namespace AbapNaming

variable {κ σ ω α β γ : Type} {Reached : List κ → σ → Prop} {view : List κ → ω}

/-- A step behind the requests `before` that makes the requests `asked` and leaves `value` and the
state `s`. The value is what `written` makes of the view of all requests, whatever comes later. -/
structure Traced (Reached : List κ → σ → Prop) (view : List κ → ω) (before asked : List κ)
    (value : β) (s : σ) (written : ω → β) : Prop where
  reached : Reached (before ++ asked) s
  value_eq : ∀ later, value = written (view (before ++ asked ++ later))

namespace Traced

variable {before asked : List κ} {s : σ}

theorem pair {more : List κ} {v : β} {w : γ} {s' : σ} {written : ω → β} {written' : ω → γ}
    (h : Traced Reached view before asked v s written)
    (h' : Traced Reached view (before ++ asked) more w s' written') :
    Traced Reached view before (asked ++ more) (v, w) s' fun seen => (written seen, written' seen) where
  reached := by
    rw [← List.append_assoc]
    exact h'.reached
  value_eq later := by
    have hv := h.value_eq (more ++ later)
    have hw := h'.value_eq later
    simp only [List.append_assoc] at hv hw ⊢
    rw [← hv, ← hw]

theorem map {v : β} {written : ω → β} (h : Traced Reached view before asked v s written)
    (f : β → γ) : Traced Reached view before asked (f v) s fun seen => f (written seen) :=
  ⟨h.reached, fun later => congrArg f (h.value_eq later)⟩

theorem kept (v : β) (hs : Reached before s) :
    Traced Reached view before [] v s fun _ => v where
  reached := by
    rw [List.append_nil]
    exact hs
  value_eq _ := rfl

theorem mapThrough {f : σ → α → α × σ} {requests : α → List κ} {written : α → ω → α} {g : α → α}
    (hf : ∀ before s a, Reached before s →
      Traced Reached view before (requests a) (f s (g a)).1 (f s (g a)).2 (written a))
    (as : List α) (hs : Reached before s) :
    Traced Reached view before (as.flatMap requests) (AbapNaming.mapThrough f s (as.map g)).1
      (AbapNaming.mapThrough f s (as.map g)).2 fun seen => as.map (written · seen) := by
  induction as generalizing before s with
  | nil => exact kept [] hs
  | cons a as ih =>
    have hhead := hf before s a hs
    have htail := ih hhead.reached
    exact (hhead.pair htail).map fun vs => vs.1 :: vs.2

/-- So is a list that is gone through to its end although an item might have failed. -/
theorem mapUntil {f : σ → α → α × σ × Option Failure} {requests : α → List κ}
    {written : α → ω → α} {g : α → α}
    (hf : ∀ before s a, Reached before s → (f s (g a)).2.2 = none →
      Traced Reached view before (requests a) (f s (g a)).1 (f s (g a)).2.1 (written a))
    (as : List α) (hs : Reached before s)
    (hdone : (AbapNaming.mapUntil f s (as.map g)).2.2 = none) :
    Traced Reached view before (as.flatMap requests) (AbapNaming.mapUntil f s (as.map g)).1
      (AbapNaming.mapUntil f s (as.map g)).2.1 fun seen => as.map (written · seen) := by
  induction as generalizing before s with
  | nil => exact kept [] hs
  | cons a as ih =>
    have hhead := hf before s a hs
    rw [List.map_cons, AbapNaming.mapUntil] at hdone ⊢
    rcases h : f s (g a) with ⟨a', s', _ | failure⟩
    · simp only [h] at hdone hhead ⊢
      exact ((hhead trivial).pair (ih (hhead trivial).reached hdone)).map fun vs => vs.1 :: vs.2
    · simp only [h] at hdone
      exact absurd hdone (by simp)

end Traced

end AbapNaming
