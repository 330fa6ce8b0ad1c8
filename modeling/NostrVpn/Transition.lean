import Mathlib.Data.List.Basic

/-!
# Runs of deterministic machines

A machine is a step function of a state and an event; environment choices are part of the event.
`Along P` says that every step of a run satisfies `P` at the state it is taken in. The rules
below carry an invariant along a run whose steps meet a guard.
-/
namespace Transition

variable {σ ε : Type*}

/-- The state after a list of events. -/
def run (step : σ → ε → σ) (s : σ) (es : List ε) : σ := es.foldl step s

@[simp] theorem run_nil (step : σ → ε → σ) (s : σ) : run step s [] = s := rfl

@[simp] theorem run_cons (step : σ → ε → σ) (s : σ) (e : ε) (es : List ε) :
    run step s (e :: es) = run step (step s e) es := rfl

@[simp] theorem run_append (step : σ → ε → σ) (s : σ) (es fs : List ε) :
    run step s (es ++ fs) = run step (run step s es) fs := List.foldl_append

/-- `P` holds of every event of the run at the state in which the event happens. -/
def Along (step : σ → ε → σ) (P : σ → ε → Prop) : σ → List ε → Prop
  | _, [] => True
  | s, e :: es => P s e ∧ Along step P (step s e) es

instance Along.decidable {step : σ → ε → σ} {P : σ → ε → Prop} [∀ s e, Decidable (P s e)] :
    ∀ (s : σ) (es : List ε), Decidable (Along step P s es)
  | _, [] => .isTrue trivial
  | s, e :: es => @instDecidableAnd _ _ inferInstance (Along.decidable (step s e) es)

theorem Along.mono {step : σ → ε → σ} {P Q : σ → ε → Prop} (h : ∀ s e, P s e → Q s e) {s : σ}
    {es : List ε} (along : Along step P s es) : Along step Q s es := by
  induction es generalizing s with
  | nil => trivial
  | cons e es ih => exact ⟨h s e along.1, ih along.2⟩

theorem Along.and {step : σ → ε → σ} {P Q : σ → ε → Prop} {s : σ} {es : List ε}
    (h : Along step P s es) (h' : Along step Q s es) :
    Along step (fun s e => P s e ∧ Q s e) s es := by
  induction es generalizing s with
  | nil => trivial
  | cons e es ih => exact ⟨⟨h.1, h'.1⟩, ih h.2 h'.2⟩

theorem Along.of_forall {step : σ → ε → σ} {P : σ → ε → Prop} {s : σ} {es : List ε}
    (h : ∀ e ∈ es, ∀ s, P s e) : Along step P s es := by
  induction es generalizing s with
  | nil => trivial
  | cons e es ih => exact ⟨h e (by simp) s, ih fun e' mem => h e' (by simp [mem])⟩

theorem along_append {step : σ → ε → σ} {P : σ → ε → Prop} {s : σ} {es fs : List ε} :
    Along step P s (es ++ fs) ↔ Along step P s es ∧ Along step P (run step s es) fs := by
  induction es generalizing s with
  | nil => simp [Along]
  | cons e es ih => simp [Along, ih, and_assoc]

/-- An invariant that guarded steps preserve holds at the end of every guarded run. -/
theorem invariant {step : σ → ε → σ} {inv : σ → Prop} {guard : σ → ε → Prop}
    (preserve : ∀ s e, inv s → guard s e → inv (step s e)) {s : σ} {es : List ε} (init : inv s)
    (along : Along step guard s es) : inv (run step s es) := by
  induction es generalizing s with
  | nil => exact init
  | cons e es ih => exact ih (preserve s e init along.1) along.2

/-- An invariant that every step preserves holds at the end of every run. -/
theorem run_invariant {step : σ → ε → σ} {inv : σ → Prop}
    (preserve : ∀ s e, inv s → inv (step s e)) {s : σ} (init : inv s) (es : List ε) :
    inv (run step s es) := by
  induction es generalizing s with
  | nil => exact init
  | cons e es ih => exact ih (preserve s e init)

/-- A preorder that every event of the list respects relates the ends of the run. -/
theorem run_related {step : σ → ε → σ} {R : σ → σ → Prop} (refl : ∀ s, R s s)
    (trans : ∀ {s t u}, R s t → R t u → R s u) {es : List ε} (steps : ∀ e ∈ es, ∀ s, R s (step s e))
    (s : σ) : R s (run step s es) := by
  induction es generalizing s with
  | nil => exact refl s
  | cons e es ih =>
    exact trans (steps e (by simp) s) (ih (fun e' mem => steps e' (by simp [mem])) (step s e))

/-- Along a guarded run every step may use the invariant as well as its guard. -/
theorem Along.strengthen {step : σ → ε → σ} {inv : σ → Prop} {guard P : σ → ε → Prop}
    (preserve : ∀ s e, inv s → guard s e → inv (step s e))
    (good : ∀ s e, inv s → guard s e → P s e) {s : σ} {es : List ε} (init : inv s)
    (along : Along step guard s es) : Along step P s es := by
  induction es generalizing s with
  | nil => trivial
  | cons e es ih =>
    exact ⟨good s e init along.1, ih (preserve s e init along.1) along.2⟩

/-- Two conditions on the steps that agree while an invariant holds, which they preserve, hold along
the same runs. -/
theorem along_congr {step : σ → ε → σ} {inv : σ → Prop} {P Q : σ → ε → Prop} {s : σ} {es : List ε}
    (same : ∀ s, ∀ e ∈ es, inv s → (P s e ↔ Q s e))
    (preserve : ∀ s, ∀ e ∈ es, inv s → Q s e → inv (step s e)) (init : inv s) :
    Along step P s es ↔ Along step Q s es := by
  induction es generalizing s with
  | nil => exact Iff.rfl
  | cons e es ih =>
    have here := same s e (by simp) init
    have rest (kept : Q s e) := ih (fun s e' mem => same s e' (by simp [mem]))
      (fun s e' mem => preserve s e' (by simp [mem])) (preserve s e (by simp) init kept)
    constructor
    · exact fun ⟨now, later⟩ => ⟨here.mp now, (rest (here.mp now)).mp later⟩
    · exact fun ⟨now, later⟩ => ⟨here.mpr now, (rest now).mpr later⟩

end Transition
