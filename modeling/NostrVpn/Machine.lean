import Mathlib.Data.List.Induction
import Mathlib.Order.WellFounded

/-!
# Machines with partial steps

A step function gives no state where the event cannot happen. A run is a list of events that can all
happen, one after the other. Steps along which a measure goes down come to an end.
-/
namespace Machine

variable {σ ε α : Type*} {step : σ → ε → Option σ}

/-- The state after a list of events, when they can all happen. -/
def run (step : σ → ε → Option σ) : σ → List ε → Option σ
  | s, [] => some s
  | s, e :: es => (step s e).bind fun t => run step t es

@[simp] theorem run_nil (s : σ) : run step s [] = some s := rfl

theorem run_cons {s u : σ} {e : ε} {es : List ε} :
    run step s (e :: es) = some u ↔ ∃ t, step s e = some t ∧ run step t es = some u := by
  rw [run, Option.bind_eq_some_iff]

theorem run_append {s u : σ} {es fs : List ε} :
    run step s (es ++ fs) = some u ↔ ∃ t, run step s es = some t ∧ run step t fs = some u := by
  induction es generalizing s with
  | nil => simp
  | cons e es ih =>
    simp only [List.cons_append, run_cons, ih]
    constructor
    · rintro ⟨t, now, v, rest, last⟩
      exact ⟨v, ⟨t, now, rest⟩, last⟩
    · rintro ⟨v, ⟨t, now, rest⟩, last⟩
      exact ⟨t, now, v, rest, last⟩

/-- What steps with a property of their event preserve holds at the end of a run of such steps. -/
theorem run_invariant {inv : σ → Prop} {guard : ε → Prop}
    (preserve : ∀ s e t, inv s → guard e → step s e = some t → inv t) {s t : σ} {es : List ε}
    (init : inv s) (guarded : ∀ e ∈ es, guard e) (runs : run step s es = some t) : inv t := by
  induction es generalizing s with
  | nil => exact Option.some.inj runs ▸ init
  | cons e es ih =>
    obtain ⟨u, now, rest⟩ := run_cons.mp runs
    exact ih (preserve s e u init (guarded e (by simp)) now) (fun e' mem => guarded e' (by simp [mem])) rest

/-- An invariant of the state and the events so far. -/
theorem history_invariant {inv : List ε → σ → Prop}
    (preserve : ∀ es s e t, inv es s → step s e = some t → inv (es ++ [e]) t) {s t : σ} {es : List ε}
    (init : inv [] s) (runs : run step s es = some t) : inv es t := by
  induction es using List.reverseRecOn generalizing t with
  | nil => exact Option.some.inj runs ▸ init
  | append_singleton es e ih =>
    obtain ⟨u, before, last⟩ := run_append.mp runs
    obtain ⟨v, now, done⟩ := run_cons.mp last
    exact Option.some.inj done ▸ preserve es u e v (ih before) now

/-- No event of the kind can happen. -/
def Quiet (step : σ → ε → Option σ) (internal : ε → Prop) (s : σ) : Prop := ∀ e, internal e → step s e = none

section Measure
variable {internal : ε → Prop} {r : α → α → Prop} {μ : σ → α}

/-- Steps along which a measure goes down cannot go on for ever. -/
theorem wellFounded_of_measure (wf : WellFounded r)
    (decreases : ∀ s e t, internal e → step s e = some t → r (μ t) (μ s)) :
    WellFounded fun t s => ∃ e, internal e ∧ step s e = some t :=
  Subrelation.wf (fun ⟨e, kind, now⟩ => decreases _ e _ kind now) (InvImage.wf μ wf)

/-- From every state a run of such steps comes to a state in which none of them can happen. -/
theorem exists_quiet_run (wf : WellFounded fun t s => ∃ e, internal e ∧ step s e = some t) (s : σ) :
    ∃ es t, (∀ e ∈ es, internal e) ∧ run step s es = some t ∧ Quiet step internal t := by
  induction s using wf.induction with
  | _ s ih =>
    by_cases quiet : Quiet step internal s
    · exact ⟨[], s, by simp, rfl, quiet⟩
    · simp only [Quiet, not_forall] at quiet
      obtain ⟨e, kind, some'⟩ := quiet
      obtain ⟨t, now⟩ := Option.ne_none_iff_exists'.mp some'
      obtain ⟨es, u, kinds, runs, quiet⟩ := ih t ⟨e, kind, now⟩
      refine ⟨e :: es, u, fun e' mem => ?_, run_cons.mpr ⟨t, now, runs⟩, quiet⟩
      rcases List.mem_cons.mp mem with rfl | mem
      · exact kind
      · exact kinds e' mem

end Measure

end Machine
