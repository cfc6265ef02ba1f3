import Mathlib.Data.List.Basic

namespace NatStream.Lib.Replay

variable {σ α : Type}

/-- Feed a list of inputs to a machine that may refuse one. -/
def replay (step : σ → α → Option σ) (s : σ) (inputs : List α) : Option σ := inputs.foldlM step s

theorem replay_cons (step : σ → α → Option σ) (s : σ) (a : α) (inputs : List α) :
    replay step s (a :: inputs) = (step s a).bind fun s' => replay step s' inputs := rfl

/-- What every input preserves, a whole run preserves. -/
theorem replay_invariant {step : σ → α → Option σ} {P : σ → Prop}
    (hstep : ∀ s a s', P s → step s a = some s' → P s') {s t : σ} {inputs : List α} (hs : P s)
    (h : replay step s inputs = some t) : P t := by
  induction inputs generalizing s with
  | nil =>
    cases h
    exact hs
  | cons a inputs ih =>
    rw [replay_cons, Option.bind_eq_some_iff] at h
    obtain ⟨s', ha, h⟩ := h
    exact ih (hstep s a s' hs ha) h

theorem replay_append (step : σ → α → Option σ) (s : σ) (inputs more : List α) :
    replay step s (inputs ++ more) = (replay step s inputs).bind fun s' => replay step s' more :=
  List.foldlM_append

variable {τ β : Type}

/-- If every input of one machine is answered by some inputs of another, so
that the two stay related, every run of the first is matched by one of the
second. -/
theorem replay_simulation {step : σ → α → Option σ} {step' : τ → β → Option τ} {R : σ → τ → Prop}
    (hstep : ∀ s t a s', R s t → step s a = some s' →
      ∃ answers t', replay step' t answers = some t' ∧ R s' t')
    {s s' : σ} {t : τ} {inputs : List α} (h : R s t) (hr : replay step s inputs = some s') :
    ∃ answers t', replay step' t answers = some t' ∧ R s' t' := by
  induction inputs generalizing s t with
  | nil =>
    cases hr
    exact ⟨[], t, rfl, h⟩
  | cons a inputs ih =>
    rw [replay_cons, Option.bind_eq_some_iff] at hr
    obtain ⟨s₁, ha, hrest⟩ := hr
    obtain ⟨first, t₁, hfirst, h₁⟩ := hstep s t a s₁ h ha
    obtain ⟨rest, t', hrest', h'⟩ := ih h₁ hrest
    refine ⟨first ++ rest, t', ?_, h'⟩
    rw [replay_append, hfirst]
    exact hrest'

end NatStream.Lib.Replay
