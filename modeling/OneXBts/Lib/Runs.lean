import Mathlib.Tactic

/-!
Runs of a step relation, with the log of what was fed in and what came out.

A machine is given by a relation between a state, an input, the next state and an output. A call that
panics has no step. The one induction of every safety proof is `Run.inv`: what holds at the start and
is kept by a step holds after every run.
-/

namespace OneXBts.Lib

variable {σ ι ο : Type}

/-- Runs from `s₀`: the state reached and the log, oldest first. -/
inductive Run (step : σ → ι → σ → ο → Prop) (s₀ : σ) : σ → List (ι × ο) → Prop
  | nil : Run step s₀ s₀ []
  | snoc {s s' : σ} {log : List (ι × ο)} {i : ι} {o : ο} :
    Run step s₀ s log → step s i s' o → Run step s₀ s' (log ++ [(i, o)])

/-- The steps of a partial function that meet a condition on the state and the input. -/
def guarded (f : σ → ι → Option (σ × ο)) (G : σ → ι → Prop) (s : σ) (i : ι) (s' : σ) (o : ο) : Prop :=
  G s i ∧ f s i = some (s', o)

def steps (f : σ → ι → Option (σ × ο)) : σ → ι → σ → ο → Prop := guarded f fun _ _ => True

def keeping (step : σ → ι → σ → ο → Prop) (P : σ → Prop) (s : σ) (i : ι) (s' : σ) (o : ο) : Prop :=
  step s i s' o ∧ P s'

namespace Run

variable {step : σ → ι → σ → ο → Prop} {s₀ s s' : σ} {log : List (ι × ο)}

/-- **The invariant rule.** -/
theorem inv (I : σ → List (ι × ο) → Prop) (hrun : Run step s₀ s log) (h0 : I s₀ [])
    (hs : ∀ s i s' o log, I s log → step s i s' o → I s' (log ++ [(i, o)])) : I s log := by induction hrun <;> grind

lemma trans (h : Run step s₀ s log) (h' : Run step s s' log') :
    Run step s₀ s' (log ++ log') := by induction h' <;> grind [snoc]

lemma single (h : step s i s' o) : Run step s s' [(i, o)] := Run.nil.snoc h

lemma mono (hst : ∀ s i s' o, step s i s' o → step' s i s' o) (h : Run step s₀ s log) : Run step' s₀ s log := by
  induction h with
  | nil => exact .nil
  | snoc _ hs ih => exact ih.snoc (hst _ _ _ _ hs)

/-- **When a run keeps a property.** If from a state with the property a step keeps it exactly under a condition, then the
runs that have it throughout are those whose every step meets the condition. -/
theorem keeping_iff (h0 : P s₀)
    (hst : ∀ s i s' o log, Run (steps f) s₀ s log → P s → f s i = some (s', o) → (P s' ↔ G s i)) :
    Run (keeping (steps f) P) s₀ s log ↔ Run (guarded f G) s₀ s log := by
  -- the property is carried along in both directions
  have hk : ∀ {s log}, Run (keeping (steps f) P) s₀ s log → P s := fun h =>
    h.inv (fun s _ => P s) h0 fun _ _ _ _ _ _ hs => hs.2
  have hg : ∀ {s log}, Run (guarded f G) s₀ s log → P s := by
    intro s log h
    induction h with
    | nil => exact h0
    | snoc hrun hs ih => exact (hst _ _ _ _ _ (hrun.mono fun _ _ _ _ h => ⟨trivial, h.2⟩) ih hs.2).2 hs.1
  constructor
  · intro h
    induction h with
    | nil => exact .nil
    | snoc hrun hs ih =>
      refine ih.snoc ⟨(hst _ _ _ _ _ (hrun.mono fun _ _ _ _ h => h.1) (hk hrun) hs.1.2).1 hs.2, hs.1.2⟩
  · intro h
    induction h with
    | nil => exact .nil
    | snoc hrun hs ih =>
      refine ih.snoc ⟨⟨trivial, hs.2⟩, ?_⟩
      exact (hst _ _ _ _ _ (hrun.mono fun _ _ _ _ h => ⟨trivial, h.2⟩) (hg hrun) hs.2).2 hs.1

end Run

/-- Feed a list of inputs, as long as the condition holds and nothing panics. -/
def exec (f : σ → ι → Option (σ × ο)) (G : σ → ι → Prop) [∀ s i, Decidable (G s i)] :
    σ → List ι → Option (σ × List (ι × ο))
  | s, [] => some (s, [])
  | s, i :: is =>
    if G s i then (f s i).bind fun r => (exec f G r.1 is).map fun t => (t.1, (i, r.2) :: t.2)
    else none

lemma run_of_exec [∀ s i, Decidable (G s i)]
    (is : List ι) : ∀ {s t : σ} {log : List (ι × ο)}, exec f G s is = some (t, log) →
    Run (guarded f G) s t log := by
  induction is with
  | nil => intro s t log h; cases h; exact .nil
  | cons i is ih =>
    intro s t log h
    unfold exec at h
    split at h
    · rename_i hG
      obtain ⟨⟨s1, o⟩, h1, h⟩ := Option.bind_eq_some_iff.1 h
      obtain ⟨⟨t', log'⟩, h2, h⟩ := Option.map_eq_some_iff.1 h
      cases h
      exact (Run.single ⟨hG, h1⟩).trans (ih h2)
    · cases h

lemma exists_run (f : σ → ι → Option (σ × ο)) (G : σ → ι → Prop) [∀ s i, Decidable (G s i)] (s : σ)
    (is : List ι) (P : σ → List (ι × ο) → Prop) [∀ t log, Decidable (P t log)]
    (h : (exec f G s is).any (fun x => decide (P x.1 x.2)) = true) :
    ∃ t log, Run (guarded f G) s t log ∧ P t log := by grind [Option.any_eq_true, run_of_exec]

end OneXBts.Lib
