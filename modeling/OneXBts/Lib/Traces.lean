import Mathlib.Tactic

/-!
What must have come before: properties of the past along a log, oldest entry first.

`Guards K φ log`: whatever precedes an entry of kind `K` has the property `φ`. `Since P Q log`: an entry `Q` occurred, and
from then on only entries `P`. `OccurInOrder ps log`: entries that meet the conditions `ps` occurred, in this order.
-/

namespace OneXBts.Lib

variable {α : Type} {log es : List α} {x : α}

lemma snoc_eq_append_cons (h : log ++ [x] = before ++ y :: after) :
    (after = [] ∧ before = log ∧ y = x) ∨ ∃ rest, after = rest ++ [x] ∧ log = before ++ y :: rest := by
  obtain rfl | ⟨rest, z, rfl⟩ := List.eq_nil_or_concat after
  · grind [List.append_singleton_inj]
  · rw [List.concat_eq_append, ← List.cons_append, ← List.append_assoc] at h
    obtain ⟨rfl, rfl⟩ := List.append_singleton_inj.mp h
    exact .inr ⟨rest, by simp, rfl⟩

/-! ### What precedes an entry -/

/-- Whenever an entry of kind `K` occurs, what precedes it has the property `φ`. -/
def Guards (K : α → Prop) (φ : List α → Prop) (log : List α) : Prop :=
  ∀ before x after, log = before ++ x :: after → K x → φ before

section Guards

variable {K : α → Prop} {φ : List α → Prop}

lemma Guards.nil : Guards K φ [] := by
  intro before x after h
  simp at h

lemma guards_snoc : Guards K φ (log ++ [x]) ↔ Guards K φ log ∧ (K x → φ log) := by
  constructor
  · grind [Guards]
  · rintro ⟨h, hl⟩ before y after hlog hy
    obtain ⟨-, rfl, rfl⟩ | ⟨rest, -, rfl⟩ := snoc_eq_append_cons hlog <;> grind [Guards]

lemma Guards.of_append (h : Guards K φ (log ++ es)) : Guards K φ log := by
  rintro before x after rfl hx
  exact h before x (after ++ es) (by simp) hx

lemma guards_append (hes : ∀ y ∈ es, ¬ K y) : Guards K φ (log ++ es) ↔ Guards K φ log := by
  induction es using List.reverseRecOn with
  | nil => simp
  | append_singleton => grind [guards_snoc]

end Guards

/-! ### What has held since -/

/-- An entry `Q` occurred, and from then on only entries `P`. -/
def Since (P Q : α → Prop) (log : List α) : Prop :=
  ∃ before x after, log = before ++ x :: after ∧ Q x ∧ ∀ y ∈ after, P y

section Since

variable {P Q : α → Prop}

lemma since_snoc : Since P Q (log ++ [x]) ↔ Q x ∨ Since P Q log ∧ P x := by
  constructor
  · rintro ⟨before, y, after, hlog, hy, ha⟩
    obtain ⟨-, -, rfl⟩ | ⟨rest, rfl, rfl⟩ := snoc_eq_append_cons hlog <;> grind [Since]
  grind [Since]

lemma Since.append (h : Since P Q log) (hes : ∀ y ∈ es, P y) : Since P Q (log ++ es) := by
  obtain ⟨before, x, after, rfl, hx, ha⟩ := h
  refine ⟨before, x, after ++ es, by simp, hx, ?_⟩
  grind

lemma since_append (hes : ∀ y ∈ es, ¬ Q y ∧ P y) : Since P Q (log ++ es) ↔ Since P Q log := by
  induction es using List.reverseRecOn with
  | nil => simp
  | append_singleton => grind [since_snoc]

end Since

/-! ### Entries in an order -/

/-- Entries that meet the conditions occurred, in the order of the conditions. -/
def OccurInOrder (ps : List (α → Prop)) (log : List α) : Prop :=
  ∃ xs, List.Forall₂ (fun p x => p x) ps xs ∧ xs.Sublist log

section OccurInOrder

variable {ps : List (α → Prop)} {p : α → Prop}

lemma OccurInOrder.nil : OccurInOrder [] log := ⟨[], .nil, List.nil_sublist _⟩

lemma OccurInOrder.append (h : OccurInOrder ps log) (es : List α) : OccurInOrder ps (log ++ es) := by
  obtain ⟨xs, hxs, hsub⟩ := h
  exact ⟨xs, hxs, hsub.trans (List.sublist_append_left _ _)⟩

lemma OccurInOrder.snoc (h : OccurInOrder ps log) (hx : p x) : OccurInOrder (ps ++ [p]) (log ++ [x]) := by
  obtain ⟨xs, hxs, hsub⟩ := h
  exact ⟨xs ++ [x], List.rel_append hxs (.cons hx .nil), hsub.append (List.Sublist.refl _)⟩

end OccurInOrder

end OneXBts.Lib
