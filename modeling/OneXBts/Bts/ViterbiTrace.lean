import OneXBts.Bts.Convolutional
import OneXBts.Lib.Trellis

/-!
What the Viterbi decoder records, and what it reads back.

`Records` says which rows the flat arrays hold, newest first. A traceback of `depth` steps is the entry of that depth of the
trace through the rows (`tracebackBit_eq`), and trimming keeps the newest rows.
-/

namespace OneXBts.Bts

open Lib Trellis

variable {n : ℕ}

/-- For each state the previous state and the input bit of the selected branch. -/
abbrev Row (n : ℕ) : Type := Fin n → Fin n × Fin 2

namespace Selection

def view (selection : Selection n) : Fin n → ℕ × (Fin n × Fin 2) := fun state =>
  (selection.nextMetrics.get state, (selection.scratchPrevState.get state, selection.scratchBit.get state))

def row (selection : Selection n) : Row n := fun state => (selection.view state).2

lemma view_blank [NeZero n] : (blank n).view = fun _ => (infMetric, (0, 0)) := by
  funext state
  simp [view, blank, get_eq_getElem]

lemma view_offer (sel : Selection n) (prevState : Fin n) (bit : Fin 2) (nextState : Fin n) (cand : ℕ) :
    (sel.offer prevState bit nextState cand).view = Lib.offer sel.view ⟨nextState, cand, (prevState, bit)⟩ := by
  unfold offer Lib.offer
  by_cases hlt : cand < sel.nextMetrics[nextState]
  · rw [if_pos hlt, if_pos (show cand < (sel.view nextState).1 from hlt)]
    funext state
    by_cases hs : state = nextState
    · subst hs
      simp [view, get_eq_getElem]
    · have hval : nextState.val ≠ state.val := fun h => hs (Fin.ext h.symm)
      simp [view, get_eq_getElem, Function.update_of_ne hs, hval]
  · rw [if_neg hlt, if_neg (show ¬cand < (sel.view nextState).1 from hlt)]

end Selection

def offers (K : ConstraintLength) (generators : List (BitVec 32)) (add : ℕ → ℕ → ℕ)
    (pathMetrics : Vector ℕ K.numStates) (input : List UInt8) : List (Offer (Fin K.numStates) (Fin K.numStates × Fin 2)) :=
  (List.finRange K.numStates).flatMap fun prevState =>
    if infMetric ≤ pathMetrics.get prevState then []
    else (List.finRange 2).map fun inputBit =>
      ⟨K.branchNext prevState inputBit,
        add (pathMetrics.get prevState) (branchHamming (K.branchOut generators prevState inputBit) input),
        (prevState, inputBit)⟩

lemma view_addCompareSelect (K : ConstraintLength) (gens : List (BitVec 32)) (add : ℕ → ℕ → ℕ)
    (pathMetrics : Vector ℕ K.numStates) (input : List UInt8) :
    (addCompareSelect K gens add pathMetrics input).view =
      (offers K gens add pathMetrics input).foldl offer fun _ => (infMetric, (0, 0)) := by
  rw [offers, List.foldl_flatMap, ← Selection.view_blank]
  refine (List.foldl_hom Selection.view fun sel prevState => ?_).symm
  rw [get_eq_getElem]
  split_ifs
  · rfl
  · rw [List.foldl_map]
    refine List.foldl_hom Selection.view fun sel bit => ?_
    rw [Selection.view_offer]

/-! ### The recorded rows -/

/-- The rows of the flat arrays, newest first. -/
structure Records (tb : TrellisTraceback n) (rows : List (Row n)) : Prop where
  steps : tb.steps = rows.length
  prevStates : tb.tracePrevStates = rows.reverse.flatMap fun row => (List.finRange n).map fun state => (row state).1
  inputBits : tb.traceInputBits = rows.reverse.flatMap fun row => (List.finRange n).map fun state => (row state).2

lemma getElem?_flat {α : Type} (rows : List (Row n)) (f : Fin n × Fin 2 → α) (step : ℕ) (state : Fin n) :
    (rows.flatMap fun row => (List.finRange n).map fun state => f (row state))[step * n + state.val]? =
      rows[step]?.map fun row => f (row state) := by
  induction rows generalizing step with
  | nil => simp
  | cons row =>
    have hlen : ((List.finRange n).map fun state => f (row state)).length = n := by simp
    rw [List.flatMap_cons]
    cases step with
    | zero =>
      rw [Nat.zero_mul, Nat.zero_add, List.getElem?_append_left (by rw [hlen]; exact state.isLt)]
      simp
    | succ => grind

lemma toList_eq_map_get {α : Type} (v : Vector α n) : v.toList = (List.finRange n).map v.get := by
  refine List.ext_getElem (by simp) fun i h _ => ?_
  simp [get_eq_getElem]

section Records

variable {tb : TrellisTraceback n} {rows : List (Row n)}

lemma records_nil (depth : ℕ) : Records ({ tracebackDepth := depth } : TrellisTraceback n) [] := ⟨rfl, rfl, rfl⟩

lemma Records.recordStep (h : Records tb rows) (sel : Selection n) :
    Records (tb.recordStep sel) (sel.row :: rows) where
  steps := by simp [TrellisTraceback.recordStep, h.steps]
  prevStates := by
    rw [List.reverse_cons, List.flatMap_append, ← h.prevStates, List.flatMap_singleton]
    exact congrArg _ (toList_eq_map_get sel.scratchPrevState)
  inputBits := by
    rw [List.reverse_cons, List.flatMap_append, ← h.inputBits, List.flatMap_singleton]
    exact congrArg _ (toList_eq_map_get sel.scratchBit)

lemma drop_flat {α : Type} (rows : List (Row n)) (f : Fin n × Fin 2 → α) (k : ℕ) :
    (rows.flatMap fun row => (List.finRange n).map fun state => f (row state)).drop (k * n) =
      (rows.drop k).flatMap fun row => (List.finRange n).map fun state => f (row state) := by
  induction k generalizing rows with
  | zero => simp
  | succ k ih =>
    cases rows with
    | nil => simp
    | cons =>
      rw [List.flatMap_cons, Nat.succ_mul, Nat.add_comm, ← List.drop_drop, List.drop_left' (by simp), ih]
      rfl

lemma length_flat {α : Type} (rows : List (Row n)) (f : Fin n × Fin 2 → α) :
    (rows.flatMap fun row => (List.finRange n).map fun state => f (row state)).length = rows.length * n := by
  simp [List.length_flatMap]

section

variable (h : Records tb rows)
include h

lemma Records.trimHistory :
    Records tb.trimHistory (rows.take (tb.tracebackDepth * 2)) ∧
      tb.trimHistory.tracebackDepth = tb.tracebackDepth := by
  unfold TrellisTraceback.trimHistory
  dsimp only
  split_ifs with hl he
  · refine ⟨⟨?_, ?_, ?_⟩, rfl⟩
    · dsimp only
      rw [List.length_take, ← h.steps]
      omega
    · rw [h.prevStates, drop_flat, List.reverse_take, h.steps]
    · rw [h.inputBits, drop_flat, List.reverse_take, h.steps]
  · exfalso
    apply he
    rw [h.prevStates, length_flat, List.length_reverse, ← h.steps]
    exact Nat.mul_le_mul_right _ (Nat.sub_le _ _)
  grind [List.take_of_length_le, cases Records]

lemma tracebackLoop_step (hs : step < rows.length) :
    ∃ row, rows.drop (rows.length - (step + 1)) = row :: rows.drop (rows.length - step) ∧
      ∀ depth (state : Fin n) oldest, tb.tracebackLoop (depth + 1) (step + 1) state.val oldest =
        tb.tracebackLoop depth step (row state).1.val (row state).2 := by
  have hlt : rows.length - (step + 1) < rows.length := by omega
  refine ⟨rows[rows.length - (step + 1)], ?_, fun depth state oldest => ?_⟩
  · rw [List.drop_eq_getElem_cons hlt, show rows.length - (step + 1) + 1 = rows.length - step by omega]
  have hrow : rows.reverse[step]? = some rows[rows.length - (step + 1)] := by grind
  have hbit := getElem?_flat rows.reverse Prod.snd step state
  have hp := getElem?_flat rows.reverse Prod.fst step state
  rw [← h.inputBits, hrow] at hbit
  rw [← h.prevStates, hrow] at hp
  rw [TrellisTraceback.tracebackLoop, hbit, hp]
  rfl

lemma tracebackLoop_eq (depth : ℕ) : ∀ (steps : ℕ) (state : Fin n) (oldest : Fin 2),
    depth < steps → steps ≤ rows.length → tb.tracebackLoop (depth + 1) steps state.val oldest =
      (trace (rows.drop (rows.length - steps)) state)[depth]? := by
  induction depth with
  | zero =>
    rintro (_ | step) state oldest hde hs
    · exact absurd hde (lt_irrefl 0)
    · obtain ⟨row, hr, hl⟩ := tracebackLoop_step h (Nat.lt_of_succ_le hs)
      rw [hl, hr]
      rfl
  | succ depth ih =>
    rintro (_ | step) state oldest hde hs
    · omega
    · obtain ⟨row, hr, hl⟩ := tracebackLoop_step h (Nat.lt_of_succ_le hs)
      rw [hl, hr, ih step _ _ (by omega) (by omega)]
      rfl

/-- **A traceback reads the trace.** -/
theorem tracebackBit_eq (state : Fin n) (hpos : 0 < depth)
    (hde : depth ≤ endStep + 1) (hend : endStep < rows.length) :
    tb.tracebackBit state.val endStep depth =
      (trace (rows.drop (rows.length - (endStep + 1))) state)[depth - 1]? := by
  obtain ⟨depth, rfl⟩ : ∃ d, depth = d + 1 := ⟨depth - 1, by omega⟩
  exact tracebackLoop_eq h depth (endStep + 1) state 0 (by omega) (by omega)

end

lemma mapM_eq_some {α β : Type} {f : α → Option β} {g : α → β} {l : List α} (h : ∀ a ∈ l, f a = some (g a)) :
    l.mapM f = some (l.map g) := by induction l <;> grind

lemma mapM_tracebackBit (h : Records tb rows) (state : Fin n) (hr : r ≤ rows.length) :
    ((List.range' 1 r).reverse).mapM (fun depth => tb.tracebackBit state.val (tb.steps - 1) depth) =
      some ((trace rows state).take r).reverse := by
  have hlen := length_trace rows state
  rw [h.steps, mapM_eq_some (g := fun depth => (trace rows state).getD (depth - 1) 0)]
  · rw [List.map_reverse, Option.some_inj, List.reverse_inj]
    refine List.ext_getElem (by simp [hlen, hr]) fun i hi hi' => ?_
    rw [List.length_take] at hi'
    simp [List.getElem?_eq_getElem (show i < (trace rows state).length by omega)]
  · intro depth hde
    have hde := List.mem_range'_1.1 (List.mem_reverse.1 hde)
    rw [tracebackBit_eq h state (by omega) (by omega) (by omega), Nat.sub_add_cancel (by omega), Nat.sub_self,
      List.drop_zero, List.getD_eq_getElem?_getD, List.getElem?_eq_getElem (by omega)]
    rfl

lemma tracebackAllFromState_eq (h : Records tb rows) (state : Fin n) :
    tb.tracebackAllFromState state.val = some (trace rows state).reverse := by
  have hall := mapM_tracebackBit h state h.steps.le
  rw [List.take_of_length_le (by rw [length_trace, h.steps])] at hall
  unfold TrellisTraceback.tracebackAllFromState
  split_ifs with hz
  · rwa [hz] at hall
  · exact hall

lemma finish_eq (h : Records tb rows) (state : Fin n) :
    tb.finish state.val = some ((trace rows state).take (min tb.steps (tb.tracebackDepth - 1))).reverse := by
  have hall := mapM_tracebackBit h state ((Nat.min_le_left _ (tb.tracebackDepth - 1)).trans h.steps.le)
  have hrem : (if tb.steps ≥ tb.tracebackDepth then tb.tracebackDepth - 1 else tb.steps) =
      min tb.steps (tb.tracebackDepth - 1) := by split_ifs <;> omega
  unfold TrellisTraceback.finish
  dsimp only
  rw [hrem]
  split_ifs with hz hr
  · rwa [hz, Nat.zero_min] at hall ⊢
  · rwa [hr] at hall ⊢
  · exact hall

end Records

end OneXBts.Bts
