import Mathlib.Order.Bounds.Basic
import Mathlib.Tactic

/-!
Best paths through a trellis.

The table of a decoder has one metric for each state: the least cost of a path to it, less a common offset, and at least
`inf` if there is no path (`Metrics`). A step selects the best branch into each state (`Selects`); numbers below `inf` suffice
because no least cost is far from the others where every state can be reached from every other one (`exists_cost_le`). The
branches selected, traced back, are the best path (`Optimal.snoc`).
-/

namespace OneXBts.Lib

open List

/-! ### Offers -/

section Offers

variable {σ α : Type} [DecidableEq σ]

structure Offer (σ α : Type) where
  target : σ
  cand : ℕ
  value : α

def offer (table : σ → ℕ × α) (o : Offer σ α) : σ → ℕ × α :=
  if o.cand < (table o.target).1 then Function.update table o.target (o.cand, o.value) else table

lemma foldl_offer (offers : List (Offer σ α)) : ∀ (table : σ → ℕ × α) (s : σ),
    (offers.foldl offer table s = table s ∨
      ∃ o ∈ offers, o.target = s ∧ o.cand < (table s).1 ∧ offers.foldl offer table s = (o.cand, o.value)) ∧
    (offers.foldl offer table s).1 ≤ (table s).1 ∧
    ∀ o ∈ offers, o.target = s → (offers.foldl offer table s).1 ≤ o.cand := by
  induction offers with
  | nil => exact fun table s => ⟨.inl rfl, le_rfl, fun o ho => nomatch ho⟩
  | cons o offers ih =>
    intro table s
    obtain ⟨hf, hle, hall⟩ := ih (offer table o) s
    have hone : (offer table o s = table s ∨
          (o.target = s ∧ o.cand < (table s).1 ∧ offer table o s = (o.cand, o.value))) ∧
        (offer table o s).1 ≤ (table s).1 ∧ (o.target = s → (offer table o s).1 ≤ o.cand) := by
      unfold offer
      grind
    obtain ⟨hfr, hle1, ha⟩ := hone
    rw [foldl_cons]
    grind

end Offers

/-! ### Paths -/

structure Trellis (σ β ι : Type) where
  next : σ → β → σ
  cost : ι → σ → β → ℕ

namespace Trellis

variable {σ β ι : Type} (T : Trellis σ β ι)

def final (s : σ) (bits : List β) : σ := bits.foldl T.next s

def pathCost : σ → List ι → List β → ℕ
  | s, x :: xs, b :: bits => T.cost x s b + pathCost (T.next s b) xs bits
  | _, _, _ => 0

def costs (s₀ : σ) (xs : List ι) (s : σ) : Set ℕ :=
  {c | ∃ bits, bits.length = xs.length ∧ T.final s₀ bits = s ∧ T.pathCost s₀ xs bits = c}

structure Optimal (s₀ : σ) (xs : List ι) (s : σ) (bits : List β) : Prop where
  length : bits.length = xs.length
  final : T.final s₀ bits = s
  least : IsLeast (T.costs s₀ xs s) (T.pathCost s₀ xs bits)

section Paths

variable {T} {s₀ s p q : σ} {xs ys : List ι} {x : ι} {bits bits' : List β} {c d : ℕ}

lemma final_append (s : σ) (bits bits' : List β) : T.final s (bits ++ bits') = T.final (T.final s bits) bits' :=
  foldl_append

lemma pathCost_append (s : σ) (hlen : bits.length = xs.length) (ys : List ι) (bits' : List β) :
    T.pathCost s (xs ++ ys) (bits ++ bits') = T.pathCost s xs bits + T.pathCost (T.final s bits) ys bits' := by
  induction xs generalizing s bits with
  | nil =>
    obtain rfl := length_eq_zero_iff.1 hlen
    simp [pathCost, final]
  | cons =>
    cases bits with
    | nil => simp at hlen
    | cons => grind [pathCost, final]

lemma pathCost_singleton (x : ι) (b : β) : T.pathCost s [x] [b] = T.cost x s b := by simp [pathCost]

lemma pathCost_le {B : ℕ} (hc : ∀ x ∈ xs, ∀ s b, T.cost x s b ≤ B) (s : σ) (bits : List β) :
    T.pathCost s xs bits ≤ xs.length * B := by
  induction xs generalizing s bits with
  | nil => simp [pathCost]
  | cons x xs ih =>
    cases bits with
    | nil => simp [pathCost]
    | cons b bits =>
      have hf := hc x mem_cons_self s b
      have hrest := ih (fun y hy => hc y (mem_cons_of_mem _ hy)) (T.next s b) bits
      rw [pathCost, length_cons, Nat.succ_mul]
      omega

lemma mem_costs_append (hc : c ∈ T.costs s₀ xs p) (hd : d ∈ T.costs p ys s) : c + d ∈ T.costs s₀ (xs ++ ys) s := by
  obtain ⟨bits, hlen, rfl, rfl⟩ := hc
  obtain ⟨bits', hlen', rfl, rfl⟩ := hd
  exact ⟨bits ++ bits', by simp [hlen, hlen'], final_append _ _ _, pathCost_append _ hlen _ _⟩

lemma exists_prefix_cost (hc : c ∈ T.costs s₀ (xs ++ ys) s) : ∃ p, ∃ d ∈ T.costs s₀ xs p, d ≤ c := by
  obtain ⟨bits, hlen, rfl, rfl⟩ := hc
  rw [length_append] at hlen
  have ht : (bits.take xs.length).length = xs.length := by rw [length_take]; omega
  refine ⟨_, _, ⟨bits.take xs.length, ht, rfl, rfl⟩, ?_⟩
  conv_rhs => rw [← take_append_drop xs.length bits, pathCost_append _ ht]
  exact Nat.le_add_right _ _

lemma mem_costs_snoc :
    c ∈ T.costs s₀ (xs ++ [x]) s ↔ ∃ p b, T.next p b = s ∧ ∃ d ∈ T.costs s₀ xs p, c = d + T.cost x p b := by
  constructor
  · rintro ⟨bits, hlen, rfl, rfl⟩
    rcases eq_nil_or_concat bits with rfl | ⟨bits, b, rfl⟩
    · simp at hlen
    have hlen : bits.length = xs.length := by simpa using hlen
    refine ⟨T.final s₀ bits, b, ?_, _, ⟨bits, hlen, rfl, rfl⟩, ?_⟩
    · rw [concat_eq_append, final_append]
      rfl
    · rw [concat_eq_append, pathCost_append _ hlen, pathCost_singleton]
  · rintro ⟨p, b, rfl, d, hd, rfl⟩
    exact mem_costs_append hd ⟨[b], rfl, rfl, pathCost_singleton x b⟩

/-- **The best path to a state ends with the best branch into it.** -/
theorem Optimal.snoc {b : β} (h : T.Optimal s₀ xs p bits) (hn : T.next p b = s)
    (hl : IsLeast (T.costs s₀ (xs ++ [x]) s) (T.pathCost s₀ xs bits + T.cost x p b)) :
    T.Optimal s₀ (xs ++ [x]) s (bits ++ [b]) where
  length := by simp [h.length]
  final := by rw [final_append, h.final]; exact hn
  least := by rwa [pathCost_append _ h.length, h.final, pathCost_singleton]

/-- **No least cost is far from the others.** If every state can be reached from every other one with `m` inputs, a state
can be reached at the cost of any path to one step before and that of `m` branches. -/
theorem exists_cost_le {m B : ℕ} (hm : 0 < m) (hcon : ∀ p s, ∃ bits, bits.length = m ∧ T.final p bits = s)
    (hco : ∀ y ∈ xs ++ [x], ∀ p b, T.cost y p b ≤ B) (hc : c ∈ T.costs s₀ xs q)
    (hs : (T.costs s₀ (xs ++ [x]) s).Nonempty) : ∃ d ∈ T.costs s₀ (xs ++ [x]) s, d ≤ c + m * B := by
  by_cases hsh : xs.length + 1 ≤ m
  · -- all the branches there are
    obtain ⟨d, hd⟩ := hs
    obtain ⟨bits, -, -, rfl⟩ := id hd
    refine ⟨_, hd, ?_⟩
    have hle := pathCost_le hco s₀ bits
    rw [length_append, length_singleton] at hle
    have hmul := Nat.mul_le_mul_right B hsh
    omega
  · -- leave the path to `q` so that `m` branches are left
    have hsp : xs ++ [x] = xs.take (xs.length + 1 - m) ++ (xs.drop (xs.length + 1 - m) ++ [x]) := by
      rw [← append_assoc, take_append_drop]
    rw [← take_append_drop (xs.length + 1 - m) xs] at hc
    obtain ⟨p, d, hd, hle⟩ := exists_prefix_cost hc
    obtain ⟨bits, hlen, hf⟩ := hcon p s
    have hrest : (xs.drop (xs.length + 1 - m) ++ [x]).length = m := by
      rw [length_append, length_drop, length_singleton]
      omega
    rw [hsp]
    refine ⟨_, mem_costs_append hd ⟨bits, hlen.trans hrest.symm, hf, rfl⟩, ?_⟩
    have hb : T.pathCost p (xs.drop (xs.length + 1 - m) ++ [x]) bits ≤ m * B := by
      have hle := pathCost_le (fun y hy => hco y (hsp ▸ mem_append_right _ hy)) p bits
      rwa [hrest] at hle
    omega

end Paths

/-! ### The table of metrics -/

/-- The metrics are the least costs, less an offset. -/
structure Metrics (inf : ℕ) (s₀ : σ) (xs : List ι) (offset : ℕ) (metric : σ → ℕ) : Prop where
  least : ∀ s, metric s < inf → IsLeast (T.costs s₀ xs s) (metric s + offset)
  reached : ∀ s, (T.costs s₀ xs s).Nonempty → metric s < inf

/-- The next metrics are those of the best branches, and these are recorded. -/
structure Selects (inf : ℕ) (x : ι) (metric metric' : σ → ℕ) (row : σ → σ × β) : Prop where
  branch : ∀ s, metric' s < inf → metric (row s).1 < inf ∧ T.next (row s).1 (row s).2 = s ∧
    metric' s = metric (row s).1 + T.cost x (row s).1 (row s).2
  le : ∀ p b, metric p < inf → metric' (T.next p b) ≤ metric p + T.cost x p b

section Metrics

variable {T} {inf offset : ℕ} {s₀ : σ} {xs : List ι} {x : ι} {metric metric' : σ → ℕ} {row : σ → σ × β}

lemma metrics_nil [DecidableEq σ] (hinf : 0 < inf) (s₀ : σ) :
    T.Metrics inf s₀ [] 0 fun s => if s = s₀ then 0 else inf where
  least := by
    intro s hs
    split_ifs at hs with h
    · rw [if_pos h]
      exact ⟨⟨[], rfl, h.symm, rfl⟩, fun _ _ => Nat.zero_le _⟩
    · exact absurd hs (lt_irrefl _)
  reached := by
    rintro s ⟨c, bits, hlen, hf, -⟩
    obtain rfl := length_eq_zero_iff.1 hlen
    subst hf
    exact (if_pos rfl).trans_lt hinf

lemma Metrics.select (h : T.Metrics inf s₀ xs offset metric) (hsel : T.Selects inf x metric metric' row)
    (hb : ∀ s, (T.costs s₀ (xs ++ [x]) s).Nonempty → ∃ c ∈ T.costs s₀ (xs ++ [x]) s, c < inf + offset) :
    T.Metrics inf s₀ (xs ++ [x]) offset metric' where
  least := by
    intro s hs
    obtain ⟨hpr, hn, hm⟩ := hsel.branch s hs
    constructor
    · refine mem_costs_snoc.2 ⟨_, _, hn, _, (h.least _ hpr).1, ?_⟩
      omega
    intro c hc
    obtain ⟨p, b, rfl, d, hd, rfl⟩ := mem_costs_snoc.1 hc
    have hp := h.reached p ⟨d, hd⟩
    have hle := hsel.le p b hp
    have hlow := (h.least p hp).2 hd
    omega
  reached := by
    intro s hs
    obtain ⟨c, hc, hlt⟩ := hb s hs
    obtain ⟨p, b, rfl, d, hd, rfl⟩ := mem_costs_snoc.1 hc
    have hp := h.reached p ⟨d, hd⟩
    have hle := hsel.le p b hp
    have hlow := (h.least p hp).2 hd
    omega

lemma Metrics.normalise (h : T.Metrics inf s₀ xs offset metric) {m : ℕ} (hm : ∀ s, m ≤ metric s) :
    T.Metrics inf s₀ xs (offset + m) fun s => if metric s < inf then metric s - m else metric s where
  least := by grind [cases Trellis.Metrics]
  reached := by
    intro s hs
    have hlt := h.reached s hs
    rw [if_pos hlt]
    omega

/-- Where only one state has metric zero and only one branch out of it costs nothing, the branch leads to the only such
state after it. -/
lemma Selects.unique {p : σ} {b : β} (hsel : T.Selects inf x metric metric' row) (hinf : 0 < inf)
    (h : ∀ s, metric s = 0 ↔ s = p) (hb : ∀ b', T.cost x p b' = 0 ↔ b' = b) :
    (∀ s, metric' s = 0 ↔ s = T.next p b) ∧ row (T.next p b) = (p, b) := by
  have hback : ∀ s, metric' s = 0 → row s = (p, b) ∧ T.next p b = s := by
    intro s hs
    obtain ⟨-, hn, hm⟩ := hsel.branch s (hs ▸ hinf)
    have h1 : (row s).1 = p := (h _).1 (by omega)
    rw [h1] at hm hn
    have h2 : (row s).2 = b := (hb _).1 (by omega)
    exact ⟨Prod.ext h1 h2, h2 ▸ hn⟩
  have hzero : metric' (T.next p b) = 0 := by
    have hp := (h p).2 rfl
    have hle := hsel.le p b (hp ▸ hinf)
    rw [hp, (hb b).2 rfl] at hle
    exact Nat.le_zero.1 hle
  refine ⟨fun s => ⟨fun hs => (hback s hs).2.symm, ?_⟩, (hback _ hzero).1⟩
  rintro rfl
  exact hzero

end Metrics

/-! ### Tracing back -/

def trace : List (σ → σ × β) → σ → List β
  | [], _ => []
  | row :: rows, s => (row s).2 :: trace rows (row s).1

lemma length_trace (rows : List (σ → σ × β)) (s : σ) : (trace rows s).length = rows.length := by
  induction rows generalizing s with
  | nil => rfl
  | cons _ rows ih => simp [trace, ih]

lemma trace_take (k : ℕ) (rows : List (σ → σ × β)) (s : σ) :
    trace (rows.take k) s = (trace rows s).take k := by
  induction k generalizing rows s with
  | zero => rfl
  | succ k ih =>
    cases rows with
    | nil => rfl
    | cons => simp [trace, ih]

/-- **The branches that were selected are the best path.** -/
theorem Selects.optimal {T : Trellis σ β ι} {inf offset : ℕ} {s₀ s : σ} {xs : List ι} {x : ι} {metric metric' : σ → ℕ}
    {row : σ → σ × β} {rows : List (σ → σ × β)} (hsel : T.Selects inf x metric metric' row)
    (h : T.Metrics inf s₀ xs offset metric) (h' : T.Metrics inf s₀ (xs ++ [x]) offset metric')
    (hr : ∀ s, metric s < inf → T.Optimal s₀ xs s (trace rows s).reverse) (hs : metric' s < inf) :
    T.Optimal s₀ (xs ++ [x]) s (trace (row :: rows) s).reverse := by
  obtain ⟨hp, hn, hm⟩ := hsel.branch s hs
  have hopt := hr _ hp
  have hc : T.pathCost s₀ xs (trace rows (row s).1).reverse = metric (row s).1 + offset :=
    hopt.least.unique (h.least _ hp)
  have hl := h'.least s hs
  rw [trace, reverse_cons]
  rw [show metric' s + offset = metric (row s).1 + offset + T.cost x (row s).1 (row s).2 by omega, ← hc] at hl
  exact hopt.snoc hn hl

end Trellis

end OneXBts.Lib
