import Mathlib.Tactic

/-!
A window of sequence numbers over a circular buffer.

Sequence numbers count modulo `m`, the buffer has `m` slots, and the window lies between `lo` and `hi`, the residues of
unbounded numbers `N ≤ R < N + m`, so that each slot stands for one number. `sweep` is the loop that moves `lo` forward and
empties the slots it passes.
-/

namespace OneXBts.Lib

open List Function Nat

variable {α : Type} {m : ℕ}

/-! ### Residues -/

lemma mod_inj_window (ha : N ≤ a) (ha' : a < N + m) (hb : N ≤ b) (hb' : b < N + m)
    (h : a % m = b % m) : a = b := by
  have hdvd := (modEq_iff_dvd.1 h : (m : ℤ) ∣ (b : ℤ) - a)
  have hz := Int.eq_zero_of_abs_lt_dvd hdvd (by rw [abs_lt]; constructor <;> omega)
  omega

lemma mod_succ (N : ℕ) : (N % m + 1) % m = (N + 1) % m := by rw [mod_add_mod]

/-- The number of `[N, N + m)` with residue `i`. -/
def numberOf (m N i : ℕ) : ℕ := N + (i + m - N % m) % m

lemma numberOf_spec (N : ℕ) (hi : i < m) :
    N ≤ numberOf m N i ∧ numberOf m N i < N + m ∧ numberOf m N i % m = i := by
  have hm : 0 < m := by omega
  have hN := mod_lt N hm
  have hlt := mod_lt (i + m - N % m) hm
  unfold numberOf
  refine ⟨by omega, by omega, ?_⟩
  rw [add_mod_mod, ← mod_add_mod, show N % m + (i + m - N % m) = i + m by omega, add_mod_right, mod_eq_of_lt hi]

/-! ### Stretches of numbers -/

/-- The numbers from `s` on, `last` included: the loop over a range that may wrap around. -/
def seqsUpTo (m last : ℕ) : ℕ → ℕ → List ℕ
  | 0, _ => []
  | fuel + 1, s => s :: if s = last then [] else seqsUpTo m last fuel ((s + 1) % m)

def seqsFrom (m a k : ℕ) : List ℕ := (List.range k).map fun j => (a + j) % m

lemma seqsFrom_succ (a k : ℕ) : seqsFrom m a (k + 1) = seqsFrom m a k ++ [(a + k) % m] := by
  simp [seqsFrom, range_succ]

lemma seqsFrom_add (a k l : ℕ) : seqsFrom m a (k + l) = seqsFrom m a k ++ seqsFrom m (a + k) l := by
  simp [seqsFrom, range_add, Nat.add_assoc]

lemma seqsFrom_cons (a k : ℕ) : seqsFrom m a (k + 1) = a % m :: seqsFrom m (a + 1) k := by
  rw [Nat.add_comm, seqsFrom_add]
  rfl

lemma mem_seqsFrom : x ∈ seqsFrom m a k ↔ ∃ j < k, x = (a + j) % m := by simp [seqsFrom, eq_comm]

lemma seqsUpTo_eq (fuel : ℕ) : ∀ (a d : ℕ), d < fuel → fuel ≤ m →
    seqsUpTo m ((a + d) % m) fuel (a % m) = seqsFrom m a (d + 1) := by
  induction fuel with
  | zero => omega
  | succ fuel ih =>
    intro a d hd hf
    unfold seqsUpTo
    rw [seqsFrom_cons]
    cases d with
    | zero => simp [seqsFrom]
    | succ d =>
      have hne : a % m ≠ (a + (d + 1)) % m := by
        intro h
        have := mod_inj_window (N := a) (le_refl a) (by omega) (by omega) (by omega) h
        omega
      rw [if_neg hne, mod_succ, show a + (d + 1) = a + 1 + d by omega, ih (a + 1) d (by omega) (by omega)]

/-! ### The sweep -/

/-- Move forward from `lo`, emptying each slot passed, until the test says to halt. -/
def sweep (m : ℕ) (halt : ℕ → Option α → Bool) :
    ℕ → ℕ → (ℕ → Option α) → ℕ × (ℕ → Option α) × List α
  | 0, lo, buf => (lo, buf, [])
  | fuel + 1, lo, buf =>
    if halt lo (buf lo) then (lo, buf, [])
    else
      let r := sweep m halt fuel ((lo + 1) % m) (Function.update buf lo none)
      (r.1, r.2.1, (buf lo).toList ++ r.2.2)

lemma sweep_lt (halt : ℕ → Option α → Bool) (fuel : ℕ) : ∀ {lo : ℕ} (buf : ℕ → Option α),
    lo < m → (sweep m halt fuel lo buf).1 < m := by induction fuel <;> grind [mod_lt, sweep]

/-- The buffer with the slots of `[N, N + k)` emptied. -/
def cleared (m N k : ℕ) (buf : ℕ → Option α) : ℕ → Option α :=
  fun i => if ∃ j < k, i = (N + j) % m then none else buf i

lemma cleared_zero (N : ℕ) (buf : ℕ → Option α) : cleared m N 0 buf = buf := by
  funext i
  simp [cleared]

lemma cleared_update (N k : ℕ) (buf : ℕ → Option α) :
    cleared m (N + 1) k (update buf (N % m) none) = cleared m N (k + 1) buf := by
  funext i
  unfold cleared
  have hiff : (∃ j < k + 1, i = (N + j) % m) ↔ i = N % m ∨ ∃ j < k, i = (N + 1 + j) % m := by
    constructor
    · rintro ⟨j, hj, rfl⟩
      cases j <;> grind
    · rintro (rfl | ⟨j, hj, rfl⟩)
      · exact ⟨0, by omega, rfl⟩
      · exact ⟨j + 1, by omega, by rw [show N + (j + 1) = N + 1 + j by omega]⟩
  rw [if_congr hiff rfl rfl]
  by_cases h : ∃ j < k, i = (N + 1 + j) % m
  · rw [if_pos h, if_pos (Or.inr h)]
  rw [if_neg h]
  by_cases hi : i = N % m
  · rw [if_pos (Or.inl hi), hi, update_self]
  · rw [if_neg (by rintro (h' | h') <;> contradiction), update_of_ne hi]

lemma cleared_mod (buf : ℕ → Option α) (hk : k ≤ m) (h1 : N ≤ n) (h2 : n < N + m) :
    cleared m N k buf (n % m) = if n < N + k then none else buf (n % m) := by
  unfold cleared
  have hiff : (∃ j < k, n % m = (N + j) % m) ↔ n < N + k := by
    constructor
    · rintro ⟨j, hj, h⟩
      have := mod_inj_window h1 h2 (by omega) (by omega) h
      omega
    · intro h
      exact ⟨n - N, by omega, by rw [show N + (n - N) = n by omega]⟩
  rw [if_congr hiff rfl rfl]

/-- **What the loop does.** It passes the numbers of some `[N, N + k)`, none of which halts it, empties
their slots in order, and stops at a number that halts it unless it ran out of fuel. -/
theorem sweep_spec (halt : ℕ → Option α → Bool) (fuel : ℕ) : ∀ (N : ℕ) (buf : ℕ → Option α),
    fuel ≤ m → ∃ k ≤ fuel, sweep m halt fuel (N % m) buf = ((N + k) % m, cleared m N k buf,
        (range' N k).filterMap fun n => buf (n % m)) ∧
      (∀ n, N ≤ n → n < N + k → halt (n % m) (buf (n % m)) = false) ∧
      (k < fuel → halt ((N + k) % m) (buf ((N + k) % m)) = true) := by
  induction fuel with
  | zero =>
    intro N buf _
    refine ⟨0, le_refl _, ?_, by omega, by omega⟩
    simp [sweep, cleared_zero]
  | succ fuel ih =>
    intro N buf hf
    unfold sweep
    by_cases hh : halt (N % m) (buf (N % m)) = true
    · refine ⟨0, by omega, ?_, by omega, fun _ => hh⟩
      rw [if_pos hh]
      simp [cleared_zero]
    obtain ⟨k, hk, heq, hp, hs⟩ := ih (N + 1) (update buf (N % m) none) (by omega)
    -- the slot just emptied is not met again
    have hfar : ∀ n, N + 1 ≤ n → n < N + m → update buf (N % m) none (n % m) = buf (n % m) := by
      intro n h1 h2
      refine update_of_ne ?_ _ _
      intro h
      have := mod_inj_window (by omega) h2 (le_refl N) (by omega) h
      omega
    refine ⟨k + 1, by omega, ?_, ?_, ?_⟩
    · rw [if_neg hh, mod_succ, heq, cleared_update, List.range'_succ, filterMap_cons]
      have ht : ((range' (N + 1) k).filterMap fun n =>
          update buf (N % m) none (n % m)) =
          (range' (N + 1) k).filterMap fun n => buf (n % m) := by
        refine filterMap_congr ?_
        intro n hn
        rw [List.mem_range'_1] at hn
        exact hfar n (by omega) (by omega)
      rw [show N + 1 + k = N + (k + 1) by omega, ht]
      cases buf (N % m) <;> rfl
    · intro n h1 h2
      rcases Nat.eq_or_lt_of_le h1 with rfl | h1
      · simpa using hh
      · rw [← hfar n (by omega) (by omega)]
        exact hp n (by omega) (by omega)
    · intro hlt
      have := hs (by omega)
      rw [hfar _ (by omega) (by omega), show N + 1 + k = N + (k + 1) by omega] at this
      exact this

/-! ### The window -/

/-- The slots between `lo` and `hi` hold what has arrived, `missing` are the numbers that are asked
for again. `N` and `R` are the unbounded numbers behind `lo` and `hi`. -/
structure Window (m N R lo hi : ℕ) (buf : ℕ → Option α) (missing : List ℕ) : Prop where
  lo_eq : lo = N % m
  hi_eq : hi = R % m
  le : N ≤ R
  lt : R < N + m
  /-- Nothing is held outside `[N, R)`. -/
  empty : ∀ n, R ≤ n → n < N + m → buf (n % m) = none
  /-- A missing number lies in `[N, R)` and its slot is empty. -/
  missing_mem : ∀ x ∈ missing, ∃ n, N ≤ n ∧ n < R ∧ x = n % m ∧ buf x = none
  nodup : missing.Nodup

namespace Window

variable {N R lo hi : ℕ} {buf : ℕ → Option α} {missing : List ℕ}

section

variable (h : Window m N R lo hi buf missing)
include h

lemma pos : 0 < m := by
  have := h.le
  have := h.lt
  omega

lemma lo_lt : lo < m := by rw [h.lo_eq]; exact mod_lt _ h.pos

lemma hi_lt : hi < m := by rw [h.hi_eq]; exact mod_lt _ h.pos

lemma lo_eq_hi_iff : lo = hi ↔ N = R := by
  constructor
  · intro heq
    rw [h.lo_eq, h.hi_eq] at heq
    exact mod_inj_window (le_refl N) (by have := h.pos; omega) h.le h.lt heq
  · intro heq
    rw [h.lo_eq, h.hi_eq, heq]

lemma dist_eq : (hi + m - lo) % m = R - N := by
  have hlo := h.lo_lt
  have hle := h.le
  have hlt := h.lt
  have hhi : hi = (lo + (R - N)) % m := by rw [h.hi_eq, h.lo_eq, mod_add_mod, Nat.add_sub_cancel' hle]
  rcases Nat.lt_or_ge (lo + (R - N)) m with hw | hw
  · rw [hhi, mod_eq_of_lt hw, show lo + (R - N) + m - lo = R - N + m by omega,
      add_mod_right, mod_eq_of_lt (by omega)]
  · rw [hhi, mod_eq_sub_mod hw, mod_eq_of_lt (show lo + (R - N) - m < m by omega),
      show lo + (R - N) - m + m - lo = R - N by omega, mod_eq_of_lt (by omega)]

lemma missing_lt (hx : x ∈ missing) : x < m := by
  obtain ⟨n, -, -, rfl, -⟩ := h.missing_mem x hx
  exact mod_lt _ h.pos

lemma not_missing_of_some (hx : buf x ≠ none) :
    x ∉ missing := by
  intro hm
  obtain ⟨n, -, -, -, hn⟩ := h.missing_mem x hm
  exact hx hn

end

lemma missing_eq_nil (h : Window m N N lo hi buf missing) : missing = [] := by
  refine eq_nil_iff_forall_not_mem.2 ?_
  intro x hx
  obtain ⟨n, h1, h2, -⟩ := h.missing_mem x hx
  omega

lemma buf_eq_none (h : Window m N N lo hi buf missing) (hi' : i < m) : buf i = none := by
  obtain ⟨h1, h2, h3⟩ := numberOf_spec N hi'
  rw [← h3]
  exact h.empty _ h1 h2

lemma init (hm : 0 < m) (N : ℕ) : Window (α := α) m N N (N % m) (N % m) (fun _ => none) [] where
  lo_eq := rfl
  hi_eq := rfl
  le := le_refl _
  lt := by omega
  empty := fun _ _ _ => rfl
  missing_mem := by simp
  nodup := nodup_nil

lemma sublist (h : Window m N R lo hi buf missing)
    (hsub : List.Sublist missing' missing) : Window m N R lo hi buf missing' where
  __ := h
  missing_mem := fun x hx => h.missing_mem x (hsub.subset hx)
  nodup := h.nodup.sublist hsub

lemma advance (h : Window m N N lo hi buf missing) (hm : 1 < m) :
    Window m (N + 1) (N + 1) ((lo + 1) % m) ((hi + 1) % m) buf missing where
  lo_eq := by rw [h.lo_eq, mod_succ]
  hi_eq := by rw [h.hi_eq, mod_succ]
  le := le_refl _
  lt := by omega
  empty := fun n _ _ => h.buf_eq_none (mod_lt _ (by omega))
  missing_mem := by rw [h.missing_eq_nil]; simp
  nodup := h.nodup

section

variable (h : Window m N R lo hi buf missing)
include h

lemma store (off : ℕ) (hlap : R + off + 1 < N + m) (a : α) :
    Window m N (R + off + 1) lo ((R + off + 1) % m) (update buf ((R + off) % m) (some a))
      (missing ++ (List.range off).map fun j => (R + j) % m) where
  lo_eq := h.lo_eq
  hi_eq := rfl
  le := by have := h.le; omega
  lt := hlap
  empty := by
    intro n h1 h2
    have hle := h.le
    rw [update_of_ne]
    · exact h.empty n (by omega) h2
    · intro heq
      have := mod_inj_window (by omega) h2 (by omega) (by omega) heq
      omega
  missing_mem := by
    have hle := h.le
    intro x hx
    rcases mem_append.1 hx with hx | hx
    · obtain ⟨n, h1, h2, rfl, hn⟩ := h.missing_mem x hx
      refine ⟨n, h1, by omega, rfl, ?_⟩
      rw [update_of_ne, hn]
      intro heq
      have := mod_inj_window h1 (by omega) (by omega) (by omega) heq
      omega
    · obtain ⟨j, hj, rfl⟩ := mem_map.1 hx
      rw [mem_range] at hj
      refine ⟨R + j, by omega, by omega, rfl, ?_⟩
      rw [update_of_ne, h.empty _ (by omega) (by omega)]
      intro heq
      have := mod_inj_window (N := N) (by omega) (by omega) (by omega) (by omega) heq
      omega
  nodup := by
    have hle := h.le
    refine nodup_append.2 ⟨h.nodup, ?_, ?_⟩
    · refine List.Nodup.map_on ?_ nodup_range
      intro i hi j hj heq
      rw [mem_range] at hi hj
      have := mod_inj_window (N := N) (by omega) (by omega) (by omega) (by omega) heq
      omega
    · intro x hx y hy heq
      obtain ⟨n, h1, h2, rfl, -⟩ := h.missing_mem x hx
      obtain ⟨j, hj, rfl⟩ := mem_map.1 hy
      rw [mem_range] at hj
      have := mod_inj_window h1 (by omega) (by omega) (by omega) heq
      omega

lemma hold (h1 : N ≤ n) (h2 : n < R)
    (a : α) (hsub : List.Sublist missing' missing) (hx' : n % m ∉ missing') :
    Window m N R lo hi (update buf (n % m) (some a)) missing' where
  lo_eq := h.lo_eq
  hi_eq := h.hi_eq
  le := h.le
  lt := h.lt
  empty := by
    intro n' h1' h2'
    rw [update_of_ne, h.empty n' h1' h2']
    intro heq
    have := mod_inj_window (by omega) h2' h1 (by omega) heq
    omega
  missing_mem := by
    intro y hy
    obtain ⟨n, h1, h2, rfl, hn⟩ := h.missing_mem y (hsub.subset hy)
    refine ⟨n, h1, h2, rfl, ?_⟩
    rw [update_of_ne, hn]
    intro heq
    exact hx' (heq ▸ hy)
  nodup := h.nodup.sublist hsub

lemma fill (hx : x ∈ missing)
    (a : α) (hsub : List.Sublist missing' missing) (hx' : x ∉ missing') :
    Window m N R lo hi (update buf x (some a)) missing' := by
  obtain ⟨n, h1, h2, rfl, -⟩ := h.missing_mem x hx
  exact h.hold h1 h2 a hsub hx'

lemma raise (off : ℕ) (hlap : R + off < N + m) :
    Window m N (R + off) lo ((R + off) % m) buf missing where
  lo_eq := h.lo_eq
  hi_eq := rfl
  le := by have := h.le; omega
  lt := hlap
  empty := fun n h1 h2 => h.empty n (by omega) h2
  missing_mem := by
    intro x hx
    obtain ⟨n, h1, h2, rfl, hn⟩ := h.missing_mem x hx
    exact ⟨n, h1, by omega, rfl, hn⟩
  nodup := h.nodup

lemma swept (hk : N + k ≤ R)
    (hp : ∀ n, N ≤ n → n < N + k → n % m ∉ missing) :
    Window m (N + k) R ((N + k) % m) hi (cleared m N k buf) missing where
  lo_eq := rfl
  hi_eq := h.hi_eq
  le := hk
  lt := by have := h.lt; omega
  empty := by
    have hlt := h.lt
    intro n h1 h2
    by_cases hn : n < N + m
    · rw [cleared_mod buf (by omega) (by omega) hn, if_neg (by omega), h.empty n h1 hn]
    · -- past the old window: the slot is one of those just emptied
      rw [show n % m = (n - m) % m by rw [mod_eq_sub_mod (by omega)],
        cleared_mod buf (by omega) (by omega) (by omega), if_pos (by omega)]
  missing_mem := by
    have hlt := h.lt
    intro x hx
    obtain ⟨n, h1, h2, rfl, hno⟩ := h.missing_mem x hx
    have hn : N + k ≤ n := by
      by_contra hlt'
      exact hp n h1 (by omega) hx
    refine ⟨n, hn, h2, rfl, ?_⟩
    rw [cleared_mod buf (by omega) h1 (by omega), if_neg (by omega), hno]
  nodup := h.nodup

lemma cleared_rest (h1 : N + k ≤ n) (h2 : n < R)
    : cleared m N k buf (n % m) = buf (n % m) := by
  have hlt := h.lt
  rw [cleared_mod buf (by omega) (by omega) (by omega), if_neg (by omega)]

lemma sweep_held :
    ∃ k, N + k ≤ R ∧ sweep m (fun _ slot => slot.isNone) m lo buf =
        ((N + k) % m, cleared m N k buf, (range' N k).filterMap fun n => buf (n % m)) ∧
      (∀ n, N ≤ n → n < N + k → buf (n % m) ≠ none) ∧ buf ((N + k) % m) = none := by
  obtain ⟨k, hk, heq, hp, hs⟩ := sweep_spec (fun _ slot => slot.isNone) m N buf (le_refl m)
  have hle := h.le
  have hlt := h.lt
  have hkR : N + k ≤ R := by
    by_contra hgt
    have hR := hp R hle (by omega)
    rw [h.empty R (le_refl _) hlt] at hR
    simp at hR
  refine ⟨k, hkR, by rw [h.lo_eq, heq], ?_, ?_⟩
  · intro n h1 h2 hn
    have := hp n h1 h2
    rw [hn] at this
    simp at this
  · have := hs (by omega)
    simpa using this

lemma sweep_skip (halt : ℕ → Option α → Bool)
    (hh : ∀ l slot, halt l slot = true ↔ l = hi ∨ slot = none ∧ l ∈ missing) :
    ∃ k, N + k ≤ R ∧ sweep m halt m lo buf =
        ((N + k) % m, cleared m N k buf, (range' N k).filterMap fun n => buf (n % m)) ∧
      (∀ n, N ≤ n → n < N + k → n % m ∉ missing) ∧ (N + k = R ∨ (N + k) % m ∈ missing) := by
  obtain ⟨k, hk, heq, hp, hs⟩ := sweep_spec halt m N buf (le_refl m)
  have hle := h.le
  have hlt := h.lt
  have hkR : N + k ≤ R := by
    by_contra hgt
    have hR := hp R hle (by omega)
    rw [(hh _ _).2 (Or.inl h.hi_eq.symm)] at hR
    cases hR
  refine ⟨k, hkR, by rw [h.lo_eq, heq], ?_, ?_⟩
  · intro n h1 h2 hm
    have hn := hp n h1 h2
    obtain ⟨-, -, -, -, hno⟩ := h.missing_mem _ hm
    rw [(hh _ _).2 (Or.inr ⟨hno, hm⟩)] at hn
    cases hn
  · rcases (hh _ _).1 (hs (by omega)) with heq' | ⟨-, hm⟩
    · rw [h.hi_eq] at heq'
      exact .inl (mod_inj_window (by omega) (by omega) hle hlt heq')
    · exact .inr hm

end

end Window

end OneXBts.Lib
