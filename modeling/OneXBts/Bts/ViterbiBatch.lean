import OneXBts.Bts.ViterbiBlock

/-!
Batches and single symbols.

`process` and `process_batch` take the same steps through the trellis, and trimming never removes what a traceback reads
(`Follows`). They differ in what they emit: `process` traces back from the state that is best after a symbol,
`process_batch` from the one best at the end of the batch; and a batch that ends with symbol `5 K` emits no bit for it.
-/

namespace OneXBts.Bts

open Lib List Option ViterbiDecoder

namespace ViterbiDecoder

variable {K : ConstraintLength}

/-- Symbols one at a time, and the bits that are returned. -/
def processAll : ViterbiDecoder K → List (List UInt8) → Option (ViterbiDecoder K × List (Fin 2))
  | decoder, [] => some (decoder, [])
  | decoder, symbol :: symbols =>
    (decoder.process symbol).bind fun (decoder, bit) =>
      (processAll decoder symbols).map fun (decoder, bits) => (decoder, bit.toList ++ bits)

end ViterbiDecoder

section Spec

variable (K : ConstraintLength) (encoder : Encoder)

def after (symbols : List (List UInt8)) : ViterbiDecoder K :=
  symbols.foldl ViterbiDecoder.streamStep (ViterbiDecoder.new K encoder)

def bitFrom (symbols : List (List UInt8)) (state : Fin K.numStates) : Option (Fin 2) :=
  (after K encoder symbols).tb.tracebackBit state.val ((after K encoder symbols).tb.steps - 1) (5 * K.val)

def rowsOf : List (List UInt8) → List (Row K.numStates)
  | [] => []
  | symbol :: past =>
    (addCompareSelect K encoder.generators (· + ·) (after K encoder past.reverse).pathMetrics symbol).row :: rowsOf past

structure Follows (kept : ℕ) (symbols : List (List UInt8)) (decoder : ViterbiDecoder K) : Prop where
  code : decoder.generators = encoder.generators
  metrics : decoder.pathMetrics = (after K encoder symbols).pathMetrics
  depth : decoder.tb.tracebackDepth = 5 * K.val
  records : Records decoder.tb ((rowsOf K encoder symbols.reverse).take kept)

end Spec

variable {K : ConstraintLength} {encoder : Encoder}

/-! ### The rows that are kept -/

lemma length_rowsOf (past : List (List UInt8)) : (rowsOf K encoder past).length = past.length := by
  induction past with
  | nil => rfl
  | cons _ past ih => simp [rowsOf, ih]

lemma drop_rowsOf (k : ℕ) (past : List (List UInt8)) :
    (rowsOf K encoder past).drop k = rowsOf K encoder (past.drop k) := by
  induction k generalizing past with
  | zero => rfl
  | succ k ih =>
    cases past with
    | nil => rfl
    | cons _ past => exact ih past

lemma after_append (past symbols : List (List UInt8)) :
    after K encoder (past ++ symbols) = symbols.foldl streamStep (after K encoder past) :=
  foldl_append

lemma after_generators (symbols : List (List UInt8)) : (after K encoder symbols).generators = encoder.generators := by
  induction symbols using reverseRecOn with
  | nil => rfl
  | append_singleton symbols _ ih =>
    rw [after_append]
    exact ih

section Follows

variable {kept : ℕ} {past symbols : List (List UInt8)} {dec : ViterbiDecoder K}

lemma Follows.streamStep (h : Follows K encoder kept past dec) (symbol : List UInt8) :
    Follows K encoder (kept + 1) (past ++ [symbol]) (dec.streamStep symbol) := by
  have hs : addCompareSelect K dec.generators (· + ·) dec.pathMetrics symbol =
      addCompareSelect K encoder.generators (· + ·) (after K encoder past).pathMetrics symbol := by
    rw [h.code, h.metrics]
  refine ⟨h.code, ?_, h.depth, ?_⟩
  · grind [after_append, streamStep, after_generators]
  · rw [reverse_append, reverse_singleton, singleton_append, rowsOf, reverse_reverse, ← hs]
    exact h.records.recordStep _

lemma Follows.foldl (symbols : List (List UInt8)) : ∀ {kept : ℕ} {past : List (List UInt8)}
    {dec : ViterbiDecoder K}, Follows K encoder kept past dec →
    Follows K encoder (kept + symbols.length) (past ++ symbols) (symbols.foldl ViterbiDecoder.streamStep dec) := by
  induction symbols with
  | nil =>
    intro kept past dec h
    rwa [append_nil]
  | cons symbol symbols ih =>
    intro kept past dec h
    have hrest := ih (h.streamStep symbol)
    rwa [append_assoc, Nat.add_assoc, Nat.add_comm 1] at hrest

lemma follows_new (K : ConstraintLength) (encoder : Encoder) (kept : ℕ) :
    Follows K encoder kept [] (new K encoder) :=
  ⟨rfl, rfl, rfl, by rw [reverse_nil, rowsOf, take_nil]; exact records_nil _⟩

section

variable (h : Follows K encoder kept past dec)
include h

lemma Follows.trim (hk : 5 * K.val * 2 ≤ kept) :
    Follows K encoder (5 * K.val * 2) past dec.trim := by
  obtain ⟨hr, hde⟩ := h.records.trimHistory
  refine ⟨h.code, h.metrics, hde.trans h.depth, ?_⟩
  rwa [h.depth, take_take, Nat.min_eq_left hk] at hr

lemma Follows.bestState :
    dec.bestState = (after K encoder past).bestState := by
  rw [ViterbiDecoder.bestState, h.metrics]
  rfl

lemma Follows.steps : dec.tb.steps = min kept past.length := by
  rw [h.records.steps, length_take, length_rowsOf, length_reverse]

end

lemma bitFrom_eq (hlen : 5 * K.val ≤ past.length) (state : Fin K.numStates) :
    bitFrom K encoder past state = (Trellis.trace (rowsOf K encoder past.reverse) state)[5 * K.val - 1]? := by
  have hK := K.two_le
  have hf : Follows K encoder past.length past (after K encoder past) := by
    have h := (follows_new K encoder 0).foldl past
    rwa [Nat.zero_add] at h
  have hr := hf.records
  rw [take_of_length_le (by rw [length_rowsOf, length_reverse])] at hr
  have hro : (rowsOf K encoder past.reverse).length = past.length := by rw [length_rowsOf, length_reverse]
  rw [bitFrom, hr.steps, tracebackBit_eq hr state (by omega) (by omega) (by omega),
    Nat.sub_add_cancel (by omega), Nat.sub_self, drop_zero]

lemma exists_bitFrom (hlen : 5 * K.val ≤ past.length) (state : Fin K.numStates) :
    ∃ bit, bitFrom K encoder past state = some bit := by
  have hK := K.two_le
  rw [bitFrom_eq hlen, List.getElem?_eq_getElem
    (by rw [Trellis.length_trace, length_rowsOf, length_reverse]; omega)]
  exact ⟨_, rfl⟩

/-- **The rows that are kept are enough.** A traceback from a row on is that of the decoder that has seen no more. -/
theorem Follows.tracebackBit (h : Follows K encoder kept past dec) (state : Fin K.numStates)
    (hde : 5 * K.val ≤ step + 1) (hs : step < dec.tb.steps) :
    dec.tb.tracebackBit state.val step (5 * K.val) =
      bitFrom K encoder (past.take (past.length - (dec.tb.steps - (step + 1)))) state := by
  have hK := K.two_le
  have hst := h.steps
  rw [bitFrom_eq (by rw [length_take]; omega), ← drop_reverse, ← drop_rowsOf,
    tracebackBit_eq h.records state (by omega) hde (by rw [← h.records.steps]; exact hs), ← h.records.steps,
    drop_take, Trellis.trace_take, List.getElem?_take_of_lt (by omega)]

end Follows

/-! ### What is emitted -/

section Emitted

variable {past batch symbols : List (List UInt8)} {dec : ViterbiDecoder K}

def emitted (K : ConstraintLength) (start upTo : ℕ) : List ℕ :=
  List.range' (max (start + 1) (5 * K.val)) (upTo + 1 - max (start + 1) (5 * K.val))

lemma emitted_self (start : ℕ) : emitted K start start = [] := by
  rw [emitted, Nat.sub_eq_zero_of_le (Nat.le_max_left _ _)]
  rfl

lemma emitted_succ (hlt : start < upTo) :
    emitted K start upTo = (if 5 * K.val ≤ start + 1 then [start + 1] else []) ++ emitted K (start + 1) upTo := by
  unfold emitted
  split_ifs with hde
  · rw [Nat.max_eq_left hde, Nat.max_eq_left (by omega), singleton_append,
      show upTo + 1 - (start + 1) = upTo + 1 - (start + 1 + 1) + 1 by omega, List.range'_succ]
  grind

def bitOf (K : ConstraintLength) (encoder : Encoder) (symbols : List (List UInt8)) (state : Fin K.numStates) : Fin 2 :=
  (bitFrom K encoder symbols state).getD ⟨0, Nat.zero_lt_two⟩

lemma bitFrom_eq_some (hlen : 5 * K.val ≤ symbols.length) (state : Fin K.numStates) :
    bitFrom K encoder symbols state = some (bitOf K encoder symbols state) := by
  obtain ⟨bit, hbit⟩ := exists_bitFrom hlen state
  rw [bitOf, hbit]
  rfl

def streamBits (K : ConstraintLength) (encoder : Encoder) (past symbols : List (List UInt8)) : List (Fin 2) :=
  (emitted K past.length (past ++ symbols).length).map fun j =>
    bitOf K encoder ((past ++ symbols).take j) (after K encoder ((past ++ symbols).take j)).bestState

lemma process_eq (h : Follows K encoder (5 * K.val * 2) past dec) (hb : IsBits symbol) :
    ∃ decoder', Follows K encoder (5 * K.val * 2) (past ++ [symbol]) decoder' ∧
      dec.process symbol = some (decoder', if 5 * K.val ≤ past.length + 1 then
        some (bitOf K encoder (past ++ [symbol]) (after K encoder (past ++ [symbol])).bestState) else none) := by
  have hK := K.two_le
  have hh : symbol.all (· ≤ 1) = true := by
    refine all_eq_true.2 fun bit hbit => ?_
    rcases hb bit hbit with rfl | rfl <;> rfl
  have hf := (h.streamStep symbol).trim (Nat.le_succ _)
  have hs := hf.steps
  rw [length_append, length_singleton] at hs
  refine ⟨_, hf, ?_⟩
  unfold process
  rw [if_pos hh]
  dsimp only
  rw [hf.depth]
  by_cases hlen : 5 * K.val ≤ past.length + 1
  · rw [if_pos hlen, if_pos (by omega), hf.tracebackBit _ (by omega) (by omega), hf.bestState,
      Nat.sub_add_cancel (by omega), Nat.sub_self, Nat.sub_zero, take_length,
      bitFrom_eq_some (by rwa [length_append])]
    rfl
  · rw [if_neg hlen, if_neg (by omega)]

lemma streamBits_cons (past symbols : List (List UInt8)) (symbol : List UInt8) :
    streamBits K encoder past (symbol :: symbols) = (if 5 * K.val ≤ past.length + 1 then
        some (bitOf K encoder (past ++ [symbol]) (after K encoder (past ++ [symbol])).bestState) else none).toList ++
      streamBits K encoder (past ++ [symbol]) symbols := by
  have hs : past ++ symbol :: symbols = (past ++ [symbol]) ++ symbols := by simp
  have hf : (past ++ symbol :: symbols).take (past.length + 1) = past ++ [symbol] := by
    rw [hs]
    exact take_left' (by simp)
  have hlen : (past ++ [symbol]).length = past.length + 1 := by simp
  unfold streamBits
  rw [emitted_succ (by simp), map_append, ← hs, hlen]
  split_ifs
  · rw [map_singleton, hf]
    rfl
  · rfl

lemma processAll_eq (symbols : List (List UInt8)) : ∀ {past : List (List UInt8)} {dec : ViterbiDecoder K},
    Follows K encoder (5 * K.val * 2) past dec → (∀ symbol ∈ symbols, IsBits symbol) →
    ∃ decoder', Follows K encoder (5 * K.val * 2) (past ++ symbols) decoder' ∧
      dec.processAll symbols = some (decoder', streamBits K encoder past symbols) := by
  induction symbols with
  | nil =>
    intro past dec h _
    refine ⟨dec, by rwa [append_nil], ?_⟩
    rw [streamBits, append_nil, emitted_self]
    rfl
  | cons symbol =>
    intro past dec h hb
    obtain ⟨decoder1, h1, hp⟩ := process_eq h (hb symbol mem_cons_self)
    grind [processAll, streamBits_cons]

end Emitted

end OneXBts.Bts
