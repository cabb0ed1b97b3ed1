import OneXBts.Bts.ViterbiBatch

/-!
Streaming without errors.

On the symbols of the encoder one state has metric zero, that of the encoder, because the two branches out of a state have
different symbols (`Separates`). The best state is that one and its trace is the message, so `process` returns the message up to
the depth of the traceback, and `finish` the rest.
-/

namespace OneXBts.Bts

open Lib List ViterbiDecoder

/-- The two branches out of a state can be told apart. -/
def Separates (K : ConstraintLength) (gens : List (BitVec 32)) : Prop :=
  ∀ state : Fin K.numStates, K.branchOut gens state (Fin.last 1).rev ≠ K.branchOut gens state (Fin.last 1)

variable {K : ConstraintLength} {gens : List (BitVec 32)}

lemma branchHamming_eq_zero {a : List UInt8} : ∀ {b : List UInt8}, a.length = b.length → (branchHamming a b = 0 ↔ a = b) := by
  induction a with
  | nil =>
    intro b h
    rw [length_eq_zero_iff.1 h.symm]
    exact ⟨fun _ => rfl, fun _ => rfl⟩
  | cons x a ih =>
    intro b h
    cases b with
    | nil => cases h
    | cons y =>
      have hx : (x ^^^ y).toNat = 0 ↔ x = y := by rw [← UInt8.toNat_zero, UInt8.toNat_inj, UInt8.xor_eq_zero_iff]
      have := ih (Nat.succ.inj h)
      simp only [branchHamming, zipWith_cons_cons, sum_cons, Nat.add_eq_zero_iff, List.cons.injEq] at this ⊢
      rw [hx, this]

lemma cost_eq_zero (hsep : Separates K gens) (state : Fin K.numStates) (b b' : Fin 2) :
    (trellis K gens).cost (K.branchOut gens state b) state b' = 0 ↔ b' = b := by
  refine (branchHamming_eq_zero (by simp [ConstraintLength.branchOut, encodeFromWindow])).trans ⟨fun h => ?_, fun h => by rw [h]⟩
  have := hsep state
  fin_cases b <;> fin_cases b' <;> simp_all

/-! ### The symbols of a message -/

lemma encodeAll_append (values more : List UInt8) : ∀ enc : Encoder, enc.encodeAll K.val (values ++ more) =
    (((enc.encodeAll K.val values).1.encodeAll K.val more).1,
      (enc.encodeAll K.val values).2 ++ ((enc.encodeAll K.val values).1.encodeAll K.val more).2) := by
  induction values with
  | nil => exact fun _ => rfl
  | cons value values ih => simp [Encoder.encodeAll, ih]

lemma encodeAll_spec (values : List UInt8) : ∀ enc : Encoder, (enc.encodeAll K.val values).1.generators = enc.generators ∧
    (enc.encodeAll K.val values).2.length = values.length ∧ ∀ symbol ∈ (enc.encodeAll K.val values).2, IsBits symbol := by
  induction values with
  | nil => exact fun _ => ⟨rfl, rfl, fun _ h => absurd h not_mem_nil⟩
  | cons value values ih =>
    intro enc
    obtain ⟨hg, hlen, hbits⟩ := ih (enc.encode K.val value).1
    exact ⟨hg, congrArg (· + 1) hlen, forall_mem_cons.2 ⟨isBits_encodeFromWindow _ _, hbits⟩⟩

lemma length_encoded (bits : List (Fin 2)) : (encoded K gens bits).2.length = bits.length :=
  (encodeAll_spec _ _).2.1.trans (length_map _)

lemma encoded_snoc (bits : List (Fin 2)) (b : Fin 2) : (encoded K gens (bits ++ [b])).2 =
    (encoded K gens bits).2 ++ [K.branchOut gens ((trellis K gens).final 0 bits) b] := by
  have hst : (encoded K gens bits).1.window.toNat >>> 1 = ((trellis K gens).final 0 bits).val :=
    (encoded_eq (fun _ h => absurd h not_mem_nil) bits).1
  have hout := (encode_eq hst b).1
  rw [show (encoded K gens bits).1.generators = gens from (encodeAll_spec _ _).1] at hout
  unfold encoded toValues
  rw [map_append, encodeAll_append, ← hout]
  rfl

lemma encoded_take {bits : List (Fin 2)} (hj : j ≤ bits.length) :
    (encoded K gens bits).2.take j = (encoded K gens (bits.take j)).2 := by
  have hlen : (encoded K gens (bits.take j)).2.length = j := by rw [length_encoded, length_take, Nat.min_eq_left hj]
  conv_lhs => rw [← take_append_drop j bits]
  unfold encoded toValues at *
  rw [map_append, encodeAll_append]
  exact take_left' hlen

/-! ### The state without errors -/

lemma bestState_eq {dec : ViterbiDecoder K} (h : ∀ s, dec.pathMetrics.get s = 0 ↔ s = state) :
    dec.bestState = state := by
  unfold bestState
  cases hm : (finRange K.numStates).argmin fun s => dec.pathMetrics[s] with
  | none => exact absurd (argmin_eq_none.1 hm) (ne_nil_of_mem (mem_finRange 0))
  | some m =>
    have hle : dec.pathMetrics.get m ≤ dec.pathMetrics.get state := le_of_mem_argmin (mem_finRange state) hm
    rw [(h state).2 rfl] at hle
    exact (h m).1 (Nat.le_zero.1 hle)

lemma streamStep_branchOut {dec : ViterbiDecoder K} (hsep : Separates K dec.generators)
    (h : ∀ s, dec.pathMetrics.get s = 0 ↔ s = state) (b : Fin 2) :
    (∀ s, (dec.streamStep (K.branchOut dec.generators state b)).pathMetrics.get s = 0 ↔ s = K.branchNext state b) ∧
    (addCompareSelect K dec.generators (· + ·) dec.pathMetrics (K.branchOut dec.generators state b)).row
      (K.branchNext state b) = (state, b) := by
  unfold streamStep
  dsimp only
  have hsel : (trellis K dec.generators).Selects infMetric (K.branchOut dec.generators state b) _ _ _ :=
    selects_addCompareSelect fun s b' _ => show dec.pathMetrics.get s + _ = _ from rfl
  generalize addCompareSelect K dec.generators (· + ·) dec.pathMetrics (K.branchOut dec.generators state b) = sel
    at hsel
  obtain ⟨hm, hrow⟩ := hsel.unique (by decide) h (cost_eq_zero hsep state b)
  have hmin := (min_spec sel.nextMetrics 0).1 ((trellis K dec.generators).next state b)
  rw [(hm _).2 rfl] at hmin
  rw [if_neg (by omega)]
  exact ⟨hm, hrow⟩

/-- **On the symbols of a message the state of the encoder is the only best one, and its trace is the message.** -/
theorem after_encoded (hsep : Separates K gens) (bits : List (Fin 2)) :
    (∀ state, (after K { generators := gens } (encoded K gens bits).2).pathMetrics.get state = 0 ↔
      state = (trellis K gens).final 0 bits) ∧
    Trellis.trace (rowsOf K { generators := gens } (encoded K gens bits).2.reverse) ((trellis K gens).final 0 bits) =
      bits.reverse := by
  induction bits using reverseRecOn with
  | nil =>
    refine ⟨fun state => ?_, rfl⟩
    change (initialMetrics K).get state = 0 ↔ state = 0
    rw [get_initialMetrics]
    split_ifs with h
    · exact ⟨fun _ => h, fun _ => rfl⟩
    · exact ⟨fun h0 => absurd h0 (by decide), fun h0 => absurd h0 h⟩
  | append_singleton bits b ih =>
    have hg : (after K { generators := gens } (encoded K gens bits).2).generators = gens := after_generators _
    obtain ⟨hm, hrow⟩ := streamStep_branchOut (by rwa [hg]) ih.1 b
    rw [hg] at hm hrow
    rw [encoded_snoc, Trellis.final_append, after_append, reverse_append, reverse_append, reverse_singleton,
      reverse_singleton, singleton_append, singleton_append, rowsOf, reverse_reverse]
    refine ⟨hm, ?_⟩
    change (Selection.row _ (K.branchNext _ b)).2 :: Trellis.trace _ (Selection.row _ (K.branchNext _ b)).1 = _
    rw [hrow, ih.2]

lemma bitOf_encoded (hsep : Separates K gens) (hj : j ≤ bits.length) (hde : 5 * K.val ≤ j) :
    bitOf K { generators := gens } ((encoded K gens bits).2.take j)
      (after K { generators := gens } ((encoded K gens bits).2.take j)).bestState = bits.getD (j - 5 * K.val) 0 := by
  have hK := K.two_le
  rw [encoded_take hj]
  obtain ⟨hm, htrace⟩ := after_encoded hsep (bits.take j)
  have hlen : (bits.take j).length = j := by rw [length_take, Nat.min_eq_left hj]
  rw [bestState_eq hm, bitOf, bitFrom_eq (by rw [length_encoded, hlen]; exact hde), htrace,
    List.getElem?_reverse (by omega), hlen, List.getElem?_take_of_lt (by omega),
    show j - 1 - (5 * K.val - 1) = j - 5 * K.val by omega]
  rfl

/-- The symbols are decoded as they come, and the last ones at the end. -/
def StreamExact (K : ConstraintLength) (encoder : Encoder) : Prop :=
  ∀ bits : List (Fin 2), ∃ decoder streamed rest,
    (ViterbiDecoder.new K encoder).processAll (encoder.encodeAll K.val (toValues bits)).2 = some (decoder, streamed) ∧
    decoder.finish = some rest ∧ streamed ++ rest = bits

lemma streamBits_encoded (hsep : Separates K gens) (bits : List (Fin 2)) :
    streamBits K { generators := gens } [] (encoded K gens bits).2 = bits.take (bits.length + 1 - 5 * K.val) := by
  have hK := K.two_le
  unfold streamBits emitted
  rw [nil_append, length_encoded, length_nil, Nat.max_eq_right (by omega)]
  refine ext_getElem (by simp; omega) fun i hi hi' => ?_
  rw [length_take] at hi'
  rw [getElem_map, getElem_range', Nat.one_mul, bitOf_encoded hsep (by omega) (by omega), Nat.add_sub_cancel_left,
    getElem_take, List.getD_eq_getElem?_getD, List.getElem?_eq_getElem (by omega)]
  rfl

lemma finish_encoded (hsep : Separates K gens) {bits : List (Fin 2)} {dec : ViterbiDecoder K}
    (h : Follows K { generators := gens } (5 * K.val * 2) (encoded K gens bits).2 dec) :
    dec.finish = some (bits.drop (bits.length + 1 - 5 * K.val)) := by
  have hK := K.two_le
  have hs := h.steps
  rw [length_encoded] at hs
  obtain ⟨hm, htrace⟩ := after_encoded hsep bits
  rw [finish, finish_eq h.records, h.bestState, bestState_eq hm, Trellis.trace_take, htrace, take_take,
    h.depth, reverse_take, reverse_reverse, length_reverse]
  congr 2
  omega

lemma streamExact_of_separates (hsep : Separates K gens) : StreamExact K { generators := gens } := by
  intro bits
  obtain ⟨dec, hf, hall⟩ := processAll_eq (encoded K gens bits).2 (follows_new K { generators := gens } (5 * K.val * 2))
    (encodeAll_spec _ _).2.2
  rw [streamBits_encoded hsep] at hall
  exact ⟨dec, _, _, hall, finish_encoded hsep hf, take_append_drop _ _⟩

def lengthNine : ConstraintLength := ⟨9, by decide, by decide⟩

/-- **Streaming is exact without errors**, for the codes of constraint length 9. -/
theorem stream_exact :
    StreamExact lengthNine get12K9Encoder ∧ StreamExact lengthNine get13K9Encoder ∧ StreamExact lengthNine get14K9Encoder := by
  refine ⟨streamExact_of_separates ?_, streamExact_of_separates ?_, streamExact_of_separates ?_⟩
  all_goals
    unfold Separates
    decide +kernel

end OneXBts.Bts
