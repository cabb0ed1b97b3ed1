import OneXBts.Bts.ViterbiTrace

/-!
Block decoding is maximum likelihood.

Add-compare-select selects the best branches (`selects_addCompareSelect`), so the metrics stay the least distances
(`decoded_step`). No path to a state is taken for infinite, since a state is reached from any other one with `K - 1` bits;
with symbols of more than `INF_METRIC / (K - 1)` bits one is.
-/

namespace OneXBts.Bts

open Lib ViterbiDecoder
open List (mem_map mem_cons_self replicate)

def trellis (K : ConstraintLength) (generators : List (BitVec 32)) :
    Trellis (Fin K.numStates) (Fin 2) (List UInt8) where
  next := K.branchNext
  cost input state inputBit := branchHamming (K.branchOut generators state inputBit) input

def differences (a b : List UInt8) : ℕ := (a.zip b).countP fun e => e.1 ≠ e.2

def hammingDistance (symbols received : List (List UInt8)) : ℕ := (List.zipWith differences symbols received).sum

def toValues (bits : List (Fin 2)) : List UInt8 := bits.map fun bit => UInt8.ofNat bit.val

def encoded (K : ConstraintLength) (generators : List (BitVec 32)) (bits : List (Fin 2)) :
    Encoder × List (List UInt8) :=
  Encoder.encodeAll K.val { generators := generators } (toValues bits)

/-! ### The code -/

section Code

variable {K : ConstraintLength} {gens : List (BitVec 32)}

lemma isBits_encodeFromWindow (window : BitVec 32) (gens : List (BitVec 32)) :
    IsBits (encodeFromWindow window gens) := by
  intro bit hbit
  obtain ⟨generator, -, rfl⟩ := mem_map.1 hbit
  rcases Nat.mod_two_eq_zero_or_one (countOnes (window &&& generator)) with h | h
  · exact .inl (by rw [h]; rfl)
  · exact .inr (by rw [h]; rfl)

lemma branchHamming_eq (ha : IsBits a) (hb : IsBits b) :
    branchHamming a b = differences a b := by
  induction a generalizing b with
  | nil => rfl
  | cons x a ih =>
    cases b with
    | nil => rfl
    | cons y =>
      have hrest := ih (fun z hz => ha z (List.mem_cons_of_mem _ hz)) (fun z hz => hb z (List.mem_cons_of_mem _ hz))
      unfold branchHamming differences at hrest ⊢
      rw [List.zipWith_cons_cons, List.sum_cons, hrest, List.zip_cons_cons, List.countP_cons, Nat.add_comm]
      rcases ha x mem_cons_self with rfl | rfl <;> rcases hb y mem_cons_self with rfl | rfl <;> rfl

lemma cost_le (hin : IsBits input) (state : Fin K.numStates) (inputBit : Fin 2) :
    (trellis K gens).cost input state inputBit ≤ gens.length := by
  have hb := isBits_encodeFromWindow
    (BitVec.ofNat 32 state.val ||| (BitVec.ofNat 32 inputBit.val <<< (K.val - 1))) gens
  refine (branchHamming_eq hb hin).trans_le (List.countP_le_length.trans ?_)
  rw [List.length_zip, encodeFromWindow, List.length_map]
  exact Nat.min_le_left _ _

lemma branchNext_val (state : Fin K.numStates) (inputBit : Fin 2) :
    (K.branchNext state inputBit).val = state.val / 2 + inputBit.val * 2 ^ (K.val - 2) := by
  have hK := K.two_le
  have hs := state.isLt.trans_eq K.numStates_eq
  have hh : state.val / 2 < 2 ^ (K.val - 2) := by
    rw [show K.val - 1 = K.val - 2 + 1 by omega] at hs
    omega
  change state.val >>> 1 ||| inputBit.val <<< (K.val - 2) = _
  rw [Nat.shiftRight_one, Nat.or_comm, ← Nat.shiftLeft_add_eq_or_of_lt hh, Nat.shiftLeft_eq, Nat.add_comm]

lemma exists_bits_top (gens : List (BitVec 32)) (j : ℕ) (hj : j ≤ K.val - 1) : ∀ u < 2 ^ j, ∃ bits : List (Fin 2), bits.length = j ∧
    ∀ state, ((trellis K gens).final state bits).val / 2 ^ (K.val - 1 - j) = u := by
  induction j with
  | zero =>
    intro u hu
    refine ⟨[], rfl, fun state => ?_⟩
    have hs := state.isLt.trans_eq K.numStates_eq
    rw [Nat.sub_zero]
    change state.val / _ = u
    rw [Nat.div_eq_of_lt hs]
    omega
  | succ j ih =>
    intro u hu
    obtain ⟨bits, hlen, htop⟩ := ih (by omega) (u % 2 ^ j) (Nat.mod_lt _ (Nat.two_pow_pos _))
    have hbit : u / 2 ^ j < 2 := Nat.div_lt_of_lt_mul (by rwa [← Nat.pow_succ])
    refine ⟨bits ++ [⟨u / 2 ^ j, hbit⟩], by simp [hlen], fun state => ?_⟩
    rw [Trellis.final_append]
    change (K.branchNext ((trellis K gens).final state bits) ⟨u / 2 ^ j, hbit⟩).val / _ = u
    have hsp : 2 ^ (K.val - 2) = 2 ^ j * 2 ^ (K.val - 1 - (j + 1)) := by
      rw [← Nat.pow_add]
      congr 1
      omega
    have hh : 2 ^ (K.val - 1 - j) = 2 * 2 ^ (K.val - 1 - (j + 1)) := by
      rw [← Nat.pow_succ']
      congr 1
      omega
    have hb := htop state
    rw [hh, ← Nat.div_div_eq_div_mul] at hb
    rw [branchNext_val, hsp, ← Nat.mul_assoc, Nat.add_mul_div_right _ _ (Nat.two_pow_pos _), hb, Nat.add_comm]
    exact Nat.div_add_mod' u (2 ^ j)

lemma exists_bits_final (state state' : Fin K.numStates) :
    ∃ bits, bits.length = K.val - 1 ∧ (trellis K gens).final state bits = state' := by
  obtain ⟨bits, hlen, htop⟩ :=
    exists_bits_top gens (K.val - 1) le_rfl state'.val (state'.isLt.trans_eq K.numStates_eq)
  grind

end Code

/-! ### The encoder on the trellis -/

section Encoder

variable {K : ConstraintLength}

lemma encode_eq {enc : Encoder} {state : Fin K.numStates} (hst : enc.window.toNat >>> 1 = state.val)
    (bit : Fin 2) :
    (enc.encode K.val (UInt8.ofNat bit.val)).2 = K.branchOut enc.generators state bit ∧
    (enc.encode K.val (UInt8.ofNat bit.val)).1.generators = enc.generators ∧
    (enc.encode K.val (UInt8.ofNat bit.val)).1.window.toNat >>> 1 = (K.branchNext state bit).val := by
  have hK := K.two_le
  have hK' := K.le_sixteen
  have hlt := state.isLt.trans_eq K.numStates_eq
  have hpow : 2 ^ (K.val - 1) < 2 ^ 32 := Nat.pow_lt_pow_right (by omega) (by omega)
  have hs : enc.window >>> 1 = BitVec.ofNat 32 state.val := by grind [BitVec.toNat_ushiftRight]
  have hm : BitVec.ofNat 32 state.val &&& ((1#32 <<< (K.val - 1)) - 1#32) = BitVec.ofNat 32 state.val := by
    have ho : ∀ k < 16, ((1#32 <<< k) - 1#32).toNat = 2 ^ k - 1 := by decide
    grind [BitVec.eq_of_toNat_eq, BitVec.toNat_and, Nat.and_two_pow_sub_one_eq_mod, Nat.mod_eq_of_lt]
  have hv : (UInt8.ofNat bit.val).toBitVec.setWidth 32 = BitVec.ofNat 32 bit.val := by fin_cases bit <;> rfl
  have hw : (enc.encode K.val (UInt8.ofNat bit.val)).1.window =
      BitVec.ofNat 32 state.val ||| (BitVec.ofNat 32 bit.val <<< (K.val - 1)) := by rw [Encoder.encode, hs, hm, hv]
  refine ⟨?_, rfl, ?_⟩
  · rw [ConstraintLength.branchOut, ← hw]
    rfl
  have hbit : bit.val <<< (K.val - 1) = 2 * (bit.val <<< (K.val - 2)) := by
    rw [Nat.shiftLeft_eq, Nat.shiftLeft_eq, show K.val - 1 = K.val - 2 + 1 by omega]
    ring
  have hf : bit.val <<< (K.val - 1) < 2 ^ 32 := by
    have hle : bit.val * 2 ^ (K.val - 1) ≤ 1 * 2 ^ (K.val - 1) := Nat.mul_le_mul_right _ (by omega)
    omega
  rw [hw, BitVec.toNat_or, BitVec.toNat_shiftLeft, BitVec.toNat_ofNat, BitVec.toNat_ofNat,
    Nat.mod_eq_of_lt (by omega : state.val < 2 ^ 32), Nat.mod_eq_of_lt (by omega : bit.val < 2 ^ 32),
    Nat.mod_eq_of_lt hf, Nat.shiftRight_or_distrib, hbit, Nat.shiftRight_one, Nat.shiftRight_one,
    Nat.mul_div_cancel_left _ Nat.two_pos]
  rfl

lemma encodeAll_eq {received : List (List UInt8)} (hr : ∀ symbol ∈ received, IsBits symbol)
    (bits : List (Fin 2)) : ∀ {enc : Encoder} {state : Fin K.numStates},
    enc.window.toNat >>> 1 = state.val →
    (enc.encodeAll K.val (toValues bits)).1.window.toNat >>> 1 = ((trellis K enc.generators).final state bits).val ∧
    hammingDistance (enc.encodeAll K.val (toValues bits)).2 received =
      (trellis K enc.generators).pathCost state received bits := by
  induction bits generalizing received with
  | nil =>
    intro enc state hst
    exact ⟨hst, by cases received <;> rfl⟩
  | cons bit bits ih =>
    intro enc state hst
    obtain ⟨hout, hg, hn⟩ := encode_eq hst bit
    cases received with
    | nil =>
      obtain ⟨hf, -⟩ := ih hr hn
      exact ⟨hf, rfl⟩
    | cons symbol =>
      obtain ⟨hf, hdi⟩ := ih (fun s hs => hr s (List.mem_cons_of_mem _ hs)) hn
      refine ⟨hf, ?_⟩
      have hc : differences (enc.encode K.val (UInt8.ofNat bit.val)).2 symbol =
          (trellis K enc.generators).cost symbol state bit := by
        rw [hout]
        exact (branchHamming_eq (isBits_encodeFromWindow _ _) (hr symbol mem_cons_self)).symm
      exact congrArg₂ (· + ·) hc hdi

lemma encoded_eq (hr : ∀ symbol ∈ received, IsBits symbol) (bits : List (Fin 2)) :
    (encoded K gens bits).1.window.toNat >>> 1 = ((trellis K gens).final 0 bits).val ∧
    hammingDistance (encoded K gens bits).2 received = (trellis K gens).pathCost 0 received bits :=
  encodeAll_eq hr bits (show (0#32).toNat >>> 1 = (0 : Fin K.numStates).val from rfl)

end Encoder

/-! ### Add, compare and select -/

section Select

variable {K : ConstraintLength} {gens : List (BitVec 32)} {add : ℕ → ℕ → ℕ} {ms : Vector ℕ K.numStates}
  {input : List UInt8}

lemma mem_offers :
    o ∈ offers K gens add ms input ↔ ∃ state inputBit, ms.get state < infMetric ∧
      o = ⟨K.branchNext state inputBit, add (ms.get state) ((trellis K gens).cost input state inputBit),
        (state, inputBit)⟩ := by
  unfold offers
  rw [List.mem_flatMap]
  constructor
  · rintro ⟨state, -, ho⟩
    split_ifs at ho with hinf
    · cases ho
    · obtain ⟨inputBit, -, rfl⟩ := mem_map.1 ho
      exact ⟨state, inputBit, not_le.1 hinf, rfl⟩
  grind [trellis]

/-- **Add-compare-select selects the best branches.** -/
theorem selects_addCompareSelect (hadd : ∀ (state : Fin K.numStates) inputBit, ms.get state < infMetric →
      add (ms.get state) ((trellis K gens).cost input state inputBit) =
        ms.get state + (trellis K gens).cost input state inputBit) :
    (trellis K gens).Selects infMetric input (fun state => ms.get state)
      (fun state => (addCompareSelect K gens add ms input).nextMetrics.get state)
      (addCompareSelect K gens add ms input).row := by
  have hv := view_addCompareSelect K gens add ms input
  generalize addCompareSelect K gens add ms input = sel at hv
  have he : ∀ state, (sel.nextMetrics.get state, sel.row state) =
      (offers K gens add ms input).foldl offer (fun _ => (infMetric, (0, 0))) state := by
    intro state
    rw [← hv]
    rfl
  constructor
  · intro state hs
    obtain ⟨hf, -, -⟩ := foldl_offer (offers K gens add ms input) (fun _ => (infMetric, (0, 0))) state
    rw [← he] at hf
    rcases hf with hn | ⟨o, ho, ht, -, hva⟩
    · grind
    obtain ⟨prevState, inputBit, hlt, rfl⟩ := mem_offers.1 ho
    obtain ⟨hm, hrow⟩ := Prod.mk.inj hva
    rw [hrow]
    exact ⟨hlt, ht, hm.trans (hadd prevState inputBit hlt)⟩
  · intro state inputBit hlt
    obtain ⟨-, -, hall⟩ := foldl_offer (offers K gens add ms input) (fun _ => (infMetric, (0, 0)))
      (K.branchNext state inputBit)
    have hle := hall _ (mem_offers.2 ⟨state, inputBit, hlt, rfl⟩) rfl
    rw [← he] at hle
    exact hle.trans_eq (hadd state inputBit hlt)

end Select

/-! ### The block -/

section Block

variable {n : ℕ}

lemma min_spec [NeZero n] (ms : Vector ℕ n) (default : ℕ) :
    (∀ state : Fin n, ms.toList.min?.getD default ≤ ms.get state) ∧
      ∃ state : Fin n, ms.get state = ms.toList.min?.getD default := by
  rw [toList_eq_map_get]
  have hne : (List.finRange n).map ms.get ≠ [] := by
    intro h
    have hlen := congrArg List.length h
    simp [NeZero.ne n] at hlen
  cases hmin : ((List.finRange n).map ms.get).min? with
  | none => exact absurd (List.min?_eq_none_iff.1 hmin) hne
  | some =>
    obtain ⟨hmem, hle⟩ := List.min?_eq_some_iff.1 hmin
    obtain ⟨state, -, hs⟩ := mem_map.1 hmem
    exact ⟨fun state => hle _ (mem_map.2 ⟨state, List.mem_finRange state, rfl⟩), state, hs⟩

lemma get_normalise (ms : Vector ℕ n) (least : ℕ) (state : Fin n) :
    (normalise ms least).get state = if ms.get state < infMetric then ms.get state - least else ms.get state := by
  simp [normalise, get_eq_getElem]

variable {K : ConstraintLength} {gens : List (BitVec 32)} {inputs : List (List UInt8)}
  {dec : ViterbiDecoder K}

/-- What the decoder knows of the symbols so far: the metrics, the least of which is 0, and the best paths. -/
structure Decoded (generators : List (BitVec 32)) (inputs : List (List UInt8)) (decoder : ViterbiDecoder K)
    (offset : ℕ) (rows : List (Row K.numStates)) : Prop where
  code : decoder.generators = generators
  metrics : (trellis K generators).Metrics infMetric 0 inputs offset fun state => decoder.pathMetrics.get state
  least : ∃ state : Fin K.numStates, decoder.pathMetrics.get state = 0
  optimal : ∀ state : Fin K.numStates, decoder.pathMetrics.get state < infMetric →
    (trellis K generators).Optimal 0 inputs state (Trellis.trace rows state).reverse
  records : Records decoder.tb rows

lemma decoded_step (h : Decoded gens inputs dec offset rows)
    (hbo : gens.length * (K.val - 1) < infMetric) (input : List UInt8)
    (hbi : ∀ symbol ∈ inputs ++ [input], IsBits symbol) :
    ∃ offset' row, Decoded gens (inputs ++ [input]) (dec.blockStep input) offset' (row :: rows) := by
  have hK := K.two_le
  have hco : ∀ symbol ∈ inputs ++ [input], ∀ state inputBit,
      (trellis K gens).cost symbol state inputBit ≤ gens.length :=
    fun symbol hsy => cost_le (hbi symbol hsy)
  have hg : gens.length < infMetric := by
    have hle := Nat.mul_le_mul_left gens.length (show 1 ≤ K.val - 1 by omega)
    omega
  have hinf : infMetric + infMetric ≤ 2 ^ 32 - 1 := by decide
  -- no candidate saturates
  have hadd : ∀ (state : Fin K.numStates) inputBit, dec.pathMetrics.get state < infMetric →
      saturatingAdd (dec.pathMetrics.get state) ((trellis K gens).cost input state inputBit) =
        dec.pathMetrics.get state + (trellis K gens).cost input state inputBit := by grind [saturatingAdd]
  have hsel := selects_addCompareSelect hadd
  unfold blockStep
  rw [h.code]
  generalize addCompareSelect K gens saturatingAdd dec.pathMetrics input = sel at hsel
  dsimp only
  obtain ⟨best, hb⟩ := h.least
  have hbe : offset ∈ (trellis K gens).costs 0 inputs best := by
    have hmem := (h.metrics.least best (by rw [hb]; decide)).1
    rwa [hb, Nat.zero_add] at hmem
  -- every state that has a path has one below `INF_METRIC`
  have hm := h.metrics.select hsel fun state hs => by
    obtain ⟨c, hc, hle⟩ := Trellis.exists_cost_le (by omega) exists_bits_final hco hbe hs
    refine ⟨c, hc, ?_⟩
    rw [Nat.mul_comm] at hbo
    omega
  obtain ⟨hl, least, hlea⟩ := min_spec sel.nextMetrics infMetric
  generalize sel.nextMetrics.toList.min?.getD infMetric = bestNext at hl hlea ⊢
  have hf : bestNext < infMetric := by
    have hr := hm.reached (K.branchNext best 0)
      ⟨_, Trellis.mem_costs_snoc.2 ⟨best, 0, rfl, offset, hbe, rfl⟩⟩
    exact (hl _).trans_lt hr
  refine ⟨offset + bestNext, sel.row, rfl, ?_, ⟨least, ?_⟩, ?_, h.records.recordStep sel⟩
  · refine (congrArg _ (funext fun state => ?_)).mp (hm.normalise hl)
    exact (get_normalise sel.nextMetrics bestNext state).symm
  · rw [get_normalise, hlea, if_pos hf, Nat.sub_self]
  intro state hs
  refine hsel.optimal h.metrics hm h.optimal ?_
  rw [get_normalise] at hs
  split_ifs at hs with hlt
  · exact hlt
  · exact absurd hs hlt

lemma decoded_block (hbo : gens.length * (K.val - 1) < infMetric) (rest : List (List UInt8)) :
    ∀ {inputs : List (List UInt8)} {dec : ViterbiDecoder K} {offset : ℕ} {rows : List (Row K.numStates)},
    Decoded gens inputs dec offset rows → (∀ symbol ∈ inputs ++ rest, IsBits symbol) →
    ∃ offset' rows', Decoded gens (inputs ++ rest) (rest.foldl blockStep dec) offset' rows' := by
  induction rest with
  | nil => grind
  | cons input rest ih =>
    intro inputs dec offset rows h hb
    rw [List.append_cons] at hb
    obtain ⟨offset', row, hs⟩ := decoded_step h hbo input
      fun symbol hsy => hb symbol (List.mem_append_left _ hsy)
    rw [List.append_cons]
    exact ih hs hb

lemma get_initialMetrics (state : Fin K.numStates) :
    (initialMetrics K).get state = if state = 0 then 0 else infMetric := by
  by_cases hs : state = 0
  · subst hs
    simp [initialMetrics, get_eq_getElem]
  · have hval : 0 ≠ state.val := fun h => hs (Fin.ext h.symm)
    simp [initialMetrics, get_eq_getElem, hs, hval]

lemma eq_zero_of_initialMetrics (hs : (initialMetrics K).get state < infMetric) : state = 0 := by
  by_contra hne
  rw [get_initialMetrics, if_neg hne] at hs
  exact lt_irrefl _ hs

lemma decoded_start (dec : ViterbiDecoder K) (hg : dec.generators = gens) :
    Decoded gens [] { dec with
      pathMetrics := initialMetrics K, tb := dec.tb.prepareBlock } 0 [] := by
  refine ⟨hg, ?_, ⟨0, (get_initialMetrics 0).trans (if_pos rfl)⟩, ?_, ⟨rfl, rfl, rfl⟩⟩
  · rw [funext get_initialMetrics]
    exact Trellis.metrics_nil (by decide) 0
  · intro state hs
    obtain rfl := eq_zero_of_initialMetrics hs
    exact ⟨rfl, rfl, ⟨[], rfl, rfl, rfl⟩, fun _ _ => Nat.zero_le _⟩

end Block

/-- **Block decoding is maximum likelihood**, for symbols of fewer than `INF_METRIC / (K - 1)` bits. For every decoder, in
whatever state it was left, every list of hard symbols and every state that can be reached with as many bits: decoding
returns a string of that length whose encoding ends in that state, and of these strings none is nearer to what was
received. -/
theorem decode_maximum_likelihood (K : ConstraintLength) (decoder : ViterbiDecoder K)
    (hbound : decoder.generators.length * (K.val - 1) < infMetric) (inputs : List (List UInt8))
    (hinputs : ∀ symbol ∈ inputs, symbol.length = decoder.generators.length ∧ IsBits symbol)
    (endState : Fin K.numStates)
    (hreach : ∃ bits : List (Fin 2), bits.length = inputs.length ∧ bits.foldl K.branchNext 0 = endState) :
    ∃ decoder' bits, decoder.decodeBlockFromState inputs endState.val = some (decoder', bits) ∧
      bits.length = inputs.length ∧
      (encoded K decoder.generators bits).1.window.toNat >>> 1 = endState.val ∧
      ∀ other : List (Fin 2), other.length = inputs.length →
        (encoded K decoder.generators other).1.window.toNat >>> 1 = endState.val →
        hammingDistance (encoded K decoder.generators bits).2 inputs ≤
          hammingDistance (encoded K decoder.generators other).2 inputs := by
  have hb : ∀ symbol ∈ inputs, IsBits symbol := fun symbol hs => (hinputs symbol hs).2
  obtain ⟨offset, rows, h⟩ := decoded_block hbound inputs (decoded_start decoder rfl) hb
  obtain ⟨path, hp, hpa⟩ := hreach
  have hopt := h.optimal endState (h.metrics.reached endState ⟨_, path, hp, hpa, rfl⟩)
  have hde : ∃ decoder', decoder.decodeBlockFromState inputs endState.val =
      some (decoder', (Trellis.trace rows endState).reverse) := by
    unfold decodeBlockFromState
    dsimp only
    rw [tracebackAllFromState_eq h.records]
    exact ⟨_, rfl⟩
  obtain ⟨decoder', hde⟩ := hde
  refine ⟨decoder', _, hde, hopt.length, ?_, ?_⟩
  · rw [(encoded_eq hb _).1, hopt.final]
  intro other hlen hf
  rw [(encoded_eq hb _).2, (encoded_eq hb _).2]
  rw [(encoded_eq hb _).1] at hf
  exact hopt.least.2 ⟨other, hlen, Fin.ext hf, rfl⟩

def lengthThree : ConstraintLength := ⟨3, by decide, by decide⟩

/-- Four symbols of the code with generators 7 and 5, the second one received with an error. -/
theorem decode_maximum_likelihood_error :
    let decoder := ViterbiDecoder.new lengthThree { generators := [7, 5] }
    ∃ decoder' bits, decoder.decodeBlockFromState [[1, 1], [1, 1], [0, 0], [1, 0]] 1 = some (decoder', bits) ∧
      (encoded lengthThree [7, 5] bits).1.window.toNat >>> 1 = 1 := by
  obtain ⟨decoder', bits, hde, -, hf, -⟩ := decode_maximum_likelihood lengthThree
    (new lengthThree { generators := [7, 5] }) (by decide) [[1, 1], [1, 1], [0, 0], [1, 0]]
    (by decide) 1 ⟨[1, 0, 1, 0], rfl, by decide⟩
  exact ⟨decoder', bits, hde, hf⟩

def lengthTwo : ConstraintLength := ⟨2, by decide, by decide⟩

def repetitionCode (N : ℕ) : List (BitVec 32) := List.replicate N 2

lemma row_repetitionCode (hN : infMetric ≤ N) :
    (addCompareSelect lengthTwo (repetitionCode N) saturatingAdd (initialMetrics lengthTwo)
      (replicate N 0)).row 1 = (0, 0) := by
  have hin : ∀ inputBit, lengthTwo.branchNext 0 inputBit = 1 → inputBit = 1 := by decide
  have hv := congrFun (view_addCompareSelect lengthTwo (repetitionCode N) saturatingAdd
    (initialMetrics lengthTwo) (replicate N 0)) 1
  obtain ⟨hf, -, -⟩ := foldl_offer (offers lengthTwo (repetitionCode N) saturatingAdd
    (initialMetrics lengthTwo) (replicate N 0)) (fun _ => (infMetric, (0, 0))) 1
  rw [← hv] at hf
  rcases hf with hn | ⟨o, ho, ht, hlt, -⟩
  · exact congrArg Prod.snd hn
  exfalso
  obtain ⟨state, inputBit, hs, rfl⟩ := mem_offers.1 ho
  -- the branch is the one from state 0 with input 1
  obtain rfl := eq_zero_of_initialMetrics hs
  obtain rfl := hin inputBit ht
  have hc : (trellis lengthTwo (repetitionCode N)).cost (replicate N 0) 0 1 = N := by
    have hout : lengthTwo.branchOut (repetitionCode N) 0 1 = replicate N 1 := by
      rw [ConstraintLength.branchOut, encodeFromWindow, repetitionCode, List.map_replicate]
      rfl
    change branchHamming (lengthTwo.branchOut (repetitionCode N) 0 1) (replicate N 0) = N
    rw [hout, branchHamming, List.zipWith_replicate, Nat.min_self, List.sum_replicate]
    simp
  grind [infMetric, saturatingAdd]

/-- State 1 is reached with the one bit 1; the decoder returns the bit 0, whose encoding ends in state 0. -/
theorem path_taken_for_infinite :
    [(1 : Fin 2)].foldl lengthTwo.branchNext 0 = 1 ∧
    (∃ decoder', (ViterbiDecoder.new lengthTwo { generators := repetitionCode infMetric }).decodeBlockFromState
      [List.replicate infMetric 0] 1 = some (decoder', [0])) ∧
    (encoded lengthTwo (repetitionCode infMetric) [0]).1.window.toNat >>> 1 = 0 := by
  refine ⟨by decide, ?_, ?_⟩
  · have hrow := row_repetitionCode le_rfl
    generalize infMetric = N at hrow ⊢
    generalize hde : new lengthTwo { generators := repetitionCode N } = decoder
    have hr : Records (decoder.blockStep (replicate N 0)).tb [(addCompareSelect lengthTwo (repetitionCode N)
        saturatingAdd (initialMetrics lengthTwo) (replicate N 0)).row] := by
      subst hde
      exact (records_nil (5 * 2)).recordStep _
    have ht : (decoder.blockStep (replicate N 0)).tb.tracebackAllFromState 1 = some [0] := by
      refine (tracebackAllFromState_eq hr 1).trans ?_
      rw [Trellis.trace, hrow]
      rfl
    refine ⟨decoder.blockStep (replicate N 0), ?_⟩
    have hs : ({ decoder with pathMetrics := initialMetrics lengthTwo, tb := decoder.tb.prepareBlock }
        : ViterbiDecoder lengthTwo) = decoder := by
      subst hde
      rfl
    rw [decodeBlockFromState, hs, List.foldl_cons, List.foldl_nil, ht]
    rfl
  · have hn : ∀ symbol ∈ ([] : List (List UInt8)), IsBits symbol :=
      fun _ h => absurd h List.not_mem_nil
    exact (encoded_eq hn [0]).1

end OneXBts.Bts
