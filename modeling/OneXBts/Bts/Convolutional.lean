import Mathlib.Data.List.MinMax
import Mathlib.Tactic
import OneXBts.Lib.BitField

/-!
The convolutional encoder and the hard-decision Viterbi decoder (`phy/coding/convolutional.rs`).

The tables filled in `ViterbiDecoder::new` are the functions `branchNext` and `branchOut`; the scratch rows are the
`Selection` that add-compare-select returns. Apart from the one saturating addition no sum of metrics comes near `2 ^ 32`.
-/

namespace OneXBts.Bts

open Lib

/-! ### The encoder -/

def countOnes (x : BitVec 32) : ℕ := (List.range 32).countP fun i => x.getLsbD i

def encodeFromWindow (window : BitVec 32) (generators : List (BitVec 32)) : List UInt8 :=
  generators.map fun generator => UInt8.ofNat (countOnes (window &&& generator) % 2)

structure Encoder where
  window : BitVec 32 := 0
  generators : List (BitVec 32)
  deriving DecidableEq

def Encoder.encode (K : ℕ) (encoder : Encoder) (value : UInt8) : Encoder × List UInt8 :=
  let window := ((encoder.window >>> 1) &&& ((1#32 <<< (K - 1)) - 1#32)) ||| (value.toBitVec.setWidth 32 <<< (K - 1))
  ({ encoder with window := window }, encodeFromWindow window encoder.generators)

def Encoder.encodeAll (K : ℕ) : Encoder → List UInt8 → Encoder × List (List UInt8)
  | encoder, [] => (encoder, [])
  | encoder, value :: values =>
    let (encoder, symbol) := encoder.encode K value
    let (encoder, symbols) := encodeAll K encoder values
    (encoder, symbol :: symbols)

def get12K9Encoder : Encoder := { generators := [0x1eb, 0x171] }

def get13K9Encoder : Encoder := { generators := [0o557, 0o663, 0o711] }

def get14K9Encoder : Encoder := { generators := [0o765, 0o671, 0o513, 0o473] }

/-! ### The trellis -/

/-- A constraint length for which there is a decoder. -/
structure ConstraintLength where
  val : ℕ
  two_le : 2 ≤ val
  le_sixteen : val ≤ 16

namespace ConstraintLength

variable (K : ConstraintLength)

def numStates : ℕ := 1 <<< (K.val - 1)

lemma numStates_eq : K.numStates = 2 ^ (K.val - 1) := Nat.one_shiftLeft _

instance : NeZero K.numStates := ⟨by rw [numStates_eq]; exact (Nat.two_pow_pos _).ne'⟩

lemma branch_lt (state : Fin K.numStates) (bit : Fin 2) :
    (state.val >>> 1) ||| (bit.val <<< (K.val - 2)) < K.numStates := by
  have hK := K.two_le
  have hs := state.isLt.trans_eq K.numStates_eq
  refine (Nat.or_lt_two_pow ?_ ?_).trans_eq K.numStates_eq.symm
  · rw [Nat.shiftRight_one]
    omega
  · rw [Nat.shiftLeft_eq, show K.val - 1 = K.val - 2 + 1 by omega, Nat.pow_succ, Nat.mul_comm]
    exact Nat.mul_lt_mul_of_pos_left bit.isLt (Nat.two_pow_pos _)

def branchNext (state : Fin K.numStates) (inputBit : Fin 2) : Fin K.numStates :=
  ⟨(state.val >>> 1) ||| (inputBit.val <<< (K.val - 2)), K.branch_lt state inputBit⟩

def branchOut (generators : List (BitVec 32)) (state : Fin K.numStates) (inputBit : Fin 2) : List UInt8 :=
  encodeFromWindow (BitVec.ofNat 32 state.val ||| (BitVec.ofNat 32 inputBit.val <<< (K.val - 1))) generators

end ConstraintLength

def branchHamming (a b : List UInt8) : ℕ := (List.zipWith (fun x y => (x ^^^ y).toNat) a b).sum

/-! ### The traceback -/

structure Selection (n : ℕ) where
  nextMetrics : Vector ℕ n
  scratchPrevState : Vector (Fin n) n
  scratchBit : Vector (Fin 2) n

/-- The recorded rows, oldest first, each with an entry for every state. -/
structure TrellisTraceback (n : ℕ) where
  tracebackDepth : ℕ
  steps : ℕ := 0
  tracePrevStates : List (Fin n) := []
  traceInputBits : List (Fin 2) := []
  deriving DecidableEq

namespace TrellisTraceback

variable {n : ℕ}

/-- The loop of `traceback_bit`, with `steps` rows at and before the current one: the index of the row would go below 0
with no rows left. The reads are out of range where there is no entry. -/
def tracebackLoop (tb : TrellisTraceback n) : (depth steps state : ℕ) → (oldest : Fin 2) → Option (Fin 2)
  | 0, _, _, oldest => some oldest
  | _ + 1, 0, _, _ => none
  | depth + 1, step + 1, state, _ => do
    let oldest ← tb.traceInputBits[step * n + state]?
    let prevState ← tb.tracePrevStates[step * n + state]?
    tracebackLoop tb depth step prevState.val oldest

def tracebackBit (tb : TrellisTraceback n) (endState endStep depth : ℕ) : Option (Fin 2) :=
  tb.tracebackLoop depth (endStep + 1) endState 0

def tracebackAllFromState (tb : TrellisTraceback n) (endState : ℕ) : Option (List (Fin 2)) :=
  if tb.steps = 0 then some []
  else ((List.range' 1 tb.steps).reverse).mapM fun depth => tb.tracebackBit endState (tb.steps - 1) depth

/-- The bits that are still to come at the end of a stream. -/
def finish (tb : TrellisTraceback n) (bestState : ℕ) : Option (List (Fin 2)) :=
  if tb.steps = 0 then some []
  else
    let remaining := if tb.steps ≥ tb.tracebackDepth then tb.tracebackDepth - 1 else tb.steps
    if remaining = 0 then some []
    else ((List.range' 1 remaining).reverse).mapM fun depth => tb.tracebackBit bestState (tb.steps - 1) depth

def recordStep (tb : TrellisTraceback n) (selection : Selection n) : TrellisTraceback n :=
  { tb with
    tracePrevStates := tb.tracePrevStates ++ selection.scratchPrevState.toList
    traceInputBits := tb.traceInputBits ++ selection.scratchBit.toList
    steps := tb.steps + 1 }

def trimHistory (tb : TrellisTraceback n) : TrellisTraceback n :=
  let maxHistory := tb.tracebackDepth * 2
  if tb.steps > maxHistory then
    let trim := tb.steps - maxHistory
    let trimEntries := trim * n
    if trimEntries ≤ tb.tracePrevStates.length then
      { tb with
        tracePrevStates := tb.tracePrevStates.drop trimEntries
        traceInputBits := tb.traceInputBits.drop trimEntries
        steps := tb.steps - trim }
    else tb
  else tb

/-- The capacity that is reserved is not modelled. -/
def prepareBlock (tb : TrellisTraceback n) : TrellisTraceback n :=
  { tb with steps := 0, tracePrevStates := [], traceInputBits := [] }

end TrellisTraceback

/-! ### Add, compare and select -/

def infMetric : ℕ := (2 ^ 32 - 1) / 4

def saturatingAdd (a b : ℕ) : ℕ := min (a + b) (2 ^ 32 - 1)

namespace Selection

variable {n : ℕ}

def blank (n : ℕ) [NeZero n] : Selection n where
  nextMetrics := Vector.replicate n infMetric
  scratchPrevState := Vector.replicate n 0
  scratchBit := Vector.replicate n 0

def offer (selection : Selection n) (prevState : Fin n) (inputBit : Fin 2) (nextState : Fin n) (cand : ℕ) :
    Selection n :=
  if cand < selection.nextMetrics[nextState] then
    { nextMetrics := selection.nextMetrics.set nextState cand
      scratchPrevState := selection.scratchPrevState.set nextState prevState
      scratchBit := selection.scratchBit.set nextState inputBit }
  else selection

end Selection

lemma get_eq_getElem {α : Type} (v : Vector α n) (i : Fin n) : v.get i = v[i] := rfl

/-- The two loops over the previous states and the input bits; `add` is the addition that is used for candidates. -/
def addCompareSelect (K : ConstraintLength) (generators : List (BitVec 32)) (add : ℕ → ℕ → ℕ)
    (pathMetrics : Vector ℕ K.numStates) (input : List UInt8) : Selection K.numStates :=
  (List.finRange K.numStates).foldl (fun selection prevState =>
    if infMetric ≤ pathMetrics[prevState] then selection
    else [0, 1].foldl (fun selection inputBit =>
      selection.offer prevState inputBit (K.branchNext prevState inputBit)
        (add pathMetrics[prevState] (branchHamming (K.branchOut generators prevState inputBit) input))) selection)
    (Selection.blank K.numStates)

def normalise {n : ℕ} (metrics : Vector ℕ n) (least : ℕ) : Vector ℕ n :=
  metrics.map fun metric => if metric < infMetric then metric - least else metric

/-! ### The decoder -/

structure ViterbiDecoder (K : ConstraintLength) where
  generators : List (BitVec 32)
  pathMetrics : Vector ℕ K.numStates
  lastStepCost : ℕ := 0
  tb : TrellisTraceback K.numStates
  deriving DecidableEq

namespace ViterbiDecoder

variable {K : ConstraintLength}

def initialMetrics (K : ConstraintLength) : Vector ℕ K.numStates :=
  (Vector.replicate K.numStates infMetric).set 0 0 (NeZero.pos _)

def new (K : ConstraintLength) (encoder : Encoder) : ViterbiDecoder K where
  generators := encoder.generators
  pathMetrics := initialMetrics K
  tb := { tracebackDepth := 5 * K.val }

def bestState (decoder : ViterbiDecoder K) : Fin K.numStates :=
  ((List.finRange K.numStates).argmin fun state => decoder.pathMetrics[state]).getD 0

def finish (decoder : ViterbiDecoder K) : Option (List (Fin 2)) := decoder.tb.finish decoder.bestState.val

def blockStep (decoder : ViterbiDecoder K) (input : List UInt8) : ViterbiDecoder K :=
  let selection := addCompareSelect K decoder.generators saturatingAdd decoder.pathMetrics input
  let bestNext := selection.nextMetrics.toList.min?.getD infMetric
  { decoder with
    pathMetrics := normalise selection.nextMetrics bestNext
    lastStepCost := bestNext
    tb := decoder.tb.recordStep selection }

/-- Panics if a read of the traceback is out of range. -/
def decodeBlockFromState (decoder : ViterbiDecoder K) (inputs : List (List UInt8)) (endState : ℕ) :
    Option (ViterbiDecoder K × List (Fin 2)) :=
  let decoder := { decoder with pathMetrics := initialMetrics K, tb := decoder.tb.prepareBlock }
  let decoder := inputs.foldl blockStep decoder
  (decoder.tb.tracebackAllFromState endState).map fun bits => (decoder, bits)

def streamStep (decoder : ViterbiDecoder K) (input : List UInt8) : ViterbiDecoder K :=
  let selection := addCompareSelect K decoder.generators (· + ·) decoder.pathMetrics input
  let minMetric := selection.nextMetrics.toList.min?.getD 0
  { decoder with
    pathMetrics := if 0 < minMetric then normalise selection.nextMetrics minMetric else selection.nextMetrics
    lastStepCost := minMetric
    tb := decoder.tb.recordStep selection }

def trim (decoder : ViterbiDecoder K) : ViterbiDecoder K := { decoder with tb := decoder.tb.trimHistory }

def process (decoder : ViterbiDecoder K) (input : List UInt8) : Option (ViterbiDecoder K × Option (Fin 2)) :=
  if input.all (· ≤ 1) then
    let decoder := (decoder.streamStep input).trim
    if decoder.tb.tracebackDepth ≤ decoder.tb.steps then
      (decoder.tb.tracebackBit decoder.bestState.val (decoder.tb.steps - 1) decoder.tb.tracebackDepth).map
        fun bit => (decoder, some bit)
    else some (decoder, none)
  else none

end ViterbiDecoder

end OneXBts.Bts
