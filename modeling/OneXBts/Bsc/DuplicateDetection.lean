import OneXBts.Lib.Runs
import OneXBts.Lib.LossyLink

/-!
Duplicate detection on the reverse traffic channel (`traffic_signaling.rs`).

A PDU whose flag is set is a duplicate; otherwise its flag is set, and that of the number four further on is cleared. With a
window of four over a link that keeps the order, the flag of a PDU is set from its first arrival to that of the fourth PDU
after it (`Flagged`), and all its arrivals lie within that time.
-/

namespace OneXBts.Bsc

open Lib List Function

lemma slot_lt (n : ℕ) : n % 8 < 8 := Nat.mod_lt n (by decide)

def slot (n : ℕ) : Fin 8 := ⟨n % 8, slot_lt n⟩

/-- Mark a number as received; the result says if it was marked before. -/
def markReverseRegularMsgSeqReceived (msgSeqRcvd : Fin 8 → Bool) (msgSeq : UInt8) : (Fin 8 → Bool) × Bool :=
  let seq := (msgSeq &&& 0x07).toNat
  if msgSeqRcvd (slot seq) then (msgSeqRcvd, true)
  else (Function.update (Function.update msgSeqRcvd (slot seq) true) (slot (seq + 4)) false, false)

/-! ### The link -/

structure Link where
  msgSeqRcvd : Fin 8 → Bool
  channel : List ℕ
  arrived : List ℕ

def Link.new : Link := ⟨fun _ => false, [], []⟩

inductive LinkOp where
  | transmit (i : ℕ)
  | lose (n : ℕ)
  | arrive
  deriving DecidableEq

/-- An arrival, what had arrived before, and whether it is taken for a duplicate. -/
structure Arrival where
  pdu : ℕ
  before : List ℕ
  duplicate : Bool
  deriving DecidableEq

def linkStep (t : Link) : LinkOp → Option (Link × Option Arrival)
  | .transmit i => some ({ t with channel := t.channel ++ [i] }, none)
  | .lose n => some ({ t with channel := t.channel.eraseIdx n }, none)
  | .arrive =>
    match t.channel with
    | [] => none
    | i :: channel =>
      let marked := markReverseRegularMsgSeqReceived t.msgSeqRcvd (UInt8.ofNat (i % 8))
      some (⟨marked.1, channel, i :: t.arrived⟩, some ⟨i, t.arrived, marked.2⟩)

/-- With `a` the oldest PDU that has not arrived, the mobile transmits PDUs from `a` to `a + 3`. -/
def Mobile (t : Link) : LinkOp → Prop
  | .transmit i => ∃ a < i + 1, (a ∉ t.arrived ∧ ∀ j < a, j ∈ t.arrived) ∧ i ≤ a + 3
  | _ => True

instance (t : Link) (op : LinkOp) : Decidable (Mobile t op) :=
  match op with
  | .transmit i => inferInstanceAs (Decidable (∃ a < i + 1, _))
  | .lose _ => .isTrue trivial
  | .arrive => .isTrue trivial

/-! ### The flags -/

abbrev LinkWindow (t : Link) : Prop := SendWindow 3 t.arrived t.arrived t.channel

/-- The flags that are set: those of the PDUs that have arrived while the fourth after them has not. -/
def Flagged (t : Link) : Prop := ∀ b, t.msgSeqRcvd b = true ↔ ∃ i ∈ t.arrived, slot i = b ∧ i + 4 ∉ t.arrived

section Link

variable {t t' : Link} {op : LinkOp} {o : Option Arrival} {i : ℕ} {channel : List ℕ}

lemma slot_eq_iff : slot m = slot n ↔ m % 8 = n % 8 := Fin.ext_iff

lemma Flagged.arriving (hf : Flagged t) (h : LinkWindow t) (hc : t.channel = i :: channel) :
    t.msgSeqRcvd (slot i) = true ↔ i ∈ t.arrived := by
  have hi : i ∈ t.channel := hc ▸ mem_cons_self
  rw [hf]
  constructor
  · rintro ⟨j, hj, hs, hn⟩
    -- another PDU with the number is eight or more away, too far ahead or followed by its fourth
    have hmod := slot_eq_iff.1 hs
    have hle := h.across j hj i hi
    by_contra hnew
    have hne : j ≠ i := fun heq => hnew (heq ▸ hj)
    exact hn (h.below i (.inr hi) (j + 4) (by omega))
  · intro ha
    refine ⟨i, ha, rfl, fun hn => ?_⟩
    have := h.across (i + 4) hn i hi
    omega

lemma Flagged.first (hfl : Flagged t) (h : LinkWindow t) (hc : t.channel = i :: channel) (hnew : i ∉ t.arrived) :
    Flagged ⟨update (update t.msgSeqRcvd (slot i) true) (slot (i + 4)) false, channel, i :: t.arrived⟩ := by
  have hi : i ∈ t.channel := hc ▸ mem_cons_self
  intro b
  dsimp only
  by_cases hf : b = slot (i + 4)
  · -- the PDU four before has its fourth now, and those before have it already
    subst hf
    rw [update_self]
    refine iff_of_false Bool.false_ne_true ?_
    rintro ⟨j, hj, hs, hn⟩
    have hmod := slot_eq_iff.1 hs
    rcases mem_cons.1 hj with rfl | hj
    · omega
    have hle := h.across j hj i hi
    by_cases heq : j + 4 = i
    · exact hn (heq ▸ mem_cons_self)
    · exact hn (mem_cons_of_mem _ (h.below i (.inr hi) (j + 4) (by omega)))
  · rw [update_of_ne hf]
    by_cases hown : b = slot i
    · subst hown
      rw [update_self]
      refine iff_of_true rfl ⟨i, mem_cons_self, rfl, fun hn => ?_⟩
      rcases mem_cons.1 hn with heq | hn
      · omega
      · have := h.across (i + 4) hn i hi
        omega
    · rw [update_of_ne hown, hfl]
      constructor
      · rintro ⟨j, hj, hs, hn⟩
        refine ⟨j, mem_cons_of_mem _ hj, hs, fun hmem => ?_⟩
        rcases mem_cons.1 hmem with heq | hmem
        · -- then this is the flag that is cleared
          apply hf
          rw [← hs, slot_eq_iff]
          omega
        · exact hn hmem
      grind

lemma Flagged.again (hf : Flagged t) (ha : i ∈ t.arrived) :
    Flagged ⟨t.msgSeqRcvd, channel, i :: t.arrived⟩ := by grind [Flagged]

/-- A PDU is taken for a duplicate exactly if it has arrived before. -/
def Arrival.Correct (arrival : Arrival) : Prop := arrival.duplicate = decide (arrival.pdu ∈ arrival.before)

instance (arrival : Arrival) : Decidable arrival.Correct := inferInstanceAs (Decidable (_ = _))

lemma slot_msgSeq (i k : ℕ) : slot ((UInt8.ofNat (i % 8) &&& 0x07).toNat + k) = slot (i + k) := by
  have hlt : i % 8 < 8 := Nat.mod_lt i (by decide)
  have hall : ∀ n < 8, (UInt8.ofNat n &&& 0x07).toNat = n := by decide
  rw [hall _ hlt, slot_eq_iff]
  omega

/-- **One arrival.** -/
theorem arrive_correct (hf : Flagged t) (h : LinkWindow t) (hc : t.channel = i :: channel) :
    (markReverseRegularMsgSeqReceived t.msgSeqRcvd (UInt8.ofNat (i % 8))).2 = decide (i ∈ t.arrived) ∧
    Flagged ⟨(markReverseRegularMsgSeqReceived t.msgSeqRcvd (UInt8.ofNat (i % 8))).1, channel, i :: t.arrived⟩ := by
  have hs := slot_msgSeq i 0
  rw [Nat.add_zero, Nat.add_zero] at hs
  have ha := hf.arriving h hc
  unfold markReverseRegularMsgSeqReceived
  dsimp only
  rw [hs, slot_msgSeq]
  by_cases hb : i ∈ t.arrived
  · rw [if_pos (ha.2 hb)]
    exact ⟨(decide_eq_true hb).symm, hf.again hb⟩
  · rw [if_neg fun hset => hb (ha.1 hset)]
    exact ⟨(decide_eq_false hb).symm, hf.first h hc hb⟩

/-- **One step of the link.** -/
theorem link_step (h : LinkWindow t) (hf : Flagged t) (hm : Mobile t op) (hs : linkStep t op = some (t', o)) :
    LinkWindow t' ∧ Flagged t' ∧ ∀ arrival ∈ o, arrival.Correct := by
  cases op with
  | transmit =>
    cases hs
    obtain ⟨a, ha, ⟨ho, har⟩, hle⟩ := hm
    exact ⟨h.transmit ho har (Nat.lt_succ_iff.1 ha) hle, hf, by simp⟩
  | lose =>
    cases hs
    exact ⟨h.lose (eraseIdx_sublist _ _), hf, by simp⟩
  | arrive =>
    unfold linkStep at hs
    cases hc : t.channel with
    | nil =>
      rw [hc] at hs
      cases hs
    | cons i channel =>
      rw [hc] at hs
      obtain ⟨hco, hf'⟩ := arrive_correct hf h hc
      obtain ⟨rfl, rfl⟩ := Prod.mk.inj (Option.some.inj hs)
      have hw : SendWindow 3 t.arrived t.arrived (i :: channel) := hc ▸ h
      refine ⟨hw.arrive.mono fun j hj => mem_cons_of_mem _ hj, hf', fun arrival harr => ?_⟩
      rw [← Option.some.inj harr]
      exact hco

end Link

/-- **Each PDU is new once.** Let a mobile transmit PDUs from the oldest that has not arrived to the third after it, over a
link that loses PDUs and keeps their order. Then in every run from clear flags a PDU is taken for a duplicate exactly if it
has arrived before. -/
theorem duplicate_iff_before {t : Link} {log : List (LinkOp × Option Arrival)}
    (hrun : Run (guarded linkStep Mobile) Link.new t log) : ∀ e ∈ log, ∀ arrival ∈ e.2, arrival.Correct := by
  have hinv : LinkWindow t ∧ Flagged t ∧ ∀ e ∈ log, ∀ arrival ∈ e.2, arrival.Correct := by
    refine hrun.inv (fun t log => LinkWindow t ∧ Flagged t ∧ ∀ e ∈ log, ∀ arrival ∈ e.2, arrival.Correct) ?_ ?_
    · exact ⟨SendWindow.nil 3 [], by simp [Flagged, Link.new], by simp⟩
    rintro t op t' o log ⟨hw, hf, hlog⟩ ⟨hm, hs⟩
    obtain ⟨hw', hf', hnew⟩ := link_step hw hf hm hs
    refine ⟨hw', hf', ?_⟩
    rw [forall_mem_append, forall_mem_singleton]
    exact ⟨hlog, hnew⟩
  exact hinv.2.2

/-- Past the eighth PDU, with a loss, and the last PDU transmitted twice. -/
theorem duplicate_iff_before_nine :
    ∃ t log, Run (guarded linkStep Mobile) Link.new t log ∧
      (log.filterMap (·.2)).map (fun arrival => (arrival.pdu, arrival.duplicate)) =
        [(0, false), (2, false), (1, false), (3, false), (4, false), (5, false), (6, false), (7, false), (8, false),
          (8, true)] ∧ ∀ e ∈ log, ∀ arrival ∈ e.2, arrival.Correct := by
  obtain ⟨t, log, hrun, hlog⟩ := exists_run linkStep Mobile Link.new
    ([.transmit 0, .arrive, .transmit 1, .transmit 2, .lose 0, .arrive, .transmit 1, .arrive] ++
      [3, 4, 5, 6, 7].flatMap (fun i => [.transmit i, .arrive]) ++ [.transmit 8, .transmit 8, .arrive, .arrive])
    (fun _ log => (log.filterMap (·.2)).map (fun arrival => (arrival.pdu, arrival.duplicate)) =
        [(0, false), (2, false), (1, false), (3, false), (4, false), (5, false), (6, false), (7, false), (8, false),
          (8, true)]) (by decide +kernel)
  exact ⟨t, log, hrun, hlog, duplicate_iff_before hrun⟩

end OneXBts.Bsc
