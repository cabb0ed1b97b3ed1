import OneXBts.An.RlpReceiver
import OneXBts.Lib.Runs

/-!
The window of the receiver.

`resequencing` and `nakAbortAt` are the halves of one list of slots (`Represents`). The comparisons with `vN` and `vR` are
right because the window has at most `2 ^ 21` slots. The loops are those of `Lib.Resequencer` on the slots.
-/

namespace OneXBts.An.Air

open Lib An.Rlp DefaultPacketRlpReceiver List Function Nat

/-- The state of the receiver as a list of slots from the position of `vN` on. -/
structure Represents (r : DefaultPacketRlpReceiver) (base : ℕ) (slots : List (Slot UInt8)) : Prop where
  vN : r.vN = seq base
  vR : r.vR = seq (base + slots.length)
  short : slots.length ≤ half
  resequencing : Holds modulus seq base (slots.map Slot.item) r.resequencing
  nakAbortAt : Holds modulus seq base (slots.map Slot.deadline) r.nakAbortAt

namespace Represents

variable {r : DefaultPacketRlpReceiver} {base : ℕ} {slots : List (Slot UInt8)}

lemma reset : Represents DefaultPacketRlpReceiver.reset 0 [] := ⟨rfl, rfl, Nat.zero_le _, holds_empty, holds_empty⟩

section

variable (hr : Represents r base slots)
include hr

lemma length_lt : slots.length < modulus := hr.short.trans_lt half_lt_modulus

lemma seq_eq_vN_iff (he : e < modulus) : seq (base + e) = r.vN ↔ e = 0 := by
  rw [hr.vN]
  refine ⟨fun heq => ?_, fun h => by rw [h, Nat.add_zero]⟩
  by_contra hne
  exact seq_cyclic.key_ne base he (by decide : 0 < modulus) hne heq

lemma vN_eq_vR_iff : r.vN = r.vR ↔ slots = [] := by
  rw [hr.vR, eq_comm, hr.seq_eq_vN_iff hr.length_lt, length_eq_zero_iff]

lemma toNat_distance : (distance r.vN r.vR).toNat = slots.length := by
  rw [hr.vN, hr.vR, toNat_distance_seq base hr.length_lt]

lemma resequencing_at (hi : i < slots.length) :
    r.resequencing (seq (base + i)) = slots[i].item := by
  have hlen := hr.length_lt
  rw [hr.resequencing.getElem (by simpa using hi) (by simp; omega), getElem_map]

lemma nakAbortAt_at (hi : i < slots.length) :
    r.nakAbortAt (seq (base + i)) = slots[i].deadline := by
  have hlen := hr.length_lt
  rw [hr.nakAbortAt.getElem (by simpa using hi) (by simp; omega), getElem_map]

end

lemma resequencing_vN (hr : Represents r base (slot :: slots)) :
    r.resequencing r.vN = slot.item := by
  rw [hr.vN]
  exact hr.resequencing_at (i := 0) (by simp)

lemma nakAbortAt_vN (hr : Represents r base (slot :: slots)) :
    r.nakAbortAt r.vN = slot.deadline := by
  rw [hr.vN]
  exact hr.nakAbortAt_at (i := 0) (by simp)

/-! ### The head moves -/

lemma pop (hr : Represents r base (slot :: slots)) :
    Represents
      { r with
        resequencing := update r.resequencing r.vN none
        nakAbortAt := update r.nakAbortAt r.vN none
        vN := next r.vN } (base + 1) slots := by
  have hs : slots.length + 1 ≤ half := hr.short
  have hlen : slots.length < modulus := (lt_of_succ_le hs).trans half_lt_modulus
  refine ⟨?_, ?_, by omega, ?_, ?_⟩
  · rw [hr.vN, next_seq]
  · rw [hr.vR, length_cons, show base + (slots.length + 1) = base + 1 + slots.length by omega]
  · rw [hr.vN]
    exact hr.resequencing.pop seq_cyclic (by simpa using hlen)
  · rw [hr.vN]
    exact hr.nakAbortAt.pop seq_cyclic (by simpa using hlen)

lemma pop_missing (hr : Represents r base (.missing due :: slots)) :
    Represents
      { r with
        nakAbortAt := update r.nakAbortAt r.vN none
        vN := next r.vN } (base + 1) slots := by
  have hpop := hr.pop
  rwa [update_eq_self_iff.2 hr.resequencing_vN.symm] at hpop

/-- **Delivery**: the head moves over what has been received, and the loop has ended. -/
theorem deliverLoop (hr : Represents r base slots) (hf : slots.length ≤ fuel) :
    ∃ r', DefaultPacketRlpReceiver.deliverLoop fuel r = (r', items (slots.takeWhile Slot.isReceived)) ∧
      Represents r' (base + (slots.takeWhile Slot.isReceived).length) (slots.dropWhile Slot.isReceived) := by
  induction slots generalizing r base fuel with
  | nil =>
    refine ⟨r, ?_, hr⟩
    cases fuel with
    | zero => rfl
    | succ => exact if_pos (hr.vN_eq_vR_iff.2 rfl)
  | cons slot slots ih =>
    cases fuel with
    | zero => cases hf
    | succ =>
      have hne : r.vN ≠ r.vR := fun heq => cons_ne_nil _ _ (hr.vN_eq_vR_iff.1 heq)
      cases slot with
      | missing =>
        refine ⟨r, ?_, hr⟩
        simp only [DefaultPacketRlpReceiver.deliverLoop, if_neg hne, hr.resequencing_vN]
        rfl
      | received =>
        obtain ⟨r', hl, hr'⟩ := ih hr.pop (le_of_succ_le_succ hf)
        refine ⟨r', ?_, ?_⟩
        · simp only [DefaultPacketRlpReceiver.deliverLoop, if_neg hne, hr.resequencing_vN, Slot.item, hl]
          rfl
        · grind [takeWhile_cons, dropWhile_cons, Slot.isReceived]

lemma deliverContiguous (hr : Represents r base slots) :
    ∃ r', r.deliverContiguous = (r', items (slots.takeWhile Slot.isReceived)) ∧
      Represents r' (base + (slots.takeWhile Slot.isReceived).length) (slots.dropWhile Slot.isReceived) :=
  hr.deliverLoop hr.toNat_distance.ge

/-- **Expiry**: the head moves over what has been received or is overdue, and the loop has ended. -/
theorem expireLoop (now : ℕ) (hr : Represents r base slots) (hf : slots.length ≤ fuel) :
    ∃ r', DefaultPacketRlpReceiver.expireLoop now fuel r =
        (r', items (slots.takeWhile (Slot.due now)), (missingFrom base (slots.takeWhile (Slot.due now))).length) ∧
      Represents r' (base + (slots.takeWhile (Slot.due now)).length) (slots.dropWhile (Slot.due now)) := by
  induction fuel generalizing r base slots with
  | zero =>
    obtain rfl := length_eq_zero_iff.1 (le_zero.1 hf)
    exact ⟨r, rfl, hr⟩
  | succ fuel ih =>
    cases slots with
    | nil => exact ⟨r, if_pos (hr.vN_eq_vR_iff.2 rfl), hr⟩
    | cons slot slots =>
      have hne : r.vN ≠ r.vR := fun heq => cons_ne_nil _ _ (hr.vN_eq_vR_iff.1 heq)
      cases slot with
      | received octet =>
        obtain ⟨r1, hde, hr1⟩ := hr.deliverContiguous
        have hdr : ((Slot.received octet :: slots).dropWhile Slot.isReceived).length ≤ fuel := by
          have := (dropWhile_suffix (l := slots) Slot.isReceived).length_le
          grind [dropWhile_cons, Slot.isReceived]
        obtain ⟨r2, hl, hr2⟩ := ih hr1 hdr
        refine ⟨r2, ?_, ?_⟩
        · rw [takeWhile_of_imp (Slot.due_of_isReceived now), items_append, missingFrom_append,
            missingFrom_of_received (fun s hs => mem_takeWhile_imp hs)]
          have hso : (r.resequencing r.vN).isSome = true := by rw [hr.resequencing_vN]; rfl
          grind [DefaultPacketRlpReceiver.expireLoop]
        · rw [takeWhile_of_imp (Slot.due_of_isReceived now), dropWhile_of_imp (Slot.due_of_isReceived now),
            length_append, ← Nat.add_assoc]
          exact hr2
      | missing due =>
        have hn : (r.resequencing r.vN).isSome = false := by rw [hr.resequencing_vN]; rfl
        by_cases hdue : due ≤ now
        · have hsl : (Slot.missing due : Slot UInt8).due now = true := by simpa [Slot.due] using hdue
          obtain ⟨r', hl, hr'⟩ := ih hr.pop_missing (le_of_succ_le_succ hf)
          refine ⟨r', ?_, ?_⟩
          · simp only [DefaultPacketRlpReceiver.expireLoop, if_neg hne, hn, hr.nakAbortAt_vN, Slot.deadline,
              if_neg (Nat.not_lt.2 hdue), hl, takeWhile_cons, hsl]
            rfl
          · simpa [hsl, Nat.add_assoc, Nat.add_comm 1] using hr'
        · have hsl : (Slot.missing due : Slot UInt8).due now = false := by simpa [Slot.due] using hdue
          refine ⟨r, ?_, ?_⟩
          · simp only [DefaultPacketRlpReceiver.expireLoop, if_neg hne, hn, hr.nakAbortAt_vN, Slot.deadline,
              if_pos (Nat.lt_of_not_le hdue), takeWhile_cons, hsl]
            rfl
          · simpa [hsl] using hr

lemma expire (hr : Represents r base slots) (now : ℕ) :
    ∃ r', r.expire now = (r', { delivered := items (slots.takeWhile (Slot.due now))
                                abortedOctets := (missingFrom base (slots.takeWhile (Slot.due now))).length }) ∧
      Represents r' (base + (slots.takeWhile (Slot.due now)).length) (slots.dropWhile (Slot.due now)) := by
  obtain ⟨r', hl, hr'⟩ := hr.expireLoop now hr.toNat_distance.ge
  exact ⟨r', by rw [DefaultPacketRlpReceiver.expire, hl], hr'⟩

/-! ### An octet arrives -/

lemma recordWindow (abortAt n : ℕ) (hr : Holds modulus seq base l r.nakAbortAt) (hlen : l.length + n ≤ modulus) :
    ∃ f, DefaultPacketRlpReceiver.recordWindow abortAt n r (seq (base + l.length)) =
        ({ r with nakAbortAt := f }, seq (base + (l.length + n))) ∧
      Holds modulus seq base (l ++ replicate n (some abortAt)) f := by
  induction n generalizing l r with
  | zero => exact ⟨r.nakAbortAt, rfl, by simpa using hr⟩
  | succ n ih =>
    have hn : r.nakAbortAt (seq (base + l.length)) = none := by
      rw [hr.entry _ (by omega), List.getElem?_eq_none le_rfl]
      rfl
    have hp := hr.push seq_cyclic (by omega) (some abortAt)
    obtain ⟨f, hl, hf⟩ := ih (l := l ++ [some abortAt])
      (r := { r with nakAbortAt := update r.nakAbortAt (seq (base + l.length)) (some abortAt) })
      hp (by simp; omega)
    refine ⟨f, ?_, ?_⟩
    · rw [DefaultPacketRlpReceiver.recordWindow, hn, Option.none_or, next_seq]
      grind
    · rw [replicate_succ]
      simpa using hf

lemma recordLoop (abortAt : ℕ) (fuel : ℕ) {l : List (Option ℕ)} {r : DefaultPacketRlpReceiver}
    (hr : Holds modulus seq base l r.nakAbortAt) (hlen : l.length + left ≤ modulus) (hfu : left ≤ fuel) :
    ∃ f reqs, DefaultPacketRlpReceiver.recordLoop abortAt fuel r (seq (base + l.length)) left =
        ({ r with nakAbortAt := f }, reqs) ∧
      Holds modulus seq base (l ++ replicate left (some abortAt)) f := by
  induction fuel generalizing left l r with
  | zero =>
    obtain rfl := le_zero.1 hfu
    exact ⟨r.nakAbortAt, [], rfl, by simpa using hr⟩
  | succ fuel ih =>
    by_cases hz : left = 0
    · subst hz
      exact ⟨r.nakAbortAt, [], if_pos rfl, by simpa using hr⟩
    obtain ⟨f, hw, hf⟩ := recordWindow abortAt (min left 65535) hr (by omega)
    have hl : (l ++ replicate (min left 65535) (some abortAt)).length = l.length + min left 65535 := by simp
    obtain ⟨f', reqs, hlo, hf'⟩ := @ih (left - min left 65535) _
      { r with nakAbortAt := f } hf (by omega) (by omega)
    rw [hl] at hlo
    refine ⟨f', ⟨seq (base + l.length), UInt16.ofNat (min left 65535)⟩ :: reqs, ?_, ?_⟩
    · grind [DefaultPacketRlpReceiver.recordLoop]
    · rw [append_assoc, replicate_append_replicate,
        show min left 65535 + (left - min left 65535) = left by omega] at hf'
      exact hf'

lemma push (hr : Represents r base slots) (hlen : slots.length < half) (octet : UInt8) :
    Represents
      { r with
        resequencing := update r.resequencing (seq (base + slots.length)) (some octet)
        vR := seq (base + slots.length + 1) } base (slots ++ [.received octet]) := by
  have hm : slots.length < modulus := hlen.trans half_lt_modulus
  refine ⟨hr.vN, ?_, by simpa using hlen, ?_, ?_⟩
  · rw [length_append, length_singleton, ← Nat.add_assoc]
  · have := hr.resequencing.push seq_cyclic (by simpa using hm) (some octet)
    simpa [Slot.item] using this
  · simpa [Slot.deadline] using hr.nakAbortAt.append_none 1

lemma set (hr : Represents r base slots) (he : e < slots.length) (octet : UInt8) :
    Represents
      { r with
        resequencing := update r.resequencing (seq (base + e)) (some octet)
        nakAbortAt := update r.nakAbortAt (seq (base + e)) none } base (slots.set e (.received octet)) := by
  have hm := hr.length_lt
  refine ⟨hr.vN, by rw [length_set]; exact hr.vR, by rw [length_set]; exact hr.short, ?_, ?_⟩
  · have := hr.resequencing.set seq_cyclic (i := e) (by simpa using he) (by simp; omega) (some octet)
    simpa [Slot.item] using this
  · have := hr.nakAbortAt.set seq_cyclic (i := e) (by simpa using he) (by simp; omega) none
    simpa [Slot.deadline] using this

def Taken (base : ℕ) (slots : List (Slot UInt8)) (o : DefaultPacketRlpReceiveOutcome)
    (s : DefaultPacketRlpReceiver × DefaultPacketRlpReceiveOutcome) : Prop :=
  s.2.abortedOctets = o.abortedOctets ∧
  ∃ passed rest, slots = passed ++ rest ∧ (∀ s ∈ passed, s.isReceived = true) ∧ Stalled rest ∧
    Represents s.1 (base + passed.length) rest ∧ s.2.delivered = o.delivered ++ items passed

section

variable (hr : Represents r base slots)
include hr

lemma taken_nil (hst : Stalled slots)
    (ha : o'.abortedOctets = o.abortedOctets) (hde : o'.delivered = o.delivered) :
    Taken base slots o (r, o') :=
  ⟨ha, [], slots, rfl, by simp, hst, hr, by simpa [items] using hde⟩

lemma ingestHeld (hst : Stalled slots) (he : e < slots.length) (t : ℕ)
    (octet : UInt8) (o : DefaultPacketRlpReceiveOutcome) :
    Taken base (put e octet t slots) o (DefaultPacketRlpReceiver.ingestHeld (seq (base + e)) octet r o) := by
  have hset := hr.set he octet
  have hs := hr.resequencing_at he
  have hh := hr.seq_eq_vN_iff (he.trans hr.length_lt)
  cases hre : slots[e] with
  | received =>
    -- a duplicate, and not of the head
    have hso : (r.resequencing (seq (base + e))).isSome = true := by rw [hs, hre]; rfl
    have hnak : update r.nakAbortAt (seq (base + e)) none = r.nakAbortAt := by
      rw [update_eq_self_iff, hr.nakAbortAt_at he, hre]
      rfl
    rw [hnak, ← put_of_lt he octet t] at hset
    have hpos : e ≠ 0 := by
      rintro rfl
      have := hst _ (by rw [List.head?_eq_getElem?, List.getElem?_eq_getElem he]; rfl)
      rw [hre] at this
      cases this
    obtain ⟨e, rfl⟩ := exists_eq_succ_of_ne_zero hpos
    rw [DefaultPacketRlpReceiver.ingestHeld, if_pos hso]
    exact taken_nil hset (hst.put e octet t) rfl rfl
  | missing =>
    have hn : ¬ (r.resequencing (seq (base + e))).isSome = true := by rw [hs, hre]; simp [Slot.item]
    rw [← put_of_lt he octet t] at hset
    rw [DefaultPacketRlpReceiver.ingestHeld, if_neg hn]
    cases e with
    | zero =>
      obtain ⟨r', hde, hr'⟩ := hset.deliverContiguous
      grind [takeWhile_append_dropWhile, mem_takeWhile_imp, stalled_dropWhile,
        Represents.Taken, Lib.Slot.isReceived]
    | succ e =>
      rw [if_neg (fun h => succ_ne_zero e (hh.1 h))]
      exact taken_nil hset (hst.put e octet t) rfl rfl

lemma ingestNext (hst : Stalled slots) (hlen : slots.length < half) (t : ℕ)
    (octet : UInt8) (o : DefaultPacketRlpReceiveOutcome) :
    Taken base (put slots.length octet t slots) o
      (DefaultPacketRlpReceiver.ingestNext (seq (base + slots.length)) octet r o) := by
  have hput : put slots.length octet t slots = slots ++ [.received octet] := by simpa using put_add 0 slots octet t
  have hh := hr.seq_eq_vN_iff hr.length_lt
  have hvR : next r.vR = seq (base + slots.length + 1) := by rw [hr.vR, next_seq]
  rw [DefaultPacketRlpReceiver.ingestNext]
  cases slots with
  | nil =>
    have hvN : next r.vN = seq (base + 1) := by rw [hr.vN, next_seq]
    rw [if_pos (hh.2 rfl)]
    refine ⟨rfl, [.received octet], [], rfl, by simp [Slot.isReceived], by simp [Stalled], ?_, rfl⟩
    exact ⟨hvN, hvR, Nat.zero_le _, hr.resequencing.of_nil seq_cyclic (by decide) _,
      hr.nakAbortAt.of_nil seq_cyclic (by decide) _⟩
  | cons =>
    rw [if_neg (fun h => by cases hh.1 h), hvR]
    exact taken_nil (by rw [hput]; exact hr.push hlen octet) (hst.put _ octet t) rfl rfl

lemma ingestAhead (hst : Stalled slots) (hlen : slots.length + k < half)
    (hk : 0 < k) (now : ℕ) (octet : UInt8) (o : DefaultPacketRlpReceiveOutcome) :
    Taken base (put (slots.length + k) octet (now + defaultPacketRlpAbort) slots) o
      (DefaultPacketRlpReceiver.ingestAhead now (seq (base + (slots.length + k))) octet r o) := by
  have hm : slots.length + k < modulus := hlen.trans half_lt_modulus
  have hmi : (distance r.vR (seq (base + (slots.length + k)))).toNat = k := by
    rw [hr.vR, ← Nat.add_assoc, toNat_distance_seq _ (by omega)]
  obtain ⟨f, reqs, hre, hf⟩ := recordLoop (now + defaultPacketRlpAbort) k hr.nakAbortAt
    (by simp; omega) le_rfl
  rw [length_map] at hre
  -- the state once the gap is part of the window
  have hgap : Represents { r with nakAbortAt := f, vR := seq (base + (slots.length + k)) } base
      (slots ++ replicate k (.missing (now + defaultPacketRlpAbort))) := by
    refine ⟨hr.vN, by simp, by simp; omega, ?_, by simpa [Slot.deadline] using hf⟩
    simpa [Slot.item] using hr.resequencing.append_none k
  have hp := hgap.push (by simp; omega) octet
  rw [← put_add k slots octet, length_append, length_replicate] at hp
  obtain ⟨i, hi⟩ : ∃ i, slots.length + k = i + 1 := ⟨slots.length + k - 1, by omega⟩
  rw [DefaultPacketRlpReceiver.ingestAhead, recordMissingRange, hmi, hr.vR, hre, next_seq]
  exact taken_nil hp (by rw [hi]; exact hst.put i octet _) rfl rfl

/-- **An octet less than `2 ^ 21` ahead of `vN`** is put into the window. -/
theorem ingestOctet (hst : Stalled slots) (he : e < half) (now : ℕ)
    (octet : UInt8) (o : DefaultPacketRlpReceiveOutcome) :
    Taken base (put e octet (now + defaultPacketRlpAbort) slots) o
      (DefaultPacketRlpReceiver.ingestOctet now (seq (base + e)) octet r o) := by
  have hN : Rlp.cmp (seq (base + e)) r.vN ≠ .lt := by
    rw [hr.vN, cmp_seq base (he.trans half_lt_modulus)]
    split_ifs <;> simp
  unfold DefaultPacketRlpReceiver.ingestOctet
  split
  · rename_i hlt
    exact absurd hlt hN
  rw [hr.vR, cmp_seq_end base he hr.short]
  rcases Nat.lt_trichotomy e slots.length with hlt | rfl | hgt
  · rw [if_neg (by omega), if_neg (by omega)]
    exact hr.ingestHeld hst hlt _ octet o
  · rw [if_pos rfl]
    exact hr.ingestNext hst he _ octet o
  · obtain ⟨k, rfl⟩ := Nat.exists_eq_add_of_lt hgt
    rw [if_neg (by omega), if_pos (by omega)]
    exact hr.ingestAhead hst (k := k + 1) he (by omega) now octet o

/-- **An octet at most `2 ^ 21` behind `vN`** is dropped. -/
theorem ingestOctet_behind (he : half ≤ e) (he' : e < modulus) (now : ℕ)
    (octet : UInt8) (o : DefaultPacketRlpReceiveOutcome) :
    DefaultPacketRlpReceiver.ingestOctet now (seq (base + e)) octet r o =
      (r, { o with duplicateOctets := o.duplicateOctets + 1 }) := by
  have hN : Rlp.cmp (seq (base + e)) r.vN = .lt := by
    have hpos : 0 < half := by decide
    rw [hr.vN, cmp_seq base he', if_neg (by omega), if_neg (by omega)]
  rw [DefaultPacketRlpReceiver.ingestOctet, hN]

end

end Represents

/-! ### The numbers of the window -/

/-- A sequence number from `vN` on and before `vR`. -/
def InWindow (r : DefaultPacketRlpReceiver) (s : UInt32) : Prop :=
  s.toNat < modulus ∧ distance r.vN s < distance r.vN r.vR

namespace Represents

variable {r : DefaultPacketRlpReceiver} {base : ℕ} {slots : List (Slot UInt8)}

section

variable (hr : Represents r base slots)
include hr

lemma inWindow_iff :
    InWindow r s ↔ ∃ i < slots.length, s = seq (base + i) := by
  have hlen := hr.length_lt
  have hdi {e : ℕ} (he : e < modulus) :
      distance r.vN (seq (base + e)) < distance r.vN r.vR ↔ e < slots.length := by
    rw [UInt32.lt_iff_toNat_lt, hr.toNat_distance, hr.vN, toNat_distance_seq base he]
  refine ⟨fun ⟨hs, hlt⟩ => ?_, ?_⟩
  · obtain ⟨e, he, rfl⟩ := exists_ahead base hs
    exact ⟨e, (hdi he).1 hlt, rfl⟩
  · rintro ⟨i, hi, rfl⟩
    exact ⟨toNat_seq_lt _, (hdi (by omega)).2 hi⟩

lemma exactly_one (hs : InWindow r s) :
    (r.resequencing s).isSome = !(r.nakAbortAt s).isSome := by
  obtain ⟨i, hi, rfl⟩ := hr.inWindow_iff.1 hs
  rw [hr.resequencing_at hi, hr.nakAbortAt_at hi]
  cases slots[i] <;> rfl

lemma outside (hs : ¬ InWindow r s) :
    r.resequencing s = none ∧ r.nakAbortAt s = none := by
  by_cases hlt : s.toNat < modulus
  · obtain ⟨e, he, rfl⟩ := exists_ahead base hlt
    have hge : slots.length ≤ e := by
      by_contra hlt'
      exact hs (hr.inWindow_iff.2 ⟨e, by omega, rfl⟩)
    rw [hr.resequencing.entry e he, hr.nakAbortAt.entry e he, List.getElem?_eq_none (by simpa using hge),
      List.getElem?_eq_none (by simpa using hge)]
    exact ⟨rfl, rfl⟩
  · have hne : ∀ n, s ≠ seq n := by
      rintro n rfl
      exact hlt (toNat_seq_lt n)
    exact ⟨hr.resequencing.outside s hne, hr.nakAbortAt.outside s hne⟩

lemma due_of_deadlines
    (hnow : ∀ s due, r.nakAbortAt s = some due → due ≤ now) : ∀ s ∈ slots, s.due now = true := by
  intro slot hs
  obtain ⟨i, hi, rfl⟩ := getElem_of_mem hs
  have hat := hr.nakAbortAt_at hi
  cases h : slots[i] <;> grind [Lib.Slot.due, Lib.Slot.deadline]

end

end Represents

/-! ### Runs -/

inductive Op where
  | ingest (sequence : UInt32) (payload : List UInt8) (now : ℕ)
  | expire (now : ℕ)

def step (r : DefaultPacketRlpReceiver) :
    Op → Option (DefaultPacketRlpReceiver × DefaultPacketRlpReceiveOutcome)
  | .ingest sequence payload now => some (r.ingest sequence payload now)
  | .expire now => some (r.expire now)

/-- The state is a window whose head is not there yet. -/
def Windowed (r : DefaultPacketRlpReceiver) : Prop := ∃ base slots, Represents r base slots ∧ Stalled slots

lemma Windowed.expire (hr : Windowed r) (now : ℕ) : Windowed (r.expire now).1 := by
  obtain ⟨base, slots, hr, -⟩ := hr
  obtain ⟨r', he, hr'⟩ := hr.expire now
  rw [he]
  exact ⟨_, _, hr', stalled_dropWhile (fun _ => rfl) _⟩

lemma ingestOctets_cons (now : ℕ) (seq : UInt32) (offset : ℕ) (octet : UInt8) (payload : List UInt8)
    (r : DefaultPacketRlpReceiver) (o : DefaultPacketRlpReceiveOutcome)
    (hx : (seq + UInt32.ofNat offset) &&& sequenceMask = x) :
    ingestOctets now seq offset (octet :: payload) r o =
      ingestOctets now seq (offset + 1) payload (ingestOctet now x octet r o).1
        (ingestOctet now x octet r o).2 := by
  rw [← hx]
  rfl

lemma Windowed.ingestOctets (hr : Windowed r) (now : ℕ) (seq : UInt32)
    (payload : List UInt8) (offset : ℕ) (o : DefaultPacketRlpReceiveOutcome) :
    Windowed (ingestOctets now seq offset payload r o).1 := by
  induction payload generalizing offset r o with
  | nil => exact hr
  | cons octet payload ih =>
    obtain ⟨base, slots, hr, hst⟩ := hr
    obtain ⟨e, he, hx⟩ := exists_ahead base
      (s := (seq + UInt32.ofNat offset) &&& sequenceMask) (by rw [and_sequenceMask]; exact toNat_seq_lt _)
    rw [ingestOctets_cons now seq offset octet payload r o hx]
    refine ih ?_ (offset + 1) _
    by_cases hh : e < half
    · obtain ⟨-, passed, rest, -, -, hst', hr', -⟩ := hr.ingestOctet hst hh now octet o
      exact ⟨_, _, hr', hst'⟩
    · rw [hr.ingestOctet_behind (by omega) he]
      exact ⟨base, slots, hr, hst⟩

lemma Windowed.step (hr : Windowed r) (hs : step r op = some (r', o)) : Windowed r' := by
  cases op with
  | ingest seq payload now =>
    have hc : r' = (r.ingest seq payload now).1 := (congrArg Prod.fst (Option.some.inj hs)).symm
    rw [hc]
    exact (hr.expire now).ingestOctets now seq payload 0 _
  | expire now =>
    have hc : r' = (r.expire now).1 := (congrArg Prod.fst (Option.some.inj hs)).symm
    rw [hc]
    exact hr.expire now

/-- **The receiver never stalls.** After any sequence of calls, with any sequence numbers, payloads and times: the
window has at most `2 ^ 21` numbers; each of them is in exactly one of the two maps, and no other number is in either;
and when every deadline is past, `expire` empties the window. -/
theorem window_partition {r : DefaultPacketRlpReceiver} {log : List (Op × DefaultPacketRlpReceiveOutcome)}
    (hrun : Run (steps step) reset r log) :
    (distance r.vN r.vR).toNat ≤ 2 ^ 21 ∧
    (∀ s, InWindow r s → (r.resequencing s).isSome = !(r.nakAbortAt s).isSome) ∧
    (∀ s, ¬ InWindow r s → r.resequencing s = none ∧ r.nakAbortAt s = none) ∧
    ∀ now, (∀ s deadline, r.nakAbortAt s = some deadline → deadline ≤ now) →
      (r.expire now).1.vN = (r.expire now).1.vR ∧
      ∀ s, (r.expire now).1.resequencing s = none ∧ (r.expire now).1.nakAbortAt s = none := by
  obtain ⟨base, slots, hr, -⟩ : Windowed r :=
    hrun.inv (fun r _ => Windowed r) ⟨0, [], Represents.reset, by simp [Stalled]⟩
      fun r op r' o log hr hst => hr.step hst.2
  refine ⟨hr.toNat_distance.trans_le hr.short, fun s => hr.exactly_one, fun s => hr.outside, fun now hnow => ?_⟩
  obtain ⟨r', he, hr'⟩ := hr.expire now
  rw [dropWhile_eq_nil_iff.2 (hr.due_of_deadlines hnow)] at hr'
  rw [he]
  refine ⟨hr'.vN_eq_vR_iff.2 rfl, fun s => hr'.outside fun hs => ?_⟩
  obtain ⟨i, hi, -⟩ := hr'.inWindow_iff.1 hs
  cases hi

instance (r : DefaultPacketRlpReceiver) (s : UInt32) : Decidable (InWindow r s) := inferInstanceAs (Decidable (_ ∧ _))

/-- Octets 0 and 1 and then 4 to 6 arrive: 2 is missing until its deadline, and then nothing is left. -/
theorem window_partition_gap :
    ∃ r log, Run (steps step) reset r log ∧ InWindow r 2 ∧ r.nakAbortAt 2 = some 510 ∧
      (r.resequencing 2).isSome = false ∧ (r.expire 510).1.vN = (r.expire 510).1.vR := by
  obtain ⟨r, log, hrun, htwo, hm, hvN, hvR, hde⟩ := exists_run step (fun _ _ => True) reset
    [.ingest 0 [10, 11] 0, .ingest 4 [14, 15, 16] 10]
    (fun r _ => InWindow r 2 ∧ r.nakAbortAt 2 = some 510 ∧ r.vN = seq 2 ∧ r.vR = seq (2 + 5) ∧
      ∀ i ∈ List.range 5, (r.nakAbortAt (seq (2 + i))).all (· ≤ 510) = true)
    (by decide +kernel)
  obtain ⟨-, hone, hn, hex⟩ := window_partition hrun
  refine ⟨r, log, hrun, htwo, hm, by rw [hone 2 htwo, hm]; rfl, (hex 510 ?_).1⟩
  intro s deadline hs
  have hin : InWindow r s := by
    by_contra hout
    rw [(hn s hout).2] at hs
    cases hs
  obtain ⟨hlt, hdi⟩ := hin
  obtain ⟨e, he, rfl⟩ := exists_ahead 2 hlt
  rw [UInt32.lt_iff_toNat_lt, hvN, hvR, toNat_distance_seq 2 he, toNat_distance_seq 2 (by decide)] at hdi
  grind

end OneXBts.An.Air
