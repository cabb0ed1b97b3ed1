import OneXBts.Bts.HarqBus

/-!
Purging a MAC index from the H-ARQ bus.

Everything the bus keeps for a MAC index is a row of its own. Of the row that is purged the history of DRC values stays: a
value is found there after the purge, unless another slot has taken its cell of the ring since.
-/

namespace OneXBts.Bts.Hrpd

inductive BusOp where
  | scheduleArqAtSlot (mac : UInt8) (slot : ℕ) (hOrL p : ArqLevel)
  | arqAtSlot (mac : UInt8) (slot : ℕ)
  | scheduleRpcAtSlot (mac : UInt8) (slot : ℕ) (rpcBit : UInt8)
  | rpcAtSlot (mac : UInt8) (slot : ℕ)
  | setCurrentDrcAtSlot (mac : UInt8) (slot : ℕ) (drcIndex : UInt8)
  | publishEmission (mac : UInt8) (event : HarqEmissionEvent)
  | drainEmissions (mac : UInt8)
  | popEmission (mac : UInt8)
  | publishFeedback (mac : UInt8) (event : HarqFeedbackEvent)
  | drainFeedback (mac : UInt8)
  | purgeMacQueues (mac : UInt8)

structure Lookups where
  emissions : List HarqEmissionEvent
  feedback : List HarqFeedbackEvent
  currentDrcRecord : Option (ℕ × UInt8)
  drcAtSlot : ℕ → Option UInt8
  governingDrc : ℕ → ℕ → ℕ → Option UInt8
  rpcAtSlot : ℕ → Option UInt8
  arqAtSlot : ℕ → Option ArqSlot

namespace HarqBus

def apply (bus : HarqBus) : BusOp → HarqBus
  | .scheduleArqAtSlot mac slot hOrL p => bus.scheduleArqAtSlot mac slot hOrL p
  | .arqAtSlot mac slot => (bus.arqAtSlot mac slot).1
  | .scheduleRpcAtSlot mac slot rpcBit => bus.scheduleRpcAtSlot mac slot rpcBit
  | .rpcAtSlot mac slot => (bus.rpcAtSlot mac slot).1
  | .setCurrentDrcAtSlot mac slot drcIndex => bus.setCurrentDrcAtSlot mac slot drcIndex
  | .publishEmission mac event => bus.publishEmission mac event
  | .drainEmissions mac => (bus.drainEmissions mac).1
  | .popEmission mac => bus.popEmission mac
  | .publishFeedback mac event => bus.publishFeedback mac event
  | .drainFeedback mac => (bus.drainFeedback mac).1
  | .purgeMacQueues mac => (bus.purgeMacQueues mac).1

def after (ops : List BusOp) : HarqBus := ops.foldl apply .new

def lookups (bus : HarqBus) (mac : UInt8) : Lookups where
  emissions := (bus.drainEmissions mac).2
  feedback := (bus.drainFeedback mac).2
  currentDrcRecord := bus.currentDrcRecord mac
  drcAtSlot := bus.drcAtSlot mac
  governingDrc := bus.governingDrc mac
  rpcAtSlot := fun slot => (bus.rpcAtSlot mac slot).2
  arqAtSlot := fun slot => (bus.arqAtSlot mac slot).2

end HarqBus

open HarqBus List Option Function

/-! ### The history of DRC values -/

def packedDrc (slot : ℕ) (drcIndex : UInt8) : ℕ := slot * 2 ^ 8 % 2 ^ 64 + drcIndex.toNat

def BusOp.drcWrite? (mac : UInt8) (cell : ℕ) : BusOp → Option ℕ
  | .setCurrentDrcAtSlot m slot drcIndex =>
    if m = mac ∧ slot % drcHistoryRingSlots = cell then some (packedDrc slot drcIndex) else none
  | _ => none

def lastDrc (ops : List BusOp) (mac : UInt8) (cell : ℕ) : Option ℕ := (ops.filterMap (BusOp.drcWrite? mac cell)).getLast?

/-- No DRC value of the MAC index is in the history. -/
def NoDrcKept (ops : List BusOp) (mac : UInt8) : Prop :=
  ∀ cell, ∀ packed ∈ lastDrc ops mac cell, packed = drcRecordUnset

section History

variable {bus : HarqBus} {ops : List BusOp} {mac : UInt8}

lemma drcHistory_apply (hmac : mac.toNat < macIndexCount) (op : BusOp) (cell : ℕ) :
    (bus.apply op).drcHistory mac cell = (op.drcWrite? mac cell).getD (bus.drcHistory mac cell) := by
  cases op with
  | setCurrentDrcAtSlot m slot =>
    simp only [HarqBus.apply, setCurrentDrcAtSlot, BusOp.drcWrite?]
    by_cases hm : m = mac
    · subst hm
      by_cases hc : slot % drcHistoryRingSlots = cell
      · simp [hmac, hc, packedDrc]
      · simp [hmac, hc, update_of_ne (Ne.symm hc)]
    · simp only [hm, false_and, if_false]
      split_ifs
      · simp [update_of_ne (Ne.symm hm)]
      · simp [update_of_ne (Ne.symm hm)]
      · rfl
  | _ =>
    -- no other operation writes to the history
    simp only [HarqBus.apply, HarqBus.scheduleArqAtSlot, HarqBus.arqAtSlot, HarqBus.scheduleRpcAtSlot, HarqBus.rpcAtSlot,
      HarqBus.publishEmission, HarqBus.publishFeedback, HarqBus.drainEmissions, HarqBus.drainFeedback,
      HarqBus.popEmission, HarqBus.purgeMacQueues]
    split_ifs <;> rfl

lemma drcHistory_after (hmac : mac.toNat < macIndexCount) (ops : List BusOp) (cell : ℕ) :
    (after ops).drcHistory mac cell = (lastDrc ops mac cell).getD drcRecordUnset := by
  induction ops using reverseRecOn with
  | nil => rfl
  | append_singleton => grind [drcHistory_apply, HarqBus.after, lastDrc]

lemma packedDrc_slot (slot : ℕ) (drcIndex : UInt8) :
    packedDrc slot drcIndex / 2 ^ 8 % drcHistoryRingSlots = slot % drcHistoryRingSlots := by
  have hdrc := drcIndex.toNat_lt
  unfold packedDrc drcHistoryRingSlots
  omega

lemma mem_lastDrc (h : packed ∈ lastDrc ops mac cell) :
    packed / 2 ^ 8 % drcHistoryRingSlots = cell := by
  obtain ⟨op, -, hop⟩ := mem_filterMap.1 (mem_of_getLast? h)
  cases op with
  | setCurrentDrcAtSlot =>
    simp only [BusOp.drcWrite?, ite_none_right_eq_some, some.injEq] at hop
    obtain ⟨⟨-, hc⟩, rfl⟩ := hop
    rw [packedDrc_slot, hc]
  | _ => cases hop

lemma drcAtSlot_none_iff (hmac : mac.toNat < macIndexCount) :
    (∀ slot, (after ops).drcAtSlot mac slot = none) ↔ NoDrcKept ops mac := by
  have hlo : ∀ slot, (after ops).drcAtSlot mac slot = none ↔
      (after ops).drcHistory mac (slot % drcHistoryRingSlots) = drcRecordUnset ∨
      (after ops).drcHistory mac (slot % drcHistoryRingSlots) / 2 ^ 8 ≠ slot := by
    intro slot
    simp only [drcAtSlot, if_pos hmac]
    split_ifs with h <;> grind
  constructor
  · intro hn cell packed hl
    have hc := mem_lastDrc hl
    have hhas : (after ops).drcHistory mac cell = packed := by rw [drcHistory_after hmac, hl, getD_some]
    grind
  · intro hk slot
    rw [hlo, drcHistory_after hmac]
    cases hl : lastDrc ops mac (slot % drcHistoryRingSlots) with
    | none => exact .inl rfl
    | some packed => exact .inl (hk _ packed hl)

lemma noDrcKept_iff (hdrc : ∀ m slot drcIndex, BusOp.setCurrentDrcAtSlot m slot drcIndex ∈ ops → drcIndex ≠ 0xff) :
    NoDrcKept ops mac ↔ ∀ slot drcIndex, BusOp.setCurrentDrcAtSlot mac slot drcIndex ∉ ops := by
  constructor
  · intro hk slot drcIndex hmem
    have hwr : packedDrc slot drcIndex ∈ ops.filterMap (BusOp.drcWrite? mac (slot % drcHistoryRingSlots)) :=
      mem_filterMap.2 ⟨_, hmem, if_pos ⟨rfl, rfl⟩⟩
    obtain ⟨packed, hl⟩ : ∃ packed, lastDrc ops mac (slot % drcHistoryRingSlots) = some packed :=
      ⟨_, List.getLast?_eq_some_getLast (ne_nil_of_mem hwr)⟩
    have hu := hk _ packed hl
    obtain ⟨op, hop, hw⟩ := mem_filterMap.1 (mem_of_getLast? hl)
    cases op with
    | setCurrentDrcAtSlot m slot' drcIndex' =>
      simp only [BusOp.drcWrite?, ite_none_right_eq_some, some.injEq] at hw
      have hne := hdrc m slot' drcIndex' hop
      have hlt := drcIndex'.toNat_lt
      have hff : drcIndex'.toNat ≠ 255 := fun h => hne (UInt8.toNat_inj.1 h)
      rw [hu] at hw
      unfold packedDrc drcRecordUnset at hw
      omega
    | _ => cases hw
  · intro hn cell packed hl
    obtain ⟨op, hop, hw⟩ := mem_filterMap.1 (mem_of_getLast? hl)
    cases op with
    | setCurrentDrcAtSlot =>
      simp only [BusOp.drcWrite?, ite_none_right_eq_some, some.injEq] at hw
      grind
    | _ => cases hw

end History

/-! ### The purge -/

section Purge

variable (bus : HarqBus) {mac other : UInt8}

lemma lookups_purge_of_ne (hne : other ≠ mac) : (bus.purgeMacQueues mac).1.lookups other = bus.lookups other := by
  by_cases hmac : mac.toNat < macIndexCount
  · simp [HarqBus.purgeMacQueues, hmac, lookups, HarqBus.drainEmissions, HarqBus.drainFeedback,
      HarqBus.currentDrcRecord, HarqBus.drcAtSlot, HarqBus.governingDrc, HarqBus.rpcAtSlot, HarqBus.arqAtSlot, hne,
      funext_iff, apply_ite Prod.snd]
  · simp [HarqBus.purgeMacQueues, hmac, HarqBus.drainEmissions, HarqBus.drainFeedback]

lemma lookups_purge (hmac : mac.toNat < macIndexCount) :
    (bus.purgeMacQueues mac).1.lookups mac =
      { HarqBus.new.lookups mac with drcAtSlot := bus.drcAtSlot mac, governingDrc := bus.governingDrc mac } := by
  simp [HarqBus.purgeMacQueues, hmac, lookups, HarqBus.drainEmissions, HarqBus.drainFeedback, HarqBus.currentDrcRecord,
    HarqBus.drcAtSlot, HarqBus.governingDrc, HarqBus.rpcAtSlot, HarqBus.arqAtSlot, HarqBus.new, funext_iff]

/-- **What a purge leaves.** After any sequence of operations: every other MAC index has what it had, and the one that is
purged has what it has on a new bus exactly if no DRC value of it is in the history. -/
theorem purge_erases_iff (ops : List BusOp) (mac : UInt8) (hmac : mac.toNat < macIndexCount) :
    (∀ other, other ≠ mac → ((after ops).purgeMacQueues mac).1.lookups other = (after ops).lookups other) ∧
    (((after ops).purgeMacQueues mac).1.lookups mac = HarqBus.new.lookups mac ↔ NoDrcKept ops mac) := by
  refine ⟨fun other hne => lookups_purge_of_ne _ hne, ?_⟩
  have hnew : ∀ slot, HarqBus.new.drcAtSlot mac slot = none := by simp [HarqBus.drcAtSlot, HarqBus.new]
  rw [lookups_purge _ hmac, ← drcAtSlot_none_iff hmac]
  constructor
  · intro h slot
    exact (congrFun (congrArg Lookups.drcAtSlot h) slot).trans (hnew slot)
  intro h
  have hdrc : (after ops).drcAtSlot mac = HarqBus.new.drcAtSlot mac := by
    funext slot
    rw [h, hnew]
  have hg : (after ops).governingDrc mac = HarqBus.new.governingDrc mac := by
    funext startSlot frameOffset drcLength
    exact congrFun hdrc _
  rw [hdrc, hg]
  rfl

end Purge

/-- A MAC index with feedback and a power control bit, and a DRC value for another one. -/
theorem purge_erases_without_drc :
    ((after [.publishFeedback 5 ⟨1, 0, .ack⟩, .scheduleRpcAtSlot 5 9 1, .setCurrentDrcAtSlot 6 7 4]).purgeMacQueues 5).1.lookups
      5 = HarqBus.new.lookups 5 := by
  refine (purge_erases_iff _ 5 (by decide)).2.2 ((noDrcKept_iff ?_).2 ?_) <;> grind

/-- A DRC value that was recorded for slot 7 governs slot 8 after the purge. -/
theorem purge_keeps_drc : ((after [.setCurrentDrcAtSlot 5 7 4]).purgeMacQueues 5).1.drcAtSlot 5 7 = some 4 ∧
    ((after [.setCurrentDrcAtSlot 5 7 4]).purgeMacQueues 5).1.governingDrc 5 8 0 8 = some 4 ∧
    HarqBus.new.drcAtSlot 5 7 = none ∧ HarqBus.new.governingDrc 5 8 0 8 = none := by decide

end OneXBts.Bts.Hrpd
