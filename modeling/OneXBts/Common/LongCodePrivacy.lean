import OneXBts.Lib.Runs

/-!
Private long code transitions at explicit action times (`long_code_privacy.rs`).

A transition is requested, and armed by a response before its action chip. Only the request compares action chips: there is
only one pending transition, later than every accepted one, so the list stays in order. The mask at a chip is that of the
transition with the largest action chip up to it. Each call holds the lock, so a history is a sequence of calls.
-/

namespace OneXBts.Common

open Lib List

structure LongCodeTransition where
  actionChip : ℕ
  isPrivate : Bool
  deriving DecidableEq, Repr

structure LongCodePrivacy where
  publicMask : BitVec 64
  privateMask : BitVec 64
  pending : Option LongCodeTransition := none
  accepted : List LongCodeTransition := []
  deriving DecidableEq, Repr

namespace LongCodePrivacy

def request (s : LongCodePrivacy) (transition : LongCodeTransition) : LongCodePrivacy × Bool :=
  if s.pending.isSome ∨ s.accepted.getLast?.any (fun last => decide (last.actionChip ≥ transition.actionChip)) = true then
    (s, false)
  else ({ s with pending := some transition }, true)

def cancelPending (s : LongCodePrivacy) : LongCodePrivacy := { s with pending := none }

/-- A response takes the pending transition, and accepts it if it is for the same direction and in time. -/
def respond (s : LongCodePrivacy) (isPrivate : Bool) (receivedChip : ℕ) : LongCodePrivacy × Bool :=
  match s.pending with
  | none => (s, false)
  | some pending =>
    if pending.isPrivate ≠ isPrivate ∨ receivedChip ≥ pending.actionChip then ({ s with pending := none }, false)
    else ({ s with pending := none, accepted := s.accepted ++ [pending] }, true)

def isPrivateAt (s : LongCodePrivacy) (chip : ℕ) : Bool :=
  (s.accepted.reverse.find? (·.actionChip ≤ chip)).any (·.isPrivate)

def maskAt (s : LongCodePrivacy) (chip : ℕ) : BitVec 64 := if s.isPrivateAt chip then s.privateMask else s.publicMask

/-! ### Histories -/

inductive Call where
  | request (transition : LongCodeTransition)
  | cancelPending
  | respond (isPrivate : Bool) (receivedChip : ℕ)
  deriving DecidableEq, Repr

def step (s : LongCodePrivacy) : Call → Option (LongCodePrivacy × Option Bool)
  | .request transition => some ((s.request transition).1, some (s.request transition).2)
  | .cancelPending => some (s.cancelPending, none)
  | .respond isPrivate receivedChip =>
    some ((s.respond isPrivate receivedChip).1, some (s.respond isPrivate receivedChip).2)

/-- The transition was requested, and since then there were only requests that were refused. -/
def Requested (log : List (Call × Option Bool)) (transition : LongCodeTransition) : Prop :=
  ∃ before between, log = before ++ (.request transition, some true) :: between ∧
    ∀ e ∈ between, ∃ other, e = (.request other, some false)

/-- The transition was requested, and then confirmed by a response for its direction before its action chip. -/
def Confirmed (log : List (Call × Option Bool)) (transition : LongCodeTransition) : Prop :=
  ∃ before after receivedChip, log = before ++ (.respond transition.isPrivate receivedChip, some true) :: after ∧
    receivedChip < transition.actionChip ∧ Requested before transition

structure Ordered (s : LongCodePrivacy) (log : List (Call × Option Bool)) : Prop where
  increasing : s.accepted.Pairwise fun t t' => t.actionChip < t'.actionChip
  pending : ∀ t ∈ s.pending, (∀ t' ∈ s.accepted, t'.actionChip < t.actionChip) ∧ Requested log t
  accepted : ∀ t ∈ s.accepted, Confirmed log t

section Ordered

variable {s s' : LongCodePrivacy} {log : List (Call × Option Bool)}

lemma Confirmed.append (h : Confirmed log t) (more : List (Call × Option Bool)) :
    Confirmed (log ++ more) t := by
  obtain ⟨before, after, chip, rfl, hlt, hreq⟩ := h
  exact ⟨before, after ++ more, chip, by simp, hlt, hreq⟩

lemma request_cases (s : LongCodePrivacy) (t : LongCodeTransition) :
    s.request t = (s, false) ∨ s.request t = ({ s with pending := some t }, true) ∧ s.pending = none ∧
      ∀ last ∈ s.accepted.getLast?, last.actionChip < t.actionChip := by
  unfold request
  split_ifs with h
  · exact .inl rfl
  obtain ⟨hn, hno⟩ := not_or.1 h
  refine .inr ⟨rfl, by simpa using hn, fun last hl => ?_⟩
  rw [Option.mem_def.1 hl] at hno
  simpa using hno

lemma respond_cases (s : LongCodePrivacy) (isPrivate : Bool) (chip : ℕ) :
    (s.respond isPrivate chip = ({ s with pending := none }, false)) ∨
    ∃ t, s.pending = some t ∧ t.isPrivate = isPrivate ∧ chip < t.actionChip ∧
      s.respond isPrivate chip = ({ s with pending := none, accepted := s.accepted ++ [t] }, true) := by
  grind [cases LongCodePrivacy, LongCodePrivacy.respond]

lemma lt_of_last {accepted : List LongCodeTransition}
    (hs : accepted.Pairwise fun t t' => t.actionChip < t'.actionChip) {chip : ℕ}
    (hl : ∀ last ∈ accepted.getLast?, last.actionChip < chip) : ∀ t ∈ accepted, t.actionChip < chip := by
  intro t ht
  rcases eq_nil_or_concat accepted with rfl | ⟨init, last, rfl⟩
  · cases ht
  rw [concat_eq_append] at *
  have hlt := hl last (by simp)
  rcases mem_append.1 ht with ht | ht
  · exact ((pairwise_append.1 hs).2.2 t ht last (by simp)).trans hlt
  · rw [mem_singleton.1 ht]
    exact hlt

lemma ordered_step {call : Call} {o : Option Bool} (h : Ordered s log) (hs : s.step call = some (s', o)) :
    Ordered s' (log ++ [(call, o)]) := by
  have ha : ∀ t ∈ s.accepted, Confirmed (log ++ [(call, o)]) t := fun t ht => (h.accepted t ht).append _
  cases call with
  | request t =>
    rw [step] at hs
    rcases request_cases s t with hc | ⟨hc, hn, hl⟩
    · rw [hc] at hs
      cases hs
      refine ⟨h.increasing, fun t' ht' => ⟨(h.pending t' ht').1, ?_⟩, ha⟩
      grind +splitImp [cases LongCodePrivacy.Ordered, LongCodePrivacy.Requested]
    · rw [hc] at hs
      cases hs
      refine ⟨h.increasing, fun t' ht' => ?_, ha⟩
      cases ht'
      exact ⟨lt_of_last h.increasing hl, log, [], rfl, by simp⟩
  | cancelPending =>
    cases hs
    exact ⟨h.increasing, by simp [cancelPending], ha⟩
  | respond isPrivate chip =>
    rw [step] at hs
    rcases respond_cases s isPrivate chip with hc | ⟨t, hp, rfl, hlt, hc⟩
    · rw [hc] at hs
      cases hs
      exact ⟨h.increasing, by simp, ha⟩
    rw [hc] at hs
    cases hs
    obtain ⟨hla, hreq⟩ := h.pending t hp
    refine ⟨?_, by simp, ?_⟩
    · grind [cases LongCodePrivacy.Ordered]
    · rw [forall_mem_append, forall_mem_singleton]
      exact ⟨ha, log, [], chip, rfl, hlt, hreq⟩

/-- The accepted transition with the largest action chip up to a chip. -/
def InForce (s : LongCodePrivacy) (chip : ℕ) (t : LongCodeTransition) : Prop :=
  t ∈ s.accepted ∧ t.actionChip ≤ chip ∧ ∀ t' ∈ s.accepted, t'.actionChip ≤ chip → t'.actionChip ≤ t.actionChip

section

variable (hs : s.accepted.Pairwise fun t t' => t.actionChip < t'.actionChip)
include hs

lemma inForce_of_find
    (hf : s.accepted.reverse.find? (·.actionChip ≤ chip) = some t) : s.InForce chip t := by
  obtain ⟨hle, late, early, hsp, hno⟩ := List.find?_eq_some_iff_append.1 hf
  have ha : s.accepted = early.reverse ++ t :: late.reverse := by
    rw [← reverse_reverse s.accepted, hsp]
    simp
  refine ⟨ha ▸ by simp, by simpa using hle, fun t' ht' hle' => ?_⟩
  rw [ha] at ht' hs
  rcases mem_append.1 ht' with ht' | ht'
  · exact ((pairwise_append.1 hs).2.2 t' ht' t (by simp)).le
  grind

lemma InForce.unique
    (h : s.InForce chip t) (h' : s.InForce chip t') : t = t' := by
  obtain ⟨hmem, hle, hmax⟩ := h
  obtain ⟨hmem', hle', hmax'⟩ := h'
  have hc : t.actionChip = t'.actionChip := le_antisymm (hmax' t hmem hle) (hmax t' hmem' hle')
  exact inj_on_of_nodup_map (pairwise_map.2 (hs.imp Nat.ne_of_lt)) hmem hmem' hc

lemma isPrivateAt_iff (chip : ℕ) :
    s.isPrivateAt chip = true ↔ ∃ t, s.InForce chip t ∧ t.isPrivate = true := by
  unfold isPrivateAt
  constructor
  · grind [Option.any_eq_true, inForce_of_find]
  rintro ⟨t, hf, hp⟩
  cases hfi : s.accepted.reverse.find? (·.actionChip ≤ chip) with
  | none =>
    have := List.find?_eq_none.1 hfi t (mem_reverse.2 hf.1)
    exact absurd (decide_eq_true hf.2.1) this
  | some =>
    rw [(inForce_of_find hs hfi).unique hs hf]
    exact hp

end

lemma maskAt_respond (s : LongCodePrivacy) (isPrivate : Bool) (hle : chip ≤ receivedChip) :
    (s.respond isPrivate receivedChip).1.maskAt chip = s.maskAt chip := by
  rcases respond_cases s isPrivate receivedChip with hc | ⟨t, -, -, hlt, hc⟩
  · rw [hc]
    rfl
  have hf : (s.accepted ++ [t]).reverse.find? (·.actionChip ≤ chip) =
      s.accepted.reverse.find? (·.actionChip ≤ chip) := by
    rw [reverse_append, reverse_singleton, singleton_append, List.find?_cons_of_neg]
    simp
    omega
  rw [hc]
  unfold maskAt isPrivateAt
  rw [hf]

end Ordered

/-- **The mask never changes retroactively.** For every sequence of calls: the accepted action chips increase strictly;
each accepted transition was requested and then confirmed, for its direction and before its action chip; the mask at a
chip is the private one exactly when the accepted transition in force there is private; and a response does not change
the mask up to the chip at which it is received. -/
theorem mask_not_retroactive (publicMask privateMask : BitVec 64) {s : LongCodePrivacy} {log : List (Call × Option Bool)}
    (hrun : Run (steps step) { publicMask := publicMask, privateMask := privateMask } s log) :
    (s.accepted.Pairwise fun t t' => t.actionChip < t'.actionChip) ∧
    (∀ t ∈ s.accepted, Confirmed log t) ∧
    (∀ chip, ((∃ t, s.InForce chip t ∧ t.isPrivate = true) → s.maskAt chip = privateMask) ∧
      ((¬∃ t, s.InForce chip t ∧ t.isPrivate = true) → s.maskAt chip = publicMask)) ∧
    ∀ isPrivate receivedChip chip, chip ≤ receivedChip →
      (s.respond isPrivate receivedChip).1.maskAt chip = s.maskAt chip := by
  have h : Ordered s log ∧ s.publicMask = publicMask ∧ s.privateMask = privateMask := by
    refine hrun.inv (fun s log => Ordered s log ∧ s.publicMask = publicMask ∧ s.privateMask = privateMask)
      ⟨⟨by simp, by simp, by simp⟩, rfl, rfl⟩ ?_
    rintro s call s' o log ⟨hord, hpub, hp⟩ ⟨-, hs⟩
    refine ⟨ordered_step hord hs, ?_⟩
    cases call with
    | request => grind [step, request_cases]
    | cancelPending =>
      cases hs
      exact ⟨hpub, hp⟩
    | respond isPrivate chip =>
      rw [step] at hs
      rcases respond_cases s isPrivate chip with hc | ⟨t, -, -, -, hc⟩ <;> grind
  obtain ⟨hord, rfl, rfl⟩ := h
  refine ⟨hord.increasing, hord.accepted, fun chip => ?_, fun isPrivate receivedChip chip => maskAt_respond s isPrivate⟩
  rw [← isPrivateAt_iff hord.increasing chip]
  exact ⟨fun h => if_pos h, fun h => if_neg h⟩

/-- Two transitions; a request that is too early and a response that is too late in between. -/
theorem mask_not_retroactive_two :
    ∃ s log, Run (steps step) { publicMask := 1, privateMask := 2 } s log ∧
      s.accepted = [⟨10, true⟩, ⟨30, false⟩] ∧ ∀ t ∈ s.accepted, Confirmed log t := by
  obtain ⟨s, log, hrun, ha⟩ := exists_run step (fun _ _ => True) { publicMask := 1, privateMask := 2 }
    [.request ⟨10, true⟩, .request ⟨20, false⟩, .respond true 9, .request ⟨10, false⟩, .request ⟨20, false⟩,
      .respond false 20, .request ⟨25, false⟩, .cancelPending, .request ⟨30, false⟩, .respond false 29]
    (fun s _ => s.accepted = [⟨10, true⟩, ⟨30, false⟩]) (by decide)
  exact ⟨s, log, hrun, ha, (mask_not_retroactive 1 2 hrun).2.1⟩

end LongCodePrivacy

end OneXBts.Common
