import OneXBts.An.SlpD
import OneXBts.Lib.Runs
import OneXBts.Lib.LossyLink

/-!
The receiver of reliable stream 0 messages against a peer with a window of four.

`top` is one more than the highest message that has arrived, kept modulo 8. The code clears ranges of flags that end at 8 or
at the old next number, not those ahead in the cycle: a message is `Forgotten` when one arrives that takes `top` into a
later block of eight. `Tracks` describes the flags exactly, and `accept_tracks` which arrivals are treated correctly.
-/

namespace OneXBts.An.Air.SlpD

open Lib List Nat

/-! ### What the receiver computes -/

section Accept

variable {pending : PendingTrafficAssignment} {s : UInt8} {V i : ℕ}

lemma toNat_and_seven (x : UInt8) : (x &&& 0x07).toNat = x.toNat % 8 := by
  rw [UInt8.toNat_and]
  exact and_two_pow_sub_one_eq_mod x.toNat 3

structure Numbers (pending : PendingTrafficAssignment) (s : UInt8) (V i : ℕ) : Prop where
  vn : pending.reverseStream0SlpDVn.toNat = V % 8
  k : (s &&& 0x07).toNat = i % 8

namespace Numbers

section

variable (h : Numbers pending s V i)
include h

lemma lt : (s &&& 0x07).toNat < 8 := by
  rw [h.k]
  exact mod_lt _ (by decide)

lemma eq_iff : s &&& 0x07 = pending.reverseStream0SlpDVn ↔ i % 8 = V % 8 := by rw [← UInt8.toNat_inj, h.k, h.vn]

lemma ahead :
    (((s &&& 0x07) - pending.reverseStream0SlpDVn) &&& 0x07).toNat = (i % 8 + 8 - V % 8) % 8 := by
  rw [toNat_and_seven, UInt8.toNat_sub, h.k, h.vn]
  omega

lemma next : (((s &&& 0x07) + 1) &&& 0x07).toNat = (i + 1) % 8 := by
  rw [toNat_and_seven, UInt8.toNat_add, h.k, show (1 : UInt8).toNat = 1 from rfl]
  omega

end

end Numbers

lemma accept_refused (h : Numbers pending s V i) (hne : i % 8 ≠ V % 8)
    (hset : flagged pending.reverseStream0SlpDRx (i % 8) = true) : pending.accept s = (pending, false) := by
  grind [and_bit_ne_zero, cases An.Air.PendingTrafficAssignment, cases Numbers,
    An.Air.PendingTrafficAssignment.accept]

lemma accept_accepted (h : Numbers pending s V i) (hc : flagged pending.reverseStream0SlpDRx (i % 8) = false) :
    (pending.accept s).2 = true ∧ (pending.accept s).1.trafficUati = pending.trafficUati ∧
    ((i % 8 + 8 - V % 8) % 8 ≤ 3 → (pending.accept s).1.reverseStream0SlpDVn.toNat = (i + 1) % 8 ∧
      ∀ b < 8, flagged (pending.accept s).1.reverseStream0SlpDRx b =
        ((flagged pending.reverseStream0SlpDRx b || decide (b = i % 8)) &&
          !(if V % 8 < (i + 1) % 8 then decide ((i + 1) % 8 ≤ b)
            else decide ((i + 1) % 8 ≤ b) && decide (b < V % 8)))) ∧
    (3 < (i % 8 + 8 - V % 8) % 8 → (pending.accept s).1.reverseStream0SlpDVn = pending.reverseStream0SlpDVn ∧
      ∀ b < 8, flagged (pending.accept s).1.reverseStream0SlpDRx b =
        (flagged pending.reverseStream0SlpDRx b || decide (b = i % 8))) := by
  have hbit : ¬pending.reverseStream0SlpDRx &&& 1 <<< (s &&& 0x07) ≠ 0 := by
    rw [and_bit_ne_zero h.lt, h.k, hc]
    decide
  have hset : ∀ b, flagged (pending.reverseStream0SlpDRx ||| 1 <<< (s &&& 0x07)) b =
      (flagged pending.reverseStream0SlpDRx b || decide (b = i % 8)) := by
    intro b
    rw [flagged_or_bit h.lt, h.k]
  have ha : ((s &&& 0x07) - pending.reverseStream0SlpDVn) &&& 0x07 ≤ 3 ↔ (i % 8 + 8 - V % 8) % 8 ≤ 3 := by
    rw [UInt8.le_iff_toNat_le, h.ahead]
    rfl
  have hn : (s &&& 0x07 = pending.reverseStream0SlpDVn ∨
      ((s &&& 0x07) - pending.reverseStream0SlpDVn) &&& 0x07 ≤ 3) ↔ (i % 8 + 8 - V % 8) % 8 ≤ 3 := by
    rw [h.eq_iff, ha]
    omega
  have hk : ¬(s &&& 0x07 = pending.reverseStream0SlpDVn ∧ pending.reverseStream0SlpDRx &&& 1 <<< (s &&& 0x07) ≠ 0) :=
    fun hr => hbit hr.2
  unfold PendingTrafficAssignment.accept
  dsimp only
  rw [if_neg hk, if_neg hbit]
  by_cases hle : (i % 8 + 8 - V % 8) % 8 ≤ 3
  · rw [if_pos (hn.2 hle)]
    refine ⟨rfl, rfl, fun _ => ⟨h.next, fun b hb => ?_⟩, fun hlt => absurd hle (by omega)⟩
    unfold clearFuture
    simp only [UInt8.lt_iff_toNat_lt, h.vn, h.next]
    have hV : V % 8 ≤ 8 := by omega
    split_ifs with hup hdo
    · rw [flagged_clearFlags le_rfl hb, hset]
      simp [hb]
    · rw [flagged_clearFlags hV hb, hset]
    omega
  · rw [if_neg (fun hor => hle (hn.1 hor))]
    exact ⟨rfl, rfl, fun h => absurd h hle, fun _ => ⟨rfl, fun b _ => hset b⟩⟩

end Accept

/-! ### What has arrived -/

def top : List ℕ → ℕ
  | [] => 0
  | i :: arrived => max (i + 1) (top arrived)

/-- A message arrived, and later one that was the highest so far and took the next number into a later block of eight.
The list has the last arrival first. -/
def Forgotten : List ℕ → ℕ → Prop
  | [], _ => False
  | j :: arrived, i => Forgotten arrived i ∨ (i ∈ arrived ∧ top arrived ≤ j ∧ i / 8 < (j + 1) / 8)

instance decidableForgotten : ∀ (arrived : List ℕ) (i : ℕ), Decidable (Forgotten arrived i)
  | [], _ => .isFalse id
  | _ :: arrived, i =>
    have := decidableForgotten arrived i
    inferInstanceAs (Decidable (_ ∨ _))

/-- An arrival that the window of the peer allows. -/
structure InWindow (arrived : List ℕ) (i : ℕ) : Prop where
  le : i ≤ top arrived + 3
  ge : top arrived ≤ i + 4
  before : ∀ j, j + 3 < i → j ∈ arrived

/-- Arrivals that the window of the peer allows. -/
def AllInWindow : List ℕ → Prop
  | [] => True
  | i :: arrived => InWindow arrived i ∧ AllInWindow arrived

section Arrived

variable {arrived : List ℕ} {i j n : ℕ}

lemma lt_top (hi : i ∈ arrived) : i < top arrived := by
  induction arrived with
  | nil => cases hi
  | cons =>
    rw [top]
    grind

lemma top_le (h : ∀ i ∈ arrived, i < n) : top arrived ≤ n := by
  induction arrived with
  | nil => exact Nat.zero_le n
  | cons _ arrived ih =>
    rw [forall_mem_cons] at h
    exact max_le h.1 (ih h.2)

lemma Forgotten.mem (h : Forgotten arrived i) : i ∈ arrived := by
  induction arrived with
  | nil => cases h
  | cons => rcases h with h | ⟨h, -⟩ <;> grind

lemma forgotten_of_far (hwin : AllInWindow arrived) (hi : i ∈ arrived) (hfar : i + 5 ≤ top arrived)
    (hb : i / 8 < top arrived / 8) : Forgotten arrived i := by
  induction arrived with
  | nil => cases hi
  | cons =>
    obtain ⟨hj, hwin⟩ := hwin
    grind [cases InWindow, Forgotten, top]

lemma Forgotten.block (h : Forgotten arrived i) : i / 8 < top arrived / 8 := by
  induction arrived <;> grind [top, Forgotten]

end Arrived

/-! ### What the receiver knows -/

/-- The next number is `top`, and a flag is set when the message of that number among the last eight has arrived and is
not forgotten. -/
structure Tracks (arrived : List ℕ) (pending : PendingTrafficAssignment) : Prop where
  vn : pending.reverseStream0SlpDVn.toNat = top arrived % 8
  rx : ∀ b < 8, flagged pending.reverseStream0SlpDRx b = true ↔
    ∃ i ∈ arrived, top arrived ≤ i + 8 ∧ i % 8 = b ∧ ¬Forgotten arrived i

/-- An arrival that the receiver treats correctly: a new message is not of a later block of eight than the next number,
and a message that arrives again is not forgotten. -/
def Orderly (arrived : List ℕ) (i : ℕ) : Prop := (i ∉ arrived → i / 8 ≤ top arrived / 8) ∧ ¬Forgotten arrived i

instance (arrived : List ℕ) (i : ℕ) : Decidable (Orderly arrived i) := inferInstanceAs (Decidable (_ ∧ _))

section Tracks

variable {arrived : List ℕ} {pending : PendingTrafficAssignment} {s : UInt8} {i : ℕ}

lemma Tracks.flagged_iff (h : Tracks arrived pending) (hlow : top arrived ≤ i + 4) (hi : i < top arrived) :
    flagged pending.reverseStream0SlpDRx (i % 8) = true ↔ i ∈ arrived ∧ ¬Forgotten arrived i := by
  rw [h.rx (i % 8) (mod_lt _ (by decide))]
  constructor
  · rintro ⟨x, hx, hlow', hmod, hnot⟩
    have := lt_top hx
    rw [show i = x by omega]
    exact ⟨hx, hnot⟩
  · rintro ⟨hmem, hnot⟩
    exact ⟨i, hmem, by omega, rfl, hnot⟩

lemma Tracks.clear_ahead (h : Tracks arrived pending) (hwin : AllInWindow arrived) (hlow : top arrived ≤ i)
    (hi : i ≤ top arrived + 3) (hb : i / 8 = top arrived / 8) :
    flagged pending.reverseStream0SlpDRx (i % 8) = false := by
  rw [Bool.eq_false_iff, Ne, h.rx (i % 8) (mod_lt _ (by decide))]
  rintro ⟨x, hx, hlow', hmod, hnot⟩
  have := lt_top hx
  exact hnot (forgotten_of_far hwin hx (by omega) (by omega))

lemma Tracks.refuses_later_block (h : Tracks arrived pending) (hs : Numbers pending s (top arrived) i)
    (hi : InWindow arrived i) (hb : top arrived / 8 < i / 8) : pending.accept s = (pending, false) := by
  have hold : i - 8 ∈ arrived := hi.before _ (by omega)
  have hlt := lt_top hold
  refine accept_refused hs (by omega) ?_
  rw [h.rx _ (mod_lt _ (by decide))]
  refine ⟨i - 8, hold, by omega, by omega, fun hf => ?_⟩
  have := hf.block
  omega

lemma forgotten_cons (hlow : i < top arrived) : Forgotten (i :: arrived) x ↔ Forgotten arrived x := by
  refine or_iff_left ?_
  rintro ⟨-, hh, -⟩
  omega

lemma not_cleared_iff {v n b : ℕ} :
    (if v < n then decide (n ≤ b) else decide (n ≤ b) && decide (b < v)) = false ↔ b < n ∨ n ≤ v ∧ v ≤ b := by grind

section

variable (h : Tracks arrived pending)
include h

lemma Tracks.accepts_ahead (hs : Numbers pending s (top arrived) i)
    (hwin : AllInWindow arrived) (hi : InWindow arrived i) (hlow : top arrived ≤ i) (hbl : i / 8 = top arrived / 8) :
    (pending.accept s).2 = true ∧ (pending.accept s).1.trafficUati = pending.trafficUati ∧
      Tracks (i :: arrived) (pending.accept s).1 := by
  have hle := hi.le
  have htop : top (i :: arrived) = i + 1 := max_eq_left (by omega)
  have hnew : i ∉ arrived := fun hmem => absurd (lt_top hmem) (by omega)
  have hnot : ¬Forgotten (i :: arrived) i := by
    rintro (hf | ⟨hmem, -⟩)
    · exact hnew hf.mem
    · exact hnew hmem
  obtain ⟨hacc, hu, hm, -⟩ := accept_accepted hs (h.clear_ahead hwin hlow hle hbl)
  obtain ⟨hvn, hrx⟩ := hm (by omega)
  refine ⟨hacc, hu, by rw [hvn, htop], fun b hb => ?_⟩
  rw [hrx b hb, Bool.and_eq_true, Bool.or_eq_true, decide_eq_true_eq, Bool.not_eq_true', not_cleared_iff, htop]
  constructor
  · rintro ⟨hset | rfl, hk⟩
    · obtain ⟨x, hx, hlow', rfl, hx'⟩ := (h.rx b hb).1 hset
      have hlt := lt_top hx
      -- the flags from the next number on are those of forgotten messages, or cleared
      have hsa : x / 8 = top arrived / 8 := by
        by_contra ho
        have : top arrived < x + 5 := by
          by_contra hfar
          exact hx' (forgotten_of_far hwin hx (by omega) (by omega))
        omega
      have hst : ¬x / 8 < (i + 1) / 8 := by omega
      refine ⟨x, mem_cons_of_mem _ hx, by omega, rfl, ?_⟩
      rintro (hf | ⟨-, -, hl⟩)
      · exact hx' hf
      · exact hst hl
    · exact ⟨i, mem_cons_self, by omega, rfl, hnot⟩
  · rintro ⟨x, hx, hlow', rfl, hx'⟩
    rcases List.mem_cons.1 hx with rfl | hx
    · exact ⟨.inr rfl, by omega⟩
    · have hlt := lt_top hx
      have hst : ¬x / 8 < (i + 1) / 8 := fun hl => hx' (.inr ⟨hx, hlow, hl⟩)
      exact ⟨.inl ((h.rx _ hb).2 ⟨x, hx, by omega, rfl, fun hf => hx' (.inl hf)⟩), by omega⟩

lemma Tracks.accepts_behind (hs : Numbers pending s (top arrived) i)
    (hi : InWindow arrived i) (hlow : i < top arrived) (hu : i ∈ arrived → Forgotten arrived i) :
    (pending.accept s).2 = true ∧ (pending.accept s).1.trafficUati = pending.trafficUati ∧
      (i ∉ arrived → Tracks (i :: arrived) (pending.accept s).1) := by
  have hge := hi.ge
  have hc : flagged pending.reverseStream0SlpDRx (i % 8) = false := by
    rw [Bool.eq_false_iff, Ne, h.flagged_iff hge hlow]
    rintro ⟨hmem, hnot⟩
    exact hnot (hu hmem)
  obtain ⟨hacc, hua, -, hst⟩ := accept_accepted hs hc
  obtain ⟨hvn, hrx⟩ := hst (by omega)
  refine ⟨hacc, hua, fun hnew => ?_⟩
  have htop : top (i :: arrived) = top arrived := max_eq_right (by omega)
  refine ⟨by rw [hvn, h.vn, htop], fun b hb => ?_⟩
  rw [hrx b hb, Bool.or_eq_true, decide_eq_true_eq, h.rx b hb, htop]
  simp only [forgotten_cons hlow, mem_cons, or_and_right, exists_or, exists_eq_left]
  rw [or_comm]
  refine or_congr_left ⟨?_, ?_⟩
  · rintro rfl
    exact ⟨by omega, rfl, fun hf => hnew hf.mem⟩
  · rintro ⟨-, hmod, -⟩
    exact hmod.symm

lemma Tracks.refuses_known (hs : Numbers pending s (top arrived) i)
    (hi : InWindow arrived i) (hmem : i ∈ arrived) (hnot : ¬Forgotten arrived i) :
    pending.accept s = (pending, false) ∧ Tracks (i :: arrived) pending := by
  have hge := hi.ge
  have hlow := lt_top hmem
  have htop : top (i :: arrived) = top arrived := max_eq_right (by omega)
  refine ⟨accept_refused hs (by omega) ((h.flagged_iff hge hlow).2 ⟨hmem, hnot⟩), by rw [h.vn, htop], fun b hb => ?_⟩
  rw [h.rx b hb, htop]
  simp only [forgotten_cons hlow, mem_cons, or_and_right, exists_or, exists_eq_left]
  refine (or_iff_right_of_imp ?_).symm
  rintro ⟨hlow', rfl, -⟩
  exact ⟨i, hmem, hlow', rfl, hnot⟩

/-- **One arrival**: it is treated correctly exactly when it is orderly, and then the receiver tracks what has arrived. -/
theorem accept_tracks (hs : (s &&& 0x07).toNat = i % 8) (hwin : AllInWindow arrived)
    (hi : InWindow arrived i) :
    ((pending.accept s).2 = decide (i ∉ arrived) ↔ Orderly arrived i) ∧
    (pending.accept s).1.trafficUati = pending.trafficUati ∧
    (Orderly arrived i → Tracks (i :: arrived) (pending.accept s).1) := by
  have hnum : Numbers pending s (top arrived) i := ⟨h.vn, hs⟩
  by_cases hmem : i ∈ arrived
  · by_cases hf : Forgotten arrived i
    · obtain ⟨hacc, hu, -⟩ := h.accepts_behind hnum hi (lt_top hmem) fun _ => hf
      have hbad : ¬Orderly arrived i := fun h => h.2 hf
      rw [hacc]
      exact ⟨iff_of_false (by simp [hmem]) hbad, hu, fun h => absurd h hbad⟩
    · obtain ⟨hacc, ht⟩ := h.refuses_known hnum hi hmem hf
      have hg : Orderly arrived i := ⟨fun h => absurd hmem h, hf⟩
      rw [hacc]
      exact ⟨iff_of_true (by simp [hmem]) hg, rfl, fun _ => ht⟩
  · have hnot : ¬Forgotten arrived i := fun h => hmem h.mem
    by_cases hb : top arrived / 8 < i / 8
    · have hbad : ¬Orderly arrived i := fun h => absurd (h.1 hmem) (by omega)
      rw [h.refuses_later_block hnum hi hb]
      exact ⟨iff_of_false (by simp [hmem]) hbad, rfl, fun h => absurd h hbad⟩
    have hg : Orderly arrived i := ⟨fun _ => by omega, hnot⟩
    by_cases hlow : i < top arrived
    · obtain ⟨hacc, hu, ht⟩ := h.accepts_behind hnum hi hlow fun h => absurd h hmem
      rw [hacc]
      exact ⟨iff_of_true (by simp [hmem]) hg, hu, fun _ => ht hmem⟩
    · obtain ⟨hacc, hu, ht⟩ := h.accepts_ahead hnum hwin hi (by omega) (by omega)
      rw [hacc]
      exact ⟨iff_of_true (by simp [hmem]) hg, hu, fun _ => ht⟩

end

end Tracks

/-! ### The link -/

/-- The receiver, the messages on their way in the order they were transmitted, those that have arrived with the last one
first, and those that the peer knows to have arrived. -/
structure Link where
  session : AtSession
  channel : List ℕ := []
  arrived : List ℕ := []
  acknowledged : List ℕ := []
  deriving DecidableEq

inductive LinkOp where
  | transmit (i : ℕ)
  | lose (n : ℕ)
  | arrive
  | acknowledge (i : ℕ)
  deriving DecidableEq

/-- An arrival, what had arrived before, and whether the receiver accepts it. -/
structure Arrival where
  message : ℕ
  before : List ℕ
  accepted : Bool
  deriving DecidableEq

def linkStep (uati : UInt32) (t : Link) : LinkOp → Option (Link × Option Arrival)
  | .transmit i => some ({ t with channel := t.channel ++ [i] }, none)
  | .lose n => some ({ t with channel := t.channel.eraseIdx n }, none)
  | .arrive =>
    match t.channel with
    | [] => none
    | i :: channel =>
      let (session, accepted) := acceptReverseStream0SlpDPayload t.session uati (UInt8.ofNat (i % 8))
      some ({ t with session := session, channel := channel, arrived := i :: t.arrived },
        some ⟨i, t.arrived, accepted⟩)
  | .acknowledge i => some ({ t with acknowledged := i :: t.acknowledged }, none)

/-- With `a` the oldest message that is not acknowledged, the peer transmits messages from `a` to `a + 3`; a message is
acknowledged after it has arrived. -/
def Peer (t : Link) : LinkOp → Prop
  | .transmit i => ∃ a < i + 1, (a ∉ t.acknowledged ∧ ∀ j < a, j ∈ t.acknowledged) ∧ i ≤ a + 3
  | .lose _ => True
  | .arrive => True
  | .acknowledge i => i ∈ t.arrived

instance (t : Link) (op : LinkOp) : Decidable (Peer t op) :=
  match op with
  | .transmit i => inferInstanceAs (Decidable (∃ a < i + 1, _))
  | .lose _ => .isTrue trivial
  | .arrive => .isTrue trivial
  | .acknowledge i => inferInstanceAs (Decidable (i ∈ t.arrived))

/-- The receiver accepts exactly what has not arrived before. -/
def Arrival.Correct (arrival : Arrival) : Prop := arrival.accepted = decide (arrival.message ∉ arrival.before)

instance (arrival : Arrival) : Decidable arrival.Correct := inferInstanceAs (Decidable (_ = _))

/-- The window of the peer: what it has transmitted is at most three beyond what is acknowledged, and on the link and
among the arrivals no message is more than three beyond a later one. -/
structure LinkWindow (t : Link) : Prop where
  acknowledged : ∀ i ∈ t.acknowledged, i ∈ t.arrived
  below : ∀ i, i ∈ t.arrived ∨ i ∈ t.channel → ∀ j, j + 3 < i → j ∈ t.acknowledged
  channel : t.channel.Pairwise fun i j => i ≤ j + 3
  across : ∀ i ∈ t.arrived, ∀ j ∈ t.channel, i ≤ j + 3
  windowed : AllInWindow t.arrived

section Link

variable {uati : UInt32} {t t' : Link} {op : LinkOp} {o : Option Arrival}

section

variable (h : LinkWindow t)
include h

lemma LinkWindow.inWindow {channel : List ℕ} (hc : t.channel = i :: channel) :
    InWindow t.arrived i := by
  have hi : i ∈ t.channel := hc ▸ mem_cons_self
  refine ⟨?_, ?_, fun j hj => h.acknowledged j (h.below i (.inr hi) j hj)⟩
  · by_contra hfar
    have htop := h.acknowledged _ (h.below i (.inr hi) (top t.arrived) (by omega))
    exact absurd (lt_top htop) (lt_irrefl _)
  · exact top_le fun x hx => lt_succ_of_le (h.across x hx i hi)

lemma LinkWindow.sendWindow : SendWindow 3 t.acknowledged t.arrived t.channel := ⟨h.below, h.channel, h.across⟩

lemma LinkWindow.transmit (hp : Peer t (.transmit i)) :
    LinkWindow { t with channel := t.channel ++ [i] } := by
  obtain ⟨a, ha, ⟨ho, hac⟩, hle⟩ := hp
  obtain ⟨hb, hc, hacr⟩ := h.sendWindow.transmit ho hac (Nat.lt_succ_iff.1 ha) hle
  exact ⟨h.acknowledged, hb, hc, hacr, h.windowed⟩

lemma LinkWindow.lose (n : ℕ) : LinkWindow { t with channel := t.channel.eraseIdx n } := by
  obtain ⟨hb, hc, ha⟩ := h.sendWindow.lose (eraseIdx_sublist t.channel n)
  exact ⟨h.acknowledged, hb, hc, ha, h.windowed⟩

lemma LinkWindow.arrive {channel : List ℕ} (hc : t.channel = i :: channel) (session : AtSession) :
    LinkWindow { t with session := session, channel := channel, arrived := i :: t.arrived } := by
  have hw : SendWindow 3 t.acknowledged t.arrived (i :: channel) := hc ▸ h.sendWindow
  obtain ⟨hb, hp, ha⟩ := hw.arrive
  exact ⟨fun x hx => mem_cons_of_mem _ (h.acknowledged x hx), hb, hp, ha, h.inWindow hc, h.windowed⟩

lemma LinkWindow.acknowledge (ha : i ∈ t.arrived) :
    LinkWindow { t with acknowledged := i :: t.acknowledged } := by grind [cases LinkWindow, intro LinkWindow]

lemma linkWindow_step (hp : Peer t op) (hs : linkStep uati t op = some (t', o)) :
    LinkWindow t' := by
  cases op with
  | transmit =>
    cases hs
    exact h.transmit hp
  | lose n =>
    cases hs
    exact h.lose n
  | arrive =>
    unfold linkStep at hs
    cases hc : t.channel with
    | nil =>
      rw [hc] at hs
      cases hs
    | cons =>
      rw [hc] at hs
      cases hs
      exact h.arrive hc _
  | acknowledge =>
    cases hs
    exact h.acknowledge hp

end

/-- The session has the traffic assignment of the link, and its receiver tracks what has arrived. -/
def Receives (uati : UInt32) (t : Link) : Prop :=
  ∃ pending, t.session.pendingTrafficAssignment = some pending ∧ pending.trafficUati = uati ∧ Tracks t.arrived pending

/-- **One step of the link**: an arrival is treated correctly exactly when it is orderly, and as long as all are, the
receiver tracks what has arrived. -/
theorem link_step (hwin : LinkWindow t) (h : Receives uati t) (hs : linkStep uati t op = some (t', o)) :
    ((∀ arrival ∈ o, arrival.Correct) ↔ ∀ arrival ∈ o, Orderly arrival.before arrival.message) ∧
    ((∀ arrival ∈ o, Orderly arrival.before arrival.message) → Receives uati t') := by
  have hq : ((∀ arrival ∈ (none : Option Arrival), arrival.Correct) ↔
      ∀ arrival ∈ (none : Option Arrival), Orderly arrival.before arrival.message) := by simp
  cases op with
  | transmit | lose | acknowledge =>
    cases hs
    exact ⟨hq, fun _ => h⟩
  | arrive =>
    unfold linkStep at hs
    cases hc : t.channel with
    | nil =>
      rw [hc] at hs
      cases hs
    | cons i =>
      obtain ⟨pending, hp, hu, ht⟩ := h
      have hseq : ((UInt8.ofNat (i % 8)) &&& 0x07).toNat = i % 8 := by
        have hnat : (UInt8.ofNat (i % 8)).toNat = i % 8 :=
          UInt8.toNat_ofNat_of_lt ((mod_lt i (by decide : 0 < 8)).trans (by decide))
        rw [toNat_and_seven, hnat, mod_mod]
      obtain ⟨hiff, hsa, hn⟩ := accept_tracks ht hseq hwin.windowed (hwin.inWindow hc)
      have hca : acceptReverseStream0SlpDPayload t.session uati (UInt8.ofNat (i % 8)) =
          ({ t.session with pendingTrafficAssignment := some (pending.accept (UInt8.ofNat (i % 8))).1 },
            (pending.accept (UInt8.ofNat (i % 8))).2) := by
        unfold acceptReverseStream0SlpDPayload
        rw [hp, Option.filter_some, decide_eq_true hu]
        rfl
      rw [hc] at hs
      dsimp only at hs
      rw [hca] at hs
      cases hs
      simp only [Option.mem_def, Option.some.injEq, forall_eq']
      exact ⟨hiff, fun ho => ⟨_, rfl, hsa.trans hu, hn ho⟩⟩

end Link

/-- **Each message is accepted once, if the arrivals are orderly.** Let a peer with a window of four transmit over a link
that loses messages and keeps their order, to a receiver with a fresh traffic assignment. Then in every run the receiver
accepts exactly the first arrival of each message, if and only if every arrival is orderly. -/
theorem accepted_once_iff (uati : UInt32) (pending : PendingTrafficAssignment) (huati : pending.trafficUati = uati)
    (hvn : pending.reverseStream0SlpDVn = 0) (hrx : pending.reverseStream0SlpDRx = 0) (vs : UInt8) {t : Link}
    {log : List (LinkOp × Option Arrival)}
    (hrun : Run (guarded (linkStep uati) Peer) { session := ⟨some pending, vs⟩ } t log) :
    (∀ e ∈ log, ∀ arrival ∈ e.2, arrival.Correct) ↔
      ∀ e ∈ log, ∀ arrival ∈ e.2, Orderly arrival.before arrival.message := by
  have h : LinkWindow t ∧ ((∀ e ∈ log, ∀ arrival ∈ e.2, arrival.Correct) ↔
      ∀ e ∈ log, ∀ arrival ∈ e.2, Orderly arrival.before arrival.message) ∧
      ((∀ e ∈ log, ∀ arrival ∈ e.2, Orderly arrival.before arrival.message) → Receives uati t) := by
    refine hrun.inv (fun t log => LinkWindow t ∧ ((∀ e ∈ log, ∀ arrival ∈ e.2, arrival.Correct) ↔
      ∀ e ∈ log, ∀ arrival ∈ e.2, Orderly arrival.before arrival.message) ∧
      ((∀ e ∈ log, ∀ arrival ∈ e.2, Orderly arrival.before arrival.message) → Receives uati t)) ?_ ?_
    · refine ⟨⟨by simp, by simp, by simp, by simp, trivial⟩, by simp, fun _ => ⟨pending, rfl, huati, ?_, ?_⟩⟩
      · rw [hvn]
        rfl
      · simp [hrx]
    · rintro t op t' o log ⟨hwin, hiff, ht⟩ ⟨hp, hs⟩
      refine ⟨linkWindow_step hwin hp hs, ?_⟩
      simp only [forall_mem_append, forall_mem_singleton]
      by_cases ho : ∀ e ∈ log, ∀ arrival ∈ e.2, Orderly arrival.before arrival.message
      · obtain ⟨hnew, hn⟩ := link_step hwin (ht ho) hs
        exact ⟨and_congr hiff hnew, fun h => hn h.2⟩
      grind
  exact h.2.1

def freshAssignment : PendingTrafficAssignment where
  trafficUati := 7
  pilots := [5]

/-- Message 1 is lost at first, and message 0 arrives again. -/
theorem accepted_once_iff_reordered :
    ∃ t log, Run (guarded (linkStep 7) Peer) { session := ⟨some freshAssignment, 0⟩ } t log ∧
      t.arrived = [0, 1, 0, 2, 0] ∧ ∀ e ∈ log, ∀ arrival ∈ e.2, arrival.Correct := by
  obtain ⟨t, log, hrun, ha, ho⟩ := exists_run (linkStep 7) Peer { session := ⟨some freshAssignment, 0⟩ }
    [.transmit 0, .transmit 1, .transmit 2, .transmit 0, .lose 1, .arrive, .arrive, .arrive, .transmit 1, .transmit 0,
      .arrive, .arrive]
    (fun t log => t.arrived = [0, 1, 0, 2, 0] ∧
      ∀ e ∈ log, ∀ arrival ∈ e.2, Orderly arrival.before arrival.message) (by decide +kernel)
  exact ⟨t, log, hrun, ha, (accepted_once_iff 7 freshAssignment rfl rfl rfl 0 hrun).2 ho⟩

def exchange (i : ℕ) : List LinkOp := [.transmit i, .arrive, .acknowledge i]

/-- After messages 0 to 6, message 7 is lost and message 8 arrives for the first time: it is refused. And after messages 0
to 7, where the acknowledgements of 5, 6 and 7 are not there yet, message 5 arrives again: it is accepted. -/
theorem message_refused_and_accepted_again :
    (∃ t log, Run (guarded (linkStep 7) Peer) { session := ⟨some freshAssignment, 0⟩ } t log ∧
      (log.getLast?.bind fun e => e.2) = some ⟨8, [6, 5, 4, 3, 2, 1, 0], false⟩) ∧
    ∃ t log, Run (guarded (linkStep 7) Peer) { session := ⟨some freshAssignment, 0⟩ } t log ∧
      (log.getLast?.bind fun e => e.2) = some ⟨5, [7, 6, 5, 4, 3, 2, 1, 0], true⟩ := by
  constructor
  · obtain ⟨t, log, hrun, hl⟩ := exists_run (linkStep 7) Peer { session := ⟨some freshAssignment, 0⟩ }
      ((List.range 7).flatMap exchange ++ [.transmit 7, .transmit 8, .lose 0, .arrive])
      (fun _ log => (log.getLast?.bind fun e => e.2) = some ⟨8, [6, 5, 4, 3, 2, 1, 0], false⟩) (by decide +kernel)
    exact ⟨t, log, hrun, hl⟩
  · obtain ⟨t, log, hrun, hl⟩ := exists_run (linkStep 7) Peer { session := ⟨some freshAssignment, 0⟩ }
      ((List.range 5).flatMap exchange ++ [.transmit 5, .transmit 6, .transmit 7, .arrive, .arrive, .arrive,
        .transmit 5, .arrive])
      (fun _ log => (log.getLast?.bind fun e => e.2) = some ⟨5, [7, 6, 5, 4, 3, 2, 1, 0], true⟩) (by decide +kernel)
    exact ⟨t, log, hrun, hl⟩

end OneXBts.An.Air.SlpD
