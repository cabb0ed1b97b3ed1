import OneXBts.An.RlpReceiverWindow

/-!
What the receiver delivers.

The peer sends slices of one stream under positions modulo `2 ^ 22`. Less than `2 ^ 21` away from `vN` the position of every
octet is found. A call first gives up what is overdue, which moves `vN`, and it is the position after that which counts:
an old octet that was near before can be taken for a new one (`old_octet_delivered_again`).
-/

namespace OneXBts.An.Air

open Lib An.Rlp DefaultPacketRlpReceiver List Option

/-! ### Slices of a stream -/

/-- The calls when the payloads are slices of a stream. -/
inductive Call where
  | ingest (start len now : ℕ)
  | expire (now : ℕ)

namespace Call

def now : Call → ℕ
  | ingest _ _ now => now
  | expire now => now

def op (S : ℕ → UInt8) : Call → Op
  | ingest start len now => .ingest (seq start) ((List.range' start len).map S) now
  | expire now => .expire now

def positions : Call → List ℕ
  | ingest start len _ => List.range' start len
  | expire _ => []

end Call

structure Traced where
  receiver : DefaultPacketRlpReceiver := reset
  base : ℕ := 0
  aborted : List ℕ := []

namespace Traced

def passed (t : Traced) (c : Call) : List ℕ :=
  List.range' t.base (distance t.receiver.vN (t.receiver.expire c.now).1.vN).toNat

def abortedBy (t : Traced) (c : Call) : List ℕ :=
  (t.passed c).filter fun p => (t.receiver.nakAbortAt (seq p)).isSome

end Traced

/-- `vN` moves by one for every octet delivered and for every octet given up. -/
def tracedStep (S : ℕ → UInt8) (t : Traced) (c : Call) : Option (Traced × DefaultPacketRlpReceiveOutcome) :=
  (step t.receiver (c.op S)).map fun (r, o) =>
    (⟨r, t.base + (o.delivered.length + o.abortedOctets), t.aborted ++ t.abortedBy c⟩, o)

/-- Two positions are at most `2 ^ 21 - 1` apart. -/
def Near (base p : ℕ) : Prop := p ≤ base + (2 ^ 21 - 1) ∧ base ≤ p + (2 ^ 21 - 1)

instance (base p : ℕ) : Decidable (Near base p) := inferInstanceAs (Decidable (_ ∧ _))

/-- The positions of a payload are near that of `vN` when the call is made. -/
def NearAtCall (t : Traced) (c : Call) : Prop := ∀ p ∈ c.positions, Near t.base p

/-- The positions of a payload are near that of `vN` after the expiry that the call begins with. -/
def NearAfterExpiry (t : Traced) (c : Call) : Prop := ∀ p ∈ c.positions, Near (t.base + (t.passed c).length) p

instance (t : Traced) (c : Call) : Decidable (NearAfterExpiry t c) := inferInstanceAs (Decidable (∀ p ∈ _, _))

/-! ### Simulation -/

section Simulation

variable {S : ℕ → UInt8} {r : DefaultPacketRlpReceiver} {base : ℕ} {slots : List (Slot UInt8)} {aborted : List ℕ}
  {out : List UInt8}

/-- The receiver holds a part of the stream, and the rest below `vN` is accounted for. -/
structure Simulates (S : ℕ → UInt8) (r : DefaultPacketRlpReceiver) (base : ℕ) (slots : List (Slot UInt8))
    (aborted : List ℕ) (out : List UInt8) : Prop where
  represents : Represents r base slots
  stalled : Stalled slots
  consistent : Consistent S base slots
  accounted : Accounted S base aborted out

lemma Simulates.ahead (h : Simulates S r base slots aborted (out ++ o.delivered)) (he : e < half) (now : ℕ)
    (hs : ingestOctet now (seq (base + e)) (S (base + e)) r o = s) :
    ∃ k rest, k ≤ half ∧ s.2.delivered.length = o.delivered.length + k ∧ s.2.abortedOctets = o.abortedOctets ∧
      Simulates S s.1 (base + k) rest aborted (out ++ s.2.delivered) := by
  obtain ⟨ha, passed, rest, heq, hre, hst, hr, hde⟩ := h.represents.ingestOctet h.stalled he now (S (base + e)) o
  rw [hs] at ha hr hde
  have hc := h.consistent.put e (now + defaultPacketRlpAbort)
  rw [heq] at hc
  have hlen : passed.length ≤ half := by
    have := congrArg List.length heq
    rw [length_put, length_append] at this
    have := h.represents.short
    omega
  have hacc := h.accounted.pass hc.append_left
  rw [missingFrom_of_received hre, append_nil, append_assoc, ← hde] at hacc
  refine ⟨passed.length, rest, hlen, ?_, ha, ⟨hr, hst, hc.append_right, hacc⟩⟩
  rw [hde, length_append, length_items_of_received hre]

lemma Simulates.behind (h : Simulates S r base slots aborted out) (hp : p < base) (hp' : base ≤ p + half)
    (now : ℕ) (octet : UInt8) (o : DefaultPacketRlpReceiveOutcome) :
    ingestOctet now (seq p) octet r o = (r, { o with duplicateOctets := o.duplicateOctets + 1 }) := by
  have hm := modulus_eq
  have hl : seq p = seq (base + (p + modulus - base)) := by rw [Nat.add_sub_cancel' (by omega), seq_add_modulus]
  rw [hl]
  exact h.represents.ingestOctet_behind (by omega) (by omega) now octet o

/-- **The octets of a slice.** While they are taken in `vN` moves on, but by no more than `2 ^ 21` beyond the octet
that made it move, so that the octets that follow are not too far behind. -/
theorem Simulates.ingestOctets (start now len offset : ℕ) (h : Simulates S r base slots aborted (out ++ o.delivered))
    (hn : len ≠ 0 → base ≤ start + offset + half ∧ start + offset + len ≤ base + half)
    (hs : ingestOctets now (seq start) offset ((range' (start + offset) len).map S) r o = s) :
    ∃ k slots', s.2.delivered.length = o.delivered.length + k ∧ s.2.abortedOctets = o.abortedOctets ∧
      Simulates S s.1 (base + k) slots' aborted (out ++ s.2.delivered) := by
  induction len generalizing offset r base slots o with
  | zero =>
    cases hs
    exact ⟨0, slots, rfl, rfl, h⟩
  | succ len ih =>
    obtain ⟨hb, hah⟩ := hn (Nat.succ_ne_zero len)
    rw [List.range'_succ, map_cons, ingestOctets_cons now _ _ _ _ r o (label_seq start offset)] at hs
    rcases Nat.lt_or_ge (start + offset) base with hp | hp
    · rw [h.behind hp hb] at hs
      exact ih (offset + 1) (o := { o with duplicateOctets := o.duplicateOctets + 1 }) h
        (fun _ => ⟨by omega, by omega⟩) hs
    obtain ⟨e, heq⟩ := Nat.exists_eq_add_of_le hp
    rw [heq] at hs
    obtain ⟨k, rest, hk, hlen, ha, h'⟩ := h.ahead (e := e) (by omega) now rfl
    obtain ⟨k', slots', hlen', ha', h''⟩ := ih (offset + 1) h' (fun _ => ⟨by omega, by omega⟩)
      (by rw [← Nat.add_assoc, heq]; exact hs)
    refine ⟨k + k', slots', ?_, ha'.trans ha, ?_⟩
    · rw [hlen', hlen, Nat.add_assoc]
    · rw [← Nat.add_assoc]
      exact h''

end Simulation

/-! ### Calls -/

section Calls

variable {S : ℕ → UInt8} {t t' : Traced} {slots : List (Slot UInt8)} {out : List UInt8} {c : Call}
  {o : DefaultPacketRlpReceiveOutcome}

lemma Represents.passed_eq (hr : Represents t.receiver t.base slots) (c : Call) :
    t.passed c = range' t.base (slots.takeWhile (Slot.due c.now)).length := by
  obtain ⟨r', he, hr'⟩ := hr.expire c.now
  grind [ takeWhile_prefix, toNat_distance_seq, cases Represents, Traced.passed]

lemma Represents.abortedBy_eq (hr : Represents t.receiver t.base slots) (c : Call) :
    t.abortedBy c = missingFrom t.base (slots.takeWhile (Slot.due c.now)) := by
  rw [Traced.abortedBy, hr.passed_eq, missingFrom_eq_filter]
  refine filter_congr fun p hp => ?_
  rw [List.mem_range'_1] at hp
  have hpre := takeWhile_prefix (l := slots) (Slot.due c.now)
  have hle := hpre.length_le
  have hat := hr.nakAbortAt_at (i := p - t.base) (by omega)
  rw [Nat.add_sub_cancel' hp.1] at hat
  rw [hat, List.getElem?_eq_getElem (show p - t.base < _ by omega), bind_some, hpre.getElem]

lemma Simulates.expire (h : Simulates S t.receiver t.base slots t.aborted out) (c : Call) :
    ∃ r' o', t.receiver.expire c.now = (r', o') ∧ o'.delivered.length + o'.abortedOctets = (t.passed c).length ∧
      o'.abortedOctets = (t.abortedBy c).length ∧
      ∃ rest, Simulates S r' (t.base + (t.passed c).length) rest (t.aborted ++ t.abortedBy c) (out ++ o'.delivered) := by
  obtain ⟨r', he, hr'⟩ := h.represents.expire c.now
  have hc := h.consistent
  rw [← takeWhile_append_dropWhile (p := Slot.due c.now) (l := slots)] at hc
  rw [h.represents.abortedBy_eq, h.represents.passed_eq, length_range']
  exact ⟨r', _, he, length_items_add _ _, rfl, _,
    ⟨hr', stalled_dropWhile (fun _ => rfl) _, hc.append_right, h.accounted.pass hc.append_left⟩⟩

/-- **A call.** -/
theorem Simulates.step (h : Simulates S t.receiver t.base slots t.aborted out) (hn : NearAfterExpiry t c)
    (hs : tracedStep S t c = some (t', o)) :
    (∃ slots', Simulates S t'.receiver t'.base slots' t'.aborted (out ++ o.delivered)) ∧
      t'.aborted.length = t.aborted.length + o.abortedOctets := by
  obtain ⟨⟨r', o'⟩, hc, heq⟩ := map_eq_some_iff.1 hs
  cases heq
  obtain ⟨r1, o1, he, hlen, ha, rest, h1⟩ := h.expire c
  dsimp only
  cases c with
  | expire =>
    obtain ⟨rfl, rfl⟩ := Prod.mk.inj (he.symm.trans (some.inj hc))
    exact ⟨⟨rest, by rw [hlen]; exact h1⟩, by rw [length_append, ha]⟩
  | ingest start len now =>
    -- the positions are near where the expiry leaves `vN`
    have hb : len ≠ 0 → t.base + (t.passed (.ingest start len now)).length ≤ start + 0 + half ∧
        start + 0 + len ≤ t.base + (t.passed (.ingest start len now)).length + half := by
      intro hne
      have hf := hn start (List.mem_range'_1.2 ⟨le_rfl, by omega⟩)
      have hl := hn (start + (len - 1)) (List.mem_range'_1.2 ⟨by omega, by omega⟩)
      have hh : half = 2 ^ 21 := rfl
      unfold Near at hf hl
      exact ⟨by omega, by omega⟩
    have hc' : DefaultPacketRlpReceiver.ingestOctets now (seq start) 0 ((range' (start + 0) len).map S) r1 o1 =
        (r', o) := by
      have := some.inj hc
      rwa [DefaultPacketRlpReceiver.ingest, show t.receiver.expire now = (r1, o1) from he] at this
    obtain ⟨k, slots', hlen', ha', h'⟩ := h1.ingestOctets start now len 0 hb hc'
    dsimp only at hlen' ha' h'
    refine ⟨⟨slots', ?_⟩, by rw [length_append, ← ha, ha']⟩
    grind

end Calls

/-! ### Runs -/

/-- **Delivery.** For every stream and every sequence of calls in which each payload is a slice of the stream labelled
with its position modulo `2 ^ 22`, all of whose positions are at most `2 ^ 21 - 1` away from that of `vN` as the
expiry of the call leaves it: what has been delivered is the stream below `vN` without the positions that were given
up, in increasing order, each once; and the number of positions given up is the sum of `abortedOctets`. -/
theorem delivered_stream (S : ℕ → UInt8) {t : Traced} {log : List (Call × DefaultPacketRlpReceiveOutcome)}
    (hrun : Run (guarded (tracedStep S) NearAfterExpiry) {} t log) :
    t.receiver.vN = seq t.base ∧
    log.flatMap (fun e => e.2.delivered) = ((List.range t.base).filter (· ∉ t.aborted)).map S ∧
    (∀ p ∈ t.aborted, p < t.base) ∧ t.aborted.Pairwise (· < ·) ∧
    t.aborted.length = (log.map fun e => e.2.abortedOctets).sum := by
  obtain ⟨⟨slots, h⟩, hc⟩ : (∃ slots, Simulates S t.receiver t.base slots t.aborted
      (log.flatMap fun e => e.2.delivered)) ∧ t.aborted.length = (log.map fun e => e.2.abortedOctets).sum := by
    refine hrun.inv (fun t log => (∃ slots, Simulates S t.receiver t.base slots t.aborted
      (log.flatMap fun e => e.2.delivered)) ∧ t.aborted.length = (log.map fun e => e.2.abortedOctets).sum) ?_ ?_
    · exact ⟨⟨[], Represents.reset, by simp [Stalled], by simp [Consistent], accounted_nil S⟩, rfl⟩
    · rintro t c t' o log ⟨⟨slots, h⟩, hc⟩ ⟨hn, hs⟩
      obtain ⟨h', hc'⟩ := h.step hn hs
      grind
  exact ⟨h.represents.vN, h.accounted.out_eq, h.accounted.below, h.accounted.increasing, hc⟩

/-- The stream 0, 1, 2, and so on: octets 0 and 1 arrive, then 4 and 5, then 1 and 2, and 3 is given up. -/
theorem delivered_stream_gap :
    ∃ t log, Run (guarded (tracedStep UInt8.ofNat) NearAfterExpiry) {} t log ∧ t.base = 6 ∧ t.aborted = [3] ∧
      log.flatMap (fun e => e.2.delivered) = [0, 1, 2, 4, 5] := by
  obtain ⟨t, log, hrun, hb, ha⟩ := exists_run (tracedStep UInt8.ofNat) NearAfterExpiry {}
    [.ingest 0 2 0, .ingest 4 2 10, .ingest 1 2 20, .expire 510] (fun t _ => t.base = 6 ∧ t.aborted = [3])
    (by decide +kernel)
  obtain ⟨-, hde, -⟩ := delivered_stream UInt8.ofNat hrun
  refine ⟨t, log, hrun, hb, ha, ?_⟩
  rw [hde, hb, ha]
  decide

/-! ### An old octet -/

section OldOctet

variable {S : ℕ → UInt8} {t : Traced} {slots : List (Slot UInt8)}

def gap (e deadline : ℕ) (a : UInt8) : List (Slot UInt8) := List.replicate e (.missing deadline) ++ [.received a]

lemma missingFrom_gap (n e due : ℕ) (a : UInt8) : missingFrom n (gap e due a) = range' n e := by
  induction e generalizing n with
  | zero => rfl
  | succ e ih => exact congrArg (n :: ·) (ih (n + 1))

lemma length_gap (e due : ℕ) (a : UInt8) : (gap e due a).length = e + 1 := by simp [gap]

lemma items_gap (e due : ℕ) (a : UInt8) : items (gap e due a) = [a] := by
  rw [gap, items_append]
  simp [items, Slot.item]

lemma due_gap (h : due ≤ now) (e : ℕ) (a : UInt8) :
    ∀ s ∈ gap e due a, s.due now = true := by grind [gap, Lib.Slot.due]

lemma Represents.expire_all (hr : Represents t.receiver t.base slots) (hdue : ∀ s ∈ slots, s.due c.now = true) :
    ∃ r', t.receiver.expire c.now =
        (r', { delivered := items slots, abortedOctets := (missingFrom t.base slots).length }) ∧
      Represents r' (t.base + slots.length) [] ∧ t.abortedBy c = missingFrom t.base slots := by
  obtain ⟨r', he, hr'⟩ := hr.expire c.now
  have ht := takeWhile_eq_self_iff.2 hdue
  have hdr := dropWhile_eq_nil_iff.2 hdue
  have ha := hr.abortedBy_eq c
  grind

lemma nearAtCall_ingest (base : ℕ) (hb : t.base = base) (h : Near base p) :
    NearAtCall t (.ingest p 1 now) := by
  intro q hq
  grind [Call.positions]

lemma tracedStep_expire (hr : Represents t.receiver t.base slots) (now : ℕ) (hdue : ∀ s ∈ slots, s.due now = true) :
    ∃ r' o, tracedStep S t (.expire now) =
        some (⟨r', t.base + slots.length, t.aborted ++ missingFrom t.base slots⟩, o) ∧
      o.delivered = items slots := by
  obtain ⟨r', he, -, ha⟩ := hr.expire_all (c := .expire now) hdue
  refine ⟨r', { delivered := items slots, abortedOctets := (missingFrom t.base slots).length }, ?_, rfl⟩
  grind [Call.op, step, length_items_add, tracedStep, Call.now]

lemma tracedStep_far (hr : Represents t.receiver t.base slots) (now : ℕ) (hdue : ∀ s ∈ slots, s.due now = true)
    (he : e + 1 < half) (hp : seq p = seq (t.base + slots.length + (e + 1))) :
    ∃ r' o, tracedStep S t (.ingest p 1 now) =
        some (⟨r', t.base + slots.length, t.aborted ++ missingFrom t.base slots⟩, o) ∧
      o.delivered = items slots ∧
      Represents r' (t.base + slots.length) (gap (e + 1) (now + defaultPacketRlpAbort) (S p)) := by
  obtain ⟨r1, hex, hr1, hab⟩ := hr.expire_all (c := .ingest p 1 now) hdue
  generalize ho1 : ({ delivered := items slots, abortedOctets := (missingFrom t.base slots).length } :
    DefaultPacketRlpReceiveOutcome) = o1 at hex
  have hput : put (e + 1) (S p) (now + defaultPacketRlpAbort) [] = gap (e + 1) (now + defaultPacketRlpAbort) (S p) := by
    simpa [gap] using put_add (e + 1) [] (S p) (now + defaultPacketRlpAbort)
  obtain ⟨ha, passed, rest, heq, hre, -, hr', hde⟩ := hr1.ingestOctet (by simp [Stalled]) he now (S p) o1
  -- the head of the window is missing
  have hnil : passed = [] := by
    cases passed with
    | nil => rfl
    | cons =>
      obtain ⟨rfl, -⟩ := List.cons.inj heq
      cases hre _ mem_cons_self
  subst hnil
  rw [nil_append, hput] at heq
  rw [← heq, ← hp, length_nil, Nat.add_zero] at hr'
  rw [← hp] at ha hde
  have hin : t.receiver.ingest (seq p) [S p] now = ingestOctet now (seq p) (S p) r1 o1 := by
    rw [DefaultPacketRlpReceiver.ingest, show t.receiver.expire now = (r1, o1) from hex]
    dsimp only
    rw [ingestOctets_cons now (seq p) 0 (S p) [] r1 o1 (label_seq p 0)]
    rfl
  generalize ingestOctet now (seq p) (S p) r1 o1 = s at hr' ha hde hin
  obtain ⟨r', o⟩ := s
  have hde : o.delivered = items slots := by
    rw [← ho1] at hde
    exact hde.trans (append_nil _)
  refine ⟨r', o, ?_, hde, hr'⟩
  have hlen : o.delivered.length + o.abortedOctets = slots.length := by
    rw [hde, show o.abortedOctets = (missingFrom t.base slots).length by rw [← ho1] at ha; exact ha,
      length_items_add]
  grind [tracedStep, Call.op, step]

end OldOctet

def marked (p : ℕ) : UInt8 := if p = 2 ^ 22 then 1 else 0

/-- Octet 0 arrives, then octet `2 ^ 21`, and half a second later octet 0 once more, all of them near `vN` when the
call is made. The last call gives the octets between up first and takes octet 0 for the one at `2 ^ 22`. -/
theorem old_octet_delivered_again :
    ∃ t log, Run (guarded (tracedStep marked) NearAtCall) {} t log ∧ t.base = 2 ^ 22 + 1 ∧ 2 ^ 22 ∉ t.aborted ∧
      marked (2 ^ 22) = 1 ∧ log.flatMap (fun e => e.2.delivered) = [0, 0, 0] := by
  obtain ⟨e, he⟩ : ∃ e, e + 1 = 2 ^ 21 - 1 := ⟨2 ^ 21 - 2, by norm_num⟩
  have hha : e + 1 < half := by
    have hh : half = 2 ^ 21 := rfl
    omega
  have h1 : tracedStep marked {} (.ingest 0 1 0) = some (⟨{ vR := 1, vN := 1 }, 1, []⟩, { delivered := [0] }) := rfl
  have hr1 : Represents { vR := 1, vN := 1 } 1 [] := ⟨rfl, rfl, Nat.zero_le _, holds_empty, holds_empty⟩
  obtain ⟨r2, o2, h2, hd2, hr2⟩ := tracedStep_far (S := marked) (t := ⟨{ vR := 1, vN := 1 }, 1, []⟩) hr1 0
    (by simp) (p := 2 ^ 21) hha (congrArg seq (by simp only [length_nil]; omega))
  have hl : seq 0 = seq (1 + (e + 1 + 1) + (e + 1)) := by
    rw [show 1 + (e + 1 + 1) + (e + 1) = 0 + modulus by simp only [modulus]; omega, seq_add_modulus]
  obtain ⟨r3, o3, h3, hd3, hr3⟩ := tracedStep_far (S := marked) (t := ⟨r2, 1, []⟩) hr2 500
    (due_gap le_rfl _ _) (p := 0) hha (by rw [length_gap]; exact hl)
  obtain ⟨r4, o4, h4, hd4⟩ := tracedStep_expire (S := marked) (t := ⟨r3, _, _⟩) hr3 1000 (due_gap le_rfl _ _)
  rw [items_gap] at hd3 hd4
  simp only [missingFrom_gap, length_gap] at h3 h4
  have n1 : NearAtCall {} (.ingest 0 1 0) := nearAtCall_ingest 0 rfl ⟨by omega, by omega⟩
  have n2 : NearAtCall ⟨{ vR := 1, vN := 1 }, 1, []⟩ (.ingest (2 ^ 21) 1 0) :=
    nearAtCall_ingest 1 rfl ⟨by omega, by omega⟩
  have n3 : NearAtCall ⟨r2, 1, []⟩ (.ingest 0 1 500) := nearAtCall_ingest 1 rfl ⟨by omega, by omega⟩
  have n4 : NearAtCall ⟨r3, 1 + (e + 1 + 1), [] ++ range' 1 (e + 1)⟩ (.expire 1000) := by
    simp [NearAtCall, Call.positions]
  refine ⟨_, _, (((Run.nil.snoc ⟨n1, h1⟩).snoc ⟨n2, h2⟩).snoc ⟨n3, h3⟩).snoc ⟨n4, h4⟩, ?_, ?_, if_pos rfl, ?_⟩
  · dsimp only
    omega
  · simp only [nil_append, mem_append, List.mem_range'_1]
    omega
  · simp [hd2, hd3, hd4, items, marked]

end OneXBts.An.Air
