import OneXBts.Lib.Outcome

/-!
Fields of bits, most significant bit first, in an array that holds one bit per element.

`readBits` and `writeBits` are the loops every bit-level codec is made of; an index past the end is a panic. `msb n v` is the
field of width `n` with the value `v`. As long as what lies ahead of a `Cursor` is blank, the bits behind it are the
concatenation of the fields written (`cursorAt`), and a decoder's reads are taken off it field by field.
-/

namespace OneXBts.Lib

open List

/-- An array of bits, one bit per element. Nothing stops an element from being neither `0` nor `1`. -/
abbrev Bits := List UInt8

abbrev Bytes := List UInt8

def IsBits (bits : Bits) : Prop := ∀ b ∈ bits, b = 0 ∨ b = 1

instance (bits : Bits) : Decidable (IsBits bits) := List.decidableBAll (fun b => b = 0 ∨ b = 1) bits

/-! ### Chunks of a list -/

/-- The consecutive pieces of length `n` of a list, the last one possibly shorter; `fuel` bounds the
number of pieces. -/
def chunksAux {α : Type} (n : ℕ) : ℕ → List α → List (List α)
  | 0, _ => []
  | _ + 1, [] => []
  | fuel + 1, a :: l => (a :: l).take n :: chunksAux n fuel ((a :: l).drop n)

/-- The consecutive pieces of length `n` of a list, the last one possibly shorter. -/
def chunks {α : Type} (n : ℕ) (l : List α) : List (List α) := chunksAux n l.length l

section Chunks

variable {α : Type} {n : ℕ}

section

variable (hn : 0 < n)
include hn

lemma chunksAux_spec : ∀ (fuel : ℕ) (l : List α), ∀ c ∈ chunksAux n fuel l,
    c ≠ [] ∧ c.length ≤ n ∧ ∀ a ∈ c, a ∈ l := by
  intro fuel
  induction fuel with
  | zero => intro l c hc; simp [chunksAux] at hc
  | succ =>
    intro l c hc
    cases l with
    | nil => simp [chunksAux] at hc
    | cons => rcases List.mem_cons.1 hc with rfl | hc <;> grind

lemma chunks_spec (hc : c ∈ chunks n l) :
    c ≠ [] ∧ c.length ≤ n ∧ ∀ a ∈ c, a ∈ l := chunksAux_spec hn _ l c hc

lemma flatten_chunksAux (fuel : ℕ) : ∀ l : List α, l.length ≤ fuel → (chunksAux n fuel l).flatten = l := by
  induction fuel with
  | zero =>
    intro l hl
    rw [List.length_eq_zero_iff.1 (Nat.le_zero.1 hl)]
    rfl
  | succ fuel ih =>
    intro l hl
    cases l with
    | nil => rfl
    | cons => rw [chunksAux, flatten_cons, ih _ (by simp at hl ⊢; omega), take_append_drop]

lemma flatten_chunks (l : List α) : (chunks n l).flatten = l := flatten_chunksAux hn _ l le_rfl

lemma chunksAux_of_le (fuel : ℕ) : ∀ l : List α, l.length ≤ fuel → chunksAux n fuel l = chunks n l := by
  induction fuel using Nat.strong_induction_on with
  | _ fuel =>
    intro l hl
    unfold chunks
    cases l with
    | nil => cases fuel <;> rfl
    | cons =>
      obtain ⟨fuel, rfl⟩ : ∃ f, fuel = f + 1 := ⟨fuel - 1, by simp at hl; omega⟩
      grind [chunksAux]

lemma chunks_of_ne_nil (hl : l ≠ []) : chunks n l = l.take n :: chunks n (l.drop n) := by
  cases l with
  | nil => exact absurd rfl hl
  | cons => rw [chunks, length_cons, chunksAux, chunksAux_of_le hn _ _ (by simp; omega)]

lemma chunks_append (chunk rest : List α) (hlen : chunk.length = n) :
    chunks n (chunk ++ rest) = chunk :: chunks n rest := by
  have hne : chunk ++ rest ≠ [] := by grind [length_nil]
  rw [chunks_of_ne_nil hn hne, take_left' hlen, drop_left' hlen]

end

end Chunks

/-! ### A field of bits -/

def bitAt (v k : ℕ) : UInt8 := UInt8.ofNat (v / 2 ^ k % 2)

/-- The field of width `n` with the value `v`, most significant bit first. -/
def msb : ℕ → ℕ → Bits
  | 0, _ => []
  | n + 1, v => bitAt v n :: msb n v

@[simp] lemma length_msb (n v : ℕ) : (msb n v).length = n := by
  induction n with
  | zero => rfl
  | succ n ih => simp [msb, ih]

lemma msb_append (a c v : ℕ) : msb (a + c) v = msb a (v / 2 ^ c) ++ msb c v := by
  induction a with
  | zero => rw [Nat.zero_add]; rfl
  | succ a ih =>
    have hbit : bitAt v (a + c) = bitAt (v / 2 ^ c) a := by
      rw [bitAt, bitAt, Nat.div_div_eq_div_mul, ← Nat.pow_add, Nat.add_comm c a]
    rw [Nat.succ_add, msb, msb, ih, hbit, cons_append]

lemma isBits_msb (n v : ℕ) : IsBits (msb n v) := by
  induction n with
  | zero => exact fun b hb => absurd hb not_mem_nil
  | succ n ih =>
    rintro b (_ | ⟨_, hb⟩)
    · rcases Nat.mod_two_eq_zero_or_one (v / 2 ^ n) with h | h <;> simp [bitAt, h]
    · exact ih b hb

lemma IsBits.append (ha : IsBits a) (hb : IsBits b) : IsBits (a ++ b) := by
  intro c hc
  rcases List.mem_append.1 hc with hc | hc
  · exact ha c hc
  · exact hb c hc

lemma bitAt_toNat (v k : ℕ) : (bitAt v k).toNat = v / 2 ^ k % 2 := by grind [bitAt, UInt8.toNat_ofNat']

/-! ### Reading -/

/-- Read `n` bits from `off` on, most significant first. The loop of `get_bits`: an element counts
by its low bit, and an index past the end is a panic. -/
def readBits {ε : Type} (bits : Bits) (off : ℕ) : ℕ → Outcome ε ℕ
  | 0 => .ok 0
  | n + 1 => do
    let v ← readBits bits off n
    match bits[off + n]? with
    | some b => .ok (2 * v + b.toNat % 2)
    | none => .panic

def index {ε : Type} (bits : Bits) (i : ℕ) : Outcome ε UInt8 :=
  match bits[i]? with
  | some b => .ok b
  | none => .panic

/-- The first `n` elements, a panic when there are fewer. -/
def slice {ε : Type} (bits : Bits) (n : ℕ) : Outcome ε Bits :=
  if n ≤ bits.length then .ok (bits.take n) else .panic

section Read

variable {ε : Type}

@[simp] lemma readBits_zero (bits : Bits) (off : ℕ) :
    (readBits bits off 0 : Outcome ε ℕ) = .ok 0 := rfl

lemma readBits_succ (bits : Bits) (off n : ℕ) :
    (readBits bits off (n + 1) : Outcome ε ℕ) = (readBits bits off n >>= fun v =>
      match bits[off + n]? with
      | some b => .ok (2 * v + b.toNat % 2)
      | none => .panic) := rfl

lemma readBits_ok (bits : Bits) (off n : ℕ) (h : off + n ≤ bits.length) :
    ∃ v, (readBits bits off n : Outcome ε ℕ) = .ok v ∧ v < 2 ^ n := by
  induction n with
  | zero => exact ⟨0, rfl, by simp⟩
  | succ n ih =>
    obtain ⟨v, hv, hlt⟩ := ih (by omega)
    have hget : bits[off + n]? = some (bits.get ⟨off + n, by omega⟩) := by
      rw [List.getElem?_eq_getElem (by omega)]; rfl
    refine ⟨2 * v + (bits.get ⟨off + n, by omega⟩).toNat % 2, ?_, ?_⟩
    · rw [readBits_succ, hv, hget]; rfl
    omega

lemma readBits_lt (h : (readBits bits off n : Outcome ε ℕ) = .ok v) :
    v < 2 ^ n := by
  induction n generalizing v with
  | zero => cases h; simp
  | succ =>
    obtain ⟨u, hu, h⟩ := Outcome.bind_eq_ok.1 h
    grind

lemma readBits_cases (bits : Bits) (off n : ℕ) :
    (∃ v, (readBits bits off n : Outcome ε ℕ) = .ok v) ∨ (readBits bits off n : Outcome ε ℕ) = .panic := by
  induction n with
  | zero => exact .inl ⟨0, rfl⟩
  | succ n ih =>
    rw [readBits_succ]
    rcases ih with ⟨v, hv⟩ | hp
    · rw [hv]
      cases bits[off + n]? with
      | none => exact .inr rfl
      | some b => exact .inl ⟨_, rfl⟩
    · rw [hp]
      exact .inr rfl

lemma readBits_bind_panic {f : ℕ → Outcome ε α} (hf : ∀ v, f v = .panic) : ((readBits bits off n : Outcome ε ℕ) >>= f) = .panic := by
  rcases readBits_cases (ε := ε) bits off n with ⟨v, hv⟩ | hp
  · rw [hv, Outcome.ok_bind, hf]
  · rw [hp, Outcome.panic_bind]

lemma readBits_panic (bits : Bits) (off n : ℕ) (hn : 0 < n) (h : bits.length < off + n) :
    (readBits bits off n : Outcome ε ℕ) = .panic := by
  obtain ⟨n, rfl⟩ := Nat.exists_eq_add_one.2 hn
  have hno : bits[off + n]? = none := by rw [List.getElem?_eq_none_iff]; omega
  rw [readBits_succ, hno]
  exact readBits_bind_panic fun _ => rfl

lemma readBits_bind_ne_panic {f : ℕ → Outcome ε α} (h : off + n ≤ bits.length) (hf : ∀ v, f v ≠ .panic) :
    ((readBits bits off n : Outcome ε ℕ) >>= f) ≠ .panic := by
  obtain ⟨v, hv, -⟩ := readBits_ok (ε := ε) bits off n h
  rw [hv]
  exact hf v

lemma readBits_append_right (a b : Bits) (h : a.length ≤ off) :
    (readBits (a ++ b) off n : Outcome ε ℕ) = readBits b (off - a.length) n := by
  induction n with
  | zero => rfl
  | succ n ih =>
    rw [readBits_succ, readBits_succ, ih, List.getElem?_append_right (by omega),
      show off + n - a.length = off - a.length + n by omega]

lemma readBits_append_left (a b : Bits) (h : off + n ≤ a.length) :
    (readBits (a ++ b) off n : Outcome ε ℕ) = readBits a off n := by
  induction n with
  | zero => rfl
  | succ n ih => rw [readBits_succ, readBits_succ, ih (by omega), List.getElem?_append_left (by omega)]

lemma readBits_skip (h : w ≤ off) :
    (readBits (msb w v ++ rest) off n : Outcome ε ℕ) = readBits rest (off - w) n := by
  rw [readBits_append_right _ _ (by simpa using h), length_msb]

lemma getElem?_msb (v : ℕ) : ∀ (w i : ℕ), i < w → (msb w v)[i]? = some (bitAt v (w - 1 - i)) := by
  intro w
  induction w with
  | zero => omega
  | succ w ih =>
    intro i hi
    cases i with
    | zero => simp [msb]
    | succ i =>
      rw [msb, List.getElem?_cons_succ, ih i (by omega)]
      congr 2
      omega

lemma readBits_msb_eq (v : ℕ) : ∀ n k, (readBits (msb (n + k) v) 0 n : Outcome ε ℕ) = .ok (v / 2 ^ k % 2 ^ n) := by
  intro n
  induction n with
  | zero => intro k; simp [Nat.mod_one]
  | succ n ih =>
    intro k
    rw [readBits_succ, show n + 1 + k = n + (k + 1) by omega, ih (k + 1)]
    have hget := getElem?_msb v (n + 1 + k) n (by omega)
    rw [show n + 1 + k - 1 - n = k by omega] at hget
    rw [show n + (k + 1) = n + 1 + k by omega, Nat.zero_add, hget]
    simp only [Outcome.ok_bind, bitAt_toNat, Nat.mod_mod]
    congr 1
    rw [show v / 2 ^ (k + 1) = v / 2 ^ k / 2 by rw [pow_succ, Nat.div_div_eq_div_mul]]
    grind [Nat.mod_mul]

lemma readBits_msb :
    (readBits (msb n v ++ rest) 0 n : Outcome ε ℕ) = .ok (v % 2 ^ n) := by
  rw [readBits_append_left _ _ (by simp)]
  simpa using readBits_msb_eq v n 0

lemma index_skip (h : w ≤ i) :
    (index (msb w v ++ rest) i : Outcome ε UInt8) = index rest (i - w) := by
  unfold index
  rw [List.getElem?_append_right (by simpa using h), length_msb]

lemma index_msb (h : i < w) :
    (index (msb w v ++ rest) i : Outcome ε UInt8) = .ok (bitAt v (w - 1 - i)) := by
  unfold index
  rw [List.getElem?_append_left (by simpa using h), getElem?_msb v w i h]

lemma index_ok (h : i < bits.length) :
    (index bits i : Outcome ε UInt8) = .ok (bits.get ⟨i, h⟩) := by
  unfold index
  rw [List.getElem?_eq_getElem h]
  rfl

lemma index_ne_panic (h : i < bits.length) :
    (index bits i : Outcome ε UInt8) ≠ .panic := by simp [index_ok h]

lemma slice_ok (h : n ≤ bits.length) :
    (slice bits n : Outcome ε Bits) = .ok (bits.take n) := if_pos h

lemma slice_ne_panic (h : n ≤ bits.length) :
    (slice bits n : Outcome ε Bits) ≠ .panic := by simp [slice_ok h]

end Read

/-! ### Octets -/

def octetBits (data : Bytes) : Bits := data.flatMap fun b => msb 8 b.toNat

@[simp] lemma octetBits_nil : octetBits [] = [] := rfl

lemma octetBits_cons (b : UInt8) (data : Bytes) :
    octetBits (b :: data) = msb 8 b.toNat ++ octetBits data := rfl

lemma octetBits_append (a b : Bytes) : octetBits (a ++ b) = octetBits a ++ octetBits b := flatMap_append

@[simp] lemma length_octetBits (data : Bytes) : (octetBits data).length = 8 * data.length := by
  induction data with
  | nil => rfl
  | cons _ data ih => rw [octetBits_cons, length_append, length_msb, ih, length_cons]; ring

def readOctets {ε : Type} (bits : Bits) (off : ℕ) : ℕ → Outcome ε Bytes
  | 0 => .ok []
  | n + 1 => do
    let b ← readBits bits off 8
    let data ← readOctets bits (off + 8) n
    return UInt8.ofNat b :: data

section Octets

variable {ε : Type}

lemma readOctets_append_right (a b : Bits) : ∀ {off : ℕ}, a.length ≤ off →
    (readOctets (a ++ b) off n : Outcome ε Bytes) = readOctets b (off - a.length) n := by
  induction n <;> grind [readOctets, readBits_append_right]

lemma readOctets_skip (h : w ≤ off) :
    (readOctets (msb w v ++ rest) off n : Outcome ε Bytes) = readOctets rest (off - w) n := by
  rw [readOctets_append_right _ _ (by simpa using h), length_msb]

lemma ofNat_mod_256 (b : UInt8) : UInt8.ofNat (b.toNat % 2 ^ 8) = b := by
  rw [Nat.mod_eq_of_lt (by simpa using b.toNat_lt)]
  simp

lemma readOctets_octetBits (data : Bytes) (rest : Bits) :
    (readOctets (octetBits data ++ rest) 0 data.length : Outcome ε Bytes) = .ok data := by
  induction data with
  | nil => rfl
  | cons _ data ih =>
    rw [length_cons, octetBits_cons, append_assoc]
    unfold readOctets
    rw [readBits_msb, readOctets_skip (by omega)]
    simp only [Outcome.ok_bind, ih, Outcome.pure_eq, ofNat_mod_256]

lemma readOctets_ok (bits : Bits) (n : ℕ) : ∀ off, off + 8 * n ≤ bits.length →
    ∃ data, (readOctets bits off n : Outcome ε Bytes) = .ok data ∧ data.length = n := by
  induction n with
  | zero => intro off _; exact ⟨[], rfl, rfl⟩
  | succ n ih =>
    intro off h
    obtain ⟨v, hv, -⟩ := readBits_ok (ε := ε) bits off 8 (by omega)
    obtain ⟨data, hd, hl⟩ := ih (off + 8) (by omega)
    refine ⟨UInt8.ofNat v :: data, ?_, by simp [hl]⟩
    unfold readOctets
    rw [hv, hd]
    rfl

lemma readOctets_ne_panic (h : off + 8 * n ≤ bits.length) :
    (readOctets bits off n : Outcome ε Bytes) ≠ .panic := by
  obtain ⟨data, hd, -⟩ := readOctets_ok (ε := ε) bits n off h
  simp [hd]

lemma readOctets_length : ∀ {off : ℕ} {data : Bytes},
    (readOctets bits off n : Outcome ε Bytes) = .ok data → data.length = n := by
  induction n with
  | zero => intro off data h; cases h; rfl
  | succ n ih =>
    intro off data h
    obtain ⟨b, -, h⟩ := Outcome.bind_eq_ok.1 h
    obtain ⟨rest, hr, h⟩ := Outcome.bind_eq_ok.1 h
    cases h
    rw [length_cons, ih hr]

end Octets

/-! ### Writing -/

/-- Write the `n` low bits of `v` from `off` on, most significant first: the loop of `put_bits`. An
index past the end is a panic. -/
def writeBits {ε : Type} (off v : ℕ) : ℕ → Bits → Outcome ε Bits
  | 0, bits => .ok bits
  | n + 1, bits => if off < bits.length then writeBits (off + 1) v n (bits.set off (bitAt v n)) else .panic

def blank (n : ℕ) : Bits := List.replicate n 0

@[simp] lemma length_blank (n : ℕ) : (blank n).length = n := by simp [blank]

@[simp] lemma blank_zero : blank 0 = [] := rfl

lemma blank_add (m n : ℕ) : blank (m + n) = blank m ++ blank n := by
  unfold blank
  rw [replicate_append_replicate]

lemma writeBits_append {ε : Type} (v : ℕ) : ∀ (n : ℕ) (pre old post : Bits), old.length = n →
    (writeBits pre.length v n (pre ++ old ++ post) : Outcome ε Bits) = .ok (pre ++ msb n v ++ post) := by
  intro n
  induction n with
  | zero =>
    intro pre old post h
    rw [List.length_eq_zero_iff.1 h]
    rfl
  | succ n ih =>
    intro pre old post h
    obtain ⟨o, old, rfl⟩ : ∃ o old', old = o :: old' := by
      cases old with
      | nil => simp at h
      | cons o old => exact ⟨o, old, rfl⟩
    have hset : (pre ++ o :: old ++ post).set pre.length (bitAt v n) = (pre ++ [bitAt v n]) ++ old ++ post := by
      simp
    unfold writeBits
    rw [hset]
    have := ih (pre ++ [bitAt v n]) old post (by simpa using h)
    rw [length_append, length_singleton] at this
    rw [this]
    simp [msb]

/-! ### A writer moving through an array -/

/-- An array being filled and the position of the next write. -/
structure Cursor where
  bits : Bits
  pos : ℕ
  deriving DecidableEq, Repr

namespace Cursor

variable {ε : Type}

def put (c : Cursor) (v n : ℕ) : Outcome ε Cursor := do
  let bits ← writeBits c.pos v n c.bits
  return ⟨bits, c.pos + n⟩

lemma put_pos {c c' : Cursor} {v n : ℕ} (h : (c.put v n : Outcome ε Cursor) = .ok c') :
    c'.pos = c.pos + n := by
  obtain ⟨bits, -, h⟩ := Outcome.bind_eq_ok.1 h
  cases h
  rfl

def skip (c : Cursor) (n : ℕ) : Cursor := ⟨c.bits, c.pos + n⟩

def putOctets (c : Cursor) : Bytes → Outcome ε Cursor
  | [] => .ok c
  | b :: data => do
    let c ← c.put b.toNat 8
    c.putOctets data

end Cursor

/-- The writer that has written `pre` and has `k` blank bits ahead of it. -/
def cursorAt (pre : Bits) (k : ℕ) : Cursor := ⟨pre ++ blank k, pre.length⟩

lemma cursorAt_nil (k : ℕ) : (⟨blank k, 0⟩ : Cursor) = cursorAt [] k := rfl

@[simp] lemma cursorAt_pos (pre : Bits) (k : ℕ) : (cursorAt pre k).pos = pre.length := rfl
@[simp] lemma cursorAt_bits (pre : Bits) (k : ℕ) : (cursorAt pre k).bits = pre ++ blank k := rfl

section CursorAt

variable {ε : Type}

lemma put_cursorAt (h : n ≤ k) :
    ((cursorAt pre k).put v n : Outcome ε Cursor) = .ok (cursorAt (pre ++ msb n v) (k - n)) := by
  have := writeBits_append (ε := ε) v n pre (blank n) (blank (k - n)) (by simp)
  rw [append_assoc, ← blank_add, show n + (k - n) = k by omega] at this
  unfold Cursor.put
  rw [cursorAt_pos, cursorAt_bits, this]
  simp [cursorAt]

lemma skip_cursorAt (h : n ≤ k) :
    (cursorAt pre k).skip n = cursorAt (pre ++ blank n) (k - n) := by
  unfold Cursor.skip cursorAt
  rw [append_assoc, ← blank_add, show n + (k - n) = k by omega]
  simp

lemma putOctets_cursorAt (data : Bytes) : ∀ {pre : Bits} {k : ℕ}, 8 * data.length ≤ k →
    ((cursorAt pre k).putOctets data : Outcome ε Cursor) =
      .ok (cursorAt (pre ++ octetBits data) (k - 8 * data.length)) := by
  induction data with
  | nil => simp [Cursor.putOctets]
  | cons _ data ih =>
    intro pre k h
    rw [length_cons] at h ⊢
    unfold Cursor.putOctets
    rw [put_cursorAt (by omega), Outcome.ok_bind, ih (by omega), octetBits_cons,
      ← append_assoc, show k - 8 - 8 * data.length = k - 8 * (data.length + 1) by omega]

end CursorAt

/-! ### Check sequences -/

/-- One bit through the register of the reflected CRC-CCITT. -/
def crcStep (crc : UInt16) (bit : UInt8) : UInt16 :=
  let xorFlag := (crc ^^^ (bit &&& 1).toUInt16) &&& 1
  if xorFlag ≠ 0 then (crc >>> 1) ^^^ 0x8408 else crc >>> 1

/-- The same for a bit already folded into the register. -/
def fcsShift (fcs : UInt16) : UInt16 :=
  if fcs &&& 1 ≠ 0 then (fcs >>> 1) ^^^ 0x8408 else fcs >>> 1

end OneXBts.Lib
