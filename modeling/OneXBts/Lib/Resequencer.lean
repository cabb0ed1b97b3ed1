import Mathlib.Data.List.TakeWhile
import OneXBts.Lib.Ring

/-!
Resequencing with a deadline for what is missing.

The window of a receiver is a list of slots from the next item to deliver on, each received or missing until a deadline. The
head moves over received slots, or also over those whose deadline is past (`Slot.due`). `Accounted` says what has come out:
the stream up to the head, without the items given up. `Holds` ties a map with keys modulo `m` to a list.
-/

namespace OneXBts.Lib

open List Function

/-! ### Maps with cyclic keys -/

section Holds

variable {κ β : Type} {m : ℕ} {key : ℕ → κ} {base : ℕ} {l : List (Option β)} {f : κ → Option β}

/-- Two numbers have one key exactly when they agree modulo `m`. -/
def Cyclic (m : ℕ) (key : ℕ → κ) : Prop := ∀ a b, key a = key b ↔ a % m = b % m

/-- The map has the entries of the list under the keys from `base` on, and no others. -/
structure Holds (m : ℕ) (key : ℕ → κ) (base : ℕ) (l : List (Option β)) (f : κ → Option β) : Prop where
  entry : ∀ i < m, f (key (base + i)) = l[i]?.join
  outside : ∀ k, (∀ n, k ≠ key n) → f k = none

lemma Cyclic.key_ne (hkey : Cyclic m key) (base : ℕ) (hi : i < m) (hj : j < m) (hne : i ≠ j) :
    key (base + i) ≠ key (base + j) := by
  intro heq
  have := mod_inj_window (N := base) (by omega) (by omega) (by omega) (by omega) ((hkey _ _).1 heq)
  omega

lemma holds_empty : Holds m key base ([] : List (Option β)) fun _ => none := ⟨fun _ _ => by simp, fun _ _ => rfl⟩

lemma Holds.getElem (h : Holds m key base l f) (hi : i < l.length) (hm : l.length ≤ m) :
    f (key (base + i)) = l[i] := by
  rw [h.entry i (by omega), List.getElem?_eq_getElem hi]
  rfl

lemma Holds.eq_none (h : Holds m key base [] f) (hkey : Cyclic m key) (hm : 0 < m) (k : κ) : f k = none := by
  by_cases hk : ∃ n, k = key n
  · obtain ⟨n, rfl⟩ := hk
    obtain ⟨h1, h2, h3⟩ := numberOf_spec base (Nat.mod_lt n hm)
    have heq : key n = key (base + (numberOf m base (n % m) - base)) :=
      (hkey _ _).2 (by rw [Nat.add_sub_cancel' h1, h3])
    rw [heq, h.entry _ (by omega)]
    rfl
  · exact h.outside k (by simpa using hk)

lemma Holds.of_nil (h : Holds m key base [] f) (hkey : Cyclic m key) (hm : 0 < m) (base' : ℕ) :
    Holds m key base' [] f :=
  ⟨fun _ _ => by rw [h.eq_none hkey hm]; simp, h.outside⟩

variable [DecidableEq κ]

lemma Holds.set (h : Holds m key base l f) (hkey : Cyclic m key) (hi : i < l.length) (hm : l.length ≤ m)
    (v : Option β) : Holds m key base (l.set i v) (update f (key (base + i)) v) := by
  refine ⟨fun j hj => ?_, fun k hk => ?_⟩
  · by_cases hij : j = i
    · subst hij
      rw [update_self, List.getElem?_set_self hi]
      rfl
    · rw [update_of_ne (hkey.key_ne base hj (by omega) hij), h.entry j hj, List.getElem?_set_ne (Ne.symm hij)]
  · rw [update_of_ne (hk _), h.outside k hk]

lemma Holds.push (h : Holds m key base l f) (hkey : Cyclic m key) (hm : l.length < m) (v : Option β) :
    Holds m key base (l ++ [v]) (update f (key (base + l.length)) v) := by
  refine ⟨fun j hj => ?_, fun k hk => ?_⟩
  · by_cases hij : j = l.length
    · subst hij
      rw [update_self, List.getElem?_concat_length]
      rfl
    · rw [update_of_ne (hkey.key_ne base hj hm hij), h.entry j hj]
      grind
  · rw [update_of_ne (hk _), h.outside k hk]

omit [DecidableEq κ] in
lemma Holds.append_none (h : Holds m key base l f) (k : ℕ) :
    Holds m key base (l ++ replicate k none) f := by grind [cases Holds, intro Holds]

lemma Holds.pop (h : Holds m key base (v :: l) f) (hkey : Cyclic m key) (hm : l.length < m) :
    Holds m key (base + 1) l (update f (key base) none) := by
  refine ⟨fun j hj => ?_, fun k hk => ?_⟩
  · by_cases hl : j + 1 = m
    · -- the last key is that of the head
      have heq : key (base + 1 + j) = key base :=
        (hkey _ _).2 (by rw [show base + 1 + j = base + m by omega, Nat.add_mod_right])
      rw [heq, update_self, List.getElem?_eq_none (by omega)]
      rfl
    · have hne : key (base + 1 + j) ≠ key base := by
        have := hkey.key_ne base (i := j + 1) (j := 0) (by omega) (by omega) (by omega)
        rwa [show base + 1 + j = base + (j + 1) by omega]
      rw [update_of_ne hne, show base + 1 + j = base + (j + 1) by omega, h.entry _ (by omega),
        List.getElem?_cons_succ]
  · rw [update_of_ne (hk _), h.outside k hk]

end Holds

/-! ### Slots -/

inductive Slot (α : Type) where
  | received (a : α)
  | missing (deadline : ℕ)
  deriving DecidableEq, Repr

namespace Slot

variable {α : Type}

def item : Slot α → Option α
  | received a => some a
  | missing _ => none

def deadline : Slot α → Option ℕ
  | received _ => none
  | missing deadline => some deadline

def isReceived : Slot α → Bool
  | received _ => true
  | missing _ => false

def due (now : ℕ) : Slot α → Bool
  | received _ => true
  | missing deadline => deadline ≤ now

lemma due_of_isReceived (now : ℕ) (s : Slot α) (h : s.isReceived = true) : s.due now = true := by
  cases s with
  | received => rfl
  | missing => cases h

end Slot

variable {α : Type}

def items (slots : List (Slot α)) : List α := slots.filterMap Slot.item

/-- The numbers of the missing slots, the first slot being number `n`. -/
def missingFrom : ℕ → List (Slot α) → List ℕ
  | _, [] => []
  | n, .received _ :: slots => missingFrom (n + 1) slots
  | n, .missing _ :: slots => n :: missingFrom (n + 1) slots

lemma items_append (s t : List (Slot α)) : items (s ++ t) = items s ++ items t := filterMap_append

lemma missingFrom_append (s t : List (Slot α)) (n : ℕ) :
    missingFrom n (s ++ t) = missingFrom n s ++ missingFrom (n + s.length) t := by
  induction s generalizing n with
  | nil => rfl
  | cons slot s =>
    have hlen : n + (slot :: s).length = n + 1 + s.length := by simp; omega
    cases slot <;> grind [missingFrom]

lemma missingFrom_of_received {slots : List (Slot α)} (h : ∀ s ∈ slots, s.isReceived = true) (n : ℕ) :
    missingFrom n slots = [] := by
  induction slots generalizing n with
  | nil => rfl
  | cons slot slots ih =>
    cases slot with
    | received => exact ih (fun s hs => h s (mem_cons_of_mem _ hs)) (n + 1)
    | missing => cases h _ mem_cons_self

lemma length_items_of_received {slots : List (Slot α)} (h : ∀ s ∈ slots, s.isReceived = true) :
    (items slots).length = slots.length := by
  induction slots with
  | nil => rfl
  | cons slot slots ih =>
    cases slot with
    | received => exact congrArg (· + 1) (ih fun s hs => h s (mem_cons_of_mem _ hs))
    | missing => cases h _ mem_cons_self

lemma length_items_add (slots : List (Slot α)) (n : ℕ) :
    (items slots).length + (missingFrom n slots).length = slots.length := by
  induction slots generalizing n with
  | nil => rfl
  | cons slot slots ih =>
    have := ih (n + 1)
    cases slot with
    | received =>
      change (items slots).length + 1 + (missingFrom (n + 1) slots).length = slots.length + 1
      omega
    | missing =>
      change (items slots).length + ((missingFrom (n + 1) slots).length + 1) = slots.length + 1
      omega

lemma missingFrom_eq_filter (slots : List (Slot α)) (n : ℕ) :
    missingFrom n slots = (range' n slots.length).filter fun p => (slots[p - n]?.bind Slot.deadline).isSome := by
  induction slots generalizing n with
  | nil => rfl
  | cons slot slots ih =>
    have ht : (range' (n + 1) slots.length).filter
        (fun p => ((slot :: slots)[p - n]?.bind Slot.deadline).isSome) = missingFrom (n + 1) slots := by
      rw [ih (n + 1)]
      refine filter_congr fun p hp => ?_
      grind
    rw [length_cons, List.range'_succ, filter_cons, ht]
    cases slot <;> simp [missingFrom, Slot.deadline]

/-- The item of slot `i` arrives: the slots up to it that did not exist are missing. -/
def put (i : ℕ) (a : α) (deadline : ℕ) (slots : List (Slot α)) : List (Slot α) :=
  (slots ++ List.replicate (i + 1 - slots.length) (Slot.missing deadline)).set i (.received a)

lemma put_of_lt (hi : i < slots.length) (a : α) (due : ℕ) :
    put i a due slots = slots.set i (.received a) := by
  rw [put, Nat.sub_eq_zero_of_le hi, replicate_zero, append_nil]

lemma put_add (k : ℕ) (slots : List (Slot α)) (a : α) (due : ℕ) :
    put (slots.length + k) a due slots = slots ++ replicate k (Slot.missing due) ++ [.received a] := by
  rw [put, show slots.length + k + 1 - slots.length = k + 1 by omega, replicate_succ', set_append_right _ _ (by simp)]
  simp

lemma length_put (i : ℕ) (a : α) (due : ℕ) (slots : List (Slot α)) :
    (put i a due slots).length = max slots.length (i + 1) := by
  simp only [put, length_set, length_append, length_replicate]
  omega

def Stalled (slots : List (Slot α)) : Prop := ∀ slot ∈ slots.head?, slot.isReceived = false

lemma takeWhile_of_imp (hpq : ∀ s, p s = true → q s = true) (slots : List (Slot α)) :
    slots.takeWhile q = slots.takeWhile p ++ (slots.dropWhile p).takeWhile q := by
  induction slots with
  | nil => rfl
  | cons s slots ih =>
    cases hp : p s with
    | true => simp [hp, hpq s hp, ih]
    | false => simp [hp]

lemma dropWhile_of_imp (hpq : ∀ s, p s = true → q s = true) (slots : List (Slot α)) :
    slots.dropWhile q = (slots.dropWhile p).dropWhile q := by
  induction slots with
  | nil => rfl
  | cons s slots ih =>
    cases hp : p s with
    | true => simp [hp, hpq s hp, ih]
    | false => simp [hp]

lemma stalled_dropWhile (hp : ∀ a, p (.received a) = true) (slots : List (Slot α)) :
    Stalled (slots.dropWhile p) := by
  intro slot hs
  have hnot := List.head?_dropWhile_not p slots
  rw [Option.mem_def.1 hs] at hnot
  cases slot with
  | received a => simp [hp a] at hnot
  | missing => rfl

lemma Stalled.put (h : Stalled slots) (i : ℕ) (a : α) (due : ℕ) :
    Stalled (put (i + 1) a due slots) := by
  intro slot hs
  cases slots with
  | nil =>
    simp [Lib.put, replicate_succ] at hs
    subst hs
    rfl
  | cons => exact h slot hs

/-! ### What came out -/

section Accounted

variable {S : ℕ → α} {base : ℕ} {aborted : List ℕ} {out : List α} {slots : List (Slot α)}

/-- What has been received is what the stream has there. -/
def Consistent (S : ℕ → α) (base : ℕ) (slots : List (Slot α)) : Prop :=
  ∀ i a, slots[i]? = some (.received a) → a = S (base + i)

/-- The output is the stream up to the head without the items that were given up. -/
structure Accounted (S : ℕ → α) (base : ℕ) (aborted : List ℕ) (out : List α) : Prop where
  out_eq : out = ((List.range base).filter (· ∉ aborted)).map S
  below : ∀ p ∈ aborted, p < base
  increasing : aborted.Pairwise (· < ·)

lemma accounted_nil (S : ℕ → α) : Accounted S 0 [] [] := ⟨rfl, by simp, .nil⟩

section

variable (h : Accounted S base aborted out)
include h

lemma Accounted.deliver :
    Accounted S (base + 1) aborted (out ++ [S base]) := by
  have hnot : base ∉ aborted := fun hmem => lt_irrefl _ (h.below _ hmem)
  refine ⟨?_, fun p hp => (h.below p hp).trans (by omega), h.increasing⟩
  grind [range_succ, cases Accounted]

lemma Accounted.abort :
    Accounted S (base + 1) (aborted ++ [base]) out := by
  refine ⟨?_, ?_, ?_⟩
  · rw [range_succ, filter_append, map_append]
    have hs : (List.range base).filter (· ∉ aborted ++ [base]) = (List.range base).filter (· ∉ aborted) := by
      refine filter_congr fun p hp => ?_
      have hne : p ≠ base := (mem_range.1 hp).ne
      simp [hne]
    rw [hs, ← h.out_eq]
    simp
  · intro p hp
    rcases mem_append.1 hp with hp | hp
    · exact (h.below p hp).trans (by omega)
    · rw [mem_singleton.1 hp]
      omega
  · refine pairwise_append.2 ⟨h.increasing, pairwise_singleton _ _, fun p hp q hq => ?_⟩
    rw [mem_singleton.1 hq]
    exact h.below p hp

/-- **The head moves over a stretch of slots.** -/
theorem Accounted.pass (hs : Consistent S base slots) :
    Accounted S (base + slots.length) (aborted ++ missingFrom base slots) (out ++ items slots) := by
  induction slots generalizing base aborted out with
  | nil => simpa [missingFrom, items] using h
  | cons slot slots ih =>
    have ht : Consistent S (base + 1) slots := by
      intro i a hi
      have := hs (i + 1) a (by exact hi)
      rwa [show base + 1 + i = base + (i + 1) by omega]
    rw [length_cons, show base + (slots.length + 1) = base + 1 + slots.length by omega]
    cases slot with
    | received a =>
      obtain rfl : a = S base := hs 0 a rfl
      simpa [missingFrom, items, Slot.item] using ih h.deliver ht
    | missing t =>
      have hit : items (.missing t :: slots) = items slots := rfl
      rw [hit]
      simpa [missingFrom] using ih h.abort ht

end

lemma Consistent.append_left (h : Consistent S base (s ++ t)) : Consistent S base s := by grind [Consistent]

lemma Consistent.append_right (h : Consistent S base (s ++ t)) :
    Consistent S (base + s.length) t := by
  intro i a hi
  have := h (s.length + i) a (by rw [List.getElem?_append_right (by omega), Nat.add_sub_cancel_left]; exact hi)
  rwa [Nat.add_assoc]

lemma Consistent.put (h : Consistent S base slots) (i due : ℕ) :
    Consistent S base (put i (S (base + i)) due slots) := by grind [Consistent, put]

end Accounted

end OneXBts.Lib
