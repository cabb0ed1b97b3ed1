import OneXBts.Lib.Runs

/-!
Symbol repetition (`phy/coding/symbol_repeat.rs`).

What a state still returns is fixed by it (`remaining`). `next` takes its head. `feed` adds a symbol, but it also sets the
counter when it is 0: the symbol at the front is then sent once more from the beginning, unless nothing is queued. And where
nothing is queued the counter can be left over.
-/

namespace OneXBts.Bts

open Lib List

structure SymbolRepetition where
  factor : ℕ
  symbols : List UInt8 := []
  repeats : ℕ := 0
  deriving DecidableEq, Repr

namespace SymbolRepetition

def feed (s : SymbolRepetition) (symbol : UInt8) : SymbolRepetition :=
  { s with
    symbols := s.symbols ++ [symbol]
    repeats := if s.repeats = 0 then s.factor - 1 else s.repeats }

def next (s : SymbolRepetition) : SymbolRepetition × Option UInt8 :=
  if s.repeats = 0 then
    match s.symbols with
    | symbol :: symbols => ({ s with symbols := symbols, repeats := s.factor - 1 }, some symbol)
    | [] => (s, none)
  else ({ s with repeats := s.repeats - 1 }, s.symbols.head?)

lemma next_decreases {s s' : SymbolRepetition} {symbol : UInt8} (h : s.next = (s', some symbol)) :
    Prod.Lex (· < ·) (· < ·) (s'.symbols.length, s'.repeats) (s.symbols.length, s.repeats) := by
  unfold next at h
  grind

def takeAll (s : SymbolRepetition) : SymbolRepetition × List UInt8 :=
  match _h : s.next with
  | (s', none) => (s', [])
  | (s', some symbol) => ((takeAll s').1, symbol :: (takeAll s').2)
termination_by (s.symbols.length, s.repeats)
decreasing_by all_goals exact next_decreases _h

/-! ### What is still returned -/

def repeated (factor : ℕ) (symbols : List UInt8) : List UInt8 := symbols.flatMap (List.replicate factor)

def remaining (s : SymbolRepetition) : List UInt8 :=
  match s.symbols with
  | [] => []
  | symbol :: symbols => List.replicate (s.repeats + 1) symbol ++ repeated s.factor symbols

/-- The state of the counter in which a symbol can be fed: it is full, or it is 0 exactly when nothing is queued. -/
def Steady (s : SymbolRepetition) : Prop := s.repeats + 1 = s.factor ∨ (s.symbols = [] ↔ s.repeats = 0)

instance (s : SymbolRepetition) : Decidable s.Steady := inferInstanceAs (Decidable (_ ∨ _))

section Remaining

variable {s : SymbolRepetition}

lemma repeated_append (factor : ℕ) (syms more : List UInt8) :
    repeated factor (syms ++ more) = repeated factor syms ++ repeated factor more := flatMap_append

lemma repeated_singleton (factor : ℕ) (symbol : UInt8) : repeated factor [symbol] = replicate factor symbol :=
  flatMap_singleton _ _

lemma remaining_next (hf : 0 < s.factor) :
    s.remaining = s.next.2.toList ++ s.next.1.remaining ∧ s.next.1.factor = s.factor ∧
      (s.next.2 = none → s.symbols = [] ∧ s.next.1.symbols = []) := by
  cases hs : s.symbols with
  | nil =>
    unfold next remaining
    rw [hs]
    split_ifs
    · simp [hs]
    · simp
  | cons =>
    unfold next remaining
    grind [SymbolRepetition.repeated]

lemma takeAll_spec (hf : 0 < s.factor) :
    s.takeAll.2 = s.remaining ∧ s.takeAll.1.symbols = [] ∧ s.takeAll.1.factor = s.factor := by
  -- by induction along the calls of `next`
  induction s using takeAll.induct <;> grind [remaining_next, takeAll, remaining]

/-- **A feed adds the copies of its symbol exactly in a steady state.** -/
theorem remaining_feed (hf : 0 < s.factor) (symbol : UInt8) :
    (s.feed symbol).remaining = s.remaining ++ replicate s.factor symbol ↔ s.Steady := by
  unfold feed remaining Steady
  cases hs : s.symbols with
  | nil => grind [repeated, replicate_left_inj]
  | cons =>
    dsimp only [cons_append]
    rw [repeated_append, repeated_singleton, ← append_assoc, append_left_inj, append_left_inj, replicate_left_inj]
    simp only [reduceCtorEq, false_iff]
    split_ifs <;> omega

end Remaining

/-! ### Calls -/

inductive Call where
  | feed (symbol : UInt8)
  | next
  | takeAll
  deriving DecidableEq, Repr

def step (s : SymbolRepetition) : Call → Option (SymbolRepetition × List UInt8)
  | .feed symbol => some (s.feed symbol, [])
  | .next => some (s.next.1, s.next.2.toList)
  | .takeAll => some s.takeAll

def Call.fed : Call → List UInt8
  | feed symbol => [symbol]
  | _ => []

def FeedSteady (s : SymbolRepetition) : Call → Prop
  | .feed _ => s.Steady
  | _ => True

instance (s : SymbolRepetition) (call : Call) : Decidable (FeedSteady s call) :=
  match call with
  | .feed _ => inferInstanceAs (Decidable s.Steady)
  | .next => .isTrue trivial
  | .takeAll => .isTrue trivial

/-- **Each symbol is repeated exactly `factor` times, if symbols are fed in steady states.** For every factor and every
interleaving of calls in which they are: what was returned and what taking all would return are the fed symbols, in
order, `factor` times each; nothing is queued after that; and one more symbol can be fed with the same result exactly in
a steady state. -/
theorem repeated_exactly (factor : ℕ) (hfactor : 0 < factor) {s : SymbolRepetition} {log : List (Call × List UInt8)}
    (hrun : Run (guarded step FeedSteady) { factor := factor } s log) :
    (log.flatMap fun e => e.2) ++ s.takeAll.2 = repeated factor (log.flatMap fun e => e.1.fed) ∧
    s.takeAll.1.symbols = [] ∧
    ∀ symbol, (log.flatMap fun e => e.2) ++ (s.feed symbol).takeAll.2 =
      repeated factor ((log.flatMap fun e => e.1.fed) ++ [symbol]) ↔ s.Steady := by
  have h : s.factor = factor ∧
      (log.flatMap fun e => e.2) ++ s.remaining = repeated factor (log.flatMap fun e => e.1.fed) := by
    refine hrun.inv (fun s log => s.factor = factor ∧
      (log.flatMap fun e => e.2) ++ s.remaining = repeated factor (log.flatMap fun e => e.1.fed)) ⟨rfl, rfl⟩ ?_
    rintro s call s' o log ⟨rfl, hlaw⟩ ⟨hst, hs⟩
    simp only [flatMap_append, flatMap_singleton]
    rw [repeated_append, ← hlaw, append_assoc, append_assoc]
    cases call with
    | feed symbol =>
      cases hs
      refine ⟨rfl, ?_⟩
      rw [(remaining_feed hfactor symbol).2 hst, Call.fed, repeated_singleton]
      rfl
    | next => cases hs <;> grind [remaining_next, SymbolRepetition.repeated, SymbolRepetition.Call.fed]
    | takeAll =>
      grind [takeAll_spec, SymbolRepetition.remaining, SymbolRepetition.repeated,
        SymbolRepetition.Call.fed, Lib.guarded, SymbolRepetition.step]
  grind [takeAll_spec, append_right_inj, remaining_feed, SymbolRepetition.repeated, SymbolRepetition.feed]

/-- Two symbols fed at once with factor 3, one of the copies returned. -/
theorem repeated_exactly_three :
    ∃ s log, Run (guarded step FeedSteady) { factor := 3 } s log ∧ (log.flatMap fun e => e.2) = [5] ∧
      (log.flatMap fun e => e.2) ++ s.takeAll.2 = [5, 5, 5, 6, 6, 6] := by
  obtain ⟨s, log, hrun, hr, hfed⟩ := exists_run step FeedSteady { factor := 3 } [.feed 5, .next, .feed 6]
    (fun _ log => (log.flatMap fun e => e.2) = [5] ∧ (log.flatMap fun e => e.1.fed) = [5, 6]) (by decide)
  refine ⟨s, log, hrun, hr, ?_⟩
  rw [(repeated_exactly 3 (by decide) hrun).1, hfed]
  rfl

/-- With factor 2, a symbol fed when one copy of the first is left to return makes three copies of that one. With factor
3, after a symbol was returned and `next` was called until it returned nothing, the next symbol is returned twice. -/
theorem repeated_otherwise :
    (∃ s log, Run (steps step) { factor := 2 } s log ∧ (log.flatMap fun e => e.1.fed) = [1, 0] ∧
      (log.flatMap fun e => e.2) ++ s.takeAll.2 = [1, 1, 1, 0, 0]) ∧
    ∃ s log, Run (steps step) { factor := 3 } s log ∧ (log.flatMap fun e => e.1.fed) = [1, 0] ∧
      (log.flatMap fun e => e.2) ++ s.takeAll.2 = [1, 1, 1, 0, 0] := by
  constructor
  · obtain ⟨s, log, hrun, rfl, hr, hfed⟩ := exists_run step (fun _ _ => True) { factor := 2 }
      [.feed 1, .next, .feed 0]
      (fun s log => s = { factor := 2, symbols := [1, 0], repeats := 1 } ∧ (log.flatMap fun e => e.2) = [1] ∧
        (log.flatMap fun e => e.1.fed) = [1, 0]) (by decide)
    refine ⟨_, log, hrun, hfed, ?_⟩
    rw [hr, (takeAll_spec (by decide)).1]
    rfl
  · obtain ⟨s, log, hrun, rfl, hr, hfed⟩ := exists_run step (fun _ _ => True) { factor := 3 }
      [.feed 1, .next, .next, .next, .next, .feed 0]
      (fun s log => s = { factor := 3, symbols := [0], repeats := 1 } ∧ (log.flatMap fun e => e.2) = [1, 1, 1] ∧
        (log.flatMap fun e => e.1.fed) = [1, 0]) (by decide)
    refine ⟨_, log, hrun, hfed, ?_⟩
    rw [hr, (takeAll_spec (by decide)).1]
    rfl

end SymbolRepetition

end OneXBts.Bts
