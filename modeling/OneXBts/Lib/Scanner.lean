import Mathlib.Tactic

/-!
A reader that takes items off the front of a buffer, fed in pieces.

`Scanner` asks three things of an iteration: it takes something when it goes on, more input at the end does not change what
it takes, and what it leaves when it halts stands for all it has seen. Then the way the input is cut does not matter
(`feedAll_eq`), and the iterations come to an end (`loop_some`).
-/

namespace OneXBts.Lib

inductive Scan (α β : Type) where
  | halt (rest : List α)
  | more (item : Option β) (rest : List α)
  deriving DecidableEq, Repr

/-- The iteration of a reader that can be fed in pieces. -/
structure Scanner (α β : Type) where
  step : List α → Scan α β
  shrink : ∀ {buf rest : List α} {item : Option β}, step buf = .more item rest →
    rest.length < buf.length
  more_append : ∀ {buf rest : List α} {item : Option β}, step buf = .more item rest →
    ∀ tail, step (buf ++ tail) = .more item (rest ++ tail)
  halt_append : ∀ {buf rest : List α}, step buf = .halt rest →
    ∀ tail, step (buf ++ tail) = step (rest ++ tail)

namespace Scanner

variable {α β : Type} (S : Scanner α β)

/-- At most `fuel` iterations: the items and what is left, `none` when that is not the end. -/
def loop : ℕ → List α → Option (List β × List α)
  | 0, _ => none
  | fuel + 1, buf =>
    match S.step buf with
    | .halt rest => some ([], rest)
    | .more item rest => (loop fuel rest).map fun r => (item.toList ++ r.1, r.2)

variable {S} {buf rest tail : List α} {items : List β}

lemma loop_halt (h : S.step buf = .halt rest) (fuel : ℕ) :
    S.loop (fuel + 1) buf = some ([], rest) := by
  unfold loop
  rw [h]

lemma loop_more (h : S.step buf = .more item rest) (fuel : ℕ) :
    S.loop (fuel + 1) buf = (S.loop fuel rest).map fun r => (item.toList ++ r.1, r.2) := by rw [loop, h]

/-- **The loop ends**, after at most one iteration for each element and one more. -/
theorem loop_some (fuel : ℕ) : ∀ {buf : List α}, buf.length < fuel → ∃ r, S.loop fuel buf = some r := by
  induction fuel with
  | zero => omega
  | succ fuel ih =>
    intro buf h
    cases hs : S.step buf with
    | halt => exact ⟨_, loop_halt hs fuel⟩
    | more _ rest =>
      obtain ⟨r, hr⟩ := ih (show rest.length < fuel by have := S.shrink hs; omega)
      exact ⟨_, by rw [loop_more hs, hr]; rfl⟩

lemma loop_succ (fuel : ℕ) : ∀ {buf : List α} {r : List β × List α}, S.loop fuel buf = some r →
    S.loop (fuel + 1) buf = some r := by
  induction fuel with
  | zero => intro buf r h; cases h
  | succ =>
    intro buf r h
    cases hs : S.step buf with
    | halt => rwa [loop_halt hs] at h ⊢
    | more =>
      rw [loop_more hs] at h ⊢
      grind [Option.map_eq_some_iff]

lemma loop_mono (h : S.loop fuel buf = some r) (hle : fuel ≤ fuel') : S.loop fuel' buf = some r := by
  induction fuel', hle using Nat.le_induction with
  | base => exact h
  | succ n _ ih => exact loop_succ n ih

lemma loop_congr (h : S.step buf = S.step buf') (fuel : ℕ) :
    S.loop fuel buf = S.loop fuel buf' := by
  cases fuel with
  | zero => rfl
  | succ => rw [loop, loop, h]

lemma step_rest (fuel : ℕ) : ∀ {buf : List α} {r : List β × List α}, S.loop fuel buf = some r →
    S.step r.2 = .halt r.2 := by
  induction fuel with
  | zero => intro buf r h; cases h
  | succ =>
    intro buf r h
    cases hs : S.step buf with
    | halt =>
      rw [loop_halt hs] at h
      cases h
      have := S.halt_append hs []
      rw [List.append_nil, List.append_nil] at this
      exact this.symm.trans hs
    | more =>
      rw [loop_more hs] at h
      grind [Option.map_eq_some_iff]

lemma loop_append (fuel : ℕ) : ∀ {buf : List α} {r r' : List β × List α} {fuel' : ℕ},
    S.loop fuel buf = some r → S.loop fuel' (r.2 ++ tail) = some r' →
    S.loop (fuel + fuel') (buf ++ tail) = some (r.1 ++ r'.1, r'.2) := by
  induction fuel with
  | zero => intro buf r r' fuel' h; cases h
  | succ fuel ih =>
    intro buf r r' fuel' h h'
    cases hs : S.step buf with
    | halt =>
      rw [loop_halt hs] at h
      cases h
      rw [loop_congr (S.halt_append hs tail)]
      exact loop_mono h' (by omega)
    | more =>
      rw [loop_more hs] at h
      obtain ⟨r₁, hr₁, rfl⟩ := Option.map_eq_some_iff.1 h
      rw [show fuel + 1 + fuel' = fuel + fuel' + 1 by omega, loop_more (S.more_append hs tail), ih hr₁ h']
      simp

/-! ### Pieces -/

variable (S)

def feed (buf piece : List α) : Option (List β × List α) := S.loop ((buf ++ piece).length + 1) (buf ++ piece)

def feedAll : List α → List (List α) → Option (List β × List α)
  | buf, [] => some ([], buf)
  | buf, piece :: pieces => do
    let r ← S.feed buf piece
    let r' ← feedAll r.2 pieces
    return (r.1 ++ r'.1, r'.2)

variable {S}

lemma feed_eq_some (fuel : ℕ)
    (h : S.loop fuel (buf ++ piece) = some r) : S.feed buf piece = some r := by
  obtain ⟨r', hr'⟩ := loop_some (S := S) ((buf ++ piece).length + 1) (Nat.lt_succ_self _)
  have h1 := loop_mono h (Nat.le_add_right fuel ((buf ++ piece).length + 1))
  have h2 := loop_mono hr' (Nat.le_add_left ((buf ++ piece).length + 1) fuel)
  rw [h1] at h2
  cases h2
  exact hr'

/-- **The cuts do not matter**: from a buffer that halts at once, feeding the pieces one after another
gives the items of feeding all of it at once, and leaves the same buffer. -/
theorem feedAll_eq (pieces : List (List α)) : ∀ {buf : List α}, S.step buf = .halt buf →
    S.feedAll buf pieces = S.feed buf pieces.flatten := by
  induction pieces with
  | nil => grind [loop_halt, Scanner.feedAll, Scanner.feed]
  | cons piece pieces ih =>
    intro buf hbuf
    obtain ⟨r, hr⟩ := loop_some (S := S) ((buf ++ piece).length + 1) (Nat.lt_succ_self _)
    have hrest := ih (step_rest _ hr)
    obtain ⟨r', hr'⟩ := loop_some (S := S) ((r.2 ++ pieces.flatten).length + 1) (Nat.lt_succ_self _)
    have hall : S.feed buf (piece :: pieces).flatten = some (r.1 ++ r'.1, r'.2) := by
      refine feed_eq_some ((buf ++ piece).length + 1 + ((r.2 ++ pieces.flatten).length + 1)) ?_
      rw [List.flatten_cons, ← List.append_assoc]
      exact loop_append _ hr hr'
    grind [Scanner.feedAll, Scanner.feed]

end Scanner

end OneXBts.Lib
