import Mathlib.Tactic

/-!
What a call can do: return a value, return an error, or panic.

A fallible function of the source returns `Result` or `Option`, and any indexing in it may panic.
The three endings are kept apart here, so that "never panics" is a statement about the model and not
an assumption of it. The type is a monad in which an error and a panic both end the computation.
-/

namespace OneXBts.Lib

/-- The ending of a call: a value, an error that the caller sees, or a panic. -/
inductive Outcome (ε α : Type) where
  | ok (a : α)
  | err (e : ε)
  | panic
  deriving DecidableEq, Repr

namespace Outcome

variable {ε α β : Type}

def bind (x : Outcome ε α) (f : α → Outcome ε β) : Outcome ε β :=
  match x with
  | .ok a => f a
  | .err e => .err e
  | .panic => .panic

instance : Monad (Outcome ε) where
  pure := .ok
  bind := Outcome.bind

@[simp] lemma ok_bind (a : α) (f : α → Outcome ε β) : ((ok a : Outcome ε α) >>= f) = f a := rfl

@[simp] lemma err_bind (e : ε) (f : α → Outcome ε β) : ((err e : Outcome ε α) >>= f) = err e := rfl

@[simp] lemma panic_bind (f : α → Outcome ε β) : ((panic : Outcome ε α) >>= f) = panic := rfl

@[simp] lemma pure_eq (a : α) : (pure a : Outcome ε α) = ok a := rfl

lemma bind_eq_ok :
    (x >>= f) = ok b ↔ ∃ a, x = ok a ∧ f a = ok b := by cases x <;> simp

lemma bind_ne_panic (hx : x ≠ panic) (hf : ∀ a, x = ok a → f a ≠ panic) : (x >>= f) ≠ panic := by
  cases x with
  | ok a => exact hf a rfl
  | err => simp
  | panic => exact absurd rfl hx

def failIf (c : Prop) [Decidable c] (e : ε) : Outcome ε Unit := if c then .err e else .ok ()

@[simp] lemma failIf_eq_ok {c : Prop} [Decidable c] :
    failIf c e = ok u ↔ ¬ c := by
  unfold failIf
  split_ifs with h <;> simp [h]

lemma failIf_pos {c : Prop} [Decidable c] (h : c) : failIf c e = err e := if_pos h

lemma failIf_neg {c : Prop} [Decidable c] (h : ¬ c) : failIf c e = ok () := if_neg h

lemma failIf_ne_panic {c : Prop} [Decidable c] : failIf c e ≠ panic := by
  unfold failIf
  split_ifs <;> simp

/-- The caller looks at the error; a panic goes through. -/
def result {δ : Type} : Outcome δ α → Outcome ε (Except δ α)
  | .ok a => .ok (.ok a)
  | .err e => .ok (.error e)
  | .panic => .panic

@[simp] lemma result_ok {δ : Type} (a : α) : ((ok a : Outcome δ α).result : Outcome ε _) = ok (.ok a) := rfl

@[simp] lemma result_err {δ : Type} (e : δ) :
    ((err e : Outcome δ α).result : Outcome ε _) = ok (.error e) := rfl

def getAt (l : List α) (i : ℕ) : Outcome ε α :=
  match l[i]? with
  | some a => .ok a
  | none => .panic

/-- Replace the element at `i`, a panic past the end. -/
def setAt (l : List α) (i : ℕ) (a : α) : Outcome ε (List α) :=
  if i < l.length then .ok (l.set i a) else .panic

/-- `unwrap_or_default`: an error is replaced by a default value, a panic stays one (`none`). -/
def unwrapOr (d : α) : Outcome ε α → Option α
  | .ok a => some a
  | .err _ => some d
  | .panic => none

end Outcome

end OneXBts.Lib
