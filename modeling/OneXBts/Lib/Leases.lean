import Mathlib.Data.PEquiv
import Mathlib.Tactic

/-!
Leases: things that are lent out, each to at most one holder, and each holder with at most one.

The state of the leases is a partial equivalence between things and holders. Lending a thing that nobody has to a
holder that has none, and taking one back, give partial equivalences again; so what is said about the leases after
any sequence of the two needs no invariant.
-/

namespace OneXBts.Lib.Leases

open Function

variable {α κ : Type} [DecidableEq α] [DecidableEq κ] (e : α ≃. κ)

def lend (a : α) (k : κ) (ha : e a = none) (hk : e.symm k = none) : α ≃. κ where
  toFun := Function.update e a (some k)
  invFun := Function.update e.symm k (some a)
  inv := by
    intro b l
    by_cases hb : b = a <;> by_cases hl : l = k
    · simp [hb, hl]
    · have hnone : e.symm l ≠ some a := by
        rw [Ne, ← Option.mem_def, PEquiv.mem_iff_mem, ha]
        simp
      simp [hb, hl, Ne.symm hl, hnone]
    · have hnone : e b ≠ some k := by
        rw [Ne, ← Option.mem_def, ← PEquiv.mem_iff_mem, hk]
        simp
      simp [hb, hl, Ne.symm hb, hnone]
    · rw [Function.update_of_ne hb, Function.update_of_ne hl]
      exact PEquiv.mem_iff_mem e

def takeBack (a : α) (k : κ) (h : e a = some k) : α ≃. κ where
  toFun := Function.update e a none
  invFun := Function.update e.symm k none
  inv := by
    have hsymm : e.symm k = some a := (PEquiv.mem_iff_mem e).2 h
    intro b l
    by_cases hb : b = a <;> by_cases hl : l = k
    · simp [hb, hl]
    · have hne : e.symm l ≠ some a := fun hc => hl ((e.symm.inj hc hsymm))
      simp [hb, hl, hne]
    · have hne : e b ≠ some k := fun hc => hb (e.inj hc h)
      simp [hb, hl, hne]
    · rw [Function.update_of_ne hb, Function.update_of_ne hl]
      exact PEquiv.mem_iff_mem e

variable {e} {a b : α} {k l : κ}

lemma lend_apply (ha : e a = none) (hk : e.symm k = none) :
    lend e a k ha hk b = if b = a then some k else e b := update_apply _ _ _ _

lemma lend_symm_apply (ha : e a = none) (hk : e.symm k = none) :
    (lend e a k ha hk).symm l = if l = k then some a else e.symm l := update_apply _ _ _ _

lemma takeBack_apply (h : e a = some k) : takeBack e a k h b = if b = a then none else e b := update_apply _ _ _ _

lemma takeBack_symm_apply (h : e a = some k) :
    (takeBack e a k h).symm l = if l = k then none else e.symm l := update_apply _ _ _ _

end OneXBts.Lib.Leases
