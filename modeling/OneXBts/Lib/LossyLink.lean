import Mathlib.Tactic

/-!
A sender with a window, over a link that loses messages and keeps their order.

Messages are numbered from 0 on. The sender transmits a message only if it is at most `w` beyond the first one that it does
not know to have arrived. So a message is at most `w` beyond every one it is transmitted before, and beyond every one that
has not arrived. The numbers a receiver has to tell apart are then those within `w` of each other on either side.
-/

namespace OneXBts.Lib

/-- The window of a sender that knows of some messages that they arrived, with the messages that have arrived and those on
the link in the order in which they were transmitted. -/
structure SendWindow (w : ℕ) (known arrived channel : List ℕ) : Prop where
  below : ∀ i, i ∈ arrived ∨ i ∈ channel → ∀ j, j + w < i → j ∈ known
  ordered : channel.Pairwise fun i j => i ≤ j + w
  across : ∀ i ∈ arrived, ∀ j ∈ channel, i ≤ j + w

namespace SendWindow

variable {w i : ℕ} {known known' got channel channel' : List ℕ}

lemma nil (w : ℕ) (known : List ℕ) : SendWindow w known [] [] := ⟨by simp, .nil, by simp⟩

section

variable (h : SendWindow w known got channel)
include h

lemma mono (hk : ∀ j ∈ known, j ∈ known') :
    SendWindow w known' got channel :=
  ⟨fun x hx j hj => hk j (h.below x hx j hj), h.ordered, h.across⟩

lemma transmit (ho : a ∉ known) (hk : ∀ j < a, j ∈ known)
    (ha : a ≤ i) (hle : i ≤ a + w) : SendWindow w known got (channel ++ [i]) := by
  -- what was transmitted earlier is at most `w` beyond that one
  have he : ∀ x, x ∈ got ∨ x ∈ channel → x ≤ i + w := by
    intro x hx
    by_contra hfar
    exact ho (h.below x hx a (by omega))
  refine ⟨?_, ?_, ?_⟩ <;> grind [cases SendWindow]

lemma lose (hsub : channel'.Sublist channel) :
    SendWindow w known got channel' :=
  ⟨fun x hx => h.below x (hx.imp_right hsub.mem), h.ordered.sublist hsub, fun x hx y hy => h.across x hx y (hsub.mem hy)⟩

end

lemma arrive (h : SendWindow w known got (i :: channel)) : SendWindow w known (i :: got) channel := by
  grind [List.pairwise_cons, cases SendWindow, intro SendWindow]

end SendWindow

end OneXBts.Lib
