import Mathlib

/-!
# Exclusive ownership

Resources are handed around between owners: a pool, a table, a queue. A relation `owns` says
who has what, and the invariant of such a system is that no resource has two owners.

* **`Exclusive`** — no resource has two owners.
* **`Exclusive.mono`** — resources are given up.
* **`Exclusive.claim`** — an owner gets what nobody else keeps.
* **`Exclusive.grant`** — one resource changes hands: whoever had it before gives it up.
* **`Exclusive.acquire`** — a resource that nobody has is taken.
-/

namespace Ownership

variable {O P : Type*} {owns owns' : O → P → Prop}

/-- No resource has two owners. -/
def Exclusive (owns : O → P → Prop) : Prop := ∀ ⦃o₁ o₂ p⦄, owns o₁ p → owns o₂ p → o₁ = o₂

/-- Owners give up resources. -/
theorem Exclusive.mono (h : Exclusive owns) (hle : ∀ o p, owns' o p → owns o p) :
    Exclusive owns' := fun o₁ o₂ p h₁ h₂ => h (hle o₁ p h₁) (hle o₂ p h₂)

/-- What `o₀` gets, nobody who had it keeps. -/
theorem Exclusive.claim (h : Exclusive owns) (o₀ : O)
    (hle : ∀ o p, owns' o p →
      owns o p ∨ (o = o₀ ∧ ∀ o', owns o' p → owns' o' p → o' = o₀)) : Exclusive owns' := by
  intro o₁ o₂ p h₁ h₂
  rcases hle o₁ p h₁ with hold₁ | ⟨rfl, hgone⟩
  · rcases hle o₂ p h₂ with hold₂ | ⟨rfl, hgone⟩
    · exact h hold₁ hold₂
    · exact hgone o₁ hold₁ h₁
  · rcases hle o₂ p h₂ with hold₂ | ⟨rfl, -⟩
    · exact (hgone o₂ hold₂ h₂).symm
    · rfl

/-- `o₀` gets `p₀`, and whoever had it does not keep it. -/
theorem Exclusive.grant (h : Exclusive owns) (o₀ : O) (p₀ : P)
    (hle : ∀ o p, owns' o p → owns o p ∨ (o = o₀ ∧ p = p₀))
    (hgone : ∀ o, owns o p₀ → owns' o p₀ → o = o₀) : Exclusive owns' := by
  refine h.claim o₀ fun o p ho => (hle o p ho).imp_right ?_
  rintro ⟨rfl, rfl⟩
  exact ⟨rfl, hgone⟩

/-- `o₀` may get `p₀` if nobody has it. -/
theorem Exclusive.acquire (h : Exclusive owns) (o₀ : O) (p₀ : P)
    (hle : ∀ o p, owns' o p → owns o p ∨ (o = o₀ ∧ p = p₀ ∧ ∀ o', ¬ owns o' p₀)) :
    Exclusive owns' := by
  refine h.claim o₀ fun o p ho => (hle o p ho).imp_right ?_
  rintro ⟨rfl, rfl, hnone⟩
  exact ⟨rfl, fun o' ho' _ => absurd ho' (hnone o')⟩

end Ownership
