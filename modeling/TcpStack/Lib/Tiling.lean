import Mathlib

/-!
# Segments laid end to end

A list of segments with lengths occupies an interval of positions. `offset l i` is the
position where segment `i` starts, so `offset l l.length` is the end of the whole list.
-/

namespace Tiling

/-- A type of segments: each has a length. -/
class Segment (α : Type*) where
  len : α → ℕ

export Segment (len)

variable {α : Type*} [Segment α]

/-- The position where segment `i` starts. -/
def offset (l : List α) (i : ℕ) : ℕ := ((l.take i).map len).sum

@[simp] theorem offset_zero (l : List α) : offset l 0 = 0 := by simp [offset]

@[simp] theorem offset_nil (i : ℕ) : offset ([] : List α) i = 0 := by simp [offset]

/-- Segment `i` ends where segment `i + 1` starts. -/
theorem offset_succ {l : List α} {i : ℕ} {a : α} (h : l[i]? = some a) :
    offset l (i + 1) = offset l i + len a := by
  simp [offset, List.take_add_one, h]

/-- Positions do not change when segments are added at the end. -/
theorem offset_append {l : List α} {i : ℕ} (m : List α) (h : i ≤ l.length) :
    offset (l ++ m) i = offset l i := by
  rw [offset, List.take_append_of_le_length h, offset]

/-- Positions behind segment `i` are counted from its start. -/
theorem offset_add (l : List α) (i k : ℕ) :
    offset l (i + k) = offset l i + offset (l.drop i) k := by
  simp [offset, List.take_add]

/-- The end of a list with one more segment. -/
theorem offset_concat (l : List α) (a : α) :
    offset (l ++ [a]) (l ++ [a]).length = offset l l.length + len a := by
  simp [offset]

theorem offset_mono (l : List α) : Monotone (offset l) := by
  refine monotone_nat_of_le_succ fun i => ?_
  rcases h : l[i]? with _ | a
  · have hi := List.getElem?_eq_none_iff.mp h
    rw [offset, offset, List.take_of_length_le hi, List.take_of_length_le (by omega)]
  · rw [offset_succ h]
    omega

section Positive

variable {l : List α} (hpos : ∀ a ∈ l, 0 < len a)
include hpos

/-- With segments of positive length, a later segment starts strictly later. -/
theorem offset_lt {i j : ℕ} (hij : i < j) (hj : j ≤ l.length) :
    offset l i < offset l j := by
  have hi : i < l.length := by omega
  have hget : l[i]? = some l[i] := List.getElem?_eq_getElem hi
  have hlen := hpos _ (List.getElem_mem hi)
  calc offset l i < offset l (i + 1) := by rw [offset_succ hget]; omega
    _ ≤ offset l j := offset_mono l hij

theorem offset_inj {i j : ℕ} (hi : i ≤ l.length) (hj : j ≤ l.length)
    (h : offset l i = offset l j) : i = j := by
  rcases lt_trichotomy i j with hlt | heq | hgt
  · exact absurd h (offset_lt hpos hlt hj).ne
  · exact heq
  · exact absurd h.symm (offset_lt hpos hgt hi).ne

/-- Segment `i` starts at position `i` at the earliest. -/
theorem le_offset {i : ℕ} (hi : i ≤ l.length) : i ≤ offset l i := by
  induction i with
  | zero => simp
  | succ i ih =>
    have := offset_lt hpos (Nat.lt_add_one i) hi
    have := ih (by omega)
    omega

end Positive

end Tiling
