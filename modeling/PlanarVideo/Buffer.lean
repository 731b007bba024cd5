/-!
# Writing into a buffer

`overwrite buffer start values` lays an array of values over a buffer, from an index on.  The
buffer keeps its size, and outside the stretch that is laid over it keeps its elements; both are
stated here, for lists of values and for arrays.
-/

namespace PlanarVideo

variable {α : Type}

/-- Lays a list of values over `buffer` from index `start` on; values that would fall beyond the
end are dropped. -/
def overwriteList (buffer : Array α) (start : Nat) : List α → Array α
  | [] => buffer
  | value :: rest => overwriteList (buffer.setIfInBounds start value) (start + 1) rest

/-- Lays an array of values over `buffer` from index `start` on; values that would fall beyond
the end are dropped. -/
def overwrite (buffer : Array α) (start : Nat) (values : Array α) : Array α :=
  overwriteList buffer start values.toList

/-! ## Size and elements -/

@[simp] theorem size_overwriteList (buffer : Array α) (start : Nat) (values : List α) :
    (overwriteList buffer start values).size = buffer.size := by
  induction values generalizing buffer start with
  | nil => rfl
  | cons value rest ih => rw [overwriteList, ih, Array.size_setIfInBounds]

theorem getElem?_overwriteList (buffer : Array α) (start : Nat) (values : List α) (i : Nat) :
    (overwriteList buffer start values)[i]? =
      if start ≤ i ∧ i < start + values.length ∧ i < buffer.size then values[i - start]?
      else buffer[i]? := by
  induction values generalizing buffer start with
  | nil =>
    rw [if_neg (by simp only [List.length_nil]; omega)]
    rfl
  | cons value rest ih =>
    rw [overwriteList, ih, Array.size_setIfInBounds, Array.getElem?_setIfInBounds, List.length_cons]
    by_cases hi : start = i
    · subst hi
      rw [if_neg (by omega)]
      by_cases hb : start < buffer.size
      · rw [if_pos rfl, if_pos hb, if_pos (by omega), Nat.sub_self, List.getElem?_cons_zero]
      · rw [if_pos rfl, if_neg hb, if_neg (by omega), Array.getElem?_eq_none (by omega)]
    · rw [if_neg hi]
      by_cases h : start ≤ i ∧ i < start + (rest.length + 1) ∧ i < buffer.size
      · have hs : i - start = i - (start + 1) + 1 := by omega
        rw [if_pos h, if_pos (by omega), hs, List.getElem?_cons_succ]
      · rw [if_neg h, if_neg (by omega)]

@[simp] theorem size_overwrite (buffer : Array α) (start : Nat) (values : Array α) :
    (overwrite buffer start values).size = buffer.size :=
  size_overwriteList buffer start values.toList

/-- An element of an overwritten buffer is the value laid over it, or its old element. -/
theorem getElem?_overwrite (buffer : Array α) (start : Nat) (values : Array α) (i : Nat) :
    (overwrite buffer start values)[i]? =
      if start ≤ i ∧ i < start + values.size ∧ i < buffer.size then values[i - start]?
      else buffer[i]? := by
  rw [overwrite, getElem?_overwriteList, Array.getElem?_toList, Array.length_toList]

end PlanarVideo
