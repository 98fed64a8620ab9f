import Mathlib.Data.List.Basic

namespace SanBridge.Library.Slices

variable {α : Type} {xs pre field post : List α} {start stop : Nat}

/-- The elements from one offset up to another; there are none past the end. -/
def slice (xs : List α) (start stop : Nat) : Option (List α) :=
  if stop ≤ xs.length then some ((xs.drop start).take (stop - start)) else none

theorem isSome_slice : (slice xs start stop).isSome = true ↔ stop ≤ xs.length := by
  rw [slice]
  split_ifs with h <;> simp [h]

theorem slice_append (hstart : pre.length = start) (hstop : start + field.length = stop) :
    slice (pre ++ field ++ post) start stop = some field := by
  have hle : stop ≤ (pre ++ field ++ post).length := by
    simp only [List.length_append]
    omega
  have hwidth : stop - start = field.length := by omega
  rw [slice, if_pos hle, List.append_assoc, List.drop_left' hstart, hwidth, List.take_left' rfl]

end SanBridge.Library.Slices
