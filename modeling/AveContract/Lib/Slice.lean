/-
Windows of a list, and writes into one.

A flat byte store is read and written a window at a time.  `slice l i n` is the
window of `n` elements from index `i`, `patch l i d` is `l` with `d` written over
the window from `i`.  Everything the store's proofs need is how the two meet: a
read of the window just written gives the data back, a read beside it sees
nothing of the write, and a read around it sees the write at its own offset.

Both are stated on lists of any type.  An index past the end is not an error
here; the lemmas carry the bounds they need.
-/
import Mathlib.Data.List.Basic

namespace Slice

variable {α : Type*}

/-- The `n` elements of `l` from index `i`. -/
def slice (l : List α) (i n : Nat) : List α := (l.drop i).take n

/-- `l` with the elements from index `i` on overwritten by `d`. -/
def patch (l : List α) (i : Nat) (d : List α) : List α :=
  l.take i ++ d ++ l.drop (i + d.length)

theorem getElem?_slice (l : List α) (i n k : Nat) :
    (slice l i n)[k]? = if k < n then l[i + k]? else none := by
  rw [slice, List.getElem?_take]
  split
  · rw [List.getElem?_drop]
  · rfl

theorem getElem?_patch {l d : List α} {i : Nat} (h : i + d.length ≤ l.length) (k : Nat) :
    (patch l i d)[k]? = if i ≤ k ∧ k < i + d.length then d[k - i]? else l[k]? := by
  have htake : (l.take i).length = i := by rw [List.length_take]; omega
  unfold patch
  by_cases hlo : k < i
  · rw [if_neg (by omega), List.append_assoc, List.getElem?_append_left (by omega),
      List.getElem?_take, if_pos hlo]
  · by_cases hhi : k < i + d.length
    · rw [if_pos ⟨by omega, hhi⟩, List.append_assoc, List.getElem?_append_right (by omega), htake,
        List.getElem?_append_left (by omega)]
    · have hpre : (l.take i ++ d).length = i + d.length := by rw [List.length_append, htake]
      rw [if_neg (by omega), List.getElem?_append_right (by omega), hpre, List.getElem?_drop]
      congr 1
      omega

@[simp] theorem length_slice (l : List α) (i n : Nat) :
    (slice l i n).length = min n (l.length - i) := by
  simp [slice]

theorem length_slice_of_le {l : List α} {i n : Nat} (h : i + n ≤ l.length) :
    (slice l i n).length = n := by
  rw [length_slice]
  omega

theorem length_patch {l d : List α} {i : Nat} (h : i + d.length ≤ l.length) :
    (patch l i d).length = l.length := by
  simp only [patch, List.length_append, List.length_take, List.length_drop]
  omega

@[simp] theorem patch_nil (l : List α) (i : Nat) : patch l i [] = l := by
  simp [patch]

/-- Writing over the whole list leaves the data alone. -/
theorem patch_full {l d : List α} (h : d.length = l.length) : patch l 0 d = d := by
  simp [patch, h]

/-- **A read of the window just written gives the data back.** -/
theorem slice_patch_self {l d : List α} {i : Nat} (h : i + d.length ≤ l.length) :
    slice (patch l i d) i d.length = d := by
  apply List.ext_getElem?
  intro k
  rw [getElem?_slice, getElem?_patch h]
  by_cases hk : k < d.length
  · rw [if_pos hk, if_pos ⟨by omega, by omega⟩]
    congr 1
    omega
  · rw [if_neg hk, List.getElem?_eq_none (by omega)]

/-- **A read beside the window written sees nothing of the write.** -/
theorem slice_patch_disjoint {l d : List α} {i j n : Nat} (h : i + d.length ≤ l.length)
    (hdis : j + n ≤ i ∨ i + d.length ≤ j) : slice (patch l i d) j n = slice l j n := by
  apply List.ext_getElem?
  intro k
  rw [getElem?_slice, getElem?_slice]
  by_cases hk : k < n
  · rw [if_pos hk, if_pos hk, getElem?_patch h, if_neg (by omega)]
  · rw [if_neg hk, if_neg hk]

/-- **A read around the window written sees the write at its own offset.** -/
theorem slice_patch_inside {l d : List α} {j n o : Nat} (hin : o + d.length ≤ n)
    (h : j + n ≤ l.length) :
    slice (patch l (j + o) d) j n = patch (slice l j n) o d := by
  have hlen : (slice l j n).length = n := length_slice_of_le h
  apply List.ext_getElem?
  intro k
  rw [getElem?_slice, getElem?_patch (by omega), getElem?_patch (by omega), getElem?_slice]
  by_cases hk : k < n
  · rw [if_pos hk, if_pos hk]
    by_cases hin' : o ≤ k ∧ k < o + d.length
    · rw [if_pos (by omega), if_pos hin']
      congr 1
      omega
    · rw [if_neg (by omega), if_neg hin']
  · rw [if_neg hk, if_neg (by omega), if_neg hk]

/-! ### Growing at the end -/

theorem slice_append_left {l r : List α} {i n : Nat} (h : i + n ≤ l.length) :
    slice (l ++ r) i n = slice l i n := by
  apply List.ext_getElem?
  intro k
  rw [getElem?_slice, getElem?_slice]
  by_cases hk : k < n
  · rw [if_pos hk, if_pos hk, List.getElem?_append_left (by omega)]
  · rw [if_neg hk, if_neg hk]

@[simp] theorem slice_append_right (l r : List α) :
    slice (l ++ r) l.length r.length = r := by
  simp [slice]

/-- A write past the end of `l` is a write into what follows it. -/
theorem patch_append_right (l r d : List α) (i : Nat) :
    patch (l ++ r) (l.length + i) d = l ++ patch r i d := by
  unfold patch
  rw [List.take_length_add_append, List.append_assoc, List.append_assoc, Nat.add_assoc,
    List.drop_length_add_append, List.append_assoc]

end Slice
