/-
Extents stacked end to end.

An allocator that only ever grows at the top hands out extents `(p, n)`: the `n`
addresses from `p`.  The first starts at zero, every later one where the one
before it ended, and none is empty.  `Stacked` says exactly that of a list of
extents, newest first, together with the address the next one would start at.

Everything a client asks of such an allocator is read off that one recursion: the
extents lie below the top, they do not overlap, together they leave no gap, and
their lengths add up to the top.  The list is the entry list of an `AList`, so
the extents of an allocation table can be spoken of directly.
-/
import Mathlib.Algebra.Ring.Nat
import Mathlib.Data.List.AList

namespace Extents

/-- A table from start addresses to lengths. -/
abbrev Table := AList (fun _ : ℕ => ℕ)

/-- Extents laid end to end from zero up to `top`, the newest first. -/
def Stacked : List (Σ _ : ℕ, ℕ) → ℕ → Prop
  | [], top => top = 0
  | ⟨p, n⟩ :: rest, top => 0 < n ∧ p + n = top ∧ Stacked rest p

/-- `x` is one of the addresses of the extent `e`. -/
def Covers (e : Σ _ : ℕ, ℕ) (x : ℕ) : Prop := e.1 ≤ x ∧ x < e.1 + e.2

namespace Stacked

variable {l : List (Σ _ : ℕ, ℕ)} {top : ℕ}

theorem nil : Stacked [] 0 := rfl

/-- The next extent starts where the newest one ended. -/
theorem push (h : Stacked l top) {n : ℕ} (hn : 0 < n) : Stacked (⟨top, n⟩ :: l) (top + n) :=
  ⟨hn, rfl, h⟩

/-- No extent is empty, and every one ends at or below the top. -/
theorem bounds : ∀ {l : List (Σ _ : ℕ, ℕ)} {top : ℕ}, Stacked l top →
    ∀ e ∈ l, 0 < e.2 ∧ e.1 + e.2 ≤ top := by
  intro l
  induction l with
  | nil => intro top _ e he; simp at he
  | cons e₀ rest ih =>
      rintro top ⟨hn, htop, hrest⟩ e he
      rcases List.mem_cons.mp he with rfl | he'
      · exact ⟨hn, by omega⟩
      · obtain ⟨hpos, hle⟩ := ih hrest e he'
        exact ⟨hpos, by omega⟩

/-- Nothing starts at the top: an extent there would have to be empty. -/
theorem fresh (h : Stacked l top) : top ∉ l.keys := by
  intro hmem
  obtain ⟨n, hn⟩ := List.exists_of_mem_keys hmem
  obtain ⟨hpos, hle⟩ := h.bounds _ hn
  simp only at hpos hle
  omega

/-- **The lengths add up to the top.** -/
theorem sum : ∀ {l : List (Σ _ : ℕ, ℕ)} {top : ℕ}, Stacked l top →
    (l.map Sigma.snd).sum = top := by
  intro l
  induction l with
  | nil => intro top h; exact h.symm
  | cons e₀ rest ih =>
      rintro top ⟨-, htop, hrest⟩
      rw [List.map_cons, List.sum_cons, ih hrest]
      omega

/-- There are no more extents than addresses. -/
theorem count_le : ∀ {l : List (Σ _ : ℕ, ℕ)} {top : ℕ}, Stacked l top → l.length ≤ top := by
  intro l
  induction l with
  | nil => intro top _; exact Nat.zero_le _
  | cons e₀ rest ih =>
      rintro top ⟨hn, htop, hrest⟩
      have := ih hrest
      rw [List.length_cons]
      omega

/-- **Two different extents share no address.** -/
theorem disjoint : ∀ {l : List (Σ _ : ℕ, ℕ)} {top : ℕ}, Stacked l top →
    ∀ e ∈ l, ∀ e' ∈ l, e ≠ e' → e.1 + e.2 ≤ e'.1 ∨ e'.1 + e'.2 ≤ e.1 := by
  intro l
  induction l with
  | nil => intro top _ e he; simp at he
  | cons e₀ rest ih =>
      rintro top ⟨-, -, hrest⟩ e he e' he' hne
      rcases List.mem_cons.mp he with rfl | hold
      · rcases List.mem_cons.mp he' with rfl | hold'
        · exact absurd rfl hne
        · exact Or.inr (hrest.bounds e' hold').2
      · rcases List.mem_cons.mp he' with rfl | hold'
        · exact Or.inl (hrest.bounds e hold).2
        · exact ih hrest e hold e' hold' hne

/-- **Every address below the top belongs to an extent.** -/
theorem cover : ∀ {l : List (Σ _ : ℕ, ℕ)} {top : ℕ}, Stacked l top →
    ∀ x, x < top → ∃ e ∈ l, Covers e x := by
  intro l
  induction l with
  | nil => intro top h x hx; exact absurd hx (by rw [h]; omega)
  | cons e₀ rest ih =>
      rintro top ⟨hn, htop, hrest⟩ x hx
      by_cases hlo : e₀.1 ≤ x
      · exact ⟨e₀, List.mem_cons_self, hlo, by omega⟩
      · obtain ⟨e, he, hcov⟩ := ih hrest x (by omega)
        exact ⟨e, List.mem_cons_of_mem _ he, hcov⟩

end Stacked

end Extents
