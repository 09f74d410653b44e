/-
Unsigned LEB128, padding included.

A number is a list of seven-bit groups, lowest first, one byte each, and every
byte but the last carries the continuation bit.  The encoding of a number is not
unique: zero groups may follow at the end.  So an encoded number here is its
groups and not its value, and `ULeb bits` is a legal encoding of a number of that
many bits: it has at least one group, no more than the width needs, and its value
fits the width.

Values are `Nat`; a reader that keeps fewer bits than it read says so itself.

A `Spelling` is any terminated group there can be at a place in a byte string,
whatever its length and its value.  It is told by its bytes, also with something
after it (`Spelling.bytes_append_inj`), so a string of spellings can be read in
one way only.
-/
import Mathlib.Algebra.Ring.Nat

namespace Leb128

/-- So that groups can be written as numerals. -/
instance groups_neZero : NeZero 128 := ⟨by decide⟩

/-- The number a list of groups stands for, lowest group first. -/
def value : List (Fin 128) → Nat
  | [] => 0
  | g :: gs => g.val + 128 * value gs

/-- One byte a group; all but the last say that another follows. -/
def encode : List (Fin 128) → List UInt8
  | [] => []
  | [g] => [UInt8.ofNat g.val]
  | g :: g' :: gs => UInt8.ofNat (g.val + 128) :: encode (g' :: gs)

@[simp] theorem value_nil : value [] = 0 := rfl

@[simp] theorem value_cons (g : Fin 128) (gs : List (Fin 128)) :
    value (g :: gs) = g.val + 128 * value gs := rfl

@[simp] theorem length_encode : ∀ gs : List (Fin 128), (encode gs).length = gs.length := by
  intro gs
  induction gs with
  | nil => rfl
  | cons g gs ih =>
      cases gs with
      | nil => rfl
      | cons g' gs =>
          rw [encode, List.length_cons, ih]
          rfl

/-- A byte below 128 is its own group and ends the number. -/
theorem last_byte (g : Fin 128) :
    ((UInt8.ofNat g.val) &&& 0x7F).toNat = g.val ∧ (UInt8.ofNat g.val) &&& 0x80 = 0 := by
  revert g
  decide

/-- A byte with the continuation bit holds its group beside the bit. -/
theorem more_byte (g : Fin 128) :
    ((UInt8.ofNat (g.val + 128)) &&& 0x7F).toNat = g.val ∧
      ¬(UInt8.ofNat (g.val + 128)) &&& 0x80 = 0 := by
  revert g
  decide

/-- Every byte is the last of a number or one before the last. -/
theorem byte_cases (b : UInt8) :
    (b &&& 0x80 = 0 ∧ ∃ g : Fin 128, b = UInt8.ofNat g.val) ∨
      (¬b &&& 0x80 = 0 ∧ ∃ g : Fin 128, b = UInt8.ofNat (g.val + 128)) := by
  have hbyte : UInt8.ofNat b.toNat = b := UInt8.toNat_inj.mp (by
    rw [UInt8.toNat_ofNat', Nat.mod_eq_of_lt b.toNat_lt])
  by_cases hlow : b.toNat < 128
  · have hlast := last_byte ⟨b.toNat, hlow⟩
    rw [hbyte] at hlast
    exact Or.inl ⟨hlast.2, ⟨b.toNat, hlow⟩, hbyte.symm⟩
  · have hlt := b.toNat_lt
    have hsum : b.toNat - 128 + 128 = b.toNat := by omega
    have hmore := more_byte ⟨b.toNat - 128, by omega⟩
    rw [hsum, hbyte] at hmore
    exact Or.inr ⟨hmore.2, ⟨b.toNat - 128, by omega⟩, by rw [hsum, hbyte]⟩

/-- **A number is told by its bytes, whatever follows.** -/
theorem encode_append_inj : ∀ {gs gs' : List (Fin 128)} {rest rest' : List UInt8}, gs ≠ [] →
    gs' ≠ [] → encode gs ++ rest = encode gs' ++ rest' → gs = gs' ∧ rest = rest' := by
  have hbyte : ∀ m n : Nat, m < 256 → n < 256 → UInt8.ofNat m = UInt8.ofNat n → m = n := by
    intro m n hm hn h
    have hnat := congrArg UInt8.toNat h
    rwa [UInt8.toNat_ofNat', UInt8.toNat_ofNat', Nat.mod_eq_of_lt hm, Nat.mod_eq_of_lt hn] at hnat
  intro gs
  induction gs with
  | nil => intro gs' rest rest' hne; exact absurd rfl hne
  | cons g gs ih =>
      intro gs' rest rest' _ hne' h
      obtain ⟨g', gs', rfl⟩ := List.exists_cons_of_ne_nil hne'
      have hg := g.isLt
      have hg' := g'.isLt
      cases gs with
      | nil =>
          cases gs' with
          | nil =>
              obtain ⟨hhead, htail⟩ := List.cons.inj h
              exact ⟨by rw [Fin.ext (hbyte _ _ (by omega) (by omega) hhead)], htail⟩
          | cons h' t' =>
              have hhead := hbyte _ _ (by omega) (by omega) (List.cons.inj h).1
              omega
      | cons g₂ gs₂ =>
          cases gs' with
          | nil =>
              have hhead := hbyte _ _ (by omega) (by omega) (List.cons.inj h).1
              omega
          | cons h' t' =>
              obtain ⟨hhead, htail⟩ := List.cons.inj h
              have hsame := hbyte _ _ (by omega) (by omega) hhead
              obtain ⟨hgs, hrest⟩ := ih (by simp) (by simp) htail
              exact ⟨by rw [hgs, Fin.ext (show g.val = g'.val by omega)], hrest⟩

/-! ### Numbers as they are found -/

/-- A terminated group: a number of any length and any value. -/
structure Spelling where
  groups : List (Fin 128)
  nonempty : groups ≠ []

namespace Spelling

/-- The number. -/
def value (n : Spelling) : Nat := Leb128.value n.groups

/-- How it is written. -/
def bytes (n : Spelling) : List UInt8 := encode n.groups

@[simp] theorem length_bytes (n : Spelling) : n.bytes.length = n.groups.length :=
  length_encode n.groups

theorem bytes_append_inj {n n' : Spelling} {rest rest' : List UInt8}
    (h : n.bytes ++ rest = n'.bytes ++ rest') : n = n' ∧ rest = rest' := by
  obtain ⟨groups, hne⟩ := n
  obtain ⟨groups', hne'⟩ := n'
  obtain ⟨rfl, hrest⟩ := encode_append_inj hne hne' h
  exact ⟨rfl, hrest⟩

end Spelling

/-! ### Numbers of a width -/

/-- A legal encoding of a number of `bits` bits. -/
structure ULeb (bits : Nat) where
  groups : List (Fin 128)
  nonempty : groups ≠ []
  short : groups.length ≤ (bits + 6) / 7
  fits : value groups < 2 ^ bits

namespace ULeb

variable {bits : Nat}

/-- The number. -/
def value (n : ULeb bits) : Nat := Leb128.value n.groups

/-- How it is written. -/
def bytes (n : ULeb bits) : List UInt8 := encode n.groups

/-- The same number, without what makes it legal. -/
def spelling (n : ULeb bits) : Spelling := ⟨n.groups, n.nonempty⟩

@[simp] theorem spelling_value (n : ULeb bits) : n.spelling.value = n.value := rfl

@[simp] theorem spelling_bytes (n : ULeb bits) : n.spelling.bytes = n.bytes := rfl

@[simp] theorem length_bytes (n : ULeb bits) : n.bytes.length = n.groups.length :=
  length_encode n.groups

end ULeb

end Leb128
