/-
Borsh: a codec is an encoder, a decoder, and the two laws that tie them.

Every codec here reads a prefix of its input and hands back the rest.  Its laws
are fields: what was encoded decodes to itself and leaves the rest untouched, and
nothing decodes but an encoding.  A pair, a newtype or a struct of codecs is
again a codec, so a record's round trip needs no proof of its own.

Four shapes are enough for records of bytes, flags and texts.  A byte vector is
its length as four little-endian bytes and then the bytes, a string is the vector
of its UTF-8 bytes, a bool is one byte that must be 0 or 1, and a struct is its
fields in order.  `tryFromSlice` is the whole-input decoder, which refuses bytes
left over.
-/
import Mathlib.Algebra.Ring.Nat

namespace Borsh

/-- Why an encoding or a decoding failed. -/
inductive Error where
  | lengthOverflow
  | unexpectedLength
  | notAllBytesRead
  | invalidBool (byte : UInt8)
  | invalidUtf8
  deriving DecidableEq, Repr

/-! ### Four little-endian bytes -/

/-- `u32::to_le_bytes`. -/
def le32 (n : Nat) : List UInt8 :=
  [UInt8.ofNat n, UInt8.ofNat (n / 2 ^ 8), UInt8.ofNat (n / 2 ^ 16), UInt8.ofNat (n / 2 ^ 24)]

/-- `u32::from_le_bytes`. -/
def ofLe32 (b₀ b₁ b₂ b₃ : UInt8) : Nat :=
  b₀.toNat + 2 ^ 8 * b₁.toNat + 2 ^ 16 * b₂.toNat + 2 ^ 24 * b₃.toNat

@[simp] theorem length_le32 (n : Nat) : (le32 n).length = 4 := rfl

theorem ofLe32_le32 {n : Nat} (h : n < 2 ^ 32) :
    ofLe32 (UInt8.ofNat n) (UInt8.ofNat (n / 2 ^ 8)) (UInt8.ofNat (n / 2 ^ 16))
      (UInt8.ofNat (n / 2 ^ 24)) = n := by
  simp only [ofLe32, UInt8.toNat_ofNat']
  omega

theorem ofLe32_lt (b₀ b₁ b₂ b₃ : UInt8) : ofLe32 b₀ b₁ b₂ b₃ < 2 ^ 32 := by
  have h₀ := b₀.toNat_lt
  have h₁ := b₁.toNat_lt
  have h₂ := b₂.toNat_lt
  have h₃ := b₃.toNat_lt
  simp only [ofLe32]
  omega

/-- Reading four bytes and writing them again gives them back. -/
theorem le32_ofLe32 (b₀ b₁ b₂ b₃ : UInt8) : le32 (ofLe32 b₀ b₁ b₂ b₃) = [b₀, b₁, b₂, b₃] := by
  have h₀ := b₀.toNat_lt
  have h₁ := b₁.toNat_lt
  have h₂ := b₂.toNat_lt
  have h₃ := b₃.toNat_lt
  have hbyte : ∀ (n : Nat) (b : UInt8), n % 2 ^ 8 = b.toNat → UInt8.ofNat n = b := by
    intro n b h
    apply UInt8.toNat_inj.mp
    rw [UInt8.toNat_ofNat', h]
  simp only [le32]
  rw [hbyte _ b₀ (by simp only [ofLe32]; omega), hbyte _ b₁ (by simp only [ofLe32]; omega),
    hbyte _ b₂ (by simp only [ofLe32]; omega), hbyte _ b₃ (by simp only [ofLe32]; omega)]

/-- A length and what follows it can be told apart from the bytes. -/
theorem le32_append_inj {n m : Nat} {x y : List UInt8} (hn : n < 2 ^ 32) (hm : m < 2 ^ 32)
    (h : le32 n ++ x = le32 m ++ y) : n = m ∧ x = y := by
  simp only [le32, List.cons_append, List.nil_append, List.cons.injEq] at h
  obtain ⟨h₀, h₁, h₂, h₃, hxy⟩ := h
  refine ⟨?_, hxy⟩
  rw [← ofLe32_le32 hn, ← ofLe32_le32 hm, h₀, h₁, h₂, h₃]

/-! ### Codecs -/

/-- An encoder and a prefix decoder that undo each other. -/
structure Codec (α : Type) where
  encode : α → Except Error (List UInt8)
  decode : List UInt8 → Except Error (α × List UInt8)
  decode_encode : ∀ {a bs}, encode a = .ok bs → ∀ rest, decode (bs ++ rest) = .ok (a, rest)
  encode_decode : ∀ {bs a rest}, decode bs = .ok (a, rest) →
    ∃ pre, encode a = .ok pre ∧ bs = pre ++ rest

namespace Codec

variable {α β : Type}

/-- `try_from_slice`: the decoder on the whole input. -/
def tryFromSlice (c : Codec α) (bytes : List UInt8) : Except Error α :=
  match c.decode bytes with
  | .error e => .error e
  | .ok (a, []) => .ok a
  | .ok (_, _ :: _) => .error .notAllBytesRead

/-- **What was encoded decodes to itself.** -/
theorem tryFromSlice_encode (c : Codec α) {a : α} {bs : List UInt8} (h : c.encode a = .ok bs) :
    c.tryFromSlice bs = .ok a := by
  have hdec := c.decode_encode h []
  rw [List.append_nil] at hdec
  rw [tryFromSlice, hdec]

/-- **Only an encoding decodes.** -/
theorem encode_tryFromSlice (c : Codec α) {a : α} {bs : List UInt8}
    (h : c.tryFromSlice bs = .ok a) : c.encode a = .ok bs := by
  unfold tryFromSlice at h
  split at h
  · simp at h
  · rename_i a' hdec
    rw [Except.ok.injEq] at h
    subst h
    obtain ⟨pre, henc, hbs⟩ := c.encode_decode hdec
    rw [hbs, List.append_nil]
    exact henc
  · simp at h

/-! ### The shapes -/

/-- The decoder of a byte vector: a four-byte length and that many bytes. -/
def decodeBlob : List UInt8 → Except Error (List UInt8 × List UInt8)
  | b₀ :: b₁ :: b₂ :: b₃ :: rest =>
      let len := ofLe32 b₀ b₁ b₂ b₃
      if len ≤ rest.length then .ok (rest.take len, rest.drop len) else .error .unexpectedLength
  | _ => .error .unexpectedLength

/-- `Vec<u8>`. -/
def blob : Codec (List UInt8) where
  encode b := if b.length < 2 ^ 32 then .ok (le32 b.length ++ b) else .error .lengthOverflow
  decode := decodeBlob
  decode_encode := by
    intro b bs h rest
    split at h
    · rename_i hlen
      rw [Except.ok.injEq] at h
      subst h
      simp only [le32, List.cons_append, List.nil_append, decodeBlob, ofLe32_le32 hlen]
      rw [if_pos (by simp), List.take_left, List.drop_left]
    · simp at h
  encode_decode := by
    intro bs b rest h
    unfold decodeBlob at h
    split at h
    · rename_i b₀ b₁ b₂ b₃ tail
      simp only at h
      split at h
      · rename_i hlen
        simp only [Except.ok.injEq, Prod.mk.injEq] at h
        obtain ⟨rfl, rfl⟩ := h
        have htake : (tail.take (ofLe32 b₀ b₁ b₂ b₃)).length = ofLe32 b₀ b₁ b₂ b₃ := by
          rw [List.length_take]
          omega
        refine ⟨[b₀, b₁, b₂, b₃] ++ tail.take (ofLe32 b₀ b₁ b₂ b₃), ?_, ?_⟩
        · rw [htake, if_pos (ofLe32_lt b₀ b₁ b₂ b₃), le32_ofLe32]
        · simp
      · simp at h
    · simp at h

/-- `bool`. -/
def bool : Codec Bool where
  encode b := .ok [if b then 1 else 0]
  decode
    | 0 :: rest => .ok (false, rest)
    | 1 :: rest => .ok (true, rest)
    | byte :: _ => .error (.invalidBool byte)
    | [] => .error .unexpectedLength
  decode_encode := by
    intro b bs h rest
    rw [Except.ok.injEq] at h
    subst h
    cases b <;> rfl
  encode_decode := by
    intro bs b rest h
    split at h
    · simp only [Except.ok.injEq, Prod.mk.injEq] at h
      obtain ⟨rfl, rfl⟩ := h
      exact ⟨_, rfl, rfl⟩
    · simp only [Except.ok.injEq, Prod.mk.injEq] at h
      obtain ⟨rfl, rfl⟩ := h
      exact ⟨_, rfl, rfl⟩
    · simp at h
    · simp at h

/-- The UTF-8 bytes of a string. -/
def utf8 (s : String) : List UInt8 := s.toByteArray.data.toList

theorem fromUTF8?_utf8 (s : String) : String.fromUTF8? ⟨(utf8 s).toArray⟩ = some s := by
  unfold utf8 String.fromUTF8?
  rw [Array.toArray_toList, dif_pos s.isValidUTF8]
  rfl

theorem utf8_of_fromUTF8? {b : List UInt8} {s : String}
    (h : String.fromUTF8? ⟨b.toArray⟩ = some s) : utf8 s = b := by
  unfold String.fromUTF8? at h
  split at h
  · rw [Option.some.injEq] at h
    subst h
    rfl
  · simp at h

/-- `String`. -/
def string : Codec String where
  encode s := blob.encode (utf8 s)
  decode bs :=
    match decodeBlob bs with
    | .error e => .error e
    | .ok (b, rest) =>
        match String.fromUTF8? ⟨b.toArray⟩ with
        | none => .error .invalidUtf8
        | some s => .ok (s, rest)
  decode_encode := by
    intro s bs h rest
    have hdec : decodeBlob (bs ++ rest) = .ok (utf8 s, rest) := blob.decode_encode h rest
    rw [hdec]
    simp only [fromUTF8?_utf8]
  encode_decode := by
    intro bs s rest h
    split at h
    · simp at h
    · rename_i b rest' hdec
      split at h
      · simp at h
      · rename_i s' hs
        simp only [Except.ok.injEq, Prod.mk.injEq] at h
        obtain ⟨rfl, rfl⟩ := h
        obtain ⟨pre, henc, hbs⟩ := blob.encode_decode (show blob.decode bs = .ok (b, rest') from hdec)
        exact ⟨pre, by rw [utf8_of_fromUTF8? hs, henc], hbs⟩

/-- Two fields in order. -/
def pair (c : Codec α) (d : Codec β) : Codec (α × β) where
  encode ab :=
    match c.encode ab.1 with
    | .error e => .error e
    | .ok x =>
        match d.encode ab.2 with
        | .error e => .error e
        | .ok y => .ok (x ++ y)
  decode bs :=
    match c.decode bs with
    | .error e => .error e
    | .ok (a, rest) =>
        match d.decode rest with
        | .error e => .error e
        | .ok (b, rest) => .ok ((a, b), rest)
  decode_encode := by
    intro ⟨a, b⟩ bs h rest
    simp only at h
    split at h
    · simp at h
    · rename_i x hx
      split at h
      · simp at h
      · rename_i y hy
        rw [Except.ok.injEq] at h
        subst h
        rw [List.append_assoc, c.decode_encode hx]
        simp only [d.decode_encode hy]
  encode_decode := by
    intro bs ⟨a, b⟩ rest h
    split at h
    · simp at h
    · rename_i a' rest₁ ha
      split at h
      · simp at h
      · rename_i b' rest₂ hb
        simp only [Except.ok.injEq, Prod.mk.injEq] at h
        obtain ⟨⟨rfl, rfl⟩, rfl⟩ := h
        obtain ⟨x, hx, hbs⟩ := c.encode_decode ha
        obtain ⟨y, hy, hrest⟩ := d.encode_decode hb
        refine ⟨x ++ y, ?_, ?_⟩
        · simp only [hx, hy]
        · rw [hbs, hrest, List.append_assoc]

/-- A record laid out as `c` lays out its fields. -/
def struct (c : Codec α) (mk : α → β) (fields : β → α) (mk_fields : ∀ b, mk (fields b) = b)
    (fields_mk : ∀ a, fields (mk a) = a) : Codec β where
  encode b := c.encode (fields b)
  decode bs :=
    match c.decode bs with
    | .error e => .error e
    | .ok (a, rest) => .ok (mk a, rest)
  decode_encode := by
    intro b bs h rest
    rw [c.decode_encode h rest]
    simp only [mk_fields]
  encode_decode := by
    intro bs b rest h
    split at h
    · simp at h
    · rename_i a rest' ha
      simp only [Except.ok.injEq, Prod.mk.injEq] at h
      obtain ⟨rfl, rfl⟩ := h
      obtain ⟨x, hx, hbs⟩ := c.encode_decode ha
      exact ⟨x, by rw [fields_mk, hx], hbs⟩

/-! ### What an encoding looks like -/

/-- A byte vector is its length and its bytes. -/
theorem blob_ok {b bs : List UInt8} (h : blob.encode b = .ok bs) :
    b.length < 2 ^ 32 ∧ bs = le32 b.length ++ b := by
  simp only [blob] at h
  split at h
  · rename_i hlen
    exact ⟨hlen, (Except.ok.inj h).symm⟩
  · simp at h

theorem blob_encode {b : List UInt8} (h : b.length < 2 ^ 32) :
    blob.encode b = .ok (le32 b.length ++ b) :=
  if_pos h

theorem pair_encode {c : Codec α} {d : Codec β} {a : α} {b : β} {x y : List UInt8}
    (hc : c.encode a = .ok x) (hd : d.encode b = .ok y) :
    (c.pair d).encode (a, b) = .ok (x ++ y) := by
  simp only [pair, hc, hd]

theorem pair_ok {c : Codec α} {d : Codec β} {ab : α × β} {bs : List UInt8}
    (h : (c.pair d).encode ab = .ok bs) :
    ∃ x y, c.encode ab.1 = .ok x ∧ d.encode ab.2 = .ok y ∧ bs = x ++ y := by
  simp only [pair] at h
  split at h
  · simp at h
  · rename_i x hx
    split at h
    · simp at h
    · rename_i y hy
      exact ⟨x, y, hx, hy, (Except.ok.inj h).symm⟩

end Codec

end Borsh
