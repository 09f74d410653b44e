/-
What the memory reader answers.

The reader is run on the grammar of `Runtime/Reading.lean`, number by number, and
then the other way round: whatever it answers on was such a module, and in one way
only.  So the grammar is the reader, and what it answers can be read off it
(`declaredMinMemoryBytes_iff`).

Two facts about the number reader decide everything above it.  It stops at the
fifth byte, so a number spelled with more is no number to it.  And it keeps 32
bits, so what a fifth byte holds above them is lost: a number is cut, and not
refused.  On modules whose numbers all fit, the answer is the largest minimum
(`declaredMinMemoryBytes_plain`).  On a byte string it is what the bytes say
exactly when no number in it had something to lose (`answers_truthful_iff`).
-/
import AveContract.Runtime.Reading

namespace Ave

open Leb128

/-! ### Walking a byte string by its tails -/

/-- Past a prefix of the tail is the rest of it. -/
theorem drop_past {α : Type} {l a rest : List α} {pos : Nat} (h : l.drop pos = a ++ rest) :
    l.drop (pos + a.length) = rest := by
  rw [← List.drop_drop, h, List.drop_left]

theorem getElem?_of_drop {α : Type} {l rest : List α} {x : α} {pos : Nat}
    (h : l.drop pos = x :: rest) : l[pos]? = some x := by
  have hget : (l.drop pos)[0]? = some x := by rw [h, List.getElem?_cons_zero]
  rwa [List.getElem?_drop, Nat.add_zero] at hget

/-- The range of a prefix of the tail is the prefix. -/
theorem getRange_of_drop {l a rest : Bytes} {pos : Nat} (hpos : pos ≤ l.length)
    (h : l.drop pos = a ++ rest) : getRange l pos (pos + a.length) = some a := by
  have hlen : l.length - pos = a.length + rest.length := by
    have hl := congrArg List.length h
    rwa [List.length_drop, List.length_append] at hl
  unfold getRange
  rw [if_pos ⟨by omega, by omega⟩, h, Nat.add_sub_cancel_left, List.take_left]

theorem drop_of_getElem? {α : Type} {l : List α} {x : α} {pos : Nat} (h : l[pos]? = some x) :
    l.drop pos = x :: l.drop (pos + 1) := by
  obtain ⟨hpos, hget⟩ := List.getElem?_eq_some_iff.mp h
  rw [List.drop_eq_getElem_cons hpos, hget]

/-- A range is what stands between its ends. -/
theorem getRange_some {l a : Bytes} {start stop : Nat} (h : getRange l start stop = some a) :
    a.length = stop - start ∧ l.drop start = a ++ l.drop stop := by
  unfold getRange at h
  split at h
  next hin =>
    obtain rfl := Option.some.inj h
    have hdrop : (l.drop start).drop (stop - start) = l.drop stop := by
      rw [List.drop_drop, Nat.add_sub_cancel' hin.1]
    exact ⟨by rw [List.length_take, List.length_drop]; omega,
      by rw [← hdrop, List.take_append_drop]⟩
  next => simp at h

/-! ### One number -/

/-- A group shifted above the bits already read is added to them, as far as 32 bits go. -/
theorem or_shifted {r s : Nat} (hr : r < 2 ^ s) (g : Nat) :
    (BitVec.ofNat 32 r ||| (BitVec.ofNat 32 g <<< s)) = BitVec.ofNat 32 (r + 2 ^ s * g) := by
  apply BitVec.eq_of_toNat_eq
  have hor : r ||| g <<< s = r + 2 ^ s * g := by
    rw [Nat.or_comm, ← Nat.shiftLeft_add_eq_or_of_lt hr, Nat.shiftLeft_eq, Nat.mul_comm,
      Nat.add_comm]
  have hshift : (g % 2 ^ 32) <<< s % 2 ^ 32 = g <<< s % 2 ^ 32 := by
    rw [Nat.shiftLeft_eq, Nat.shiftLeft_eq, Nat.mod_mul_mod]
  rw [BitVec.toNat_or, BitVec.toNat_shiftLeft, BitVec.toNat_ofNat, BitVec.toNat_ofNat,
    BitVec.toNat_ofNat, hshift, ← Nat.or_mod_two_pow, hor]

/-- **The reader on an encoded number, from any of its shifts on.** -/
theorem readUlebFrom_encode {bytes rest : Bytes} :
    ∀ (gs : List (Fin 128)) (n s r pos : Nat), gs ≠ [] → r < 2 ^ s →
      bytes.drop pos = encode gs ++ rest →
      readUlebFrom bytes (List.range' s n 7) (BitVec.ofNat 32 r) pos =
        if gs.length ≤ n then some (BitVec.ofNat 32 (r + 2 ^ s * value gs), pos + gs.length)
        else none := by
  intro gs
  induction gs with
  | nil => intro n s r pos hne; exact absurd rfl hne
  | cons g gs ih =>
      intro n s r pos _ hr hdrop
      cases n with
      | zero =>
          rw [List.range'_zero, readUlebFrom, if_neg (by simp)]
      | succ n =>
          rw [List.range'_succ, readUlebFrom]
          cases gs with
          | nil =>
              obtain ⟨hgroup, hlast⟩ := last_byte g
              rw [getElem?_of_drop (show bytes.drop pos = UInt8.ofNat g.val :: rest from hdrop)]
              simp only
              rw [if_pos hlast, hgroup, or_shifted hr, if_pos (by simp), value_cons, value_nil]
              rfl
          | cons g' gs' =>
              obtain ⟨hgroup, hmore⟩ := more_byte g
              have hbyte : bytes.drop pos
                  = UInt8.ofNat (g.val + 128) :: (encode (g' :: gs') ++ rest) := hdrop
              have htail : bytes.drop (pos + 1) = encode (g' :: gs') ++ rest :=
                drop_past (a := [UInt8.ofNat (g.val + 128)]) hbyte
              have hroom : r + 2 ^ s * g.val < 2 ^ (s + 7) := by
                have hg : 2 ^ s * g.val ≤ 2 ^ s * 127 := Nat.mul_le_mul_left _ (by omega)
                rw [Nat.pow_add]
                omega
              rw [getElem?_of_drop hbyte]
              simp only
              rw [if_neg hmore, hgroup, or_shifted hr, ih n (s + 7) _ (pos + 1) (by simp) hroom htail]
              have hvalue : r + 2 ^ s * g.val + 2 ^ (s + 7) * value (g' :: gs')
                  = r + 2 ^ s * value (g :: g' :: gs') := by
                rw [value_cons g, Nat.pow_add, Nat.mul_assoc, Nat.mul_add, Nat.add_assoc]
              rw [hvalue]
              by_cases hlen : (g' :: gs').length ≤ n
              · rw [if_pos hlen, if_pos (by simpa using hlen)]
                congr 2
                simp only [List.length_cons]
                omega
              · rw [if_neg hlen, if_neg (by simpa using hlen)]

/-- **A number of at most five bytes is read, cut to 32 bits; a longer one is not.** -/
theorem readUleb_spelling {bytes rest : Bytes} {pos : Nat} {n : Spelling}
    (h : bytes.drop pos = n.bytes ++ rest) :
    readUleb bytes pos =
      if Short n then some (BitVec.ofNat 32 n.value, pos + n.bytes.length) else none := by
  have hread := readUlebFrom_encode n.groups 5 0 0 pos n.nonempty (by decide) h
  rw [Spelling.length_bytes]
  rw [Nat.pow_zero, Nat.one_mul, Nat.zero_add] at hread
  exact hread

/-- What was read is a terminated group. -/
theorem readUlebFrom_some {bytes : Bytes} :
    ∀ (shifts : List Nat) (result : Word) (pos : Nat) (v : Word) (next : Nat),
      readUlebFrom bytes shifts result pos = some (v, next) →
      ∃ n : Spelling, bytes.drop pos = n.bytes ++ bytes.drop next := by
  intro shifts
  induction shifts with
  | nil => intro result pos v next h; simp [readUlebFrom] at h
  | cons shift shifts ih =>
      intro result pos v next h
      rw [readUlebFrom] at h
      cases hbyte : bytes[pos]? with
      | none => rw [hbyte] at h; simp at h
      | some byte =>
          rw [hbyte] at h
          have hdrop := drop_of_getElem? hbyte
          simp only at h
          rcases byte_cases byte with ⟨hlast, g, hg⟩ | ⟨hmore, g, hg⟩
          · rw [if_pos hlast] at h
            simp only [Option.some.injEq, Prod.mk.injEq] at h
            obtain ⟨-, rfl⟩ := h
            exact ⟨⟨[g], by simp⟩, by rw [hdrop, hg]; rfl⟩
          · rw [if_neg hmore] at h
            obtain ⟨n, hn⟩ := ih _ _ _ _ h
            obtain ⟨g', gs, hgs⟩ := List.exists_cons_of_ne_nil n.nonempty
            refine ⟨⟨g :: n.groups, by simp⟩, ?_⟩
            rw [hdrop, hn, hg, Spelling.bytes, Spelling.bytes, hgs]
            rfl

/-- **What the reader read is a short spelling, cut to 32 bits.** -/
theorem readUleb_some {bytes : Bytes} {pos next : Nat} {v : Word}
    (h : readUleb bytes pos = some (v, next)) :
    ∃ n : Spelling, Short n ∧ bytes.drop pos = n.bytes ++ bytes.drop next ∧
      v = BitVec.ofNat 32 n.value ∧ next = pos + n.bytes.length := by
  obtain ⟨n, hn⟩ := readUlebFrom_some _ _ _ _ _ h
  have hread := readUleb_spelling hn
  rw [h] at hread
  by_cases hshort : Short n
  · rw [if_pos hshort, Option.some.injEq, Prod.mk.injEq] at hread
    exact ⟨n, hshort, hn, hread.1, hread.2⟩
  · rw [if_neg hshort] at hread
    simp at hread

/-! ### The entries of a memory section -/

/-- The largest minimum the reader sees, over `start`. -/
def seenFrom (start : Nat) (entries : List Entry) : Nat :=
  entries.foldl (fun acc e => max acc (e.min.value % 2 ^ 32)) start

/-- The flag the reader looks at is bit 0. -/
theorem ofNat_and_one_ne_zero (v : Nat) :
    BitVec.ofNat 32 v &&& 1 ≠ 0 ↔ v.testBit 0 = true := by
  have hnat : (BitVec.ofNat 32 v &&& 1).toNat = v % 2 := by
    rw [BitVec.toNat_and, BitVec.toNat_ofNat]
    show v % 2 ^ 32 &&& 1 = v % 2
    rw [Nat.and_one_is_mod]
    omega
  rw [Nat.testBit_zero, decide_eq_true_iff]
  constructor
  · intro h
    by_contra hc
    refine h (BitVec.eq_of_toNat_eq ?_)
    rw [hnat]
    show v % 2 = 0
    omega
  · intro h hz
    rw [hz] at hnat
    have hzero : (0 : Nat) = v % 2 := hnat
    omega

/-- **The reader on one entry**: it goes on after it, or it has met a number it cannot read. -/
theorem readMemoryEntries_entry {body rest : Bytes} {inner : Nat} {e : Entry}
    (hdrop : body.drop inner = e.bytes ++ rest) (count maxPages : Nat) :
    readMemoryEntries body (count + 1) inner maxPages =
      if ∀ n ∈ e.fields, Short n then
        readMemoryEntries body count (inner + e.bytes.length) (max maxPages (e.min.value % 2 ^ 32))
      else none := by
  have hflags : body.drop inner = e.flags.bytes ++ (e.min.bytes ++
      (e.max.toList.flatMap Spelling.bytes ++ rest)) := by
    rw [hdrop, Entry.bytes, Entry.fields]
    simp only [List.flatMap_cons, List.append_assoc]
  have hmin := drop_past hflags
  have hmax := drop_past hmin
  have hlen : e.bytes.length = e.flags.bytes.length + (e.min.bytes.length +
      (e.max.toList.flatMap Spelling.bytes).length) := by
    rw [Entry.bytes, Entry.fields, List.flatMap_cons, List.flatMap_cons, List.length_append,
      List.length_append]
  have hseen : (BitVec.ofNat 32 e.min.value).toNat = e.min.value % 2 ^ 32 :=
    BitVec.toNat_ofNat ..
  rw [readMemoryEntries, readUleb_spelling hflags, hlen, Entry.fields]
  simp only [List.forall_mem_cons]
  by_cases hf : Short e.flags
  · rw [if_pos hf]
    simp only [Option.bind_eq_bind, Option.bind_some]
    rw [readUleb_spelling hmin]
    by_cases hm : Short e.min
    · rw [if_pos hm]
      simp only [Option.bind_some, hf, hm, true_and]
      cases hopt : e.max with
      | none =>
          have hflag : ¬BitVec.ofNat 32 e.flags.value &&& 1 ≠ 0 := by
            rw [ofNat_and_one_ne_zero, e.flags_max, hopt]
            simp
          rw [if_neg hflag, hseen, if_pos (by simp), Nat.add_assoc]
          rfl
      | some m =>
          have hflag : BitVec.ofNat 32 e.flags.value &&& 1 ≠ 0 := by
            rw [ofNat_and_one_ne_zero, e.flags_max, hopt]
            rfl
          rw [hopt, Option.toList_some, List.flatMap_cons, List.flatMap_nil,
            List.append_nil] at hmax
          rw [if_pos hflag, readUleb_spelling hmax, Option.toList_some, List.flatMap_cons,
            List.flatMap_nil, List.append_nil]
          by_cases hx : Short m
          · rw [if_pos hx, if_pos (List.forall_mem_singleton.mpr hx), Option.bind_some, hseen,
              Nat.add_assoc, Nat.add_assoc]
          · rw [if_neg hx, if_neg fun h => hx (List.forall_mem_singleton.mp h), Option.bind_none]
    · rw [if_neg hm, if_neg fun h => hm h.2.1]
      rfl
  · rw [if_neg hf, if_neg fun h => hf h.1]
    rfl

/-- **The reader on the entries of a memory section.** -/
theorem readMemoryEntries_entries {body rest : Bytes} :
    ∀ (entries : List Entry) (inner maxPages : Nat),
      body.drop inner = entries.flatMap Entry.bytes ++ rest →
      readMemoryEntries body entries.length inner maxPages =
        if ∀ n ∈ entries.flatMap Entry.fields, Short n then some (seenFrom maxPages entries)
        else none := by
  intro entries
  induction entries with
  | nil =>
      intro inner maxPages _
      rw [List.length_nil, readMemoryEntries, if_pos (by simp)]
      rfl
  | cons e entries ih =>
      intro inner maxPages hdrop
      rw [List.flatMap_cons, List.append_assoc] at hdrop
      rw [List.length_cons, readMemoryEntries_entry hdrop, ih _ _ (drop_past hdrop)]
      simp only [List.flatMap_cons, List.forall_mem_append]
      by_cases he : ∀ n ∈ e.fields, Short n
      · rw [if_pos he]
        simp only [and_iff_right he]
        rfl
      · rw [if_neg he, if_neg fun h => he h.1]

/-- **What the reader went over is as many entries as it counted.** -/
theorem readMemoryEntries_some {body : Bytes} :
    ∀ (count inner maxPages p : Nat), readMemoryEntries body count inner maxPages = some p →
      ∃ (entries : List Entry) (rest : Bytes), entries.length = count ∧
        body.drop inner = entries.flatMap Entry.bytes ++ rest := by
  intro count
  induction count with
  | zero => intro inner maxPages p _; exact ⟨[], _, rfl, rfl⟩
  | succ count ih =>
      intro inner maxPages p h
      rw [readMemoryEntries] at h
      simp only [Option.bind_eq_bind] at h
      obtain ⟨⟨flags, inner₁⟩, hflags, h⟩ := Option.bind_eq_some_iff.mp h
      obtain ⟨⟨min, inner₂⟩, hmin, h⟩ := Option.bind_eq_some_iff.mp h
      obtain ⟨nf, -, hdropf, rfl, -⟩ := readUleb_some hflags
      obtain ⟨nm, -, hdropm, rfl, -⟩ := readUleb_some hmin
      simp only at h
      by_cases hflag : BitVec.ofNat 32 nf.value &&& 1 ≠ 0
      · rw [if_pos hflag] at h
        obtain ⟨⟨max, inner₃⟩, hmax, h⟩ := Option.bind_eq_some_iff.mp h
        obtain ⟨nx, -, hdropx, -, -⟩ := readUleb_some hmax
        obtain ⟨entries, rest, hlen, hrest⟩ := ih _ _ _ h
        refine ⟨⟨nf, nm, some nx, (ofNat_and_one_ne_zero _).mp hflag⟩ :: entries, rest, by simp [hlen],
          ?_⟩
        rw [hdropf, hdropm, hdropx, hrest]
        simp [Entry.bytes, Entry.fields]
      · rw [if_neg hflag] at h
        obtain ⟨entries, rest, hlen, hrest⟩ := ih _ _ _ h
        have hbit : nf.value.testBit 0 = (none : Option Spelling).isSome := by
          rw [Option.isSome_none, Bool.eq_false_iff]
          exact fun hset => hflag ((ofNat_and_one_ne_zero _).mpr hset)
        refine ⟨⟨nf, nm, none, hbit⟩ :: entries, rest, by simp [hlen], ?_⟩
        rw [hdropf, hdropm, hrest]
        simp [Entry.bytes, Entry.fields]


/-- **The reader on the body of a section.** -/
theorem readSection_part (p : Part) (maxPages : Nat) (hshort : Short p.size) :
    readSection p.id p.body maxPages =
      if ∀ n ∈ p.fields, Short n then some (seenFrom maxPages p.entries) else none := by
  cases p with
  | memory size body size_eq =>
      have hdrop : body.bytes.drop 0
          = body.count.bytes ++ (body.entries.flatMap Entry.bytes ++ body.rest) := rfl
      have hentries := readMemoryEntries_entries body.entries _ maxPages (drop_past hdrop)
      have hcount : (BitVec.ofNat 32 body.count.value).toNat = body.entries.length := by
        rw [BitVec.toNat_ofNat, body.count_eq]
      show readSection 5 body.bytes maxPages = _
      rw [readSection, if_pos rfl, readUleb_spelling hdrop]
      simp only [Part.fields, EntryVector.fields, List.forall_mem_cons]
      by_cases hc : Short body.count
      · rw [if_pos hc]
        simp only [Option.bind_eq_bind, Option.bind_some]
        have hsize : Short size := hshort
        simp only [hcount, hentries, hsize, hc, true_and]
        rfl
      · rw [if_neg hc]
        simp only [hc, false_and, and_false, if_false]
        rfl
  | other id size body size_eq not_memory =>
      have hid : ¬id = 5 := not_memory
      have hfields : ∀ n ∈ (Part.other id size body size_eq not_memory).fields, Short n :=
        List.forall_mem_singleton.mpr hshort
      rw [if_pos hfields]
      show readSection id body maxPages = _
      rw [readSection, if_neg hid]
      rfl

/-- **Whatever the reader makes of a section, it is a part.** -/
theorem readSection_some {id : UInt8} {size : Spelling} {body : Bytes} {maxPages p : Nat}
    (hsize : size.value % 2 ^ 32 = body.length) (h : readSection id body maxPages = some p) :
    ∃ part : Part, part.id = id ∧ part.size = size ∧ part.body = body := by
  unfold readSection at h
  by_cases hid : id = 5
  · rw [if_pos hid] at h
    simp only [Option.bind_eq_bind] at h
    obtain ⟨⟨count, inner⟩, hcount, h⟩ := Option.bind_eq_some_iff.mp h
    obtain ⟨n, -, hdrop, rfl, -⟩ := readUleb_some hcount
    obtain ⟨entries, rest, hlen, hrest⟩ := readMemoryEntries_some _ _ _ _ h
    rw [BitVec.toNat_ofNat] at hlen
    have hbody : body = n.bytes ++ (entries.flatMap Entry.bytes ++ rest) := by
      rw [← hrest, ← hdrop, List.drop_zero]
    have hframe : size.value % 2 ^ 32 = (EntryVector.mk n entries rest hlen.symm).bytes.length := by
      rw [hsize, hbody]
      rfl
    exact ⟨.memory size ⟨n, entries, rest, hlen.symm⟩ hframe, hid.symm, rfl, hbody.symm⟩
  · exact ⟨.other id size body hsize hid, rfl, rfl, rfl⟩

/-! ### The whole module -/

@[simp] theorem fieldsOf_cons (p : Part) (parts : List Part) :
    fieldsOf (p :: parts) = p.fields ++ fieldsOf parts := List.flatMap_cons

@[simp] theorem entriesOf_cons (p : Part) (parts : List Part) :
    entriesOf (p :: parts) = p.entries ++ entriesOf parts := List.flatMap_cons

/-- The length of a part is the first of its numbers. -/
theorem Part.size_mem_fields (p : Part) : p.size ∈ p.fields := by
  cases p with
  | memory size body size_eq => exact List.mem_cons_self
  | other id size body size_eq not_memory => exact List.mem_cons_self

/-- **The reader on one part**: it goes on after it, or it has met a number it cannot read. -/
theorem readSections_part {wasm rest : Bytes} (haddr : wasm.length ≤ usizeMax) {pos : Nat}
    {p : Part} (hpos : pos ≤ wasm.length) (hdrop : wasm.drop pos = p.bytes ++ rest)
    (fuel maxPages : Nat) :
    readSections wasm (fuel + 1) pos maxPages =
      if ∀ n ∈ p.fields, Short n then
        readSections wasm fuel (pos + p.bytes.length) (seenFrom maxPages p.entries)
      else none := by
  rw [Part.bytes, List.cons_append, List.append_assoc] at hdrop
  have hsize : wasm.drop (pos + 1) = p.size.bytes ++ (p.body ++ rest) :=
    drop_past (a := [p.id]) hdrop
  have hbody := drop_past hsize
  -- The part fits the string, so no index the reader computes leaves it.
  have hlen : p.bytes.length = 1 + (p.size.bytes.length + p.body.length) := by
    rw [Part.bytes, List.length_cons, List.length_append, Nat.add_comm]
  have hin : wasm.length = pos + p.bytes.length + rest.length := by
    have hl := congrArg List.length hdrop
    simp only [List.length_drop, List.length_cons, List.length_append] at hl
    omega
  have hrange : getRange wasm (pos + 1 + p.size.bytes.length)
      (pos + 1 + p.size.bytes.length + p.body.length) = some p.body :=
    getRange_of_drop (by omega) hbody
  rw [readSections, if_pos (by omega), getElem?_of_drop hdrop]
  simp only [Option.bind_eq_bind, Option.bind_some]
  rw [readUleb_spelling hsize]
  by_cases hshort : Short p.size
  · rw [if_pos hshort]
    simp only [Option.bind_some]
    rw [BitVec.toNat_ofNat, p.size_eq, checkedAdd_of_le (by omega)]
    simp only [Option.bind_some]
    rw [hrange]
    simp only [Option.bind_some]
    rw [readSection_part p maxPages hshort, hlen]
    by_cases hp : ∀ n ∈ p.fields, Short n
    · rw [if_pos hp, if_pos hp, Option.bind_some, Nat.add_assoc, Nat.add_assoc]
    · rw [if_neg hp, if_neg hp, Option.bind_none]
  · rw [if_neg hshort, if_neg fun hall => hshort (hall _ p.size_mem_fields), Option.bind_none]

/-- **The reader on a sequence of parts.** -/
theorem readSections_parts {wasm : Bytes} (haddr : wasm.length ≤ usizeMax) :
    ∀ (parts : List Part) (fuel pos maxPages : Nat), parts.length < fuel →
      pos ≤ wasm.length → wasm.drop pos = parts.flatMap Part.bytes →
      readSections wasm fuel pos maxPages =
        if ∀ n ∈ fieldsOf parts, Short n then some (seenFrom maxPages (entriesOf parts))
        else none := by
  intro parts
  induction parts with
  | nil =>
      intro fuel pos maxPages hfuel hpos hdrop
      have hend : wasm.length ≤ pos := List.drop_eq_nil_iff.mp hdrop
      obtain ⟨fuel, rfl⟩ := Nat.exists_eq_succ_of_ne_zero (Nat.ne_of_gt hfuel)
      rw [readSections, if_neg (by omega), if_pos (by simp [fieldsOf])]
      rfl
  | cons p parts ih =>
      intro fuel pos maxPages hfuel hpos hdrop
      obtain ⟨fuel, rfl⟩ := Nat.exists_eq_succ_of_ne_zero (Nat.ne_of_gt (Nat.zero_lt_of_lt hfuel))
      rw [List.flatMap_cons] at hdrop
      have hnext : pos + p.bytes.length ≤ wasm.length := by
        have hl := congrArg List.length hdrop
        rw [List.length_drop, List.length_append] at hl
        omega
      simp only [fieldsOf_cons, entriesOf_cons, List.forall_mem_append]
      rw [readSections_part haddr hpos hdrop,
        ih fuel _ _ (by simpa using hfuel) hnext (drop_past hdrop)]
      by_cases hp : ∀ n ∈ p.fields, Short n
      · rw [if_pos hp]
        simp only [and_iff_right hp, seenFrom, List.foldl_append]
      · rw [if_neg hp, if_neg fun hall => hp hall.1]

/-- **What the reader went over to the end is parts to the end.** -/
theorem readSections_some {wasm : Bytes} :
    ∀ (fuel pos maxPages p : Nat), readSections wasm fuel pos maxPages = some p →
      ∃ parts : List Part, wasm.drop pos = parts.flatMap Part.bytes := by
  intro fuel
  induction fuel with
  | zero => intro pos maxPages p h; simp [readSections] at h
  | succ fuel ih =>
      intro pos maxPages p h
      rw [readSections] at h
      by_cases hpos : pos < wasm.length
      · rw [if_pos hpos] at h
        simp only [Option.bind_eq_bind] at h
        obtain ⟨id, hid, h⟩ := Option.bind_eq_some_iff.mp h
        obtain ⟨⟨len, start⟩, hlen, h⟩ := Option.bind_eq_some_iff.mp h
        obtain ⟨stop, hstop, h⟩ := Option.bind_eq_some_iff.mp h
        obtain ⟨body, hbody, h⟩ := Option.bind_eq_some_iff.mp h
        obtain ⟨pages, hpages, hread⟩ := Option.bind_eq_some_iff.mp h
        obtain ⟨n, -, hdrop, rfl, -⟩ := readUleb_some hlen
        simp only [BitVec.toNat_ofNat] at hstop hread
        obtain ⟨hlength, hrange⟩ := getRange_some hbody
        rw [checkedAdd_some hstop, Nat.add_sub_cancel_left] at hlength
        obtain ⟨part, rfl, rfl, rfl⟩ := readSection_some hlength.symm hpages
        obtain ⟨parts, hparts⟩ := ih _ _ _ hread
        rw [← checkedAdd_some hstop] at hparts
        refine ⟨part :: parts, ?_⟩
        rw [drop_of_getElem? hid, hdrop, hrange, hparts, List.flatMap_cons, Part.bytes,
          List.cons_append, List.append_assoc]
      · exact ⟨[], List.drop_eq_nil_iff.mpr (Nat.le_of_not_lt hpos)⟩

/-- Every part takes at least its id. -/
theorem length_parts_le : ∀ parts : List Part,
    parts.length ≤ (parts.flatMap Part.bytes).length := by
  intro parts
  induction parts with
  | nil => exact Nat.le_refl 0
  | cons p parts ih =>
      rw [List.flatMap_cons, List.length_append, List.length_cons, Part.bytes, List.length_cons]
      omega

/-- Cut numbers stay below 2³², so their product with the page size never saturates. -/
theorem seenFrom_lt : ∀ (entries : List Entry) (start : Nat), start < 2 ^ 32 →
    seenFrom start entries < 2 ^ 32 := by
  intro entries
  induction entries with
  | nil => exact fun start hstart => hstart
  | cons e entries ih =>
      intro start hstart
      exact ih _ (Nat.max_lt.mpr ⟨hstart, Nat.mod_lt _ (by decide)⟩)

theorem saturatingMul_pages {n : Nat} (h : n < 2 ^ 32) :
    saturatingMul n wasmPageBytes = 65536 * n := by
  unfold saturatingMul wasmPageBytes u64Max
  omega

/-- **What the reader answers on a module of parts.** -/
theorem declaredMinMemoryBytes_parts {parts : List Part}
    (haddr : (encodeParts parts).length ≤ usizeMax) :
    declaredMinMemoryBytes (encodeParts parts) =
      if ∀ n ∈ fieldsOf parts, Short n then some (65536 * seenFrom 0 (entriesOf parts))
      else none := by
  have hlen : (encodeParts parts).length = 8 + (parts.flatMap Part.bytes).length :=
    List.length_append
  have hcount := length_parts_le parts
  have hdrop : (encodeParts parts).drop 0 = header ++ parts.flatMap Part.bytes := rfl
  have hcursor : getRange (encodeParts parts) 0 8 = some header :=
    getRange_of_drop (Nat.zero_le _) hdrop
  have hrest : (encodeParts parts).drop 8 = parts.flatMap Part.bytes := drop_past hdrop
  have hread := readSections_parts haddr parts (encodeParts parts).length 8 0 (by omega)
    (by omega) hrest
  have hhead : getRange header 0 4 = some magic := by decide
  have hversion : getRange header 4 header.length = some [1, 0, 0, 0] := by decide
  have hsmall := seenFrom_lt (entriesOf parts) 0 (by decide)
  unfold declaredMinMemoryBytes
  rw [hcursor]
  simp only [Option.bind_eq_bind, Option.bind_some, hhead, hversion]
  rw [if_neg (by simp), hread]
  split
  · rw [Option.bind_some, saturatingMul_pages hsmall]
  · rfl

/-- **Bytes that are answered are the header and parts.** -/
theorem declaredMinMemoryBytes_some {wasm : Bytes} {b : Nat}
    (h : declaredMinMemoryBytes wasm = some b) : ∃ parts, wasm = encodeParts parts := by
  unfold declaredMinMemoryBytes at h
  simp only [Option.bind_eq_bind] at h
  obtain ⟨cursor, hcursor, h⟩ := Option.bind_eq_some_iff.mp h
  obtain ⟨head, hhead, h⟩ := Option.bind_eq_some_iff.mp h
  obtain ⟨version, hversion, h⟩ := Option.bind_eq_some_iff.mp h
  by_cases hbad : head ≠ magic ∨ version ≠ [1, 0, 0, 0]
  · rw [if_pos hbad] at h
    simp at h
  · rw [if_neg hbad] at h
    obtain ⟨pages, hpages, -⟩ := Option.bind_eq_some_iff.mp h
    obtain ⟨parts, hparts⟩ := readSections_some _ _ _ _ hpages
    obtain ⟨rfl, rfl⟩ : head = magic ∧ version = [1, 0, 0, 0] := by
      simpa only [not_or, not_not] using hbad
    have hhalves := (getRange_some hhead).2
    rw [(getRange_some hversion).2, List.drop_length, List.append_nil, List.drop_zero] at hhalves
    have hwhole := (getRange_some hcursor).2
    rw [List.drop_zero, hparts] at hwhole
    exact ⟨parts, by rw [hwhole, hhalves]; rfl⟩

/-- **What the reader answers, on any bytes at all.** -/
theorem declaredMinMemoryBytes_iff (w : Image) (b : Nat) :
    declaredMinMemoryBytes w.bytes = some b ↔
      ∃ parts, w.bytes = encodeParts parts ∧ (∀ n ∈ fieldsOf parts, Short n) ∧
        b = 65536 * seenFrom 0 (entriesOf parts) := by
  constructor
  · intro h
    obtain ⟨parts, hparts⟩ := declaredMinMemoryBytes_some h
    have haddr := w.addressable
    rw [hparts] at haddr h
    rw [declaredMinMemoryBytes_parts haddr] at h
    by_cases hshort : ∀ n ∈ fieldsOf parts, Short n
    · rw [if_pos hshort, Option.some.injEq] at h
      exact ⟨parts, hparts, hshort, h.symm⟩
    · rw [if_neg hshort] at h
      simp at h
  · rintro ⟨parts, hparts, hshort, rfl⟩
    have haddr := w.addressable
    rw [hparts] at haddr ⊢
    rw [declaredMinMemoryBytes_parts haddr, if_pos hshort]

/-! ### The fuel of the reader is never used up -/

/-- A number takes at least one byte. -/
theorem readUleb_advances {bytes : Bytes} {pos next : Nat} {v : Word}
    (h : readUleb bytes pos = some (v, next)) : pos < next := by
  obtain ⟨n, -, -, -, rfl⟩ := readUleb_some h
  have hpos := List.length_pos_of_ne_nil n.nonempty
  rw [Spelling.length_bytes]
  omega

/-- **Any fuel above the bytes left reads the same.** -/
theorem readSections_fuel {wasm : Bytes} :
    ∀ (fuel fuel' pos maxPages : Nat), wasm.length - pos < fuel → wasm.length - pos < fuel' →
      readSections wasm fuel pos maxPages = readSections wasm fuel' pos maxPages := by
  intro fuel
  induction fuel with
  | zero => intro fuel' pos maxPages h; omega
  | succ fuel ih =>
      intro fuel' pos maxPages h h'
      obtain ⟨fuel', rfl⟩ := Nat.exists_eq_succ_of_ne_zero (show fuel' ≠ 0 by omega)
      rw [readSections, readSections]
      by_cases hpos : pos < wasm.length
      · rw [if_pos hpos, if_pos hpos]
        simp only [Option.bind_eq_bind]
        refine Option.bind_congr fun sectionId _ => ?_
        refine Option.bind_congr fun len hlen => ?_
        refine Option.bind_congr fun stop _ => ?_
        refine Option.bind_congr fun body _ => ?_
        refine Option.bind_congr fun pages _ => ?_
        have hadv := readUleb_advances hlen
        exact ih fuel' _ pages (by omega) (by omega)
      · rw [if_neg hpos, if_neg hpos]

/-! ### Modules of plain numbers -/

/-- Nothing is cut off a 32-bit minimum. -/
theorem seenFrom_eq_max : ∀ (entries : List Entry) (start : Nat),
    (∀ e ∈ entries, e.min.value < 2 ^ 32) →
    seenFrom start entries = max start (largestMinimum entries) := by
  intro entries
  induction entries with
  | nil => intro start _; exact (Nat.max_zero start).symm
  | cons e entries ih =>
      intro start h
      obtain ⟨he, hrest⟩ := List.forall_mem_cons.mp h
      have hstep : seenFrom start (e :: entries)
          = seenFrom (max start (e.min.value % 2 ^ 32)) entries := rfl
      rw [hstep, ih _ hrest, Nat.mod_eq_of_lt he, Nat.max_assoc]
      rfl

theorem seenFrom_eq_largestMinimum {entries : List Entry}
    (h : ∀ e ∈ entries, e.min.value < 2 ^ 32) : seenFrom 0 entries = largestMinimum entries := by
  rw [seenFrom_eq_max entries 0 h, Nat.zero_max]

/-- The minimum of an entry is one of the numbers of the module. -/
theorem min_mem_fieldsOf {parts : List Part} {e : Entry} (h : e ∈ entriesOf parts) :
    e.min ∈ fieldsOf parts := by
  obtain ⟨p, hp, he⟩ := List.mem_flatMap.mp h
  refine List.mem_flatMap.mpr ⟨p, hp, ?_⟩
  cases p with
  | memory size body size_eq =>
      have hmin : e.min ∈ e.fields := List.mem_cons_of_mem _ List.mem_cons_self
      exact List.mem_cons_of_mem _ (List.mem_cons_of_mem _ (List.mem_flatMap.mpr ⟨e, he, hmin⟩))
  | other id size body size_eq not_memory => exact absurd he List.not_mem_nil

/--
**The reader on a module of 32-bit numbers.**

It answers the largest minimum among the memory entries, times the page size.  Two
modules with the same minima get the same answer, whatever else is in them.
-/
theorem declaredMinMemoryBytes_plain (m : PlainModule) :
    declaredMinMemoryBytes m.bytes = some (65536 * largestMinimum m.entries) ∧
      ∀ m' : PlainModule,
        (m'.entries.map fun e => e.min.value) = (m.entries.map fun e => e.min.value) →
          declaredMinMemoryBytes m'.bytes = declaredMinMemoryBytes m.bytes := by
  have hplain : ∀ m : PlainModule,
      declaredMinMemoryBytes m.bytes = some (65536 * largestMinimum m.entries) := by
    intro m
    have hmin : ∀ e ∈ m.entries, e.min.value < 2 ^ 32 :=
      fun e he => (m.narrow _ (min_mem_fieldsOf he)).2
    rw [PlainModule.bytes, declaredMinMemoryBytes_parts m.addressable,
      if_pos fun n hn => (m.narrow n hn).1, ← seenFrom_eq_largestMinimum hmin]
    rfl
  refine ⟨hplain m, ?_⟩
  intro m' hsame
  rw [hplain m, hplain m', largestMinimum, hsame, largestMinimum]

/-- A number in one byte. -/
def oneByte (n : Fin 128) : Spelling := ⟨[n], by simp⟩

/-- The same number in three, padded. -/
def threeBytes (n : Fin 128) : Spelling := ⟨[n, 0, 0], by simp⟩

/-- A memory of three pages, written in three bytes, and one of seven up to nine. -/
def twoMemories : EntryVector where
  count := threeBytes 2
  entries :=
    [ { flags := oneByte 0, min := threeBytes 3, max := none, flags_max := rfl }
    , { flags := oneByte 1, min := oneByte 7, max := some (threeBytes 9), flags_max := rfl } ]
  rest := []
  count_eq := rfl

/-- They stand between an empty type section and a custom one. -/
def twoMemoriesModule : PlainModule where
  parts :=
    [ .other 1 (threeBytes 1) [0] rfl (by decide)
    , .memory (oneByte 12) twoMemories rfl
    , .other 0 (oneByte 2) [1, 0x61] rfl (by decide) ]
  narrow := by
    intro n hn
    have hfields : fieldsOf [ .other 1 (threeBytes 1) [0] rfl (by decide)
        , .memory (oneByte 12) twoMemories rfl
        , .other 0 (oneByte 2) [1, 0x61] rfl (by decide) ]
      = [ threeBytes 1, oneByte 12, threeBytes 2, oneByte 0, threeBytes 3, oneByte 1, oneByte 7
        , threeBytes 9, oneByte 2 ] := rfl
    rw [hfields] at hn
    have hall : ∀ n ∈ [ threeBytes 1, oneByte 12, threeBytes 2, oneByte 0, threeBytes 3, oneByte 1
        , oneByte 7, threeBytes 9, oneByte 2 ], Short n ∧ n.value < 2 ^ 32 := by decide
    exact hall n hn
  addressable := by decide

/-- **The larger minimum is read**, seven pages, out of padded numbers. -/
theorem twoMemoriesModule_read : declaredMinMemoryBytes twoMemoriesModule.bytes = some 458752 :=
  (declaredMinMemoryBytes_plain twoMemoriesModule).1

/-! ### One reading of a byte string -/

/-- **An entry is told by its bytes, whatever follows.** -/
theorem Entry.bytes_append_inj {e e' : Entry} {rest rest' : Bytes}
    (h : e.bytes ++ rest = e'.bytes ++ rest') : e = e' ∧ rest = rest' := by
  obtain ⟨flags, min, max, hmax⟩ := e
  obtain ⟨flags', min', max', hmax'⟩ := e'
  simp only [Entry.bytes, Entry.fields, List.flatMap_cons, List.append_assoc] at h
  obtain ⟨rfl, hmins⟩ := Spelling.bytes_append_inj h
  obtain ⟨rfl, hmaxs⟩ := Spelling.bytes_append_inj hmins
  have hsome : max.isSome = max'.isSome := by rw [← hmax, ← hmax']
  cases max with
  | none =>
      cases max' with
      | none => exact ⟨rfl, hmaxs⟩
      | some n' => simp at hsome
  | some n =>
      cases max' with
      | none => simp at hsome
      | some n' =>
          simp only [Option.toList_some, List.flatMap_cons, List.flatMap_nil,
            List.append_nil] at hmaxs
          obtain ⟨rfl, hrest⟩ := Spelling.bytes_append_inj hmaxs
          exact ⟨rfl, hrest⟩

/-- As many entries as are counted are told by their bytes. -/
theorem entries_append_inj : ∀ {entries entries' : List Entry} {rest rest' : Bytes},
    entries.length = entries'.length →
    entries.flatMap Entry.bytes ++ rest = entries'.flatMap Entry.bytes ++ rest' →
    entries = entries' ∧ rest = rest' := by
  intro entries
  induction entries with
  | nil =>
      intro entries' rest rest' hlen h
      obtain rfl := List.length_eq_zero_iff.mp hlen.symm
      exact ⟨rfl, h⟩
  | cons e entries ih =>
      intro entries' rest rest' hlen h
      obtain ⟨e', entries', rfl⟩ := List.exists_cons_of_length_eq_add_one hlen.symm
      rw [List.flatMap_cons, List.flatMap_cons, List.append_assoc, List.append_assoc] at h
      obtain ⟨rfl, htail⟩ := Entry.bytes_append_inj h
      obtain ⟨rfl, hrest⟩ := ih (by simpa using hlen) htail
      exact ⟨rfl, hrest⟩

theorem EntryVector.bytes_inj {v v' : EntryVector} (h : v.bytes = v'.bytes) : v = v' := by
  obtain ⟨count, entries, rest, hcount⟩ := v
  obtain ⟨count', entries', rest', hcount'⟩ := v'
  obtain ⟨rfl, htail⟩ := Spelling.bytes_append_inj h
  obtain ⟨rfl, rfl⟩ := entries_append_inj (by rw [← hcount, ← hcount']) htail
  rfl

/-- **A part is told by its bytes, whatever follows.** -/
theorem Part.bytes_append_inj {p p' : Part} {rest rest' : Bytes}
    (h : p.bytes ++ rest = p'.bytes ++ rest') : p = p' ∧ rest = rest' := by
  rw [Part.bytes, Part.bytes, List.cons_append, List.cons_append, List.append_assoc,
    List.append_assoc] at h
  obtain ⟨hid, htail⟩ := List.cons.inj h
  obtain ⟨hsize, hbodies⟩ := Spelling.bytes_append_inj htail
  have hlen : p.body.length = p'.body.length := by rw [← p.size_eq, ← p'.size_eq, hsize]
  obtain ⟨hbody, hrest⟩ := List.append_inj hbodies hlen
  refine ⟨?_, hrest⟩
  cases p with
  | memory size body size_eq =>
      cases p' with
      | memory size' body' size_eq' =>
          obtain rfl : size = size' := hsize
          obtain rfl := EntryVector.bytes_inj hbody
          rfl
      | other id' size' body' size_eq' not_memory' => exact absurd hid.symm not_memory'
  | other id size body size_eq not_memory =>
      cases p' with
      | memory size' body' size_eq' => exact absurd hid not_memory
      | other id' size' body' size_eq' not_memory' =>
          obtain rfl : id = id' := hid
          obtain rfl : size = size' := hsize
          obtain rfl : body = body' := hbody
          rfl

/-- **Bytes are a module of parts in one way at most.** -/
theorem encodeParts_inj {parts parts' : List Part} (h : encodeParts parts = encodeParts parts') :
    parts = parts' := by
  have hparts := List.append_cancel_left h
  clear h
  induction parts generalizing parts' with
  | nil =>
      cases parts' with
      | nil => rfl
      | cons p' parts' => simp [Part.bytes] at hparts
  | cons p parts ih =>
      cases parts' with
      | nil => simp [Part.bytes] at hparts
      | cons p' parts' =>
          rw [List.flatMap_cons, List.flatMap_cons] at hparts
          obtain ⟨rfl, hrest⟩ := Part.bytes_append_inj hparts
          rw [ih hrest]

/-! ### Answers that are what the bytes say -/

/-- The answer is the one the numbers of the module give at their full value. -/
def Answered (wasm : Bytes) (b : Nat) : Prop :=
  ∃ parts, wasm = encodeParts parts ∧ (∀ n ∈ fieldsOf parts, n.value < 2 ^ 32) ∧
    b = 65536 * largestMinimum (entriesOf parts)

/--
**When the reader answers only what the bytes say.**

It does so on the bytes that are no module, on those where it has no answer, and
on those of numbers that all fit 32 bits.  It does not where a number of five
bytes has anything above them: it is answered all the same.
-/
theorem answers_truthful_iff (w : Image) :
    (∀ b, declaredMinMemoryBytes w.bytes = some b → Answered w.bytes b) ↔
      ∀ parts, w.bytes = encodeParts parts → (∀ n ∈ fieldsOf parts, Short n) →
        ∀ n ∈ fieldsOf parts, n.value < 2 ^ 32 := by
  constructor
  · intro h parts hparts hshort
    obtain ⟨parts', hparts', hnarrow, -⟩ :=
      h _ ((declaredMinMemoryBytes_iff w _).mpr ⟨parts, hparts, hshort, rfl⟩)
    rw [encodeParts_inj (hparts.symm.trans hparts')]
    exact hnarrow
  · intro h b hb
    obtain ⟨parts, hparts, hshort, rfl⟩ := (declaredMinMemoryBytes_iff w b).mp hb
    have hnarrow := h parts hparts hshort
    refine ⟨parts, hparts, hnarrow, ?_⟩
    rw [seenFrom_eq_largestMinimum fun e he => hnarrow _ (min_mem_fieldsOf he)]

/-! ### A number that is cut -/

/-- An entry of 2³² pages at least. -/
def cutEntry : Entry where
  flags := ⟨[0], by simp⟩
  min := ⟨[0, 0, 0, 0, 16], by simp⟩
  max := none
  flags_max := by decide

/-- The memory section of that entry. -/
def cutPart : Part :=
  .memory ⟨[7], by simp⟩ ⟨⟨[1], by simp⟩, [cutEntry], [], by decide⟩ (by decide)

/-- The module of that section and nothing else. -/
def cutImage : Image where
  bytes := encodeParts [cutPart]
  addressable := by decide

/-- **Its memory is read as none at all.** -/
theorem cut_minimum_answered :
    declaredMinMemoryBytes cutImage.bytes = some 0 ∧ ¬Answered cutImage.bytes 0 := by
  constructor
  · have hshort : ∀ n ∈ fieldsOf [cutPart], Short n := by decide
    exact (declaredMinMemoryBytes_iff cutImage 0).mpr ⟨[cutPart], rfl, hshort, by decide⟩
  · rintro ⟨parts, hparts, hnarrow, -⟩
    rw [← encodeParts_inj hparts] at hnarrow
    have hmin : cutEntry.min ∈ fieldsOf [cutPart] := min_mem_fieldsOf List.mem_cons_self
    exact absurd (hnarrow _ hmin) (by decide)

end Ave
