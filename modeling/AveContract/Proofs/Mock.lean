/-
An entry point on the mock host.

`Sdk/Mock.lean` has no fuel, no caps and no linear memory, and its pointers count up
from a thousand.  An entry point cannot tell it from a machine where it matters: the
bytes stored for it are the bytes it reads, and the bytes it stores are the bytes
that are found.  `prepareExecution_mock` and `prepareCheck_mock` are the reading half
of that, `deliver_lands` and `deliver_misses` the writing half.

Everything here goes forward: a program is shown to return, and where.  What the mock
holds is kept by `Keeps` from one call to the next, since pointers are never given out
twice.
-/
import AveContract.Proofs.Answers
import AveContract.Sdk.Mock

namespace Ave

open Slice Borsh Metered

namespace Sdk

/-! ### What the map holds -/

namespace MockHost

/-- `data` is in the mock's memory under a pointer that the counter has passed. -/
structure Holds (m : MockHost) (ptr : Word) (data : Bytes) : Prop where
  data : m.getData ptr = some data
  passed : ptr.toNat < m.nextId

/-- A JSON text is there as a test sets it up: framed, and within the SDK's cap. -/
structure HoldsText (m : MockHost) (ptr : Word) (b : Bytes) : Prop where
  framed : m.Holds ptr (le32 b.length ++ b)
  length : 4 + b.length ≤ 10000000

/-- Everything held is still held, nothing came to be at the null pointer, and no switch was
touched. -/
structure Keeps (m m' : MockHost) : Prop where
  holds : ∀ ptr data, m.Holds ptr data → m'.Holds ptr data
  null : m'.getData 0 = m.getData 0
  forceAllocZero : m'.forceAllocZero = m.forceAllocZero
  forcePointerLen : m'.forcePointerLen = m.forcePointerLen

variable {m m' m'' : MockHost}

theorem Keeps.trans (h : Keeps m m') (h' : Keeps m' m'') : Keeps m m'' :=
  ⟨fun ptr data hin => h'.holds ptr data (h.holds ptr data hin), h'.null.trans h.null,
    h'.forceAllocZero.trans h.forceAllocZero, h'.forcePointerLen.trans h.forcePointerLen⟩

theorem nextId_toNat (m : MockHost) : (usizeAsU32 m.nextId).toNat = m.nextId :=
  usizeAsU32_toNat_of_i32 m.nextId_le

/-- A pointer that was given out is no null pointer. -/
theorem nextId_nonnull {ptr : Word} (h : m.nextId ≤ ptr.toNat) : ptr ≠ 0 := by
  have hstart := m.nextId_ge
  intro hnull
  have hzero : ptr.toNat = 0 := by rw [hnull]; rfl
  omega

/-- **A payload goes under the next pointer, and nothing is lost.** -/
theorem insertNext_holds (data : Bytes) (h : m.nextId < i32Max) :
    ∃ m', m.insertNext data = (.ok (usizeAsU32 m.nextId), m') ∧ m'.nextId = m.nextId + 1 ∧
      m'.Holds (usizeAsU32 m.nextId) data ∧ Keeps m m' := by
  have hnat := m.nextId_toNat
  have hnonnull : usizeAsU32 m.nextId ≠ 0 := nextId_nonnull hnat.ge
  refine ⟨_, dif_pos h, rfl, ⟨AList.lookup_insert _, ?_⟩,
    ⟨?_, AList.lookup_insert_ne hnonnull.symm, rfl, rfl⟩⟩
  · show (usizeAsU32 m.nextId).toNat < m.nextId + 1
    omega
  · intro ptr old hin
    have hpassed := hin.passed
    refine ⟨?_, show ptr.toNat < m.nextId + 1 by omega⟩
    have hne : ptr ≠ usizeAsU32 m.nextId := by
      intro heq
      rw [heq] at hpassed
      omega
    show (m.hostMemory.insert (usizeAsU32 m.nextId) data).lookup ptr = some old
    rw [AList.lookup_insert_ne hne]
    exact hin.data

/-- Overwriting what is under a pointer that was just given out loses nothing older. -/
theorem writeBytesFromSlice_holds {ptr : Word} {old : Bytes} (src : Bytes) (h : Keeps m m')
    (hfresh : m.nextId ≤ ptr.toNat) (hin : m'.Holds ptr old) :
    (m'.writeBytesFromSlice ptr src).Holds ptr src ∧ Keeps m (m'.writeBytesFromSlice ptr src) := by
  have hnonnull : ptr ≠ 0 := nextId_nonnull hfresh
  refine ⟨⟨AList.lookup_insert _, hin.passed⟩,
    ⟨?_, (AList.lookup_insert_ne hnonnull.symm).trans h.null, h.forceAllocZero, h.forcePointerLen⟩⟩
  intro q data hq
  have hne : q ≠ ptr := by
    intro heq
    have hpassed := hq.passed
    rw [heq] at hpassed
    omega
  refine ⟨?_, (h.holds q data hq).passed⟩
  show (m'.hostMemory.insert ptr src).lookup q = some data
  rw [AList.lookup_insert_ne hne]
  exact (h.holds q data hq).data

end MockHost

/-! ### A program that returns on the mock -/

section Forward

variable {H α β : Type} {host : Host H} {w v w' : World H}

theorem Host.Gives.ret (host : Host H) (a : α) (w : World H) :
    host.Gives (Pure.pure a) w a w := rfl

theorem Host.Gives.andThen {p : Guest α} {f : α → Guest β} {a : α} {b : β}
    (hp : host.Gives p w a v) (hf : host.Gives (f a) v b w') : host.Gives (p >>= f) w b w' := by
  have heval : Prog.eval WasmError.trap host.handle p w = (.ok a, v) := hp
  unfold Host.Gives
  rw [Prog.eval_bind, heval]
  exact hf

theorem Host.Gives.of_handle {op : Instr} {a : op.Answer} (h : host.handle op w = (.ok a, w')) :
    host.Gives (Prog.request op) w a w' := by
  unfold Host.Gives
  rw [Prog.eval_request, h]

theorem Host.Gives.load {addr len : Nat} (h : addr + len ≤ w.memory.length) :
    host.Gives (Prog.request (.load addr len)) w (slice w.memory addr len) w :=
  Host.Gives.of_handle (by rw [Host.handle, if_pos h])

theorem Host.Gives.store {addr : Nat} {bytes : Bytes} (h : addr + bytes.length ≤ w.memory.length) :
    host.Gives (Prog.request (.store addr bytes)) w ()
      { w with memory := patch w.memory addr bytes } :=
  Host.Gives.of_handle (by rw [Host.handle, if_pos h])

end Forward

/-- A build for the computer that tests run on: nothing happens between two requests, and there is
always room for a buffer. -/
structure Build.Native (build : Build) (size : Nat) : Prop where
  work : ∀ site, build.work site = []
  room : ∀ site, (build.buffer site).toNat + 2 ^ 34 ≤ size

/-- Nothing changed but the contents of buffers. -/
structure Quiet {H : Type} (w w' : World H) : Prop where
  host : w'.host = w.host
  size : w'.memory.length = w.memory.length

theorem Quiet.trans {H : Type} {w v w' : World H} (h : Quiet w v) (h' : Quiet v w') : Quiet w w' :=
  ⟨h'.host.trans h.host, h'.size.trans h.size⟩

section Reading

variable {build : Build} {w : World MockHost} {ptr : Word} {b : Bytes}

/-- The mock's answer about a pointer it has is the length of what is there. -/
theorem MockHost.pointerLen_held {m : MockHost} (hoff : m.forcePointerLen = none)
    (hin : m.Holds ptr b) : m.pointerLen ptr = usizeAsU32 b.length := by
  unfold MockHost.pointerLen
  rw [hoff]
  simp only [hin.data]

theorem pointerLen_gives (hoff : w.host.forcePointerLen = none) (hin : w.host.Holds ptr b) :
    mockHost.Gives (Prog.request (.pointerLen ptr)) w (usizeAsU32 b.length) w :=
  Host.Gives.of_handle (by
    show (Except.ok (w.host.pointerLen ptr), w) = _
    rw [MockHost.pointerLen_held hoff hin])

/-- A buffer of the right size is filled with what is at the pointer. -/
theorem readBytes_gives {dst len : Word} (hin : w.host.Holds ptr b) (hlen : len.toNat = b.length)
    (hfits : dst.toNat + b.length ≤ w.memory.length) :
    mockHost.Gives (Prog.request (.readBytes ptr dst len)) w ()
      ⟨w.host, patch w.memory dst.toNat b,
        w.calls ++ [.read ptr (slice (patch w.memory dst.toNat b) dst.toNat b.length)]⟩ := by
  have hslice : (slice w.memory dst.toNat b.length).length = b.length := length_slice_of_le hfits
  have hread : w.host.readBytesIntoVec ptr (slice w.memory dst.toNat b.length) = .ok b := by
    unfold MockHost.readBytesIntoVec
    rw [hin.data]
    simp only [Option.getD_some, hslice, Nat.le_refl, if_true]
    rw [patch_full hslice.symm]
  refine Host.Gives.of_handle ?_
  simp only [Host.handle, mockHost, hlen, hread]

/-- **What was stored is read back, up to the SDK's own cap.** -/
theorem getFromContext_mock (site : Site) (hnative : build.Native w.memory.length)
    (hoff : w.host.forcePointerLen = none) (hin : w.host.Holds ptr b) (hlen : b.length ≤ 10000000) :
    ∃ w', mockHost.Gives (getFromContext build site ptr) w (.ok b) w' ∧ Quiet w w' := by
  have hroom := hnative.room site
  have hnat : (usizeAsU32 b.length).toNat = b.length :=
    usizeAsU32_toNat_of_i32 (by unfold i32Max; omega)
  have hzeros : (build.buffer site).toNat + (List.replicate b.length (0 : UInt8)).length
      ≤ w.memory.length := by
    rw [List.length_replicate]
    omega
  have hzeroed := length_patch hzeros
  have hfits : (build.buffer site).toNat + b.length
      ≤ (patch w.memory (build.buffer site).toNat (List.replicate b.length 0)).length := by omega
  have hfilled := length_patch hfits
  refine ⟨⟨w.host, patch (patch w.memory (build.buffer site).toNat (List.replicate b.length 0))
    (build.buffer site).toNat b, w.calls ++ [.read ptr b]⟩, ?_, ⟨rfl, hfilled.trans hzeroed⟩⟩
  refine (pointerLen_gives hoff hin).andThen ?_
  rw [validateHostLen_ok hlen]
  simp only [hnative.work site]
  refine (Host.Gives.ret mockHost () w).andThen ?_
  refine Host.Gives.andThen (Host.Gives.store hzeros) ?_
  refine Host.Gives.andThen (readBytes_gives hin hnat hfits) ?_
  refine Host.Gives.andThen (Host.Gives.load (hfits.trans_eq hfilled.symm)) ?_
  rw [slice_patch_self hfits]
  exact Host.Gives.ret mockHost _ _

/-- **A staged text is parsed as it is.** -/
theorem readAndParse_mock {T : Type} (site : Site) (fromSlice : Bytes → Except String T)
    (name : String) (hnative : build.Native w.memory.length) (hoff : w.host.forcePointerLen = none)
    (hin : w.host.HoldsText ptr b) :
    ∃ w', mockHost.Gives (readAndParse build site fromSlice ptr name) w
      (parseInput fromSlice name b) w' ∧ Quiet w w' := by
  have hlen := hin.length
  have hcap : (le32 b.length ++ b).length ≤ 10000000 := by
    rw [List.length_append, length_le32]
    exact hlen
  obtain ⟨w', hget, hquiet⟩ := getFromContext_mock site hnative hoff hin.framed hcap
  refine ⟨w', hget.andThen ?_, hquiet⟩
  have hframe : deserialize build (le32 b.length ++ b) = .ok ⟨b⟩ :=
    deserialize_frame (by unfold u32Max; omega)
  simp only [parseRead, hframe]
  exact Host.Gives.ret mockHost _ _

end Reading

/-! ### What is prepared on the mock -/

section Preparing

variable {State Event : Type} {build : Build} {contract : Contract State Event}
  {w : World MockHost} {p₁ p₂ p₃ : Word} {b₁ b₂ b₃ : Bytes}

theorem readState_mock (contract : Contract State Event) (hnative : build.Native w.memory.length)
    (hoff : w.host.forcePointerLen = none) (h₁ : w.host.HoldsText p₁ b₁)
    (h₂ : w.host.HoldsText p₂ b₂) :
    ∃ w', mockHost.Gives (readState build contract p₁ p₂) w (referenceState contract b₁ b₂) w' ∧
      Quiet w w' := by
  obtain ⟨w₁, hread, hq⟩ := readAndParse_mock .state contract.state.fromSlice "State" hnative hoff h₁
  unfold referenceState
  cases hfirst : parseInput contract.state.fromSlice "State" b₁ with
  | ok state =>
      rw [hfirst] at hread
      exact ⟨w₁, hread.andThen (Host.Gives.ret mockHost _ _), hq⟩
  | error first =>
      rw [hfirst] at hread
      obtain ⟨w₂, hread₂, hq₂⟩ := readAndParse_mock .initState contract.state.fromSlice "Init State"
        (w := w₁)
        (by rw [hq.size]; exact hnative) (by rw [hq.host]; exact hoff) (by rw [hq.host]; exact h₂)
      simp only
      cases hsecond : parseInput contract.state.fromSlice "Init State" b₂ with
      | ok state =>
          rw [hsecond] at hread₂
          exact ⟨w₂, hread.andThen (hread₂.andThen (Host.Gives.ret mockHost _ _)), hq.trans hq₂⟩
      | error second =>
          rw [hsecond] at hread₂
          exact ⟨w₂, hread.andThen (hread₂.andThen (Host.Gives.ret mockHost _ _)), hq.trans hq₂⟩

/-- **What a unit test prepares is the reference.** -/
theorem prepareExecution_mock (contract : Contract State Event)
    (hnative : build.Native w.memory.length) (hoff : w.host.forcePointerLen = none) (h₁ : w.host.HoldsText p₁ b₁)
    (h₂ : w.host.HoldsText p₂ b₂) (h₃ : w.host.HoldsText p₃ b₃) (flag : Word) :
    ∃ w', mockHost.Gives (prepareExecution build contract p₁ p₂ p₃ flag) w
      (tryReference contract b₁ b₂ b₃ (flag == ownerFlag)) w' ∧ Quiet w w' := by
  obtain ⟨w₁, hstate, hq⟩ := readState_mock contract hnative hoff h₁ h₂
  unfold tryReference
  cases href : referenceState contract b₁ b₂ with
  | error e =>
      rw [href] at hstate
      exact ⟨w₁, hstate.andThen (Host.Gives.ret mockHost _ _), hq⟩
  | ok state =>
      rw [href] at hstate
      obtain ⟨w₂, hevent, hq₂⟩ := readAndParse_mock .event contract.event.fromSlice "Event" (w := w₁)
        (by rw [hq.size]; exact hnative) (by rw [hq.host]; exact hoff) (by rw [hq.host]; exact h₃)
      refine ⟨w₂, hstate.andThen (hevent.andThen ?_), hq.trans hq₂⟩
      simp only
      cases parseInput contract.event.fromSlice "Event" b₃ with
      | error e => exact Host.Gives.ret mockHost _ _
      | ok event =>
          simp only [hnative.work .callback]
          exact (Host.Gives.ret mockHost () w₂).andThen (Host.Gives.ret mockHost _ _)

/-- **What it prepares of a check is the reference check.** -/
theorem prepareCheck_mock (contract : Contract State Event)
    (hnative : build.Native w.memory.length) (hoff : w.host.forcePointerLen = none) (h₁ : w.host.HoldsText p₁ b₁) :
    ∃ w', mockHost.Gives (prepareCheck build contract p₁) w (tryReferenceCheck contract b₁) w' ∧
      Quiet w w' := by
  obtain ⟨w₁, hstate, hq⟩ := readAndParse_mock .state contract.state.fromSlice "State" hnative hoff h₁
  refine ⟨w₁, hstate.andThen ?_, hq⟩
  unfold tryReferenceCheck
  cases parseInput contract.state.fromSlice "State" b₁ with
  | error e => exact Host.Gives.ret mockHost _ _
  | ok state =>
      simp only [hnative.work .callback]
      refine (Host.Gives.ret mockHost () w₁).andThen ?_
      by_cases hcheck : (contract.check state .default).success = true
      · simp only [if_pos hcheck]
        exact Host.Gives.ret mockHost _ _
      · simp only [if_neg hcheck]
        exact Host.Gives.ret mockHost _ _

end Preparing

/-! ### What is delivered on the mock -/

section Delivering

variable {R : Type} {build : Build} {kind : Outcome R} {unreturned : String} {w : World MockHost}
  {r : R} {bytes : Bytes}

/-- An encoding of the kind has room in a test's memory. -/
def Outcome.Compact (kind : Outcome R) : Prop :=
  ∀ r bytes, kind.codec.encode r = .ok bytes → bytes.length ≤ 2 ^ 34

/-- What a host can be asked to take: an encoding no longer than an `i32` can say. -/
def Outcome.sendable (kind : Outcome R) (r : R) : Option (R × Bytes) :=
  match kind.codec.encode r with
  | .error _ => none
  | .ok bytes => if bytes.length ≤ i32Max then some (r, bytes) else none

/-- The first of the results tried that can be sent. -/
def Outcome.lands (kind : Outcome R) (unreturned : String) (p : Except String R) :
    Option (R × Bytes) :=
  (kind.candidates unreturned p).findSome? kind.sendable

/-- Where the first encoding is short enough it is the one that is sent. -/
theorem Outcome.lands_of_settles {p : Except String R}
    (h : kind.settles unreturned p = some (r, bytes)) (hshort : bytes.length ≤ i32Max) :
    kind.lands unreturned p = some (r, bytes) := by
  have hfirst : ∀ rs : List R,
      (rs.findSome? fun r =>
        match kind.codec.encode r with
        | .error _ => none
        | .ok bytes => some (r, bytes)) = some (r, bytes) →
      rs.findSome? kind.sendable = some (r, bytes) := by
    intro rs
    induction rs with
    | nil => intro hnil; simp at hnil
    | cons r' rest ih =>
        intro hcons
        rw [List.findSome?_cons] at hcons ⊢
        unfold Outcome.sendable
        cases henc : kind.codec.encode r' with
        | error e =>
            rw [henc] at hcons
            exact ih hcons
        | ok bytes' =>
            rw [henc] at hcons
            obtain ⟨rfl, rfl⟩ := Prod.mk.inj (Option.some.inj hcons)
            simp only [if_pos hshort]
  exact hfirst _ h

/-- A result that can be sent is sent as its encoding, which is short. -/
theorem Outcome.sendable_some {sent : R × Bytes} (h : kind.sendable r = some sent) :
    sent.1 = r ∧ kind.codec.encode r = .ok sent.2 ∧ sent.2.length ≤ i32Max := by
  unfold Outcome.sendable at h
  cases henc : kind.codec.encode r with
  | error e => simp [henc] at h
  | ok bytes =>
      simp only [henc] at h
      split at h
      · rename_i hshort
        obtain rfl := Option.some.inj h
        exact ⟨rfl, rfl, hshort⟩
      · simp at h

/-- What lands was tried, and is sent as its encoding. -/
theorem Outcome.lands_some {p : Except String R} (h : kind.lands unreturned p = some (r, bytes)) :
    r ∈ kind.candidates unreturned p ∧ kind.codec.encode r = .ok bytes := by
  obtain ⟨r', hmem, hsend⟩ := List.exists_of_findSome?_eq_some h
  obtain ⟨rfl, henc, -⟩ := Outcome.sendable_some hsend
  exact ⟨hmem, henc⟩

/-- The bytes are under the pointer, which is none that was there before. -/
structure Landed (m : MockHost) (bytes : Bytes) (ptr : Word) (m' : MockHost) : Prop where
  nonnull : ptr ≠ 0
  data : m'.getData ptr = some bytes
  keeps : m.Keeps m'

theorem alloc_gives (len : Word) (hoff : w.host.forceAllocZero = false)
    (hids : w.host.nextId < i32Max) :
    ∃ v, mockHost.Gives (Prog.request (.alloc len)) w (usizeAsU32 w.host.nextId) v ∧
      v.memory = w.memory ∧
      v.host.Holds (usizeAsU32 w.host.nextId) (List.replicate len.toNat 0) ∧
      w.host.Keeps v.host := by
  obtain ⟨m', hinsert, -, hholds, hkeeps⟩ :=
    MockHost.insertNext_holds (List.replicate len.toNat 0) hids
  have halloc : w.host.alloc len = (.ok (usizeAsU32 w.host.nextId), m') := by
    unfold MockHost.alloc
    rw [hoff, if_neg Bool.false_ne_true]
    exact hinsert
  refine ⟨⟨m', w.memory, w.calls ++ [.allocated len (usizeAsU32 w.host.nextId)]⟩,
    Host.Gives.of_handle ?_, rfl, hholds, hkeeps⟩
  simp only [Host.handle, mockHost, halloc]

theorem alloc_refused (len : Word) (hforced : w.host.forceAllocZero = true) :
    ∃ v, mockHost.Gives (Prog.request (.alloc len)) w 0 v ∧ Quiet w v := by
  have halloc : w.host.alloc len = (.ok 0, w.host) := by
    unfold MockHost.alloc
    rw [hforced, if_pos rfl]
  refine ⟨{ w with calls := w.calls ++ [.allocated len 0] }, Host.Gives.of_handle ?_, ⟨rfl, rfl⟩⟩
  simp only [Host.handle, mockHost, halloc]

theorem writeBytes_gives (ptr src len : Word) :
    ∃ v, mockHost.Gives (Prog.request (.writeBytes ptr src len)) w () v ∧
      v.host = w.host.writeBytesFromSlice ptr (slice w.memory src.toNat len.toNat) :=
  ⟨_, Host.Gives.of_handle rfl, rfl⟩

/-- A store that can be sent lands under a new pointer. -/
theorem store_lands (site : Site) (hnative : build.Native w.memory.length) (hcompact : kind.Compact)
    {sent : R × Bytes} (hsend : kind.sendable r = some sent)
    (hoff : w.host.forceAllocZero = false) (hids : w.host.nextId < i32Max) :
    ∃ ptr w', mockHost.Gives (store build site kind.codec r) w (.ok ptr) w' ∧
      Landed w.host sent.2 ptr w'.host := by
  obtain ⟨-, henc, hshort⟩ := Outcome.sendable_some hsend
  have hroom := hnative.room site
  have hsize := hcompact r sent.2 henc
  have hfits : (build.buffer site).toNat + sent.2.length ≤ w.memory.length := by omega
  have hlen : (usizeAsU32 sent.2.length).toNat = sent.2.length := usizeAsU32_toNat_of_i32 hshort
  have hptr := w.host.nextId_toNat
  have hnonnull : usizeAsU32 w.host.nextId ≠ 0 := MockHost.nextId_nonnull hptr.ge
  let buffered : World MockHost :=
    { w with memory := patch w.memory (build.buffer site).toNat sent.2 }
  obtain ⟨w₁, halloc, hmemory, hholds, hkeeps⟩ :=
    alloc_gives (w := buffered) (usizeAsU32 sent.2.length) hoff hids
  obtain ⟨w₂, hwrite, hhost⟩ := writeBytes_gives (w := w₁) (usizeAsU32 w.host.nextId)
    (build.buffer site) (usizeAsU32 sent.2.length)
  rw [hmemory, hlen, slice_patch_self hfits] at hhost
  obtain ⟨hheld, hkept⟩ :=
    MockHost.writeBytesFromSlice_holds sent.2 hkeeps (Nat.le_of_eq hptr.symm) hholds
  rw [← hhost] at hheld hkept
  refine ⟨usizeAsU32 w.host.nextId, w₂, ?_, ⟨hnonnull, hheld.data, hkept⟩⟩
  unfold store serialize
  simp only [henc, hnative.work site, validateSerializedLen_ok hshort]
  refine (Host.Gives.ret mockHost () w).andThen ?_
  refine Host.Gives.andThen (Host.Gives.store hfits) ?_
  refine halloc.andThen ?_
  simp only [show buffered.host.nextId = w.host.nextId from rfl, if_neg hnonnull]
  exact hwrite.andThen (Host.Gives.ret mockHost _ _)

/-- A store that cannot be sent, or is given no pointer, leaves the mock as it was. -/
theorem store_misses (site : Site) (hnative : build.Native w.memory.length)
    (hcompact : kind.Compact) (h : kind.sendable r = none ∨ w.host.forceAllocZero = true) :
    ∃ e w', mockHost.Gives (store build site kind.codec r) w (.error e) w' ∧ Quiet w w' := by
  unfold store serialize
  cases henc : kind.codec.encode r with
  | error e => exact ⟨_, w, Host.Gives.ret mockHost _ _, ⟨rfl, rfl⟩⟩
  | ok bytes =>
      have hroom := hnative.room site
      have hsize := hcompact r bytes henc
      have hfits : (build.buffer site).toNat + bytes.length ≤ w.memory.length := by omega
      have hquiet : Quiet w { w with memory := patch w.memory (build.buffer site).toNat bytes } :=
        ⟨rfl, length_patch hfits⟩
      simp only [hnative.work site]
      by_cases hshort : bytes.length ≤ i32Max
      · have hforced : w.host.forceAllocZero = true := by
          rcases h with hnone | hforced
          · unfold Outcome.sendable at hnone
            simp only [henc, if_pos hshort] at hnone
            simp at hnone
          · exact hforced
        obtain ⟨w₁, halloc, hquiet₁⟩ :=
          alloc_refused (w := { w with memory := patch w.memory (build.buffer site).toNat bytes })
            (usizeAsU32 bytes.length) hforced
        refine ⟨.hostAllocationFailed bytes.length, w₁, ?_, hquiet.trans hquiet₁⟩
        refine (Host.Gives.ret mockHost () w).andThen ?_
        refine Host.Gives.andThen (Host.Gives.store hfits) ?_
        rw [validateSerializedLen_ok hshort]
        refine halloc.andThen ?_
        rw [if_pos rfl]
        exact Host.Gives.ret mockHost _ _
      · refine ⟨.integerOverflow
          s!"Serialized data too large: {bytes.length} bytes exceeds i32::MAX", _, ?_, hquiet⟩
        refine (Host.Gives.ret mockHost () w).andThen ?_
        refine Host.Gives.andThen (Host.Gives.store hfits) ?_
        unfold validateSerializedLen
        rw [if_pos (by omega)]
        exact Host.Gives.ret mockHost _ _

/-- An attempt keeps what came of its store. -/
theorem attempt_mock {site : Site} {x : Except Error Word} {w' : World MockHost}
    (h : mockHost.Gives (store build site kind.codec r) w x w') :
    mockHost.Gives (attempt build site kind r) w ⟨r, x⟩ w' :=
  h.andThen (Host.Gives.ret mockHost _ _)

/-- **A delivery lands the first result that can be sent.** -/
theorem deliver_lands {p : Except String R} (hnative : build.Native w.memory.length)
    (hcompact : kind.Compact) (hlands : kind.lands unreturned p = some (r, bytes))
    (hoff : w.host.forceAllocZero = false) (hids : w.host.nextId < i32Max) :
    ∃ tries w', mockHost.Gives (deliver build kind unreturned p) w tries w' ∧
      Landed w.host bytes (Attempt.pointer tries) w'.host := by
  unfold Outcome.lands at hlands
  cases p with
  | error e =>
      simp only [Outcome.candidates, List.findSome?_cons, List.findSome?_nil] at hlands
      cases hsend : kind.sendable (kind.failed e) with
      | none => simp [hsend] at hlands
      | some sent =>
          simp only [hsend, Option.some.injEq] at hlands
          obtain rfl := hlands
          obtain ⟨ptr, w', hstore, hlanded⟩ := store_lands .failure hnative hcompact hsend hoff hids
          exact ⟨[⟨kind.failed e, .ok ptr⟩], w',
            (attempt_mock hstore).andThen (Host.Gives.ret mockHost _ _), hlanded⟩
  | ok result =>
      simp only [Outcome.candidates, List.findSome?_cons, List.findSome?_nil] at hlands
      cases hsend : kind.sendable result with
      | some sent =>
          simp only [hsend, Option.some.injEq] at hlands
          obtain rfl := hlands
          obtain ⟨ptr, w', hstore, hlanded⟩ := store_lands .result hnative hcompact hsend hoff hids
          exact ⟨[⟨result, .ok ptr⟩], w',
            (attempt_mock hstore).andThen (Host.Gives.ret mockHost _ _), hlanded⟩
      | none =>
          obtain ⟨e, w₁, hmiss, hquiet⟩ :=
            store_misses (w := w) .result hnative hcompact (Or.inl hsend)
          cases hsecond : kind.sendable (kind.failed unreturned) with
          | none => simp [hsend, hsecond] at hlands
          | some sent =>
              simp only [hsend, hsecond, Option.some.injEq] at hlands
              obtain rfl := hlands
              obtain ⟨ptr, w', hstore, hlanded⟩ := store_lands (w := w₁) .failure
                (by rw [hquiet.size]; exact hnative) hcompact hsecond
                (by rw [hquiet.host]; exact hoff) (by rw [hquiet.host]; exact hids)
              rw [hquiet.host] at hlanded
              refine ⟨[⟨result, .error e⟩, ⟨kind.failed unreturned, .ok ptr⟩], w', ?_, hlanded⟩
              exact (attempt_mock hmiss).andThen
                ((attempt_mock hstore).andThen (Host.Gives.ret mockHost _ _))

/-- **Where nothing can be sent, or no pointer is to be had, nothing lands.** -/
theorem deliver_misses {p : Except String R} (hnative : build.Native w.memory.length)
    (hcompact : kind.Compact)
    (h : kind.lands unreturned p = none ∨ w.host.forceAllocZero = true) :
    ∃ tries w', mockHost.Gives (deliver build kind unreturned p) w tries w' ∧
      Attempt.pointer tries = 0 ∧ Quiet w w' := by
  have hmisses : ∀ r ∈ kind.candidates unreturned p,
      kind.sendable r = none ∨ w.host.forceAllocZero = true := fun r hmem =>
    h.imp_left fun hnone => List.findSome?_eq_none_iff.mp hnone r hmem
  cases p with
  | error e =>
      obtain ⟨x, w', hmiss, hquiet⟩ := store_misses .failure hnative hcompact
        (hmisses (kind.failed e) List.mem_cons_self)
      exact ⟨[⟨kind.failed e, .error x⟩], w',
        (attempt_mock hmiss).andThen (Host.Gives.ret mockHost _ _), rfl, hquiet⟩
  | ok result =>
      obtain ⟨x, w₁, hmiss, hquiet⟩ := store_misses .result hnative hcompact
        (hmisses result List.mem_cons_self)
      have hsecond := hmisses (kind.failed unreturned) (List.mem_cons_of_mem _ List.mem_cons_self)
      rw [← hquiet.host] at hsecond
      obtain ⟨y, w₂, hmiss₂, hquiet₂⟩ := store_misses .failure (by rw [hquiet.size]; exact hnative)
        hcompact hsecond
      refine ⟨[⟨result, .error x⟩, ⟨kind.failed unreturned, .error y⟩], w₂, ?_, rfl,
        hquiet.trans hquiet₂⟩
      exact (attempt_mock hmiss).andThen
        ((attempt_mock hmiss₂).andThen (Host.Gives.ret mockHost _ _))

end Delivering

/-! ### Both kinds of result are compact -/

theorem checkOutcome_compact : checkOutcome.Compact := by
  intro check bytes henc
  obtain ⟨text, htext, rfl⟩ := ContractInitCheckData.encode_ok henc
  simp only [List.length_cons, List.length_append, length_le32]
  omega

theorem executionOutcome_compact : executionOutcome.Compact := by
  intro result bytes henc
  have hpair : (ContractData.codec.pair ContractInitCheckData.codec).encode
      (result.finalState, ⟨result.success, result.error⟩) = .ok bytes := henc
  obtain ⟨state, rest, hstate, hrest, rfl⟩ := Codec.pair_ok hpair
  obtain ⟨hshort, rfl⟩ := Codec.blob_ok (show Codec.blob.encode result.finalState.bytes = .ok state
    from hstate)
  obtain ⟨text, htext, rfl⟩ := ContractInitCheckData.encode_ok hrest
  simp only [List.length_cons, List.length_append, length_le32]
  omega

end Sdk

end Ave
