/-
When the pointers of a run are handles.

A pointer is where the memory ended when it was handed out.  An allocation moves
that end by its length, so the next pointer is a new one; an empty allocation does
not move it, so the next pointer is the same.  The empty one is not tracked, and by
that its pointer is known to nobody: the manager calls it unknown and refuses to
read or write through it.  That lasts exactly as long as nothing else is allocated,
for then the pointer is the other allocation's too.

So the handles of a run are fresh if and only if no empty allocation in it is
followed by another one that is granted.
-/
import AveContract.Proofs.Allocator

namespace Ave

namespace MemoryManager

/-! ### What a call allocates -/

/-- The length of the allocation a call asks for. -/
def HostOp.requested : HostOp → Option Nat
  | .alloc len => some len
  | .addDataRaw bytes => some bytes.length
  | .writeBytes _ _ => none
  | .writeBytesAt _ _ _ => none
  | .readData _ => none
  | .readBytes _ _ => none
  | .getPointerLen _ => none

/-- The pointer a call returns, if it is an allocation and was granted. -/
def HostOp.handle (m : MemoryManager) : HostOp → Option Nat
  | .alloc len => (m.alloc len).1.toOption
  | .addDataRaw bytes => (m.addDataRaw bytes).1.toOption
  | .writeBytes _ _ => none
  | .writeBytesAt _ _ _ => none
  | .readData _ => none
  | .readBytes _ _ => none
  | .getPointerLen _ => none

/-- The call asks for `len` bytes, and they are within the caps. -/
def HostOp.Allocates (m : MemoryManager) (op : HostOp) (len : Nat) : Prop :=
  op.requested = some len ∧ m.Fits len

/-- The pointers that the allocations of a run return, in order. -/
def handles : MemoryManager → List HostOp → List Nat
  | _, [] => []
  | m, op :: rest => (op.handle m).toList ++ handles (op.apply m) rest

theorem HostOp.not_allocates {m : MemoryManager} {op : HostOp} (h : op.requested = none)
    (len : Nat) : ¬op.Allocates m len := by
  rintro ⟨hlen, -⟩
  rw [h] at hlen
  simp at hlen

/-- **A call either allocates at the end of the memory and moves it, or leaves the end alone.** -/
theorem HostOp.handle_cases (m : MemoryManager) (op : HostOp) :
    (∃ len, op.Allocates m len ∧ op.handle m = some m.memory.length ∧
        (op.apply m).memory.length = m.memory.length + len) ∨
      ((∀ len, ¬op.Allocates m len) ∧ op.handle m = none ∧
        (op.apply m).memory.length = m.memory.length) := by
  cases op with
  | alloc len =>
      by_cases h : m.Fits len
      · refine Or.inl ⟨len, ⟨rfl, h⟩, ?_, ?_⟩
        · rw [handle, alloc_fits h]
          rfl
        · rw [apply, alloc_fits h]
          simp
      · obtain ⟨e, he⟩ := alloc_refused h
        refine Or.inr ⟨fun len' h' => ?_, ?_, ?_⟩
        · obtain rfl : len = len' := Option.some.inj h'.1
          exact h h'.2
        · rw [handle, he]
          rfl
        · rw [apply, he]
  | addDataRaw bytes =>
      by_cases h : m.Fits bytes.length
      · refine Or.inl ⟨bytes.length, ⟨rfl, h⟩, ?_, ?_⟩
        · rw [handle, addDataRaw_fits h]
          rfl
        · rw [apply, addDataRaw_fits h, written_memory, Slice.length_patch (by simp)]
          simp
      · obtain ⟨e, he⟩ := addDataRaw_refused h
        refine Or.inr ⟨fun len' h' => ?_, ?_, ?_⟩
        · obtain rfl : bytes.length = len' := Option.some.inj h'.1
          exact h h'.2
        · rw [handle, he]
          rfl
        · rw [apply, he]
  | writeBytes ptr data =>
      refine Or.inr ⟨not_allocates rfl, rfl, ?_⟩
      rcases m.writeBytes_cases ptr data with ⟨⟨-, -, -, -, hin⟩, hok⟩ | ⟨-, e, he⟩
      · rw [apply, hok, written_memory, Slice.length_patch (by simpa using hin)]
      · rw [apply, he]
  | writeBytesAt ptr offset data =>
      refine Or.inr ⟨not_allocates rfl, rfl, ?_⟩
      rcases m.writeBytesAt_cases ptr offset data with ⟨⟨-, -, -, -, hin⟩, hok⟩ | ⟨-, e, he⟩
      · rw [apply, hok, written_memory, Slice.length_patch hin]
      · rw [apply, he]
  | readData ptr => exact Or.inr ⟨not_allocates rfl, rfl, rfl⟩
  | readBytes ptr len => exact Or.inr ⟨not_allocates rfl, rfl, rfl⟩
  | getPointerLen ptr => exact Or.inr ⟨not_allocates rfl, rfl, rfl⟩

/-- An allocation that was granted returned the end of the memory. -/
theorem HostOp.Allocates.handle {m : MemoryManager} {op : HostOp} {len : Nat}
    (h : op.Allocates m len) :
    op.handle m = some m.memory.length ∧
      (op.apply m).memory.length = m.memory.length + len := by
  rcases op.handle_cases m with ⟨len', h', hhandle, hlen⟩ | ⟨hno, -⟩
  · obtain rfl : len = len' := Option.some.inj (h.1.symm.trans h'.1)
    exact ⟨hhandle, hlen⟩
  · exact absurd h (hno len)

/-! ### The handles of a run -/

theorem handles_append : ∀ (ops : List HostOp) (m : MemoryManager) (ops' : List HostOp),
    handles m (ops ++ ops') = handles m ops ++ handles (m.run ops) ops' := by
  intro ops
  induction ops with
  | nil => intro m ops'; rfl
  | cons op rest ih =>
      intro m ops'
      rw [List.cons_append, handles, handles, ih, run_cons, List.append_assoc]

/-- No handle lies before the end of the memory the run started from. -/
theorem le_of_mem_handles : ∀ (ops : List HostOp) {m : MemoryManager} {p : Nat},
    p ∈ handles m ops → m.memory.length ≤ p := by
  intro ops
  induction ops with
  | nil => intro m p h; simp [handles] at h
  | cons op rest ih =>
      intro m p h
      rw [handles, List.mem_append] at h
      rcases op.handle_cases m with ⟨len, -, hhandle, hlen⟩ | ⟨-, hhandle, hlen⟩
      · rw [hhandle] at h
        rcases h with hhead | hrest
        · exact Nat.le_of_eq (List.mem_singleton.mp hhead).symm
        · have hle := ih hrest
          omega
      · rw [hhandle] at h
        rcases h with hhead | hrest
        · simp at hhead
        · have hle := ih hrest
          omega

/-- The first of them is that end. -/
theorem handles_head : ∀ (ops : List HostOp) {m : MemoryManager} {p : Nat} {rest : List Nat},
    handles m ops = p :: rest → p = m.memory.length := by
  intro ops
  induction ops with
  | nil => intro m p rest h; simp [handles] at h
  | cons op ops ih =>
      intro m p rest h
      rw [handles] at h
      rcases op.handle_cases m with ⟨len, -, hhandle, -⟩ | ⟨-, hhandle, hlen⟩
      · rw [hhandle] at h
        exact (List.cons.inj h).1.symm
      · rw [hhandle] at h
        rw [← hlen]
        exact ih h

/-- No call of the run is an allocation that is granted. -/
def NoneGranted (m : MemoryManager) (ops : List HostOp) : Prop :=
  ∀ before op after len, ops = before ++ op :: after → ¬op.Allocates (m.run before) len

theorem NoneGranted.tail {m : MemoryManager} {op : HostOp} {rest : List HostOp}
    (h : NoneGranted m (op :: rest)) : NoneGranted (op.apply m) rest :=
  fun before op' after len heq => h (op :: before) op' after len (by rw [heq]; rfl)

/-- Such a run returns no pointer and leaves the end of the memory where it was. -/
theorem NoneGranted.stays : ∀ (ops : List HostOp) {m : MemoryManager}, NoneGranted m ops →
    handles m ops = [] ∧ (m.run ops).memory.length = m.memory.length := by
  intro ops
  induction ops with
  | nil => intro m h; exact ⟨rfl, rfl⟩
  | cons op rest ih =>
      intro m h
      obtain ⟨hnil, hend⟩ := ih h.tail
      rcases op.handle_cases m with ⟨len, hop, -⟩ | ⟨-, hhandle, hlen⟩
      · exact absurd hop (h [] op rest len rfl)
      · rw [handles, hhandle, hnil, run_cons, hend]
        exact ⟨rfl, hlen⟩

/-! ### Fresh handles -/

/-- The manager knows nothing at `p`: not its length, and no byte through it. -/
structure Unknown (m : MemoryManager) (p : Nat) : Prop where
  length : m.getPointerLen p = -1
  readData : ∃ e, m.readData p = .error e
  readBytes : ∀ len, 0 < len → ∃ e, m.readBytes p len = .error e
  writeBytes : ∀ data, ∃ e, m.writeBytes p data = (.error e, m)
  writeBytesAt : ∀ offset data, ∃ e, m.writeBytesAt p offset data = (.error e, m)

/-- The allocations of a run return different pointers, and that of an empty one stays unknown. -/
structure Fresh (m : MemoryManager) (ops : List HostOp) : Prop where
  distinct : (handles m ops).Nodup
  unknown : ∀ before op mid after p, ops = before ++ op :: (mid ++ after) →
    op.Allocates (m.run before) 0 → op.handle (m.run before) = some p →
    Unknown (m.run (before ++ op :: mid)) p

/-- After an empty allocation the run is granted no other. -/
def EmptyLast (m : MemoryManager) (ops : List HostOp) : Prop :=
  ∀ before op after, ops = before ++ op :: after → op.Allocates (m.run before) 0 →
    NoneGranted (m.run (before ++ [op])) after

theorem EmptyLast.tail {m : MemoryManager} {op : HostOp} {rest : List HostOp}
    (h : EmptyLast m (op :: rest)) : EmptyLast (op.apply m) rest :=
  fun before op' after heq => h (op :: before) op' after (by rw [heq]; rfl)

theorem EmptyLast.distinct : ∀ (ops : List HostOp) {m : MemoryManager}, EmptyLast m ops →
    (handles m ops).Nodup := by
  intro ops
  induction ops with
  | nil => intro m h; exact List.nodup_nil
  | cons op rest ih =>
      intro m h
      rw [handles]
      rcases op.handle_cases m with ⟨len, hop, hhandle, hlen⟩ | ⟨-, hhandle, -⟩
      · rw [hhandle]
        refine List.nodup_cons.mpr ⟨?_, ih h.tail⟩
        rcases Nat.eq_zero_or_pos len with rfl | hpos
        · have hnone : NoneGranted (op.apply m) rest := h [] op rest rfl hop
          show m.memory.length ∉ handles (op.apply m) rest
          rw [(NoneGranted.stays rest hnone).1]
          exact List.not_mem_nil
        · intro hmem
          have hle := le_of_mem_handles rest hmem
          omega
      · rw [hhandle]
        exact ih h.tail

/-- Nothing is known at the end of a tiled memory. -/
theorem Tiled.unknown {m : MemoryManager} (h : m.Tiled) : Unknown m m.memory.length := by
  have hnone : m.map.lookup m.memory.length = none := AList.lookup_eq_none.mpr h.fresh
  have hrefused : ∀ offset n, ¬m.Admits m.memory.length offset n := by
    rintro offset n ⟨len, hlook, -⟩
    rw [hnone] at hlook
    simp at hlook
  refine ⟨?_, ⟨_, readData_untracked hnone⟩, ?_, ?_, ?_⟩
  · rw [getPointerLen, hnone]
  · intro len hpos
    unfold readBytes
    by_cases haddr : m.memory.length + len ≤ usizeMax
    · rw [checkedAdd_of_le haddr]
      exact ⟨_, if_pos (by omega)⟩
    · rw [checkedAdd, if_neg haddr]
      exact ⟨_, rfl⟩
  · intro data
    rcases m.writeBytes_cases m.memory.length data with ⟨hadm, -⟩ | ⟨-, hrefuse⟩
    · exact absurd hadm (hrefused _ _)
    · exact hrefuse
  · intro offset data
    rcases m.writeBytesAt_cases m.memory.length offset data with ⟨hadm, -⟩ | ⟨-, hrefuse⟩
    · exact absurd hadm (hrefused _ _)
    · exact hrefuse

/--
**The handles of a run are fresh exactly when no empty allocation is followed by another.**

From right to left the pointer of the empty allocation stays the end of the memory,
where nothing is tracked.  From left to right, the first allocation granted after
an empty one returns the same pointer.
-/
theorem run_fresh_iff (limits : WasmLimits) (ops : List HostOp) :
    Fresh (fromLimits limits) ops ↔ EmptyLast (fromLimits limits) ops := by
  constructor
  · intro h before op after heq hop mid op' after' len heq' hop'
    have hdistinct := h.distinct
    obtain ⟨hhandle, hlen⟩ := hop.handle
    rw [heq, handles_append, handles, hhandle] at hdistinct
    have hrest := ((List.nodup_append.mp hdistinct).2.1)
    have happly : (fromLimits limits).run (before ++ [op])
        = op.apply ((fromLimits limits).run before) := run_append _ before [op]
    rw [happly] at hop'
    cases hh : handles (op.apply ((fromLimits limits).run before)) after with
    | nil =>
        rw [heq', handles_append, handles, hop'.handle.1] at hh
        simp at hh
    | cons p rest =>
        have hp := handles_head after hh
        rw [hlen, Nat.add_zero] at hp
        rw [hh, ← hp] at hrest
        simp at hrest
  · intro h
    refine ⟨EmptyLast.distinct ops h, ?_⟩
    intro before op mid after p heq hop hhandle
    obtain ⟨hend, hlen⟩ := hop.handle
    have hnone : NoneGranted ((fromLimits limits).run (before ++ [op])) mid := by
      intro before' op' after' len heq'
      refine h before op (mid ++ after) heq hop before' op' (after' ++ after) len ?_
      rw [heq', List.append_assoc, List.cons_append]
    have hstays := (NoneGranted.stays mid hnone).2
    rw [← run_append, List.append_assoc, run_append _ before [op]] at hstays
    have htiled : ((fromLimits limits).run (before ++ op :: mid)).Tiled :=
      ((tiled_fromLimits limits).run (before ++ op :: mid)).1
    have hp : p = ((fromLimits limits).run (before ++ op :: mid)).memory.length := by
      rw [hend, Option.some.injEq] at hhandle
      rw [← hhandle]
      exact (hstays.trans (hlen.trans (Nat.add_zero _))).symm
    rw [hp]
    exact htiled.unknown

/-- **An empty allocation and one of a byte share a pointer, which then reads as the byte.** -/
theorem empty_handle_reused :
    ¬Fresh (fromLimits (WasmLimits.build 4096 2)) [.alloc 0, .alloc 1] ∧
      ((fromLimits (WasmLimits.build 4096 2)).run [.alloc 0, .alloc 1]).getPointerLen 0 = 1 := by
  refine ⟨fun h => ?_, by decide⟩
  have hdistinct := h.distinct
  revert hdistinct
  decide

end MemoryManager

end Ave
