/-
The flat memory is a heap of independent buffers.

`Lib/Buffers.lean` says what independent buffers are: a handle's buffer changes by
the writes made to that handle and by nothing else.  The manager implements them
in one vector and one table.  `heap` reads the buffers off a manager, `effect`
says which act on the buffers a call amounts to — a refused call and a read
amount to none — and `heap_apply` is the simulation: the buffers after the call
are the buffers before it after the act.

The tiling is what makes the simulation go through.  A write lands inside one
extent, so no other extent sees it, and an allocation starts at the end of the
memory, where no extent starts yet.
-/
import AveContract.Lib.Buffers
import AveContract.Proofs.Allocator

namespace Ave

open Slice Buffers

namespace MemoryManager

/-- The buffer each tracked pointer names. -/
def heap (m : MemoryManager) : Heap Nat UInt8 :=
  fun p => (m.map.lookup p).map fun n => slice m.memory p n

/-- The act on the buffers that a call amounts to, judged by what the call returned. -/
def HostOp.effect (m : MemoryManager) : HostOp → Act Nat UInt8
  | .alloc len =>
      match (m.alloc len).1 with
      | .ok p => if 0 < len then .alloc p (List.replicate len 0) else .skip
      | .error _ => .skip
  | .addDataRaw bytes =>
      match (m.addDataRaw bytes).1 with
      | .ok p => if 0 < bytes.length then .alloc p bytes else .skip
      | .error _ => .skip
  | .writeBytes ptr data =>
      match (m.writeBytes ptr data).1 with
      | .ok () => .write ptr 0 data
      | .error _ => .skip
  | .writeBytesAt ptr offset data =>
      match (m.writeBytesAt ptr offset data).1 with
      | .ok () => .write ptr offset data
      | .error _ => .skip
  | .readData _ => .skip
  | .readBytes _ _ => .skip
  | .getPointerLen _ => .skip

/-- The acts a run of calls amounts to. -/
def effects (m : MemoryManager) : List HostOp → List (Act Nat UInt8)
  | [] => []
  | op :: ops => op.effect m :: effects (op.apply m) ops

/-- A tracked pointer reads as its buffer. -/
theorem Tiled.readData_heap {m : MemoryManager} (h : m.Tiled) {p : Nat} {buf : Bytes}
    (hp : m.heap p = some buf) : m.readData p = .ok buf := by
  obtain ⟨n, hn, rfl⟩ := Option.map_eq_some_iff.mp hp
  exact h.readData hn

/-! ### The three moves of the memory, as acts on the buffers -/

/-- Growing the memory hands out one new buffer at its old end. -/
theorem Tiled.heap_grown {m : MemoryManager} (h : m.Tiled) {len : Nat} (hpos : 0 < len) :
    (m.grown len).heap = act m.heap (.alloc m.memory.length (List.replicate len 0)) := by
  funext p
  rw [act]
  by_cases hp : p = m.memory.length
  · subst hp
    rw [Function.update_self, heap, grown_map m hpos, AList.lookup_insert, Option.map_some,
      grown_memory]
    congr 1
    have hslice := slice_append_right m.memory (List.replicate len (0 : UInt8))
    rwa [List.length_replicate] at hslice
  · rw [Function.update_of_ne hp, heap, heap, grown_map m hpos, AList.lookup_insert_ne hp]
    cases hlook : m.map.lookup p with
    | none => rfl
    | some n =>
        rw [Option.map_some, Option.map_some, grown_memory,
          slice_append_left (h.lookup_bounds hlook).2]

/-- A write inside an extent is a write into its buffer, and into no other. -/
theorem Tiled.heap_written {m : MemoryManager} (h : m.Tiled) {ptr offset n : Nat} {data : Bytes}
    (hlook : m.map.lookup ptr = some n) (hin : offset + data.length ≤ n) :
    (m.written (ptr + offset) data).heap = act m.heap (.write ptr offset data) := by
  obtain ⟨-, hend⟩ := h.lookup_bounds hlook
  funext p
  rw [act]
  by_cases hp : p = ptr
  · subst hp
    rw [Function.update_self, heap, heap, written_map, written_memory, hlook, Option.map_some,
      Option.map_some, Option.map_some, slice_patch_inside hin hend]
  · rw [Function.update_of_ne hp, heap, heap, written_map, written_memory]
    cases hother : m.map.lookup p with
    | none => rfl
    | some n' =>
        have hdis : p + n' ≤ ptr ∨ ptr + n ≤ p := by
          refine h.stacked.disjoint ⟨p, n'⟩ (lookup_mem hother) ⟨ptr, n⟩ (lookup_mem hlook) ?_
          intro heq
          rw [Sigma.mk.injEq] at heq
          exact hp heq.1
        rw [Option.map_some, Option.map_some, slice_patch_disjoint (by omega) (by omega)]

/-- Filling the buffer just handed out is handing it out filled. -/
theorem act_alloc_write (hp : Heap Nat UInt8) (p : Nat) (bytes : Bytes) :
    act (act hp (.alloc p (List.replicate bytes.length 0))) (.write p 0 bytes) =
      act hp (.alloc p bytes) := by
  rw [act, act, act, Function.update_self, Function.update_idem, Option.map_some,
    patch_full (by simp)]

/-! ### The simulation -/

/-- **A call does to the buffers what its effect says.** -/
theorem Tiled.heap_apply {m : MemoryManager} (h : m.Tiled) (op : HostOp) :
    (op.apply m).heap = act m.heap (op.effect m) := by
  cases op with
  | alloc len =>
      by_cases hfits : m.Fits len
      · rw [HostOp.apply, HostOp.effect, alloc_fits hfits]
        by_cases hpos : 0 < len
        · simp only [if_pos hpos]
          exact h.heap_grown hpos
        · have hz : len = 0 := by omega
          subst hz
          simp [act, MemoryManager.grown]
      · obtain ⟨e, he⟩ := alloc_refused hfits
        rw [HostOp.apply, HostOp.effect, he]
        rfl
  | addDataRaw bytes =>
      by_cases hfits : m.Fits bytes.length
      · rw [HostOp.apply, HostOp.effect, addDataRaw_fits hfits]
        by_cases hpos : 0 < bytes.length
        · simp only [if_pos hpos]
          have hlook : (m.grown bytes.length).map.lookup m.memory.length = some bytes.length := by
            rw [grown_map m hpos, AList.lookup_insert]
          have hwrite := (h.grown hfits).heap_written hlook
            (show 0 + bytes.length ≤ bytes.length by omega)
          rw [Nat.add_zero] at hwrite
          rw [hwrite, h.heap_grown hpos, act_alloc_write]
        · have hz : bytes = [] := List.eq_nil_of_length_eq_zero (by omega)
          subst hz
          simp [act, MemoryManager.grown, MemoryManager.written]
      · obtain ⟨e, he⟩ := addDataRaw_refused hfits
        rw [HostOp.apply, HostOp.effect, he]
        rfl
  | writeBytes ptr data =>
      rcases m.writeBytes_cases ptr data with ⟨⟨n, hlook, hin, -, -⟩, hok⟩ | ⟨-, e, he⟩
      · rw [HostOp.apply, HostOp.effect, hok]
        exact h.heap_written hlook hin
      · rw [HostOp.apply, HostOp.effect, he]
        rfl
  | writeBytesAt ptr offset data =>
      rcases m.writeBytesAt_cases ptr offset data with ⟨⟨n, hlook, hin, -, -⟩, hok⟩ | ⟨-, e, he⟩
      · rw [HostOp.apply, HostOp.effect, hok]
        exact h.heap_written hlook hin
      · rw [HostOp.apply, HostOp.effect, he]
        rfl
  | readData ptr => rfl
  | readBytes ptr len => rfl
  | getPointerLen ptr => rfl

/-- **A run does to the buffers what its effects say.** -/
theorem Tiled.heap_run : ∀ (ops : List HostOp) {m : MemoryManager}, m.Tiled →
    (m.run ops).heap = Buffers.run m.heap (m.effects ops) := by
  intro ops
  induction ops with
  | nil => intro m _; rfl
  | cons op rest ih =>
      intro m h
      rw [MemoryManager.run_cons, ih (h.apply op).1, effects, Buffers.run_cons, h.heap_apply op]

/-- A call hands out only the end of the memory, so never a pointer already tracked. -/
theorem Tiled.effect_spares {m : MemoryManager} (h : m.Tiled) (op : HostOp) {p : Nat}
    (hp : p ∈ m.map) : (op.effect m).Spares p := by
  have hne : m.memory.length ≠ p := fun heq => h.fresh (heq ▸ hp)
  cases op with
  | alloc len =>
      by_cases hfits : m.Fits len
      · rw [HostOp.effect, alloc_fits hfits]
        by_cases hpos : 0 < len
        · simp only [if_pos hpos]
          exact hne
        · simp only [if_neg hpos]
          trivial
      · obtain ⟨e, he⟩ := alloc_refused hfits
        rw [HostOp.effect, he]
        trivial
  | addDataRaw bytes =>
      by_cases hfits : m.Fits bytes.length
      · rw [HostOp.effect, addDataRaw_fits hfits]
        by_cases hpos : 0 < bytes.length
        · simp only [if_pos hpos]
          exact hne
        · simp only [if_neg hpos]
          trivial
      · obtain ⟨e, he⟩ := addDataRaw_refused hfits
        rw [HostOp.effect, he]
        trivial
  | writeBytes ptr data =>
      rcases m.writeBytes_cases ptr data with ⟨-, hok⟩ | ⟨-, e, he⟩
      · rw [HostOp.effect, hok]
        trivial
      · rw [HostOp.effect, he]
        trivial
  | writeBytesAt ptr offset data =>
      rcases m.writeBytesAt_cases ptr offset data with ⟨-, hok⟩ | ⟨-, e, he⟩
      · rw [HostOp.effect, hok]
        trivial
      · rw [HostOp.effect, he]
        trivial
  | readData ptr => trivial
  | readBytes ptr len => trivial
  | getPointerLen ptr => trivial

/-- A tracked pointer stays tracked, with its length. -/
theorem Tiled.lookup_apply {m : MemoryManager} (h : m.Tiled) (op : HostOp) {p n : Nat}
    (hp : m.map.lookup p = some n) : (op.apply m).map.lookup p = some n := by
  have hne : p ≠ m.memory.length := fun heq =>
    h.fresh (AList.lookup_isSome.mp (by rw [← heq, hp]; rfl))
  have hgrown : ∀ len, (m.grown len).map.lookup p = some n := by
    intro len
    by_cases hpos : 0 < len
    · rw [grown_map m hpos, AList.lookup_insert_ne hne, hp]
    · have hz : len = 0 := by omega
      subst hz
      simpa [MemoryManager.grown] using hp
  rcases op.apply_cases m with ⟨len, -, heq⟩ | ⟨bytes, -, heq⟩ | ⟨ptr, offset, data, -, heq⟩ | heq
  · rw [heq]
    exact hgrown len
  · rw [heq, written_map]
    exact hgrown bytes.length
  · rw [heq, written_map]
    exact hp
  · rw [heq]
    exact hp

theorem Tiled.lookup_run : ∀ (ops : List HostOp) {m : MemoryManager}, m.Tiled →
    ∀ {p n : Nat}, m.map.lookup p = some n →
      (m.run ops).map.lookup p = some n ∧ ∀ a ∈ m.effects ops, a.Spares p := by
  intro ops
  induction ops with
  | nil => intro m _ p n hp; exact ⟨hp, by simp [effects]⟩
  | cons op rest ih =>
      intro m h p n hp
      obtain ⟨hlook, hsp⟩ := ih (h.apply op).1 (h.lookup_apply op hp)
      refine ⟨hlook, ?_⟩
      intro a ha
      rw [effects] at ha
      rcases List.mem_cons.mp ha with rfl | hold
      · exact h.effect_spares op (AList.lookup_isSome.mp (by rw [hp]; rfl))
      · exact hsp a hold

/-- A fresh allocation filled with `bytes` reads as them. -/
theorem Tiled.readData_filled {m : MemoryManager} (h : m.Tiled) {bytes : Bytes}
    (hfits : m.Fits bytes.length) (hpos : 0 < bytes.length) :
    ((m.grown bytes.length).written m.memory.length bytes).readData m.memory.length = .ok bytes := by
  have hin : m.memory.length + bytes.length ≤ (m.grown bytes.length).memory.length := by simp
  have hlook : ((m.grown bytes.length).written m.memory.length bytes).map.lookup m.memory.length
      = some bytes.length := by
    rw [written_map, grown_map m hpos, AList.lookup_insert]
  rw [((h.grown hfits).written hin).readData hlook, written_memory, slice_patch_self hin]

/-- Another allocation leaves a readable pointer as it was. -/
theorem Tiled.readData_grown {m : MemoryManager} (h : m.Tiled) {len p : Nat} {bytes : Bytes}
    (hfits : m.Fits len) (hread : m.readData p = .ok bytes) : (m.grown len).readData p = .ok bytes := by
  rcases Nat.eq_zero_or_pos len with hz | hpos
  · subst hz
    have hsame : m.grown 0 = m := by simp [MemoryManager.grown]
    rw [hsame, hread]
  · cases hlook : m.map.lookup p with
    | none =>
        rw [readData_untracked hlook] at hread
        simp at hread
    | some n =>
        have hne : p ≠ m.memory.length := fun heq =>
          h.fresh (AList.lookup_isSome.mp (by rw [← heq, hlook]; rfl))
        have hlook' : (m.grown len).map.lookup p = some n := by
          rw [grown_map m hpos, AList.lookup_insert_ne hne, hlook]
        rw [(h.grown hfits).readData hlook', grown_memory,
          slice_append_left (h.lookup_bounds hlook).2, ← h.readData hlook, hread]

/-- Everything the manager answers about `p` is that it names the `n`-byte buffer `buf`. -/
structure Names (m : MemoryManager) (p n : Nat) (buf : Bytes) : Prop where
  length : buf.length = n
  /-- The stored length, cast to `isize`; no vector is long enough for the cast to matter. -/
  pointerLen : m.getPointerLen p = usizeAsIsize n ∧ (n < 2 ^ 63 → m.getPointerLen p = n)
  readData : m.readData p = .ok buf
  readBytes : m.readBytes p n = .ok buf

/-- Once a pointer names a buffer, the writes to it are all that ever happens to the buffer. -/
theorem Tiled.names_run {m : MemoryManager} (h : m.Tiled) {p n : Nat} {buf : Bytes}
    (hlook : m.map.lookup p = some n) (hbuf : m.heap p = some buf) (ops : List HostOp) :
    (m.run ops).Names p n (overlay buf (writesTo p (m.effects ops))) := by
  obtain ⟨hlook', hsp⟩ := h.lookup_run ops hlook
  have hrun : (m.run ops).Tiled := (h.run ops).1
  have hheap : (m.run ops).heap p = some (overlay buf (writesTo p (m.effects ops))) := by
    rw [h.heap_run ops]
    exact run_handle _ hbuf hsp
  obtain ⟨-, hin⟩ := hrun.lookup_bounds hlook'
  have hslice : slice (m.run ops).memory p n = overlay buf (writesTo p (m.effects ops)) := by
    rw [heap, hlook', Option.map_some, Option.some.injEq] at hheap
    exact hheap
  refine ⟨?_, ⟨getPointerLen_tracked hlook', ?_⟩, hrun.readData_heap hheap, ?_⟩
  · rw [← hslice, length_slice_of_le hin]
  · intro hn
    rw [getPointerLen_tracked hlook', usizeAsIsize_of_lt hn]
  · rw [readBytes_of_le (Nat.le_trans hin hrun.addressable) hin, hslice]

/--
**Every allocation is a buffer of its own.**

From an empty manager, after any calls, an allocation that is granted `n > 0`
bytes at `p`; then any calls again.  The pointer still names `n` bytes, and they
are the zeros (or the bytes given to `add_data_raw`) overlaid, in order, with the
writes to `p` that were granted since.
-/
theorem allocation_independent {m₀ : MemoryManager} (hmem : m₀.memory = []) (hmap : m₀.map = ∅)
    (before after : List HostOp) :
    (∀ n p, 0 < n → ((m₀.run before).alloc n).1 = .ok p →
      (m₀.run (before ++ .alloc n :: after)).Names p n
        (overlay (List.replicate n 0)
          (writesTo p ((m₀.run (before ++ [.alloc n])).effects after)))) ∧
    (∀ bytes p, bytes ≠ [] → ((m₀.run before).addDataRaw bytes).1 = .ok p →
      (m₀.run (before ++ .addDataRaw bytes :: after)).Names p bytes.length
        (overlay bytes
          (writesTo p ((m₀.run (before ++ [.addDataRaw bytes])).effects after)))) := by
  have htiled : (m₀.run before).Tiled := ((Tiled.empty hmem hmap).run before).1
  set m := m₀.run before with hm
  -- In both cases the allocation itself puts the first contents into the heap at `p`.
  have hstep : ∀ (op : HostOp) (p : Nat) (init : Bytes), 0 < init.length →
      op.effect m = .alloc p init → (op.apply m).map.lookup p = some init.length →
      (m₀.run (before ++ op :: after)).Names p init.length
        (overlay init (writesTo p ((m₀.run (before ++ [op])).effects after))) := by
    intro op p init hpos heff hlook
    have hheap : (op.apply m).heap p = some init := by
      rw [htiled.heap_apply op, heff, act, Function.update_self]
    rw [run_append, run_append, MemoryManager.run_cons, MemoryManager.run_cons,
      MemoryManager.run_nil]
    exact (htiled.apply op).1.names_run hlook hheap after
  constructor
  · intro n p hpos hok
    have hfits : m.Fits n := (alloc_ok (Prod.ext hok rfl : m.alloc n = (.ok p, (m.alloc n).2))).1
    have hp : p = m.memory.length :=
      (alloc_ok (Prod.ext hok rfl : m.alloc n = (.ok p, (m.alloc n).2))).2.1
    have hlen : (List.replicate n (0 : UInt8)).length = n := List.length_replicate
    have h := hstep (.alloc n) p (List.replicate n 0) (by omega)
      (by rw [HostOp.effect, hok]; simp only [if_pos hpos])
      (by rw [HostOp.apply, alloc_fits hfits, hp, hlen]; simp only
          rw [grown_map m hpos, AList.lookup_insert])
    rwa [hlen] at h
  · intro bytes p hne hok
    have hpos : 0 < bytes.length := List.length_pos_iff.mpr hne
    by_cases hfits : m.Fits bytes.length
    · have hp : p = m.memory.length := by
        rw [addDataRaw_fits hfits] at hok
        simpa using hok.symm
      refine hstep (.addDataRaw bytes) p bytes hpos ?_ ?_
      · rw [HostOp.effect, hok]
        simp only [if_pos hpos]
      · rw [HostOp.apply, addDataRaw_fits hfits, hp]
        simp only [written_map]
        rw [grown_map m hpos, AList.lookup_insert]
    · obtain ⟨e, he⟩ := addDataRaw_refused hfits
      rw [he] at hok
      simp at hok

/-- Four bytes between two writes to other buffers: only the write to them shows. -/
theorem allocation_independent_second :
    ((fromLimits (WasmLimits.build 4096 2)).run
      ([.alloc 2] ++ .alloc 4 ::
        [.writeBytesAt 2 1 [7], .writeBytes 0 [9, 9], .writeBytes 2 [1, 1, 1, 1, 1]])).Names 2 4
      [0, 7, 0, 0] :=
  (allocation_independent (show (fromLimits (WasmLimits.build 4096 2)).memory = [] from rfl) rfl
    [.alloc 2] [.writeBytesAt 2 1 [7], .writeBytes 0 [9, 9], .writeBytes 2 [1, 1, 1, 1, 1]]).1 4 2
    (by decide) rfl

end MemoryManager

end Ave
