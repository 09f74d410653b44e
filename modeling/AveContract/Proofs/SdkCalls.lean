/-
What the SDK's pieces give back, run against the real host.

Every lemma here has one shape.  The host holds a manager and the guest's memory is
within its limit (`Ready`); a piece of the SDK ran from there and returned; then
the host is ready again, and this is what was returned.  The work the compiler
adds disappears at the bottom, in `doWork_returns`: it never reaches the host.

The round trip of one input goes through every cast there is.  The length comes
out of the host as `isize`, crosses as `u32`, is read as `i32` and checked; the
pointer and the buffer's address are sign extended on the other side.  All of
them are small, because the limits of a machine are, and that is the one fact the
casts need.
-/
import AveContract.Proofs.Buffers
import AveContract.Proofs.Capped
import AveContract.Sdk.Guest
import AveContract.Sdk.Reference

namespace Ave

open Slice Borsh Metered

/-! ### The guest's memory stays within its limit -/

/-- The store is under the caps of `limits`, and its linear memory within them. -/
structure Bounded (limits : WasmLimits) (s : Store) : Prop where
  caps : HasCaps limits s.data
  size : s.memory.length ≤ limits.memorySize

/-- No request takes the guest's memory over its limit. -/
theorem Bounded.exec {limits : WasmLimits} {s : Store} (h : Bounded limits s) (op : Instr) :
    Bounded limits (Ave.exec op s).2 := by
  rcases hex : Ave.exec op s with ⟨_ | a, t⟩
  · rw [exec_refused hex]
    exact h
  · refine ⟨exec_caps h.caps hex, ?_⟩
    have hlimit := (exec_kept hex).limit
    rw [h.caps.storeLimits] at hlimit
    exact Nat.le_trans hlimit (Nat.max_le.mpr ⟨h.size, Nat.le_refl _⟩)

namespace Sdk

/-- The guest's piece `p` ran from `s` to `t` and returned `a`. -/
def Returns {α : Type} (p : Guest α) (s : Store) (a : α) (t : Store) : Prop :=
  Prog.eval WasmError.trap exec p s = (.ok a, t)

/-- The host holds `m`, and the guest's memory is within its limit. -/
structure Ready (limits : WasmLimits) (m : MemoryManager) (s : Store) : Prop where
  data : s.data = m
  bounded : Bounded limits s

section Pieces

variable {α β : Type} {limits : WasmLimits} {m : MemoryManager} {s t : Store}

/-- What every request keeps holds after a piece that returned. -/
theorem Returns.keeps {Inv : Store → Prop} (hkeep : ∀ op s, Inv s → Inv (exec op s).2)
    {p : Guest α} {a : α} (h : Returns p s a t) (hs : Inv s) : Inv t := by
  have heval : Inv (Prog.eval WasmError.trap exec p s).2 := Prog.eval_keeps hkeep p s hs
  rw [show Prog.eval WasmError.trap exec p s = (.ok a, t) from h] at heval
  exact heval

theorem Returns.bounded {p : Guest α} {a : α} (h : Returns p s a t) (hs : Bounded limits s) :
    Bounded limits t :=
  h.keeps (fun op _ hs => hs.exec op) hs

theorem Returns.bind {p : Guest α} {f : α → Guest β} {b : β} (h : Returns (p >>= f) s b t) :
    ∃ a s', Returns p s a s' ∧ Returns (f a) s' b t :=
  Prog.eval_bind_ok h

theorem Returns.pure {a b : α} (h : Returns (pure a) s b t) : b = a ∧ t = s := by
  obtain ⟨ha, hs⟩ := Prod.mk.inj h
  exact ⟨(Except.ok.inj ha).symm, hs.symm⟩

theorem Returns.request {op : Instr} {a : op.Answer} (h : Returns (Prog.request op) s a t) :
    exec op s = (.ok a, t) := by
  have heval : Prog.eval WasmError.trap exec (Prog.request op) s = (.ok a, t) := h
  rwa [Prog.eval_request] at heval

/-- What the guest does on its own leaves the host alone. -/
theorem local_data {w : Local} {a : w.instr.Answer} (h : exec w.instr s = (.ok a, t)) :
    t.data = s.data := by
  cases w with
  | compute =>
      obtain rfl := (Prod.mk.inj h).2
      rfl
  | load addr len => rw [(exec_load_ok h).2]
  | store addr bytes => rw [(exec_store_ok h).2]
  | memoryGrow delta =>
      rcases exec_memoryGrow_ok h with ⟨-, rfl⟩ | rfl
      · rfl
      · rfl

theorem doWork_data : ∀ (work : List Local) {s : Store} {u : Unit},
    Returns (doWork work) s u t → t.data = s.data := by
  intro work
  induction work with
  | nil =>
      intro s u h
      rw [(Returns.pure h).2]
  | cons w rest ih =>
      intro s u h
      obtain ⟨a, s', hw, hrest⟩ := Returns.bind (p := Prog.request w.instr) h
      rw [ih hrest, local_data hw.request]

theorem doWork_returns {work : List Local} {u : Unit} (hs : Ready limits m s)
    (h : Returns (doWork work) s u t) : Ready limits m t :=
  ⟨by rw [doWork_data work h, hs.data], h.bounded hs.bounded⟩

end Pieces

/-! ### Reading an input -/

/-- The manager holds the framed payload `b` at `p`. -/
structure HoldsInput (m : MemoryManager) (p : Nat) (b : Bytes) : Prop where
  tracked : m.map.lookup p = some (4 + b.length)
  bytes : slice m.memory p (4 + b.length) = le32 b.length ++ b
  inside : p + (4 + b.length) ≤ m.memory.length

/-- Everything is far below `i32::MAX`: the host's memory, and the guest's. -/
structure Small (limits : WasmLimits) (m : MemoryManager) : Prop where
  host : m.memory.length ≤ i32Max
  guest : limits.memorySize ≤ i32Max

/-- A freshly staged payload is held where the memory ended. -/
theorem holdsInput_staged {m : MemoryManager} (payload : Bytes) :
    HoldsInput (m.staged payload) m.memory.length payload := by
  refine ⟨AList.lookup_insert _, ?_, ?_⟩
  · have hslice := slice_append_right m.memory (le32 payload.length ++ payload)
    rw [List.length_append, length_le32] at hslice
    exact hslice
  · rw [MemoryManager.length_staged]

/-- Staging another payload leaves it where it is. -/
theorem HoldsInput.staged {m : MemoryManager} {p : Nat} {b : Bytes} (h : HoldsInput m p b)
    (payload : Bytes) : HoldsInput (m.staged payload) p b := by
  have hinside := h.inside
  refine ⟨?_, ?_, ?_⟩
  · have hne : p ≠ m.memory.length := by omega
    show (m.map.insert m.memory.length (4 + payload.length)).lookup p = _
    rw [AList.lookup_insert_ne hne, h.tracked]
  · show slice (m.memory ++ (le32 payload.length ++ payload)) p (4 + b.length) = _
    rw [slice_append_left hinside, h.bytes]
  · rw [MemoryManager.length_staged]
    omega

/-- A length within the SDK's own cap passes its check. -/
theorem validateHostLen_ok {n : Nat} (h : n ≤ 10000000) :
    validateHostLen (usizeAsU32 n) = .ok n := by
  have hint : (usizeAsU32 n).toInt = n := toInt_usizeAsU32 (by unfold i32Max; omega)
  have hnat : (usizeAsU32 n).toNat = n := usizeAsU32_toNat (by unfold u32Max; omega)
  unfold validateHostLen maxDataSize
  rw [hint, if_neg (by omega), if_neg (by omega), hnat]

section Reading

variable {limits : WasmLimits} {m : MemoryManager} {s t : Store} {build : Build} {site : Site}
  {p : Nat} {b : Bytes}

/-- The host's answer about a staged input is its framed length. -/
theorem pointerLen_staged (hs : Ready limits m s) (hsmall : Small limits m)
    (hin : HoldsInput m p b) :
    Env.pointerLen s.toCaller (usizeAsU32 p) = usizeAsU32 (4 + b.length) := by
  obtain ⟨hhost, -⟩ := hsmall
  have hinside := hin.inside
  have hlt : 4 + b.length < 2 ^ 63 := by
    unfold i32Max at hhost
    omega
  unfold Env.pointerLen
  rw [i32AsUsize_usizeAsU32 (by omega), hs.data, MemoryManager.getPointerLen_tracked hin.tracked,
    usizeAsIsize_of_lt hlt, isizeAsU32_natCast]

/-- A word that addresses the guest's memory is the same number on the host. -/
theorem i32AsUsize_addr {w : Word} {n : Nat} (hs : Ready limits m s) (hsmall : Small limits m)
    (hn : 0 < n) (h : w.toNat + n ≤ s.memory.length) : i32AsUsize w = w.toNat := by
  have hsize := hs.bounded.size
  have hguest := hsmall.guest
  exact i32AsUsize_of_lt (by omega)

/-- **An input that was staged is read back whole.** -/
theorem getFromContext_returns {r : Except Error Bytes} (hs : Ready limits m s)
    (hsmall : Small limits m) (hin : HoldsInput m p b) (hlen : 4 + b.length ≤ 10000000)
    (h : Returns (getFromContext build site (usizeAsU32 p)) s r t) :
    r = .ok (le32 b.length ++ b) ∧ Ready limits m t := by
  have hwhole := h
  unfold getFromContext at h
  obtain ⟨hostLen, s₁, hreq, h⟩ := Returns.bind h
  obtain ⟨hhostLen, rfl⟩ := Prod.mk.inj hreq.request
  obtain rfl : Env.pointerLen s.toCaller (usizeAsU32 p) = hostLen := Except.ok.inj hhostLen
  rw [pointerLen_staged hs hsmall hin, validateHostLen_ok hlen] at h
  simp only at h
  obtain ⟨u₂, s₂, hwork, h⟩ := Returns.bind h
  obtain ⟨u₃, s₃, hzero, h⟩ := Returns.bind h
  obtain ⟨u₄, s₄, hread, h⟩ := Returns.bind h
  obtain ⟨data, s₅, hload, h⟩ := Returns.bind h
  obtain ⟨rfl, rfl⟩ := Returns.pure h
  have hs₂ : Ready limits m s₂ := doWork_returns hs hwork
  obtain ⟨hfits, hs₃eq⟩ := exec_store_ok hzero.request
  rw [List.length_replicate] at hfits
  have hs₃ : Ready limits m s₃ := by
    refine ⟨?_, hzero.bounded hs₂.bounded⟩
    rw [hs₃eq]
    exact hs₂.data
  have haddr : i32AsUsize (build.buffer site) = (build.buffer site).toNat :=
    i32AsUsize_addr hs₂ hsmall (by omega) hfits
  have hptr : i32AsUsize (usizeAsU32 p) = p := by
    have hinside := hin.inside
    have hhost := hsmall.host
    exact i32AsUsize_usizeAsU32 (by omega)
  have hn : i32AsUsize (usizeAsU32 (4 + b.length)) = 4 + b.length :=
    i32AsUsize_usizeAsU32 (by unfold i32Max; omega)
  rcases Env.readBytes_cases s₃.toCaller (usizeAsU32 p) (build.buffer site)
      (usizeAsU32 (4 + b.length)) with ⟨⟨-, -, -, hsrc, -, hdst⟩, hok⟩ | ⟨-, e, -, he⟩
  · have hexec := hread.request
    rw [exec, hok] at hexec
    obtain rfl := (Prod.mk.inj hexec).2
    obtain ⟨hdata, rfl⟩ := exec_load_ok hload.request
    have hframe : (slice s₃.data.memory p (4 + b.length)).length = 4 + b.length := by
      rw [hs₃.data, length_slice_of_le hin.inside]
    refine ⟨?_, ⟨hs₃.data, hwhole.bounded hs.bounded⟩⟩
    rw [hdata]
    show Except.ok (slice (patch s₃.memory (i32AsUsize (build.buffer site))
      (slice s₃.data.memory (i32AsUsize (usizeAsU32 p))
        (i32AsUsize (usizeAsU32 (4 + b.length))))) (build.buffer site).toNat (4 + b.length)) = _
    rw [hn, haddr] at hdst
    rw [hn, hptr, haddr]
    have hself := slice_patch_self (l := s₃.memory) (d := slice s₃.data.memory p (4 + b.length))
      (i := (build.buffer site).toNat) (by rw [hframe]; exact hdst)
    rw [hframe] at hself
    rw [hself, hs₃.data, hin.bytes]
  · have hexec := hread.request
    rw [exec, he] at hexec
    simp at hexec

/-- The frame of a payload deserializes to it. -/
theorem deserialize_frame (hlen : b.length ≤ u32Max) :
    deserialize build (le32 b.length ++ b) = .ok ⟨b⟩ := by
  have henc : ContractData.codec.encode ⟨b⟩ = .ok (le32 b.length ++ b) :=
    Codec.blob_encode (show b.length < 2 ^ 32 by unfold u32Max at hlen; omega)
  unfold deserialize
  rw [ContractData.codec.tryFromSlice_encode henc]

/-- **An input that was staged is parsed as its JSON text.** -/
theorem readAndParse_returns {T : Type} {fromSlice : Bytes → Except String T} {name : String}
    {r : Except String T} (hs : Ready limits m s) (hsmall : Small limits m)
    (hin : HoldsInput m p b) (hlen : 4 + b.length ≤ 10000000)
    (h : Returns (readAndParse build site fromSlice (usizeAsU32 p) name) s r t) :
    r = parseInput fromSlice name b ∧ Ready limits m t := by
  unfold readAndParse at h
  obtain ⟨bytes, s₁, hget, h⟩ := Returns.bind h
  obtain ⟨rfl, hs₁⟩ := getFromContext_returns hs hsmall hin hlen hget
  obtain ⟨rfl, rfl⟩ := Returns.pure h
  refine ⟨?_, hs₁⟩
  have hframe : deserialize build (le32 b.length ++ b) = .ok ⟨b⟩ :=
    deserialize_frame (by unfold u32Max; omega)
  simp only [parseRead, hframe]
  rfl

end Reading

/-! ### Writing a result -/

section Writing

variable {α : Type} {limits : WasmLimits} {m : MemoryManager} {s t : Store} {build : Build}
  {site : Site} {codec : Codec α} {data : α} {bytes : Bytes}

theorem validateSerializedLen_ok (h : bytes.length ≤ i32Max) :
    validateSerializedLen bytes = .ok (usizeAsU32 bytes.length) := by
  unfold validateSerializedLen
  rw [if_neg (by omega)]

/-- A store that returned had room for the bytes in the guest's memory, and went on to allocate. -/
theorem store_begins {r : Except Error Word} (hs : Ready limits m s) (hsmall : Small limits m)
    (henc : codec.encode data = .ok bytes) (h : Returns (store build site codec data) s r t) :
    ∃ s', Ready limits m s' ∧ bytes.length ≤ i32Max ∧
      (build.buffer site).toNat + bytes.length ≤ s'.memory.length ∧
      slice s'.memory (build.buffer site).toNat bytes.length = bytes ∧
      Returns (do
        let rawPtr ← Prog.request (.alloc (usizeAsU32 bytes.length))
        if rawPtr = 0 then Pure.pure (.error (.hostAllocationFailed bytes.length))
        else
          let _ ← Prog.request (.writeBytes rawPtr (build.buffer site) (usizeAsU32 bytes.length))
          Pure.pure (.ok rawPtr) : Guest (Except Error Word)) s' r t := by
  unfold store serialize at h
  rw [henc] at h
  simp only at h
  obtain ⟨u₁, s₁, hwork, h⟩ := Returns.bind h
  obtain ⟨u₂, s₂, hstore, h⟩ := Returns.bind h
  have hs₁ : Ready limits m s₁ := doWork_returns hs hwork
  obtain ⟨hfits, hs₂⟩ := exec_store_ok hstore.request
  have hready : Ready limits m s₂ := by
    refine ⟨?_, hstore.bounded hs₁.bounded⟩
    rw [hs₂]
    exact hs₁.data
  have hlen : bytes.length ≤ i32Max := by
    have hsize := hs₁.bounded.size
    have hguest := hsmall.guest
    omega
  rw [validateSerializedLen_ok hlen] at h
  refine ⟨s₂, hready, hlen, ?_, ?_, h⟩
  · rw [hs₂]
    show _ ≤ (patch s₁.memory (build.buffer site).toNat bytes).length
    rw [length_patch hfits]
    exact hfits
  · rw [hs₂]
    exact slice_patch_self hfits

/-- **A result that was stored is at the end of the host's memory, and within the caps.** -/
theorem store_returns {r : Except Error Word} (hs : Ready limits m s) (hsmall : Small limits m)
    (hpos : 0 < m.memory.length) (henc : codec.encode data = .ok bytes) (hne : 0 < bytes.length)
    (h : Returns (store build site codec data) s r t) :
    r = .ok (usizeAsU32 m.memory.length) ∧ m.Fits bytes.length ∧
      t.data = (m.grown bytes.length).written m.memory.length bytes := by
  obtain ⟨s₁, hs₁, hlen, hroom, hbuf, h⟩ := store_begins hs hsmall henc h
  obtain ⟨rawPtr, s₂, halloc, h⟩ := Returns.bind h
  have hnat : (usizeAsU32 bytes.length).toNat = bytes.length :=
    usizeAsU32_toNat_of_i32 hlen
  have hhost := hsmall.host
  -- The pointer is past the staged inputs, so it cannot be mistaken for a null one.
  have hptr : i32AsUsize (usizeAsU32 m.memory.length) = m.memory.length :=
    i32AsUsize_usizeAsU32 hhost
  have hnull : usizeAsU32 m.memory.length ≠ 0 := by
    intro hz
    rw [hz, show i32AsUsize 0 = 0 from rfl] at hptr
    omega
  have hexec := halloc.request
  rcases Env.alloc_cases s₁.toCaller (usizeAsU32 bytes.length) with ⟨hfits, hok⟩ | ⟨-, e, -, he⟩
  · rw [hnat, hs₁.data] at hfits
    rw [exec, hok, hnat, hs₁.data] at hexec
    obtain ⟨hraw, rfl⟩ := Prod.mk.inj hexec
    obtain rfl := Except.ok.inj hraw
    rw [if_neg hnull] at h
    obtain ⟨u, s₃, hwrite, h⟩ := Returns.bind h
    obtain ⟨rfl, rfl⟩ := Returns.pure h
    have haddr : i32AsUsize (build.buffer site) = (build.buffer site).toNat :=
      i32AsUsize_addr hs₁ hsmall hne hroom
    have hn : i32AsUsize (usizeAsU32 bytes.length) = bytes.length := i32AsUsize_usizeAsU32 hlen
    refine ⟨rfl, hfits, ?_⟩
    rcases Env.writeBytes_cases { s₁.toCaller with data := m.grown bytes.length }
        (usizeAsU32 m.memory.length) (build.buffer site) (usizeAsU32 bytes.length) with
      ⟨-, hok₂⟩ | ⟨-, e, -, he⟩
    · have hexec₂ := hwrite.request
      rw [exec, hok₂] at hexec₂
      obtain rfl := (Prod.mk.inj hexec₂).2
      show (m.grown bytes.length).written (i32AsUsize (usizeAsU32 m.memory.length))
        (slice s₁.memory (i32AsUsize (build.buffer site))
          (i32AsUsize (usizeAsU32 bytes.length))) = _
      rw [hptr, haddr, hn, hbuf]
    · have hexec₂ := hwrite.request
      rw [exec, he] at hexec₂
      simp at hexec₂
  · rw [exec, he] at hexec
    simp at hexec

end Writing

end Sdk

end Ave
