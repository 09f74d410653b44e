/-
A heap of independent buffers.

What an allocator's client wants to believe: every handle it was given names a
buffer of its own, and the only thing that changes the buffer is a write made to
that handle.  Here that is the definition.  `Heap` maps handles to buffers, an
`Act` allocates one or writes into one, and an act on a handle nobody holds does
nothing.

What a client may conclude is `run_handle`: once a handle holds a buffer, after
any acts that do not allocate it again it holds the buffer overlaid, in order,
with the writes made to that handle and with nothing else.
-/
import AveContract.Lib.Slice

namespace Buffers

open Slice

variable {H α : Type*} [DecidableEq H]

/-- What each handle holds. -/
abbrev Heap (H α : Type*) := H → Option (List α)

/-- One act of a client: a buffer handed out, a write into one, or no effect. -/
inductive Act (H α : Type*) where
  | alloc (h : H) (init : List α)
  | write (h : H) (offset : ℕ) (data : List α)
  | skip

/-- What an act does to the heap. -/
def act (heap : Heap H α) : Act H α → Heap H α
  | .alloc h init => Function.update heap h (some init)
  | .write h offset data => Function.update heap h ((heap h).map (patch · offset data))
  | .skip => heap

/-- The acts one after another. -/
def run (heap : Heap H α) (acts : List (Act H α)) : Heap H α := acts.foldl act heap

/-- The writes made to `h`, in order, each with its offset. -/
def writesTo (h : H) : List (Act H α) → List (ℕ × List α)
  | [] => []
  | .write h' offset data :: rest =>
      if h' = h then (offset, data) :: writesTo h rest else writesTo h rest
  | .alloc _ _ :: rest => writesTo h rest
  | .skip :: rest => writesTo h rest

/-- A buffer with the writes laid over it, in order. -/
def overlay (buf : List α) (writes : List (ℕ × List α)) : List α :=
  writes.foldl (fun b w => patch b w.1 w.2) buf

/-- The act does not hand out `h`. -/
def Act.Spares (h : H) : Act H α → Prop
  | .alloc h' _ => h' ≠ h
  | .write _ _ _ => True
  | .skip => True

@[simp] theorem run_nil (heap : Heap H α) : run heap [] = heap := rfl

@[simp] theorem run_cons (heap : Heap H α) (a : Act H α) (acts : List (Act H α)) :
    run heap (a :: acts) = run (act heap a) acts := rfl

@[simp] theorem overlay_cons (buf : List α) (w : ℕ × List α) (ws : List (ℕ × List α)) :
    overlay buf (w :: ws) = overlay (patch buf w.1 w.2) ws := rfl

/-- **A handle's buffer changes by the writes made to it, and by nothing else.** -/
theorem run_handle {h : H} : ∀ (acts : List (Act H α)) {heap : Heap H α} {buf : List α},
    heap h = some buf → (∀ a ∈ acts, a.Spares h) →
    run heap acts h = some (overlay buf (writesTo h acts)) := by
  intro acts
  induction acts with
  | nil => intro heap buf hbuf _; exact hbuf
  | cons a rest ih =>
      intro heap buf hbuf hsp
      have hrest : ∀ a ∈ rest, a.Spares h := fun b hb => hsp b (List.mem_cons_of_mem _ hb)
      rw [run_cons]
      cases a with
      | alloc h' init =>
          have hne : h' ≠ h := hsp _ List.mem_cons_self
          refine ih (?_ : act heap (.alloc h' init) h = some buf) hrest
          rw [act, Function.update_of_ne hne.symm, hbuf]
      | write h' offset data =>
          by_cases heq : h' = h
          · subst heq
            rw [writesTo, if_pos rfl, overlay_cons]
            refine ih ?_ hrest
            rw [act, Function.update_self, hbuf, Option.map_some]
          · rw [writesTo, if_neg heq]
            refine ih ?_ hrest
            rw [act, Function.update_of_ne (Ne.symm heq), hbuf]
      | skip => exact ih hbuf hrest

end Buffers
