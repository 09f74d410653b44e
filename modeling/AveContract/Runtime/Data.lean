/-
The records that cross the boundary, and how they are laid out.

A value travels as its JSON text inside a `ContractData`, and every record as
Borsh.  JSON itself is a pair of functions, for each type that has one: nothing
below depends on how a text is parsed, only on which text it is.
-/
import AveContract.Lib.Borsh
import AveContract.Runtime.Error

namespace Ave

open Borsh

/-- serde_json on one type: `to_vec` and `from_slice`, each with its error text. -/
structure Serde (α : Type) where
  toVec : α → Except String Bytes
  fromSlice : Bytes → Except String α

/-- The libraries under the host, as far as a result depends on them. -/
structure Externals (V : Type) where
  /-- JSON of the values the host passes in and out. -/
  json : Serde V
  /-- The error chain of a failed wasmtime call, as text. -/
  wasmText : WasmError → String
  /-- The text of a Borsh error. -/
  borshText : Borsh.Error → String

/-- JSON bytes. -/
structure ContractData where
  bytes : Bytes
  deriving DecidableEq, Repr

structure ContractResultData where
  finalState : ContractData
  success : Bool
  error : String
  deriving DecidableEq, Repr

structure ContractInitCheckData where
  success : Bool
  error : String
  deriving DecidableEq, Repr

/-- The JSON text `null`. -/
def jsonNull : Bytes := [0x6E, 0x75, 0x6C, 0x6C]

/-- A failed result: no state, and the message. -/
def ContractResultData.failed (error : String) : ContractResultData :=
  { finalState := ⟨jsonNull⟩, success := false, error }

def ContractInitCheckData.ok : ContractInitCheckData := { success := true, error := "" }

def ContractInitCheckData.failed (error : String) : ContractInitCheckData :=
  { success := false, error }

namespace ContractData

/-- A newtype is laid out as what it wraps. -/
def codec : Codec ContractData :=
  Codec.blob.struct ContractData.mk ContractData.bytes (fun _ => rfl) (fun _ => rfl)

end ContractData

namespace ContractResultData

/-- `final_state`, `success`, `error`. -/
def codec : Codec ContractResultData :=
  (ContractData.codec.pair (Codec.bool.pair Codec.string)).struct
    (fun f => ⟨f.1, f.2.1, f.2.2⟩) (fun r => (r.finalState, r.success, r.error))
    (fun _ => rfl) (fun _ => rfl)

end ContractResultData

namespace ContractInitCheckData

/-- `success`, `error`. -/
def codec : Codec ContractInitCheckData :=
  (Codec.bool.pair Codec.string).struct
    (fun f => ⟨f.1, f.2⟩) (fun r => (r.success, r.error)) (fun _ => rfl) (fun _ => rfl)

end ContractInitCheckData

end Ave
