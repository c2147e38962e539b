import SmbBrowser.Native.Responses

/-!
# The codes failures carry

`FailsWith P x`: if `x` fails, then with a code in `P`.  The rules follow the
shape of the decoders, so that a decoder's codes are read off its text.

Results:
* `failsWith_decodeDirectTcpPayload`: the codes of a malformed frame.
-/

namespace SmbBrowser.Native

open SmbBrowser.Base

/-- If `x` fails, its code is in `P`. -/
def FailsWith {α : Type} (P : ErrorCode → Prop) (x : DecodeResult α) : Prop :=
  ∀ e, x = .error e → P e.code

/-- The codes a malformed message is refused with, a read outside its buffer
    included, are in `P`. -/
structure Malformed (P : ErrorCode → Prop) : Prop where
  ioError : P .ioError
  protocolUnsupported : P .protocolUnsupported
  outOfBounds : P .internalError

section

variable {P : ErrorCode → Prop} {α β : Type}

@[simp] theorem failsWith_ok (a : α) : FailsWith P (.ok a) := by
  rintro e ⟨⟩

@[simp] theorem failsWith_pure (a : α) : FailsWith P (pure a : DecodeResult α) := by
  rintro e ⟨⟩

@[simp] theorem failsWith_error (e : ProtocolError) :
    FailsWith P (.error e : DecodeResult α) ↔ P e.code := by
  constructor
  · intro h
    exact h e rfl
  · rintro h _ ⟨⟩
    exact h

@[simp] theorem failsWith_failure (code : ErrorCode) (message : String) (messagesUsed : ℕ) :
    FailsWith P (failure code message messagesUsed : DecodeResult α) ↔ P code :=
  failsWith_error _

@[simp] theorem failsWith_failureFrom (e : ProtocolError) (messagesUsed : ℕ) :
    FailsWith P (failureFrom e messagesUsed : DecodeResult α) ↔ P e.code :=
  failsWith_error _

theorem FailsWith.bind {x : DecodeResult α} {f : α → DecodeResult β} (hx : FailsWith P x)
    (hf : ∀ a, x = .ok a → FailsWith P (f a)) : FailsWith P (x >>= f) := by
  cases x with
  | error e =>
    rintro _ ⟨⟩
    exact hx e rfl
  | ok a => exact hf a rfl

theorem FailsWith.ite {c : Prop} [Decidable c] {x y : DecodeResult α} (hx : c → FailsWith P x)
    (hy : ¬ c → FailsWith P y) : FailsWith P (if c then x else y) := by
  split
  · exact hx ‹_›
  · exact hy ‹_›

theorem failsWith_readBytes (hP : Malformed P) (data : ByteVector) (off len : ℕ) :
    FailsWith P (readBytes data off len) := by
  intro e he
  rw [error_of_readBytes he]
  exact hP.outOfBounds

theorem failsWith_readU8 (hP : Malformed P) (data : ByteVector) (off : ℕ) :
    FailsWith P (readU8 data off) :=
  (failsWith_readBytes hP data off 1).bind fun _ _ => failsWith_pure _

/-! ## Frames and headers -/

theorem failsWith_decodeDirectTcpPayloadLength (hP : Malformed P) (data : ByteVector) :
    FailsWith P (decodeDirectTcpPayloadLength data) := by
  rw [decodeDirectTcpPayloadLength]
  refine .ite (fun _ => (failsWith_failure ..).2 hP.ioError) fun _ => ?_
  refine (failsWith_readU8 hP data 0).bind fun marker _ => ?_
  refine .ite (fun _ => (failsWith_failure ..).2 hP.protocolUnsupported) fun _ => ?_
  exact (failsWith_readBytes hP data 1 3).bind fun _ _ => failsWith_pure _

/-- A frame is refused because it is malformed. -/
theorem failsWith_decodeDirectTcpPayload (hP : Malformed P) (bytes : ByteVector) :
    FailsWith P (decodeDirectTcpPayload bytes) := by
  rw [decodeDirectTcpPayload]
  have hlength := failsWith_decodeDirectTcpPayloadLength hP bytes
  cases h : decodeDirectTcpPayloadLength bytes with
  | error e => exact (failsWith_failureFrom ..).2 (hlength e h)
  | ok payloadLength =>
    refine .ite (fun _ => (failsWith_failure ..).2 hP.ioError) fun _ => ?_
    exact failsWith_readBytes hP bytes _ _

end

end SmbBrowser.Native
