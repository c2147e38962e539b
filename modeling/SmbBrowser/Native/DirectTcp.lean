import SmbBrowser.Native.Transports

/-!
# The Direct TCP transport

Model of `DirectTcpTransport` (native_smb/DirectTcpTransport.cpp).  It connects when it has
no socket, sends the frame of a request, reads one frame, and closes the socket when any of
this fails.  Programs over the interface `Tcp` talk to the socket.

Results:
* `decodeDirectTcpPayloadLength_lengthField`: the length field in front of a message is read.
-/

namespace SmbBrowser.Native

open SmbBrowser.Base

/-! ## The socket -/

/-- What `send` and `recv` of the socket report: how far they got, that they would block,
    or an error. -/
inductive SocketResult (α : Type) where
  | done (a : α)
  | wouldBlock
  | failed (error : ProtocolError)

/-- The questions of the transport: `connectSocket`, the cancellation token,
    `waitForSocket`, and the calls of the socket. -/
inductive TcpOp where
  | connectSocket
  | isCancelled
  | waitForSocket (writable : Bool)
  | send (bytes : ByteVector)
  | recv (size : ℕ)
  | closeSocket
  deriving DecidableEq

/-- The answers. -/
abbrev Tcp : Interface where
  Op := TcpOp
  Ans
    | .connectSocket => DecodeResult Unit
    | .isCancelled => Bool
    | .waitForSocket _ => DecodeResult Unit
    | .send _ => SocketResult ℕ
    | .recv _ => SocketResult ByteVector
    | .closeSocket => Unit

/-- Programs of the transport: they change whether it has a socket. -/
abbrev TcpM (α : Type) := StateT Bool (Program Tcp) α

namespace TcpM

/-- Ask one question. -/
def ask (op : TcpOp) : TcpM (Tcp.Ans op) := StateT.lift (Program.perform (I := Tcp) op)

/-- `isCancelled(context)`. -/
def cancelled (context : OperationContext) : TcpM Bool :=
  if context.cancellable then ask .isCancelled else pure false

end TcpM

/-! ## The transport -/

namespace DirectTcpTransport

/-- `std::numeric_limits<int>::max()`. -/
def kIntMax : ℕ := 2 ^ 31 - 1

/-- Model of `requestContext` (DirectTcpTransport.cpp:187). -/
def requestContext (requestFrame : ByteVector) : String :=
  match decodeDirectTcpPayload requestFrame with
  | .error _ => ""
  | .ok payload =>
    match decodeSmb2SyncHeader payload with
    | .error _ => ""
    | .ok header =>
      " while waiting for " ++ commandName header.command ++ " response message_id=0x" ++
        hexUpper 16 header.messageId.toNat

/-- Models of `withRequestContext` and `bytesFailureWithRequestContext`
    (DirectTcpTransport.cpp:206 and 222). -/
def withRequestContext {α : Type} (e : ProtocolError) (requestFrame : ByteVector) :
    DecodeResult α :=
  let context := requestContext requestFrame
  failure e.code (if context = "" then e.message else e.message ++ context ++ ".")

def cancelledResult {α : Type} : DecodeResult α :=
  failure .cancelled "SMB Direct TCP operation was cancelled."

def timeoutResult {α : Type} : DecodeResult α :=
  failure .timeout "SMB Direct TCP operation timed out."

/-- Model of `sendAll` (DirectTcpTransport.cpp:493).  The deadline bounds the turns of the
    loop: the model is given their number. -/
def sendAll (context : OperationContext) : ℕ → ByteVector → TcpM (DecodeResult Unit)
  | _, [] => return .ok ()
  | 0, _ :: _ => return timeoutResult
  | turns + 1, byte :: bytes => do
    let remaining := byte :: bytes
    if ← TcpM.cancelled context then
      return cancelledResult
    match ← TcpM.ask (.waitForSocket true) with
    | .error e => return .error e
    | .ok () =>
      match ← TcpM.ask (.send (remaining.take kIntMax)) with
      | .done sent =>
        if sent = 0 then
          return failure .networkError "SMB Direct TCP socket closed during send."
        sendAll context turns (remaining.drop sent)
      | .wouldBlock => sendAll context turns remaining
      | .failed error => return .error error

/-- Model of `receiveExact` (DirectTcpTransport.cpp:540): `remaining` bytes are missing
    behind those received. -/
def receiveExact (context : OperationContext) :
    ℕ → ℕ → ByteVector → TcpM (DecodeResult ByteVector)
  | _, 0, received => return .ok received
  | 0, _ + 1, _ => return timeoutResult
  | turns + 1, remaining + 1, received => do
    if ← TcpM.cancelled context then
      return cancelledResult
    match ← TcpM.ask (.waitForSocket false) with
    | .error e => return failureFrom e
    | .ok () =>
      match ← TcpM.ask (.recv (min (remaining + 1) kIntMax)) with
      | .done bytes =>
        if bytes = [] then
          return failure .networkError "SMB Direct TCP socket closed during receive."
        receiveExact context turns (remaining + 1 - bytes.length) (received ++ bytes)
      | .wouldBlock => receiveExact context turns (remaining + 1) received
      | .failed error => return .error error

/-- Model of `close` (DirectTcpTransport.cpp:467). -/
def close : TcpM Unit := do
  if ← get then
    TcpM.ask .closeSocket
    set false

/-- Model of `connectIfNeeded` (DirectTcpTransport.cpp:479). -/
def connectIfNeeded : TcpM (DecodeResult Unit) := do
  if ← get then
    return .ok ()
  match ← TcpM.ask .connectSocket with
  | .error e => return failureFrom e
  | .ok () =>
    set true
    return .ok ()

/-- `close(); return …`. -/
def closeAndFail (r : DecodeResult ByteVector) : TcpM (DecodeResult ByteVector) := do
  close
  return r

/-- Model of `exchange` (DirectTcpTransport.cpp:427). -/
def exchange (turns : ℕ) (requestFrame : ByteVector) (context : OperationContext) :
    TcpM (DecodeResult ByteVector) := do
  match ← connectIfNeeded with
  | .error e => return failureFrom e
  | .ok () =>
    match ← sendAll context turns requestFrame with
    | .error e => closeAndFail (withRequestContext e requestFrame)
    | .ok () =>
      match ← receiveExact context turns kDirectTcpHeaderSize [] with
      | .error e => closeAndFail (withRequestContext e requestFrame)
      | .ok header =>
        match decodeDirectTcpPayloadLength header with
        | .error e => closeAndFail (failureFrom e)
        | .ok payloadLength =>
          match ← receiveExact context turns payloadLength [] with
          | .error e => closeAndFail (withRequestContext e requestFrame)
          | .ok payload => return .ok (header ++ payload)

/-- The length field in front of a message. -/
def lengthField (length : ℕ) : ByteVector := 0 :: beBytes 3 length

theorem length_lengthField (length : ℕ) : (lengthField length).length = kDirectTcpHeaderSize := by
  rw [lengthField, List.length_cons, length_beBytes]
  rfl

theorem decodeDirectTcpPayloadLength_lengthField {length : ℕ} (h : length ≤ 0x00FFFFFF) :
    decodeDirectTcpPayloadLength (lengthField length) = .ok length := by
  have hmarker : readU8 ([0] ++ beBytes 3 length) 0 = .ok 0 := by
    rw [readU8, readBytes_here _ (show [(0 : UInt8)].length = 1 from rfl)]
    rfl
  have hfield : readBytes ([0] ++ beBytes 3 length) 1 3 = .ok (beBytes 3 length) := by
    rw [readBytes_skip _ (by simp), ← List.append_nil (beBytes 3 length)]
    exact readBytes_here _ (length_beBytes ..)
  have hsplit : lengthField length = [0] ++ beBytes 3 length := rfl
  rw [decodeDirectTcpPayloadLength, length_lengthField, if_neg (lt_irrefl _), hsplit, hmarker,
    hfield]
  show Except.ok (beValue (beBytes 3 length)) = _
  rw [beValue_beBytes, Nat.mod_eq_of_lt (by omega)]

end DirectTcpTransport

end SmbBrowser.Native
