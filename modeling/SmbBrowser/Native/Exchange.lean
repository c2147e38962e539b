import SmbBrowser.Base.Program
import SmbBrowser.Native.Responses

/-!
# Exchanging requests

The native client talks to its environment through the transport, the
cancellation token and the progress callback of an `OperationContext`.  These
are the questions of the interface `Wire`; the helpers and the session are
programs over it, and an exception is a value of the program.

Models of the exchangers (native_smb/ReadExchanger.cpp, WriteExchanger.cpp,
CloseExchanger.cpp, QueryInfoExchanger.cpp, SetInfoExchanger.cpp and
ChangeNotifyExchanger.cpp), which differ in their decoder and one text.
-/

namespace SmbBrowser.Native

open SmbBrowser.Base

/-! ## The interface -/

/-- A request with the frame its builder made of it. -/
structure SentRequest where
  request : Request
  frame : ByteVector
  built : request.frame = .ok frame

/-- The part of the client that asks whether it was cancelled: a session
    method, a helper class, or one of the exchangers. -/
inductive Asker where
  | session
  | helper
  | exchanger
  deriving DecidableEq, Repr

/-- The primitive methods of `NativeSmbSession` with their arguments. -/
inductive SessionCall where
  | listDirectory (path : ByteVector)
  | readFileOnce (path : ByteVector) (length : UInt32) (offset : UInt64)
  | openFileForRead (path : ByteVector)
  | readFileChunk (fileId : FileId) (length : UInt32) (offset : UInt64)
  | closeFileHandle (fileId : FileId)
  | writeFileOnce (path data : ByteVector) (offset : UInt64)
  | statObject (path : ByteVector)
  | setBasicInformation (path : ByteVector) (info : FileBasicInformation)
  | listExtendedAttributes (path : ByteVector)
  | setExtendedAttributes (path : ByteVector) (entries : List FileFullEaInformation)
  | removeExtendedAttribute (path name : ByteVector)
  | querySecurityDescriptor (path : ByteVector) (securityInformation : UInt32)
  | setSecurityDescriptor (path : ByteVector) (securityInformation : UInt32)
      (descriptor : ByteVector)
  | createDirectory (path : ByteVector)
  | deleteObject (path : ByteVector) (directory : Bool)
  | renameObject (fromPath toPath : ByteVector) (replaceIfExists : Bool)
  | createHardLink (existingPath linkPath : ByteVector) (replaceIfExists : Bool)
  | createSymbolicLink (linkPath targetPath : ByteVector) (directory relative : Bool)
  | copyFileServerSide (sourcePath targetPath : ByteVector) (size : UInt64)
  | watchDirectoryOnce (path : ByteVector) (completionFilter : UInt32) (watchTree : Bool)
  | listShares (serverName : ByteVector)
  | getDfsReferrals (requestPath : ByteVector)

/-- The questions of the native client.  `enter` asks nothing: it marks in the
    log where a session method begins. -/
inductive WireOp where
  | exchange (sent : SentRequest) (context : OperationContext)
  | isCancelled (asker : Asker)
  | progress (progress : TransferProgress)
  | enter (call : SessionCall)

/-- The answers: what the transport returns, whether the operation was
    cancelled. -/
abbrev Wire : Interface where
  Op := WireOp
  Ans
    | .exchange .. => DecodeResult ByteVector
    | .isCancelled _ => Bool
    | .progress _ => Unit
    | .enter _ => Unit

/-- A program of the native client that may throw. -/
abbrev Prog (α : Type) := ExceptT Exn (Program Wire) α

namespace Prog

/-- Ask one question. -/
def perform (op : WireOp) : Prog (Wire.Ans op) := ExceptT.lift (@Program.perform Wire op)

/-- Rethrow the exception of a builder. -/
def ofExcept {α : Type} (x : Except Exn α) : Prog α := ExceptT.mk (.pure x)

end Prog

/-- Model of `isCancellationRequested` (SmbNative.cpp:53): a context without
    token and callback is never cancelled. -/
def isCancelled (asker : Asker) (context : OperationContext) : Prog Bool :=
  if context.cancellable then Prog.perform (.isCancelled asker) else pure false

/-- Model of `context.progressCallback(progress)`. -/
def reportProgress (progress : TransferProgress) (context : OperationContext) : Prog Unit :=
  if context.reportsProgress then Prog.perform (.progress progress) else pure ()

/-- Model of `transport.exchange(encodeDirectTcpFrame(request), context)` with
    the request still to be built. -/
def exchangeFrame (request : Request) (context : OperationContext) :
    Prog (DecodeResult ByteVector) :=
  match h : request.frame with
  | .error e => throw e
  | .ok frame => Prog.perform (.exchange ⟨request, frame, h⟩ context)

/-- Model of `exchangePayload` (NativeSmbSession.cpp:65 and in every helper). -/
def exchangePayload (request : Request) (context : OperationContext) :
    Prog (DecodeResult ByteVector) := do
  match ← exchangeFrame request context with
  | .error e => return failureFrom e
  | .ok frame => return decodeDirectTcpPayload frame

/-! ## Exchangers -/

/-- The body the exchangers share (ReadExchanger.cpp:26–50): the frame is
    decoded only after the second look at the cancellation token. -/
def exchangeResponse {α : Type} (cancelled : String) (decode : ByteVector → DecodeResult α)
    (request : Request) (context : OperationContext) : Prog (DecodeResult α) := do
  if ← isCancelled .exchanger context then
    return failure .cancelled cancelled
  match ← exchangeFrame request context with
  | .error e => return failureFrom e
  | .ok responseFrame =>
    if ← isCancelled .exchanger context then
      return failure .cancelled cancelled
    match decodeDirectTcpPayload responseFrame with
    | .error e => return failureFrom e
    | .ok payload =>
      match decode payload with
      | .error e => return failureFrom e
      | .ok response => return .ok response

section Exchangers

variable (messageId : ℕ) (treeId : UInt32) (sessionId : UInt64) (context : OperationContext)

/-- Model of `ReadExchanger::read`. -/
def readExchanger (options : ReadRequestOptions) : Prog (DecodeResult ReadResponse) :=
  exchangeResponse "SMB read was cancelled." decodeReadResponse
    ⟨.read options, messageId, treeId, sessionId⟩ context

/-- Model of `WriteExchanger::write`. -/
def writeExchanger (options : WriteRequestOptions) : Prog (DecodeResult WriteResponse) :=
  exchangeResponse "SMB write was cancelled." decodeWriteResponse
    ⟨.write options, messageId, treeId, sessionId⟩ context

/-- Model of `CloseExchanger::close`. -/
def closeExchanger (options : CloseRequestOptions) : Prog (DecodeResult CloseResponse) :=
  exchangeResponse "SMB close was cancelled." decodeCloseResponse
    ⟨.close options, messageId, treeId, sessionId⟩ context

/-- Model of `QueryInfoExchanger::queryInfo`. -/
def queryInfoExchanger (options : QueryInfoRequestOptions) :
    Prog (DecodeResult QueryInfoResponse) :=
  exchangeResponse "SMB query info was cancelled." decodeQueryInfoResponse
    ⟨.queryInfo options, messageId, treeId, sessionId⟩ context

/-- Model of `SetInfoExchanger::setInfo`. -/
def setInfoExchanger (options : SetInfoRequestOptions) : Prog (DecodeResult StatusResponse) :=
  exchangeResponse "SMB set info was cancelled." decodeSetInfoResponse
    ⟨.setInfo options, messageId, treeId, sessionId⟩ context

/-- Model of `ChangeNotifyExchanger::wait`. -/
def changeNotifyExchanger (options : ChangeNotifyRequestOptions) :
    Prog (DecodeResult ChangeNotifyResponse) :=
  exchangeResponse "SMB change notify was cancelled." decodeChangeNotifyResponse
    ⟨.changeNotify options, messageId, treeId, sessionId⟩ context

/-- Model of `openFile` and `openObject`: CREATE through `exchangePayload`
    (NativeSmbSession.cpp:198 and RemoteObjectOperator.cpp:72). -/
def openFile (options : CreateRequestOptions) : Prog (DecodeResult CreateResponse) := do
  match ← exchangePayload ⟨.create options, messageId, treeId, sessionId⟩ context with
  | .error e => return failureFrom e
  | .ok payload => return decodeCreateResponse payload

/-- Model of `ioctl` (NativeSmbSession.cpp:208, RemoteObjectOperator.cpp:108). -/
def ioctl (options : IoctlRequestOptions) : Prog (DecodeResult IoctlResponse) := do
  match ← exchangePayload ⟨.ioctl options, messageId, treeId, sessionId⟩ context with
  | .error e => return failureFrom e
  | .ok payload => return decodeIoctlResponse payload

end Exchangers

end SmbBrowser.Native
