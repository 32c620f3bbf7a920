import CrowdSound.Library.OpGroups
import Mathlib.Algebra.GroupWithZero.Nat

/-!
# The call object of the RPC core

An application starts batches of operations on a call. They are rewritten into primitive
operations, at most one of a kind in progress; the transport is given at most one send and one
receive at a time, and what it reports completes primitive operations. Every entry point takes
the call's lock, and unlocking it hands the transport new work and the completion queue the
batches that have completed.
-/

namespace CrowdSound.Core

abbrev Bytes := List UInt8

/-- The bytes of an ASCII text. -/
def mdstr (s : String) : Bytes := s.toList.map fun c => UInt8.ofNat c.toNat

/-- `%d` of a machine integer. -/
def printInt (n : Nat) : String := toString (BitVec.ofNat 32 n).toInt

abbrev StatusCode := UInt32

namespace StatusCode

def ok : StatusCode := 0
def cancelled : StatusCode := 1
def unknown : StatusCode := 2
def invalidArgument : StatusCode := 3
def deadlineExceeded : StatusCode := 4
def internal : StatusCode := 13

end StatusCode

inductive CompressionAlgorithm where
  | none
  | deflate
  | gzip
  deriving DecidableEq

namespace CompressionAlgorithm

def name : CompressionAlgorithm → String
  | none => "identity"
  | deflate => "deflate"
  | gzip => "gzip"

/-- `strncmp` with the length of the name: every non-empty prefix of a literal is accepted. -/
def parse (name : Bytes) : Option CompressionAlgorithm :=
  if name = [] then Option.none
  else if name <+: mdstr "identity" then some none
  else if name <+: mdstr "gzip" then some gzip
  else if name <+: mdstr "deflate" then some deflate
  else Option.none

end CompressionAlgorithm

structure Metadata where
  key : Bytes
  value : Bytes
  deriving DecidableEq

namespace Metadata

/-- The bytes whose bit is set in the table `bits`. -/
def conformsTo (s : Bytes) (bits : List UInt8) : Bool :=
  s.all fun p => bits.getD (p.toNat / 8) 0 &&& (1 <<< (p % 8)) != 0

def isLegalHeader (s : Bytes) : Bool := conformsTo s
  [0x00, 0x00, 0x00, 0x00, 0x00, 0x20, 0xff, 0x03, 0x00, 0x00, 0x00,
    0x80, 0xfe, 0xff, 0xff, 0x07, 0x00, 0x00, 0x00, 0x00, 0x00, 0x00,
    0x00, 0x00, 0x00, 0x00, 0x00, 0x00, 0x00, 0x00, 0x00, 0x00]

def isLegalNonbinHeader (s : Bytes) : Bool := conformsTo s
  [0x00, 0x00, 0x00, 0x00, 0xff, 0xef, 0xff, 0xff, 0xff, 0xff, 0xff,
    0xff, 0xff, 0xff, 0xff, 0x7f, 0x00, 0x00, 0x00, 0x00, 0x00, 0x00,
    0x00, 0x00, 0x00, 0x00, 0x00, 0x00, 0x00, 0x00, 0x00, 0x00]

def isBinSuffixed (s : Bytes) : Bool := s.length ≥ 5 && mdstr "-bin" <:+ s

/-- `grpc_mdelem_from_string_and_buffer` with a canonical key: the key is a C string, its capital
letters become small ones. -/
def canonical (md : Metadata) : Metadata :=
  { md with
    key := (md.key.takeWhile (· ≠ 0)).map fun c => if 65 ≤ c ∧ c ≤ 90 then c - 65 + 97 else c }

/-- The check `prepare_application_metadata` makes of one element, once its key is canonical. -/
def isLegal (md : Metadata) : Bool :=
  let l := md.canonical
  isLegalHeader l.key && (isBinSuffixed l.key || isLegalNonbinHeader l.value)

end Metadata

/-- The metadata of a stream operation, and whether it carries a finite deadline. -/
structure MetadataBatch where
  list : List Metadata
  deadline : Bool
  deriving DecidableEq

inductive StreamOp where
  | noOp
  | metadata (batch : MetadataBatch)
  | beginMessage (length : UInt32) (flags : UInt32)
  | slice (slice : Bytes)
  deriving DecidableEq

def grpcWriteInternalCompress : UInt32 := 0x80000000

def isCompressed (flags : UInt32) : Bool := flags &&& grpcWriteInternalCompress != 0

/-- `GRPC_WRITE_USED_MASK | GRPC_WRITE_INTERNAL_USED_MASK`. -/
def areWriteFlagsValid (flags : UInt32) : Bool := flags &&& ~~~0x80000003 == 0

structure ByteBuffer where
  compression : CompressionAlgorithm
  slices : List Bytes
  deriving DecidableEq

def ByteBuffer.length (b : ByteBuffer) : Nat := b.slices.flatten.length

/-- How much of a stream the transport has closed. -/
inductive StreamState where
  | streamOpen
  | sendClosed
  | recvClosed
  | closed
  deriving DecidableEq

inductive IoreqOp where
  | recvInitialMetadata
  | recvMessage
  | recvTrailingMetadata
  | recvStatus
  | recvStatusDetails
  | recvClose
  | sendInitialMetadata
  | sendMessage
  | sendTrailingMetadata
  | sendStatus
  | sendClose
  deriving DecidableEq

namespace IoreqOp

/-- In the order of the enumeration. -/
def all : List IoreqOp :=
  [recvInitialMetadata, recvMessage, recvTrailingMetadata, recvStatus, recvStatusDetails,
    recvClose, sendInitialMetadata, sendMessage, sendTrailingMetadata, sendStatus, sendClose]

def count : Nat := 11

instance : Fintype IoreqOp := ⟨⟨all, by decide⟩, fun op => by cases op <;> decide⟩

/-- Messages can be sent and received again, everything else happens once. -/
def reusable : IoreqOp → Bool
  | recvMessage | sendMessage => true
  | _ => false

end IoreqOp

inductive IoreqData where
  | nothing
  | sendMetadata (metadata : List Metadata)
  | sendMessage (message : ByteBuffer)
  | sendStatus (code : StatusCode) (details : Option Bytes)
  | recvStatus (setValue : StatusCode → StatusCode)

structure Ioreq where
  op : IoreqOp
  flags : UInt32
  data : IoreqData

/-- What a batch's pointers hold when it completes. -/
structure BatchResults where
  recvMessage : Option ByteBuffer := none
  recvInitialMetadata : Option (List Metadata) := none
  recvTrailingMetadata : Option (List Metadata) := none
  recvStatus : Option StatusCode := none
  recvStatusDetails : Option Bytes := none

inductive FinishFunc where
  | finishBatch
  | finishBatchWithClose
  deriving DecidableEq

structure BatchTag where
  onComplete : FinishFunc
  userData : Nat
  deriving DecidableEq

structure CompletedRequest where
  tag : BatchTag
  success : Bool
  results : BatchResults

/-- An event of the completion queue. -/
structure Completion where
  tag : Nat
  success : Bool
  results : BatchResults

def CompletedRequest.endOp (r : CompletedRequest) : Completion :=
  match r.tag.onComplete with
  | .finishBatch => ⟨r.tag.userData, r.success, r.results⟩
  | .finishBatchWithClose => ⟨r.tag.userData, true, r.results⟩

inductive StatusSource where
  | fromApiOverride
  | fromCore
  | fromWire
  | fromServerStatus
  deriving DecidableEq

def StatusSource.all : List StatusSource :=
  [fromApiOverride, fromCore, fromWire, fromServerStatus]

instance : Fintype StatusSource :=
  ⟨⟨StatusSource.all, by decide⟩, fun source => by cases source <;> decide⟩

structure ReceivedStatus where
  isSet : Bool
  code : StatusCode
  details : Option Bytes

inductive ReadState where
  | initial
  | gotInitialMetadata
  | readClosed
  | streamClosed
  deriving DecidableEq

inductive WriteState where
  | initial
  | started
  | writeClosed
  deriving DecidableEq

structure SendOps where
  ops : List StreamOp
  isLastSend : Bool
  deriving DecidableEq

/-- An operation handed to the transport: a cancellation, a receive of at most so many bytes
and a send, each optional. -/
structure TransportStreamOp where
  cancelWithStatus : StatusCode
  maxRecvBytes : Option UInt32
  sendOps : Option SendOps
  deriving DecidableEq

structure GrpcCall where
  isClient : Bool
  maxMessageLength : UInt32
  readState : ReadState
  writeState : WriteState
  haveAlarm : Bool
  sendDeadline : Bool
  sending : Bool
  receiving : Bool
  readingMessage : Bool
  errorStatusSet : Bool
  destroyCalled : Bool
  lastSendContains : Finset IoreqOp
  cancelWithStatus : StatusCode
  groups : OpGroups.Groups IoreqOp BatchTag
  requestData : IoreqOp → IoreqData
  requestFlags : IoreqOp → UInt32
  completedRequests : List CompletedRequest
  incomingQueue : List ByteBuffer
  bufferedInitialMetadata : List Metadata
  bufferedTrailingMetadata : List Metadata
  status : StatusSource → ReceivedStatus
  compressionAlgorithm : CompressionAlgorithm
  sendInitialMetadata : List Metadata
  incomingMessage : List Bytes
  incomingMessageLength : UInt32
  incomingMessageFlags : UInt32
  /-- The message the pending receive points to. -/
  recvMessage : Option ByteBuffer
  /-- The events the completion queue was given. -/
  cq : List Completion
  /-- The operations the transport was given. -/
  transportOps : List TransportStreamOp

inductive CallError where
  | ok
  | notOnServer
  | notOnClient
  | alreadyInvoked
  | tooManyOperations
  | invalidFlags
  | invalidMetadata
  | invalidMessage
  | batchTooBig
  deriving DecidableEq

/-- An assertion failed, or the transport reported the end of something it was not given. -/
inductive CallFault where
  | assertion
  | notInFlight
  deriving DecidableEq

namespace GrpcCall

def isOpLive (call : GrpcCall) (op : IoreqOp) : Bool := call.groups.isLive op

/-- `grpc_call_create`, without a parent; whether the deadline is finite. -/
def create (isClient : Bool) (maxMessageLength : UInt32) (sendInitialMetadata : List Metadata)
    (sendDeadline : Bool) : GrpcCall where
  isClient := isClient
  maxMessageLength := maxMessageLength
  readState := .initial
  writeState := .initial
  haveAlarm := sendDeadline
  sendDeadline := sendDeadline
  sending := false
  receiving := !isClient
  readingMessage := false
  errorStatusSet := false
  destroyCalled := false
  lastSendContains := ∅
  cancelWithStatus := .ok
  groups :=
    { slot := fun op =>
        if isClient && (op = .sendTrailingMetadata || op = .sendStatus) then .done else .empty
      master := fun _ => ⟨false, ∅, ∅, ⟨.finishBatch, 0⟩⟩ }
  requestData := fun _ => .nothing
  requestFlags := fun _ => 0
  completedRequests := []
  incomingQueue := []
  bufferedInitialMetadata := []
  bufferedTrailingMetadata := []
  status := fun _ => ⟨false, .ok, none⟩
  compressionAlgorithm := .none
  sendInitialMetadata := sendInitialMetadata
  incomingMessage := []
  incomingMessageLength := 0
  incomingMessageFlags := 0
  recvMessage := none
  cq := []
  transportOps := if isClient then [] else [⟨.ok, some 0, none⟩]

def setStatusCode (call : GrpcCall) (source : StatusSource) (status : StatusCode) : GrpcCall :=
  if (call.status source).isSet then call
  else { call with
    status := Function.update call.status source
      ⟨true, status, (call.status source).details⟩
    errorStatusSet := status != .ok
    incomingQueue := if status != .ok then [] else call.incomingQueue }

def setStatusDetails (call : GrpcCall) (source : StatusSource) (details : Option Bytes) :
    GrpcCall :=
  let old := call.status source
  { call with status := Function.update call.status source ⟨old.isSet, old.code, details⟩ }

/-- The caller makes sure that `status` is not `ok`. -/
def cancel (call : GrpcCall) (status : StatusCode) (description : Option Bytes) : GrpcCall :=
  { (call.setStatusCode .fromApiOverride status).setStatusDetails .fromApiOverride description with
    cancelWithStatus := status }

/-- The source of the status that is reported: the first that is set. -/
def finalSource (call : GrpcCall) : Option StatusSource :=
  StatusSource.all.find? fun source => (call.status source).isSet

def getFinalStatus (call : GrpcCall) : StatusCode :=
  match call.finalSource with
  | some source => (call.status source).code
  | none => if call.isClient then .unknown else .ok

def getFinalDetails (call : GrpcCall) : Bytes :=
  match call.finalSource with
  | some source => (call.status source).details.getD []
  | none => []

/-- The final status as the pending status operation stores it. -/
def reportedStatus (call : GrpcCall) : StatusCode :=
  match call.requestData .recvStatus with
  | .recvStatus setValue => setValue call.getFinalStatus
  | _ => call.getFinalStatus

/-- What happens to one operation of a group when the group completes. -/
def finishMember (success : Bool) (s : GrpcCall × BatchResults) :
    IoreqOp → GrpcCall × BatchResults
  | .recvMessage =>
    ({ s.1 with writeState := if success then s.1.writeState else .writeClosed },
      { s.2 with recvMessage := s.1.recvMessage })
  | .sendMessage =>
    ({ s.1 with writeState := if success then s.1.writeState else .writeClosed }, s.2)
  | .recvStatus => (s.1, { s.2 with recvStatus := some s.1.reportedStatus })
  | .recvStatusDetails => (s.1, { s.2 with recvStatusDetails := some s.1.getFinalDetails })
  | .recvInitialMetadata =>
    ({ s.1 with bufferedInitialMetadata := [] },
      { s.2 with recvInitialMetadata := some s.1.bufferedInitialMetadata })
  | .recvTrailingMetadata =>
    ({ s.1 with bufferedTrailingMetadata := [] },
      { s.2 with recvTrailingMetadata := some s.1.bufferedTrailingMetadata })
  | _ => s

/-- The operations of a group, in the order of the enumeration. -/
def members (call : GrpcCall) (set : IoreqOp) : List IoreqOp :=
  IoreqOp.all.filter fun i => call.groups.slot i = .group set

/-- Free a group, let its operations act and hand over its master. -/
def completeGroup (call : GrpcCall) (set : IoreqOp) : GrpcCall :=
  let master := call.groups.master set
  let members := call.members set
  let freed := { call with groups := call.groups.release IoreqOp.reusable set }
  let (call, results) := members.foldl (finishMember master.success) (freed, {})
  { call with completedRequests :=
      call.completedRequests ++ [⟨master.tag, master.success, results⟩] }

def finishLiveIoreqOp (call : GrpcCall) (op : IoreqOp) (success : Bool) : GrpcCall :=
  match call.groups.slot op with
  | .group set =>
    let call := { call with groups := call.groups.mark set op success }
    let master := call.groups.master set
    if master.complete = master.need then call.completeGroup set else call
  | _ => call

def finishIoreqOp (call : GrpcCall) (op : IoreqOp) (success : Bool) : GrpcCall :=
  if call.isOpLive op then call.finishLiveIoreqOp op success else call

def earlyOutWriteOps (call : GrpcCall) : GrpcCall :=
  match call.writeState with
  | .writeClosed =>
    let call := call.finishIoreqOp .sendMessage false
    let call := call.finishIoreqOp .sendStatus false
    let call := call.finishIoreqOp .sendTrailingMetadata false
    let call := call.finishIoreqOp .sendClose true
    call.finishIoreqOp .sendInitialMetadata false
  | .started => call.finishIoreqOp .sendInitialMetadata false
  | .initial => call

/-- Hand the first buffered message to the pending receive; whether nothing is buffered then. -/
def popMessage (call : GrpcCall) : GrpcCall × Bool :=
  if call.isOpLive .recvMessage then
    match call.incomingQueue with
    | [] => ({ call with recvMessage := none }, true)
    | message :: rest =>
      let call := { call with recvMessage := some message, incomingQueue := rest }
      let call := call.finishLiveIoreqOp .recvMessage true
      (call, call.incomingQueue.isEmpty)
  else (call, call.incomingQueue.isEmpty)

/-- What `finish_read_ops` completes once the stream is closed for reading. -/
def finishReadClosed (call : GrpcCall) (empty : Bool) : GrpcCall :=
  let call := if empty then call.finishIoreqOp .recvMessage true else call
  let call := call.finishIoreqOp .recvStatus true
  let call := call.finishIoreqOp .recvStatusDetails true
  let call := call.finishIoreqOp .recvTrailingMetadata true
  call.finishIoreqOp .recvInitialMetadata true

def finishReadOps (call : GrpcCall) : GrpcCall :=
  let (call, empty) := call.popMessage
  match call.readState with
  | .streamClosed =>
    let call := if empty && !call.haveAlarm then call.finishIoreqOp .recvClose true else call
    call.finishReadClosed empty
  | .readClosed => call.finishReadClosed empty
  | .gotInitialMetadata => call.finishIoreqOp .recvInitialMetadata true
  | .initial => call

def needMoreData (call : GrpcCall) : Bool :=
  call.readState != .streamClosed &&
    (call.isOpLive .recvInitialMetadata ||
      (call.isOpLive .recvMessage && call.incomingQueue.isEmpty) ||
      call.isOpLive .recvTrailingMetadata ||
      call.isOpLive .recvStatus ||
      call.isOpLive .recvStatusDetails ||
      (call.isOpLive .recvClose && call.incomingQueue.isEmpty) ||
      (call.writeState == .initial && !call.isClient) ||
      call.cancelWithStatus != .ok || call.destroyCalled)

def maxRecvPeekAhead : UInt32 := 65536

/-- The difference wraps around when a message has received more than was announced. -/
def maxRecvBytes (call : GrpcCall) : UInt32 :=
  if call.incomingQueue.isEmpty && call.readingMessage then
    call.incomingMessageLength - UInt32.ofNat call.incomingMessage.flatten.length +
      maxRecvPeekAhead
  else
    let bufferedBytes := (call.incomingQueue.map ByteBuffer.length).sum
    if bufferedBytes > maxRecvPeekAhead.toNat then 0
    else maxRecvPeekAhead - UInt32.ofNat bufferedBytes

def copyByteBufferToStreamOps (message : ByteBuffer) : List StreamOp :=
  message.slices.map .slice

/-- The message operation, if a message waits to be sent. -/
def messageOps (call : GrpcCall) : List StreamOp :=
  match call.isOpLive .sendMessage, call.requestData .sendMessage with
  | true, .sendMessage message =>
    .beginMessage (UInt32.ofNat message.length) (call.requestFlags .sendMessage) ::
      copyByteBufferToStreamOps message
  | _, _ => []

/-- The status and the trailing metadata a server sends with its close. -/
def trailingOps (call : GrpcCall) : List StreamOp :=
  if call.isClient then []
  else
    let app := match call.requestData .sendTrailingMetadata with
      | .sendMetadata metadata => metadata.map Metadata.canonical
      | _ => []
    let status := match call.requestData .sendStatus with
      | .sendStatus code details =>
        ⟨mdstr "grpc-status", mdstr (printInt code.toNat)⟩ ::
          (details.map fun details => ⟨mdstr "grpc-message", details⟩).toList
      | _ => []
    [.metadata ⟨app ++ status, false⟩]

def sendOpsOf (sent : Option SendOps) : List StreamOp := sent.elim [] SendOps.ops

def fillMessage (call : GrpcCall) (sent : Option SendOps) : GrpcCall × Option SendOps :=
  if call.isOpLive .sendMessage then
    ({ call with lastSendContains := insert .sendMessage call.lastSendContains },
      some ⟨sendOpsOf sent ++ call.messageOps, false⟩)
  else (call, sent)

def fillClose (call : GrpcCall) (sent : Option SendOps) : GrpcCall × Option SendOps :=
  if call.isOpLive .sendClose then
    ({ call with lastSendContains := insert .sendClose call.lastSendContains },
      some ⟨sendOpsOf sent ++ call.trailingOps, true⟩)
  else (call, sent)

/-- The part of `fill_send_ops` that the first send and the later ones share; `sent` is what
the call sends already. -/
def fillMessageAndClose (call : GrpcCall) (sent : Option SendOps) : GrpcCall × Option SendOps :=
  let (call, sent) := call.fillMessage sent
  call.fillClose sent

/-- The application's initial metadata behind those of the channel, which are linked to the
front one by one. -/
def initialOps (call : GrpcCall) : List StreamOp :=
  let app := match call.requestData .sendInitialMetadata with
    | .sendMetadata metadata => metadata.map Metadata.canonical
    | _ => []
  [.metadata ⟨call.sendInitialMetadata.reverse ++ app, call.sendDeadline⟩]

def fillInitialMetadata (call : GrpcCall) : GrpcCall :=
  { call with
    lastSendContains := insert .sendInitialMetadata call.lastSendContains
    sendInitialMetadata := [] }

def fillSendOps (call : GrpcCall) : GrpcCall × Option SendOps :=
  match call.writeState with
  | .initial =>
    if call.isOpLive .sendInitialMetadata then
      call.fillInitialMetadata.fillMessageAndClose (some ⟨call.initialOps, false⟩)
    else (call, none)
  | .started => call.fillMessageAndClose none
  | .writeClosed => (call, none)

/-- Start a receive if more data is needed, the buffer has room and none is in flight. -/
def startRecv (call : GrpcCall) : GrpcCall × Option UInt32 :=
  if !call.receiving && call.needMoreData && decide (call.maxRecvBytes > 1024) then
    ({ call with receiving := true }, some call.maxRecvBytes)
  else (call, none)

def startSend (call : GrpcCall) : GrpcCall × Option SendOps :=
  if call.sending then (call, none)
  else
    let (call, send) := call.fillSendOps
    ({ call with sending := send.isSome }, send)

/-- Hand the completion queue the batches that have completed. -/
def flushCompleted (call : GrpcCall) : GrpcCall :=
  { call with
    cq := call.cq ++ call.completedRequests.map CompletedRequest.endOp
    completedRequests := [] }

def unlock (call : GrpcCall) : GrpcCall :=
  let cancelWithStatus := call.cancelWithStatus
  let (call, recv) := { call with cancelWithStatus := .ok }.startRecv
  let (call, send) := call.startSend
  let started : List TransportStreamOp :=
    if cancelWithStatus != .ok || recv.isSome || send.isSome then
      [⟨cancelWithStatus, recv, send⟩]
    else []
  { call with transportOps := call.transportOps ++ started }.flushCompleted

end GrpcCall

end CrowdSound.Core
