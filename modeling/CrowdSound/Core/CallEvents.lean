import CrowdSound.Core.GrpcCall
import CrowdSound.Library.EventRun

/-!
# Events of a call

What the application asks of a call, what the transport reports to it and what its deadline
alarm does, each between taking and releasing the lock.
-/

namespace CrowdSound.Core

namespace GrpcCall

/-- Reset the message buffer and keep what it held, unless an error status is set. -/
def finishMessage (call : GrpcCall) : GrpcCall :=
  let algorithm :=
    if isCompressed call.incomingMessageFlags then call.compressionAlgorithm else .none
  { call with
    incomingQueue :=
      if call.errorStatusSet then call.incomingQueue
      else call.incomingQueue ++ [⟨algorithm, call.incomingMessage⟩]
    incomingMessage := []
    readingMessage := false }

def incomingLength (call : GrpcCall) : Nat := call.incomingMessage.flatten.length

def beginMessage (call : GrpcCall) (length flags : UInt32) : GrpcCall × Bool :=
  if call.readingMessage then
    (call.cancel .invalidArgument (some (mdstr
      ("Message terminated early; read " ++ printInt call.incomingLength ++
        " bytes, expected " ++ printInt call.incomingMessageLength.toNat))), false)
  else if isCompressed flags && decide (call.compressionAlgorithm = .none) then
    (call.cancel .internal (some (mdstr
      ("Invalid compression algorithm (" ++ call.compressionAlgorithm.name ++
        ") for compressed message."))), false)
  else if length > call.maxMessageLength then
    (call.cancel .invalidArgument (some (mdstr
      ("Maximum message length of " ++ printInt call.maxMessageLength.toNat ++
        " exceeded by a message of length " ++ printInt length.toNat))), false)
  else if length > 0 then
    ({ call with
      readingMessage := true
      incomingMessageLength := length
      incomingMessageFlags := flags }, true)
  else (call.finishMessage, true)

def addSliceToMessage (call : GrpcCall) (slice : Bytes) : GrpcCall × Bool :=
  if slice = [] then (call, true)
  else if !call.readingMessage then
    (call.cancel .invalidArgument
      (some (mdstr "Received payload data while not reading a message")), false)
  else
    let call := { call with incomingMessage := call.incomingMessage ++ [slice] }
    if call.incomingLength > call.incomingMessageLength.toNat then
      (call.cancel .invalidArgument (some (mdstr
        ("Receiving message overflow; read " ++ printInt call.incomingLength ++
          " bytes, expected " ++ printInt call.incomingMessageLength.toNat))), false)
    else if call.incomingLength = call.incomingMessageLength.toNat then
      (call.finishMessage, true)
    else (call, true)

/-- `gpr_parse_bytes_to_uint32`; the overflow check compares with the number so far. -/
def parseBytesToUint32 (buf : Bytes) : Option UInt32 :=
  if buf = [] then none
  else buf.foldlM
    (fun out c =>
      if c < 48 || c > 57 then none
      else
        let new := 10 * out + (c - 48).toUInt32
        if new < out then none else some new) (0 : UInt32)

def statusOffset : StatusCode := 1

/-- The status is kept with the element, one more than it is: null cannot be kept. -/
def decodeStatus (value : Bytes) : Except CallFault StatusCode :=
  let status := (parseBytesToUint32 value).getD StatusCode.unknown
  if status + statusOffset = 0 then .error .assertion else .ok status

/-- The value as a C string. -/
def decodeCompression (value : Bytes) : Except CallFault CompressionAlgorithm :=
  match CompressionAlgorithm.parse (value.takeWhile (· ≠ 0)) with
  | some algorithm => .ok algorithm
  | none => .error .assertion

/-- One element of received metadata; the accepted encodings are not kept. -/
def recvMdelem (call : GrpcCall) (isTrailing : Bool) (md : Metadata) :
    Except CallFault GrpcCall :=
  if md.key = mdstr "grpc-status" then
    match decodeStatus md.value with
    | .ok status => .ok (call.setStatusCode .fromWire status)
    | .error fault => .error fault
  else if md.key = mdstr "grpc-message" then
    .ok (call.setStatusDetails .fromWire (some md.value))
  else if md.key = mdstr "grpc-encoding" then
    match decodeCompression md.value with
    | .ok algorithm => .ok { call with compressionAlgorithm := algorithm }
    | .error fault => .error fault
  else if md.key = mdstr "grpc-accept-encoding" then .ok call
  else if isTrailing then
    .ok { call with bufferedTrailingMetadata := call.bufferedTrailingMetadata ++ [md] }
  else .ok { call with bufferedInitialMetadata := call.bufferedInitialMetadata ++ [md] }

def recvMdelems (call : GrpcCall) (isTrailing : Bool) : List Metadata → Except CallFault GrpcCall
  | [] => .ok call
  | md :: list => match call.recvMdelem isTrailing md with
    | .ok call => call.recvMdelems isTrailing list
    | .error fault => .error fault

def setDeadlineAlarm (call : GrpcCall) : Except CallFault GrpcCall :=
  if call.haveAlarm then .error .assertion
  else .ok { call with haveAlarm := true, sendDeadline := true }

/-- The first metadata are the initial ones. -/
def gotMetadata (call : GrpcCall) (isTrailing : Bool) : GrpcCall :=
  if isTrailing then call else { call with readState := .gotInitialMetadata }

def recvMetadata (call : GrpcCall) (batch : MetadataBatch) : Except CallFault GrpcCall :=
  let isTrailing := call.readState != .initial
  match call.recvMdelems isTrailing batch.list with
  | .error fault => .error fault
  | .ok call =>
    if batch.deadline && !call.isClient then
      match call.setDeadlineAlarm with
      | .ok call => .ok (call.gotMetadata isTrailing)
      | .error fault => .error fault
    else .ok (call.gotMetadata isTrailing)

/-- The operations of a receive, up to the first that is refused. -/
def recvStreamOps (call : GrpcCall) : List StreamOp → Except CallFault GrpcCall
  | [] => .ok call
  | .noOp :: ops => call.recvStreamOps ops
  | .metadata batch :: ops => match call.recvMetadata batch with
    | .ok call => call.recvStreamOps ops
    | .error fault => .error fault
  | .beginMessage length flags :: ops => match call.beginMessage length flags with
    | (call, true) => call.recvStreamOps ops
    | (call, false) => .ok call
  | .slice slice :: ops => match call.addSliceToMessage slice with
    | (call, true) => call.recvStreamOps ops
    | (call, false) => .ok call

/-- The read side after a receive that reported the stream in `state`. -/
def recvStreamState (call : GrpcCall) : StreamState → Except CallFault GrpcCall
  | .recvClosed =>
    if call.readState = .streamClosed then .error .assertion
    else .ok { call with readState := .readClosed }
  | .closed => .ok { call with readState := .streamClosed }
  | _ => .ok call

def failReadOps (call : GrpcCall) : GrpcCall :=
  let call := call.finishIoreqOp .recvMessage false
  let call := call.finishIoreqOp .recvStatus false
  let call := call.finishIoreqOp .recvClose false
  let call := call.finishIoreqOp .recvTrailingMetadata false
  let call := call.finishIoreqOp .recvInitialMetadata false
  call.finishIoreqOp .recvStatusDetails false

def callOnDoneRecv (call : GrpcCall) (success : Bool) (ops : List StreamOp)
    (state : StreamState) : Except CallFault GrpcCall :=
  if !call.receiving then .error .notInFlight
  else
    let call := { call with receiving := false }
    if success then
      match call.recvStreamOps ops with
      | .error fault => .error fault
      | .ok call => (call.recvStreamState state).map fun call => call.finishReadOps.unlock
    else .ok call.failReadOps.unlock

def finishSends (call : GrpcCall) (success : Bool) : GrpcCall :=
  let call := if .sendInitialMetadata ∈ call.lastSendContains then
      { call.finishIoreqOp .sendInitialMetadata success with writeState := .started }
    else call
  let call := if .sendMessage ∈ call.lastSendContains then
      call.finishIoreqOp .sendMessage success
    else call
  let call := if .sendClose ∈ call.lastSendContains then
      let call := call.finishIoreqOp .sendTrailingMetadata success
      let call := call.finishIoreqOp .sendStatus success
      { call.finishIoreqOp .sendClose true with writeState := .writeClosed }
    else call
  if success then call else { call with writeState := .writeClosed }.earlyOutWriteOps

def callOnDoneSend (call : GrpcCall) (success : Bool) : Except CallFault GrpcCall :=
  if !call.sending then .error .notInFlight
  else .ok { call.finishSends success with lastSendContains := ∅, sending := false }.unlock

/-- `grpc_call_cancel_with_status`. -/
def cancelWith (call : GrpcCall) (status : StatusCode) (description : Option Bytes) :
    Except CallFault GrpcCall :=
  if status = .ok then .error .assertion else .ok (call.cancel status description).unlock

def grpcCallCancel (call : GrpcCall) : GrpcCall :=
  (call.cancel .cancelled (some (mdstr "Cancelled"))).unlock

def callAlarm (call : GrpcCall) (success : Bool) : Except CallFault GrpcCall :=
  if !call.haveAlarm then .error .notInFlight
  else
    let call := { call with haveAlarm := false }
    let call := if success then
        call.cancel .deadlineExceeded (some (mdstr "Deadline Exceeded"))
      else call
    .ok call.finishReadOps.unlock

def destroy (call : GrpcCall) : Except CallFault GrpcCall :=
  if call.destroyCalled then .error .assertion
  else
    let call := { call with destroyCalled := true }.unlock
    if call.readState = .streamClosed then .ok call else .ok call.grpcCallCancel

end GrpcCall

inductive GrpcOp where
  | sendInitialMetadata (metadata : List Metadata)
  | sendMessage (message : Option ByteBuffer)
  | sendCloseFromClient
  | sendStatusFromServer (trailingMetadata : List Metadata) (status : StatusCode)
      (statusDetails : Option Bytes)
  | recvInitialMetadata
  | recvMessage
  | recvStatusOnClient
  | recvCloseOnServer
  deriving DecidableEq

/-- Batches with such an operation report success whatever happens. -/
def GrpcOp.finishesWithClose : GrpcOp → Bool
  | .recvStatusOnClient | .recvCloseOnServer => true
  | _ => false

structure BatchOp where
  op : GrpcOp
  flags : UInt32
  deriving DecidableEq

namespace GrpcCall

/-- The value a server stores: whether the call was cancelled. -/
def setCancelledValue (status : StatusCode) : StatusCode := if status != .ok then 1 else 0

def rewriteOp (call : GrpcCall) (o : BatchOp) : Except CallError (List Ioreq) :=
  match o.op with
  | .sendInitialMetadata metadata =>
    if o.flags != 0 then .error .invalidFlags
    else .ok [⟨.sendInitialMetadata, o.flags, .sendMetadata metadata⟩]
  | .sendMessage message =>
    if !areWriteFlagsValid o.flags then .error .invalidFlags
    else match message with
      | none => .error .invalidMessage
      | some message => .ok [⟨.sendMessage, o.flags, .sendMessage message⟩]
  | .sendCloseFromClient =>
    if o.flags != 0 then .error .invalidFlags
    else if !call.isClient then .error .notOnServer
    else .ok [⟨.sendClose, o.flags, .nothing⟩]
  | .sendStatusFromServer trailingMetadata status statusDetails =>
    if o.flags != 0 then .error .invalidFlags
    else if call.isClient then .error .notOnClient
    else .ok [⟨.sendTrailingMetadata, o.flags, .sendMetadata trailingMetadata⟩,
      ⟨.sendStatus, 0, .sendStatus status statusDetails⟩, ⟨.sendClose, 0, .nothing⟩]
  | .recvInitialMetadata =>
    if o.flags != 0 then .error .invalidFlags
    else if !call.isClient then .error .notOnServer
    else .ok [⟨.recvInitialMetadata, o.flags, .nothing⟩]
  | .recvMessage =>
    if o.flags != 0 then .error .invalidFlags else .ok [⟨.recvMessage, o.flags, .nothing⟩]
  | .recvStatusOnClient =>
    if o.flags != 0 then .error .invalidFlags
    else if !call.isClient then .error .notOnServer
    else .ok [⟨.recvStatus, o.flags, .recvStatus id⟩, ⟨.recvStatusDetails, 0, .nothing⟩,
      ⟨.recvTrailingMetadata, 0, .nothing⟩, ⟨.recvClose, 0, .nothing⟩]
  | .recvCloseOnServer =>
    if o.flags != 0 then .error .invalidFlags
    else .ok [⟨.recvStatus, o.flags, .recvStatus setCancelledValue⟩, ⟨.recvClose, 0, .nothing⟩]

/-- The primitive operations of a batch; there is room for as many as there are kinds. -/
def rewriteOps (call : GrpcCall) (reqs : List Ioreq) :
    List BatchOp → Except CallError (List Ioreq)
  | [] => .ok reqs
  | o :: ops => match call.rewriteOp o with
    | .error e => .error e
    | .ok more =>
      if reqs.length + more.length > IoreqOp.count then .error .batchTooBig
      else call.rewriteOps (reqs ++ more) ops

def isLegalData : IoreqOp → IoreqData → Bool
  | .sendInitialMetadata, .sendMetadata metadata => metadata.all Metadata.isLegal
  | .sendTrailingMetadata, .sendMetadata metadata => metadata.all Metadata.isLegal
  | _, _ => true

def setSendStatus (call : GrpcCall) : IoreqData → GrpcCall
  | .sendStatus code (some details) =>
    (call.setStatusCode .fromServerStatus code).setStatusDetails .fromServerStatus (some details)
  | .sendStatus code none => call.setStatusCode .fromServerStatus code
  | _ => call

def claimIoreq (call : GrpcCall) (set : IoreqOp) (req : Ioreq) : GrpcCall :=
  let call := if req.op = .sendStatus then call.setSendStatus req.data else call
  { call with
    requestData := Function.update call.requestData req.op req.data
    requestFlags := Function.update call.requestFlags req.op req.flags
    groups := call.groups.claim set req.op }

/-- Claim the operations one by one; `haveOps` are those claimed so far. -/
def claimIoreqs (set : IoreqOp) (call : GrpcCall) (haveOps : Finset IoreqOp) :
    List Ioreq → GrpcCall × Finset IoreqOp × CallError
  | [] => (call, haveOps, .ok)
  | req :: reqs =>
    match call.groups.slot req.op with
    | .group _ => (call, haveOps, .tooManyOperations)
    | .done => (call, haveOps, .alreadyInvoked)
    | .empty =>
      if !isLegalData req.op req.data then (call, haveOps, .invalidMetadata)
      else claimIoreqs set (call.claimIoreq set req) (insert req.op haveOps) reqs

def startIoreq (call : GrpcCall) (reqs : List Ioreq) (tag : BatchTag) : GrpcCall × CallError :=
  match reqs with
  | [] => (call, .ok)
  | req :: _ =>
    match call.claimIoreqs req.op ∅ reqs with
    | (call, haveOps, .ok) =>
      let call := { call with groups := call.groups.setUp req.op haveOps tag }
      (call.finishReadOps.earlyOutWriteOps, .ok)
    | (call, haveOps, e) => ({ call with groups := call.groups.unclaim haveOps }, e)

def batchTag (ops : List BatchOp) (tag : Nat) : BatchTag :=
  ⟨if ops.any fun o => o.op.finishesWithClose then .finishBatchWithClose else .finishBatch, tag⟩

/-- `grpc_call_start_batch`. -/
def startBatch (call : GrpcCall) (ops : List BatchOp) (tag : Nat) : GrpcCall × CallError :=
  if ops = [] then ({ call with cq := call.cq ++ [⟨tag, true, {}⟩] }, .ok)
  else match call.rewriteOps [] ops with
    | .error e => (call, e)
    | .ok reqs =>
      let (call, e) := call.startIoreq reqs (batchTag ops tag)
      (call.unlock, e)

end GrpcCall

inductive CallEvent where
  | startBatch (ops : List BatchOp) (tag : Nat)
  | onDoneSend (success : Bool)
  | onDoneRecv (success : Bool) (ops : List StreamOp) (state : StreamState)
  | cancel (status : StatusCode) (description : Option Bytes)
  | alarm (success : Bool)
  | destroy
  deriving DecidableEq

namespace GrpcCall

def step (call : GrpcCall) : CallEvent → Except CallFault GrpcCall
  | .startBatch ops tag => .ok (call.startBatch ops tag).1
  | .onDoneSend success => call.callOnDoneSend success
  | .onDoneRecv success ops state => call.callOnDoneRecv success ops state
  | .cancel status description => call.cancelWith status description
  | .alarm success => call.callAlarm success
  | .destroy => call.destroy

end GrpcCall

/-- A client sends one message, is sent one and asks for the status. -/
def exchange : List CallEvent :=
  [.startBatch [⟨.sendInitialMetadata [], 0⟩] 1, .startBatch [⟨.recvInitialMetadata, 0⟩] 2,
    .startBatch [⟨.recvStatusOnClient, 0⟩] 3, .onDoneSend true,
    .startBatch [⟨.sendMessage (some ⟨.none, [[1, 2]]⟩), 0⟩] 4, .onDoneSend true,
    .startBatch [⟨.sendCloseFromClient, 0⟩] 5, .onDoneSend true,
    .onDoneRecv true [.metadata ⟨[], false⟩, .beginMessage 3 0] .streamOpen,
    .startBatch [⟨.recvMessage, 0⟩] 6, .onDoneRecv true [.slice [1], .slice [2, 3]] .streamOpen,
    .onDoneRecv true [.metadata ⟨[⟨mdstr "grpc-status", mdstr "0"⟩], false⟩] .closed]

end CrowdSound.Core
