import CrowdSound.Core.Sending
import CrowdSound.Core.SingleBatches
import CrowdSound.Service.GRXConcurrentWriteable

/-!
# A remote procedure call of the application

The Objective-C call object starts the batches of a call of the core, one operation each, from
blocks on a serial queue. A network thread runs the handlers of the batches that have completed,
and the responses are parsed and handed to the application on the main queue.
-/

namespace CrowdSound.Client

open CrowdSound.Core

inductive GRXWriterState where
  | notStarted
  | started
  | paused
  | finished
  deriving DecidableEq

/-- `setState:` of the mapping writer that serializes the requests. It lets go of its input when
it is finished, started or not; every other state is passed on to the input, which can be set
from the started and the paused state only. -/
def GRXWriterState.set : GRXWriterState → GRXWriterState → GRXWriterState
  | _, .finished => .finished
  | .started, .paused | .paused, .paused => .paused
  | .started, .started | .paused, .started => .started
  | old, _ => old

@[simp] theorem GRXWriterState.set_finished (state : GRXWriterState) :
    state.set .finished = .finished := by
  cases state <;> rfl

@[simp] theorem GRXWriterState.finished_set (state : GRXWriterState) :
    GRXWriterState.finished.set state = .finished := by
  cases state <;> rfl

/-- `startWithWriteable:`, which has no effect without an input. -/
def GRXWriterState.start : GRXWriterState → GRXWriterState
  | .finished => .finished
  | _ => .started

inductive GRPCOperation where
  | sendMetadata (metadata : List Metadata)
  | recvMetadata
  | recvStatus
  | recvMessage
  | sendMessage (message : Bytes)
  | sendClose

/-- The handlers that a batch can be started with; its tag is a pointer to one. -/
inductive Handler where
  | sendMetadata
  | recvMetadata
  | recvStatus
  | recvMessage
  | sendMessage
  | sendClose
  deriving DecidableEq

namespace Handler

def tag : Handler → Nat
  | sendMetadata => 0
  | recvMetadata => 1
  | recvStatus => 2
  | recvMessage => 3
  | sendMessage => 4
  | sendClose => 5

def ofTag : Nat → Option Handler
  | 0 => some sendMetadata
  | 1 => some recvMetadata
  | 2 => some recvStatus
  | 3 => some recvMessage
  | 4 => some sendMessage
  | 5 => some sendClose
  | _ => none

@[simp] theorem ofTag_tag (handler : Handler) : ofTag handler.tag = some handler := by
  cases handler <;> rfl

theorem tag_injective : Function.Injective tag := by
  intro a b h
  have hof := congrArg ofTag h
  simpa using hof

end Handler

namespace GRPCOperation

/-- The core's operation; a message is one slice. -/
def op : GRPCOperation → GrpcOp
  | sendMetadata metadata => .sendInitialMetadata metadata
  | recvMetadata => .recvInitialMetadata
  | recvStatus => .recvStatusOnClient
  | recvMessage => .recvMessage
  | sendMessage message => .sendMessage (some ⟨.none, [message]⟩)
  | sendClose => .sendCloseFromClient

def handler : GRPCOperation → Handler
  | sendMetadata _ => .sendMetadata
  | recvMetadata => .recvMetadata
  | recvStatus => .recvStatus
  | recvMessage => .recvMessage
  | sendMessage _ => .sendMessage
  | sendClose => .sendClose

/-- The batch that `startBatchWithOperations:` makes of one operation. -/
def batch (operation : GRPCOperation) : List BatchOp := [⟨operation.op, 0⟩]

end GRPCOperation

def grpcErrorDomain : NSString := nsstring "io.grpc".toList

/-- `grpc_errorFromStatusCode:details:`, without the description. -/
def errorFromStatusCode (statusCode : StatusCode) : Option NSError :=
  if statusCode = .ok then none else some ⟨grpcErrorDomain, statusCode.toNat⟩

def errorCancelled : NSError := ⟨grpcErrorDomain, 1⟩

def errorInternal : NSError := ⟨grpcErrorDomain, 13⟩

def errorForBadProto : NSError := ⟨grpcErrorDomain, 13⟩

/-- `grpc_dataWithByteBuffer:`. What is left of a compressed message in an array of the compressed
length is up to the decompression. -/
def dataWithByteBuffer (decompress : CompressionAlgorithm → List Bytes → Bytes)
    (buffer : ByteBuffer) : Bytes :=
  match buffer.compression with
  | .none => buffer.slices.flatten
  | algorithm => decompress algorithm buffer.slices

/-- A block on the call queue. All but the last hold the call object weakly. -/
inductive CallBlock where
  | startRead
  | writeMessage (message : Bytes)
  | finishRequest
  | releaseWrappedCall
  deriving DecidableEq

/-- `handled` counts the completions that the network thread has handled, `responses` are the
messages that the application's writeable has received. -/
structure GRPCCall (ρ : Type) where
  wrappedCall : GrpcCall
  handled : Nat
  callQueue : List CallBlock
  responseWriteable : Option (GRXConcurrentWriteable Bytes)
  requestWriter : GRXWriterState
  /-- The application has a reference to the call. -/
  retained : Bool
  retainSelf : Bool
  deallocated : Bool
  responseHeaders : Option (List Metadata)
  responseTrailers : Option (List Metadata)
  responses : List (GRXMessage ρ)

/-- Why an event does not happen: it cannot happen now, an assertion of the core failed, or an
exception was raised. -/
inductive ClientFault where
  | notEnabled
  | aborted
  | raised (exception : NSException)
  deriving DecidableEq

inductive ClientEvent where
  | startWithWriteable (requestHeaders : List Metadata)
  /-- The request writer writes to the call. -/
  | writeValue (value : Bytes)
  | writesFinishedWithError (errorOrNil : Option NSError)
  /-- The call queue runs its first block. -/
  | callQueue
  /-- The network thread handles a completion, which may find no memory for a message. -/
  | completionQueue (outOfMemory : Bool)
  /-- The main queue runs its first block. -/
  | mainQueue
  | doneSend (success : Bool)
  | doneRecv (success : Bool) (ops : List StreamOp) (state : StreamState)
  | cancel
  | release
  | dealloc
  deriving DecidableEq

namespace GRPCCall

variable {ρ : Type}

/-- The core's call has no deadline. -/
def initWithHost (maxMessageLength : UInt32) (channelMetadata : List Metadata) : GRPCCall ρ where
  wrappedCall := .create true maxMessageLength channelMetadata false
  handled := 0
  callQueue := []
  responseWriteable := none
  requestWriter := .notStarted
  retained := true
  retainSelf := false
  deallocated := false
  responseHeaders := none
  responseTrailers := none
  responses := []

def started (c : GRPCCall ρ) : Bool := c.responseWriteable.isSome

def onCore (c : GRPCCall ρ) (e : CallEvent) : Except ClientFault (GRPCCall ρ) :=
  match c.wrappedCall.step e with
  | .ok call => .ok { c with wrappedCall := call }
  | .error .assertion => .error .aborted
  | .error .notInFlight => .error .notEnabled

/-- `startBatchWithOperations:errorHandler:`. -/
def startBatch (c : GRPCCall ρ) (operation : GRPCOperation) : Except ClientFault (GRPCCall ρ) :=
  match c.wrappedCall.startBatch operation.batch operation.handler.tag with
  | (call, .ok) => .ok { c with wrappedCall := call }
  | _ => .error (.raised .internalInconsistencyException)

def finishWithError (c : GRPCCall ρ) (errorOrNil : Option NSError) : GRPCCall ρ :=
  { c with
    retainSelf := false
    requestWriter := c.requestWriter.set .finished
    responseWriteable := c.responseWriteable.map fun w => match errorOrNil with
      | some error => w.cancelWithError error
      | none => w.enqueueSuccessfulCompletion }

def cancelCall (c : GRPCCall ρ) : GRPCCall ρ :=
  { c with wrappedCall := c.wrappedCall.grpcCallCancel }

def cancel (c : GRPCCall ρ) : GRPCCall ρ := (c.finishWithError (some errorCancelled)).cancelCall

def enqueue (c : GRPCCall ρ) (block : CallBlock) : GRPCCall ρ :=
  { c with callQueue := c.callQueue ++ [block] }

/-- Sent to a weak reference. The state of a call never leaves `notStarted`, so that it is never
found paused. -/
def startNextRead (c : GRPCCall ρ) : GRPCCall ρ :=
  if c.deallocated then c else c.enqueue .startRead

def startWithWriteable (c : GRPCCall ρ) (requestHeaders : List Metadata) :
    Except ClientFault (GRPCCall ρ) := do
  let c := { c with
    retainSelf := true
    responseWriteable := some GRXConcurrentWriteable.initWithWriteable }
  let c ← c.startBatch (.sendMetadata requestHeaders)
  let c ← c.startBatch .recvMetadata
  let c ← c.startBatch .recvStatus
  return { c with requestWriter := c.requestWriter.start }

def writeValue (c : GRPCCall ρ) (value : Bytes) : GRPCCall ρ :=
  { c with requestWriter := c.requestWriter.set .paused }.enqueue (.writeMessage value)

/-- The writer has let go of its input by then. -/
def writesFinishedWithError (c : GRPCCall ρ) (errorOrNil : Option NSError) : GRPCCall ρ :=
  let c := { c with requestWriter := .finished }
  match errorOrNil with
  | some _ => c.cancel
  | none => c.enqueue .finishRequest

def runCallBlock (c : GRPCCall ρ) : CallBlock → Except ClientFault (GRPCCall ρ)
  | .startRead => if c.deallocated then .ok c else c.startBatch .recvMessage
  | .writeMessage message =>
    if c.deallocated then .ok c else c.startBatch (.sendMessage message)
  | .finishRequest => if c.deallocated then .ok c else c.startBatch .sendClose
  | .releaseWrappedCall => c.onCore .destroy

/-- The writeable is there as long as the call or a block of the main queue holds it. -/
def holdsWriteable (c : GRPCCall ρ) : Bool :=
  !c.deallocated || c.responseWriteable.any fun w => w.writeableQueue.any fun
    | .cancellation _ _ => false
    | _ => true

section Handlers

variable (decompress : CompressionAlgorithm → List Bytes → Bytes) (parse : Bytes → Option ρ)

/-- What a read does with its message; `none` says that no more will come. -/
def messageReceived (c : GRPCCall ρ) (outOfMemory : Bool) : Option ByteBuffer → GRPCCall ρ
  | none => c
  | some message =>
    if outOfMemory then
      if c.deallocated then c else (c.finishWithError (some errorInternal)).cancelCall
    else if c.holdsWriteable then
      { c with responseWriteable :=
          c.responseWriteable.map fun w => w.enqueueValue (dataWithByteBuffer decompress message) }
    else c

def resumeRequests (c : GRPCCall ρ) : GRPCCall ρ :=
  if c.deallocated then c else { c with requestWriter := c.requestWriter.set .started }

def requestFailed (c : GRPCCall ρ) : GRPCCall ρ :=
  if c.deallocated then c else c.finishWithError (some errorInternal)

def headersReceived (c : GRPCCall ρ) (results : BatchResults) : GRPCCall ρ :=
  if c.deallocated then c
  else { c with responseHeaders := results.recvInitialMetadata }.startNextRead

def statusReceived (c : GRPCCall ρ) (results : BatchResults) : GRPCCall ρ :=
  if c.deallocated then c
  else { c with responseTrailers := results.recvTrailingMetadata }.finishWithError
    (errorFromStatusCode (results.recvStatus.getD .ok))

def runHandler (c : GRPCCall ρ) (completion : Completion) (outOfMemory : Bool) : GRPCCall ρ :=
  match Handler.ofTag completion.tag, completion.success with
  | some .recvMetadata, true => c.headersReceived completion.results
  | some .recvStatus, true => c.statusReceived completion.results
  | some .recvMessage, true =>
    c.messageReceived decompress outOfMemory completion.results.recvMessage
  | some .sendMessage, true => c.resumeRequests
  | some .sendMessage, false => c.requestFailed.resumeRequests
  | some .sendClose, false => c.requestFailed
  | _, _ => c

/-- What the writeable that parses the responses does with a message. -/
def receiveMessage (c : GRPCCall ρ) : GRXMessage Bytes → GRPCCall ρ
  | .writeValue value => match parse value with
    | some parsed => { c with responses := c.responses ++ [.writeValue parsed] }
    | none => if c.deallocated then c else c.finishWithError (some errorForBadProto)
  | .writesFinishedWithError errorOrNil =>
    { c with responses := c.responses ++ [.writesFinishedWithError errorOrNil] }

/-- The block of a value ends by asking for the next one if the value was written. -/
def continueReading (c : GRPCCall ρ) (written : Bool) : WriteableBlock Bytes → GRPCCall ρ
  | .value _ => if written then c.startNextRead else c
  | _ => c

def runMainBlock (c : GRPCCall ρ) (w : GRXConcurrentWriteable Bytes)
    (block : WriteableBlock Bytes) : GRPCCall ρ :=
  let w' := w.runBlock block
  let c := (w'.sent.drop w.sent.length).foldl (receiveMessage parse)
    { c with responseWriteable := some w' }
  c.continueReading w.writeable block

/-- Somebody holds the call object. The request writer does while it is at work. -/
def isReferenced (c : GRPCCall ρ) : Bool :=
  c.retained || c.retainSelf || c.requestWriter = .started || c.requestWriter = .paused

def step (c : GRPCCall ρ) : ClientEvent → Except ClientFault (GRPCCall ρ)
  | .startWithWriteable requestHeaders =>
    if c.retained then c.startWithWriteable requestHeaders else .error .notEnabled
  | .writeValue value =>
    if c.requestWriter = .started then .ok (c.writeValue value) else .error .notEnabled
  | .writesFinishedWithError errorOrNil =>
    if c.requestWriter = .started ∨ c.requestWriter = .paused then
      .ok (c.writesFinishedWithError errorOrNil)
    else .error .notEnabled
  | .callQueue => match c.callQueue with
    | [] => .error .notEnabled
    | block :: rest => { c with callQueue := rest }.runCallBlock block
  | .completionQueue outOfMemory => match c.wrappedCall.cq.drop c.handled with
    | [] => .error .notEnabled
    | completion :: _ =>
      .ok ({ c with handled := c.handled + 1 }.runHandler decompress completion outOfMemory)
  | .mainQueue => match c.responseWriteable with
    | none => .error .notEnabled
    | some w => match w.writeableQueue with
      | [] => .error .notEnabled
      | block :: rest => .ok (c.runMainBlock parse { w with writeableQueue := rest } block)
  | .doneSend success => c.onCore (.onDoneSend success)
  | .doneRecv success ops state => c.onCore (.onDoneRecv success ops state)
  | .cancel => if c.retained then .ok c.cancel else .error .notEnabled
  | .release => if c.retained then .ok { c with retained := false } else .error .notEnabled
  | .dealloc =>
    if c.isReferenced || c.deallocated then .error .notEnabled
    else .ok ({ c with deallocated := true }.enqueue .releaseWrappedCall)

end Handlers

/-- What is left of a compressed message when it is not decompressed. -/
def joinSlices (_ : CompressionAlgorithm) (slices : List Bytes) : Bytes := slices.flatten

/-- A call with one request and one response, which ends with the status `ok`. -/
def session : List ClientEvent :=
  [.startWithWriteable [], .writeValue [1, 2], .callQueue, .doneSend true, .completionQueue false,
    .doneSend true, .completionQueue false, .writesFinishedWithError none, .callQueue,
    .doneSend true, .completionQueue false,
    .doneRecv true [.metadata ⟨[], false⟩] .streamOpen, .completionQueue false, .callQueue,
    .doneRecv true [.beginMessage 3 0, .slice [1], .slice [2, 3]] .streamOpen,
    .completionQueue false, .mainQueue, .callQueue,
    .doneRecv true [.metadata ⟨[⟨mdstr "grpc-status", mdstr "0"⟩], false⟩] .closed,
    .completionQueue false, .completionQueue false, .mainQueue]

end GRPCCall

end CrowdSound.Client
