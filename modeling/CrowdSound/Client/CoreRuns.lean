import CrowdSound.Client.CallRuns

/-!
# The core under a call object

What the events of a call object do, case by case, and which events of the core they stand for.
-/

namespace CrowdSound.Client

open CrowdSound.Core CrowdSound.Core.GrpcCall

def CallBlock.operation : CallBlock → Option GRPCOperation
  | startRead => some .recvMessage
  | writeMessage message => some (.sendMessage message)
  | finishRequest => some .sendClose
  | releaseWrappedCall => none

def readMessage (completion : Completion) : Option ByteBuffer :=
  if completion.tag = Handler.recvMessage.tag ∧ completion.success = true then
    completion.results.recvMessage
  else none

def batchEvent (operation : GRPCOperation) : CallEvent :=
  .startBatch operation.batch operation.handler.tag

/-- `grpc_call_cancel`. -/
def cancelEvent : CallEvent := .cancel .cancelled (some (mdstr "Cancelled"))

namespace GRPCCall

variable {ρ : Type} (decompress : CompressionAlgorithm → List Bytes → Bytes)
  (parse : Bytes → Option ρ)

def begun (c : GRPCCall ρ) : GRPCCall ρ :=
  { c with
    retainSelf := true
    responseWriteable := some GRXConcurrentWriteable.initWithWriteable }

def withWriter (c : GRPCCall ρ) (state : GRXWriterState) : GRPCCall ρ :=
  { c with requestWriter := state }

def withQueue (c : GRPCCall ρ) (blocks : List CallBlock) : GRPCCall ρ :=
  { c with callQueue := blocks }

def withCall (c : GRPCCall ρ) (call : GrpcCall) : GRPCCall ρ := { c with wrappedCall := call }

/-- One more completion is taken from the queue. -/
def counted (c : GRPCCall ρ) : GRPCCall ρ := { c with handled := c.handled + 1 }

def valueEnqueued (c : GRPCCall ρ) (value : Bytes) : GRPCCall ρ :=
  { c with responseWriteable := c.responseWriteable.map fun w => w.enqueueValue value }

def headersSet (c : GRPCCall ρ) (results : BatchResults) : GRPCCall ρ :=
  { c with responseHeaders := results.recvInitialMetadata }

def trailersSet (c : GRPCCall ρ) (results : BatchResults) : GRPCCall ρ :=
  { c with responseTrailers := results.recvTrailingMetadata }

inductive Handles (c : GRPCCall ρ) (completion : Completion) (outOfMemory : Bool) :
    GRPCCall ρ → Prop where
  | headers (hd : c.deallocated = false) (htag : completion.tag = Handler.recvMetadata.tag)
      (hsuccess : completion.success = true) :
      Handles c completion outOfMemory
        ((c.headersSet completion.results).enqueue .startRead)
  | status (hd : c.deallocated = false) (htag : completion.tag = Handler.recvStatus.tag)
      (hsuccess : completion.success = true) :
      Handles c completion outOfMemory
        ((c.trailersSet completion.results).finishWithError
          (errorFromStatusCode (completion.results.recvStatus.getD .ok)))
  | value (message : ByteBuffer) (hd : c.holdsWriteable = true) (hmemory : outOfMemory = false)
      (hmessage : readMessage completion = some message) :
      Handles c completion outOfMemory (c.valueEnqueued (dataWithByteBuffer decompress message))
  | noMemory (message : ByteBuffer) (hd : c.deallocated = false) (hmemory : outOfMemory = true)
      (hmessage : readMessage completion = some message) :
      Handles c completion outOfMemory (c.finishWithError (some errorInternal)).cancelCall
  | resumed (hd : c.deallocated = false) (htag : completion.tag = Handler.sendMessage.tag)
      (hsuccess : completion.success = true) :
      Handles c completion outOfMemory (c.withWriter (c.requestWriter.set .started))
  | failed (hd : c.deallocated = false) (hsuccess : completion.success = false)
      (htag : completion.tag = Handler.sendMessage.tag ∨
        completion.tag = Handler.sendClose.tag) :
      Handles c completion outOfMemory (c.finishWithError (some errorInternal))
  | ignored (hmessage : c.deallocated = true ∨ readMessage completion = none)
      (htag : c.deallocated = true ∨ completion.success = false ∨
        completion.tag ≠ Handler.recvMetadata.tag ∧ completion.tag ≠ Handler.recvStatus.tag)
      (hsent : c.deallocated = true ∨ completion.tag ≠ Handler.sendMessage.tag) :
      Handles c completion outOfMemory c

private theorem runHandler_of_tag {completion : Completion} {handler : Handler}
    (h : Handler.ofTag completion.tag = some handler) : completion.tag = handler.tag := by
  unfold Handler.ofTag at h
  split at h <;> cases h <;> assumption

private theorem messageReceived_cases (c : GRPCCall ρ) {completion : Completion}
    (outOfMemory : Bool)
    (htag : completion.tag = Handler.recvMessage.tag) (hsuccess : completion.success = true) :
    Handles decompress c completion outOfMemory
      (c.messageReceived decompress outOfMemory completion.results.recvMessage) := by
  have hread : readMessage completion = completion.results.recvMessage :=
    if_pos ⟨htag, hsuccess⟩
  have hignored : c.deallocated = true ∨ readMessage completion = none →
      Handles decompress c completion outOfMemory c := by
    intro h
    refine .ignored h (Or.inr (Or.inr ⟨?_, ?_⟩)) (Or.inr ?_) <;> rw [htag] <;> decide
  unfold messageReceived
  split
  · next hnone => exact hignored (Or.inr (hread.trans hnone))
  · next message hsome =>
      have hmessage := hread.trans hsome
      cases outOfMemory with
      | true =>
          rw [if_pos rfl]
          cases hd : c.deallocated with
          | true => exact hignored (Or.inl hd)
          | false => exact .noMemory message hd rfl hmessage
      | false =>
          rw [if_neg Bool.false_ne_true]
          split
          · next hholds => exact .value message hholds rfl hmessage
          · next hno =>
              apply hignored
              left
              cases hd : c.deallocated with
              | true => rfl
              | false => exact absurd (by simp [holdsWriteable, hd]) hno

private theorem runHandler_cases (c : GRPCCall ρ) (completion : Completion) (outOfMemory : Bool) :
    Handles decompress c completion outOfMemory
      (c.runHandler decompress completion outOfMemory) := by
  have hdead : c.deallocated = true → Handles decompress c completion outOfMemory c :=
    fun hd => .ignored (Or.inl hd) (Or.inl hd) (Or.inl hd)
  -- a completion that no handler takes notice of
  have hother : completion.tag ≠ Handler.recvMessage.tag ∨ completion.success = false →
      completion.success = false ∨ completion.tag ≠ Handler.recvMetadata.tag ∧
        completion.tag ≠ Handler.recvStatus.tag →
      completion.tag ≠ Handler.sendMessage.tag →
      Handles decompress c completion outOfMemory c := by
    intro hmessage htag hsent
    refine .ignored (Or.inr ?_) (Or.inr htag) (Or.inr hsent)
    rw [readMessage, if_neg]
    rintro ⟨hread, hsuccess⟩
    rcases hmessage with hno | hfailed
    · exact hno hread
    · simp [hsuccess] at hfailed
  cases hof : Handler.ofTag completion.tag with
  | none =>
      have hno : ∀ handler : Handler, completion.tag ≠ handler.tag := by
        intro handler htag
        rw [htag, Handler.ofTag_tag] at hof
        cases hof
      rw [runHandler, hof]
      exact hother (Or.inl (hno _)) (Or.inr ⟨hno _, hno _⟩) (hno _)
  | some handler =>
      have htag := runHandler_of_tag hof
      have hne : ∀ other : Handler, handler ≠ other → completion.tag ≠ other.tag := by
        intro other hne hother
        exact hne (Handler.tag_injective (htag.symm.trans hother))
      cases handler with
      | sendMetadata =>
          rw [runHandler, hof]
          exact hother (Or.inl (hne _ (by decide)))
            (Or.inr ⟨hne _ (by decide), hne _ (by decide)⟩) (hne _ (by decide))
      | recvMetadata =>
          cases hsuccess : completion.success with
          | false =>
              rw [runHandler, hof, hsuccess]
              exact hother (Or.inr hsuccess) (Or.inl hsuccess) (hne _ (by decide))
          | true =>
              rw [runHandler, hof, hsuccess]
              dsimp only
              rw [headersReceived]
              split
              · next hd => exact hdead hd
              · next hd =>
                  have halive : c.deallocated = false := by simpa using hd
                  rw [startNextRead, if_neg (by simp [halive])]
                  exact .headers halive htag hsuccess
      | recvStatus =>
          cases hsuccess : completion.success with
          | false =>
              rw [runHandler, hof, hsuccess]
              exact hother (Or.inr hsuccess) (Or.inl hsuccess) (hne _ (by decide))
          | true =>
              rw [runHandler, hof, hsuccess]
              dsimp only
              rw [statusReceived]
              split
              · next hd => exact hdead hd
              · next hd => exact .status (by simpa using hd) htag hsuccess
      | recvMessage =>
          cases hsuccess : completion.success with
          | false =>
              rw [runHandler, hof, hsuccess]
              exact hother (Or.inr hsuccess) (Or.inl hsuccess) (hne _ (by decide))
          | true =>
              rw [runHandler, hof, hsuccess]
              exact messageReceived_cases decompress c outOfMemory htag hsuccess
      | sendMessage =>
          cases hsuccess : completion.success with
          | false =>
              rw [runHandler, hof, hsuccess]
              dsimp only
              rw [requestFailed, resumeRequests]
              split
              · next hd => exact hdead hd
              · next hd =>
                  have halive : c.deallocated = false := by simpa using hd
                  have hkept : (c.finishWithError (some errorInternal)).deallocated = false :=
                    halive
                  rw [if_neg (by simp [hkept])]
                  have hset : (c.finishWithError (some errorInternal)).requestWriter.set .started =
                      (c.finishWithError (some errorInternal)).requestWriter := by
                    simp [finishWithError]
                  rw [hset]
                  exact .failed halive hsuccess (Or.inl htag)
          | true =>
              rw [runHandler, hof, hsuccess]
              dsimp only
              rw [resumeRequests]
              split
              · next hd => exact hdead hd
              · next hd => exact .resumed (by simpa using hd) htag hsuccess
      | sendClose =>
          cases hsuccess : completion.success with
          | false =>
              rw [runHandler, hof, hsuccess]
              dsimp only
              rw [requestFailed]
              split
              · next hd => exact hdead hd
              · next hd => exact .failed (by simpa using hd) hsuccess (Or.inr htag)
          | true =>
              rw [runHandler, hof, hsuccess]
              exact hother (Or.inl (hne _ (by decide)))
                (Or.inr ⟨hne _ (by decide), hne _ (by decide)⟩) (hne _ (by decide))

def withWriteable (c : GRPCCall ρ) (w : GRXConcurrentWriteable Bytes) : GRPCCall ρ :=
  { c with responseWriteable := some w }

def responded (c : GRPCCall ρ) (message : GRXMessage ρ) : GRPCCall ρ :=
  { c with responses := c.responses ++ [message] }

def badResponse (c : GRPCCall ρ) : GRPCCall ρ :=
  if c.deallocated then c else c.finishWithError (some errorForBadProto)

/-- What a block of the main queue does, which has been taken from the queue of `w`. -/
inductive Runs (c : GRPCCall ρ) (w : GRXConcurrentWriteable Bytes) :
    WriteableBlock Bytes → GRPCCall ρ → Prop where
  | parsed (value : Bytes) (response : ρ) (hw : w.writeable = true)
      (hparse : parse value = some response) :
      Runs c w (.value value)
        ((c.withWriteable (w.runBlock (.value value))).responded
          (.writeValue response)).startNextRead
  | bad (value : Bytes) (hw : w.writeable = true) (hparse : parse value = none) :
      Runs c w (.value value)
        (c.withWriteable (w.runBlock (.value value))).badResponse.startNextRead
  | completed (hw : w.writeable = true) (hf : w.alreadyFinished = false) :
      Runs c w .successfulCompletion ((c.withWriteable (w.runBlock .successfulCompletion)).responded
        (.writesFinishedWithError none))
  | cancelled (error : NSError) :
      Runs c w (.cancellation true error)
        ((c.withWriteable (w.runBlock (.cancellation true error))).responded
          (.writesFinishedWithError (some error)))
  | silent (block : WriteableBlock Bytes) (hsent : (w.runBlock block).sent = w.sent)
      (hvalue : ∀ value, block = .value value → w.writeable = false) :
      Runs c w block (c.withWriteable (w.runBlock block))

private theorem runMainBlock_silent (c : GRPCCall ρ) {w : GRXConcurrentWriteable Bytes}
    {block : WriteableBlock Bytes} (hsent : (w.runBlock block).sent = w.sent)
    (hvalue : ∀ value, block = .value value → w.writeable = false) :
    c.runMainBlock parse w block = c.withWriteable (w.runBlock block) := by
  have hnone : (w.runBlock block).sent.drop w.sent.length = [] := by simp [hsent]
  unfold runMainBlock
  dsimp only
  rw [hnone, List.foldl_nil]
  cases block with
  | value value =>
      rw [continueReading, if_neg (by simp [hvalue value rfl])]
      rfl
  | _ => rfl

private theorem runMainBlock_message (c : GRPCCall ρ) {w : GRXConcurrentWriteable Bytes}
    {block : WriteableBlock Bytes} {message : GRXMessage Bytes}
    (hsent : (w.runBlock block).sent = w.sent ++ [message]) :
    c.runMainBlock parse w block =
      ((c.withWriteable (w.runBlock block)).receiveMessage parse message).continueReading
        w.writeable block := by
  have hone : (w.runBlock block).sent.drop w.sent.length = [message] := by simp [hsent]
  unfold runMainBlock
  dsimp only
  rw [hone, List.foldl_cons, List.foldl_nil]
  rfl

theorem runMainBlock_cases (c : GRPCCall ρ) (w : GRXConcurrentWriteable Bytes)
    (block : WriteableBlock Bytes) : Runs parse c w block (c.runMainBlock parse w block) := by
  have hsilent : (w.runBlock block).sent = w.sent →
      (∀ value, block = .value value → w.writeable = false) →
      Runs parse c w block (c.runMainBlock parse w block) := by
    intro hsent hvalue
    rw [runMainBlock_silent parse c hsent hvalue]
    exact .silent block hsent hvalue
  cases block with
  | value value =>
      cases hw : w.writeable with
      | false =>
          apply hsilent
          · simp [GRXConcurrentWriteable.runBlock, hw]
          · exact fun _ _ => hw
      | true =>
          have hsent : (w.runBlock (.value value)).sent = w.sent ++ [.writeValue value] := by
            simp [GRXConcurrentWriteable.runBlock, hw]
          rw [runMainBlock_message parse c hsent]
          rw [continueReading, if_pos hw, receiveMessage]
          cases hparse : parse value with
          | some response => exact .parsed value response hw hparse
          | none => exact .bad value hw hparse
  | successfulCompletion =>
      cases hf : w.alreadyFinished with
      | true =>
          apply hsilent
          · simp [GRXConcurrentWriteable.runBlock, hf]
          · simp
      | false =>
          cases hw : w.writeable with
          | false =>
              apply hsilent
              · simp [GRXConcurrentWriteable.runBlock, hf, hw]
              · simp
          | true =>
              have hsent : (w.runBlock .successfulCompletion).sent =
                  w.sent ++ [.writesFinishedWithError none] := by
                simp [GRXConcurrentWriteable.runBlock, hf, hw]
              rw [runMainBlock_message parse c hsent]
              exact .completed hw hf
  | cancellation writeable error =>
      cases writeable with
      | false =>
          apply hsilent
          · simp [GRXConcurrentWriteable.runBlock]
          · simp
      | true =>
          have hsent : (w.runBlock (.cancellation true error)).sent =
              w.sent ++ [.writesFinishedWithError (some error)] := by
            simp [GRXConcurrentWriteable.runBlock]
          rw [runMainBlock_message parse c hsent]
          exact .cancelled error

inductive Steps (c : GRPCCall ρ) : ClientEvent → GRPCCall ρ → Prop where
  | started (headers : List Metadata) (c₁ c₂ c₃ : GRPCCall ρ) (hretained : c.retained = true)
      (h₁ : c.begun.startBatch (.sendMetadata headers) = .ok c₁)
      (h₂ : c₁.startBatch .recvMetadata = .ok c₂) (h₃ : c₂.startBatch .recvStatus = .ok c₃) :
      Steps c (.startWithWriteable headers) (c₃.withWriter c₃.requestWriter.start)
  | valueWritten (value : Bytes) (hw : c.requestWriter = .started) :
      Steps c (.writeValue value) ((c.withWriter .paused).enqueue (.writeMessage value))
  | writesFailed (error : NSError) (hw : c.requestWriter = .started ∨ c.requestWriter = .paused) :
      Steps c (.writesFinishedWithError (some error)) (c.withWriter .finished).cancel
  | writesEnded (hw : c.requestWriter = .started ∨ c.requestWriter = .paused) :
      Steps c (.writesFinishedWithError none) ((c.withWriter .finished).enqueue .finishRequest)
  | batch (block : CallBlock) (rest : List CallBlock) (operation : GRPCOperation)
      (c' : GRPCCall ρ) (hq : c.callQueue = block :: rest)
      (hop : block.operation = some operation) (hd : c.deallocated = false)
      (hstart : (c.withQueue rest).startBatch operation = .ok c') : Steps c .callQueue c'
  | skipped (block : CallBlock) (rest : List CallBlock) (operation : GRPCOperation)
      (hq : c.callQueue = block :: rest) (hop : block.operation = some operation)
      (hd : c.deallocated = true) : Steps c .callQueue (c.withQueue rest)
  | destroyed (rest : List CallBlock) (c' : GRPCCall ρ)
      (hq : c.callQueue = .releaseWrappedCall :: rest)
      (hdestroy : (c.withQueue rest).onCore .destroy = .ok c') : Steps c .callQueue c'
  | handled (outOfMemory : Bool) (completion : Completion) (rest : List Completion)
      (c' : GRPCCall ρ) (hq : c.wrappedCall.cq.drop c.handled = completion :: rest)
      (hhandler : Handles decompress c.counted completion outOfMemory c') :
      Steps c (.completionQueue outOfMemory) c'
  | ran (w : GRXConcurrentWriteable Bytes) (block : WriteableBlock Bytes)
      (rest : List (WriteableBlock Bytes)) (c' : GRPCCall ρ) (hw : c.responseWriteable = some w)
      (hq : w.writeableQueue = block :: rest)
      (hruns : Runs parse c { w with writeableQueue := rest } block c') : Steps c .mainQueue c'
  | sent (success : Bool) (c' : GRPCCall ρ) (hcore : c.onCore (.onDoneSend success) = .ok c') :
      Steps c (.doneSend success) c'
  | received (success : Bool) (ops : List StreamOp) (state : StreamState) (c' : GRPCCall ρ)
      (hcore : c.onCore (.onDoneRecv success ops state) = .ok c') :
      Steps c (.doneRecv success ops state) c'
  | cancelled (hretained : c.retained = true) : Steps c .cancel c.cancel
  | released (hretained : c.retained = true) : Steps c .release { c with retained := false }
  | deallocated (hreferenced : c.isReferenced = false) (hd : c.deallocated = false) :
      Steps c .dealloc ({ c with deallocated := true }.enqueue .releaseWrappedCall)

theorem step_cases {c c' : GRPCCall ρ} {e : ClientEvent}
    (h : c.step decompress parse e = .ok c') : Steps decompress parse c e c' := by
  cases e with
  | startWithWriteable headers =>
      unfold step at h
      dsimp only at h
      split at h
      · next hretained =>
          obtain ⟨c₁, h₁, h⟩ := bind_eq_ok.mp h
          obtain ⟨c₂, h₂, h⟩ := bind_eq_ok.mp h
          obtain ⟨c₃, h₃, h⟩ := bind_eq_ok.mp h
          cases h
          exact .started headers c₁ c₂ c₃ hretained h₁ h₂ h₃
      · cases h
  | writeValue value =>
      unfold step at h
      dsimp only at h
      split at h
      · next hw =>
          cases h
          have hset : c.requestWriter.set .paused = .paused := by simp [hw, GRXWriterState.set]
          rw [writeValue, hset]
          exact .valueWritten value hw
      · cases h
  | writesFinishedWithError errorOrNil =>
      unfold step at h
      dsimp only at h
      split at h
      · next hw =>
          cases h
          cases errorOrNil with
          | none => exact .writesEnded hw
          | some error => exact .writesFailed error hw
      · cases h
  | callQueue =>
      unfold step at h
      dsimp only at h
      split at h
      · cases h
      · next block rest hq =>
          have hbatch : ∀ operation, block.operation = some operation →
              (if c.deallocated then .ok (c.withQueue rest)
                else (c.withQueue rest).startBatch operation) = .ok c' →
              Steps decompress parse c .callQueue c' := by
            intro operation hop hrun
            split at hrun
            · next hd =>
                cases hrun
                exact .skipped block rest operation hq hop hd
            · next hd => exact .batch block rest operation c' hq hop (by simpa using hd) hrun
          cases block with
          | startRead => exact hbatch _ rfl h
          | writeMessage message => exact hbatch _ rfl h
          | finishRequest => exact hbatch _ rfl h
          | releaseWrappedCall => exact .destroyed rest c' hq h
  | completionQueue outOfMemory =>
      unfold step at h
      dsimp only at h
      split at h
      · cases h
      · next completion rest hq =>
          cases h
          exact .handled outOfMemory completion rest _ hq (runHandler_cases _ _ _ _)
  | mainQueue =>
      unfold step at h
      dsimp only at h
      split at h
      · cases h
      · next w hw =>
          split at h
          · cases h
          · next block rest hq =>
              cases h
              exact .ran w block rest _ hw hq (runMainBlock_cases _ _ _ _)
  | doneSend success => exact .sent success c' h
  | doneRecv success ops state => exact .received success ops state c' h
  | cancel =>
      unfold step at h
      dsimp only at h
      split at h
      · next hretained =>
          cases h
          exact .cancelled hretained
      · cases h
  | release =>
      unfold step at h
      dsimp only at h
      split at h
      · next hretained =>
          cases h
          exact .released hretained
      · cases h
  | dealloc =>
      unfold step at h
      dsimp only at h
      split at h
      · cases h
      · next hno =>
          cases h
          rw [Bool.or_eq_true, not_or] at hno
          exact .deallocated (by simpa using hno.1) (by simpa using hno.2)

theorem isReferenced_eq_false {c : GRPCCall ρ} :
    c.isReferenced = false ↔ c.retained = false ∧ c.retainSelf = false ∧
      c.requestWriter ≠ .started ∧ c.requestWriter ≠ .paused := by
  simp [isReferenced, and_assoc]

def coreEvents (c : GRPCCall ρ) : ClientEvent → List CallEvent
  | .startWithWriteable headers =>
    [batchEvent (.sendMetadata headers), batchEvent .recvMetadata, batchEvent .recvStatus]
  | .writesFinishedWithError (some _) => [cancelEvent]
  | .callQueue => match c.callQueue with
    | [] => []
    | block :: _ => match block.operation with
      | some operation => if c.deallocated then [] else [batchEvent operation]
      | none => [.destroy]
  | .completionQueue outOfMemory => match c.wrappedCall.cq.drop c.handled with
    | [] => []
    | completion :: _ =>
      if outOfMemory && !c.deallocated && (readMessage completion).isSome then [cancelEvent] else []
  | .doneSend success => [.onDoneSend success]
  | .doneRecv success ops state => [.onDoneRecv success ops state]
  | .cancel => [cancelEvent]
  | _ => []

theorem startBatch_ok {c c' : GRPCCall ρ} {operation : GRPCOperation} :
    c.startBatch operation = .ok c' ↔
      (c.wrappedCall.startBatch operation.batch operation.handler.tag).2 = .ok ∧
        c' = c.withCall (c.wrappedCall.startBatch operation.batch operation.handler.tag).1 := by
  unfold startBatch withCall
  generalize c.wrappedCall.startBatch operation.batch operation.handler.tag = r
  rcases r with ⟨call, e⟩
  cases e <;> simp [eq_comm]

theorem onCore_ok {c c' : GRPCCall ρ} {e : CallEvent} :
    c.onCore e = .ok c' ↔ ∃ call, c.wrappedCall.step e = .ok call ∧ c' = c.withCall call := by
  unfold onCore withCall
  cases h : c.wrappedCall.step e with
  | ok call => simp [eq_comm]
  | error fault => cases fault <;> simp

theorem step_cancelEvent (call : GrpcCall) : call.step cancelEvent = .ok call.grpcCallCancel := by
  have hne : StatusCode.cancelled ≠ .ok := by decide
  rw [cancelEvent, GrpcCall.step, cancelWith, if_neg hne]
  rfl

theorem readMessage_tag {completion : Completion} {handler : Handler}
    (h : completion.tag = handler.tag) (hne : handler ≠ .recvMessage) :
    readMessage completion = none := by
  rw [readMessage, if_neg]
  rintro ⟨hread, _⟩
  exact hne (Handler.tag_injective (h.symm.trans hread))

theorem readMessage_some {completion : Completion} {message : ByteBuffer}
    (h : readMessage completion = some message) :
    completion.tag = Handler.recvMessage.tag := by
  unfold readMessage at h
  split at h
  · next hread => exact hread.1
  · cases h

theorem runMainBlock_kept {c c' : GRPCCall ρ} {w : GRXConcurrentWriteable Bytes}
    {block : WriteableBlock Bytes} (h : Runs parse c w block c') :
    c'.wrappedCall = c.wrappedCall ∧ c'.handled = c.handled := by
  have hnext : ∀ c : GRPCCall ρ, c.startNextRead.wrappedCall = c.wrappedCall ∧
      c.startNextRead.handled = c.handled := by
    intro c
    unfold startNextRead
    split <;> exact ⟨rfl, rfl⟩
  cases h with
  | parsed => exact hnext _
  | bad value _ _ =>
      rw [(hnext _).1, (hnext _).2, badResponse]
      split <;> exact ⟨rfl, rfl⟩
  | completed => exact ⟨rfl, rfl⟩
  | cancelled => exact ⟨rfl, rfl⟩
  | silent => exact ⟨rfl, rfl⟩

theorem step_core {c c' : GRPCCall ρ} {e : ClientEvent}
    (h : c.step decompress parse e = .ok c') :
    EventRun.run GrpcCall.step c.wrappedCall (coreEvents c e) = .ok c'.wrappedCall := by
  have hcancel : EventRun.run GrpcCall.step c.wrappedCall [cancelEvent] =
      .ok c.wrappedCall.grpcCallCancel := by
    rw [EventRun.run_singleton, step_cancelEvent]
  cases step_cases decompress parse h with
  | started headers c₁ c₂ c₃ _ h₁ h₂ h₃ =>
      obtain ⟨_, rfl⟩ := startBatch_ok.mp h₁
      obtain ⟨_, rfl⟩ := startBatch_ok.mp h₂
      obtain ⟨_, rfl⟩ := startBatch_ok.mp h₃
      rfl
  | valueWritten => rfl
  | writesFailed => exact hcancel
  | writesEnded => rfl
  | batch block rest operation _ hq hop hd hstart =>
      obtain ⟨_, rfl⟩ := startBatch_ok.mp hstart
      simp only [coreEvents, hq, hop, hd, Bool.false_eq_true, if_false]
      rfl
  | skipped block rest operation hq hop hd =>
      simp only [coreEvents, hq, hop, hd, if_true]
      rfl
  | destroyed rest _ hq hdestroy =>
      obtain ⟨call, hcall, rfl⟩ := onCore_ok.mp hdestroy
      simp only [coreEvents, hq, CallBlock.operation]
      rw [EventRun.run_singleton]
      exact hcall
  | handled outOfMemory completion rest _ hq hhandler =>
      have hnone : outOfMemory = false ∨ c.deallocated = true ∨ readMessage completion = none →
          coreEvents c (.completionQueue outOfMemory) = [] := by
        intro hwhy
        simp only [coreEvents, hq]
        rcases hwhy with hm | hd | hr
        · simp [hm]
        · simp [hd]
        · simp [hr]
      cases hhandler with
      | headers _ htag _ =>
          rw [hnone (Or.inr (Or.inr (readMessage_tag htag (by decide))))]
          rfl
      | status _ htag _ =>
          rw [hnone (Or.inr (Or.inr (readMessage_tag htag (by decide))))]
          rfl
      | value message _ hmemory _ =>
          rw [hnone (Or.inl hmemory)]
          rfl
      | noMemory message hd hmemory hmessage =>
          have hd' : c.deallocated = false := hd
          simp only [coreEvents, hq, hmemory, hd', hmessage]
          exact hcancel
      | resumed _ htag _ =>
          rw [hnone (Or.inr (Or.inr (readMessage_tag htag (by decide))))]
          rfl
      | failed _ _ htag =>
          rcases htag with htag | htag <;>
            rw [hnone (Or.inr (Or.inr (readMessage_tag htag (by decide))))] <;> rfl
      | ignored hmessage _ _ =>
          rw [hnone (Or.inr hmessage)]
          rfl
  | ran w block rest _ _ _ hruns =>
      rw [(runMainBlock_kept parse hruns).1]
      rfl
  | sent success _ hcore =>
      obtain ⟨call, hcall, rfl⟩ := onCore_ok.mp hcore
      rw [coreEvents, EventRun.run_singleton]
      exact hcall
  | received success ops state _ hcore =>
      obtain ⟨call, hcall, rfl⟩ := onCore_ok.mp hcore
      rw [coreEvents, EventRun.run_singleton]
      exact hcall
  | cancelled => exact hcancel
  | released => rfl
  | deallocated => rfl

end GRPCCall

end CrowdSound.Client
