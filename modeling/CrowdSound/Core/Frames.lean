import CrowdSound.Core.Completions

/-!
# What the other steps leave alone

Recording a status, taking apart what a receive brought and starting new work for the transport
touch fields of their own.
-/

namespace CrowdSound.Core.GrpcCall

open OpGroups

/-- The fields that receiving leaves alone. -/
structure SameRequests (call call' : GrpcCall) : Prop where
  isClient : call'.isClient = call.isClient
  maxMessageLength : call'.maxMessageLength = call.maxMessageLength
  writeState : call'.writeState = call.writeState
  sending : call'.sending = call.sending
  receiving : call'.receiving = call.receiving
  destroyCalled : call'.destroyCalled = call.destroyCalled
  lastSendContains : call'.lastSendContains = call.lastSendContains
  groups : call'.groups = call.groups
  requestData : call'.requestData = call.requestData
  requestFlags : call'.requestFlags = call.requestFlags
  completedRequests : call'.completedRequests = call.completedRequests
  sendInitialMetadata : call'.sendInitialMetadata = call.sendInitialMetadata
  recvMessage : call'.recvMessage = call.recvMessage
  cq : call'.cq = call.cq
  transportOps : call'.transportOps = call.transportOps

theorem SameRequests.refl (call : GrpcCall) : SameRequests call call := by
  constructor <;> rfl

theorem SameRequests.trans {c c' c'' : GrpcCall} (h : SameRequests c c')
    (h' : SameRequests c' c'') : SameRequests c c'' where
  isClient := h'.isClient.trans h.isClient
  maxMessageLength := h'.maxMessageLength.trans h.maxMessageLength
  writeState := h'.writeState.trans h.writeState
  sending := h'.sending.trans h.sending
  receiving := h'.receiving.trans h.receiving
  destroyCalled := h'.destroyCalled.trans h.destroyCalled
  lastSendContains := h'.lastSendContains.trans h.lastSendContains
  groups := h'.groups.trans h.groups
  requestData := h'.requestData.trans h.requestData
  requestFlags := h'.requestFlags.trans h.requestFlags
  completedRequests := h'.completedRequests.trans h.completedRequests
  sendInitialMetadata := h'.sendInitialMetadata.trans h.sendInitialMetadata
  recvMessage := h'.recvMessage.trans h.recvMessage
  cq := h'.cq.trans h.cq
  transportOps := h'.transportOps.trans h.transportOps

private theorem setStatusCode_same (call : GrpcCall) (source : StatusSource) (status : StatusCode) :
    SameRequests call (call.setStatusCode source status) := by
  unfold setStatusCode
  split
  · exact .refl call
  · constructor <;> rfl

private theorem setStatusDetails_same (call : GrpcCall) (source : StatusSource)
    (details : Option Bytes) : SameRequests call (call.setStatusDetails source details) := by
  constructor <;> rfl

theorem cancel_same (call : GrpcCall) (status : StatusCode) (description : Option Bytes) :
    SameRequests call (call.cancel status description) := by
  have h := (call.setStatusCode_same .fromApiOverride status).trans
    (setStatusDetails_same _ .fromApiOverride description)
  refine h.trans ?_
  constructor <;> rfl

theorem setSendStatus_same (call : GrpcCall) (data : IoreqData) :
    SameRequests call (call.setSendStatus data) := by
  cases data with
  | sendStatus code details =>
      cases details with
      | none => exact setStatusCode_same _ _ _
      | some details => exact (setStatusCode_same _ _ _).trans (setStatusDetails_same _ _ _)
  | _ => exact .refl call

private theorem finishMessage_same (call : GrpcCall) : SameRequests call call.finishMessage := by
  constructor <;> rfl

theorem beginMessage_same (call : GrpcCall) (length flags : UInt32) :
    SameRequests call (call.beginMessage length flags).1 := by
  unfold beginMessage
  split
  · exact cancel_same _ _ _
  · split
    · exact cancel_same _ _ _
    · split
      · exact cancel_same _ _ _
      · split
        · constructor <;> rfl
        · exact finishMessage_same call

theorem addSliceToMessage_same (call : GrpcCall) (slice : Bytes) :
    SameRequests call (call.addSliceToMessage slice).1 := by
  have hadd : SameRequests call { call with incomingMessage := call.incomingMessage ++ [slice] } := by
    constructor <;> rfl
  unfold addSliceToMessage
  split
  · exact .refl call
  · split
    · exact cancel_same _ _ _
    · dsimp only
      split
      · exact hadd.trans (cancel_same _ _ _)
      · split
        · exact hadd.trans (finishMessage_same _)
        · exact hadd

/-- What one element of received metadata does to a call. -/
inductive Noticed (call : GrpcCall) (isTrailing : Bool) (md : Metadata) : GrpcCall → Prop where
  | status {status : StatusCode} (key : md.key = mdstr "grpc-status")
      (decoded : decodeStatus md.value = .ok status) :
      Noticed call isTrailing md (call.setStatusCode .fromWire status)
  | message (key : md.key = mdstr "grpc-message") :
      Noticed call isTrailing md (call.setStatusDetails .fromWire (some md.value))
  | encoding {algorithm : CompressionAlgorithm} (key : md.key = mdstr "grpc-encoding")
      (parsed : CompressionAlgorithm.parse (md.value.takeWhile (· ≠ 0)) = some algorithm) :
      Noticed call isTrailing md { call with compressionAlgorithm := algorithm }
  | acceptEncoding (key : md.key = mdstr "grpc-accept-encoding") :
      Noticed call isTrailing md call
  | trailing (other : md.key ≠ mdstr "grpc-encoding") (late : isTrailing = true) :
      Noticed call isTrailing md
        { call with bufferedTrailingMetadata := call.bufferedTrailingMetadata ++ [md] }
  | initial (other : md.key ≠ mdstr "grpc-encoding") (early : isTrailing = false) :
      Noticed call isTrailing md
        { call with bufferedInitialMetadata := call.bufferedInitialMetadata ++ [md] }

theorem recvMdelem_cases {call call' : GrpcCall} {isTrailing : Bool} {md : Metadata}
    (h : call.recvMdelem isTrailing md = .ok call') : Noticed call isTrailing md call' := by
  unfold recvMdelem at h
  split at h
  · next hkey =>
      split at h
      · next status hdecoded =>
          cases h
          exact .status hkey hdecoded
      · cases h
  · split at h
    · next hkey =>
        cases h
        exact .message hkey
    · split at h
      · next hkey =>
          cases hparse : CompressionAlgorithm.parse (md.value.takeWhile (· ≠ 0)) with
          | none =>
              simp only [decodeCompression, hparse] at h
              cases h
          | some algorithm =>
              simp only [decodeCompression, hparse, Except.ok.injEq] at h
              subst h
              exact .encoding hkey hparse
      · next hother =>
          split at h
          · next hkey =>
              cases h
              exact .acceptEncoding hkey
          · split at h
            · next hlate =>
                cases h
                exact .trailing hother hlate
            · next hearly =>
                cases h
                exact .initial hother (by simpa using hearly)

private theorem recvMdelem_same {call call' : GrpcCall} {isTrailing : Bool} {md : Metadata}
    (h : call.recvMdelem isTrailing md = .ok call') : SameRequests call call' := by
  cases recvMdelem_cases h with
  | status => exact setStatusCode_same _ _ _
  | message => exact setStatusDetails_same _ _ _
  | acceptEncoding => exact .refl call
  | encoding | trailing | initial => constructor <;> rfl

theorem recvMdelems_same {call call' : GrpcCall} {isTrailing : Bool} {list : List Metadata}
    (h : call.recvMdelems isTrailing list = .ok call') : SameRequests call call' := by
  induction list generalizing call with
  | nil =>
      cases h
      exact .refl _
  | cons md list ih =>
      unfold recvMdelems at h
      split at h
      · next hmd => exact (recvMdelem_same hmd).trans (ih h)
      · cases h

private theorem gotMetadata_same (call : GrpcCall) (isTrailing : Bool) :
    SameRequests call (call.gotMetadata isTrailing) := by
  unfold gotMetadata
  split <;> constructor <;> rfl

private theorem setDeadlineAlarm_same {call call' : GrpcCall}
    (h : call.setDeadlineAlarm = .ok call') :
    SameRequests call call' := by
  unfold setDeadlineAlarm at h
  split at h <;> cases h
  constructor <;> rfl

theorem recvMetadata_same {call call' : GrpcCall} {batch : MetadataBatch}
    (h : call.recvMetadata batch = .ok call') : SameRequests call call' := by
  unfold recvMetadata at h
  dsimp only at h
  split at h
  · cases h
  · next c hc =>
      have hsame := recvMdelems_same hc
      split at h
      · split at h
        · next c' hc' =>
            cases h
            exact (hsame.trans (setDeadlineAlarm_same hc')).trans (gotMetadata_same _ _)
        · cases h
      · cases h
        exact hsame.trans (gotMetadata_same _ _)

theorem recvStreamOps_same {call call' : GrpcCall} {ops : List StreamOp}
    (h : call.recvStreamOps ops = .ok call') : SameRequests call call' := by
  induction ops generalizing call with
  | nil =>
      cases h
      exact .refl _
  | cons op ops ih =>
      cases op with
      | noOp => exact ih h
      | metadata batch =>
          unfold recvStreamOps at h
          split at h
          · next hb => exact (recvMetadata_same hb).trans (ih h)
          · cases h
      | beginMessage length flags =>
          have hsame := call.beginMessage_same length flags
          unfold recvStreamOps at h
          split at h
          · next hb =>
              rw [hb] at hsame
              exact hsame.trans (ih h)
          · next hb =>
              cases h
              rw [hb] at hsame
              exact hsame
      | slice slice =>
          have hsame := call.addSliceToMessage_same slice
          unfold recvStreamOps at h
          split at h
          · next hb =>
              rw [hb] at hsame
              exact hsame.trans (ih h)
          · next hb =>
              cases h
              rw [hb] at hsame
              exact hsame

theorem recvStreamState_same {call call' : GrpcCall} {state : StreamState}
    (h : call.recvStreamState state = .ok call') : SameRequests call call' := by
  unfold recvStreamState at h
  split at h
  · split at h <;> cases h
    constructor <;> rfl
  · cases h
    constructor <;> rfl
  · cases h
    exact .refl call

/-- The fields that unlocking leaves alone. -/
structure SameRead (call call' : GrpcCall) : Prop where
  isClient : call'.isClient = call.isClient
  maxMessageLength : call'.maxMessageLength = call.maxMessageLength
  readState : call'.readState = call.readState
  writeState : call'.writeState = call.writeState
  haveAlarm : call'.haveAlarm = call.haveAlarm
  sendDeadline : call'.sendDeadline = call.sendDeadline
  readingMessage : call'.readingMessage = call.readingMessage
  errorStatusSet : call'.errorStatusSet = call.errorStatusSet
  destroyCalled : call'.destroyCalled = call.destroyCalled
  groups : call'.groups = call.groups
  requestData : call'.requestData = call.requestData
  requestFlags : call'.requestFlags = call.requestFlags
  incomingQueue : call'.incomingQueue = call.incomingQueue
  status : call'.status = call.status
  compressionAlgorithm : call'.compressionAlgorithm = call.compressionAlgorithm
  incomingMessage : call'.incomingMessage = call.incomingMessage
  incomingMessageLength : call'.incomingMessageLength = call.incomingMessageLength
  incomingMessageFlags : call'.incomingMessageFlags = call.incomingMessageFlags
  recvMessage : call'.recvMessage = call.recvMessage

private theorem SameRead.refl (call : GrpcCall) : SameRead call call := by
  constructor <;> rfl

theorem SameRead.trans {c c' c'' : GrpcCall} (h : SameRead c c') (h' : SameRead c' c'') :
    SameRead c c'' where
  isClient := h'.isClient.trans h.isClient
  maxMessageLength := h'.maxMessageLength.trans h.maxMessageLength
  readState := h'.readState.trans h.readState
  writeState := h'.writeState.trans h.writeState
  haveAlarm := h'.haveAlarm.trans h.haveAlarm
  sendDeadline := h'.sendDeadline.trans h.sendDeadline
  readingMessage := h'.readingMessage.trans h.readingMessage
  errorStatusSet := h'.errorStatusSet.trans h.errorStatusSet
  destroyCalled := h'.destroyCalled.trans h.destroyCalled
  groups := h'.groups.trans h.groups
  requestData := h'.requestData.trans h.requestData
  requestFlags := h'.requestFlags.trans h.requestFlags
  incomingQueue := h'.incomingQueue.trans h.incomingQueue
  status := h'.status.trans h.status
  compressionAlgorithm := h'.compressionAlgorithm.trans h.compressionAlgorithm
  incomingMessage := h'.incomingMessage.trans h.incomingMessage
  incomingMessageLength := h'.incomingMessageLength.trans h.incomingMessageLength
  incomingMessageFlags := h'.incomingMessageFlags.trans h.incomingMessageFlags
  recvMessage := h'.recvMessage.trans h.recvMessage

theorem SameRead.isOpLive {c c' : GrpcCall} (h : SameRead c c') (op : IoreqOp) :
    c'.isOpLive op = c.isOpLive op := by
  rw [GrpcCall.isOpLive, GrpcCall.isOpLive, h.groups]

theorem SameRequests.isOpLive {c c' : GrpcCall} (h : SameRequests c c') (op : IoreqOp) :
    c'.isOpLive op = c.isOpLive op := by
  rw [GrpcCall.isOpLive, GrpcCall.isOpLive, h.groups]

theorem startRecv_cases (call : GrpcCall) :
    (call.receiving = false ∧ call.needMoreData = true ∧ 1024 < call.maxRecvBytes ∧
      call.startRecv = ({ call with receiving := true }, some call.maxRecvBytes)) ∨
    ((call.receiving = true ∨ call.needMoreData = false ∨ call.maxRecvBytes ≤ 1024) ∧
      call.startRecv = (call, none)) := by
  unfold startRecv
  split
  · next h =>
      simp only [Bool.and_eq_true, Bool.not_eq_true', decide_eq_true_eq] at h
      exact Or.inl ⟨h.1.1, h.1.2, h.2, rfl⟩
  · next h =>
      simp only [Bool.and_eq_true, Bool.not_eq_true', decide_eq_true_eq, not_and_or, UInt32.not_lt,
        Bool.not_eq_false, Bool.not_eq_true] at h
      exact Or.inr ⟨or_assoc.mp h, rfl⟩

theorem startRecv_same (call : GrpcCall) : SameRead call call.startRecv.1 := by
  rcases call.startRecv_cases with ⟨_, _, _, h⟩ | ⟨_, h⟩ <;> rw [h] <;> constructor <;> rfl

theorem fillMessage_same (call : GrpcCall) (sent : Option SendOps) :
    SameRead call (call.fillMessage sent).1 := by
  unfold fillMessage
  split <;> constructor <;> rfl

private theorem fillClose_same (call : GrpcCall) (sent : Option SendOps) :
    SameRead call (call.fillClose sent).1 := by
  unfold fillClose
  split <;> constructor <;> rfl

private theorem fillMessageAndClose_same (call : GrpcCall) (sent : Option SendOps) :
    SameRead call (call.fillMessageAndClose sent).1 :=
  (call.fillMessage_same sent).trans (fillClose_same _ _)

private theorem fillInitialMetadata_same (call : GrpcCall) :
    SameRead call call.fillInitialMetadata := by
  constructor <;> rfl

theorem fillSendOps_same (call : GrpcCall) : SameRead call call.fillSendOps.1 := by
  unfold fillSendOps
  split
  · split
    · exact call.fillInitialMetadata_same.trans (fillMessageAndClose_same _ _)
    · exact .refl call
  · exact fillMessageAndClose_same call none
  · exact .refl call

theorem startSend_same (call : GrpcCall) : SameRead call call.startSend.1 := by
  unfold startSend
  split
  · exact .refl call
  · refine (call.fillSendOps_same).trans ?_
    constructor <;> rfl

theorem unlock_same (call : GrpcCall) : SameRead call call.unlock := by
  have hreset : SameRead call { call with cancelWithStatus := .ok } := by
    constructor <;> rfl
  have h := (hreset.trans (startRecv_same _)).trans (startSend_same _)
  refine h.trans ?_
  constructor <;> rfl

def sendEnded (call : GrpcCall) (success : Bool) : GrpcCall :=
  { call.finishSends success with lastSendContains := ∅, sending := false }

def recvEnded (call : GrpcCall) : GrpcCall := { call with receiving := false }

def alarmEnded (call : GrpcCall) : GrpcCall := { call with haveAlarm := false }

def destroyStarted (call : GrpcCall) : GrpcCall := { call with destroyCalled := true }

/-- What an event can do. -/
inductive Step (call : GrpcCall) : CallEvent → GrpcCall → Prop where
  | emptyBatch (tag : Nat) :
      Step call (.startBatch [] tag) { call with cq := call.cq ++ [⟨tag, true, {}⟩] }
  | malformedBatch (ops : List BatchOp) (tag : Nat) (e : CallError)
      (hops : call.rewriteOps [] ops = .error e) : Step call (.startBatch ops tag) call
  | batch (ops : List BatchOp) (tag : Nat) (reqs : List Ioreq) (hne : reqs ≠ [])
      (hreqs : call.rewriteOps [] ops = .ok reqs) :
      Step call (.startBatch ops tag) (call.startIoreq reqs (batchTag ops tag)).1.unlock
  | sent (success : Bool) (hsending : call.sending = true) :
      Step call (.onDoneSend success) (call.sendEnded success).unlock
  | received (ops : List StreamOp) (state : StreamState) (c c' : GrpcCall)
      (hreceiving : call.receiving = true) (hops : call.recvEnded.recvStreamOps ops = .ok c)
      (hstate : c.recvStreamState state = .ok c') :
      Step call (.onDoneRecv true ops state) c'.finishReadOps.unlock
  | recvFailed (ops : List StreamOp) (state : StreamState) (hreceiving : call.receiving = true) :
      Step call (.onDoneRecv false ops state) call.recvEnded.failReadOps.unlock
  | cancelled (status : StatusCode) (description : Option Bytes) (hstatus : status ≠ .ok) :
      Step call (.cancel status description) (call.cancel status description).unlock
  | deadlineExceeded (halarm : call.haveAlarm = true) :
      Step call (.alarm true) (call.alarmEnded.cancel .deadlineExceeded
        (some (mdstr "Deadline Exceeded"))).finishReadOps.unlock
  | alarmCancelled (halarm : call.haveAlarm = true) :
      Step call (.alarm false) call.alarmEnded.finishReadOps.unlock
  | destroyedClosed (hdestroy : call.destroyCalled = false)
      (hclosed : call.readState = .streamClosed) :
      Step call .destroy call.destroyStarted.unlock
  | destroyed (hdestroy : call.destroyCalled = false) (hopen : call.readState ≠ .streamClosed) :
      Step call .destroy
        (call.destroyStarted.unlock.cancel .cancelled (some (mdstr "Cancelled"))).unlock

private theorem rewriteOp_ne_nil {call : GrpcCall} {o : BatchOp} {reqs : List Ioreq}
    (h : call.rewriteOp o = .ok reqs) : reqs ≠ [] := by
  unfold rewriteOp at h
  repeat' split at h
  all_goals cases h
  all_goals simp

private theorem rewriteOps_ne_nil {call : GrpcCall} {ops : List BatchOp} {before reqs : List Ioreq}
    (hops : ops ≠ [] ∨ before ≠ []) (h : call.rewriteOps before ops = .ok reqs) : reqs ≠ [] := by
  induction ops generalizing before with
  | nil =>
      cases h
      simpa using hops
  | cons o ops ih =>
      unfold rewriteOps at h
      split at h
      · cases h
      · next more hmore =>
          split at h
          · cases h
          · exact ih (Or.inr (by simp [rewriteOp_ne_nil hmore])) h

private theorem rewriteOp_error {call : GrpcCall} {o : BatchOp} {e : CallError}
    (h : call.rewriteOp o = .error e) : e ≠ .ok := by
  unfold rewriteOp at h
  repeat' split at h
  all_goals cases h
  all_goals simp

private theorem rewriteOps_error {call : GrpcCall} {ops : List BatchOp} {before : List Ioreq}
    {e : CallError} (h : call.rewriteOps before ops = .error e) : e ≠ .ok := by
  induction ops generalizing before with
  | nil => cases h
  | cons o ops ih =>
      unfold rewriteOps at h
      split at h
      · next ho =>
          cases h
          exact rewriteOp_error ho
      · split at h
        · cases h
          simp
        · exact ih h

theorem startBatch_cases (call : GrpcCall) (ops : List BatchOp) (tag : Nat) :
    (ops = [] ∧ call.startBatch ops tag =
      ({ call with cq := call.cq ++ [⟨tag, true, {}⟩] }, .ok)) ∨
    (∃ e, e ≠ .ok ∧ call.rewriteOps [] ops = .error e ∧ call.startBatch ops tag = (call, e)) ∨
    ∃ reqs, reqs ≠ [] ∧ call.rewriteOps [] ops = .ok reqs ∧
      call.startBatch ops tag =
        ((call.startIoreq reqs (batchTag ops tag)).1.unlock,
          (call.startIoreq reqs (batchTag ops tag)).2) := by
  unfold startBatch
  by_cases hops : ops = []
  · exact Or.inl ⟨hops, if_pos hops⟩
  · rw [if_neg hops]
    cases hreqs : call.rewriteOps [] ops with
    | error e => exact Or.inr (Or.inl ⟨e, rewriteOps_error hreqs, rfl, rfl⟩)
    | ok reqs =>
        exact Or.inr (Or.inr ⟨reqs, rewriteOps_ne_nil (Or.inl hops) hreqs, rfl, rfl⟩)

theorem step_cases {call call' : GrpcCall} {e : CallEvent} (h : call.step e = .ok call') :
    Step call e call' := by
  cases e with
  | startBatch ops tag =>
      cases h
      show Step call (.startBatch ops tag) (call.startBatch ops tag).1
      rcases call.startBatch_cases ops tag with
        ⟨hops, hb⟩ | ⟨e, _, hops, hb⟩ | ⟨reqs, hne, hreqs, hb⟩
      · subst hops
        rw [hb]
        exact .emptyBatch tag
      · rw [hb]
        exact .malformedBatch ops tag e hops
      · rw [hb]
        exact .batch ops tag reqs hne hreqs
  | onDoneSend success =>
      simp only [step, callOnDoneSend, Bool.not_eq_true'] at h
      split at h
      · cases h
      · next hs =>
          cases h
          exact .sent success (by simpa using hs)
  | onDoneRecv success ops state =>
      simp only [step, callOnDoneRecv, Bool.not_eq_true'] at h
      split at h
      · cases h
      · next hr =>
          have hreceiving : call.receiving = true := by simpa using hr
          cases success with
          | false =>
              cases h
              exact .recvFailed ops state hreceiving
          | true =>
              simp only [if_true] at h
              split at h
              · cases h
              · next c hops =>
                  cases hs : c.recvStreamState state with
                  | error fault => simp [hs, Except.map] at h
                  | ok c' =>
                      simp only [hs, Except.map, Except.ok.injEq] at h
                      rw [← h]
                      exact .received ops state c c' hreceiving hops hs
  | cancel status description =>
      simp only [step, cancelWith] at h
      split at h
      · cases h
      · next hs =>
          cases h
          exact .cancelled status description hs
  | alarm success =>
      simp only [step, callAlarm, Bool.not_eq_true'] at h
      split at h
      · cases h
      · next ha =>
          have halarm : call.haveAlarm = true := by simpa using ha
          cases success with
          | false =>
              cases h
              exact .alarmCancelled halarm
          | true =>
              cases h
              exact .deadlineExceeded halarm
  | destroy =>
      simp only [step, destroy] at h
      split at h
      · cases h
      · next hd =>
          have hdestroy : call.destroyCalled = false := by simpa using hd
          have hread : call.destroyStarted.unlock.readState = call.readState :=
            (unlock_same _).readState
          split at h
          · next hc =>
              cases h
              exact .destroyedClosed hdestroy (hread.symm.trans hc)
          · next hc =>
              cases h
              exact .destroyed hdestroy fun hclosed => hc (hread.trans hclosed)

end CrowdSound.Core.GrpcCall
