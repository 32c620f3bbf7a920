import CrowdSound.Core.Messages

/-!
# Runs that receive messages

As long as no error status is set, what the receives of a run brought is what the application has
been handed, followed by what is queued.
-/

namespace CrowdSound.Core.GrpcCall

open OpGroups

def receivedOps : CallEvent → List StreamOp
  | .onDoneRecv true ops _ => ops
  | _ => []

/-- The call with what completing operations changes as in `done`. -/
def withCompletions (call done : GrpcCall) : GrpcCall :=
  { call with
    groups := done.groups
    completedRequests := done.completedRequests
    writeState := done.writeState
    bufferedInitialMetadata := done.bufferedInitialMetadata
    bufferedTrailingMetadata := done.bufferedTrailingMetadata }

theorem completes_frame {P : IoreqOp → Bool → Prop} {call call' : GrpcCall}
    (hc : Completes P call call') : call' = call.withCompletions call' := by
  induction hc with
  | refl => rfl
  | @finish c op success _ _ ih =>
      have hnext := congrArg (fun d => d.withCompletions (c.finishIoreqOp op success)) ih
      exact (c.finishIoreqOp_frame op success).trans hnext
  | @write c state _ ih =>
      exact congrArg (fun d => d.withCompletions { c with writeState := state }) ih

/-- The call with what serving receives changes as in `done`. -/
def withReads (call done : GrpcCall) : GrpcCall :=
  { call.withCompletions done with
    incomingQueue := done.incomingQueue
    recvMessage := done.recvMessage }

private theorem popMessage_frame (call : GrpcCall) :
    call.popMessage.1 = call.withReads call.popMessage.1 := by
  rcases call.popMessage_cases with ⟨_, h⟩ | ⟨_, _, h⟩ | ⟨message, rest, _, _, h⟩ <;> rw [h]
  · rfl
  · rfl
  · have hnext := (call.takeMessage message rest).finishIoreqOp_frame .recvMessage true
    dsimp only
    generalize (call.takeMessage message rest).finishIoreqOp .recvMessage true = c at hnext ⊢
    rw [hnext]
    rfl

theorem finishReadOps_frame (call : GrpcCall) :
    call.finishReadOps = call.withReads call.finishReadOps := by
  have hpop := call.popMessage_frame
  have hc := completes_frame call.finishReadOps_completes
  generalize call.finishReadOps = c at hc ⊢
  generalize call.popMessage.1 = p at hpop hc
  rw [hc, hpop]
  rfl

/-- What the receives brought is what was taken and what is queued. -/
def Flows (ops : List StreamOp) (call : GrpcCall) : Prop :=
  call.Clean → Assembly.initial.feedAll call.maxMessageLength ops =
    some (call.assembly, call.taken ++ call.incomingQueue)

/-- The part of the invariant that does not depend on the pending receive. -/
structure Reading (ops : List StreamOp) (call : GrpcCall) : Prop where
  wellFormed : call.groups.WellFormed
  reads : call.Reads
  flows : Flows ops call

/-- Between two events a receive is pending only if no message is queued. -/
structure Flow (ops : List StreamOp) (call : GrpcCall) : Prop extends Reading ops call where
  unserved : call.Unserved
  waits : call.isOpLive .recvMessage = true → call.incomingQueue = []

theorem Flow.completes {P : IoreqOp → Bool → Prop} {ops : List StreamOp} {call call' : GrpcCall}
    (h : Flow ops call) (hc : Completes P call call') : Flow ops call' := by
  have htaken := completes_taken hc h.wellFormed h.unserved
  have hframe := completes_frame hc
  have hqueue := completes_incomingQueue hc
  refine ⟨⟨completes_wellFormed hc h.wellFormed, ?_, ?_⟩, htaken.2, ?_⟩
  · rw [hframe]
    exact ⟨h.reads.error, h.reads.idle⟩
  · intro hclean
    rw [htaken.1, hqueue]
    rw [hframe] at hclean ⊢
    exact h.flows hclean
  · intro hlive
    rw [hqueue]
    exact h.waits (completes_isOpLive hc h.wellFormed hlive)

theorem Reading.popMessage {ops : List StreamOp} {call : GrpcCall} (h : Reading ops call) :
    Flow ops call.popMessage.1 := by
  obtain ⟨htaken, hunserved, hwaits, _⟩ := popMessage_taken h.wellFormed
  have hwf := (popMessage_accounts ⟨h.wellFormed, rfl⟩).1
  have hframe : call.popMessage.1.Clean = call.Clean ∧
      call.popMessage.1.Reads = call.Reads ∧
      call.popMessage.1.assembly = call.assembly ∧
      call.popMessage.1.maxMessageLength = call.maxMessageLength := by
    rcases call.popMessage_cases with ⟨_, h⟩ | ⟨_, _, h⟩ | ⟨message, rest, _, _, h⟩ <;> rw [h]
    · exact ⟨rfl, rfl, rfl, rfl⟩
    · refine ⟨rfl, ?_, rfl, rfl⟩
      exact propext ⟨fun hr => ⟨hr.error, hr.idle⟩, fun hr => ⟨hr.error, hr.idle⟩⟩
    · rw [finishIoreqOp_frame]
      refine ⟨rfl, ?_, rfl, rfl⟩
      exact propext ⟨fun hr => ⟨hr.error, hr.idle⟩, fun hr => ⟨hr.error, hr.idle⟩⟩
  refine ⟨⟨hwf, hframe.2.1 ▸ h.reads, ?_⟩, hunserved, hwaits⟩
  intro hclean
  rw [hframe.1] at hclean
  rw [hframe.2.2.1, hframe.2.2.2, htaken]
  exact h.flows hclean

theorem Reading.finishReadOps {ops : List StreamOp} {call : GrpcCall} (h : Reading ops call) :
    Flow ops call.finishReadOps :=
  h.popMessage.completes call.finishReadOps_completes

theorem endOp_results (r : CompletedRequest) : r.endOp.results = r.results := by
  unfold CompletedRequest.endOp
  split <;> rfl

theorem unlock_reports (call : GrpcCall) : call.unlock.reports = call.reports := by
  have hrecv := startRecv_reported { call with cancelWithStatus := .ok }
  have hsend := startSend_reported (startRecv { call with cancelWithStatus := .ok }).1
  have hcq : (startSend (startRecv { call with cancelWithStatus := .ok }).1).1.cq = call.cq :=
    hsend.1.trans hrecv.1
  have hcompleted : (startSend (startRecv
      { call with cancelWithStatus := .ok }).1).1.completedRequests = call.completedRequests :=
    hsend.2.trans hrecv.2
  unfold unlock
  dsimp only
  simp only [reports, flushCompleted, hcq, hcompleted, List.map_append, List.map_map,
    Function.comp_def, endOp_results, List.map_nil, List.append_nil]

theorem SameRead.taken {c c' : GrpcCall} (h : SameRead c c') (hreports : c'.reports = c.reports) :
    c'.taken = c.taken := by
  rw [GrpcCall.taken, GrpcCall.taken, handedOut, handedOut, hreports, held, held, isFinished,
    isFinished, h.groups, h.isOpLive, h.recvMessage]

private theorem SameRead.assembly {c c' : GrpcCall} (h : SameRead c c') :
    c'.assembly = c.assembly := by
  simp only [GrpcCall.assembly, h.compressionAlgorithm, h.incomingMessageFlags, h.readingMessage,
    h.incomingMessageLength, h.incomingMessage]

private theorem Flow.unlock {ops : List StreamOp} {call : GrpcCall} (h : Flow ops call) :
    Flow ops call.unlock := by
  have hsame := call.unlock_same
  refine ⟨⟨hsame.groups ▸ h.wellFormed, ⟨?_, ?_⟩, ?_⟩, ?_, ?_⟩
  · rw [hsame.errorStatusSet, hsame.status]
    exact h.reads.error
  · rw [hsame.readingMessage, hsame.incomingMessage]
    exact h.reads.idle
  · intro hclean
    rw [Clean, hsame.status] at hclean
    rw [hsame.maxMessageLength, hsame.assembly, hsame.taken call.unlock_reports,
      hsame.incomingQueue]
    exact h.flows hclean
  · rw [Unserved, hsame.isOpLive, hsame.recvMessage]
    exact h.unserved
  · rw [hsame.isOpLive, hsame.incomingQueue]
    exact h.waits

theorem cancel_queue (call : GrpcCall) (status : StatusCode) (description : Option Bytes) :
    (call.cancel status description).incomingQueue = [] ∨
      (call.cancel status description).incomingQueue = call.incomingQueue := by
  show (call.setStatusCode .fromApiOverride status).incomingQueue = [] ∨
    (call.setStatusCode .fromApiOverride status).incomingQueue = call.incomingQueue
  unfold setStatusCode
  split
  · exact Or.inr rfl
  · dsimp only
    split
    · exact Or.inl rfl
    · exact Or.inr rfl

theorem Flow.cancel {ops : List StreamOp} {call : GrpcCall} (h : Flow ops call)
    (status : StatusCode) (description : Option Bytes) :
    Flow ops (call.cancel status description) := by
  have hsame := call.cancel_same status description
  refine ⟨⟨hsame.groups ▸ h.wellFormed, cancel_reads _ _ h.reads, ?_⟩, ?_, ?_⟩
  · intro hclean
    exact absurd hclean (cancel_not_clean _ _ _)
  · rw [Unserved, hsame.isOpLive, hsame.recvMessage]
    exact h.unserved
  · intro hlive
    rw [hsame.isOpLive] at hlive
    rcases call.cancel_queue status description with hq | hq
    · exact hq
    · rw [hq]
      exact h.waits hlive

theorem Reading.received {past ops : List StreamOp} {call c c' : GrpcCall} {state : StreamState}
    (h : Reading past call) (hops : call.recvEnded.recvStreamOps ops = .ok c)
    (hstate : c.recvStreamState state = .ok c') : Reading (past ++ ops) c' := by
  have hidle : call.recvEnded.Reads := ⟨h.reads.error, h.reads.idle⟩
  have hsame := recvStreamOps_same hops
  obtain ⟨hreads, hfed⟩ := recvStreamOps_fed hidle hops
  have hc' : c' = { c with readState := c'.readState } := by
    unfold recvStreamState at hstate
    split at hstate
    · split at hstate <;> cases hstate
      rfl
    · cases hstate
      rfl
    · cases hstate
      rfl
  have hc : Reading (past ++ ops) c := by
    refine ⟨hsame.groups ▸ h.wellFormed, hreads, ?_⟩
    intro hclean
    obtain ⟨hclean', out, hfeed, hqueue⟩ := hfed hclean
    have hpast := h.flows hclean'
    rw [hsame.taken, hsame.maxMessageLength, hqueue, Assembly.feedAll_append]
    exact ⟨_, _, _, hpast, hfeed, (List.append_assoc _ _ _).symm⟩
  rw [hc']
  exact ⟨hc.wellFormed, ⟨hc.reads.error, hc.reads.idle⟩, hc.flows⟩

/-- The call after a request was claimed and its group was opened. -/
def opened (call : GrpcCall) (set : IoreqOp) (haveOps : Finset IoreqOp) (tag : BatchTag) :
    GrpcCall :=
  { call with groups := call.groups.setUp set haveOps tag }

theorem Started.opened_isOpLive {call c : GrpcCall} {reqs : List Ioreq} {set : IoreqOp}
    {haveOps : Finset IoreqOp} (h : Started call reqs set haveOps c)
    (hwf : call.groups.WellFormed) (tag : BatchTag) (op : IoreqOp) :
    (c.opened set haveOps tag).isOpLive op = (decide (op ∈ haveOps) || call.isOpLive op) :=
  Groups.setUp_isLive hwf tag h.leader h.claimed.free h.claimed.slots h.claimed.master op

theorem Started.opened_isFinished {call c : GrpcCall} {reqs : List Ioreq} {set : IoreqOp}
    {haveOps : Finset IoreqOp} (h : Started call reqs set haveOps c)
    (hwf : call.groups.WellFormed) (tag : BatchTag) (op : IoreqOp) :
    (c.opened set haveOps tag).isFinished op = call.isFinished op := by
  have hslot : (c.opened set haveOps tag).groups.slot op = _ := h.claimed.slots op
  rw [isFinished, isFinished, h.opened_isOpLive hwf, hslot]
  by_cases hmem : op ∈ haveOps
  · simp [hmem, h.claimed.free op hmem]
  · simp [hmem]

theorem Started.opened_eq {call c : GrpcCall} {reqs : List Ioreq} {set : IoreqOp}
    {haveOps : Finset IoreqOp} (h : Started call reqs set haveOps c)
    (hclient : call.groups.slot .sendStatus = .done) (tag : BatchTag) :
    c.opened set haveOps tag = { call with
      groups := (c.opened set haveOps tag).groups
      requestData := c.requestData
      requestFlags := c.requestFlags } := by
  rw [opened, h.claimed.rest hclient]

theorem Reading.opened {ops : List StreamOp} {call c : GrpcCall} {reqs : List Ioreq}
    {set : IoreqOp} {haveOps : Finset IoreqOp} (h : Reading ops call)
    (hs : Started call reqs set haveOps c) (hclient : call.groups.slot .sendStatus = .done)
    (tag : BatchTag) : Reading ops (c.opened set haveOps tag) := by
  have hwf : (c.opened set haveOps tag).groups.WellFormed :=
    h.wellFormed.setUp tag hs.leader hs.claimed.free hs.claimed.slots hs.claimed.master
  have heq := hs.opened_eq hclient tag
  have htaken : (c.opened set haveOps tag).taken = call.taken := by
    rw [taken, taken, handedOut, handedOut, held, held, hs.opened_isFinished h.wellFormed]
    rw [heq]
    rfl
  refine ⟨hwf, ?_, ?_⟩
  · rw [heq]
    exact ⟨h.reads.error, h.reads.idle⟩
  · intro hclean
    rw [htaken]
    rw [heq] at hclean ⊢
    exact h.flows hclean

private theorem Flow.withData {ops : List StreamOp} {call : GrpcCall} (h : Flow ops call)
    (data : IoreqOp → IoreqData) (flags : IoreqOp → UInt32) :
    Flow ops { call with requestData := data, requestFlags := flags } :=
  ⟨⟨h.wellFormed, ⟨h.reads.error, h.reads.idle⟩, h.flows⟩, h.unserved, h.waits⟩

private theorem Flow.startIoreq {ops : List StreamOp} {call : GrpcCall} (h : Flow ops call)
    (hclient : call.groups.slot .sendStatus = .done) (reqs : List Ioreq) (tag : BatchTag)
    (hreqs : reqs ≠ []) : Flow ops (call.startIoreq reqs tag).1 := by
  rcases call.startIoreq_cases reqs tag hreqs with
    ⟨set, haveOps, c, hs, hstart⟩ | ⟨set, haveOps, c, e, hc, _, hstart⟩
  · rw [hstart]
    have hopened := (h.toReading.opened hs hclient tag).finishReadOps
    exact hopened.completes (earlyOutWriteOps_completes _)
  · rw [hstart]
    have hrest : ({ c with groups := call.groups } : GrpcCall) =
        { call with requestData := c.requestData, requestFlags := c.requestFlags } := by
      rw [hc.rest hclient]
    dsimp only
    rw [hrest]
    exact h.withData _ _

theorem emptyBatch_taken (call : GrpcCall) (tag : Nat) :
    taken { call with cq := call.cq ++ [⟨tag, true, {}⟩] } = call.taken := by
  have hhanded : handedOut { call with cq := call.cq ++ [⟨tag, true, {}⟩] } =
      call.handedOut := by
    simp [handedOut, reports]
  rw [taken, hhanded]
  rfl

theorem step_flow {past : List StreamOp} {call call' : GrpcCall} {e : CallEvent}
    (hclient : call.groups.slot .sendStatus = .done) (h : Flow past call)
    (hstep : call.step e = .ok call') : Flow (past ++ receivedOps e) call' := by
  have hkept : ∀ {c : GrpcCall}, Flow past c → Flow (past ++ []) c := by
    intro c hc
    rwa [List.append_nil]
  cases step_cases hstep with
  | emptyBatch tag =>
      refine hkept ⟨⟨h.wellFormed, ⟨h.reads.error, h.reads.idle⟩, ?_⟩, h.unserved, h.waits⟩
      intro hclean
      rw [call.emptyBatch_taken]
      exact h.flows hclean
  | malformedBatch => exact hkept h
  | batch ops tag reqs hne => exact hkept (h.startIoreq hclient reqs _ hne).unlock
  | sent success =>
      have hc := h.completes (call.finishSends_completes success)
      have hended : Flow past (call.sendEnded success) :=
        ⟨⟨hc.wellFormed, ⟨hc.reads.error, hc.reads.idle⟩, hc.flows⟩, hc.unserved, hc.waits⟩
      exact hkept hended.unlock
  | received ops state c c' _ hops hstate =>
      exact (h.toReading.received hops hstate).finishReadOps.unlock
  | recvFailed =>
      have hidle : Flow past call.recvEnded :=
        ⟨⟨h.wellFormed, ⟨h.reads.error, h.reads.idle⟩, h.flows⟩, h.unserved, h.waits⟩
      exact hkept (hidle.completes (failReadOps_completes _)).unlock
  | cancelled status description => exact hkept (h.cancel status description).unlock
  | deadlineExceeded =>
      have hidle : Flow past call.alarmEnded :=
        ⟨⟨h.wellFormed, ⟨h.reads.error, h.reads.idle⟩, h.flows⟩, h.unserved, h.waits⟩
      exact hkept (hidle.cancel _ _).toReading.finishReadOps.unlock
  | alarmCancelled =>
      have hidle : Flow past call.alarmEnded :=
        ⟨⟨h.wellFormed, ⟨h.reads.error, h.reads.idle⟩, h.flows⟩, h.unserved, h.waits⟩
      exact hkept hidle.toReading.finishReadOps.unlock
  | destroyedClosed =>
      have hd : Flow past call.destroyStarted :=
        ⟨⟨h.wellFormed, ⟨h.reads.error, h.reads.idle⟩, h.flows⟩, h.unserved, h.waits⟩
      exact hkept hd.unlock
  | destroyed =>
      have hd : Flow past call.destroyStarted :=
        ⟨⟨h.wellFormed, ⟨h.reads.error, h.reads.idle⟩, h.flows⟩, h.unserved, h.waits⟩
      exact hkept (hd.unlock.cancel _ _).unlock

theorem create_flow (maxMessageLength : UInt32) (sendInitialMetadata : List Metadata)
    (sendDeadline : Bool) :
    Flow [] (create true maxMessageLength sendInitialMetadata sendDeadline) := by
  have hlive : (create true maxMessageLength sendInitialMetadata sendDeadline).isOpLive
      .recvMessage = false := rfl
  refine ⟨⟨(create_accounts true _ _ _).1, ⟨?_, fun _ => rfl⟩, fun _ => rfl⟩, fun _ => rfl,
    fun _ => rfl⟩
  intro he
  exact absurd he Bool.false_ne_true

/-- The fields that tell what a call is and which batches it has. -/
structure SameBatches (call call' : GrpcCall) : Prop where
  isClient : call'.isClient = call.isClient
  maxMessageLength : call'.maxMessageLength = call.maxMessageLength
  destroyCalled : call'.destroyCalled = call.destroyCalled
  groups : call'.groups = call.groups
  completedRequests : call'.completedRequests = call.completedRequests
  cq : call'.cq = call.cq

theorem SameRequests.batches {c c' : GrpcCall} (h : SameRequests c c') : SameBatches c c' :=
  ⟨h.isClient, h.maxMessageLength, h.destroyCalled, h.groups, h.completedRequests, h.cq⟩

theorem unlock_batches (call : GrpcCall) :
    ∃ c, SameBatches call c ∧ call.unlock = c.flushCompleted := by
  have hrecv := startRecv_reported { call with cancelWithStatus := .ok }
  have hsend := startSend_reported (startRecv { call with cancelWithStatus := .ok }).1
  have hread := call.unlock_same
  refine ⟨{ (startSend (startRecv { call with cancelWithStatus := .ok }).1).1 with
    transportOps := call.unlock.transportOps }, ?_, rfl⟩
  constructor
  · exact hread.isClient
  · exact hread.maxMessageLength
  · exact hread.destroyCalled
  · exact hread.groups
  · exact hsend.2.trans hrecv.2
  · exact hsend.1.trans hrecv.1

/-- What completing an operation and handing over batches preserve, an event preserves that opens
no batch against it. -/
theorem step_batches {I : GrpcCall → Prop} {call call' : GrpcCall} {e : CallEvent}
    (hsame : ∀ {c c' : GrpcCall}, SameBatches c c' → I c → I c')
    (hfinish : ∀ (c : GrpcCall) op success, I c → I (c.finishIoreqOp op success))
    (hflush : ∀ c : GrpcCall, I c → I c.flushCompleted)
    (hempty : ∀ tag, e = .startBatch [] tag → I { call with cq := call.cq ++ [⟨tag, true, {}⟩] })
    (hopen : ∀ ops tag reqs set haveOps c, e = .startBatch ops tag →
      call.rewriteOps [] ops = .ok reqs → Started call reqs set haveOps c →
      (call.startBatch ops tag).2 = .ok → I (c.opened set haveOps (batchTag ops tag)))
    (hdestroy : e = .destroy → I call.destroyStarted)
    (hclient : call.groups.slot .sendStatus = .done) (h : call.acceptedBatches e = [] → I call)
    (hstep : call.step e = .ok call') : I call' := by
  have hcompletes : ∀ {P : IoreqOp → Bool → Prop} {c c' : GrpcCall}, Completes P c c' →
      I c → I c' := by
    intro P c c' hc hI
    refine hc.invariant (fun c op success _ => hfinish c op success) (fun c state hI => ?_) hI
    exact hsame (by constructor <;> rfl) hI
  have hread : ∀ {c : GrpcCall}, I c → I c.finishReadOps := by
    intro c hI
    refine hcompletes c.finishReadOps_completes ?_
    rcases c.popMessage_cases with ⟨_, hp⟩ | ⟨_, _, hp⟩ | ⟨message, rest, _, _, hp⟩ <;> rw [hp]
    · exact hI
    · exact hsame (by constructor <;> rfl) hI
    · exact hfinish (c.takeMessage message rest) _ _ (hsame (by constructor <;> rfl) hI)
  have hunlock : ∀ {c : GrpcCall}, I c → I c.unlock := by
    intro c hI
    obtain ⟨c', hc, heq⟩ := c.unlock_batches
    rw [heq]
    exact hflush c' (hsame hc hI)
  cases step_cases hstep with
  | emptyBatch tag => exact hempty tag rfl
  | malformedBatch ops tag e hops =>
      apply h
      rcases call.startBatch_cases ops tag with ⟨rfl, _⟩ | ⟨e', he, _, hb⟩ | ⟨_, _, hops', _⟩
      · cases hops
      · rw [acceptedBatches, hb, if_neg he]
      · rw [hops] at hops'
        cases hops'
  | batch ops tag reqs hne hreqs =>
      have hresult : (call.startBatch ops tag).2 = (call.startIoreq reqs (batchTag ops tag)).2 := by
        rcases call.startBatch_cases ops tag with ⟨rfl, _⟩ | ⟨_, _, hops, _⟩ | ⟨_, _, hops, hb⟩
        · cases hreqs
          exact absurd rfl hne
        · rw [hreqs] at hops
          cases hops
        · rw [hreqs] at hops
          cases hops
          rw [hb]
      apply hunlock
      rcases call.startIoreq_cases reqs (batchTag ops tag) hne with
        ⟨set, haveOps, c, hs, hstart⟩ | ⟨set, haveOps, c, e, hc, he, hstart⟩
      · rw [hstart] at hresult ⊢
        exact hcompletes (earlyOutWriteOps_completes _)
          (hread (hopen ops tag reqs set haveOps c rfl hreqs hs hresult))
      · rw [hstart] at hresult ⊢
        have hcall : I call := by
          apply h
          rw [acceptedBatches, hresult, if_neg he]
        rw [hc.rest hclient]
        exact hsame (by constructor <;> rfl) hcall
  | sent success =>
      have hc := hcompletes (call.finishSends_completes success) (h rfl)
      have hended : I (call.sendEnded success) := hsame (by constructor <;> rfl) hc
      exact hunlock hended
  | received ops state c c' _ hops hstate =>
      have hidle : I call.recvEnded := hsame (by constructor <;> rfl) (h rfl)
      have hc := hsame (recvStreamState_same hstate).batches
        (hsame (recvStreamOps_same hops).batches hidle)
      exact hunlock (hread hc)
  | recvFailed =>
      have hidle : I call.recvEnded := hsame (by constructor <;> rfl) (h rfl)
      exact hunlock (hcompletes (failReadOps_completes call.recvEnded) hidle)
  | cancelled => exact hunlock (hsame (cancel_same _ _ _).batches (h rfl))
  | deadlineExceeded =>
      have hidle : I call.alarmEnded := hsame (by constructor <;> rfl) (h rfl)
      exact hunlock (hread (hsame (cancel_same _ _ _).batches hidle))
  | alarmCancelled =>
      have hidle : I call.alarmEnded := hsame (by constructor <;> rfl) (h rfl)
      exact hunlock (hread hidle)
  | destroyedClosed => exact hunlock (hdestroy rfl)
  | destroyed => exact hunlock (hsame (cancel_same _ _ _).batches (hunlock (hdestroy rfl)))

theorem step_kept {call call' : GrpcCall} {e : CallEvent}
    (hclient : call.groups.slot .sendStatus = .done) (hstep : call.step e = .ok call') :
    call'.isClient = call.isClient ∧ call'.maxMessageLength = call.maxMessageLength := by
  apply step_batches (I := fun c => c.isClient = call.isClient ∧
    c.maxMessageLength = call.maxMessageLength) _ _ _ _ _ _ hclient
    (fun _ => ⟨rfl, rfl⟩) hstep
  · intro c c' hc h
    rwa [hc.isClient, hc.maxMessageLength]
  · intro c op success h
    rw [finishIoreqOp_frame]
    exact h
  · exact fun _ h => h
  · exact fun _ _ => ⟨rfl, rfl⟩
  · intro ops tag reqs set haveOps c _ _ hs _
    rw [hs.opened_eq hclient]
    exact ⟨rfl, rfl⟩
  · exact fun _ => ⟨rfl, rfl⟩

theorem step_cq {call call' : GrpcCall} {e : CallEvent}
    (hclient : call.groups.slot .sendStatus = .done) (hstep : call.step e = .ok call') :
    call.cq <+: call'.cq := by
  apply step_batches (I := fun c => call.cq <+: c.cq) _ _ _ _ _ _ hclient
    (fun _ => List.prefix_rfl) hstep
  · intro c c' hc h
    rwa [hc.cq]
  · intro c op success h
    rwa [finishIoreqOp_cq]
  · exact fun c h => h.trans (List.prefix_append _ _)
  · exact fun _ _ => List.prefix_append _ _
  · intro ops tag reqs set haveOps c _ _ hs _
    rw [hs.opened_eq hclient]
  · exact fun _ => List.prefix_rfl

theorem step_destroyCalled {call call' : GrpcCall} {e : CallEvent}
    (hclient : call.groups.slot .sendStatus = .done) (he : e ≠ .destroy)
    (hstep : call.step e = .ok call') : call'.destroyCalled = call.destroyCalled := by
  apply step_batches (I := fun c => c.destroyCalled = call.destroyCalled) _ _ _ _ _ _ hclient
    (fun _ => rfl) hstep
  · intro c c' hc h
    rwa [hc.destroyCalled]
  · intro c op success h
    rw [finishIoreqOp_frame]
    exact h
  · exact fun _ h => h
  · exact fun _ _ => rfl
  · intro ops tag reqs set haveOps c _ _ hs _
    rw [hs.opened_eq hclient]
  · exact fun hd => absurd hd he

end CrowdSound.Core.GrpcCall
