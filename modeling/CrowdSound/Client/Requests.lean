import CrowdSound.Client.Successes
import CrowdSound.Core.InitialMetadata

/-!
# Requests in order

The values that the request writer writes are sent one at a time, in order: the writer is resumed
only when the transport was given the one before.
-/

namespace CrowdSound.Client

open CrowdSound.Core CrowdSound.Core.GrpcCall

def CallBlock.request : CallBlock → Option Bytes
  | writeMessage message => some message
  | _ => none

def ClientEvent.request : ClientEvent → Option Bytes
  | .writeValue value => some value
  | _ => none

def ClientEvent.headers : ClientEvent → Option (List Metadata)
  | .startWithWriteable headers => some headers
  | _ => none

def requestMessage (value : Bytes) : WireMessage := ⟨0, [value]⟩

namespace GRPCCall

variable {ρ : Type} {decompress : CompressionAlgorithm → List Bytes → Bytes}
  {parse : Bytes → Option ρ}

def startedRequests (c : GRPCCall ρ) : ClientEvent → List Bytes
  | .callQueue => match c.callQueue with
    | [] => []
    | block :: _ => if c.deallocated then [] else block.request.toList
  | _ => []

/-- What becomes of the requests: `written` by the writer, `started` in the core, and the rest on
the call queue. -/
structure Requests (written started : List Bytes) (c : GRPCCall ρ) : Prop where
  queued : c.deallocated = false → written = started ++ c.callQueue.filterMap CallBlock.request
  inOrder : started <+: written
  gone : c.deallocated = true →
    c.retained = false ∧ c.requestWriter ≠ .started ∧ c.requestWriter ≠ .paused

section Steps

variable {written started : List Bytes} {c c' : GRPCCall ρ}

private theorem Requests.congr (h : Requests written started c)
    (hqueue : c'.callQueue.filterMap CallBlock.request = c.callQueue.filterMap CallBlock.request)
    (hd : c'.deallocated = c.deallocated) (hretained : c'.retained = c.retained)
    (hwriter : c'.deallocated = false ∨ c'.requestWriter = .finished ∨
      c'.requestWriter = c.requestWriter) : Requests written started c' := by
  refine ⟨?_, h.inOrder, ?_⟩
  · rw [hd, hqueue]
    exact h.queued
  · intro hgone
    obtain ⟨hno, hstarted, hpaused⟩ := h.gone (hd ▸ hgone)
    refine ⟨hretained.trans hno, ?_⟩
    rcases hwriter with halive | hfinished | hsame
    · simp [hgone] at halive
    · simp [hfinished]
    · rw [hsame]
      exact ⟨hstarted, hpaused⟩

private theorem Requests.finishWithError (h : Requests written started c)
    (errorOrNil : Option NSError) :
    Requests written started (c.finishWithError errorOrNil) :=
  h.congr rfl rfl rfl (Or.inr (Or.inl (GRXWriterState.set_finished c.requestWriter)))

private theorem Requests.cancelCall (h : Requests written started c) :
    Requests written started c.cancelCall :=
  h.congr rfl rfl rfl (Or.inr (Or.inr rfl))

private theorem Requests.startNextRead (h : Requests written started c) :
    Requests written started c.startNextRead := by
  rcases c.startNextRead_cases with hkept | ⟨_, hnext⟩
  · rwa [hkept]
  · rw [hnext]
    refine h.congr ?_ rfl rfl (Or.inr (Or.inr rfl))
    simp [enqueue, CallBlock.request]

private theorem Requests.handles (h : Requests written started c) {completion : Completion}
    {outOfMemory : Bool} (hhandler : Handles decompress c completion outOfMemory c') :
    Requests written started c' := by
  cases hhandler with
  | headers =>
      refine h.congr ?_ rfl rfl (Or.inr (Or.inr rfl))
      simp [enqueue, headersSet, CallBlock.request]
  | status =>
      have hset : Requests written started (c.trailersSet completion.results) :=
        h.congr rfl rfl rfl (Or.inr (Or.inr rfl))
      exact hset.finishWithError _
  | value => exact h.congr rfl rfl rfl (Or.inr (Or.inr rfl))
  | noMemory => exact (h.finishWithError _).cancelCall
  | resumed hd => exact h.congr rfl rfl rfl (Or.inl hd)
  | failed => exact h.finishWithError _
  | ignored => exact h

private theorem Requests.runs (h : Requests written started c) {w : GRXConcurrentWriteable Bytes}
    {block : WriteableBlock Bytes} (hruns : Runs parse c w block c') :
    Requests written started c' := by
  cases hruns with
  | parsed =>
      apply Requests.startNextRead
      exact h.congr rfl rfl rfl (Or.inr (Or.inr rfl))
  | bad value =>
      have hran : Requests written started (c.withWriteable (w.runBlock (.value value))) :=
        h.congr rfl rfl rfl (Or.inr (Or.inr rfl))
      apply Requests.startNextRead
      unfold badResponse
      split
      · exact hran
      · exact hran.finishWithError _
  | completed => exact h.congr rfl rfl rfl (Or.inr (Or.inr rfl))
  | cancelled => exact h.congr rfl rfl rfl (Or.inr (Or.inr rfl))
  | silent => exact h.congr rfl rfl rfl (Or.inr (Or.inr rfl))

private theorem Requests.ranBlock (h : Requests written started c) {block : CallBlock}
    {rest : List CallBlock} (hq : c.callQueue = block :: rest)
    (hqueue : c'.callQueue = rest) (hd : c'.deallocated = c.deallocated)
    (hretained : c'.retained = c.retained) (hwriter : c'.requestWriter = c.requestWriter) :
    Requests written (started ++ c.startedRequests .callQueue) c' := by
  have hevent : c.startedRequests .callQueue =
      if c.deallocated then [] else block.request.toList := by
    rw [startedRequests, hq]
  rw [hevent]
  cases hgone : c.deallocated with
  | true =>
      rw [if_pos rfl, List.append_nil]
      refine ⟨fun halive => ?_, h.inOrder, fun _ => ?_⟩
      · simp [hd, hgone] at halive
      · rw [hretained, hwriter]
        exact h.gone hgone
  | false =>
      have hall := h.queued hgone
      rw [hq] at hall
      rw [if_neg Bool.false_ne_true]
      have hsplit : written =
          started ++ block.request.toList ++ rest.filterMap CallBlock.request := by
        rw [hall]
        cases hrequest : block.request <;> simp [hrequest]
      refine ⟨fun _ => ?_, ⟨_, hsplit.symm⟩, fun hgone' => ?_⟩
      · rw [hqueue]
        exact hsplit
      · simp [hd, hgone] at hgone'

private theorem step_requests {e : ClientEvent} (h : Requests written started c)
    (hstep : c.step decompress parse e = .ok c') :
    Requests (written ++ e.request.toList) (started ++ c.startedRequests e) c' := by
  have hkept : Requests written started c' → e.request = none → c.startedRequests e = [] →
      Requests (written ++ e.request.toList) (started ++ c.startedRequests e) c' := by
    intro hc' hnone hquiet
    rw [hnone, hquiet, Option.toList_none, List.append_nil, List.append_nil]
    exact hc'
  -- a block of the call queue
  have hblock : ∀ {block : CallBlock} {rest : List CallBlock}, e = .callQueue →
      c.callQueue = block :: rest → c'.callQueue = rest → c'.deallocated = c.deallocated →
      c'.retained = c.retained → c'.requestWriter = c.requestWriter →
      Requests (written ++ e.request.toList) (started ++ c.startedRequests e) c' := by
    rintro block rest rfl hq hqueue hd hretained hwriter
    have hnone : ClientEvent.callQueue.request = none := rfl
    rw [hnone, Option.toList_none, List.append_nil]
    exact h.ranBlock hq hqueue hd hretained hwriter
  cases step_cases decompress parse hstep with
  | started headers c₁ c₂ c₃ hretained h₁ h₂ h₃ =>
      obtain ⟨_, rfl⟩ := startBatch_ok.mp h₁
      obtain ⟨_, rfl⟩ := startBatch_ok.mp h₂
      obtain ⟨_, rfl⟩ := startBatch_ok.mp h₃
      refine hkept ?_ rfl rfl
      have halive : c.deallocated = false := by
        cases hd : c.deallocated with
        | false => rfl
        | true => simp [(h.gone hd).1] at hretained
      exact h.congr rfl rfl rfl (Or.inl halive)
  | valueWritten value hw =>
      have halive : c.deallocated = false := by
        cases hd : c.deallocated with
        | false => rfl
        | true => exact absurd hw (h.gone hd).2.1
      have hall := h.queued halive
      have hquiet : c.startedRequests (.writeValue value) = [] := rfl
      rw [hquiet, List.append_nil]
      refine ⟨fun _ => ?_, h.inOrder.trans (List.prefix_append _ _), fun hgone => ?_⟩
      · rw [hall, enqueue, List.filterMap_append, List.append_assoc]
        rfl
      · have hgone' : c.deallocated = true := hgone
        simp [halive] at hgone'
  | writesFailed =>
      refine hkept ?_ rfl rfl
      have hfinished : Requests written started (c.withWriter .finished) :=
        h.congr rfl rfl rfl (Or.inr (Or.inl rfl))
      exact (hfinished.finishWithError _).cancelCall
  | writesEnded =>
      refine hkept (h.congr ?_ rfl rfl (Or.inr (Or.inl rfl))) rfl rfl
      simp [enqueue, withWriter, CallBlock.request]
  | batch block rest operation _ hq hop hd hstart =>
      obtain ⟨_, rfl⟩ := startBatch_ok.mp hstart
      exact hblock rfl hq rfl rfl rfl rfl
  | skipped block rest operation hq hop hd => exact hblock rfl hq rfl rfl rfl rfl
  | destroyed rest _ hq hdestroy =>
      obtain ⟨call, _, rfl⟩ := onCore_ok.mp hdestroy
      exact hblock rfl hq rfl rfl rfl rfl
  | handled outOfMemory completion rest _ hq hhandler =>
      have hcounted : Requests written started c.counted :=
        h.congr rfl rfl rfl (Or.inr (Or.inr rfl))
      exact hkept (hcounted.handles hhandler) rfl rfl
  | ran w block rest _ hw hq hruns => exact hkept (h.runs hruns) rfl rfl
  | sent success _ hcore =>
      obtain ⟨call, _, rfl⟩ := onCore_ok.mp hcore
      exact hkept (h.congr rfl rfl rfl (Or.inr (Or.inr rfl))) rfl rfl
  | received success ops state _ hcore =>
      obtain ⟨call, _, rfl⟩ := onCore_ok.mp hcore
      exact hkept (h.congr rfl rfl rfl (Or.inr (Or.inr rfl))) rfl rfl
  | cancelled => exact hkept (h.finishWithError _).cancelCall rfl rfl
  | released =>
      refine hkept ⟨h.queued, h.inOrder, fun hgone => ⟨rfl, (h.gone hgone).2⟩⟩ rfl rfl
  | deallocated hreferenced _ =>
      obtain ⟨hretained, _, hwriter⟩ := isReferenced_eq_false.mp hreferenced
      exact hkept ⟨fun halive => absurd halive Bool.noConfusion, h.inOrder,
        fun _ => ⟨hretained, hwriter⟩⟩ rfl rfl

end Steps

private theorem trace_acceptedParts_eq_nil {β : Type} {f : BatchOp → Option β} {call : GrpcCall}
    {es : List CallEvent}
    (hes : ∀ e ∈ es, ∀ ops tag, e = .startBatch ops tag → ops.filterMap f = []) :
    EventRun.trace GrpcCall.step (acceptedParts f) call es = [] := by
  apply List.eq_nil_iff_forall_not_mem.mpr
  apply EventRun.forall_trace (P := fun _ => False)
  intro call e he part hmem
  cases e with
  | startBatch ops tag =>
      have hnone := hes _ he ops tag rfl
      rw [acceptedParts, hnone, ite_self] at hmem
      exact absurd hmem List.not_mem_nil
  | _ => exact absurd hmem List.not_mem_nil

theorem step_started {c c' : GRPCCall ρ} {e : ClientEvent}
    (hstep : c.step decompress parse e = .ok c') :
    EventRun.trace GrpcCall.step acceptedMessages c.wrappedCall (coreEvents c e) =
      (c.startedRequests e).map requestMessage := by
  have hother : (∀ e' ∈ coreEvents c e, ∀ ops tag, e' = .startBatch ops tag →
      ops.filterMap BatchOp.message = []) → c.startedRequests e = [] →
      EventRun.trace GrpcCall.step acceptedMessages c.wrappedCall (coreEvents c e) =
        (c.startedRequests e).map requestMessage := by
    intro hes hnone
    rw [hnone]
    exact trace_acceptedParts_eq_nil hes
  cases step_cases decompress parse hstep with
  | started headers => exact hother (by simp [coreEvents, batchEvent, GRPCOperation.batch,
      GRPCOperation.op, BatchOp.message]) rfl
  | batch block rest operation _ hq hop hd hstart =>
      obtain ⟨hok, _⟩ := startBatch_ok.mp hstart
      have hcore : coreEvents c .callQueue = [batchEvent operation] := by
        simp [coreEvents, hq, hop, hd]
      have hrequest : c.startedRequests .callQueue = block.request.toList := by
        simp [startedRequests, hq, hd]
      rw [hcore, hrequest]
      cases block with
      | writeMessage message =>
          cases hop
          have haccepted : acceptedMessages c.wrappedCall (batchEvent (.sendMessage message)) =
              [requestMessage message] := if_pos hok
          rw [EventRun.trace, haccepted]
          split <;> rfl
      | startRead =>
          cases hop
          exact trace_acceptedParts_eq_nil (by simp [batchEvent, GRPCOperation.batch,
            GRPCOperation.op, BatchOp.message])
      | finishRequest =>
          cases hop
          exact trace_acceptedParts_eq_nil (by simp [batchEvent, GRPCOperation.batch,
            GRPCOperation.op, BatchOp.message])
      | releaseWrappedCall => cases hop
  | skipped block rest operation hq hop hd =>
      exact hother (by simp [coreEvents, hq, hop, hd]) (by simp [startedRequests, hq, hd])
  | destroyed rest _ hq hdestroy =>
      refine hother (by simp [coreEvents, hq, CallBlock.operation]) ?_
      simp [startedRequests, hq, CallBlock.request]
  | handled outOfMemory completion rest _ hq =>
      refine hother ?_ rfl
      simp only [coreEvents, hq]
      split <;> simp [cancelEvent]
  | valueWritten => exact hother (by simp [coreEvents]) rfl
  | writesFailed => exact hother (by simp [coreEvents, cancelEvent]) rfl
  | writesEnded => exact hother (by simp [coreEvents]) rfl
  | ran => exact hother (by simp [coreEvents]) rfl
  | sent => exact hother (by simp [coreEvents]) rfl
  | received => exact hother (by simp [coreEvents]) rfl
  | cancelled => exact hother (by simp [coreEvents, cancelEvent]) rfl
  | released => exact hother (by simp [coreEvents]) rfl
  | deallocated => exact hother (by simp [coreEvents]) rfl

theorem step_headers {c c' : GRPCCall ρ} {e : ClientEvent}
    (hstep : c.step decompress parse e = .ok c') :
    EventRun.trace GrpcCall.step acceptedMetadata c.wrappedCall (coreEvents c e) =
      e.headers.toList := by
  cases step_cases decompress parse hstep with
  | started headers c₁ c₂ c₃ _ h₁ =>
      obtain ⟨hok, _⟩ := startBatch_ok.mp h₁
      have haccepted : acceptedMetadata c.wrappedCall (batchEvent (.sendMetadata headers)) =
          [headers] := if_pos hok
      have hrest : ∀ call : GrpcCall, EventRun.trace GrpcCall.step acceptedMetadata call
          [batchEvent .recvMetadata, batchEvent .recvStatus] = [] := fun call =>
        trace_acceptedParts_eq_nil (by simp [batchEvent, GRPCOperation.batch, GRPCOperation.op,
          BatchOp.initialMetadata])
      rw [coreEvents, EventRun.trace, haccepted]
      split
      · rw [hrest]
        rfl
      · rfl
  | batch block rest operation _ hq hop hd =>
      have hcore : coreEvents c .callQueue = [batchEvent operation] := by
        simp [coreEvents, hq, hop, hd]
      rw [hcore]
      apply trace_acceptedParts_eq_nil
      cases block <;> cases hop <;> simp [batchEvent, GRPCOperation.batch, GRPCOperation.op,
        BatchOp.initialMetadata]
  | skipped block rest operation hq hop hd =>
      exact trace_acceptedParts_eq_nil (by simp [coreEvents, hq, hop, hd])
  | destroyed rest _ hq hdestroy =>
      exact trace_acceptedParts_eq_nil (by simp [coreEvents, hq, CallBlock.operation])
  | handled outOfMemory completion rest _ hq =>
      apply trace_acceptedParts_eq_nil
      simp only [coreEvents, hq]
      split <;> simp [cancelEvent]
  | valueWritten | writesFailed | writesEnded | ran | sent | received | cancelled | released
    | deallocated => exact trace_acceptedParts_eq_nil (by simp [coreEvents, cancelEvent])

private theorem Tokens.nothing_unsent {accepted : List Nat} {c : GRPCCall ρ} (h : Tokens accepted c)
    (hwriter : c.requestWriter = .started) :
    c.wrappedCall.unsent = [] ∧ c.callQueue.filterMap CallBlock.request = [] := by
  have hwrites := h.writes
  rw [GRPCCall.writes, hwriter, GRXWriterState.writes] at hwrites
  constructor
  · rw [unsent, if_neg]
    rintro ⟨hlive, _⟩
    obtain ⟨l, hl, _⟩ := OpGroups.Groups.isLive_iff.mp hlive
    have hout : tagOf .sendMessage ∈ c.wrappedCall.outstanding :=
      h.call.labelled.tagged.outstanding h.call.accounts.1 hl
    have hpending : Handler.sendMessage.tag ∈ c.pending := Multiset.mem_add.mpr (Or.inr hout)
    have hcount := Multiset.count_pos.mpr hpending
    omega
  · have hnone : c.callQueue.countP CallBlock.isWrite = 0 := by omega
    rw [List.countP_eq_zero] at hnone
    apply List.filterMap_eq_nil_iff.mpr
    intro block hblock
    have hno := hnone block hblock
    cases block <;> simp [CallBlock.isWrite, CallBlock.request] at hno ⊢

/-- The requests after the events `past`, each of which comes with what it started. -/
def RequestsAfter (past : List (ClientEvent × List Bytes)) (c : GRPCCall ρ) : Prop :=
  Requests (past.flatMap fun p => p.1.request.toList) (past.flatMap fun p => p.2) c

theorem run_requests {maxMessageLength : UInt32} {channelMetadata : List Metadata}
    {events : List ClientEvent} {c : GRPCCall ρ}
    (h : EventRun.run (step decompress parse) (initWithHost maxMessageLength channelMetadata)
      events = .ok c) :
    Requests (events.filterMap ClientEvent.request)
      (EventRun.trace (step decompress parse) startedRequests
        (initWithHost maxMessageLength channelMetadata) events) c := by
  have hrun : RequestsAfter ([] ++ EventRun.trace (step decompress parse)
      (fun s e => [(e, startedRequests s e)]) (initWithHost maxMessageLength channelMetadata)
      events) c :=
    EventRun.run_trace_invariant
      (fun past s e s' hs he => by
        have hnext := step_requests hs he
        simpa [RequestsAfter] using hnext)
      ⟨fun _ => rfl, List.prefix_rfl, fun hgone => absurd hgone Bool.false_ne_true⟩ h
  rw [RequestsAfter, List.nil_append, EventRun.trace_flatMap, EventRun.trace_flatMap] at hrun
  simp only [List.flatMap_cons, List.flatMap_nil, List.append_nil] at hrun
  rw [EventRun.trace_of_event (fun e : ClientEvent => e.request.toList) h] at hrun
  rwa [← List.filterMap_eq_flatMap_toList] at hrun

/-- In every run whose receives do not fail, the transport was given the headers that the call was
started with and then the first values that the request writer wrote, in order and once each. As
long as the call object is there and the write side is open, the others wait in the core or on the
call queue, and none does when the writer is resumed. -/
theorem requests_in_order {maxMessageLength : UInt32} {channelMetadata : List Metadata}
    {events : List ClientEvent} {c : GRPCCall ρ}
    (h : EventRun.run (step decompress parse) (initWithHost maxMessageLength channelMetadata)
      events = .ok c) (hreceives : ∀ e ∈ events, e.NotFailed) :
    ∃ values, (c.wrappedCall.sends = [] ∧ values = [] ∨
        ∃ headers, events.filterMap ClientEvent.headers = [headers] ∧ c.wrappedCall.sentOps =
          .metadata (firstBatch channelMetadata false headers) ::
            values.flatMap fun value => (requestMessage value).frame) ∧
      values <+: events.filterMap ClientEvent.request ∧
      (c.deallocated = false → c.wrappedCall.writeState ≠ .writeClosed →
        events.filterMap ClientEvent.request = values ++
          c.wrappedCall.unsent.map (fun m => m.slices.flatten) ++
            c.callQueue.filterMap CallBlock.request) ∧
      (c.requestWriter = .started → c.deallocated = false ∧ c.wrappedCall.unsent = [] ∧
        c.callQueue.filterMap CallBlock.request = []) := by
  obtain ⟨accepted, htokens, _⟩ := run_delivers h
  have hcore := EventRun.run_simulate_trace GRPCCall.wrappedCall coreEvents
    (fun s e s' he => step_core decompress parse he) h
  have hnf : ∀ e' ∈ EventRun.trace (step decompress parse) coreEvents
      (initWithHost maxMessageLength channelMetadata) events, NotFailed e' :=
    EventRun.forall_trace (fun s e he => (coreEvents_spec s e).2.1 (hreceives e he)) _
  obtain ⟨sent, hsent⟩ := run_sends hcore hnf
  have hwire := (run_begins hcore hnf).sent hsent
  have hrequests := run_requests h
  have haccepted := EventRun.trace_simulate GRPCCall.wrappedCall coreEvents
    (fun c e => (startedRequests c e).map requestMessage) acceptedMessages
    (fun s e s' he => ⟨step_core decompress parse he, step_started he⟩) h
  have hheaders := EventRun.trace_simulate GRPCCall.wrappedCall coreEvents
    (fun (_ : GRPCCall ρ) (e : ClientEvent) => e.headers.toList) acceptedMetadata
    (fun s e s' he => ⟨step_core decompress parse he, step_headers he⟩) h
  rw [EventRun.trace_of_event (fun e : ClientEvent => e.headers.toList) h,
    ← List.filterMap_eq_flatMap_toList] at hheaders
  have hstarted : (EventRun.trace (step decompress parse) startedRequests
      (initWithHost maxMessageLength channelMetadata) events).map requestMessage =
        EventRun.trace (step decompress parse)
          (fun c e => (startedRequests c e).map requestMessage)
          (initWithHost maxMessageLength channelMetadata) events := by
    rw [List.map_eq_flatMap, EventRun.trace_flatMap]
    simp only [List.map_eq_flatMap]
  have hinit : (initWithHost maxMessageLength channelMetadata : GRPCCall ρ).wrappedCall =
      create true maxMessageLength channelMetadata false := rfl
  rw [hinit] at haccepted hheaders
  rw [haccepted, ← hstarted] at hsent
  obtain ⟨rest, hrest⟩ := hsent.sentPrefix
  obtain ⟨values, others, hsplit, hvalues, _⟩ := List.map_eq_append_iff.mp hrest.symm
  refine ⟨values, ?_, ?_, ?_, ?_⟩
  · rcases hwire with ⟨hnone, hno⟩ | ⟨headers, hchosen, hfirst⟩
    · rw [hno] at hvalues
      exact Or.inl ⟨hnone, List.map_eq_nil_iff.mp hvalues⟩
    · refine Or.inr ⟨headers, hheaders.symm.trans hchosen, ?_⟩
      rw [hfirst, ← hvalues, List.flatMap_map]
  · have hprefix : values <+: EventRun.trace (step decompress parse) startedRequests
        (initWithHost maxMessageLength channelMetadata) events := by
      rw [hsplit]
      exact List.prefix_append _ _
    exact hprefix.trans hrequests.inOrder
  · intro halive hopen
    have hwaiting := congrArg (List.map fun m : WireMessage => m.slices.flatten)
      (hsent.waiting hopen)
    have hflat : ∀ l : List Bytes,
        (l.map requestMessage).map (fun m : WireMessage => m.slices.flatten) = l := by
      intro l
      rw [List.map_map]
      exact (List.map_congr_left fun v _ => List.append_nil v).trans (List.map_id l)
    rw [hflat, List.map_append, ← hvalues, hflat] at hwaiting
    rw [hrequests.queued halive, hwaiting]
  · intro hwriter
    obtain ⟨hunsent, hqueue⟩ := htokens.nothing_unsent hwriter
    refine ⟨?_, hunsent, hqueue⟩
    cases hd : c.deallocated with
    | false => rfl
    | true => exact absurd hwriter (hrequests.gone hd).2.1

theorem requests_session : ∃ c : GRPCCall Bytes,
    EventRun.run (step joinSlices some) (initWithHost 1000 []) session = .ok c ∧
      ∃ values, (c.wrappedCall.sends = [] ∧ values = [] ∨
          ∃ headers, session.filterMap ClientEvent.headers = [headers] ∧ c.wrappedCall.sentOps =
            .metadata (firstBatch [] false headers) ::
              values.flatMap fun value => (requestMessage value).frame) ∧
        values <+: session.filterMap ClientEvent.request ∧
        (c.deallocated = false → c.wrappedCall.writeState ≠ .writeClosed →
          session.filterMap ClientEvent.request = values ++
            c.wrappedCall.unsent.map (fun m => m.slices.flatten) ++
              c.callQueue.filterMap CallBlock.request) ∧
        (c.requestWriter = .started → c.deallocated = false ∧ c.wrappedCall.unsent = [] ∧
          c.callQueue.filterMap CallBlock.request = []) := by
  obtain ⟨c, h, _⟩ := EventRun.exists_ok_of_any
    (r := EventRun.run (step joinSlices some) (initWithHost 1000 [] : GRPCCall Bytes) session)
    (p := fun _ => true) (by decide)
  exact ⟨c, h, requests_in_order h (by decide)⟩

end GRPCCall

end CrowdSound.Client
