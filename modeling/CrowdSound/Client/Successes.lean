import CrowdSound.Client.Responses

/-!
# Successful calls

The request that asks the application to finish without an error is enqueued behind the last
response: when the application is told that a call succeeded, it has been given every response.
-/

namespace CrowdSound.Client

open CrowdSound.Core CrowdSound.Core.GrpcCall

private theorem tagOf_alone : ∀ op, tagOf op = tagOf .recvMessage → op = .recvMessage := by
  intro op h
  cases op <;> first | rfl | exact absurd h (by decide)

/-- What is known of the core's call when no receive has failed. -/
structure Intact (past : List StreamOp) (call : GrpcCall) : Prop where
  reads : ClientReads past call
  messages : MessageBatches tagOf call
  batches : ∃ accepted, OneByOne accepted call

private theorem Intact.step {past : List StreamOp} {call call' : GrpcCall} {e : CallEvent}
    (h : Intact past call) (he : IsOperation e) (hreceives : NotFailed e)
    (hstep : call.step e = .ok call') : Intact (past ++ receivedOps e) call' := by
  obtain ⟨accepted, hbatches⟩ := h.batches
  exact ⟨h.reads.step hreceives hstep,
    h.messages.step tagOf_alone h.reads hreceives he.single hstep, _, hbatches.step he hstep⟩

private theorem create_intact (maxMessageLength : UInt32) (sendInitialMetadata : List Metadata)
    (sendDeadline : Bool) :
    Intact [] (create true maxMessageLength sendInitialMetadata sendDeadline) := by
  refine ⟨create_clientReads _ _ _, ⟨?_, ?_, ?_, ?_⟩, [], create_oneByOne _ _ _⟩
  · exact (create_oneByOne maxMessageLength sendInitialMetadata sendDeadline).labelled.tagged
  · exact List.Pairwise.nil
  · exact fun r hr => absurd hr List.not_mem_nil
  · intro l hl
    have hempty : (create true maxMessageLength sendInitialMetadata sendDeadline).groups.slot
        .recvMessage = .empty := rfl
    rw [hempty] at hl
    simp at hl

private theorem Intact.run {past : List StreamOp} {call call' : GrpcCall} {es : List CallEvent}
    (h : Intact past call) (hes : ∀ e ∈ es, IsOperation e) (hreceives : ∀ e ∈ es, NotFailed e)
    (hrun : EventRun.run GrpcCall.step call es = .ok call') :
    Intact (past ++ es.flatMap receivedOps) call' := by
  have hall : Intact (past ++ EventRun.trace GrpcCall.step (fun _ e => receivedOps e) call es)
      call' :=
    EventRun.run_trace_invariant_of (I := Intact) (P := fun e => IsOperation e ∧ NotFailed e)
      (fun past s e s' hs he hstep => hs.step he.1 he.2 hstep) h
      (fun e he => ⟨hes e he, hreceives e he⟩) hrun
  rwa [EventRun.trace_of_event receivedOps hrun] at hall

private theorem Intact.okLast {past : List StreamOp} {call : GrpcCall} (h : Intact past call)
    {handled : Nat} {r r' : Completion} (hr : r ∈ call.cq.take handled) (hok : r.results.recvStatus = some .ok)
    (hr' : r' ∈ call.cq.drop handled) : r'.results.recvMessage = none := by
  obtain ⟨accepted, hbatches⟩ := h.batches
  have hlast := h.messages.last
  have hsplit : call.completions = call.cq.take handled ++ call.cq.drop handled := by
    rw [completions, hbatches.settled.completed, List.map_nil, List.append_nil,
      List.take_append_drop]
  rw [hsplit, List.pairwise_append] at hlast
  exact hlast.2.2 r hr r' hr' hok

private theorem Intact.readMessage {past : List StreamOp} {call : GrpcCall} (h : Intact past call)
    {r : Completion} (hr : r ∈ call.cq) : readMessage r = r.results.recvMessage := by
  obtain ⟨accepted, hbatches⟩ := h.batches
  have hmem : r ∈ call.completions := List.mem_append_left _ hr
  rw [Client.readMessage]
  split
  · rfl
  · next hno =>
      by_contra hmessage
      have hcarries : r.results.recvMessage ≠ none := fun hnone => hmessage hnone.symm
      exact hno ⟨(hbatches.fits r hmem).message hcarries, h.messages.succeeded r hmem hcarries⟩

private theorem Intact.allRead {past : List StreamOp} {call : GrpcCall} (h : Intact past call)
    {handled : Nat} {r : Completion} (hr : r ∈ call.cq.take handled)
    (hok : r.results.recvStatus = some .ok) :
    ∃ a, Assembly.initial.feedAll call.maxMessageLength past =
      some (a, (call.cq.take handled).filterMap Client.readMessage) := by
  obtain ⟨accepted, hbatches⟩ := h.batches
  have hreport : r.results ∈ call.reports :=
    List.mem_append_left _ (List.mem_map.mpr ⟨r, List.mem_of_mem_take hr, rfl⟩)
  obtain ⟨_, a, ha⟩ := h.reads.closing.complete _ hreport hok
  have hnone : call.held = [] := by
    have hno := recvMessage_notFinished tagOf_alone hbatches.accounts.1 h.messages.tagged
      hbatches.fresh
    simp [held, hno]
  have hrest : (call.cq.drop handled).filterMap (fun c => c.results.recvMessage) = [] :=
    List.filterMap_eq_nil_iff.mpr fun r' hr' => h.okLast hr hok hr'
  have hall : call.deliveredMessages = (call.cq.take handled).filterMap Client.readMessage := by
    rw [deliveredMessages]
    conv_lhs => rw [← List.take_append_drop handled call.cq]
    rw [List.filterMap_append, hrest, List.append_nil]
    apply List.filterMap_congr
    exact fun r' hr' => (h.readMessage (List.mem_of_mem_take hr')).symm
  refine ⟨a, ?_⟩
  rw [taken, hnone, List.append_nil, hbatches.settled.handedOut, hall] at ha
  exact ha

/-- The receive did not fail. -/
def ClientEvent.NotFailed : ClientEvent → Prop
  | .doneRecv success _ _ => success = true
  | _ => True

instance : DecidablePred ClientEvent.NotFailed := by
  intro e
  cases e <;> unfold ClientEvent.NotFailed <;> infer_instance

def ClientEvent.receivedOps : ClientEvent → List StreamOp
  | .doneRecv success ops state => GrpcCall.receivedOps (.onDoneRecv success ops state)
  | _ => []

namespace GRPCCall

variable {ρ : Type} {decompress : CompressionAlgorithm → List Bytes → Bytes}
  {parse : Bytes → Option ρ}

private theorem batchEvent_isOperation (operation : GRPCOperation) :
    IsOperation (batchEvent operation) :=
  ⟨operation, rfl, rfl⟩

/-- What an event stands for in the core: batches of one operation, and what it receives. -/
theorem coreEvents_spec (c : GRPCCall ρ) (e : ClientEvent) :
    (∀ e' ∈ coreEvents c e, IsOperation e') ∧
      (e.NotFailed → ∀ e' ∈ coreEvents c e, NotFailed e') ∧
      (coreEvents c e).flatMap receivedOps = e.receivedOps := by
  have hcancel : IsOperation cancelEvent ∧ NotFailed cancelEvent ∧ receivedOps cancelEvent = [] :=
    ⟨trivial, trivial, rfl⟩
  have hbatch : ∀ operation, IsOperation (batchEvent operation) ∧
      NotFailed (batchEvent operation) ∧ receivedOps (batchEvent operation) = [] :=
    fun operation => ⟨batchEvent_isOperation operation, trivial, rfl⟩
  have hkinds : ∀ es : List CallEvent,
      (∀ e' ∈ es, IsOperation e' ∧ NotFailed e' ∧ receivedOps e' = []) →
      (∀ e' ∈ es, IsOperation e') ∧ (∀ e' ∈ es, NotFailed e') ∧ es.flatMap receivedOps = [] := by
    intro es hes
    refine ⟨fun e' he => (hes e' he).1, fun e' he => (hes e' he).2.1, ?_⟩
    exact List.flatMap_eq_nil_iff.mpr fun e' he => (hes e' he).2.2
  have hquiet : (∀ e' ∈ coreEvents c e, IsOperation e' ∧ NotFailed e' ∧ receivedOps e' = []) →
      e.receivedOps = [] → (∀ e' ∈ coreEvents c e, IsOperation e') ∧
        (e.NotFailed → ∀ e' ∈ coreEvents c e, NotFailed e') ∧
        (coreEvents c e).flatMap receivedOps = e.receivedOps := by
    intro hes hnone
    obtain ⟨hop, hnf, hops⟩ := hkinds _ hes
    exact ⟨hop, fun _ => hnf, hops.trans hnone.symm⟩
  cases e with
  | doneRecv success ops state =>
      refine ⟨?_, ?_, ?_⟩
      · simp [coreEvents, IsOperation]
      · intro hsuccess e' he
        rw [List.mem_singleton.mp he]
        exact hsuccess
      · simp [coreEvents, ClientEvent.receivedOps]
  | startWithWriteable headers =>
      apply hquiet _ rfl
      intro e' he
      simp only [coreEvents, List.mem_cons, List.not_mem_nil, or_false] at he
      rcases he with rfl | rfl | rfl <;> exact hbatch _
  | callQueue =>
      apply hquiet _ rfl
      intro e' he
      simp only [coreEvents] at he
      split at he
      · simp at he
      · split at he
        · split at he
          · simp at he
          · rw [List.mem_singleton.mp he]
            exact hbatch _
        · rw [List.mem_singleton.mp he]
          exact ⟨trivial, trivial, rfl⟩
  | completionQueue outOfMemory =>
      apply hquiet _ rfl
      intro e' he
      simp only [coreEvents] at he
      split at he
      · simp at he
      · split at he
        · rw [List.mem_singleton.mp he]
          exact hcancel
        · simp at he
  | writesFinishedWithError errorOrNil =>
      apply hquiet _ rfl
      intro e' he
      cases errorOrNil with
      | none => simp [coreEvents] at he
      | some error =>
          rw [List.mem_singleton.mp he]
          exact hcancel
  | cancel =>
      apply hquiet _ rfl
      intro e' he
      rw [List.mem_singleton.mp he]
      exact hcancel
  | doneSend success =>
      apply hquiet _ rfl
      intro e' he
      rw [List.mem_singleton.mp he]
      exact ⟨trivial, trivial, rfl⟩
  | _ => exact hquiet (fun e' he => absurd he List.not_mem_nil) rfl

theorem run_maxMessageLength {call call' : GrpcCall} {es : List CallEvent}
    (hclient : call.groups.slot .sendStatus = .done)
    (h : EventRun.run GrpcCall.step call es = .ok call') :
    call'.maxMessageLength = call.maxMessageLength := by
  have hrun := EventRun.run_invariant (P := fun _ => True)
    (I := fun c => c.groups.slot .sendStatus = .done ∧
      c.maxMessageLength = call.maxMessageLength)
    (fun s e s' hs _ hstep =>
      ⟨step_done hs.1 hstep, (step_kept hs.1 hstep).2.trans hs.2⟩)
    ⟨hclient, rfl⟩ (fun _ _ => trivial) h
  exact hrun.2

private theorem step_intact {past : List StreamOp} {c c' : GRPCCall ρ} {e : ClientEvent}
    (h : Intact past c.wrappedCall) (hreceives : e.NotFailed)
    (hstep : c.step decompress parse e = .ok c') :
    Intact (past ++ e.receivedOps) c'.wrappedCall := by
  obtain ⟨hop, hnf, hops⟩ := coreEvents_spec c e
  have hrun := h.run hop (hnf hreceives) (step_core decompress parse hstep)
  rwa [hops] at hrun

def OkHandled (c : GRPCCall ρ) : Prop :=
  ∃ r ∈ c.wrappedCall.cq.take c.handled, r.results.recvStatus = some .ok

/-- What stands behind a success: the status `ok`, and every response before it. -/
structure Succeeds (decompress : CompressionAlgorithm → List Bytes → Bytes)
    (parse : Bytes → Option ρ) (c : GRPCCall ρ) (w : GRXConcurrentWriteable Bytes) : Prop where
  status : .successfulCompletion ∈ w.writeableQueue ∨ .writesFinishedWithError none ∈ w.sent →
    c.OkHandled
  last : w.writeableQueue.Pairwise fun block block' =>
    block = .successfulCompletion → valueOf block' = none
  queued : .successfulCompletion ∈ w.writeableQueue → w.writeable = true →
    valuesOf w.sent ++ w.writeableQueue.filterMap valueOf = c.received decompress
  sent : .writesFinishedWithError none ∈ w.sent → valuesOf w.sent = c.received decompress ∧
    (c.deallocated = true ∨ ∀ value ∈ valuesOf w.sent, parse value ≠ none)

section Succeeds

variable {c c' : GRPCCall ρ} {w : GRXConcurrentWriteable Bytes}

private theorem Succeeds.congr (h : Succeeds decompress parse c w)
    (hok : c.OkHandled → c'.OkHandled)
    (hreceived : c.OkHandled → c'.received decompress = c.received decompress)
    (hd : c.deallocated = true → c'.deallocated = true) : Succeeds decompress parse c' w := by
  refine ⟨fun hwhy => hok (h.status hwhy), h.last, ?_, ?_⟩
  · intro hmem hw
    rw [hreceived (h.status (Or.inl hmem))]
    exact h.queued hmem hw
  · intro hmem
    obtain ⟨hvalues, hparsed⟩ := h.sent hmem
    rw [hreceived (h.status (Or.inr hmem))]
    exact ⟨hvalues, hparsed.imp_left hd⟩

private theorem Succeeds.none_before (h : Succeeds decompress parse c w) (hno : ¬ c.OkHandled) :
    .successfulCompletion ∉ w.writeableQueue ∧ .writesFinishedWithError none ∉ w.sent :=
  ⟨fun hmem => hno (h.status (Or.inl hmem)), fun hmem => hno (h.status (Or.inr hmem))⟩

private theorem Succeeds.of_none (hq : .successfulCompletion ∉ w.writeableQueue)
    (hs : .writesFinishedWithError none ∉ w.sent) : Succeeds decompress parse c w := by
  refine ⟨?_, ?_, fun hmem => absurd hmem hq, fun hmem => absurd hmem hs⟩
  · rintro (hmem | hmem)
    · exact absurd hmem hq
    · exact absurd hmem hs
  · apply List.Pairwise.imp_of_mem (R := fun _ _ => True)
    · rintro block block' hmem _ _ rfl
      exact absurd hmem hq
    · exact List.pairwise_of_forall fun _ _ => trivial

private theorem Succeeds.start :
    Succeeds decompress parse c GRXConcurrentWriteable.initWithWriteable :=
  .of_none List.not_mem_nil List.not_mem_nil

private theorem Succeeds.cancelWithError (h : Succeeds decompress parse c w)
    (hordered : w.WellOrdered)
    (error : NSError) : Succeeds decompress parse c (w.cancelWithError error) := by
  have hgone := cancelled_gone hordered error
  unfold GRXConcurrentWriteable.cancelWithError at hgone ⊢
  split at hgone
  · next hf =>
      rw [if_pos hf]
      exact h
  · next hf =>
      rw [if_neg hf]
      refine ⟨?_, ?_, ?_, h.sent⟩
      · rintro (hmem | hmem)
        · rw [List.mem_append, List.mem_singleton] at hmem
          rcases hmem with hmem | hmem
          · exact h.status (Or.inl hmem)
          · cases hmem
        · exact h.status (Or.inr hmem)
      · rw [List.pairwise_append]
        refine ⟨h.last, List.pairwise_singleton _ _, ?_⟩
        intro block _ block' hmem _
        rw [List.mem_singleton.mp hmem]
        rfl
      · exact fun _ hw => absurd hw Bool.false_ne_true

private theorem Succeeds.enqueueSuccessfulCompletion (h : Succeeds decompress parse c w)
    (hok : c.OkHandled) (hflow : w.writeable = true →
      valuesOf w.sent ++ w.writeableQueue.filterMap valueOf = c.received decompress) :
    Succeeds decompress parse c w.enqueueSuccessfulCompletion := by
  refine ⟨fun _ => hok, ?_, ?_, h.sent⟩
  · rw [GRXConcurrentWriteable.enqueueSuccessfulCompletion, List.pairwise_append]
    refine ⟨h.last, List.pairwise_singleton _ _, ?_⟩
    intro block _ block' hmem _
    rw [List.mem_singleton.mp hmem]
    rfl
  · intro _ hw
    have hnone : w.enqueueSuccessfulCompletion.writeableQueue.filterMap valueOf =
        w.writeableQueue.filterMap valueOf := by
      simp [GRXConcurrentWriteable.enqueueSuccessfulCompletion, List.filterMap_cons, valueOf]
    rw [hnone]
    exact hflow hw

section Blocks

variable {block : WriteableBlock Bytes} {rest : List (WriteableBlock Bytes)}

private theorem mem_rest (hq : w.writeableQueue = block :: rest) {block' : WriteableBlock Bytes}
    (hmem : block' ∈ rest) : block' ∈ w.writeableQueue := by
  rw [hq]
  exact List.mem_cons_of_mem _ hmem

private theorem not_finished (h : w.WellOrdered) (hw : w.writeable = true)
    (errorOrNil : Option NSError) :
    .writesFinishedWithError errorOrNil ∉ w.sent := by
  intro hmem
  rcases h.shape with ⟨values, hsent, _⟩ | ⟨_, _, _, hf, _⟩
  · rw [hsent] at hmem
    simp at hmem
  · have hlive := h.live
    simp [hw, hf] at hlive

private theorem Succeeds.ranValue (h : Succeeds decompress parse c w) (hordered : w.WellOrdered)
    {value : Bytes} (hq : w.writeableQueue = .value value :: rest) (hw : w.writeable = true) :
    Succeeds decompress parse c
      (GRXConcurrentWriteable.runBlock { w with writeableQueue := rest } (.value value)) := by
  have hrun : GRXConcurrentWriteable.runBlock { w with writeableQueue := rest } (.value value) =
      { w with writeableQueue := rest, sent := w.sent ++ [.writeValue value] } := by
    simp [GRXConcurrentWriteable.runBlock, hw]
  have hlast := h.last
  rw [hq, List.pairwise_cons] at hlast
  have hnone := not_finished hordered hw none
  have hsent : ∀ {P : Prop}, .writesFinishedWithError none ∈ w.sent ++ [.writeValue value] → P := by
    intro P hmem
    rw [List.mem_append, List.mem_singleton] at hmem
    rcases hmem with hmem | hmem
    · exact absurd hmem hnone
    · cases hmem
  rw [hrun]
  refine ⟨?_, hlast.2, ?_, fun hmem => hsent hmem⟩
  · rintro (hmem | hmem)
    · exact h.status (Or.inl (mem_rest hq hmem))
    · exact hsent hmem
  · intro hmem _
    have hall := h.queued (mem_rest hq hmem) hw
    rw [hq, List.filterMap_cons_some (f := valueOf) (b := value) rfl] at hall
    simpa using hall

/-- A block that writes no value, when what it sends is no success. -/
theorem Succeeds.ranOther (h : Succeeds decompress parse c w)
    (hq : w.writeableQueue = block :: rest) (hblock : valueOf block = none ∨ w.writeable = false)
    {messages : List (GRXMessage Bytes)}
    (hsent : (GRXConcurrentWriteable.runBlock { w with writeableQueue := rest } block).sent =
      w.sent ++ messages) (hmessages : valuesOf messages = [])
    (hfinish : .writesFinishedWithError none ∉ messages) :
    Succeeds decompress parse c
      (GRXConcurrentWriteable.runBlock { w with writeableQueue := rest } block) := by
  have hlast := h.last
  rw [hq, List.pairwise_cons] at hlast
  have hmem : .writesFinishedWithError none ∈
      (GRXConcurrentWriteable.runBlock { w with writeableQueue := rest } block).sent →
      .writesFinishedWithError none ∈ w.sent := by
    intro hin
    rw [hsent, List.mem_append] at hin
    exact hin.resolve_right hfinish
  have hvalues : valuesOf
      (GRXConcurrentWriteable.runBlock { w with writeableQueue := rest } block).sent =
        valuesOf w.sent := by
    rw [hsent, valuesOf_append, hmessages, List.append_nil]
  have hthere : (GRXConcurrentWriteable.runBlock { w with writeableQueue := rest }
      block).writeable = true → w.writeable = true := by
    intro hrun
    cases hw : w.writeable with
    | true => rfl
    | false =>
        cases block <;> simp [GRXConcurrentWriteable.runBlock, hw] at hrun
        · split at hrun <;> simp at hrun
        · split at hrun <;> simp at hrun
  refine ⟨?_, ?_, ?_, ?_⟩
  · rw [GRPCCall.runBlock_queue]
    rintro (hin | hin)
    · exact h.status (Or.inl (mem_rest hq hin))
    · exact h.status (Or.inr (hmem hin))
  · rw [GRPCCall.runBlock_queue]
    exact hlast.2
  · rw [GRPCCall.runBlock_queue, hvalues]
    intro hin hrun
    have hw := hthere hrun
    have hnone : valueOf block = none := by
      rcases hblock with hnone | hgone
      · exact hnone
      · simp [hw] at hgone
    have hall := h.queued (mem_rest hq hin) hw
    rwa [hq, List.filterMap_cons_none hnone] at hall
  · rw [hvalues]
    exact fun hin => h.sent (hmem hin)

private theorem Succeeds.completed (h : Succeeds decompress parse c w)
    (hq : w.writeableQueue = .successfulCompletion :: rest) (hw : w.writeable = true)
    (hf : w.alreadyFinished = false)
    (hparsed : c.deallocated = true ∨ ∀ value ∈ valuesOf w.sent, parse value ≠ none) :
    Succeeds decompress parse c
      (GRXConcurrentWriteable.runBlock { w with writeableQueue := rest }
        .successfulCompletion) := by
  have hrun : GRXConcurrentWriteable.runBlock { w with writeableQueue := rest }
      .successfulCompletion =
      ⟨false, true, rest, w.sent ++ [.writesFinishedWithError none]⟩ := by
    simp [GRXConcurrentWriteable.runBlock, hw, hf]
  have hin : .successfulCompletion ∈ w.writeableQueue := by
    rw [hq]
    exact List.mem_cons_self
  have hok := h.status (Or.inl hin)
  have hlast := h.last
  rw [hq, List.pairwise_cons] at hlast
  have hall := h.queued hin hw
  have hnone : rest.filterMap valueOf = [] :=
    List.filterMap_eq_nil_iff.mpr fun block' hmem => hlast.1 block' hmem rfl
  rw [hq, List.filterMap_cons_none rfl, hnone, List.append_nil] at hall
  rw [hrun]
  refine ⟨fun _ => hok, hlast.2, fun _ hgone => absurd hgone Bool.false_ne_true, fun _ => ?_⟩
  simp only [valuesOf_append, valuesOf_finish, List.append_nil]
  exact ⟨hall, hparsed⟩

end Blocks

end Succeeds

section Events

variable {accepted : List Nat} {past : List StreamOp} {c c' : GRPCCall ρ}

/-- No success is told that the status `ok` and all the responses do not stand behind. -/
def SucceedsWith (decompress : CompressionAlgorithm → List Bytes → Bytes)
    (parse : Bytes → Option ρ) (c : GRPCCall ρ) : Prop :=
  ∀ w, c.responseWriteable = some w → Succeeds decompress parse c w

private theorem OkHandled.mono (h : c.OkHandled) (hcq : c.wrappedCall.cq <+: c'.wrappedCall.cq)
    (hhandled : c.handled ≤ c'.handled) : c'.OkHandled := by
  obtain ⟨r, hr, hok⟩ := h
  refine ⟨r, ?_, hok⟩
  have htake : c.wrappedCall.cq.take c.handled <+: c'.wrappedCall.cq.take c'.handled :=
    (hcq.take _).trans (List.take_prefix_take_left hhandled)
  exact htake.subset hr

private theorem SucceedsWith.kept (h : SucceedsWith decompress parse c)
    (hok : c.OkHandled → c'.OkHandled)
    (hreceived : c.OkHandled → c'.received decompress = c.received decompress)
    (hd : c.deallocated = true → c'.deallocated = true)
    (hw : c'.responseWriteable = c.responseWriteable) : SucceedsWith decompress parse c' := by
  intro w hw'
  rw [hw] at hw'
  exact (h w hw').congr hok hreceived hd

private theorem SucceedsWith.fail (h : SucceedsWith decompress parse c)
    (hdelivers : Delivers decompress parse c) (error : NSError) :
    SucceedsWith decompress parse (c.finishWithError (some error)) := by
  intro w' hw'
  obtain ⟨w, hw, rfl⟩ := Option.map_eq_some_iff.mp hw'
  exact ((h w hw).cancelWithError (hdelivers.delivered w hw).ordered error).congr id (fun _ => rfl)
    id

private theorem SucceedsWith.cancelCall (htokens : Tokens accepted c)
    (h : SucceedsWith decompress parse c) : SucceedsWith decompress parse c.cancelCall := by
  have hcq : c.wrappedCall.cq <+: c.cancelCall.wrappedCall.cq :=
    step_cq htokens.call.client (step_cancelEvent c.wrappedCall)
  exact h.kept (fun hok => hok.mono hcq le_rfl)
    (fun _ => received_congr htokens.handled hcq rfl) id rfl

private theorem SucceedsWith.startNextRead (h : SucceedsWith decompress parse c) :
    SucceedsWith decompress parse c.startNextRead := by
  rcases c.startNextRead_cases with hkept | ⟨_, hnext⟩
  · rwa [hkept]
  · rw [hnext]
    exact h.kept id (fun _ => rfl) id rfl

private theorem SucceedsWith.of_some {w : GRXConcurrentWriteable Bytes}
    (hw : c.responseWriteable = some w)
    (h : Succeeds decompress parse c w) : SucceedsWith decompress parse c := by
  intro w' hw'
  cases hw.symm.trans hw'
  exact h

private theorem SucceedsWith.handles (htokens : Tokens accepted c)
    (hintact : Intact past c.wrappedCall)
    (hdelivers : Delivers decompress parse c) (h : SucceedsWith decompress parse c)
    {completion : Completion} {rest : List Completion} {outOfMemory : Bool}
    (hq : c.wrappedCall.cq.drop c.handled = completion :: rest)
    (hhandler : Handles decompress c.counted completion outOfMemory c') :
    SucceedsWith decompress parse c' := by
  have hreceived : c.counted.received decompress = c.received decompress ++
      (readMessage completion).toList.map (dataWithByteBuffer decompress) := counted_received hq
  have hcounted := htokens.counted hq
  have hgiven : Delivers decompress parse c.counted ∨ readMessage completion ≠ none := by
    cases hread : readMessage completion with
    | some message => exact Or.inr (by simp)
    | none =>
        refine Or.inl (hdelivers.kept ?_ rfl rfl fun _ hover => hover.counted hq)
        rw [hreceived, hread]
        exact List.append_nil _
  have hmem : completion ∈ c.wrappedCall.cq.drop c.handled := by
    rw [hq]
    exact List.mem_cons_self
  -- the status `ok` is handled after every message
  have hmessage : ∀ message, readMessage completion = some message → ¬ c.OkHandled := by
    rintro message hsome ⟨r, hr, hok⟩
    have hnone := hintact.okLast hr hok hmem
    rw [← hintact.readMessage (List.mem_of_mem_drop hmem), hsome] at hnone
    cases hnone
  have hmono : c.OkHandled → c.counted.OkHandled :=
    fun hok => hok.mono List.prefix_rfl (Nat.le_succ _)
  have hkept : SucceedsWith decompress parse c.counted := by
    refine h.kept hmono (fun hok => ?_) id rfl
    cases hread : readMessage completion with
    | some message => exact absurd hok (hmessage message hread)
    | none =>
        rw [hreceived, hread]
        exact List.append_nil _
  have hfail : readMessage completion = none → ∀ error : NSError,
      SucceedsWith decompress parse (c.counted.finishWithError (some error)) := by
    intro hnone error
    rcases hgiven with hgiven | hsome
    · exact hkept.fail hgiven error
    · exact absurd hnone hsome
  cases hhandler with
  | headers => exact hkept.kept id (fun _ => rfl) id rfl
  | status hd htag _ =>
      have hnone := readMessage_tag htag (by decide)
      cases hstatus : errorFromStatusCode (completion.results.recvStatus.getD .ok) with
      | some error =>
          exact (hfail hnone error).kept id (fun _ => rfl) id rfl
      | none =>
          have hok : c.counted.OkHandled := by
            refine ⟨completion, ?_, ?_⟩
            · show completion ∈ c.wrappedCall.cq.take (c.handled + 1)
              rw [take_counted hq]
              simp
            · have hfits := htokens.call.fits completion
                (List.mem_append_left _ (List.mem_of_mem_drop hmem))
              obtain ⟨status, hsome⟩ := Option.ne_none_iff_exists'.mp (hfits.status htag).2
              rw [hsome] at hstatus ⊢
              unfold errorFromStatusCode at hstatus
              split at hstatus
              · next hcode => exact congrArg some hcode
              · cases hstatus
          intro w' hw'
          obtain ⟨w, hw, rfl⟩ := Option.map_eq_some_iff.mp hw'
          have hflow := (hdelivers.delivered w hw).flow
          have hsame : c.counted.received decompress = c.received decompress := by
            rw [hreceived, hnone]
            exact List.append_nil _
          refine ((hkept w hw).enqueueSuccessfulCompletion hok ?_).congr id (fun _ => rfl) id
          intro hthere
          rw [hsame]
          rcases hflow with hall | ⟨_, hgone | hover⟩
          · exact hall
          · simp [hthere] at hgone
          · have hd' : c.deallocated = false := hd
            simp [hover.1] at hd'
  | value message _ _ hsome =>
      have hno := hmessage message hsome
      intro w' hw'
      obtain ⟨w, hw, rfl⟩ := Option.map_eq_some_iff.mp hw'
      obtain ⟨hqueue, hsent⟩ := (h w hw).none_before hno
      have hqueue' : .successfulCompletion ∉
          (w.enqueueValue (dataWithByteBuffer decompress message)).writeableQueue := by
        simpa [GRXConcurrentWriteable.enqueueValue] using hqueue
      exact Succeeds.of_none hqueue' hsent
  | noMemory message _ _ hsome =>
      have hno := hmessage message hsome
      have hfailed : SucceedsWith decompress parse
          (c.counted.finishWithError (some errorInternal)) := by
        intro w' hw'
        obtain ⟨w, hw, rfl⟩ := Option.map_eq_some_iff.mp hw'
        obtain ⟨hqueue, hsent⟩ := (h w hw).none_before hno
        exact (Succeeds.of_none hqueue hsent).cancelWithError (hdelivers.delivered w hw).ordered _
      exact hfailed.cancelCall (hcounted.finishWithError _)
  | resumed => exact hkept.kept id (fun _ => rfl) id rfl
  | failed _ _ htag =>
      apply hfail
      rcases htag with htag | htag <;> exact readMessage_tag htag (by decide)
  | ignored => exact hkept

private theorem SucceedsWith.runs (hdelivers : Delivers decompress parse c)
    (h : SucceedsWith decompress parse c) {w : GRXConcurrentWriteable Bytes}
    {block : WriteableBlock Bytes} {rest : List (WriteableBlock Bytes)}
    (hw : c.responseWriteable = some w) (hq : w.writeableQueue = block :: rest)
    (hruns : Runs parse c { w with writeableQueue := rest } block c') :
    SucceedsWith decompress parse c' := by
  have hdelivered := hdelivers.delivered w hw
  have hsucceeds := h w hw
  cases hruns with
  | parsed value response hthere _ =>
      apply SucceedsWith.startNextRead
      apply SucceedsWith.of_some rfl
      exact (hsucceeds.ranValue hdelivered.ordered hq hthere).congr id (fun _ => rfl) id
  | bad value hthere _ =>
      have hran := hsucceeds.ranValue hdelivered.ordered hq hthere
      apply SucceedsWith.startNextRead
      unfold badResponse
      split
      · apply SucceedsWith.of_some rfl
        exact hran.congr id (fun _ => rfl) id
      · apply SucceedsWith.of_some rfl
        exact (hran.cancelWithError (runBlock_ordered hdelivered.ordered hq) _).congr id
          (fun _ => rfl) id
  | completed hthere hf =>
      have hparsed : c.deallocated = true ∨ ∀ value ∈ valuesOf w.sent, parse value ≠ none := by
        obtain ⟨good, bad, hsent, hgood, _, _, hlast⟩ := hdelivered.parsed
        have hthere' : w.writeable = true := hthere
        rcases hlast with hnil | hgone | hover
        · right
          rw [hsent, hnil, List.append_nil]
          exact hgood
        · simp [hthere'] at hgone
        · exact Or.inl hover.1
      apply SucceedsWith.of_some rfl
      exact (hsucceeds.completed hq hthere hf hparsed).congr id (fun _ => rfl) id
  | cancelled error =>
      have hsent : (GRXConcurrentWriteable.runBlock { w with writeableQueue := rest }
          (.cancellation true error)).sent = w.sent ++ [.writesFinishedWithError (some error)] := by
        simp [GRXConcurrentWriteable.runBlock]
      apply SucceedsWith.of_some rfl
      exact (hsucceeds.ranOther hq (Or.inl rfl) hsent rfl (by simp)).congr id (fun _ => rfl) id
  | silent _ hsent hvalue =>
      have hblock : valueOf block = none ∨ w.writeable = false := by
        cases block with
        | value value => exact Or.inr (hvalue value rfl)
        | _ => exact Or.inl rfl
      have hsame : (GRXConcurrentWriteable.runBlock { w with writeableQueue := rest } block).sent =
          w.sent ++ [] := by
        rw [List.append_nil]
        exact hsent
      apply SucceedsWith.of_some rfl
      exact (hsucceeds.ranOther hq hblock hsame rfl List.not_mem_nil).congr id (fun _ => rfl) id

private theorem step_succeeds {e : ClientEvent} (htokens : Tokens accepted c)
    (hintact : Intact past c.wrappedCall) (hdelivers : Delivers decompress parse c)
    (h : SucceedsWith decompress parse c) (hstep : c.step decompress parse e = .ok c') :
    SucceedsWith decompress parse c' := by
  have hcq := run_cq htokens.call.client (step_core decompress parse hstep)
  -- what leaves the writeable alone
  have hkept : c'.handled = c.handled → (c.deallocated = true → c'.deallocated = true) →
      c'.responseWriteable = c.responseWriteable → SucceedsWith decompress parse c' :=
    fun hh hd hw => h.kept (fun hok => hok.mono hcq (le_of_eq hh.symm))
      (fun _ => received_congr htokens.handled hcq hh) hd hw
  cases step_cases decompress parse hstep with
  | started headers c₁ c₂ c₃ _ h₁ h₂ h₃ =>
      obtain ⟨_, rfl⟩ := startBatch_ok.mp h₁
      obtain ⟨_, rfl⟩ := startBatch_ok.mp h₂
      obtain ⟨_, rfl⟩ := startBatch_ok.mp h₃
      intro w hw
      cases hw
      exact Succeeds.start
  | valueWritten => exact hkept rfl id rfl
  | writesFailed error hw =>
      have hfinished : SucceedsWith decompress parse (c.withWriter .finished) :=
        h.kept id (fun _ => rfl) id rfl
      have hgiven : Delivers decompress parse (c.withWriter .finished) :=
        hdelivers.kept rfl rfl rfl fun _ ho => ho
      exact (hfinished.fail hgiven _).cancelCall (htokens.withFinished.finishWithError _)
  | writesEnded => exact hkept rfl id rfl
  | batch block rest operation _ hq hop hd hstart =>
      obtain ⟨_, rfl⟩ := startBatch_ok.mp hstart
      exact hkept rfl id rfl
  | skipped => exact hkept rfl id rfl
  | destroyed rest _ hq hdestroy =>
      obtain ⟨call, _, rfl⟩ := onCore_ok.mp hdestroy
      exact hkept rfl id rfl
  | handled outOfMemory completion rest _ hq hhandler =>
      exact h.handles htokens hintact hdelivers hq hhandler
  | ran w block rest _ hw hq hruns => exact h.runs hdelivers hw hq hruns
  | sent success _ hcore =>
      obtain ⟨call, _, rfl⟩ := onCore_ok.mp hcore
      exact hkept rfl id rfl
  | received success ops state _ hcore =>
      obtain ⟨call, _, rfl⟩ := onCore_ok.mp hcore
      exact hkept rfl id rfl
  | cancelled => exact (h.fail hdelivers _).cancelCall (htokens.finishWithError _)
  | released => exact hkept rfl id rfl
  | deallocated => exact hkept rfl (fun _ => rfl) rfl

end Events

/-- What is known of a call object when no receive has failed. -/
structure Undisturbed (decompress : CompressionAlgorithm → List Bytes → Bytes)
    (parse : Bytes → Option ρ) (maxMessageLength : UInt32) (past : List StreamOp)
    (c : GRPCCall ρ) : Prop where
  tokens : ∃ accepted, Tokens accepted c
  intact : Intact past c.wrappedCall
  delivers : Delivers decompress parse c
  succeeds : SucceedsWith decompress parse c
  limit : c.wrappedCall.maxMessageLength = maxMessageLength

private theorem Undisturbed.step {maxMessageLength : UInt32} {past : List StreamOp}
    {c c' : GRPCCall ρ} {e : ClientEvent} (h : Undisturbed decompress parse maxMessageLength past c)
    (hreceives : e.NotFailed) (hstep : c.step decompress parse e = .ok c') :
    Undisturbed decompress parse maxMessageLength (past ++ e.receivedOps) c' := by
  obtain ⟨accepted, htokens⟩ := h.tokens
  have hlimit := run_maxMessageLength htokens.call.client (step_core decompress parse hstep)
  exact ⟨step_tokens htokens hstep, step_intact h.intact hreceives hstep,
    step_delivers htokens h.delivers hstep,
    step_succeeds htokens h.intact h.delivers h.succeeds hstep, hlimit.trans h.limit⟩

theorem run_undisturbed {maxMessageLength : UInt32} {channelMetadata : List Metadata}
    {events : List ClientEvent} {c : GRPCCall ρ}
    (h : EventRun.run (step decompress parse) (initWithHost maxMessageLength channelMetadata)
      events = .ok c) (hreceives : ∀ e ∈ events, e.NotFailed) :
    Undisturbed decompress parse maxMessageLength (events.flatMap ClientEvent.receivedOps) c := by
  have hinit : Undisturbed decompress parse maxMessageLength []
      (initWithHost maxMessageLength channelMetadata) :=
    ⟨⟨_, initWithHost_tokens maxMessageLength channelMetadata⟩,
      create_intact maxMessageLength channelMetadata false,
      ⟨fun _ => ⟨rfl, rfl⟩, fun w hw => absurd hw (by simp [initWithHost])⟩,
      fun w hw => absurd hw (by simp [initWithHost]), rfl⟩
  have hrun : Undisturbed decompress parse maxMessageLength ([] ++ EventRun.trace
      (step decompress parse) (fun _ e => e.receivedOps)
      (initWithHost maxMessageLength channelMetadata) events) c :=
    EventRun.run_trace_invariant_of (P := ClientEvent.NotFailed)
      (fun past s e s' hs he hstep => hs.step he hstep) hinit hreceives h
  rwa [List.nil_append, EventRun.trace_of_event ClientEvent.receivedOps h] at hrun

/-- In every run whose receives do not fail, when the application is told that the call succeeded,
it has been given the responses of all the messages that the stream carried, in order. The last one
may be missing only if it cannot be parsed and the call object is gone. -/
theorem completed_responses {maxMessageLength : UInt32} {channelMetadata : List Metadata}
    {events : List ClientEvent} {c : GRPCCall ρ}
    (h : EventRun.run (step decompress parse) (initWithHost maxMessageLength channelMetadata)
      events = .ok c) (hreceives : ∀ e ∈ events, e.NotFailed)
    (hfinish : .writesFinishedWithError none ∈ c.responses) :
    ∃ a messages values, Assembly.initial.feedAll maxMessageLength
        (events.flatMap ClientEvent.receivedOps) = some (a, messages) ∧
      c.responses = GRXMessage.sequence values none ∧
      (messages.map (fun m => parse (dataWithByteBuffer decompress m)) = values.map some ∨
        c.deallocated = true ∧ messages.map (fun m => parse (dataWithByteBuffer decompress m)) =
          values.map some ++ [none]) := by
  have hundisturbed := run_undisturbed h hreceives
  have hdelivers := hundisturbed.delivers
  have hsucceeds := hundisturbed.succeeds
  obtain ⟨w, hw⟩ : ∃ w, c.responseWriteable = some w := by
    cases hw : c.responseWriteable with
    | some w => exact ⟨w, rfl⟩
    | none =>
        rw [(hdelivers.unstarted hw).2] at hfinish
        simp at hfinish
  have hdelivered := hdelivers.delivered w hw
  have hsent : .writesFinishedWithError none ∈ w.sent := by
    rw [hdelivered.responses, List.mem_filterMap] at hfinish
    obtain ⟨message, hmem, hparsed⟩ := hfinish
    cases message with
    | writeValue value => simp [parsedMessage] at hparsed
    | writesFinishedWithError errorOrNil =>
        cases hparsed
        exact hmem
  obtain ⟨r, hr, hok⟩ := (hsucceeds w hw).status (Or.inr hsent)
  obtain ⟨a, ha⟩ := hundisturbed.intact.allRead hr hok
  rw [hundisturbed.limit] at ha
  obtain ⟨hall, hparsed⟩ := (hsucceeds w hw).sent hsent
  -- the responses, of which the last message was the finish
  obtain ⟨good, bad, hvalues, hgood, hbad, hone, _⟩ := hdelivered.parsed
  have hshape : c.responses = GRXMessage.sequence (good.filterMap parse) none := by
    rcases hdelivered.ordered.shape with ⟨values, hs, _⟩ | ⟨values, errorOrNil, hs, _⟩
    · rw [hs] at hsent
      simp at hsent
    · have herror : errorOrNil = none := by
        rw [hs, GRXMessage.sequence, List.mem_append, List.mem_singleton] at hsent
        rcases hsent with hsent | hsent
        · simp at hsent
        · cases hsent
          rfl
      rw [hs, GRXMessage.sequence, valuesOf_append, valuesOf_map, valuesOf_finish,
        List.append_nil] at hvalues
      have hnone : bad.filterMap parse = [] := List.filterMap_eq_nil_iff.mpr hbad
      rw [hdelivered.responses, hs, GRXMessage.sequence, List.filterMap_append, parsed_values,
        hvalues, List.filterMap_append, hnone, List.append_nil, herror]
      rfl
  refine ⟨a, _, good.filterMap parse, ha, hshape, ?_⟩
  have hmessages : ((c.wrappedCall.cq.take c.handled).filterMap readMessage).map
      (fun m => parse (dataWithByteBuffer decompress m)) = (good ++ bad).map parse := by
    rw [← hvalues, hall, received, List.map_map]
    rfl
  rw [hmessages, List.map_append, ← filterMap_parsed parse hgood]
  cases bad with
  | nil => exact Or.inl (List.append_nil _)
  | cons value more =>
      have hmore : more = [] := by simpa using hone
      have hno := hbad value List.mem_cons_self
      right
      constructor
      · rcases hparsed with hd | hparsed
        · exact hd
        · exact absurd hno (hparsed value (by simp [hvalues]))
      · simp [hmore, hno]

theorem completed_session : ∃ c : GRPCCall Bytes,
    EventRun.run (step joinSlices some) (initWithHost 1000 []) session = .ok c ∧
      .writesFinishedWithError none ∈ c.responses ∧
      ∃ a messages values, Assembly.initial.feedAll 1000
          (session.flatMap ClientEvent.receivedOps) = some (a, messages) ∧
        c.responses = GRXMessage.sequence values none ∧
        (messages.map (fun m => some (dataWithByteBuffer joinSlices m)) = values.map some ∨
          c.deallocated = true ∧ messages.map (fun m => some (dataWithByteBuffer joinSlices m)) =
            values.map some ++ [none]) := by
  obtain ⟨c, h, hdone⟩ := EventRun.exists_ok_of_any
    (r := EventRun.run (step joinSlices some) (initWithHost 1000 [] : GRPCCall Bytes) session)
    (p := fun c => decide (.writesFinishedWithError none ∈ c.responses)) (by decide)
  have hfinish := of_decide_eq_true hdone
  exact ⟨c, h, hfinish, completed_responses h (by decide) hfinish⟩

end GRPCCall

end CrowdSound.Client
