import CrowdSound.Client.Tokens

/-!
# Responses in order

The application is given the responses of the messages that were read, in order and without a gap,
as long as they can be parsed.
-/

namespace CrowdSound.Client

open CrowdSound.Core CrowdSound.Core.GrpcCall

def valuesOf {ρ : Type} (messages : List (GRXMessage ρ)) : List ρ :=
  messages.filterMap fun
    | .writeValue value => some value
    | .writesFinishedWithError _ => none

@[simp] theorem valuesOf_nil {ρ : Type} : valuesOf ([] : List (GRXMessage ρ)) = [] := rfl

@[simp] theorem valuesOf_append {ρ : Type} (ms ms' : List (GRXMessage ρ)) :
    valuesOf (ms ++ ms') = valuesOf ms ++ valuesOf ms' := List.filterMap_append

@[simp] theorem valuesOf_value {ρ : Type} (value : ρ) :
    valuesOf [.writeValue value] = [value] := rfl

@[simp] theorem valuesOf_finish {ρ : Type} (errorOrNil : Option NSError) :
    valuesOf ([.writesFinishedWithError errorOrNil] : List (GRXMessage ρ)) = [] := rfl

@[simp] theorem valuesOf_map {ρ : Type} (values : List ρ) :
    valuesOf (values.map .writeValue) = values := by
  simp [valuesOf, List.filterMap_map]

section Parsing

variable {ρ : Type} (parse : Bytes → Option ρ)

/-- What the application receives of a message; a value that cannot be parsed is dropped. -/
def parsedMessage : GRXMessage Bytes → Option (GRXMessage ρ)
  | .writeValue value => (parse value).map .writeValue
  | .writesFinishedWithError errorOrNil => some (.writesFinishedWithError errorOrNil)

private theorem valuesOf_parsed (messages : List (GRXMessage Bytes)) :
    valuesOf (messages.filterMap (parsedMessage parse)) = (valuesOf messages).filterMap parse := by
  rw [valuesOf, valuesOf, List.filterMap_filterMap, List.filterMap_filterMap]
  congr 1
  funext message
  cases message with
  | writeValue value => cases hparse : parse value <;> simp [parsedMessage, hparse]
  | writesFinishedWithError => rfl

theorem parsed_values (values : List Bytes) :
    (values.map .writeValue).filterMap (parsedMessage parse) =
      (values.filterMap parse).map GRXMessage.writeValue := by
  rw [List.filterMap_map, List.map_filterMap]
  rfl

theorem filterMap_parsed {good : List Bytes} (hgood : ∀ value ∈ good, parse value ≠ none) :
    (good.filterMap parse).map some = good.map parse := by
  induction good with
  | nil => rfl
  | cons value good ih =>
      obtain ⟨response, hresponse⟩ := Option.ne_none_iff_exists'.mp (hgood value (by simp))
      rw [List.filterMap_cons_some hresponse, List.map_cons, List.map_cons, hresponse,
        ih fun v hv => hgood v (by simp [hv])]

/-- What was given to the application of the messages `received`, when nothing more is read if
`ended`. -/
structure Delivered (received : List Bytes) (responses : List (GRXMessage ρ)) (ended : Prop)
    (w : GRXConcurrentWriteable Bytes) : Prop where
  ordered : w.WellOrdered
  responses : responses = w.sent.filterMap (parsedMessage parse)
  parsed : ∃ good bad, valuesOf w.sent = good ++ bad ∧ (∀ value ∈ good, parse value ≠ none) ∧
    (∀ value ∈ bad, parse value = none) ∧ bad.length ≤ 1 ∧
      (bad = [] ∨ w.writeable = false ∨ ended)
  flow : valuesOf w.sent ++ w.writeableQueue.filterMap valueOf = received ∨
    valuesOf w.sent <+: received ∧ (w.writeable = false ∨ ended)

end Parsing

section Delivered

variable {ρ : Type} {parse : Bytes → Option ρ} {received : List Bytes}
  {responses : List (GRXMessage ρ)} {ended : Prop} {w : GRXConcurrentWriteable Bytes}

private theorem Delivered.values_prefix (h : Delivered parse received responses ended w) :
    valuesOf w.sent <+: received := by
  rcases h.flow with hall | ⟨hsome, _⟩
  · exact ⟨_, hall⟩
  · exact hsome

private theorem Delivered.responses_prefix (h : Delivered parse received responses ended w) :
    (valuesOf responses).map some <+: received.map parse := by
  obtain ⟨good, bad, hsent, hgood, hbad, _, _⟩ := h.parsed
  have hresponses : (valuesOf responses).map some = good.map parse := by
    rw [h.responses, valuesOf_parsed, hsent, List.filterMap_append]
    have hnone : bad.filterMap parse = [] := List.filterMap_eq_nil_iff.mpr hbad
    rw [hnone, List.append_nil, filterMap_parsed parse hgood]
  rw [hresponses]
  have hprefix := h.values_prefix
  rw [hsent] at hprefix
  exact ((List.prefix_append good bad).trans hprefix).map parse

private theorem Delivered.responses_shape (h : Delivered parse received responses ended w) :
    (∃ values : List ρ, responses = values.map .writeValue) ∨
      ∃ values errorOrNil, responses = GRXMessage.sequence values errorOrNil := by
  rcases h.ordered.shape with ⟨values, hsent, _⟩ | ⟨values, errorOrNil, hsent, _⟩
  · left
    exact ⟨_, by rw [h.responses, hsent, parsed_values]⟩
  · right
    refine ⟨values.filterMap parse, errorOrNil, ?_⟩
    rw [h.responses, hsent, GRXMessage.sequence, List.filterMap_append, parsed_values]
    rfl

private theorem Delivered.mono {ended' : Prop} (h : Delivered parse received responses ended w)
    (hover : ended → w.writeable = false ∨ ended') :
    Delivered parse received responses ended' w := by
  have hwhy : w.writeable = false ∨ ended → w.writeable = false ∨ ended' := by
    rintro (hw | ho)
    · exact Or.inl hw
    · exact hover ho
  obtain ⟨good, bad, hsent, hgood, hbad, hone, hlast⟩ := h.parsed
  exact ⟨h.ordered, h.responses,
    ⟨good, bad, hsent, hgood, hbad, hone, hlast.imp_right hwhy⟩,
    h.flow.imp_right fun hf => ⟨hf.1, hwhy hf.2⟩⟩

private theorem Delivered.start (ended : Prop) :
    Delivered parse [] [] ended GRXConcurrentWriteable.initWithWriteable :=
  ⟨⟨rfl, Or.inl ⟨[], rfl, Nat.zero_le _⟩⟩, rfl,
    ⟨[], [], rfl, by simp, by simp, by simp, Or.inl rfl⟩, Or.inl rfl⟩

private theorem Delivered.enqueueValue (h : Delivered parse received responses ended w)
    (hread : ¬ ended) (value : Bytes) : Delivered parse (received ++ [value]) responses ended
      (w.enqueueValue value) := by
  refine ⟨GRXConcurrentWriteable.step_wellOrdered w (.enqueueValue value) h.ordered, h.responses,
    h.parsed, ?_⟩
  rcases h.flow with hall | ⟨hsome, hwhy⟩
  · left
    simp [GRXConcurrentWriteable.enqueueValue, valueOf, ← hall]
  · right
    refine ⟨hsome.trans (List.prefix_append _ _), Or.inl ?_⟩
    rcases hwhy with hw | hover
    · exact hw
    · exact absurd hover hread

private theorem Delivered.dropped (h : Delivered parse received responses ended w) (value : Bytes)
    {ended' : Prop} (hover : ended') :
    Delivered parse (received ++ [value]) responses ended' w := by
  have hkept := h.mono fun _ => Or.inr hover
  exact ⟨hkept.ordered, hkept.responses, hkept.parsed,
    Or.inr ⟨h.values_prefix.trans (List.prefix_append _ _), Or.inr hover⟩⟩

theorem cancelled_gone (h : w.WellOrdered) (error : NSError) :
    (w.cancelWithError error).writeable = false := by
  have hlive := h.live
  unfold GRXConcurrentWriteable.cancelWithError
  cases hf : w.alreadyFinished with
  | true => simpa [hf] using hlive
  | false => rfl

private theorem Delivered.cancelWithError (h : Delivered parse received responses ended w)
    (error : NSError) : Delivered parse received responses ended (w.cancelWithError error) := by
  have hordered := GRXConcurrentWriteable.step_wellOrdered w (.cancelWithError error) h.ordered
  have hsent : (w.cancelWithError error).sent = w.sent := by
    unfold GRXConcurrentWriteable.cancelWithError
    split <;> rfl
  have hgone := cancelled_gone h.ordered error
  refine ⟨hordered, ?_, ?_, Or.inr ⟨?_, Or.inl hgone⟩⟩
  · rw [hsent]
    exact h.responses
  · rw [hsent]
    obtain ⟨good, bad, hall, hgood, hbad, hone, _⟩ := h.parsed
    exact ⟨good, bad, hall, hgood, hbad, hone, Or.inr (Or.inl hgone)⟩
  · rw [hsent]
    exact h.values_prefix

private theorem Delivered.enqueueSuccessfulCompletion
    (h : Delivered parse received responses ended w) :
    Delivered parse received responses ended w.enqueueSuccessfulCompletion :=
  ⟨GRXConcurrentWriteable.step_wellOrdered w .enqueueSuccessfulCompletion h.ordered, h.responses,
    h.parsed, by
      simpa [GRXConcurrentWriteable.enqueueSuccessfulCompletion, List.filterMap_cons, valueOf]
        using h.flow⟩

section Blocks

variable {block : WriteableBlock Bytes} {rest : List (WriteableBlock Bytes)}

theorem runBlock_ordered (h : w.WellOrdered) (hq : w.writeableQueue = block :: rest) :
    (GRXConcurrentWriteable.runBlock { w with writeableQueue := rest } block).WellOrdered := by
  have hstep : w.step .mainQueue =
      GRXConcurrentWriteable.runBlock { w with writeableQueue := rest } block := by
    simp [GRXConcurrentWriteable.step, hq]
  rw [← hstep]
  exact GRXConcurrentWriteable.step_wellOrdered w .mainQueue h

theorem Delivered.ranValue (h : Delivered parse received responses ended w) {value : Bytes}
    (hq : w.writeableQueue = .value value :: rest) (hw : w.writeable = true) (hread : ¬ ended)
    {ended' : Prop} (hnext : parse value ≠ none ∨ ended') :
    Delivered parse received (responses ++ ((parse value).map .writeValue).toList) ended'
      (GRXConcurrentWriteable.runBlock { w with writeableQueue := rest } (.value value)) := by
  have hordered := runBlock_ordered h.ordered hq
  have hrun : GRXConcurrentWriteable.runBlock { w with writeableQueue := rest } (.value value) =
      { w with writeableQueue := rest, sent := w.sent ++ [.writeValue value] } := by
    simp [GRXConcurrentWriteable.runBlock, hw]
  rw [hrun] at hordered ⊢
  obtain ⟨good, bad, hsent, hgood, hbad, _, hlast⟩ := h.parsed
  have hnobad : bad = [] := by
    rcases hlast with hnil | hgone | hover
    · exact hnil
    · simp [hw] at hgone
    · exact absurd hover hread
  rw [hnobad, List.append_nil] at hsent
  refine ⟨hordered, ?_, ?_, ?_⟩
  · rw [List.filterMap_append, ← h.responses]
    cases hparse : parse value <;> simp [parsedMessage, hparse]
  · rw [valuesOf_append, hsent, valuesOf_value]
    cases hparse : parse value with
    | some response =>
        refine ⟨good ++ [value], [], by simp, ?_, by simp, by simp, Or.inl rfl⟩
        intro v hv
        rcases List.mem_append.mp hv with hv | hv
        · exact hgood v hv
        · rw [List.mem_singleton.mp hv, hparse]
          simp
    | none =>
        refine ⟨good, [value], rfl, hgood, by simpa using hparse, by simp, Or.inr (Or.inr ?_)⟩
        rcases hnext with hno | hover
        · exact absurd hparse hno
        · exact hover
  · have hflow := h.flow
    rw [hq] at hflow
    rcases hflow with hall | ⟨_, hgone | hover⟩
    · left
      simpa [List.filterMap_cons, valueOf] using hall
    · simp [hw] at hgone
    · exact absurd hover hread

private theorem Delivered.ranOther (h : Delivered parse received responses ended w)
    (hq : w.writeableQueue = block :: rest) (hblock : valueOf block = none ∨ w.writeable = false)
    {messages : List (GRXMessage Bytes)}
    (hsent : (GRXConcurrentWriteable.runBlock { w with writeableQueue := rest } block).sent =
      w.sent ++ messages) (hmessages : valuesOf messages = []) :
    Delivered parse received (responses ++ messages.filterMap (parsedMessage parse)) ended
      (GRXConcurrentWriteable.runBlock { w with writeableQueue := rest } block) := by
  have hgone : w.writeable = false →
      (GRXConcurrentWriteable.runBlock { w with writeableQueue := rest } block).writeable =
        false := by
    intro hw
    cases block <;> simp only [GRXConcurrentWriteable.runBlock] <;> split <;> first | rfl | exact hw
  have hwhy : w.writeable = false ∨ ended →
      (GRXConcurrentWriteable.runBlock { w with writeableQueue := rest } block).writeable =
        false ∨ ended := fun hwhy => hwhy.imp_left hgone
  refine ⟨runBlock_ordered h.ordered hq, ?_, ?_, ?_⟩
  · rw [hsent, List.filterMap_append, ← h.responses]
  · rw [hsent, valuesOf_append, hmessages, List.append_nil]
    obtain ⟨good, bad, hall, hgood, hbad, hone, hlast⟩ := h.parsed
    exact ⟨good, bad, hall, hgood, hbad, hone, hlast.imp_right hwhy⟩
  · rw [hsent, valuesOf_append, hmessages, List.append_nil, GRPCCall.runBlock_queue]
    rcases hblock with hnone | hw
    · have hflow := h.flow
      rw [hq, List.filterMap_cons_none hnone] at hflow
      exact hflow.imp_right fun hf => ⟨hf.1, hwhy hf.2⟩
    · exact Or.inr ⟨h.values_prefix, Or.inl (hgone hw)⟩

end Blocks

end Delivered

namespace GRPCCall

variable {ρ : Type} {decompress : CompressionAlgorithm → List Bytes → Bytes}
  {parse : Bytes → Option ρ}

def received (decompress : CompressionAlgorithm → List Bytes → Bytes) (c : GRPCCall ρ) :
    List Bytes :=
  ((c.wrappedCall.cq.take c.handled).filterMap readMessage).map (dataWithByteBuffer decompress)

/-- Nothing more will be read. -/
def IsOver (c : GRPCCall ρ) : Prop := c.deallocated = true ∧ c.reads = 0

section Over

variable {accepted : List Nat} {c c' : GRPCCall ρ}

private theorem IsOver.congr (h : IsOver c) (hd : c'.deallocated = c.deallocated)
    (hpending : c'.pending = c.pending)
    (hqueue : c'.callQueue.count .startRead = c.callQueue.count .startRead)
    (hvalues : c'.queuedValues = c.queuedValues) : IsOver c' := by
  refine ⟨hd.trans h.1, ?_⟩
  rw [reads, hpending, hqueue, hvalues]
  exact h.2

private theorem IsOver.finishWithError (h : IsOver c) (errorOrNil : Option NSError) :
    IsOver (c.finishWithError errorOrNil) :=
  h.congr rfl rfl rfl (c.finishWithError_queuedValues errorOrNil)

private theorem IsOver.cancelCall (htokens : Tokens accepted c) (h : IsOver c) :
    IsOver c.cancelCall :=
  h.congr rfl htokens.cancelCall_pending rfl rfl

theorem IsOver.counted {completion : Completion} {rest : List Completion} (h : IsOver c)
    (hq : c.wrappedCall.cq.drop c.handled = completion :: rest) : IsOver c.counted := by
  have hreads := h.2
  refine ⟨h.1, ?_⟩
  rw [reads, counted_pending hq, Multiset.count_cons, Multiset.count_cons] at hreads
  rw [reads]
  show _ + _ + c.callQueue.count _ + c.queuedValues.length = 0
  omega

theorem step_over {e : ClientEvent} (htokens : Tokens accepted c) (hstarted : c.started = true)
    (h : IsOver c) (hstep : c.step decompress parse e = .ok c') : IsOver c' := by
  cases step_cases decompress parse hstep with
  | started headers c₁ c₂ c₃ _ h₁ h₂ h₃ =>
      have hs := htokens.notStarted_of_start (startBatch_ok.mp h₁).1
      simp [hs] at hstarted
  | valueWritten value hw => exact h.congr rfl rfl (by simp [enqueue, withWriter]) rfl
  | writesFailed error hw =>
      have hfinished : IsOver (c.withWriter .finished) := h
      exact (hfinished.finishWithError _).cancelCall (htokens.withFinished.finishWithError _)
  | writesEnded hw => exact h.congr rfl rfl (by simp [enqueue, withWriter]) rfl
  | batch block rest operation _ hq hop hd hstart => simp [h.1] at hd
  | skipped block rest operation hq hop hd =>
      have hreads := h.2
      refine ⟨hd, ?_⟩
      have hle : rest.count .startRead ≤ c.callQueue.count .startRead := by
        rw [hq]
        exact List.count_le_count_cons
      rw [reads] at hreads ⊢
      show c.pending.count _ + c.pending.count _ + rest.count _ + c.queuedValues.length = 0
      omega
  | destroyed rest _ hq hdestroy =>
      obtain ⟨call, hcall, rfl⟩ := onCore_ok.mp hdestroy
      have hpending := (htokens.withQueue hq).withCall_pending (e := .destroy) trivial rfl hcall
      have hcount : rest.count .startRead = c.callQueue.count .startRead := by
        rw [hq, List.count_cons_of_ne (by decide)]
      exact h.congr rfl hpending hcount rfl
  | handled outOfMemory completion rest _ hq hhandler =>
      have hreads := h.2
      have hcounted := h.counted hq
      have hd := hcounted.1
      cases hhandler with
      | headers hno => simp [hno] at hd
      | status hno => simp [hno] at hd
      | value message _ _ hmessage =>
          have hone := counted_reads hq (Or.inr (readMessage_some hmessage))
          omega
      | noMemory message hno => simp [hno] at hd
      | resumed hno => simp [hno] at hd
      | failed hno => simp [hno] at hd
      | ignored => exact hcounted
  | ran w block rest _ hw hq hruns =>
      have hreads := h.2
      have hnone : c.queuedValues = [] := by
        rw [reads] at hreads
        exact List.length_eq_zero_iff.mp (by omega)
      have hqueued : (block :: rest).filterMap valueOf = [] := by
        rw [← hnone, queuedValues, hw, ← hq]
        rfl
      have hrest : rest.filterMap valueOf = [] := by
        rw [List.filterMap_eq_nil_iff] at hqueued ⊢
        exact fun b hb => hqueued b (List.mem_cons_of_mem _ hb)
      have hvalue : valueOf block = none :=
        List.filterMap_eq_nil_iff.mp hqueued block List.mem_cons_self
      have hran : IsOver (c.withWriteable
          (GRXConcurrentWriteable.runBlock { w with writeableQueue := rest } block)) := by
        refine h.congr rfl rfl rfl ?_
        rw [hnone]
        exact (congrArg (List.filterMap valueOf) (runBlock_queue _ block)).trans hrest
      cases hruns with
      | parsed => cases hvalue
      | bad => cases hvalue
      | completed => exact hran
      | cancelled => exact hran
      | silent => exact hran
  | sent success _ hcore =>
      obtain ⟨call, hcall, rfl⟩ := onCore_ok.mp hcore
      exact h.congr rfl (htokens.withCall_pending (e := .onDoneSend success) trivial rfl hcall) rfl
        rfl
  | received success ops state _ hcore =>
      obtain ⟨call, hcall, rfl⟩ := onCore_ok.mp hcore
      exact h.congr rfl
        (htokens.withCall_pending (e := .onDoneRecv success ops state) trivial rfl hcall) rfl rfl
  | cancelled => exact (h.finishWithError _).cancelCall (htokens.finishWithError _)
  | released => exact h
  | deallocated hreferenced hd => simp [h.1] at hd

end Over

/-- What the application was given of the messages that were read. -/
structure Delivers (decompress : CompressionAlgorithm → List Bytes → Bytes)
    (parse : Bytes → Option ρ) (c : GRPCCall ρ) : Prop where
  unstarted : c.responseWriteable = none → c.received decompress = [] ∧ c.responses = []
  delivered : ∀ w, c.responseWriteable = some w →
    Delivered parse (c.received decompress) c.responses c.IsOver w

section Delivers

variable {accepted : List Nat} {c c' : GRPCCall ρ}

theorem run_cq {call call' : GrpcCall} {es : List CallEvent}
    (hclient : call.groups.slot .sendStatus = .done)
    (h : EventRun.run GrpcCall.step call es = .ok call') : call.cq <+: call'.cq := by
  have hrun := EventRun.run_invariant (P := fun _ => True)
    (I := fun c => c.groups.slot .sendStatus = .done ∧ call.cq <+: c.cq)
    (fun s e s' hs _ hstep => ⟨step_done hs.1 hstep, hs.2.trans (step_cq hs.1 hstep)⟩)
    ⟨hclient, List.prefix_rfl⟩ (fun _ _ => trivial) h
  exact hrun.2

theorem received_congr (hhandled : c.handled ≤ c.wrappedCall.cq.length)
    (hcq : c.wrappedCall.cq <+: c'.wrappedCall.cq) (hsame : c'.handled = c.handled) :
    c'.received decompress = c.received decompress := by
  rw [received, received, hsame, take_handled hcq hhandled]

theorem counted_received {completion : Completion} {rest : List Completion}
    (hq : c.wrappedCall.cq.drop c.handled = completion :: rest) :
    c.counted.received decompress = c.received decompress ++
      (readMessage completion).toList.map (dataWithByteBuffer decompress) := by
  have htake := take_counted hq
  have hcounted : c.counted.received decompress =
      ((c.wrappedCall.cq.take (c.handled + 1)).filterMap readMessage).map
        (dataWithByteBuffer decompress) := rfl
  rw [hcounted, htake, List.filterMap_append, List.map_append, received]
  cases hread : readMessage completion <;> simp [hread]

theorem Delivers.kept (h : Delivers decompress parse c)
    (hreceived : c'.received decompress = c.received decompress)
    (hresponses : c'.responses = c.responses)
    (hwriteable : c'.responseWriteable = c.responseWriteable)
    (hover : c.started = true → c.IsOver → c'.IsOver) : Delivers decompress parse c' := by
  constructor
  · rw [hwriteable, hreceived, hresponses]
    exact h.unstarted
  · intro w hw
    rw [hwriteable] at hw
    rw [hreceived, hresponses]
    exact (h.delivered w hw).mono fun ho => Or.inr (hover (by simp [started, hw]) ho)

private theorem Delivers.finishWithError (h : Delivers decompress parse c)
    (errorOrNil : Option NSError) :
    Delivers decompress parse (c.finishWithError errorOrNil) := by
  constructor
  · intro hnone
    exact h.unstarted (by simpa [GRPCCall.finishWithError] using hnone)
  · intro w' hw'
    obtain ⟨w, hw, hfinish⟩ := Option.map_eq_some_iff.mp hw'
    have hkept := (h.delivered w hw).mono (fun ho => Or.inr (ho.finishWithError errorOrNil))
    cases errorOrNil with
    | none =>
        rw [← hfinish]
        exact hkept.enqueueSuccessfulCompletion
    | some error =>
        rw [← hfinish]
        exact hkept.cancelWithError error

private theorem Delivers.cancelCall (htokens : Tokens accepted c)
    (h : Delivers decompress parse c) :
    Delivers decompress parse c.cancelCall := by
  have hcq : c.wrappedCall.cq <+: c.cancelCall.wrappedCall.cq :=
    step_cq htokens.call.client (step_cancelEvent c.wrappedCall)
  exact h.kept (received_congr htokens.handled hcq rfl) rfl rfl
    (fun _ ho => ho.cancelCall htokens)

private theorem Delivers.handles (htokens : Tokens accepted c) (h : Delivers decompress parse c)
    {completion : Completion} {rest : List Completion} {outOfMemory : Bool}
    (hq : c.wrappedCall.cq.drop c.handled = completion :: rest)
    (hhandler : Handles decompress c.counted completion outOfMemory c') :
    Delivers decompress parse c' := by
  have hreceived : c.counted.received decompress = c.received decompress ++
      (readMessage completion).toList.map (dataWithByteBuffer decompress) := counted_received hq
  have hcounted := htokens.counted hq
  have hstarted : c.started = true := by
    have hmem : completion.tag ∈ c.pending := by
      rw [counted_pending hq]
      exact Multiset.mem_cons_self _ _
    exact htokens.started_of_pending hmem
  obtain ⟨w, hw⟩ := Option.isSome_iff_exists.mp hstarted
  have hdelivered := h.delivered w hw
  -- a completion without a message
  have hnone : readMessage completion = none → (c.IsOver → c.counted.IsOver) →
      Delivers decompress parse c.counted := by
    intro hno hover
    have hsame : c.counted.received decompress = c.received decompress := by
      rw [hreceived, hno]
      exact List.append_nil _
    exact h.kept hsame rfl rfl fun _ => hover
  have htagged : c.counted.deallocated = false → ∀ handler : Handler,
      completion.tag = handler.tag → handler ≠ .recvMessage →
      Delivers decompress parse c.counted := by
    intro hd handler htag hne
    apply hnone (readMessage_tag htag hne)
    intro hover
    have hd' : c.counted.deallocated = true := hover.1
    simp [hd] at hd'
  -- a message waits for a read
  have hmessage : ∀ message, readMessage completion = some message →
      ¬ c.IsOver ∧ c.counted.reads = 0 ∧
        c.counted.received decompress =
          c.received decompress ++ [dataWithByteBuffer decompress message] := by
    intro message hsome
    have hone := counted_reads hq (Or.inr (readMessage_some hsome))
    have hreads := htokens.reads
    refine ⟨fun hover => ?_, by omega, ?_⟩
    · have hzero := hover.2
      omega
    · rw [hreceived, hsome]
      rfl
  cases hhandler with
  | headers hd htag _ =>
      refine (htagged hd _ htag (by decide)).kept rfl rfl rfl fun _ hover => ?_
      simp [hover.1] at hd
  | status hd htag _ =>
      have hset : Delivers decompress parse (c.counted.trailersSet completion.results) :=
        (htagged hd _ htag (by decide)).kept rfl rfl rfl fun _ hover => hover
      exact hset.finishWithError _
  | value message _ _ hsome =>
      obtain ⟨hread, _, happend⟩ := hmessage message hsome
      have hcw : c.counted.responseWriteable = some w := hw
      rw [valueEnqueued_eq hcw]
      constructor
      · exact fun hno => absurd hno (Option.some_ne_none _)
      · intro w' hw'
        cases hw'
        have hnext := hdelivered.enqueueValue hread (dataWithByteBuffer decompress message)
        rw [← happend] at hnext
        exact hnext.mono fun hover => absurd hover hread
  | noMemory message hd _ hsome =>
      obtain ⟨_, _, happend⟩ := hmessage message hsome
      have hcancelled : Delivers decompress parse
          (c.counted.finishWithError (some errorInternal)) := by
        have hcw : (c.counted.finishWithError (some errorInternal)).responseWriteable =
            some (w.cancelWithError errorInternal) := by
          simp [GRPCCall.finishWithError, counted, hw]
        constructor
        · exact fun hno => absurd (hcw.symm.trans hno) (Option.some_ne_none _)
        · intro w' hw'
          rw [hcw] at hw'
          cases hw'
          have hlast := (hdelivered.dropped (dataWithByteBuffer decompress message)
            trivial).cancelWithError errorInternal
          rw [← happend] at hlast
          exact hlast.mono fun _ => Or.inl (cancelled_gone hdelivered.ordered _)
      exact hcancelled.cancelCall (hcounted.finishWithError _)
  | resumed hd htag _ =>
      exact (htagged hd _ htag (by decide)).kept rfl rfl rfl fun _ hover => hover
  | failed hd _ htag =>
      have hkept : Delivers decompress parse c.counted := by
        rcases htag with htag | htag
        · exact htagged hd _ htag (by decide)
        · exact htagged hd _ htag (by decide)
      exact hkept.finishWithError _
  | ignored hwhy _ _ =>
      cases hread : readMessage completion with
      | none => exact hnone hread (fun hover => hover.counted hq)
      | some message =>
          obtain ⟨_, hzero, happend⟩ := hmessage message hread
          have hd : c.counted.deallocated = true := by
            rcases hwhy with hd | hno
            · exact hd
            · simp [hread] at hno
          constructor
          · exact fun hno => absurd (hw.symm.trans hno) (Option.some_ne_none _)
          · intro w' hw'
            cases hw.symm.trans hw'
            rw [happend]
            exact hdelivered.dropped _ ⟨hd, hzero⟩

private theorem Delivers.startNextRead (h : Delivers decompress parse c) :
    Delivers decompress parse c.startNextRead := by
  rcases c.startNextRead_cases with hkept | ⟨hd, hnext⟩
  · rwa [hkept]
  · rw [hnext]
    refine h.kept rfl rfl rfl fun _ hover => ?_
    simp [hover.1] at hd

private theorem Delivers.of_some {w : GRXConcurrentWriteable Bytes}
    (hw : c.responseWriteable = some w)
    (h : Delivered parse (c.received decompress) c.responses c.IsOver w) :
    Delivers decompress parse c := by
  constructor
  · exact fun hno => absurd (hw.symm.trans hno) (Option.some_ne_none _)
  · intro w' hw'
    cases hw.symm.trans hw'
    exact h

private theorem Delivers.runs (htokens : Tokens accepted c) (h : Delivers decompress parse c)
    {w : GRXConcurrentWriteable Bytes} {block : WriteableBlock Bytes}
    {rest : List (WriteableBlock Bytes)} (hw : c.responseWriteable = some w)
    (hq : w.writeableQueue = block :: rest)
    (hruns : Runs parse c { w with writeableQueue := rest } block c') :
    Delivers decompress parse c' := by
  have hdelivered := h.delivered w hw
  have hqueued : c.queuedValues = (block :: rest).filterMap valueOf := by
    simp [queuedValues, hw, hq]
  have hleft : (c.withWriteable (GRXConcurrentWriteable.runBlock { w with writeableQueue := rest }
      block)).queuedValues = rest.filterMap valueOf :=
    congrArg (List.filterMap valueOf) (runBlock_queue _ _)
  have hover : c.IsOver → (c.withWriteable (GRXConcurrentWriteable.runBlock
      { w with writeableQueue := rest } block)).IsOver := by
    intro ho
    have hreads := ho.2
    refine ⟨ho.1, ?_⟩
    rw [reads, hqueued, List.filterMap_cons] at hreads
    rw [reads, hleft]
    show c.pending.count _ + c.pending.count _ + c.callQueue.count _ + _ = 0
    split at hreads
    · omega
    · rw [List.length_cons] at hreads
      omega
  -- a block that writes no value
  have hother : valueOf block = none ∨ w.writeable = false →
      ∀ messages : List (GRXMessage Bytes), valuesOf messages = [] →
      (GRXConcurrentWriteable.runBlock { w with writeableQueue := rest } block).sent =
        w.sent ++ messages →
      ∀ c₁ : GRPCCall ρ, c₁.responseWriteable =
        some (GRXConcurrentWriteable.runBlock { w with writeableQueue := rest } block) →
      c₁.received decompress = c.received decompress →
      c₁.responses = c.responses ++ messages.filterMap (parsedMessage parse) →
      (c.IsOver → c₁.IsOver) → Delivers decompress parse c₁ := by
    intro hblock messages hmessages hsent c₁ hw₁ hreceived hresponses hover₁
    apply Delivers.of_some hw₁
    rw [hreceived, hresponses]
    exact (hdelivered.ranOther hq hblock hsent hmessages).mono fun ho => Or.inr (hover₁ ho)
  -- the read that a value was
  have hreading : ∀ value, block = .value value → ¬ c.IsOver ∧ (c.withWriteable
      (GRXConcurrentWriteable.runBlock { w with writeableQueue := rest } block)).reads = 0 := by
    rintro value rfl
    have hone := htokens.reads
    rw [reads, hqueued] at hone
    simp only [List.filterMap_cons, valueOf, List.length_cons] at hone
    constructor
    · intro ho
      have hreads := ho.2
      rw [reads, hqueued] at hreads
      simp only [List.filterMap_cons, valueOf, List.length_cons] at hreads
      omega
    · rw [reads, hleft]
      show c.pending.count _ + c.pending.count _ + c.callQueue.count _ + _ = 0
      omega
  cases hruns with
  | parsed value response hwriteable hparse =>
      obtain ⟨hread, _⟩ := hreading value rfl
      apply Delivers.startNextRead
      have hsome : parse value ≠ none := by simp [hparse]
      have hran : ∀ ended : Prop, Delivered parse (c.received decompress)
          (c.responses ++ [.writeValue response]) ended
          (GRXConcurrentWriteable.runBlock { w with writeableQueue := rest } (.value value)) := by
        intro ended
        have hvalue := hdelivered.ranValue hq hwriteable hread (Or.inl hsome : _ ∨ ended)
        rw [hparse] at hvalue
        exact hvalue
      exact Delivers.of_some rfl (hran _)
  | bad value hwriteable hparse =>
      obtain ⟨hread, hzero⟩ := hreading value rfl
      apply Delivers.startNextRead
      have hran : ∀ ended : Prop, ended → Delivered parse (c.received decompress) c.responses ended
          (GRXConcurrentWriteable.runBlock { w with writeableQueue := rest } (.value value)) := by
        intro ended ho
        have hnone := hdelivered.ranValue hq hwriteable hread (Or.inr ho)
        rw [hparse] at hnone
        rwa [Option.map_none, Option.toList_none, List.append_nil] at hnone
      unfold badResponse
      split
      · next hd => exact Delivers.of_some rfl (hran _ ⟨hd, hzero⟩)
      · apply Delivers.of_some rfl
        have hlast := (hran True trivial).cancelWithError errorForBadProto
        exact hlast.mono fun _ => Or.inl (cancelled_gone (hran True trivial).ordered _)
  | completed hwriteable hf =>
      have hwriteable' : w.writeable = true := hwriteable
      have hf' : w.alreadyFinished = false := hf
      refine hother (Or.inl rfl) [.writesFinishedWithError none] rfl ?_ _ ?_ ?_ ?_ hover
      · simp [GRXConcurrentWriteable.runBlock, hwriteable', hf']
      all_goals rfl
  | cancelled error =>
      refine hother (Or.inl rfl) [.writesFinishedWithError (some error)] rfl ?_ _ ?_ ?_ ?_ hover
      · simp [GRXConcurrentWriteable.runBlock]
      all_goals rfl
  | silent _ hsent hvalue =>
      have hblock : valueOf block = none ∨ w.writeable = false := by
        cases block with
        | value value => exact Or.inr (hvalue value rfl)
        | _ => exact Or.inl rfl
      refine hother hblock [] rfl ?_ _ ?_ ?_ ?_ hover
      · rw [List.append_nil]
        exact hsent
      · rfl
      · rfl
      · exact (List.append_nil _).symm

theorem step_delivers {e : ClientEvent} (htokens : Tokens accepted c)
    (h : Delivers decompress parse c) (hstep : c.step decompress parse e = .ok c') :
    Delivers decompress parse c' := by
  have hcq := run_cq htokens.call.client (step_core decompress parse hstep)
  have hover : c.started = true → c.IsOver → c'.IsOver :=
    fun hs ho => step_over htokens hs ho hstep
  -- what leaves the writeable alone
  have hkept : c'.handled = c.handled → c'.responses = c.responses →
      c'.responseWriteable = c.responseWriteable → Delivers decompress parse c' :=
    fun hh hr hw => h.kept (received_congr htokens.handled hcq hh) hr hw hover
  cases step_cases decompress parse hstep with
  | started headers c₁ c₂ c₃ _ h₁ h₂ h₃ =>
      have hs := htokens.notStarted_of_start (startBatch_ok.mp h₁).1
      obtain ⟨_, rfl⟩ := startBatch_ok.mp h₁
      obtain ⟨_, rfl⟩ := startBatch_ok.mp h₂
      obtain ⟨_, rfl⟩ := startBatch_ok.mp h₃
      have hnone : c.responseWriteable = none := by simpa [started] using hs
      obtain ⟨hreceived, hresponses⟩ := h.unstarted hnone
      refine ⟨fun hno => absurd hno (by simp [withWriter, withCall, begun]), ?_⟩
      intro w hw
      cases hw
      rw [received_congr htokens.handled hcq rfl, hreceived]
      have hresponses' : ∀ c' : GRPCCall ρ, c'.responses = c.responses → Delivered parse []
          c'.responses c'.IsOver GRXConcurrentWriteable.initWithWriteable := by
        intro c' hc'
        rw [hc', hresponses]
        exact Delivered.start _
      exact hresponses' _ rfl
  | valueWritten => exact hkept rfl rfl rfl
  | writesFailed error hw =>
      have hfinished : Delivers decompress parse (c.withWriter .finished) :=
        h.kept rfl rfl rfl fun _ ho => ho
      exact (hfinished.finishWithError _).cancelCall (htokens.withFinished.finishWithError _)
  | writesEnded => exact hkept rfl rfl rfl
  | batch block rest operation _ hq hop hd hstart =>
      obtain ⟨_, rfl⟩ := startBatch_ok.mp hstart
      exact hkept rfl rfl rfl
  | skipped => exact hkept rfl rfl rfl
  | destroyed rest _ hq hdestroy =>
      obtain ⟨call, _, rfl⟩ := onCore_ok.mp hdestroy
      exact hkept rfl rfl rfl
  | handled outOfMemory completion rest _ hq hhandler => exact h.handles htokens hq hhandler
  | ran w block rest _ hw hq hruns => exact h.runs htokens hw hq hruns
  | sent success _ hcore =>
      obtain ⟨call, _, rfl⟩ := onCore_ok.mp hcore
      exact hkept rfl rfl rfl
  | received success ops state _ hcore =>
      obtain ⟨call, _, rfl⟩ := onCore_ok.mp hcore
      exact hkept rfl rfl rfl
  | cancelled => exact (h.finishWithError _).cancelCall (htokens.finishWithError _)
  | released => exact hkept rfl rfl rfl
  | deallocated => exact hkept rfl rfl rfl

end Delivers

theorem run_delivers {maxMessageLength : UInt32} {channelMetadata : List Metadata}
    {events : List ClientEvent} {c : GRPCCall ρ}
    (h : EventRun.run (step decompress parse) (initWithHost maxMessageLength channelMetadata)
      events = .ok c) : ∃ accepted, Tokens accepted c ∧ Delivers decompress parse c := by
  have hrun := EventRun.run_invariant (P := fun _ => True)
    (I := fun c : GRPCCall ρ => ∃ accepted, Tokens accepted c ∧ Delivers decompress parse c)
    (fun s e s' hs _ he => by
      obtain ⟨accepted, htokens, hdelivers⟩ := hs
      obtain ⟨accepted', htokens'⟩ := step_tokens htokens he
      exact ⟨accepted', htokens', step_delivers htokens hdelivers he⟩)
    ⟨_, initWithHost_tokens maxMessageLength channelMetadata, fun _ => ⟨rfl, rfl⟩,
      fun w hw => absurd hw (by simp [initWithHost])⟩ (fun _ _ => trivial) h
  exact hrun

/-- In every run the application is given values and then at most one finish, and the values are
the first ones that the core read: none is skipped, repeated or out of order, and none follows one
that cannot be parsed. -/
theorem responses_in_order {maxMessageLength : UInt32} {channelMetadata : List Metadata}
    {events : List ClientEvent} {c : GRPCCall ρ}
    (h : EventRun.run (step decompress parse) (initWithHost maxMessageLength channelMetadata)
      events = .ok c) :
    (valuesOf c.responses).map some <+: (c.wrappedCall.cq.filterMap readMessage).map
        (fun message => parse (dataWithByteBuffer decompress message)) ∧
      ((∃ values : List ρ, c.responses = values.map .writeValue) ∨
        ∃ values errorOrNil, c.responses = GRXMessage.sequence values errorOrNil) := by
  obtain ⟨accepted, _, hdelivers⟩ := run_delivers h
  cases hw : c.responseWriteable with
  | none =>
      obtain ⟨_, hresponses⟩ := hdelivers.unstarted hw
      rw [hresponses]
      exact ⟨List.nil_prefix, Or.inl ⟨[], rfl⟩⟩
  | some w =>
      have hdelivered := hdelivers.delivered w hw
      refine ⟨hdelivered.responses_prefix.trans ?_, hdelivered.responses_shape⟩
      have hread : (c.wrappedCall.cq.take c.handled).filterMap readMessage <+:
          c.wrappedCall.cq.filterMap readMessage := (List.take_prefix _ _).filterMap _
      have hall := hread.map fun message => parse (dataWithByteBuffer decompress message)
      rw [received, List.map_map]
      exact hall

theorem responses_session : ∃ c : GRPCCall Bytes,
    EventRun.run (step joinSlices some) (initWithHost 1000 []) session = .ok c ∧
      (valuesOf c.responses).map some <+: (c.wrappedCall.cq.filterMap readMessage).map
        (fun message => some (dataWithByteBuffer joinSlices message)) ∧
      ((∃ values : List Bytes, c.responses = values.map .writeValue) ∨
        ∃ values errorOrNil, c.responses = GRXMessage.sequence values errorOrNil) := by
  obtain ⟨c, h, _⟩ := EventRun.exists_ok_of_any
    (r := EventRun.run (step joinSlices some) (initWithHost 1000 [] : GRPCCall Bytes) session)
    (p := fun _ => true) (by decide)
  exact ⟨c, h, responses_in_order h⟩

end GRPCCall

end CrowdSound.Client
