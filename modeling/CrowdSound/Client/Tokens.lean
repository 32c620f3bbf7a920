import CrowdSound.Client.CoreRuns

/-!
# One batch of a kind at a time

A read is asked for when the headers arrive, and again when the last response was written; the
request writer is paused until the last request was sent. So the core is never asked for a second
batch of a kind, and never refuses one.
-/

namespace CrowdSound.Client

open CrowdSound.Core CrowdSound.Core.GrpcCall

/-- The batches of a call that were accepted and of which `handled` were taken from the queue. -/
def pendingTags (call : GrpcCall) (handled : Nat) : Multiset Nat :=
  ((call.cq.drop handled).map Completion.tag : List Nat) + call.outstanding

theorem OneByOne.accepted_eq {accepted : List Nat} {call : GrpcCall} (h : OneByOne accepted call)
    (handled : Nat) : (accepted : Multiset Nat) =
      ((call.cq.take handled).map Completion.tag : List Nat) + pendingTags call handled := by
  have hall : call.reported = (call.cq.take handled).map Completion.tag ++
      (call.cq.drop handled).map Completion.tag := by
    rw [reported, h.settled.completed, List.map_nil, List.append_nil, ← List.map_append,
      List.take_append_drop]
  rw [← h.accounts.2, accounted, hall, pendingTags, ← Multiset.coe_add, add_assoc]

theorem take_handled {cq cq' : List Completion} {handled : Nat} (hcq : cq <+: cq')
    (hhandled : handled ≤ cq.length) : cq'.take handled = cq.take handled := by
  obtain ⟨more, hmore⟩ := hcq
  rw [← hmore, List.take_append_of_le_length hhandled]

theorem take_counted {cq rest : List Completion} {completion : Completion} {handled : Nat}
    (hq : cq.drop handled = completion :: rest) :
    cq.take (handled + 1) = cq.take handled ++ [completion] := by
  rw [List.take_add_one, ← List.head?_drop, hq]
  rfl

theorem OneByOne.pending_step {accepted : List Nat} {call call' : GrpcCall} {e : CallEvent}
    (h : OneByOne accepted call) (he : IsOperation e) (hstep : call.step e = .ok call')
    {handled : Nat} (hhandled : handled ≤ call.cq.length) :
    pendingTags call' handled = pendingTags call handled + call.acceptedBatches e ∧
      handled ≤ call'.cq.length := by
  have hcq := step_cq h.client hstep
  have htake := take_handled hcq hhandled
  have hbefore := h.accepted_eq handled
  have hafter := (h.step he hstep).accepted_eq handled
  rw [← Multiset.coe_add, hbefore, htake, add_assoc] at hafter
  exact ⟨(add_left_cancel hafter).symm, hhandled.trans hcq.length_le⟩

private theorem GRPCOperation.requests_client (operation : GRPCOperation) :
    ∀ req ∈ operation.requests, req.op ≠ .sendTrailingMetadata ∧ req.op ≠ .sendStatus := by
  cases operation <;> simp [GRPCOperation.requests]

private theorem GRPCOperation.requests_reusable {operation : GRPCOperation}
    (h : operation.handler = .recvMessage ∨ operation.handler = .sendMessage) :
    ∀ req ∈ operation.requests, req.op.reusable = true := by
  cases operation <;> simp [GRPCOperation.requests, GRPCOperation.handler, IoreqOp.reusable] at h ⊢

private theorem OneByOne.startBatch_of_free {accepted : List Nat} {call : GrpcCall}
    (h : OneByOne accepted call) {operation : GRPCOperation} (hlegal : operation.isLegal = true)
    (hfree : operation.handler.tag ∉ accepted ∨
      (operation.handler = .recvMessage ∨ operation.handler = .sendMessage) ∧
        operation.handler.tag ∉ call.outstanding) :
    (call.startBatch operation.batch operation.handler.tag).2 = .ok := by
  rw [h.startBatch_ok_iff]
  refine ⟨hlegal, ?_⟩
  intro req hreq
  have htag := operation.requests_tag req hreq
  obtain ⟨htrailing, hstatus⟩ := operation.requests_client req hreq
  rcases hfree with hnew | ⟨hreusable, hidle⟩
  · apply h.fresh.empty req.op htrailing hstatus
    rwa [htag]
  · apply h.fresh.free h.labelled.tagged h.accounts.1
      (GRPCOperation.requests_reusable hreusable req hreq)
    rwa [htag]

private theorem OneByOne.startBatch {accepted : List Nat} {call : GrpcCall}
    (h : OneByOne accepted call) {operation : GRPCOperation}
    (hok : (call.startBatch operation.batch operation.handler.tag).2 = .ok) {handled : Nat}
    (hhandled : handled ≤ call.cq.length) :
    OneByOne (accepted ++ [operation.handler.tag])
        (call.startBatch operation.batch operation.handler.tag).1 ∧
      pendingTags (call.startBatch operation.batch operation.handler.tag).1 handled =
        operation.handler.tag ::ₘ pendingTags call handled ∧
      handled ≤ (call.startBatch operation.batch operation.handler.tag).1.cq.length := by
  have hop : IsOperation (batchEvent operation) := ⟨operation, rfl, rfl⟩
  have hstep : call.step (batchEvent operation) =
      .ok (call.startBatch operation.batch operation.handler.tag).1 := rfl
  have haccepted : call.acceptedBatches (batchEvent operation) = [operation.handler.tag] :=
    if_pos hok
  have hnext := h.step hop hstep
  obtain ⟨hpending, hlength⟩ := h.pending_step hop hstep hhandled
  rw [haccepted] at hnext hpending
  refine ⟨hnext, ?_, hlength⟩
  rw [hpending, ← Multiset.singleton_add, add_comm]
  rfl

def valueOf : WriteableBlock Bytes → Option Bytes
  | .value value => some value
  | _ => none

def CallBlock.isWrite : CallBlock → Bool
  | writeMessage _ => true
  | _ => false

def GRXWriterState.writes : GRXWriterState → Nat
  | started => 1
  | _ => 0

namespace GRPCCall

variable {ρ : Type} {decompress : CompressionAlgorithm → List Bytes → Bytes}
  {parse : Bytes → Option ρ}

def pending (c : GRPCCall ρ) : Multiset Nat := pendingTags c.wrappedCall c.handled

def queuedValues (c : GRPCCall ρ) : List Bytes :=
  c.responseWriteable.elim [] fun w => w.writeableQueue.filterMap valueOf

/-- Where a read can be: not asked for yet, on the call queue, in the core, on the main queue. -/
def reads (c : GRPCCall ρ) : Nat :=
  c.pending.count Handler.recvMetadata.tag + c.pending.count Handler.recvMessage.tag +
    c.callQueue.count .startRead + c.queuedValues.length

/-- Where a write can be: with the writer, on the call queue, in the core. -/
def writes (c : GRPCCall ρ) : Nat :=
  c.requestWriter.writes + c.pending.count Handler.sendMessage.tag +
    c.callQueue.countP CallBlock.isWrite

/-- The closes of the requests, ended ones included. -/
def closes (accepted : List Nat) (c : GRPCCall ρ) : Nat :=
  accepted.count Handler.sendClose.tag + c.callQueue.count .finishRequest

/-- The core's call is used one batch at a time, and at most one batch of a kind waits. -/
structure Tokens (accepted : List Nat) (c : GRPCCall ρ) : Prop where
  call : OneByOne accepted c.wrappedCall
  handled : c.handled ≤ c.wrappedCall.cq.length
  unstarted : c.started = false → accepted = [] ∧
    (∀ block ∈ c.callQueue, block.operation = none) ∧
      c.requestWriter ≠ .started ∧ c.requestWriter ≠ .paused
  begun : c.started = true → Handler.sendMetadata.tag ∈ accepted
  reads : c.reads ≤ 1
  writes : c.writes ≤ 1
  closes : c.closes accepted ≤ 1
  notClosed : c.requestWriter ≠ .finished → c.closes accepted = 0

theorem startBatch_started {accepted : List Nat} {c c' : GRPCCall ρ} {operation : GRPCOperation}
    (h : OneByOne accepted c.wrappedCall) (hhandled : c.handled ≤ c.wrappedCall.cq.length)
    (hstart : c.startBatch operation = .ok c') :
    ∃ call, c' = c.withCall call ∧ OneByOne (accepted ++ [operation.handler.tag]) call ∧
      (c.withCall call).pending = operation.handler.tag ::ₘ c.pending ∧
        c.handled ≤ call.cq.length := by
  obtain ⟨hok, hc⟩ := startBatch_ok.mp hstart
  obtain ⟨hcall, hpending, hnext⟩ := h.startBatch hok hhandled
  exact ⟨_, hc, hcall, hpending, hnext⟩

section Kept

variable {accepted : List Nat} {c : GRPCCall ρ}

private theorem Tokens.congr {c' : GRPCCall ρ} (h : Tokens accepted c)
    (hcall : c'.wrappedCall = c.wrappedCall) (hhandled : c'.handled = c.handled)
    (hqueue : c'.callQueue = c.callQueue) (hvalues : c'.queuedValues = c.queuedValues)
    (hwriter : c'.requestWriter = c.requestWriter) (hstarted : c'.started = c.started) :
    Tokens accepted c' := by
  have hpending : c'.pending = c.pending := by rw [pending, pending, hcall, hhandled]
  constructor
  · rw [hcall]
    exact h.call
  · rw [hcall, hhandled]
    exact h.handled
  · rw [hstarted, hqueue, hwriter]
    exact h.unstarted
  · rw [hstarted]
    exact h.begun
  · rw [GRPCCall.reads, hpending, hqueue, hvalues]
    exact h.reads
  · rw [GRPCCall.writes, hpending, hqueue, hwriter]
    exact h.writes
  · rw [GRPCCall.closes, hqueue]
    exact h.closes
  · rw [GRPCCall.closes, hqueue, hwriter]
    exact h.notClosed

theorem Tokens.withCall_pending (h : Tokens accepted c) {call : GrpcCall} {e : CallEvent}
    (he : IsOperation e) (hnone : c.wrappedCall.acceptedBatches e = [])
    (hstep : c.wrappedCall.step e = .ok call) : (c.withCall call).pending = c.pending := by
  obtain ⟨hpending, _⟩ := h.call.pending_step he hstep h.handled
  rw [hnone] at hpending
  exact hpending.trans (add_zero _)

private theorem Tokens.withCall (h : Tokens accepted c) {call : GrpcCall} {e : CallEvent}
    (he : IsOperation e) (hnone : c.wrappedCall.acceptedBatches e = [])
    (hstep : c.wrappedCall.step e = .ok call) : Tokens accepted (c.withCall call) := by
  have hnext := h.call.step he hstep
  obtain ⟨_, hhandled⟩ := h.call.pending_step he hstep h.handled
  have hsame := h.withCall_pending he hnone hstep
  rw [hnone, List.append_nil] at hnext
  constructor
  · exact hnext
  · exact hhandled
  · exact h.unstarted
  · exact h.begun
  · have hreads := h.reads
    rwa [GRPCCall.reads, ← hsame] at hreads
  · have hwrites := h.writes
    rwa [GRPCCall.writes, ← hsame] at hwrites
  · exact h.closes
  · exact h.notClosed

theorem finishWithError_queuedValues (c : GRPCCall ρ) (errorOrNil : Option NSError) :
    (c.finishWithError errorOrNil).queuedValues = c.queuedValues := by
  cases hw : c.responseWriteable with
  | none => simp [queuedValues, finishWithError, hw]
  | some w =>
      cases errorOrNil with
      | none =>
          simp [queuedValues, finishWithError, hw,
            GRXConcurrentWriteable.enqueueSuccessfulCompletion, valueOf]
      | some error =>
          cases hf : w.alreadyFinished <;>
            simp [queuedValues, finishWithError, hw, GRXConcurrentWriteable.cancelWithError, hf,
              valueOf]

theorem finishWithError_started (c : GRPCCall ρ) (errorOrNil : Option NSError) :
    (c.finishWithError errorOrNil).started = c.started := by
  simp [started, finishWithError]

theorem Tokens.withFinished (h : Tokens accepted c) : Tokens accepted (c.withWriter .finished) := by
  constructor
  · exact h.call
  · exact h.handled
  · intro hstarted
    obtain ⟨haccepted, hblocks, _⟩ := h.unstarted hstarted
    exact ⟨haccepted, hblocks, by simp [withWriter], by simp [withWriter]⟩
  · exact h.begun
  · exact h.reads
  · have hwrites := h.writes
    simp only [GRPCCall.writes, pending, withWriter, GRXWriterState.writes] at hwrites ⊢
    omega
  · exact h.closes
  · exact fun hno => absurd rfl hno

theorem Tokens.finishWithError (h : Tokens accepted c) (errorOrNil : Option NSError) :
    Tokens accepted (c.finishWithError errorOrNil) := by
  apply h.withFinished.congr
  · rfl
  · rfl
  · rfl
  · exact c.finishWithError_queuedValues errorOrNil
  · simp [GRPCCall.finishWithError, withWriter]
  · exact c.finishWithError_started errorOrNil

private theorem Tokens.cancelCall (h : Tokens accepted c) : Tokens accepted c.cancelCall :=
  h.withCall (e := cancelEvent) trivial rfl (step_cancelEvent _)

theorem Tokens.cancelCall_pending (h : Tokens accepted c) : c.cancelCall.pending = c.pending :=
  h.withCall_pending (e := cancelEvent) trivial rfl (step_cancelEvent _)

theorem startNextRead_cases (c : GRPCCall ρ) :
    c.startNextRead = c ∨ c.deallocated = false ∧ c.startNextRead = c.enqueue .startRead := by
  unfold startNextRead
  cases hd : c.deallocated with
  | true => exact Or.inl (if_pos rfl)
  | false => exact Or.inr ⟨rfl, if_neg (by simp)⟩

private theorem Tokens.enqueueRead (h : Tokens accepted c) (hstarted : c.started = true)
    (hreads : c.reads = 0) : Tokens accepted (c.enqueue .startRead) := by
  constructor
  · exact h.call
  · exact h.handled
  · intro hno
    have hyes : (c.enqueue .startRead).started = true := hstarted
    simp [hyes] at hno
  · exact h.begun
  · simp only [GRPCCall.reads, pending, enqueue, queuedValues] at hreads ⊢
    simp
    omega
  · have hwrites := h.writes
    simp only [GRPCCall.writes, pending, enqueue] at hwrites ⊢
    simpa [CallBlock.isWrite] using hwrites
  · have hcloses := h.closes
    simp only [GRPCCall.closes, enqueue] at hcloses ⊢
    simpa using hcloses
  · intro hwriter
    have hcloses := h.notClosed hwriter
    simp only [GRPCCall.closes, enqueue] at hcloses ⊢
    simpa using hcloses

private theorem Tokens.startNextRead (h : Tokens accepted c) (hstarted : c.started = true)
    (hreads : c.reads = 0) : Tokens accepted c.startNextRead := by
  rcases c.startNextRead_cases with hkept | ⟨_, hnext⟩
  · rwa [hkept]
  · rw [hnext]
    exact h.enqueueRead hstarted hreads

theorem counted_pending {completion : Completion} {rest : List Completion}
    (hq : c.wrappedCall.cq.drop c.handled = completion :: rest) :
    c.pending = completion.tag ::ₘ c.counted.pending := by
  have hdrop : c.wrappedCall.cq.drop (c.handled + 1) = rest := by
    rw [← List.tail_drop, hq, List.tail_cons]
  have hnext : c.counted.pending =
      ((rest.map Completion.tag : List Nat) : Multiset Nat) + c.wrappedCall.outstanding := by
    rw [← hdrop]
    rfl
  rw [hnext, pending, pendingTags, hq, List.map_cons, ← Multiset.cons_coe, Multiset.cons_add]

theorem counted_reads {completion : Completion} {rest : List Completion}
    (hq : c.wrappedCall.cq.drop c.handled = completion :: rest)
    (htag : completion.tag = Handler.recvMetadata.tag ∨
      completion.tag = Handler.recvMessage.tag) : c.reads = c.counted.reads + 1 := by
  have hrest : c.counted.reads = c.counted.pending.count Handler.recvMetadata.tag +
      c.counted.pending.count Handler.recvMessage.tag + c.callQueue.count .startRead +
        c.queuedValues.length := rfl
  rw [GRPCCall.reads, counted_pending hq, hrest]
  rcases htag with htag | htag <;> rw [htag] <;>
    simp only [Handler.tag, Multiset.count_cons_self, Multiset.count_cons_of_ne, ne_eq,
      OfNat.ofNat_ne_one, OfNat.one_ne_ofNat, not_false_eq_true] <;> omega

theorem Tokens.counted (h : Tokens accepted c) {completion : Completion} {rest : List Completion}
    (hq : c.wrappedCall.cq.drop c.handled = completion :: rest) : Tokens accepted c.counted := by
  have hpending := counted_pending hq
  constructor
  · exact h.call
  · have hlength := congrArg List.length hq
    rw [List.length_drop, List.length_cons] at hlength
    show c.handled + 1 ≤ c.wrappedCall.cq.length
    omega
  · exact h.unstarted
  · exact h.begun
  · have hreads := h.reads
    rw [GRPCCall.reads, hpending, Multiset.count_cons, Multiset.count_cons] at hreads
    rw [GRPCCall.reads]
    show _ + _ + c.callQueue.count .startRead + c.queuedValues.length ≤ 1
    omega
  · have hwrites := h.writes
    rw [GRPCCall.writes, hpending, Multiset.count_cons] at hwrites
    rw [GRPCCall.writes]
    show c.requestWriter.writes + _ + c.callQueue.countP _ ≤ 1
    omega
  · exact h.closes
  · exact h.notClosed

theorem Tokens.started_of_pending (h : Tokens accepted c) {tag : Nat} (htag : tag ∈ c.pending) :
    c.started = true := by
  cases hs : c.started with
  | true => rfl
  | false =>
      have hall := h.call.accepted_eq c.handled
      rw [(h.unstarted hs).1] at hall
      have hnone : tag ∉ (([] : List Nat) : Multiset Nat) := by simp
      exact absurd (by rw [hall]; exact Multiset.mem_add.mpr (Or.inr htag)) hnone

theorem runBlock_queue (w : GRXConcurrentWriteable Bytes) (block : WriteableBlock Bytes) :
    (w.runBlock block).writeableQueue = w.writeableQueue := by
  cases block <;> simp only [GRXConcurrentWriteable.runBlock] <;> split <;> rfl

private theorem Tokens.withWriteable (h : Tokens accepted c) {w w' : GRXConcurrentWriteable Bytes}
    (hw : c.responseWriteable = some w)
    (hvalues : c.reads + (w'.writeableQueue.filterMap valueOf).length ≤
      1 + c.queuedValues.length) : Tokens accepted (c.withWriteable w') := by
  have hstarted : (c.withWriteable w').started = c.started := by
    simp [started, GRPCCall.withWriteable, hw]
  constructor
  · exact h.call
  · exact h.handled
  · rw [hstarted]
    exact h.unstarted
  · rw [hstarted]
    exact h.begun
  · rw [GRPCCall.reads] at hvalues ⊢
    show c.pending.count _ + c.pending.count _ + c.callQueue.count _ +
      (w'.writeableQueue.filterMap valueOf).length ≤ 1
    omega
  · exact h.writes
  · exact h.closes
  · exact h.notClosed

theorem valueEnqueued_eq {w : GRXConcurrentWriteable Bytes} (hw : c.responseWriteable = some w)
    (value : Bytes) : c.valueEnqueued value = c.withWriteable (w.enqueueValue value) := by
  rw [valueEnqueued, hw]
  rfl

end Kept

section Steps

variable {accepted : List Nat} {c c' : GRPCCall ρ}

private theorem Tokens.handles (h : Tokens accepted c) {completion : Completion}
    {rest : List Completion}
    {outOfMemory : Bool} (hq : c.wrappedCall.cq.drop c.handled = completion :: rest)
    (hhandler : Handles decompress c.counted completion outOfMemory c') :
    Tokens accepted c' := by
  have hcounted := h.counted hq
  have hpending := counted_pending hq
  have hstarted : c.started = true := by
    have hmem : completion.tag ∈ c.pending := by
      rw [hpending]
      exact Multiset.mem_cons_self _ _
    exact h.started_of_pending hmem
  -- the read that this completion was is free again
  have hread : completion.tag = Handler.recvMetadata.tag ∨
      completion.tag = Handler.recvMessage.tag → c.counted.reads = 0 := by
    intro htag
    have hreads := h.reads
    have hone := counted_reads hq htag
    omega
  cases hhandler with
  | headers _ htag _ =>
      have hset : Tokens accepted (c.counted.headersSet completion.results) :=
        hcounted.congr rfl rfl rfl rfl rfl rfl
      exact hset.enqueueRead hstarted (hread (Or.inl htag))
  | status _ _ _ =>
      have hset : Tokens accepted (c.counted.trailersSet completion.results) :=
        hcounted.congr rfl rfl rfl rfl rfl rfl
      exact hset.finishWithError _
  | value message _ _ hmessage =>
      have hreads := hread (Or.inr (readMessage_some hmessage))
      obtain ⟨w, hw⟩ := Option.isSome_iff_exists.mp hstarted
      have hcw : c.counted.responseWriteable = some w := hw
      rw [valueEnqueued_eq hcw]
      have hqueued : c.counted.queuedValues = w.writeableQueue.filterMap valueOf := by
        rw [queuedValues, hcw]
        rfl
      have hmore : (w.enqueueValue (dataWithByteBuffer decompress message)).writeableQueue.filterMap
          valueOf = c.counted.queuedValues ++ [dataWithByteBuffer decompress message] := by
        rw [hqueued, GRXConcurrentWriteable.enqueueValue, List.filterMap_append]
        rfl
      apply hcounted.withWriteable hcw
      rw [hreads, hmore, List.length_append, List.length_singleton]
      omega
  | noMemory => exact (hcounted.finishWithError _).cancelCall
  | resumed _ htag _ =>
      have hwrites := h.writes
      rw [GRPCCall.writes, hpending, htag, Multiset.count_cons_self] at hwrites
      constructor
      · exact hcounted.call
      · exact hcounted.handled
      · intro hno
        have hyes : (c.counted.withWriter (c.counted.requestWriter.set .started)).started = true :=
          hstarted
        simp [hyes] at hno
      · exact hcounted.begun
      · exact hcounted.reads
      · have hone : (c.counted.requestWriter.set .started).writes ≤ 1 := by
          cases c.counted.requestWriter.set .started <;> decide
        rw [GRPCCall.writes]
        show (c.counted.requestWriter.set .started).writes + c.counted.pending.count _ +
          c.callQueue.countP _ ≤ 1
        omega
      · exact hcounted.closes
      · intro hwriter
        apply hcounted.notClosed
        intro hfinished
        apply hwriter
        show c.counted.requestWriter.set .started = .finished
        rw [hfinished]
        rfl
  | failed => exact hcounted.finishWithError _
  | ignored => exact hcounted

private theorem Tokens.runs (h : Tokens accepted c) {w : GRXConcurrentWriteable Bytes}
    {block : WriteableBlock Bytes} {rest : List (WriteableBlock Bytes)}
    (hw : c.responseWriteable = some w) (hq : w.writeableQueue = block :: rest)
    (hruns : Runs parse c { w with writeableQueue := rest } block c') : Tokens accepted c' := by
  have hqueued : c.queuedValues = (block :: rest).filterMap valueOf := by
    simp [queuedValues, hw, hq]
  have hlength : (rest.filterMap valueOf).length ≤ c.queuedValues.length := by
    rw [hqueued, List.filterMap_cons]
    split <;> simp
  have hreads := h.reads
  have hstarted : c.started = true := by simp [started, hw]
  -- the block is taken from the queue
  have htaken : ∀ w' : GRXConcurrentWriteable Bytes, w'.writeableQueue = rest →
      Tokens accepted (c.withWriteable w') := by
    intro w' hrest
    apply h.withWriteable hw
    rw [hrest]
    omega
  -- the read that this block was is free again
  have hnext : ∀ c₁ : GRPCCall ρ, Tokens accepted c₁ → c₁.started = true →
      c₁.pending = c.pending → c₁.callQueue = c.callQueue →
      c₁.queuedValues = rest.filterMap valueOf → (∃ value, block = .value value) →
      Tokens accepted c₁.startNextRead := by
    rintro c₁ h₁ hs hpending hcalls hvalues ⟨value, rfl⟩
    apply h₁.startNextRead hs
    rw [GRPCCall.reads, hqueued] at hreads
    rw [GRPCCall.reads, hpending, hcalls, hvalues]
    simp only [List.filterMap_cons, valueOf, List.length_cons] at hreads
    omega
  cases hruns with
  | parsed value response _ _ =>
      have h₁ := htaken _ (runBlock_queue { w with writeableQueue := rest } (.value value))
      have h₂ : Tokens accepted ((c.withWriteable (GRXConcurrentWriteable.runBlock
          { w with writeableQueue := rest } (.value value))).responded (.writeValue response)) :=
        h₁.congr rfl rfl rfl rfl rfl rfl
      apply hnext _ h₂ rfl rfl rfl _ ⟨value, rfl⟩
      exact congrArg (List.filterMap valueOf) (runBlock_queue _ _)
  | bad value _ _ =>
      have h₁ := htaken _ (runBlock_queue { w with writeableQueue := rest } (.value value))
      have hvalues : (c.withWriteable (GRXConcurrentWriteable.runBlock
          { w with writeableQueue := rest } (.value value))).queuedValues =
            rest.filterMap valueOf :=
        congrArg (List.filterMap valueOf) (runBlock_queue _ _)
      unfold badResponse
      split
      · exact hnext _ h₁ rfl rfl rfl hvalues ⟨value, rfl⟩
      · apply hnext _ (h₁.finishWithError _) _ rfl rfl _ ⟨value, rfl⟩
        · rw [finishWithError_started]
          rfl
        · rw [finishWithError_queuedValues]
          exact hvalues
  | completed =>
      exact (htaken _ (runBlock_queue { w with writeableQueue := rest } _)).congr
        rfl rfl rfl rfl rfl rfl
  | cancelled =>
      exact (htaken _ (runBlock_queue { w with writeableQueue := rest } _)).congr
        rfl rfl rfl rfl rfl rfl
  | silent => exact htaken _ (runBlock_queue _ _)

theorem Tokens.batch (h : Tokens accepted c) {block : CallBlock} {rest : List CallBlock}
    {operation : GRPCOperation} (hq : c.callQueue = block :: rest)
    (hop : block.operation = some operation)
    (hstart : (c.withQueue rest).startBatch operation = .ok c') :
    Tokens (accepted ++ [operation.handler.tag]) c' := by
  have hcall' : OneByOne accepted (c.withQueue rest).wrappedCall := h.call
  obtain ⟨call, rfl, hcall, hwaits, hhandled⟩ := startBatch_started hcall' h.handled hstart
  have hreads := h.reads
  have hwrites := h.writes
  have hcloses := h.closes
  rw [GRPCCall.reads, hq] at hreads
  rw [GRPCCall.writes, hq] at hwrites
  have hbefore : (c.withQueue rest).pending = c.pending := rfl
  rw [hbefore] at hwaits
  constructor
  · exact hcall
  · exact hhandled
  · intro hno
    have hblock := (h.unstarted hno).2.1 block (by simp [hq])
    simp [hblock] at hop
  · exact fun hyes => List.mem_append_left _ (h.begun hyes)
  · rw [GRPCCall.reads, hwaits]
    show _ + _ + rest.count _ + c.queuedValues.length ≤ 1
    cases block <;> cases hop <;>
      simp [GRPCOperation.handler, Handler.tag] at hreads ⊢ <;> omega
  · rw [GRPCCall.writes, hwaits]
    show c.requestWriter.writes + _ + rest.countP _ ≤ 1
    cases block <;> cases hop <;>
      simp [GRPCOperation.handler, Handler.tag, List.countP_cons, CallBlock.isWrite]
        at hwrites ⊢ <;> omega
  · rw [GRPCCall.closes, hq] at hcloses
    rw [GRPCCall.closes]
    show (accepted ++ [operation.handler.tag]).count _ + rest.count _ ≤ 1
    cases block <;> cases hop <;>
      simp [GRPCOperation.handler, Handler.tag] at hcloses ⊢ <;> omega
  · intro hwriter
    have hnone := h.notClosed hwriter
    rw [GRPCCall.closes, hq] at hnone
    rw [GRPCCall.closes]
    show (accepted ++ [operation.handler.tag]).count _ + rest.count _ = 0
    cases block <;> cases hop <;>
      simp [GRPCOperation.handler, Handler.tag] at hnone ⊢ <;> omega

theorem Tokens.withQueue (h : Tokens accepted c) {block : CallBlock} {rest : List CallBlock}
    (hq : c.callQueue = block :: rest) : Tokens accepted (c.withQueue rest) := by
  have hcount : ∀ b : CallBlock, rest.count b ≤ c.callQueue.count b := by
    intro b
    rw [hq]
    exact List.count_le_count_cons
  have hwrites : rest.countP CallBlock.isWrite ≤ c.callQueue.countP CallBlock.isWrite := by
    rw [hq, List.countP_cons]
    omega
  have hfinish := hcount .finishRequest
  constructor
  · exact h.call
  · exact h.handled
  · intro hno
    obtain ⟨haccepted, hblocks, hwriter⟩ := h.unstarted hno
    refine ⟨haccepted, fun b hb => hblocks b ?_, hwriter⟩
    rw [hq]
    exact List.mem_cons_of_mem _ hb
  · exact h.begun
  · have hreads := h.reads
    have hread := hcount .startRead
    rw [GRPCCall.reads] at hreads ⊢
    show c.pending.count _ + c.pending.count _ + rest.count _ + c.queuedValues.length ≤ 1
    omega
  · have hw := h.writes
    rw [GRPCCall.writes] at hw ⊢
    show c.requestWriter.writes + c.pending.count _ + rest.countP _ ≤ 1
    omega
  · have hcloses := h.closes
    rw [GRPCCall.closes] at hcloses ⊢
    show accepted.count _ + rest.count _ ≤ 1
    omega
  · intro hw
    have hcloses := h.notClosed hw
    rw [GRPCCall.closes] at hcloses ⊢
    show accepted.count _ + rest.count _ = 0
    omega

private theorem Tokens.unstarted_pending (h : Tokens accepted c) (hs : c.started = false) :
    c.pending = 0 := by
  apply Multiset.eq_zero_of_forall_notMem
  intro tag htag
  have hstarted := h.started_of_pending htag
  simp [hs] at hstarted

theorem Tokens.start (h : Tokens accepted c) {headers : List Metadata}
    {c₁ c₂ c₃ : GRPCCall ρ} (hs : c.started = false)
    (h₁ : c.begun.startBatch (.sendMetadata headers) = .ok c₁)
    (h₂ : c₁.startBatch .recvMetadata = .ok c₂) (h₃ : c₂.startBatch .recvStatus = .ok c₃) :
    Tokens [Handler.sendMetadata.tag, Handler.recvMetadata.tag, Handler.recvStatus.tag]
      (c₃.withWriter c₃.requestWriter.start) := by
  obtain ⟨haccepted, hblocks, hno, hpaused⟩ := h.unstarted hs
  have hpending := h.unstarted_pending hs
  have hcall : OneByOne [] c.begun.wrappedCall := haccepted ▸ h.call
  obtain ⟨call₁, rfl, hcall₁, hpending₁, hhandled₁⟩ := startBatch_started hcall h.handled h₁
  obtain ⟨call₂, rfl, hcall₂, hpending₂, hhandled₂⟩ := startBatch_started hcall₁ hhandled₁ h₂
  obtain ⟨call₃, rfl, hcall₃, hpending₃, hhandled₃⟩ := startBatch_started hcall₂ hhandled₂ h₃
  have hbefore : c.begun.pending = c.pending := rfl
  rw [hpending₂, hpending₁, hbefore] at hpending₃
  have hread : c.callQueue.count .startRead = 0 := by
    rw [List.count_eq_zero]
    exact fun hmem => absurd (hblocks _ hmem) (by simp [CallBlock.operation])
  have hfinish : c.callQueue.count .finishRequest = 0 := by
    rw [List.count_eq_zero]
    exact fun hmem => absurd (hblocks _ hmem) (by simp [CallBlock.operation])
  have hwrite : c.callQueue.countP CallBlock.isWrite = 0 := by
    rw [List.countP_eq_zero]
    intro b hb
    have hnone := hblocks b hb
    cases b <;> simp [CallBlock.operation, CallBlock.isWrite] at hnone ⊢
  have hnew : ∀ c₄ : GRPCCall ρ, c₄.pending = Handler.recvStatus.tag ::ₘ
      Handler.recvMetadata.tag ::ₘ Handler.sendMetadata.tag ::ₘ c.pending →
      c₄.callQueue = c.callQueue → c₄.queuedValues = [] →
      c₄.requestWriter = c.requestWriter.start → c₄.reads ≤ 1 ∧ c₄.writes ≤ 1 := by
    intro c₄ hp hcalls hvalues hwriter
    have hone : c.requestWriter.start.writes ≤ 1 := by
      cases c.requestWriter.start <;> decide
    rw [GRPCCall.reads, GRPCCall.writes, hp, hpending, hcalls, hvalues, hwriter, hread, hwrite]
    exact ⟨by decide, by simpa [Handler.tag] using hone⟩
  obtain ⟨hreads, hwrites⟩ := hnew ((c.begun.withCall call₃).withWriter c.requestWriter.start)
    hpending₃ rfl rfl rfl
  constructor
  · exact hcall₃
  · exact hhandled₃
  · exact fun hn => absurd hn Bool.noConfusion
  · exact fun _ => List.mem_cons_self
  · exact hreads
  · exact hwrites
  · show ([_, _, _] : List Nat).count _ + c.callQueue.count _ ≤ 1
    rw [hfinish]
    decide
  · intro _
    show ([_, _, _] : List Nat).count _ + c.callQueue.count _ = 0
    rw [hfinish]
    decide

private theorem Tokens.valueWritten (h : Tokens accepted c) (hw : c.requestWriter = .started)
    (value : Bytes) : Tokens accepted ((c.withWriter .paused).enqueue (.writeMessage value)) := by
  have hreads := h.reads
  have hwrites := h.writes
  have hcloses := h.notClosed (by simp [hw])
  rw [GRPCCall.reads] at hreads
  rw [GRPCCall.writes, hw] at hwrites
  rw [GRPCCall.closes] at hcloses
  have hnone : ((c.withWriter .paused).enqueue (.writeMessage value)).closes accepted = 0 := by
    rw [GRPCCall.closes]
    show accepted.count _ + (c.callQueue ++ [_]).count _ = 0
    simpa using hcloses
  constructor
  · exact h.call
  · exact h.handled
  · exact fun hno => absurd hw (h.unstarted hno).2.2.1
  · exact h.begun
  · rw [GRPCCall.reads]
    show c.pending.count _ + c.pending.count _ + (c.callQueue ++ [_]).count _ +
      c.queuedValues.length ≤ 1
    simpa using hreads
  · rw [GRPCCall.writes]
    show GRXWriterState.paused.writes + c.pending.count _ + (c.callQueue ++ [_]).countP _ ≤ 1
    simp [GRXWriterState.writes, CallBlock.isWrite, List.countP_append] at hwrites ⊢
    omega
  · omega
  · exact fun _ => hnone

private theorem Tokens.writesEnded (h : Tokens accepted c)
    (hw : c.requestWriter = .started ∨ c.requestWriter = .paused) :
    Tokens accepted ((c.withWriter .finished).enqueue .finishRequest) := by
  have hreads := h.reads
  have hwrites := h.withFinished.writes
  have hcloses := h.notClosed (by rcases hw with hw | hw <;> simp [hw])
  rw [GRPCCall.reads] at hreads
  rw [GRPCCall.writes] at hwrites
  rw [GRPCCall.closes] at hcloses
  constructor
  · exact h.call
  · exact h.handled
  · intro hno
    obtain ⟨_, _, hstarted, hpaused⟩ := h.unstarted hno
    rcases hw with hw | hw
    · exact absurd hw hstarted
    · exact absurd hw hpaused
  · exact h.begun
  · rw [GRPCCall.reads]
    show c.pending.count _ + c.pending.count _ + (c.callQueue ++ [_]).count _ +
      c.queuedValues.length ≤ 1
    simpa using hreads
  · rw [GRPCCall.writes]
    show GRXWriterState.finished.writes + c.pending.count _ + (c.callQueue ++ [_]).countP _ ≤ 1
    have hfinished : GRXWriterState.finished.writes + c.pending.count Handler.sendMessage.tag +
        c.callQueue.countP CallBlock.isWrite ≤ 1 := hwrites
    simpa [CallBlock.isWrite, List.countP_append] using hfinished
  · rw [GRPCCall.closes]
    show accepted.count _ + (c.callQueue ++ [_]).count _ ≤ 1
    simp
    omega
  · exact fun hno => absurd rfl hno

private theorem Tokens.deallocated (h : Tokens accepted c) :
    Tokens accepted ({ c with deallocated := true }.enqueue .releaseWrappedCall) := by
  have hreads := h.reads
  have hwrites := h.writes
  have hcloses := h.closes
  constructor
  · exact h.call
  · exact h.handled
  · intro hno
    obtain ⟨haccepted, hblocks, hwriter⟩ := h.unstarted hno
    refine ⟨haccepted, ?_, hwriter⟩
    intro b hb
    rcases List.mem_append.mp hb with hb | hb
    · exact hblocks b hb
    · rw [List.mem_singleton.mp hb]
      rfl
  · exact h.begun
  · rw [GRPCCall.reads] at hreads ⊢
    show c.pending.count _ + c.pending.count _ + (c.callQueue ++ [_]).count _ +
      c.queuedValues.length ≤ 1
    simpa using hreads
  · rw [GRPCCall.writes] at hwrites ⊢
    show c.requestWriter.writes + c.pending.count _ + (c.callQueue ++ [_]).countP _ ≤ 1
    simpa [CallBlock.isWrite, List.countP_append] using hwrites
  · rw [GRPCCall.closes] at hcloses ⊢
    show accepted.count _ + (c.callQueue ++ [_]).count _ ≤ 1
    simpa using hcloses
  · intro hno
    have hnone := h.notClosed hno
    rw [GRPCCall.closes] at hnone ⊢
    show accepted.count _ + (c.callQueue ++ [_]).count _ = 0
    simpa using hnone

theorem Tokens.notStarted_of_start (h : Tokens accepted c) {headers : List Metadata}
    (hok : (c.wrappedCall.startBatch (GRPCOperation.sendMetadata headers).batch
      Handler.sendMetadata.tag).2 = .ok) : c.started = false := by
  cases hs : c.started with
  | false => rfl
  | true =>
      obtain ⟨_, hempty⟩ :=
        (h.call.startBatch_ok_iff (.sendMetadata headers)).mp hok
      have hfree := hempty ⟨.sendInitialMetadata, 0, .sendMetadata headers⟩
        (by simp [GRPCOperation.requests])
      exact absurd hfree (h.call.used .sendInitialMetadata rfl (h.begun hs))

theorem step_tokens {e : ClientEvent} (h : Tokens accepted c)
    (hstep : c.step decompress parse e = .ok c') : ∃ accepted', Tokens accepted' c' := by
  cases step_cases decompress parse hstep with
  | started headers c₁ c₂ c₃ _ h₁ h₂ h₃ =>
      have hs := h.notStarted_of_start (startBatch_ok.mp h₁).1
      exact ⟨_, h.start hs h₁ h₂ h₃⟩
  | valueWritten value hw => exact ⟨_, h.valueWritten hw value⟩
  | writesFailed => exact ⟨_, (h.withFinished.finishWithError _).cancelCall⟩
  | writesEnded hw => exact ⟨_, h.writesEnded hw⟩
  | batch block rest operation _ hq hop _ hstart => exact ⟨_, h.batch hq hop hstart⟩
  | skipped block rest operation hq => exact ⟨_, h.withQueue hq⟩
  | destroyed rest _ hq hdestroy =>
      obtain ⟨call, hcall, rfl⟩ := onCore_ok.mp hdestroy
      exact ⟨_, (h.withQueue hq).withCall (e := .destroy) trivial rfl hcall⟩
  | handled outOfMemory completion rest _ hq hhandler => exact ⟨_, h.handles hq hhandler⟩
  | ran w block rest _ hw hq hruns => exact ⟨_, h.runs hw hq hruns⟩
  | sent success _ hcore =>
      obtain ⟨call, hcall, rfl⟩ := onCore_ok.mp hcore
      exact ⟨_, h.withCall (e := .onDoneSend success) trivial rfl hcall⟩
  | received success ops state _ hcore =>
      obtain ⟨call, hcall, rfl⟩ := onCore_ok.mp hcore
      exact ⟨_, h.withCall (e := .onDoneRecv success ops state) trivial rfl hcall⟩
  | cancelled => exact ⟨_, (h.finishWithError _).cancelCall⟩
  | released => exact ⟨_, h.congr rfl rfl rfl rfl rfl rfl⟩
  | deallocated => exact ⟨_, h.deallocated⟩

end Steps

theorem initWithHost_tokens (maxMessageLength : UInt32) (channelMetadata : List Metadata) :
    Tokens [] (initWithHost maxMessageLength channelMetadata : GRPCCall ρ) := by
  have hcall := create_oneByOne maxMessageLength channelMetadata false
  have hnone : pendingTags (create true maxMessageLength channelMetadata false) 0 = 0 := by
    have hall := hcall.accepted_eq 0
    rw [List.take_zero, List.map_nil, Multiset.coe_nil, zero_add] at hall
    exact hall.symm
  have hpending : (initWithHost maxMessageLength channelMetadata : GRPCCall ρ).pending = 0 := hnone
  constructor
  · exact hcall
  · exact Nat.zero_le _
  · exact fun _ => ⟨rfl, fun _ hb => absurd hb List.not_mem_nil, by simp [initWithHost],
      by simp [initWithHost]⟩
  · exact fun hno => absurd hno Bool.false_ne_true
  · rw [GRPCCall.reads, hpending]
    exact Nat.zero_le _
  · rw [GRPCCall.writes, hpending]
    exact Nat.zero_le _
  · exact Nat.zero_le _
  · exact fun _ => rfl

/-- The block that releases the core's call is enqueued when the call object goes, and destroys
it once. -/
def ReleasedOnce (c : GRPCCall ρ) : Prop :=
  c.callQueue.count .releaseWrappedCall + c.wrappedCall.destroyCalled.toNat = c.deallocated.toNat

section Faults

variable {accepted : List Nat} {c c' : GRPCCall ρ}

theorem run_destroyCalled {call call' : GrpcCall} {es : List CallEvent}
    (hclient : call.groups.slot .sendStatus = .done) (hno : .destroy ∉ es)
    (h : EventRun.run GrpcCall.step call es = .ok call') :
    call'.destroyCalled = call.destroyCalled := by
  have hrun := EventRun.run_invariant (P := fun e => e ≠ CallEvent.destroy)
    (I := fun c => c.groups.slot .sendStatus = .done ∧ c.destroyCalled = call.destroyCalled)
    (fun s e s' hs he hstep =>
      ⟨step_done hs.1 hstep, (step_destroyCalled hs.1 he hstep).trans hs.2⟩)
    ⟨hclient, rfl⟩ (fun e he hd => hno (hd ▸ he)) h
  exact hrun.2

private theorem step_destroy {call call' : GrpcCall} (h : call.step .destroy = .ok call') :
    call'.destroyCalled = true := by
  cases GrpcCall.step_cases h with
  | destroyedClosed => exact (unlock_same _).destroyCalled
  | destroyed =>
      rw [(unlock_same _).destroyCalled, (cancel_same _ _ _).destroyCalled,
        (unlock_same _).destroyCalled]
      rfl

private theorem startNextRead_release (c : GRPCCall ρ) :
    c.startNextRead.callQueue.count .releaseWrappedCall =
        c.callQueue.count .releaseWrappedCall ∧
      c.startNextRead.deallocated = c.deallocated := by
  rcases c.startNextRead_cases with hkept | ⟨_, hnext⟩
  · rw [hkept]
    exact ⟨rfl, rfl⟩
  · rw [hnext]
    exact ⟨by simp [enqueue], rfl⟩

private theorem runs_release {w : GRXConcurrentWriteable Bytes} {block : WriteableBlock Bytes}
    (h : Runs parse c w block c') :
    c'.callQueue.count .releaseWrappedCall = c.callQueue.count .releaseWrappedCall ∧
      c'.deallocated = c.deallocated := by
  cases h with
  | parsed => exact startNextRead_release _
  | bad value =>
      obtain ⟨hcount, hd⟩ := startNextRead_release
        (c.withWriteable (w.runBlock (.value value))).badResponse
      rw [hcount, hd]
      unfold badResponse
      split <;> exact ⟨rfl, rfl⟩
  | completed => exact ⟨rfl, rfl⟩
  | cancelled => exact ⟨rfl, rfl⟩
  | silent => exact ⟨rfl, rfl⟩

private theorem handles_release {completion : Completion} {outOfMemory : Bool}
    (h : Handles decompress c completion outOfMemory c') :
    c'.callQueue.count .releaseWrappedCall = c.callQueue.count .releaseWrappedCall ∧
      c'.deallocated = c.deallocated := by
  cases h with
  | headers => exact ⟨by simp [enqueue, headersSet], rfl⟩
  | _ => exact ⟨rfl, rfl⟩

private theorem step_releasedOnce {e : ClientEvent} (htokens : Tokens accepted c)
    (h : ReleasedOnce c) (hstep : c.step decompress parse e = .ok c') : ReleasedOnce c' := by
  have hcore := step_core decompress parse hstep
  -- what neither releases nor destroys the call
  have hkept : .destroy ∉ coreEvents c e →
      c'.callQueue.count .releaseWrappedCall = c.callQueue.count .releaseWrappedCall ∧
        c'.deallocated = c.deallocated → ReleasedOnce c' := by
    rintro hno ⟨hcount, hd⟩
    rw [ReleasedOnce, hcount, hd, run_destroyCalled htokens.call.client hno hcore]
    exact h
  cases step_cases decompress parse hstep with
  | started headers c₁ c₂ c₃ _ h₁ h₂ h₃ =>
      obtain ⟨_, rfl⟩ := startBatch_ok.mp h₁
      obtain ⟨_, rfl⟩ := startBatch_ok.mp h₂
      obtain ⟨_, rfl⟩ := startBatch_ok.mp h₃
      exact hkept (by simp [coreEvents, batchEvent]) ⟨rfl, rfl⟩
  | valueWritten => exact hkept (by simp [coreEvents]) ⟨by simp [enqueue, withWriter], rfl⟩
  | writesFailed => exact hkept (by simp [coreEvents, cancelEvent]) ⟨rfl, rfl⟩
  | writesEnded => exact hkept (by simp [coreEvents]) ⟨by simp [enqueue, withWriter], rfl⟩
  | batch block rest operation _ hq hop hd hstart =>
      obtain ⟨_, rfl⟩ := startBatch_ok.mp hstart
      have hblock : block ≠ .releaseWrappedCall := by
        rintro rfl
        simp [CallBlock.operation] at hop
      refine hkept (by simp [coreEvents, hq, hop, hd, batchEvent]) ⟨?_, rfl⟩
      rw [hq, List.count_cons_of_ne hblock]
      rfl
  | skipped block rest operation hq hop hd =>
      have hblock : block ≠ .releaseWrappedCall := by
        rintro rfl
        simp [CallBlock.operation] at hop
      refine hkept (by simp [coreEvents, hq, hop, hd]) ⟨?_, rfl⟩
      rw [hq, List.count_cons_of_ne hblock]
      rfl
  | destroyed rest _ hq hdestroy =>
      obtain ⟨call, hcall, rfl⟩ := onCore_ok.mp hdestroy
      rw [ReleasedOnce, hq, List.count_cons_self] at h
      have hbefore : c.wrappedCall.destroyCalled = false := by
        cases hd : c.wrappedCall.destroyCalled with
        | false => rfl
        | true =>
            rw [hd] at h
            have hbound := Bool.toNat_le c.deallocated
            simp only [Bool.toNat_true] at h
            omega
      have hafter := step_destroy hcall
      rw [hbefore] at h
      show rest.count _ + call.destroyCalled.toNat = c.deallocated.toNat
      rw [hafter]
      simpa using h
  | handled outOfMemory completion rest _ hq hhandler =>
      refine hkept ?_ (handles_release (c := c.counted) hhandler)
      simp only [coreEvents, hq]
      split <;> simp [cancelEvent]
  | ran w block rest _ hw hq hruns => exact hkept (by simp [coreEvents]) (runs_release hruns)
  | sent success _ hsent =>
      obtain ⟨call, _, rfl⟩ := onCore_ok.mp hsent
      exact hkept (by simp [coreEvents]) ⟨rfl, rfl⟩
  | received success ops state _ hreceived =>
      obtain ⟨call, _, rfl⟩ := onCore_ok.mp hreceived
      exact hkept (by simp [coreEvents]) ⟨rfl, rfl⟩
  | cancelled => exact hkept (by simp [coreEvents, cancelEvent]) ⟨rfl, rfl⟩
  | released => exact h
  | deallocated _ hd =>
      rw [ReleasedOnce, hd] at h
      show (c.callQueue ++ [_]).count _ + c.wrappedCall.destroyCalled.toNat = true.toNat
      rw [List.count_append, List.count_singleton_self]
      simp only [Bool.toNat_false, Bool.toNat_true] at h ⊢
      omega

private theorem startBatch_error {operation : GRPCOperation} {fault : ClientFault}
    (h : c.startBatch operation = .error fault) :
    (c.wrappedCall.startBatch operation.batch operation.handler.tag).2 ≠ .ok ∧
      fault = .raised .internalInconsistencyException := by
  unfold startBatch at h
  generalize c.wrappedCall.startBatch operation.batch operation.handler.tag = r at h
  rcases r with ⟨call, e⟩
  cases e <;> simp at h ⊢
  all_goals exact h.symm

private theorem Tokens.start_ok (h : Tokens accepted c) (hs : c.started = false)
    {headers : List Metadata} (hlegal : headers.all Metadata.isLegal = true) :
    ∃ c', c.startWithWriteable headers = .ok c' := by
  have hcall : OneByOne [] c.begun.wrappedCall := (h.unstarted hs).1 ▸ h.call
  have hok₁ : (c.begun.wrappedCall.startBatch (GRPCOperation.sendMetadata headers).batch
      (GRPCOperation.sendMetadata headers).handler.tag).2 = .ok :=
    hcall.startBatch_of_free hlegal (Or.inl List.not_mem_nil)
  have h₁ : c.begun.startBatch (.sendMetadata headers) = .ok _ := startBatch_ok.mpr ⟨hok₁, rfl⟩
  obtain ⟨call₁, hc₁, hcall₁, _, hhandled₁⟩ := startBatch_started hcall h.handled h₁
  have hok₂ : (call₁.startBatch GRPCOperation.recvMetadata.batch
      GRPCOperation.recvMetadata.handler.tag).2 = .ok :=
    hcall₁.startBatch_of_free rfl (Or.inl (by simp [GRPCOperation.handler, Handler.tag]))
  have h₂ : (c.begun.withCall call₁).startBatch .recvMetadata = .ok _ :=
    startBatch_ok.mpr ⟨hok₂, rfl⟩
  obtain ⟨call₂, hc₂, hcall₂, _, _⟩ := startBatch_started hcall₁ hhandled₁ h₂
  have hok₃ : (call₂.startBatch GRPCOperation.recvStatus.batch
      GRPCOperation.recvStatus.handler.tag).2 = .ok :=
    hcall₂.startBatch_of_free rfl (Or.inl (by simp [GRPCOperation.handler, Handler.tag]))
  have h₃ : ((c.begun.withCall call₁).withCall call₂).startBatch .recvStatus = .ok _ :=
    startBatch_ok.mpr ⟨hok₃, rfl⟩
  rw [hc₁] at h₁
  rw [hc₂] at h₂
  have hbegun : c.startWithWriteable headers =
      (c.begun.startBatch (.sendMetadata headers) >>= fun c => c.startBatch .recvMetadata >>=
        fun c => c.startBatch .recvStatus >>= fun c =>
          .ok { c with requestWriter := c.requestWriter.start }) := rfl
  rw [hbegun]
  exact ⟨_, bind_eq_ok.mpr ⟨_, h₁, bind_eq_ok.mpr ⟨_, h₂, bind_eq_ok.mpr ⟨_, h₃, rfl⟩⟩⟩⟩

theorem Tokens.block_free (h : Tokens accepted c) {block : CallBlock} {rest : List CallBlock}
    {operation : GRPCOperation} (hq : c.callQueue = block :: rest)
    (hop : block.operation = some operation) :
    (c.wrappedCall.startBatch operation.batch operation.handler.tag).2 = .ok := by
  have hidle : ∀ handler : Handler, c.pending.count handler.tag = 0 →
      handler.tag ∉ c.wrappedCall.outstanding := by
    intro handler hcount hmem
    have hnone := Multiset.count_eq_zero.mp hcount
    exact hnone (Multiset.mem_add.mpr (Or.inr hmem))
  have hreads := h.reads
  have hwrites := h.writes
  have hcloses := h.closes
  rw [GRPCCall.reads, hq] at hreads
  rw [GRPCCall.writes, hq] at hwrites
  rw [GRPCCall.closes, hq] at hcloses
  cases block with
  | startRead =>
      cases hop
      rw [List.count_cons_self] at hreads
      have hnone : c.pending.count Handler.recvMessage.tag = 0 := by omega
      exact h.call.startBatch_of_free rfl (Or.inr ⟨Or.inl rfl, hidle _ hnone⟩)
  | writeMessage message =>
      cases hop
      rw [List.countP_cons_of_pos rfl] at hwrites
      have hnone : c.pending.count Handler.sendMessage.tag = 0 := by omega
      exact h.call.startBatch_of_free rfl (Or.inr ⟨Or.inr rfl, hidle _ hnone⟩)
  | finishRequest =>
      cases hop
      apply h.call.startBatch_of_free rfl (Or.inl _)
      intro hmem
      have hcount := List.count_pos_iff.mpr hmem
      rw [List.count_cons_self] at hcloses
      have hcount' : 0 < accepted.count Handler.sendClose.tag := hcount
      omega
  | releaseWrappedCall => cases hop

private theorem start_eq (c : GRPCCall ρ) (headers : List Metadata) :
    c.startWithWriteable headers =
      (c.begun.startBatch (.sendMetadata headers) >>= fun c => c.startBatch .recvMetadata >>=
        fun c => c.startBatch .recvStatus >>= fun c =>
          .ok (c.withWriter c.requestWriter.start)) := rfl

private theorem start_error {headers : List Metadata} {fault : ClientFault}
    (h : c.startWithWriteable headers = .error fault) :
    fault = .raised .internalInconsistencyException := by
  rw [start_eq] at h
  cases h₁ : c.begun.startBatch (.sendMetadata headers) with
  | error f =>
      rw [h₁] at h
      cases h
      exact (startBatch_error h₁).2
  | ok c₁ =>
      rw [h₁] at h
      cases h₂ : c₁.startBatch .recvMetadata with
      | error f =>
          simp only [bind, Except.bind, h₂] at h
          cases h
          exact (startBatch_error h₂).2
      | ok c₂ =>
          cases h₃ : c₂.startBatch .recvStatus with
          | error f =>
              simp only [bind, Except.bind, h₂, h₃] at h
              cases h
              exact (startBatch_error h₃).2
          | ok c₃ =>
              simp only [bind, Except.bind, h₂, h₃] at h
              cases h

private theorem Tokens.start_raised_iff (h : Tokens accepted c) (headers : List Metadata)
    (exception : NSException) :
    c.startWithWriteable headers = .error (.raised exception) ↔
      exception = .internalInconsistencyException ∧
        (c.started = true ∨ headers.all Metadata.isLegal = false) := by
  constructor
  · intro hraised
    cases start_error hraised
    refine ⟨rfl, ?_⟩
    by_contra hno
    rw [not_or] at hno
    obtain ⟨c', hok⟩ := h.start_ok (by simpa using hno.1) (by simpa using hno.2)
    rw [hok] at hraised
    cases hraised
  · rintro ⟨rfl, hwhy⟩
    cases hstart : c.startWithWriteable headers with
    | error fault => rw [start_error hstart]
    | ok c' =>
        rw [start_eq] at hstart
        obtain ⟨c₁, h₁, _⟩ := bind_eq_ok.mp hstart
        have hok := (startBatch_ok.mp h₁).1
        have hs := h.notStarted_of_start hok
        obtain ⟨hlegal, _⟩ := (h.call.startBatch_ok_iff (.sendMetadata headers)).mp hok
        rcases hwhy with hwhy | hwhy
        · simp [hs] at hwhy
        · have hall : headers.all Metadata.isLegal = true := hlegal
          rw [hall] at hwhy
          cases hwhy

private theorem onCore_error {e : CallEvent} {fault : ClientFault} (h : c.onCore e = .error fault) :
    ∃ why, c.wrappedCall.step e = .error why ∧
      fault = match why with
        | .assertion => .aborted
        | .notInFlight => .notEnabled := by
  unfold onCore at h
  cases hs : c.wrappedCall.step e with
  | ok call => simp [hs] at h
  | error why =>
      refine ⟨why, rfl, ?_⟩
      cases why <;> simp [hs] at h <;> exact h.symm

private theorem ReleasedOnce.destroy_ok (h : ReleasedOnce c) {rest : List CallBlock}
    (hq : c.callQueue = .releaseWrappedCall :: rest) :
    ∃ call, c.wrappedCall.step .destroy = .ok call := by
  rw [ReleasedOnce, hq, List.count_cons_self] at h
  have hbound := Bool.toNat_le c.deallocated
  have hd : c.wrappedCall.destroyCalled = false := by
    cases hd : c.wrappedCall.destroyCalled with
    | false => rfl
    | true =>
        rw [hd, Bool.toNat_true] at h
        omega
  simp only [GrpcCall.step, destroy, hd, Bool.false_eq_true, if_false]
  split
  · exact ⟨_, rfl⟩
  · exact ⟨_, rfl⟩

private theorem callQueue_ok (htokens : Tokens accepted c) (h : ReleasedOnce c)
    (hne : c.callQueue ≠ []) : ∃ c', c.step decompress parse .callQueue = .ok c' := by
  cases hq : c.callQueue with
  | nil => exact absurd hq hne
  | cons block rest =>
      have hbatch : ∀ operation, block.operation = some operation → ∃ c' : GRPCCall ρ,
          (if c.deallocated then .ok (c.withQueue rest)
            else (c.withQueue rest).startBatch operation) = Except.ok c' := by
        intro operation hop
        split
        · exact ⟨_, rfl⟩
        · have hfree := htokens.block_free hq hop
          exact ⟨_, startBatch_ok.mpr ⟨hfree, rfl⟩⟩
      simp only [step, hq]
      cases block with
      | startRead => exact hbatch _ rfl
      | writeMessage message => exact hbatch _ rfl
      | finishRequest => exact hbatch _ rfl
      | releaseWrappedCall =>
          obtain ⟨call, hcall⟩ := h.destroy_ok hq
          exact ⟨(c.withQueue rest).withCall call, onCore_ok.mpr ⟨call, hcall, rfl⟩⟩

theorem step_error {e : ClientEvent} {fault : ClientFault} (htokens : Tokens accepted c)
    (h : ReleasedOnce c) (hstep : c.step decompress parse e = .error fault) :
    fault = .notEnabled ∨
      (∃ headers, e = .startWithWriteable headers ∧ c.retained = true ∧
        c.startWithWriteable headers = .error fault) ∨
      fault = .aborted ∧ ∃ success ops state, e = .doneRecv success ops state := by
  cases e with
  | startWithWriteable headers =>
      simp only [step] at hstep
      split at hstep
      · next hretained => exact Or.inr (Or.inl ⟨headers, rfl, hretained, hstep⟩)
      · cases hstep
        exact Or.inl rfl
  | callQueue =>
      by_cases hq : c.callQueue = []
      · simp only [step, hq] at hstep
        cases hstep
        exact Or.inl rfl
      · obtain ⟨c', hok⟩ :=
          @callQueue_ok ρ decompress parse accepted c htokens h hq
        rw [hok] at hstep
        cases hstep
  | doneSend success =>
      obtain ⟨why, hwhy, hfault⟩ := onCore_error hstep
      have hcore : why = .notInFlight := by
        simp only [GrpcCall.step, callOnDoneSend] at hwhy
        split at hwhy <;> cases hwhy
        rfl
      subst hcore
      exact Or.inl hfault
  | doneRecv success ops state =>
      obtain ⟨why, _, hfault⟩ := onCore_error hstep
      cases why with
      | assertion => exact Or.inr (Or.inr ⟨hfault, success, ops, state, rfl⟩)
      | notInFlight => exact Or.inl hfault
  | _ =>
      simp only [step] at hstep
      left
      repeat' split at hstep
      all_goals cases hstep
      all_goals rfl

/-- In every run the call object starts its call's batches one at a time, as the core asks for, so
that the core accepts every one of them: an event raises only if a call is started a second time or
with headers that are not legal, and nothing but what the transport brings lets an assertion of the
core fail. -/
theorem raised_iff {maxMessageLength : UInt32} {channelMetadata : List Metadata}
    {events : List ClientEvent} {c : GRPCCall ρ}
    (h : EventRun.run (step decompress parse) (initWithHost maxMessageLength channelMetadata)
      events = .ok c) (e : ClientEvent) :
    (∀ exception, c.step decompress parse e = .error (.raised exception) ↔
      exception = .internalInconsistencyException ∧ c.retained = true ∧
        ∃ headers, e = .startWithWriteable headers ∧
          (c.started = true ∨ headers.all Metadata.isLegal = false)) ∧
      (c.step decompress parse e = .error .aborted →
        ∃ success ops state, e = .doneRecv success ops state) := by
  have hrun := EventRun.run_invariant (P := fun _ => True)
    (I := fun c : GRPCCall ρ => (∃ accepted, Tokens accepted c) ∧ ReleasedOnce c)
    (fun s e s' hs _ he => by
      obtain ⟨⟨accepted, htokens⟩, hreleased⟩ := hs
      exact ⟨step_tokens htokens he, step_releasedOnce htokens hreleased he⟩)
    ⟨⟨_, initWithHost_tokens maxMessageLength channelMetadata⟩, rfl⟩ (fun _ _ => trivial) h
  obtain ⟨⟨accepted, htokens⟩, hreleased⟩ := hrun
  constructor
  · intro exception
    constructor
    · intro hraised
      rcases step_error htokens hreleased hraised with
        hfault | ⟨headers, rfl, hretained, hstart⟩ | ⟨hfault, _⟩
      · cases hfault
      · obtain ⟨hexception, hwhy⟩ := (htokens.start_raised_iff headers exception).mp hstart
        exact ⟨hexception, hretained, headers, rfl, hwhy⟩
      · cases hfault
    · rintro ⟨hexception, hretained, headers, rfl, hwhy⟩
      simp only [step, hretained, if_true]
      exact (htokens.start_raised_iff headers exception).mpr ⟨hexception, hwhy⟩
  · intro haborted
    rcases step_error htokens hreleased haborted with hfault | ⟨headers, _, _, hstart⟩ | ⟨_, hwhat⟩
    · cases hfault
    · cases start_error hstart
    · exact hwhat

/-- The call was started, and to start it once more raises. -/
theorem raised_session : ∃ c : GRPCCall Bytes,
    EventRun.run (step joinSlices some) (initWithHost 1000 []) session = .ok c ∧
      c.step joinSlices some (.startWithWriteable []) =
        .error (.raised .internalInconsistencyException) := by
  obtain ⟨c, h, hstarted⟩ := EventRun.exists_ok_of_any
    (r := EventRun.run (step joinSlices some) (initWithHost 1000 [] : GRPCCall Bytes) session)
    (p := fun c => c.retained && c.started) (by decide)
  rw [Bool.and_eq_true] at hstarted
  obtain ⟨hraised, _⟩ := raised_iff h (.startWithWriteable [])
  exact ⟨c, h, (hraised _).mpr ⟨rfl, hstarted.1, [], rfl, Or.inl hstarted.2⟩⟩

end Faults

end GRPCCall

end CrowdSound.Client
