import CrowdSound.Client.Finishes

/-!
# The next read

As long as a started call holds on to itself, one read is on its way, until one is told that nothing
follows.
-/

namespace CrowdSound.Client

open CrowdSound.Core CrowdSound.Core.GrpcCall

/-- After this completion nothing is read: the headers failed, or no message followed. -/
def readEnds (completion : Completion) : Bool :=
  completion.tag = Handler.recvMetadata.tag && !completion.success ||
    completion.tag = Handler.recvMessage.tag && (readMessage completion).isNone

namespace GRPCCall

variable {ρ : Type} {decompress : CompressionAlgorithm → List Bytes → Bytes}
  {parse : Bytes → Option ρ}

def readingEnded (c : GRPCCall ρ) : Bool :=
  (c.wrappedCall.cq.take c.handled).any readEnds

def KeepsReading (c : GRPCCall ρ) : Prop :=
  c.started = true → c.retainSelf = true → 1 ≤ c.reads ∨ c.readingEnded = true

section Steps

variable {accepted : List Nat} {c c' : GRPCCall ρ}

private theorem keepsReading_of_released (hself : c.retainSelf = false) : KeepsReading c :=
  fun _ hr => by simp [hself] at hr

private theorem KeepsReading.of_reads (h : KeepsReading c) (htokens : Tokens accepted c)
    (hcq : c.wrappedCall.cq <+: c'.wrappedCall.cq) (hhandled : c'.handled = c.handled)
    (hstarted : c'.started = c.started) (hself : c'.retainSelf = c.retainSelf)
    (hreads : c.reads ≤ c'.reads) : KeepsReading c' := by
  intro hs hr
  rcases h (hstarted ▸ hs) (hself ▸ hr) with hone | hended
  · exact Or.inl (hone.trans hreads)
  · right
    rw [readingEnded, hhandled, take_handled hcq htokens.handled]
    exact hended

private theorem reads_withCall {call : GrpcCall} {e : CallEvent} (htokens : Tokens accepted c)
    (he : IsOperation e) (hstep : c.wrappedCall.step e = .ok call) :
    c.reads ≤ (c.withCall call).reads := by
  have hpending := (htokens.call.pending_step he hstep htokens.handled).1
  have hnext : (c.withCall call).pending = c.pending + c.wrappedCall.acceptedBatches e := hpending
  rw [reads, reads, hnext, Multiset.count_add, Multiset.count_add]
  show _ ≤ _ + c.callQueue.count .startRead + c.queuedValues.length
  omega

private theorem reads_enqueue (c : GRPCCall ρ) : (c.enqueue .startRead).reads = c.reads + 1 := by
  have hcount : (c.enqueue .startRead).callQueue.count .startRead =
      c.callQueue.count .startRead + 1 := by simp [enqueue]
  rw [reads, hcount, reads]
  show c.pending.count _ + c.pending.count _ + _ + c.queuedValues.length = _
  omega

private theorem startNextRead_reads (hd : c.deallocated = false) :
    c.startNextRead.reads = c.reads + 1 := by
  rw [startNextRead, if_neg (by simp [hd])]
  exact reads_enqueue c

private theorem KeepsReading.handles (h : KeepsReading c) (hreleases : Releases c)
    {completion : Completion} {rest : List Completion} {outOfMemory : Bool}
    (hq : c.wrappedCall.cq.drop c.handled = completion :: rest)
    (hhandler : Handles decompress c.counted completion outOfMemory c') : KeepsReading c' := by
  have htake := take_counted hq
  have hended : ∀ c₁ : GRPCCall ρ, c₁.wrappedCall = c.wrappedCall → c₁.handled = c.handled + 1 →
      c₁.readingEnded = (c.readingEnded || readEnds completion) := by
    intro c₁ hcall hhandled
    rw [readingEnded, hcall, hhandled, htake, List.any_append, List.any_cons, List.any_nil,
      Bool.or_false]
    rfl
  have hkept : ∀ c₁ : GRPCCall ρ, c₁.wrappedCall = c.wrappedCall → c₁.handled = c.handled + 1 →
      c₁.started = c.started → c₁.retainSelf = c.retainSelf → c.reads ≤ c₁.reads →
      KeepsReading c₁ := by
    intro c₁ hcall hhandled hstarted hself hreads hs hr
    rcases h (hstarted ▸ hs) (hself ▸ hr) with hone | hbefore
    · exact Or.inl (hone.trans hreads)
    · right
      rw [hended c₁ hcall hhandled, hbefore, Bool.true_or]
  have hother : completion.tag ≠ Handler.recvMetadata.tag →
      completion.tag ≠ Handler.recvMessage.tag → c.counted.reads = c.reads := by
    intro hmetadata hmessage
    have hrest : c.counted.reads = c.counted.pending.count Handler.recvMetadata.tag +
        c.counted.pending.count Handler.recvMessage.tag + c.callQueue.count .startRead +
          c.queuedValues.length := rfl
    rw [hrest, reads, counted_pending hq, Multiset.count_cons_of_ne hmetadata.symm,
      Multiset.count_cons_of_ne hmessage.symm]
  cases hhandler with
  | headers _ htag _ =>
      refine hkept _ rfl rfl rfl rfl ?_
      rw [reads_enqueue, counted_reads hq (Or.inl htag)]
      exact Nat.le_refl _
  | status => exact keepsReading_of_released rfl
  | value message _ _ hmessage =>
      intro hs hr
      have hs' : c.started = true := by simpa [started, valueEnqueued, counted] using hs
      obtain ⟨w, hw⟩ := Option.isSome_iff_exists.mp hs'
      have hcw : c.counted.responseWriteable = some w := hw
      refine hkept (c.counted.valueEnqueued (dataWithByteBuffer decompress message)) rfl rfl ?_ rfl
        ?_ hs hr
      · rw [hs', hs]
      · rw [counted_reads hq (Or.inr (readMessage_some hmessage)), valueEnqueued_eq hcw, reads,
          reads]
        show _ + _ + c.callQueue.count _ + (c.counted.queuedValues).length + 1 ≤
          _ + _ + c.callQueue.count _ + ((w.enqueueValue _).writeableQueue.filterMap valueOf).length
        rw [queuedValues, hcw, GRXConcurrentWriteable.enqueueValue, List.filterMap_append,
          List.length_append]
        exact Nat.le_refl _
  | noMemory => exact keepsReading_of_released rfl
  | resumed _ htag =>
      refine hkept _ rfl rfl rfl rfl ?_
      have hsame := hother (by rw [htag]; decide) (by rw [htag]; decide)
      rw [← hsame]
      exact Nat.le_refl _
  | failed => exact keepsReading_of_released rfl
  | ignored hmessage htag =>
      cases hd : c.deallocated with
      | true => exact keepsReading_of_released (hreleases.gone hd).2
      | false =>
          have hd' : ¬ c.counted.deallocated = true := by
            rw [Bool.not_eq_true]
            exact hd
          have hnone := hmessage.resolve_left hd'
          have hquiet := htag.resolve_left hd'
          by_cases hends : readEnds completion = true
          · intro _ _
            right
            rw [hended c.counted rfl rfl, hends, Bool.or_true]
          · apply hkept c.counted rfl rfl rfl rfl
            have hsame : c.counted.reads = c.reads := by
              apply hother
              · intro hmetadata
                have hfailed : completion.success = false :=
                  hquiet.resolve_right fun hno => hno.1 hmetadata
                exact hends (by simp [readEnds, hmetadata, hfailed])
              · intro hread
                exact hends (by simp [readEnds, hread, hnone])
            exact le_of_eq hsame.symm

private theorem KeepsReading.runs (h : KeepsReading c) (htokens : Tokens accepted c)
    (hreleases : Releases c) {w : GRXConcurrentWriteable Bytes} {block : WriteableBlock Bytes}
    {rest : List (WriteableBlock Bytes)} (hw : c.responseWriteable = some w)
    (hq : w.writeableQueue = block :: rest)
    (hruns : Runs parse c { w with writeableQueue := rest } block c') : KeepsReading c' := by
  have hstarted : c.started = true := by simp [started, hw]
  have hqueued : c.queuedValues = (block :: rest).filterMap valueOf := by
    simp [queuedValues, hw, hq]
  have hcq : c.wrappedCall.cq <+: c'.wrappedCall.cq := by
    rw [(runMainBlock_kept parse hruns).1]
  have hhandled := (runMainBlock_kept parse hruns).2
  obtain ⟨_, w', hw', _⟩ := hruns.fewer
  have hstarted' : c'.started = c.started := by simp [started, hw, hw']
  -- the block has left the queue
  have hran : (c.withWriteable (GRXConcurrentWriteable.runBlock
      { w with writeableQueue := rest } block)).reads + (valueOf block).toList.length =
        c.reads := by
    rw [reads, reads, hqueued]
    show c.pending.count _ + c.pending.count _ + c.callQueue.count _ +
      ((GRXConcurrentWriteable.runBlock { w with writeableQueue := rest }
        block).writeableQueue.filterMap valueOf).length + _ = _
    rw [runBlock_queue]
    cases hvalue : valueOf block with
    | none => simp [hvalue]
    | some value =>
        simp [hvalue]
        omega
  cases hruns with
  | parsed value response _ _ =>
      have hself := startNextRead_retainSelf ((c.withWriteable (GRXConcurrentWriteable.runBlock
        { w with writeableQueue := rest } (.value value))).responded (.writeValue response))
      cases hd : c.deallocated with
      | true => exact keepsReading_of_released (hself.trans (hreleases.gone hd).2)
      | false =>
          refine h.of_reads htokens hcq hhandled hstarted' hself ?_
          rw [startNextRead_reads, ← hran]
          · exact Nat.le_refl _
          · exact hd
  | bad value =>
      apply keepsReading_of_released
      rw [startNextRead_retainSelf]
      unfold badResponse
      split
      · next hd => exact (hreleases.gone hd).2
      · rfl
  | completed =>
      exact h.of_reads htokens hcq hhandled hstarted' rfl (le_of_eq hran.symm)
  | cancelled =>
      exact h.of_reads htokens hcq hhandled hstarted' rfl (le_of_eq hran.symm)
  | silent _ _ hvalue =>
      cases hblock : valueOf block with
      | none =>
          rw [hblock] at hran
          exact h.of_reads htokens hcq hhandled hstarted' rfl (le_of_eq hran.symm)
      | some value =>
          -- a value that is not written comes after the writeable was taken away
          have hgone : w.writeable = false := by
            cases block with
            | value value' => exact hvalue value' rfl
            | _ => cases hblock
          have hfinishing := hreleases.finishing w hw
          have hfinished : w.alreadyFinished = true := by
            have hlive := hfinishing.ordered.live
            rw [hgone] at hlive
            simpa using hlive.symm
          apply keepsReading_of_released
          have hasked := hfinishing.asked
          rw [finishAsked, hfinished, Bool.true_or, Bool.not_eq_true'] at hasked
          exact hasked

private theorem KeepsReading.batch (h : KeepsReading c) (htokens : Tokens accepted c)
    {block : CallBlock}
    {rest : List CallBlock} {operation : GRPCOperation} (hq : c.callQueue = block :: rest)
    (hop : block.operation = some operation)
    (hstart : (c.withQueue rest).startBatch operation = .ok c') : KeepsReading c' := by
  have hcall : OneByOne accepted (c.withQueue rest).wrappedCall := htokens.call
  have hcq : (c.withQueue rest).wrappedCall.cq <+: c'.wrappedCall.cq := by
    obtain ⟨hok, rfl⟩ := startBatch_ok.mp hstart
    have hstep : (c.withQueue rest).wrappedCall.step (batchEvent operation) =
      .ok ((c.withQueue rest).wrappedCall.startBatch operation.batch operation.handler.tag).1 := rfl
    exact step_cq hcall.client hstep
  obtain ⟨call, rfl, _, hwaits, _⟩ := startBatch_started hcall htokens.handled hstart
  refine h.of_reads htokens hcq rfl rfl rfl ?_
  have hbefore : (c.withQueue rest).pending = c.pending := rfl
  rw [hbefore] at hwaits
  rw [reads, reads, hwaits, hq]
  show _ + _ + _ + c.queuedValues.length ≤ _ + _ + rest.count _ + c.queuedValues.length
  cases block <;> cases hop <;> simp [GRPCOperation.handler, Handler.tag]
  all_goals omega

private theorem KeepsReading.start (htokens : Tokens accepted c) (hs : c.started = false)
    {headers : List Metadata} {c₁ c₂ c₃ : GRPCCall ρ}
    (h₁ : c.begun.startBatch (.sendMetadata headers) = .ok c₁)
    (h₂ : c₁.startBatch .recvMetadata = .ok c₂) (h₃ : c₂.startBatch .recvStatus = .ok c₃) :
    KeepsReading (c₃.withWriter c₃.requestWriter.start) := by
  have hcall : OneByOne [] c.begun.wrappedCall := (htokens.unstarted hs).1 ▸ htokens.call
  obtain ⟨call₁, rfl, hcall₁, hpending₁, hhandled₁⟩ := startBatch_started hcall htokens.handled h₁
  obtain ⟨call₂, rfl, hcall₂, hpending₂, hhandled₂⟩ := startBatch_started hcall₁ hhandled₁ h₂
  obtain ⟨call₃, rfl, _, hpending₃, _⟩ := startBatch_started hcall₂ hhandled₂ h₃
  intro _ _
  left
  have hall : ((c.begun.withCall call₃).withWriter c.requestWriter.start).pending =
      Handler.recvStatus.tag ::ₘ Handler.recvMetadata.tag ::ₘ
        (c.begun.withCall call₁).pending := hpending₃.trans (congrArg _ hpending₂)
  have hasked : Handler.recvMetadata.tag ∈
      ((c.begun.withCall call₃).withWriter c.requestWriter.start).pending := by
    rw [hall]
    exact Multiset.mem_cons_of_mem (Multiset.mem_cons_self _ _)
  have hcount := Multiset.count_pos.mpr hasked
  show 1 ≤ ((c.begun.withCall call₃).withWriter c.requestWriter.start).reads
  rw [reads]
  omega

private theorem step_keepsReading {e : ClientEvent} (htokens : Tokens accepted c)
    (hreleases : Releases c) (h : KeepsReading c) (hstep : c.step decompress parse e = .ok c') :
    KeepsReading c' := by
  have hcq := run_cq htokens.call.client (step_core decompress parse hstep)
  cases step_cases decompress parse hstep with
  | started headers c₁ c₂ c₃ hretained h₁ h₂ h₃ =>
      have hs := htokens.notStarted_of_start (startBatch_ok.mp h₁).1
      exact KeepsReading.start htokens hs h₁ h₂ h₃
  | valueWritten =>
      refine h.of_reads htokens hcq rfl rfl rfl ?_
      simp [reads, enqueue, withWriter, pending, queuedValues]
  | writesFailed => exact keepsReading_of_released rfl
  | writesEnded =>
      refine h.of_reads htokens hcq rfl rfl rfl ?_
      simp [reads, enqueue, withWriter, pending, queuedValues]
  | batch block rest operation _ hq hop hd hstart => exact h.batch htokens hq hop hstart
  | skipped block rest operation hq hop hd =>
      exact keepsReading_of_released (hreleases.gone hd).2
  | destroyed rest _ hq hdestroy =>
      obtain ⟨call, hcall, rfl⟩ := onCore_ok.mp hdestroy
      refine h.of_reads htokens hcq rfl rfl rfl ?_
      have hreads : (c.withQueue rest).reads = c.reads := by
        simp [reads, hq, withQueue, pending, queuedValues]
      rw [← hreads]
      exact reads_withCall (htokens.withQueue hq) (e := .destroy) trivial hcall
  | handled outOfMemory completion rest _ hq hhandler => exact h.handles hreleases hq hhandler
  | ran w block rest _ hw hq hruns => exact h.runs htokens hreleases hw hq hruns
  | sent success _ hcore =>
      obtain ⟨call, hcall, rfl⟩ := onCore_ok.mp hcore
      exact h.of_reads htokens hcq rfl rfl rfl
        (reads_withCall htokens (e := .onDoneSend success) trivial hcall)
  | received success ops state _ hcore =>
      obtain ⟨call, hcall, rfl⟩ := onCore_ok.mp hcore
      exact h.of_reads htokens hcq rfl rfl rfl
        (reads_withCall htokens (e := .onDoneRecv success ops state) trivial hcall)
  | cancelled => exact keepsReading_of_released rfl
  | released => exact h.of_reads htokens hcq rfl rfl rfl (Nat.le_refl _)
  | deallocated hreferenced _ =>
      exact keepsReading_of_released (isReferenced_eq_false.mp hreferenced).2.1

end Steps

/-- In every run, as long as a started call holds on to itself exactly one read is on its way: it
waits for the headers, on the call queue, in the core or, as a response, on the main queue. The one
exception is a call whose last read was told that nothing follows. -/
theorem one_read {maxMessageLength : UInt32} {channelMetadata : List Metadata}
    {events : List ClientEvent} {c : GRPCCall ρ}
    (h : EventRun.run (step decompress parse) (initWithHost maxMessageLength channelMetadata)
      events = .ok c) (hstarted : c.started = true) :
    c.reads ≤ 1 ∧ (c.retainSelf = true → c.reads = 1 ∨ c.readingEnded = true) := by
  have hrun := EventRun.run_invariant (P := fun _ => True)
    (I := fun c : GRPCCall ρ => (∃ accepted, Tokens accepted c) ∧ Releases c ∧ KeepsReading c)
    (fun s e s' hs _ he => by
      obtain ⟨⟨accepted, htokens⟩, hreleases, hreading⟩ := hs
      exact ⟨step_tokens htokens he, step_releases hreleases he,
        step_keepsReading htokens hreleases hreading he⟩)
    ⟨⟨_, initWithHost_tokens maxMessageLength channelMetadata⟩,
      initWithHost_releases maxMessageLength channelMetadata,
      fun hs => absurd hs Bool.false_ne_true⟩
    (fun _ _ => trivial) h
  obtain ⟨⟨accepted, htokens⟩, _, hreading⟩ := hrun
  have hreads := htokens.reads
  refine ⟨hreads, fun hself => ?_⟩
  rcases hreading hstarted hself with hone | hended
  · exact Or.inl (Nat.le_antisymm hreads hone)
  · exact Or.inr hended

theorem one_read_session : ∃ c : GRPCCall Bytes,
    EventRun.run (step joinSlices some) (initWithHost 1000 []) (session.take 18) = .ok c ∧
      c.started = true ∧ c.reads ≤ 1 ∧
        (c.retainSelf = true → c.reads = 1 ∨ c.readingEnded = true) := by
  obtain ⟨c, h, hstarted⟩ := EventRun.exists_ok_of_any
    (r := EventRun.run (step joinSlices some) (initWithHost 1000 [] : GRPCCall Bytes)
      (session.take 18))
    (p := fun c => c.started) (by decide)
  exact ⟨c, h, hstarted, one_read h hstarted⟩

end GRPCCall

end CrowdSound.Client
