import CrowdSound.Core.Framing
import CrowdSound.Core.Settled

/-!
# What a receive brings

As long as no error status is set, the call takes a receive apart as the framing says: it queues
the messages that the stream operations carry and remembers how far it has come.
-/

namespace CrowdSound.Core.GrpcCall

/-- How far the call has come with the message it reads. -/
def assembly (call : GrpcCall) : Assembly where
  algorithm := call.compressionAlgorithm
  flags := call.incomingMessageFlags
  pending :=
    if call.readingMessage then some (call.incomingMessageLength, call.incomingMessage) else none

/-- Neither the application nor the wire has set an error. -/
def Clean (call : GrpcCall) : Prop :=
  (call.status .fromApiOverride).isSet = false ∧
    ∀ source, (call.status source).isSet = true → (call.status source).code = .ok

instance (call : GrpcCall) : Decidable call.Clean := inferInstanceAs (Decidable (_ ∧ _))

/-- An error that stops messages is one of the statuses, and the buffer is empty between
messages. -/
structure Reads (call : GrpcCall) : Prop where
  error : call.errorStatusSet = true →
    ∃ source, (call.status source).isSet = true ∧ (call.status source).code ≠ .ok
  idle : call.readingMessage = false → call.incomingMessage = []

private theorem Reads.noError {call : GrpcCall} (h : call.Reads) (hclean : call.Clean) :
    call.errorStatusSet = false := by
  cases he : call.errorStatusSet with
  | false => rfl
  | true =>
      obtain ⟨source, hset, hcode⟩ := h.error he
      exact absurd (hclean.2 source hset) hcode

theorem setStatusCode_status (call : GrpcCall) (source : StatusSource) (status : StatusCode)
    (source' : StatusSource) :
    (call.setStatusCode source status).status source' =
      if source' = source ∧ (call.status source).isSet = false then
        ⟨true, status, (call.status source).details⟩
      else call.status source' := by
  unfold setStatusCode
  cases hset : (call.status source).isSet with
  | true => simp
  | false =>
      by_cases hs : source' = source
      · subst hs
        simp
      · simp [hs]

theorem setStatusDetails_status (call : GrpcCall) (source : StatusSource)
    (details : Option Bytes) (source' : StatusSource) :
    ((call.setStatusDetails source details).status source').isSet = (call.status source').isSet ∧
      ((call.setStatusDetails source details).status source').code =
        (call.status source').code := by
  by_cases hs : source' = source
  · subst hs
    simp [setStatusDetails]
  · simp [setStatusDetails, hs]

private theorem setStatusCode_reads {call : GrpcCall} (source : StatusSource) (status : StatusCode)
    (h : call.Reads) : (call.setStatusCode source status).Reads := by
  unfold setStatusCode
  split
  · exact h
  · constructor
    · intro he
      refine ⟨source, ?_, ?_⟩
      · simp
      · simpa using he
    · exact h.idle

private theorem setStatusDetails_reads {call : GrpcCall} (source : StatusSource)
    (details : Option Bytes) (h : call.Reads) : (call.setStatusDetails source details).Reads := by
  constructor
  · intro he
    obtain ⟨source', hset, hcode⟩ := h.error he
    have hsame := call.setStatusDetails_status source details source'
    exact ⟨source', hsame.1.trans hset, fun hok => hcode (hsame.2.symm.trans hok)⟩
  · exact h.idle

theorem cancel_reads {call : GrpcCall} (status : StatusCode) (description : Option Bytes)
    (h : call.Reads) : (call.cancel status description).Reads := by
  have h' := setStatusDetails_reads .fromApiOverride description
    (setStatusCode_reads .fromApiOverride status h)
  exact ⟨h'.error, h'.idle⟩

theorem cancel_not_clean (call : GrpcCall) (status : StatusCode) (description : Option Bytes) :
    ¬ (call.cancel status description).Clean := by
  intro hclean
  have hset : ((call.cancel status description).status .fromApiOverride).isSet = true := by
    refine ((setStatusDetails_status _ _ _ _).1).trans ?_
    rw [setStatusCode_status]
    split
    · rfl
    · next h => simpa using h
  exact Bool.false_ne_true (hclean.1.symm.trans hset)

private theorem setStatusDetails_clean {call : GrpcCall} {source : StatusSource}
    {details : Option Bytes} : (call.setStatusDetails source details).Clean ↔ call.Clean := by
  simp only [Clean, fun source' => (call.setStatusDetails_status source details source').1,
    fun source' => (call.setStatusDetails_status source details source').2]

private theorem setStatusCode_clean {call : GrpcCall} {source : StatusSource} {status : StatusCode}
    (h : (call.setStatusCode source status).Clean) :
    call.Clean ∧ (call.setStatusCode source status).incomingQueue = call.incomingQueue := by
  have hkept : ∀ source', (call.status source').isSet = true →
      (call.setStatusCode source status).status source' = call.status source' := by
    intro source' hset
    rw [setStatusCode_status, if_neg]
    rintro ⟨rfl, hnone⟩
    simp [hset] at hnone
  refine ⟨⟨?_, ?_⟩, ?_⟩
  · cases hset : (call.status .fromApiOverride).isSet with
    | false => rfl
    | true =>
        have hapi := h.1
        rw [hkept _ hset, hset] at hapi
        exact hapi
  · intro source' hset
    have hcode := h.2 source'
    rw [hkept _ hset] at hcode
    exact hcode hset
  · cases hset : (call.status source).isSet with
    | true => simp [setStatusCode, hset]
    | false =>
        have hok := h.2 source
        rw [setStatusCode_status, if_pos ⟨rfl, hset⟩] at hok
        simp only [forall_const] at hok
        simp [setStatusCode, hset, hok]

private theorem finishMessage_reads {call : GrpcCall} (h : call.Reads) : call.finishMessage.Reads :=
  ⟨h.error, fun _ => rfl⟩

private theorem finishMessage_queue {call : GrpcCall} (h : call.errorStatusSet = false) :
    call.finishMessage.incomingQueue = call.incomingQueue ++
      [⟨if isCompressed call.incomingMessageFlags then call.compressionAlgorithm else .none,
        call.incomingMessage⟩] := by
  simp [finishMessage, h]

/-- What an operation of a receive did, if the call is clean after it. -/
def Fed (call : GrpcCall) (op : StreamOp) (call' : GrpcCall) : Prop :=
  call.Clean ∧ ∃ out, call.assembly.feed call.maxMessageLength op = some (call'.assembly, out) ∧
    call'.incomingQueue = call.incomingQueue ++ out

private theorem beginMessage_reads {call : GrpcCall} (length flags : UInt32) (h : call.Reads) :
    (call.beginMessage length flags).1.Reads := by
  unfold beginMessage
  split
  · exact cancel_reads _ _ h
  · split
    · exact cancel_reads _ _ h
    · split
      · exact cancel_reads _ _ h
      · split
        · exact ⟨h.error, fun hr => absurd hr (by simp)⟩
        · exact finishMessage_reads h

private theorem beginMessage_fed {call : GrpcCall} {length flags : UInt32} (h : call.Reads)
    (hclean : (call.beginMessage length flags).1.Clean) :
    (call.beginMessage length flags).2 = true ∧
      Fed call (.beginMessage length flags) (call.beginMessage length flags).1 := by
  unfold beginMessage at hclean ⊢
  split at hclean
  · exact absurd hclean (cancel_not_clean _ _ _)
  · next hread =>
      split at hclean
      · exact absurd hclean (cancel_not_clean _ _ _)
      · next hcompressed =>
          split at hclean
          · exact absurd hclean (cancel_not_clean _ _ _)
          · next hmax =>
              have hread' : call.readingMessage = false := by simpa using hread
              have hfeed : call.assembly.feed call.maxMessageLength (.beginMessage length flags) =
                  if length > 0 then
                    some ({ call.assembly with flags := flags, pending := some (length, []) }, [])
                  else some (call.assembly, [call.assembly.message []]) := by
                have hc : (isCompressed flags && decide (call.compressionAlgorithm = .none)) =
                    false := by
                  simpa using hcompressed
                simp only [Assembly.feed, assembly, hread', hc, hmax]
                simp
              rw [if_neg hread, if_neg hcompressed, if_neg hmax]
              split at hclean
              · next hpos =>
                  rw [if_pos hpos]
                  refine ⟨rfl, hclean, [], ?_, by simp⟩
                  rw [hfeed, if_pos hpos]
                  simp [assembly, h.idle hread']
              · next hpos =>
                  rw [if_neg hpos]
                  have hcl : call.Clean := hclean
                  refine ⟨rfl, hcl, _, ?_, finishMessage_queue (h.noError hcl)⟩
                  rw [hfeed, if_neg hpos]
                  simp [assembly, finishMessage, Assembly.message, hread', h.idle hread']

private theorem addSliceToMessage_reads {call : GrpcCall} (slice : Bytes) (h : call.Reads) :
    (call.addSliceToMessage slice).1.Reads := by
  unfold addSliceToMessage
  split
  · exact h
  · split
    · exact cancel_reads _ _ h
    · next hread =>
        have hadd : Reads { call with incomingMessage := call.incomingMessage ++ [slice] } :=
          ⟨h.error, fun hr => absurd hr (by simpa using hread)⟩
        dsimp only
        split
        · exact cancel_reads _ _ hadd
        · split
          · exact finishMessage_reads hadd
          · exact hadd

private theorem addSliceToMessage_fed {call : GrpcCall} {slice : Bytes} (h : call.Reads)
    (hclean : (call.addSliceToMessage slice).1.Clean) :
    (call.addSliceToMessage slice).2 = true ∧
      Fed call (.slice slice) (call.addSliceToMessage slice).1 := by
  unfold addSliceToMessage at hclean ⊢
  split at hclean
  · next hs =>
      rw [if_pos hs]
      exact ⟨rfl, hclean, [], by simp [Assembly.feed, hs], by simp⟩
  · next hs =>
      split at hclean
      · exact absurd hclean (cancel_not_clean _ _ _)
      · next hread =>
          rw [if_neg hs, if_neg hread]
          have hread' : call.readingMessage = true := by simpa using hread
          have hfeed : call.assembly.feed call.maxMessageLength (.slice slice) =
              call.assembly.addSlice call.incomingMessageLength
                (call.incomingMessage ++ [slice]) := by
            simp [Assembly.feed, assembly, hs, hread']
          dsimp only at hclean ⊢
          split at hclean
          · exact absurd hclean (cancel_not_clean _ _ _)
          · next hover =>
              have hover' : ¬ (call.incomingMessage ++ [slice]).flatten.length >
                  call.incomingMessageLength.toNat := hover
              rw [if_neg hover]
              rw [Fed, hfeed, Assembly.addSlice, if_neg hover']
              split at hclean
              · next hlast =>
                  have hlast' : (call.incomingMessage ++ [slice]).flatten.length =
                      call.incomingMessageLength.toNat := hlast
                  have hcl : call.Clean := hclean
                  rw [if_pos hlast, if_pos hlast']
                  refine ⟨rfl, hcl, _, ?_, finishMessage_queue (h.noError hcl)⟩
                  rfl
              · next hlast =>
                  have hlast' : ¬ (call.incomingMessage ++ [slice]).flatten.length =
                      call.incomingMessageLength.toNat := hlast
                  rw [if_neg hlast, if_neg hlast']
                  refine ⟨rfl, hclean, [], ?_, by simp⟩
                  simp [assembly, hread']

/-- What reading metadata did, if the call is clean after it. -/
structure Noted (call call' : GrpcCall) : Prop where
  reads : call.Reads → call'.Reads
  clean : call'.Clean → call.Clean
  queue : call'.Clean → call'.incomingQueue = call.incomingQueue

private theorem Noted.trans {c c' c'' : GrpcCall} (h : Noted c c') (h' : Noted c' c'') :
    Noted c c'' where
  reads hr := h'.reads (h.reads hr)
  clean hc := h.clean (h'.clean hc)
  queue hc := (h'.queue hc).trans (h.queue (h'.clean hc))

private theorem setStatusCode_noted (call : GrpcCall) (source : StatusSource)
    (status : StatusCode) :
    Noted call (call.setStatusCode source status) where
  reads := setStatusCode_reads source status
  clean hc := (setStatusCode_clean hc).1
  queue hc := (setStatusCode_clean hc).2

private theorem setStatusCode_assembly (call : GrpcCall) (source : StatusSource)
    (status : StatusCode) :
    (call.setStatusCode source status).assembly = call.assembly := by
  unfold setStatusCode
  split <;> rfl

private theorem recvMdelem_noted {call call' : GrpcCall} {isTrailing : Bool} {md : Metadata}
    (h : call.recvMdelem isTrailing md = .ok call') :
    Noted call call' ∧ call.assembly.mdelem md = some call'.assembly := by
  -- only the encoding changes what messages are made of
  have hkept : md.key ≠ mdstr "grpc-encoding" → call.assembly.mdelem md = some call.assembly :=
    fun hkey => if_neg hkey
  cases recvMdelem_cases h with
  | status hkey =>
      refine ⟨setStatusCode_noted _ _ _, ?_⟩
      rw [setStatusCode_assembly]
      apply hkept
      rw [hkey]
      decide
  | message hkey =>
      refine ⟨⟨setStatusDetails_reads _ _, setStatusDetails_clean.mp, fun _ => rfl⟩, ?_⟩
      apply hkept
      rw [hkey]
      decide
  | encoding hkey hparsed =>
      refine ⟨⟨fun hr => ⟨hr.error, hr.idle⟩, id, fun _ => rfl⟩, ?_⟩
      rw [Assembly.mdelem, if_pos hkey, hparsed]
      rfl
  | acceptEncoding hkey =>
      refine ⟨⟨id, id, fun _ => rfl⟩, ?_⟩
      apply hkept
      rw [hkey]
      decide
  | trailing hother => exact ⟨⟨fun hr => ⟨hr.error, hr.idle⟩, id, fun _ => rfl⟩, hkept hother⟩
  | initial hother => exact ⟨⟨fun hr => ⟨hr.error, hr.idle⟩, id, fun _ => rfl⟩, hkept hother⟩

private theorem recvMdelems_noted {call call' : GrpcCall} {isTrailing : Bool} {list : List Metadata}
    (h : call.recvMdelems isTrailing list = .ok call') :
    Noted call call' ∧ call.assembly.mdelems list = some call'.assembly := by
  induction list generalizing call with
  | nil =>
      cases h
      exact ⟨⟨id, id, fun _ => rfl⟩, rfl⟩
  | cons md list ih =>
      unfold recvMdelems at h
      split at h
      · next c hmd =>
          obtain ⟨hnoted, hassembly⟩ := recvMdelem_noted hmd
          obtain ⟨hrest, hassembly'⟩ := ih h
          refine ⟨hnoted.trans hrest, ?_⟩
          rw [Assembly.mdelems, hassembly]
          exact hassembly'
      · cases h

private theorem gotMetadata_noted (call : GrpcCall) (isTrailing : Bool) :
    Noted call (call.gotMetadata isTrailing) ∧
      (call.gotMetadata isTrailing).assembly = call.assembly := by
  unfold gotMetadata
  split
  · exact ⟨⟨id, id, fun _ => rfl⟩, rfl⟩
  · exact ⟨⟨fun hr => ⟨hr.error, hr.idle⟩, id, fun _ => rfl⟩, rfl⟩

private theorem recvMetadata_noted {call call' : GrpcCall} {batch : MetadataBatch}
    (h : call.recvMetadata batch = .ok call') :
    Noted call call' ∧ call.assembly.mdelems batch.list = some call'.assembly := by
  unfold recvMetadata at h
  dsimp only at h
  split at h
  · cases h
  · next c hc =>
      obtain ⟨hnoted, hassembly⟩ := recvMdelems_noted hc
      split at h
      · split at h
        · next c' hc' =>
            cases h
            have halarm : Noted c c' ∧ c'.assembly = c.assembly := by
              unfold setDeadlineAlarm at hc'
              split at hc' <;> cases hc'
              exact ⟨⟨fun hr => ⟨hr.error, hr.idle⟩, id, fun _ => rfl⟩, rfl⟩
            have hgot := gotMetadata_noted c' (call.readState != .initial)
            exact ⟨(hnoted.trans halarm.1).trans hgot.1, by rw [hgot.2, halarm.2, hassembly]⟩
        · cases h
      · cases h
        have hgot := gotMetadata_noted c (call.readState != .initial)
        exact ⟨hnoted.trans hgot.1, by rw [hgot.2, hassembly]⟩

/-- A receive that leaves the call clean queues the messages that its operations carry. -/
theorem recvStreamOps_fed {call call' : GrpcCall} {ops : List StreamOp} (h : call.Reads)
    (hops : call.recvStreamOps ops = .ok call') :
    call'.Reads ∧ (call'.Clean → call.Clean ∧ ∃ out,
      call.assembly.feedAll call.maxMessageLength ops = some (call'.assembly, out) ∧
        call'.incomingQueue = call.incomingQueue ++ out) := by
  induction ops generalizing call with
  | nil =>
      cases hops
      exact ⟨h, fun hclean => ⟨hclean, [], rfl, by simp⟩⟩
  | cons op ops ih =>
      -- an operation that was taken in, followed by the others
      have hnext : ∀ c : GrpcCall, c.Reads → (c.Clean → Fed call op c) →
          c.maxMessageLength = call.maxMessageLength → c.recvStreamOps ops = .ok call' →
          call'.Reads ∧ (call'.Clean → call.Clean ∧ ∃ out,
            call.assembly.feedAll call.maxMessageLength (op :: ops) =
                some (call'.assembly, out) ∧
              call'.incomingQueue = call.incomingQueue ++ out) := by
        intro c hc hfed hmax hrest
        obtain ⟨hreads, hmore⟩ := ih hc hrest
        refine ⟨hreads, ?_⟩
        intro hclean
        obtain ⟨hcclean, more, hfeed, hqueue⟩ := hmore hclean
        obtain ⟨hcall, out, hop, hq⟩ := hfed hcclean
        refine ⟨hcall, out ++ more, ?_, by rw [hqueue, hq, List.append_assoc]⟩
        rw [hmax] at hfeed
        exact Assembly.feedAll_cons.mpr ⟨_, out, more, hop, hfeed, rfl⟩
      cases op with
      | noOp => exact hnext call h (fun hclean => ⟨hclean, [], rfl, by simp⟩) rfl hops
      | metadata batch =>
          unfold recvStreamOps at hops
          split at hops
          · next c hb =>
              obtain ⟨hnoted, hassembly⟩ := recvMetadata_noted hb
              refine hnext c (hnoted.reads h) ?_ (recvMetadata_same hb).maxMessageLength hops
              intro hclean
              refine ⟨hnoted.clean hclean, [], ?_, by simp [hnoted.queue hclean]⟩
              rw [Assembly.feed, hassembly]
          · cases hops
      | beginMessage length flags =>
          have hsame := (call.beginMessage_same length flags).maxMessageLength
          have hreads := beginMessage_reads length flags h
          have hfed := @beginMessage_fed call length flags h
          unfold recvStreamOps at hops
          split at hops
          · next c hb =>
              rw [hb] at hsame hreads hfed
              exact hnext c hreads (fun hclean => (hfed hclean).2) hsame hops
          · next c hb =>
              cases hops
              rw [hb] at hreads hfed
              exact ⟨hreads, fun hclean => absurd (hfed hclean).1 (by simp)⟩
      | slice slice =>
          have hsame := (call.addSliceToMessage_same slice).maxMessageLength
          have hreads := addSliceToMessage_reads slice h
          have hfed := @addSliceToMessage_fed call slice h
          unfold recvStreamOps at hops
          split at hops
          · next c hb =>
              rw [hb] at hsame hreads hfed
              exact hnext c hreads (fun hclean => (hfed hclean).2) hsame hops
          · next c hb =>
              cases hops
              rw [hb] at hreads hfed
              exact ⟨hreads, fun hclean => absurd (hfed hclean).1 (by simp)⟩

end CrowdSound.Core.GrpcCall
