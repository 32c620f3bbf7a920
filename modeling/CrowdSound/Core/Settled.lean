import CrowdSound.Core.Batches

/-!
# Between two events

A released call has reported what has completed and has given the transport all the work there
is, so that releasing it again does nothing. A batch that is refused leaves such a call as it
was.
-/

namespace CrowdSound.Core.GrpcCall

open OpGroups

theorem finishIoreqOp_isOpLive {call : GrpcCall} (hwf : call.groups.WellFormed) (op op' : IoreqOp)
    (success : Bool) :
    (call.finishIoreqOp op success).isOpLive op' = (call.isOpLive op' && decide (op' ≠ op)) := by
  rcases call.finishIoreqOp_cases op success with
    ⟨hdead, h⟩ | ⟨set, hset, _, ⟨_, h⟩ | ⟨hlast, h⟩⟩
  · rw [h]
    by_cases hop : op' = op
    · simp [hop, hdead]
    · simp [hop]
  · rw [h]
    exact call.groups.mark_isLive success op' hset
  · rw [h, completeGroup_eq]
    show (Groups.release IoreqOp.reusable (call.groups.mark set op success) set).isLive op' = _
    rw [Groups.release_isLive, Groups.mark_isLive _ success op' hset, Groups.mark_slot]
    by_cases hop : op' = op
    · simp [hop]
    · by_cases hmember : call.groups.slot op' = .group set
      · have hneed : op' ∈ (call.groups.master set).need :=
          ((hwf.need set (hwf.leader op set hset)) op').mpr hmember
        rw [← hlast, Finset.mem_insert, or_iff_right hop] at hneed
        have hdead : call.isOpLive op' = false := by
          rw [isOpLive, Groups.isLive_slot hmember]
          simp [hneed]
        have hdead' : call.groups.isLive op' = false := hdead
        simp [hdead, hdead']
      · simp only [hmember, ne_eq, not_false_eq_true, decide_true, Bool.and_true, hop]
        rfl

theorem completes_wellFormed {P : IoreqOp → Bool → Prop} {call call' : GrpcCall}
    (hc : Completes P call call') (hwf : call.groups.WellFormed) : call'.groups.WellFormed :=
  (completes_accounts hc (⟨hwf, rfl⟩ : Accounts call.accounted call)).1

theorem completes_isOpLive {P : IoreqOp → Bool → Prop} {call call' : GrpcCall}
    (hc : Completes P call call') (hwf : call.groups.WellFormed) {op : IoreqOp}
    (h : call'.isOpLive op = true) : call.isOpLive op = true := by
  induction hc with
  | refl => exact h
  | finish op' success hc _ ih =>
      apply ih
      rw [finishIoreqOp_isOpLive (completes_wellFormed hc hwf), Bool.and_eq_true] at h
      exact h.1
  | write state hc ih => exact ih h

theorem finishIoreqOp_slot_cases (call : GrpcCall) (op : IoreqOp) (success : Bool)
    (op' : IoreqOp) :
    (call.finishIoreqOp op success).groups.slot op' = call.groups.slot op' ∨
      (∃ l, call.groups.slot op' = .group l) ∧
        (call.finishIoreqOp op success).groups.slot op' =
          if op'.reusable then .empty else .done := by
  rcases call.finishIoreqOp_cases op success with ⟨_, h⟩ | ⟨s, _, _, ⟨_, h⟩ | ⟨_, h⟩⟩ <;> rw [h]
  · exact Or.inl rfl
  · exact Or.inl rfl
  · rw [completed_groups]
    by_cases hmember : (call.groups.mark s op success).slot op' = .group s
    · exact Or.inr ⟨⟨s, hmember⟩, Groups.release_slot_of_eq hmember⟩
    · exact Or.inl (Groups.release_slot_of_ne hmember)

private theorem finishIoreqOp_done {call : GrpcCall} {op : IoreqOp} (op' : IoreqOp) (success : Bool)
    (h : call.groups.slot op = .done) :
    (call.finishIoreqOp op' success).groups.slot op = .done := by
  rcases call.finishIoreqOp_slot_cases op' success op with hs | ⟨⟨l, hl⟩, _⟩
  · exact hs.trans h
  · simp [h] at hl

private theorem completes_done {P : IoreqOp → Bool → Prop} {call call' : GrpcCall} {op : IoreqOp}
    (hc : Completes P call call') (h : call.groups.slot op = .done) :
    call'.groups.slot op = .done :=
  hc.invariant (I := fun c => c.groups.slot op = .done)
    (fun _ op' success _ hI => finishIoreqOp_done op' success hI) (fun _ _ hI => hI) h

private theorem fillMessage_none {call : GrpcCall} {sent : Option SendOps}
    (h : (call.fillMessage sent).2 = none) :
    sent = none ∧ call.isOpLive .sendMessage = false ∧ call.fillMessage sent = (call, none) := by
  unfold fillMessage at h ⊢
  cases hlive : call.isOpLive .sendMessage with
  | true => simp [hlive] at h
  | false =>
      rw [hlive, if_neg Bool.false_ne_true] at h
      have hsent : sent = none := h
      exact ⟨hsent, rfl, by rw [if_neg Bool.false_ne_true, hsent]⟩

private theorem fillClose_none {call : GrpcCall} {sent : Option SendOps}
    (h : (call.fillClose sent).2 = none) :
    sent = none ∧ call.isOpLive .sendClose = false ∧ call.fillClose sent = (call, none) := by
  unfold fillClose at h ⊢
  cases hlive : call.isOpLive .sendClose with
  | true => simp [hlive] at h
  | false =>
      rw [hlive, if_neg Bool.false_ne_true] at h
      have hsent : sent = none := h
      exact ⟨hsent, rfl, by rw [if_neg Bool.false_ne_true, hsent]⟩

theorem fillMessageAndClose_eq (call : GrpcCall) (sent : Option SendOps) :
    call.fillMessageAndClose sent =
      (call.fillMessage sent).1.fillClose (call.fillMessage sent).2 := rfl

private theorem fillMessageAndClose_none {call : GrpcCall} {sent : Option SendOps}
    (h : (call.fillMessageAndClose sent).2 = none) :
    sent = none ∧ call.isOpLive .sendMessage = false ∧ call.isOpLive .sendClose = false ∧
      call.fillMessageAndClose sent = (call, none) := by
  rw [fillMessageAndClose_eq] at h ⊢
  obtain ⟨hsent, hclose, hc⟩ := fillClose_none h
  obtain ⟨hsent', hmessage, hm⟩ := fillMessage_none hsent
  have hsame := (call.fillMessage_same sent).isOpLive .sendClose
  rw [hsame] at hclose
  refine ⟨hsent', hmessage, hclose, ?_⟩
  rw [hm] at hc ⊢
  exact hc

def NothingToSend (call : GrpcCall) : Prop :=
  match call.writeState with
  | .initial => call.isOpLive .sendInitialMetadata = false
  | .started => call.isOpLive .sendMessage = false ∧ call.isOpLive .sendClose = false
  | .writeClosed => True

theorem fillSendOps_none {call : GrpcCall} (h : call.fillSendOps.2 = none) :
    call.NothingToSend := by
  unfold fillSendOps at h
  unfold NothingToSend
  cases hw : call.writeState with
  | initial =>
      rw [hw] at h
      cases hlive : call.isOpLive .sendInitialMetadata with
      | false => rfl
      | true =>
          simp only [hlive, if_true] at h
          have hsent := (fillMessageAndClose_none h).1
          simp at hsent
  | started =>
      rw [hw] at h
      exact ⟨(fillMessageAndClose_none h).2.1, (fillMessageAndClose_none h).2.2.1⟩
  | writeClosed => trivial

theorem NothingToSend.fillSendOps {call : GrpcCall} (h : call.NothingToSend) :
    call.fillSendOps = (call, none) := by
  unfold NothingToSend at h
  unfold GrpcCall.fillSendOps
  cases hw : call.writeState with
  | initial =>
      rw [hw] at h
      simp [h]
  | started =>
      rw [hw] at h
      simp [fillMessageAndClose, fillMessage, fillClose, h.1, h.2]
  | writeClosed => rfl

/-- A released call: nothing waits to be reported or to be given to the transport. -/
structure Settled (call : GrpcCall) : Prop where
  cancelled : call.cancelWithStatus = .ok
  completed : call.completedRequests = []
  recv : call.receiving = true ∨ call.needMoreData = false ∨ call.maxRecvBytes ≤ 1024
  send : call.sending = true ∨ call.NothingToSend

private theorem Settled.unlock {call : GrpcCall} (h : call.Settled) : call.unlock = call := by
  have hreset : ({ call with cancelWithStatus := .ok } : GrpcCall) = call := by
    rw [← h.cancelled]
  have hrecv : call.startRecv = (call, none) := by
    rcases call.startRecv_cases with ⟨hr, hn, hm, _⟩ | ⟨_, hs⟩
    · rcases h.recv with hr' | hn' | hm'
      · simp [hr] at hr'
      · simp [hn] at hn'
      · exact absurd hm (UInt32.not_lt.mpr hm')
    · exact hs
  have hsend : call.startSend = (call, none) := by
    unfold startSend
    cases hs : call.sending with
    | true => rfl
    | false =>
        have hnone : call.NothingToSend := by
          simpa [hs] using h.send
        have hcall : ({ call with sending := false } : GrpcCall) = call := by
          rw [← hs]
        rw [hnone.fillSendOps, if_neg Bool.false_ne_true]
        exact congrArg (fun c => (c, none)) hcall
  unfold GrpcCall.unlock
  rw [hreset, hrecv]
  dsimp only
  rw [hsend, h.cancelled]
  conv_rhs => rw [← hreset]
  simp [flushCompleted, h.completed]

private theorem needMoreData_congr {c c' : GrpcCall} (h : SameRead c c')
    (hc : c'.cancelWithStatus = c.cancelWithStatus) : c'.needMoreData = c.needMoreData := by
  simp only [needMoreData, h.isOpLive, h.readState, h.incomingQueue, h.writeState, h.isClient,
    h.destroyCalled, hc]

private theorem maxRecvBytes_congr {c c' : GrpcCall} (h : SameRead c c') :
    c'.maxRecvBytes = c.maxRecvBytes := by
  simp only [maxRecvBytes, h.incomingQueue, h.readingMessage, h.incomingMessageLength,
    h.incomingMessage]

private theorem NothingToSend.congr {c c' : GrpcCall} (h : SameRead c c') (hc : c.NothingToSend) :
    c'.NothingToSend := by
  simpa only [NothingToSend, h.writeState, h.isOpLive] using hc

theorem startSend_kept (call : GrpcCall) :
    call.startSend.1.receiving = call.receiving ∧
      call.startSend.1.cancelWithStatus = call.cancelWithStatus := by
  have hclose : ∀ (c : GrpcCall) sent, (c.fillMessageAndClose sent).1.receiving = c.receiving ∧
      (c.fillMessageAndClose sent).1.cancelWithStatus = c.cancelWithStatus := by
    intro c sent
    rw [fillMessageAndClose_eq]
    unfold fillClose fillMessage
    constructor <;> split <;> split <;> rfl
  unfold startSend
  split
  · exact ⟨rfl, rfl⟩
  · show call.fillSendOps.1.receiving = _ ∧ call.fillSendOps.1.cancelWithStatus = _
    unfold fillSendOps
    split
    · split
      · exact hclose _ _
      · exact ⟨rfl, rfl⟩
    · exact hclose _ _
    · exact ⟨rfl, rfl⟩

private theorem startSend_sending (call : GrpcCall) :
    call.startSend.1.sending = true ∨ call.startSend.1.NothingToSend := by
  unfold startSend
  cases hs : call.sending with
  | true => exact Or.inl hs
  | false =>
      cases hsend : call.fillSendOps.2 with
      | some sent => exact Or.inl (by simp [hsend])
      | none =>
          refine Or.inr ?_
          have hsame : SameRead call.fillSendOps.1
              { call.fillSendOps.1 with sending := call.fillSendOps.2.isSome } := by
            constructor <;> rfl
          exact ((fillSendOps_none hsend).congr call.fillSendOps_same).congr hsame

private theorem unlock_settled (call : GrpcCall) : call.unlock.Settled := by
  have hreset := startRecv_cases { call with cancelWithStatus := .ok }
  generalize hc : ({ call with cancelWithStatus := .ok } : GrpcCall) = c at hreset
  have hok : c.cancelWithStatus = .ok := by rw [← hc]
  have hsend := startSend_kept c.startRecv.1
  have hsame := startSend_same c.startRecv.1
  have hflush : SameRead c.startRecv.1.startSend.1 call.unlock := by
    unfold GrpcCall.unlock
    rw [hc]
    constructor <;> rfl
  have hreceiving : call.unlock.receiving = c.startRecv.1.receiving := by
    rw [← hsend.1, ← hc]
    rfl
  have hcancelled : call.unlock.cancelWithStatus = c.startRecv.1.cancelWithStatus := by
    rw [← hsend.2, ← hc]
    rfl
  have hsending : call.unlock.sending = c.startRecv.1.startSend.1.sending := by
    rw [← hc]
    rfl
  constructor
  · rw [hcancelled]
    rcases hreset with ⟨_, _, _, h⟩ | ⟨_, h⟩ <;> rw [h] <;> exact hok
  · rfl
  · rcases hreset with ⟨_, _, _, h⟩ | ⟨hrecv, h⟩
    · left
      rw [hreceiving, h]
    · rw [h] at hreceiving hcancelled hsame hflush
      have hread := hsame.trans hflush
      rw [hreceiving, needMoreData_congr hread hcancelled, maxRecvBytes_congr hread]
      exact hrecv
  · rw [hsending]
    exact (startSend_sending c.startRecv.1).imp_right fun h => h.congr hflush

theorem create_settled (isClient : Bool) (maxMessageLength : UInt32)
    (sendInitialMetadata : List Metadata) (sendDeadline : Bool) :
    (create isClient maxMessageLength sendInitialMetadata sendDeadline).Settled := by
  have hlive : ∀ op, (create isClient maxMessageLength sendInitialMetadata
      sendDeadline).isOpLive op = false := by
    intro op
    cases isClient <;> cases op <;> rfl
  constructor
  · rfl
  · rfl
  · cases isClient with
    | false => exact Or.inl rfl
    | true =>
        refine Or.inr (Or.inl ?_)
        simp only [needMoreData, hlive]
        rfl
  · exact Or.inr (hlive _)

theorem step_settled {call call' : GrpcCall} {e : CallEvent} (h : call.Settled)
    (hstep : call.step e = .ok call') : call'.Settled := by
  cases step_cases hstep with
  | emptyBatch =>
      constructor
      · exact h.cancelled
      · exact h.completed
      · exact h.recv
      · exact h.send
  | malformedBatch => exact h
  | _ => exact unlock_settled _

private theorem popMessage_done {call : GrpcCall} {op : IoreqOp} (h : call.groups.slot op = .done) :
    call.popMessage.1.groups.slot op = .done := by
  rcases call.popMessage_cases with ⟨_, hpop⟩ | ⟨_, _, hpop⟩ | ⟨message, rest, _, _, hpop⟩ <;>
    rw [hpop]
  · exact h
  · exact h
  · exact finishIoreqOp_done _ _ h

private theorem finishReadOps_done {call : GrpcCall} {op : IoreqOp}
    (h : call.groups.slot op = .done) :
    call.finishReadOps.groups.slot op = .done :=
  completes_done call.finishReadOps_completes (popMessage_done h)

private theorem startIoreq_done {call : GrpcCall} {op : IoreqOp} (reqs : List Ioreq)
    (tag : BatchTag) (hreqs : reqs ≠ []) (h : call.groups.slot op = .done) :
    (call.startIoreq reqs tag).1.groups.slot op = .done := by
  rcases call.startIoreq_cases reqs tag hreqs with
    ⟨set, haveOps, c, hs, hstart⟩ | ⟨set, haveOps, c, e, _, _, hstart⟩
  · rw [hstart]
    apply completes_done (earlyOutWriteOps_completes _)
    apply finishReadOps_done
    have hnew : op ∉ haveOps := by
      intro hmem
      have hfree := hs.claimed.free op hmem
      rw [h] at hfree
      simp at hfree
    show c.groups.slot op = .done
    rw [hs.claimed.slots, if_neg hnew, h]
  · rw [hstart]
    exact h

/-- What is done once is done for the rest of the call. -/
theorem step_done {call call' : GrpcCall} {e : CallEvent} {op : IoreqOp}
    (h : call.groups.slot op = .done) (hstep : call.step e = .ok call') :
    call'.groups.slot op = .done := by
  have hunlock : ∀ {c : GrpcCall}, c.groups.slot op = .done →
      c.unlock.groups.slot op = .done := by
    intro c hc
    rwa [c.unlock_same.groups]
  cases step_cases hstep with
  | emptyBatch => exact h
  | malformedBatch => exact h
  | batch ops tag reqs hne => exact hunlock (startIoreq_done reqs _ hne h)
  | sent success =>
      have hsent : (call.finishSends success).groups.slot op = .done :=
        completes_done (call.finishSends_completes success) h
      exact hunlock (c := call.sendEnded success) hsent
  | received ops state c c' _ hops hstate =>
      apply hunlock
      apply finishReadOps_done
      rw [(recvStreamState_same hstate).groups, (recvStreamOps_same hops).groups]
      exact h
  | recvFailed =>
      have hidle : call.recvEnded.groups.slot op = .done := h
      exact hunlock (completes_done (failReadOps_completes _) hidle)
  | cancelled status description =>
      apply hunlock
      rwa [(call.cancel_same status description).groups]
  | deadlineExceeded =>
      apply hunlock
      apply finishReadOps_done
      rw [(cancel_same _ _ _).groups]
      exact h
  | alarmCancelled =>
      have hidle : call.alarmEnded.groups.slot op = .done := h
      exact hunlock (finishReadOps_done hidle)
  | destroyedClosed =>
      have hd : call.destroyStarted.groups.slot op = .done := h
      exact hunlock hd
  | destroyed =>
      have hd : call.destroyStarted.groups.slot op = .done := h
      apply hunlock
      rw [(cancel_same _ _ _).groups]
      exact hunlock hd

/-- In every run the batches the call has accepted are those it has put on the completion queue,
once each, and those whose group is outstanding. -/
theorem accepted_eq_reported_add_outstanding {isClient : Bool} {maxMessageLength : UInt32}
    {sendInitialMetadata : List Metadata} {sendDeadline : Bool} {events : List CallEvent}
    {call : GrpcCall}
    (h : EventRun.run step (create isClient maxMessageLength sendInitialMetadata sendDeadline)
      events = .ok call) :
    (EventRun.trace step acceptedBatches
        (create isClient maxMessageLength sendInitialMetadata sendDeadline) events :
        Multiset Nat) = (call.cq.map Completion.tag : Multiset Nat) + call.outstanding := by
  have hstep : ∀ (past : List Nat) (s : GrpcCall) (e : CallEvent) (s' : GrpcCall),
      Accounts (past : Multiset Nat) s → step s e = .ok s' →
        Accounts ((past ++ acceptedBatches s e : List Nat) : Multiset Nat) s' := by
    intro past s e s' hs he
    rw [← Multiset.coe_add, add_comm]
    exact step_accounts hs he
  have hrun := EventRun.run_trace_invariant
    (I := fun tags call => Accounts ((tags : List Nat) : Multiset Nat) call) hstep
    (create_accounts isClient maxMessageLength sendInitialMetadata sendDeadline) h
  have hsettled := EventRun.run_invariant (I := Settled) (P := fun _ => True)
    (fun s e s' hs _ he => step_settled hs he)
    (create_settled isClient maxMessageLength sendInitialMetadata sendDeadline)
    (fun _ _ => trivial) h
  rw [List.nil_append] at hrun
  rw [← hrun.2, accounted, reported, hsettled.completed, List.map_nil, List.append_nil]

theorem accepted_exchange : ∃ call, EventRun.run step (create true 1000 [] false) exchange = .ok call ∧
    (EventRun.trace step acceptedBatches (create true 1000 [] false) exchange : Multiset Nat) =
      (call.cq.map Completion.tag : Multiset Nat) + call.outstanding := by
  obtain ⟨call, h, _⟩ := EventRun.exists_ok_of_any
    (r := EventRun.run step (create true 1000 [] false) exchange) (p := fun _ => true) (by decide)
  exact ⟨call, h, accepted_eq_reported_add_outstanding h⟩

private theorem Settled.withData {call : GrpcCall} (h : call.Settled) (data : IoreqOp → IoreqData)
    (flags : IoreqOp → UInt32) :
    Settled { call with requestData := data, requestFlags := flags } where
  cancelled := h.cancelled
  completed := h.completed
  recv := h.recv
  send := h.send

theorem startBatch_ok_iff (call : GrpcCall) (ops : List BatchOp) (tag : Nat) :
    (call.startBatch ops tag).2 = .ok ↔ ops = [] ∨ ∃ reqs, call.rewriteOps [] ops = .ok reqs ∧
      (reqs.map Ioreq.op).Nodup ∧
        ∀ req ∈ reqs, call.groups.slot req.op = .empty ∧
          isLegalData req.op req.data = true := by
  rcases call.startBatch_cases ops tag with
    ⟨hops, hb⟩ | ⟨e, he, hops, hb⟩ | ⟨reqs, hne, hreqs, hb⟩
  · rw [hb]
    simp [hops]
  · have hne : ops ≠ [] := by
      intro hnil
      subst hnil
      cases hops
    simp [hb, he, hops, hne]
  · have hne' : ops ≠ [] := by
      intro hnil
      subst hnil
      cases hreqs
      exact hne rfl
    rw [hb, startIoreq_ok_iff]
    simp [hreqs, hne']

end CrowdSound.Core.GrpcCall
