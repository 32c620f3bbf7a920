import CrowdSound.Core.Receiving

/-!
# Messages reach the application in order

Every message that was read is handed out with a completed batch, held by a batch that waits for
other operations, or queued; these are, in this order, the messages that the stream carried.
-/

namespace CrowdSound.Core.GrpcCall

open OpGroups

/-- What the batches that have completed were left with, in order. -/
def reports (call : GrpcCall) : List BatchResults :=
  call.cq.map Completion.results ++ call.completedRequests.map CompletedRequest.results

def handedOut (call : GrpcCall) : List ByteBuffer :=
  call.reports.filterMap BatchResults.recvMessage

/-- The operation was started and has completed; its group may wait for others. -/
def isFinished (call : GrpcCall) (op : IoreqOp) : Bool :=
  decide (call.groups.slot op ≠ .empty) && !call.isOpLive op

/-- The message of a receive whose batch waits for other operations. -/
def held (call : GrpcCall) : List ByteBuffer :=
  if call.isFinished .recvMessage then call.recvMessage.toList else []

/-- The messages that receives have taken. -/
def taken (call : GrpcCall) : List ByteBuffer := call.handedOut ++ call.held

theorem SameRequests.isFinished {c c' : GrpcCall} (h : SameRequests c c') (op : IoreqOp) :
    c'.isFinished op = c.isFinished op := by
  rw [GrpcCall.isFinished, GrpcCall.isFinished, h.groups, h.isOpLive]

theorem SameRequests.reports {c c' : GrpcCall} (h : SameRequests c c') :
    c'.reports = c.reports := by
  rw [GrpcCall.reports, GrpcCall.reports, h.cq, h.completedRequests]

theorem SameRequests.taken {c c' : GrpcCall} (h : SameRequests c c') : c'.taken = c.taken := by
  rw [GrpcCall.taken, GrpcCall.taken, handedOut, handedOut, held, held, h.reports,
    h.isFinished, h.recvMessage]

private theorem held_of_live {call : GrpcCall} (h : call.isOpLive .recvMessage = true) :
    call.held = [] := by
  simp [held, isFinished, h]

theorem finishIoreqOp_isFinished {call : GrpcCall} (hwf : call.groups.WellFormed)
    {op op' : IoreqOp} (success : Bool) (hreusable : op'.reusable = false) :
    (call.finishIoreqOp op success).isFinished op' =
      (call.isFinished op' || (decide (op = op') && call.isOpLive op')) := by
  have hslot : (call.finishIoreqOp op success).groups.slot op' = .empty ↔
      call.groups.slot op' = .empty := by
    rcases call.finishIoreqOp_cases op success with
      ⟨_, h⟩ | ⟨set, _, _, ⟨_, h⟩ | ⟨_, h⟩⟩
    · rw [h]
    · rw [h]
      rfl
    · rw [h, completeGroup_eq]
      show (Groups.release IoreqOp.reusable (call.groups.mark set op success) set).slot op' =
        .empty ↔ _
      by_cases hmember : (call.groups.mark set op success).slot op' = .group set
      · rw [Groups.release_slot_of_eq hmember, hreusable]
        rw [Groups.mark_slot] at hmember
        simp [hmember]
      · rw [Groups.release_slot_of_ne hmember, Groups.mark_slot]
  have hlive : call.isOpLive op' = true → call.groups.slot op' ≠ .empty := by
    intro hl hempty
    obtain ⟨l, hl', _⟩ := Groups.isLive_iff.mp hl
    simp [hempty] at hl'
  have hdecide : decide ((call.finishIoreqOp op success).groups.slot op' ≠ .empty) =
      decide (call.groups.slot op' ≠ .empty) := decide_eq_decide.mpr (not_congr hslot)
  rw [isFinished, isFinished, hdecide, finishIoreqOp_isOpLive hwf]
  by_cases hop : op' = op
  · subst hop
    cases hl : call.isOpLive op' with
    | false => simp
    | true => simp [hlive hl]
  · have hop' : ¬ op = op' := fun h => hop h.symm
    simp [hop, hop']

theorem completed_reports (call : GrpcCall) (set op : IoreqOp) (success : Bool) :
    ((call.marked set op success).completeGroup set).reports =
      call.reports ++ [call.memberResults {} (call.members set)] := by
  have hcq : ((call.marked set op success).completeGroup set).cq = call.cq := by
    rw [completeGroup_eq]
    rfl
  rw [reports, reports, hcq, completed_requests, List.map_append, ← List.append_assoc]
  rfl

private theorem completed_handedOut (call : GrpcCall) (set op : IoreqOp) (success : Bool) :
    ((call.marked set op success).completeGroup set).handedOut = call.handedOut ++
      if call.groups.slot .recvMessage = .group set then call.recvMessage.toList else [] := by
  rw [handedOut, handedOut, completed_reports, List.filterMap_append]
  congr 1
  by_cases hm : call.groups.slot .recvMessage = .group set
  · have hin : .recvMessage ∈ call.members set := mem_members.mpr hm
    cases hmessage : call.recvMessage <;> simp [memberResults, hin, hm, hmessage]
  · have hout : .recvMessage ∉ call.members set := fun hin => hm (mem_members.mp hin)
    simp [memberResults, hout, hm]

theorem isFinished_of_slot {call : GrpcCall} {op set : IoreqOp}
    (h : call.groups.slot op = .group set) : call.isFinished op = !call.isOpLive op := by
  simp [isFinished, h]

/-- A completed receive hands out what its pointer holds, any other operation no message. -/
theorem finishIoreqOp_taken {call : GrpcCall} (hwf : call.groups.WellFormed) (op : IoreqOp)
    (success : Bool) :
    (call.finishIoreqOp op success).taken = call.taken ++
      if op = .recvMessage ∧ call.isOpLive .recvMessage = true then call.recvMessage.toList
      else [] := by
  have hlive' := finishIoreqOp_isOpLive hwf op .recvMessage success
  rcases call.finishIoreqOp_cases op success with
    ⟨hdead, h⟩ | ⟨set, hset, hlive, ⟨_, h⟩ | ⟨hlast, h⟩⟩
  · rw [h, if_neg, List.append_nil]
    rintro ⟨rfl, hl⟩
    simp [hdead] at hl
  · rw [h] at hlive' ⊢
    have hhanded : (call.marked set op success).handedOut = call.handedOut := rfl
    have hcell : (call.marked set op success).recvMessage = call.recvMessage := rfl
    have hslot : (call.marked set op success).groups.slot = call.groups.slot := rfl
    rw [taken, taken, hhanded, held, held, hcell, isFinished, isFinished, hslot, hlive',
      List.append_assoc]
    congr 1
    by_cases hop : op = .recvMessage
    · subst hop
      simp [hset, hlive]
    · simp [hop, Ne.symm hop]
  · rw [h]
    have hcell : ((call.marked set op success).completeGroup set).recvMessage =
        call.recvMessage := by
      rw [completeGroup_eq]
      rfl
    rw [taken, taken, completed_handedOut, List.append_assoc, List.append_assoc]
    congr 1
    by_cases hmember : call.groups.slot .recvMessage = .group set
    · -- the receive is a member: it is the operation that completes, or completed before
      have hafter : ((call.marked set op success).completeGroup set).held = [] := by
        have hslot : (call.groups.mark set op success).slot .recvMessage = .group set := hmember
        simp [held, isFinished, Groups.release_slot_of_eq hslot, IoreqOp.reusable]
      rw [if_pos hmember, hafter, List.append_nil]
      by_cases hop : op = .recvMessage
      · subst hop
        rw [if_pos ⟨rfl, hlive⟩, held_of_live hlive, List.nil_append]
      · have hneed : .recvMessage ∈ (call.groups.master set).need :=
          ((hwf.need set (hwf.leader op set hset)) _).mpr hmember
        rw [← hlast, Finset.mem_insert, or_iff_right (Ne.symm hop)] at hneed
        have hdead : call.isOpLive .recvMessage = false := by
          rw [isOpLive, Groups.isLive_slot hmember]
          simp [hneed]
        rw [if_neg (fun hc => hop hc.1), List.append_nil, held, isFinished_of_slot hmember, hdead]
        rfl
    · have hop : op ≠ .recvMessage := by
        rintro rfl
        exact hmember hset
      have hslot : ((call.marked set op success).completeGroup set).groups.slot .recvMessage =
          call.groups.slot .recvMessage := by
        rw [completed_groups]
        exact Groups.release_slot_of_ne (by simpa using hmember)
      rw [h] at hlive'
      rw [if_neg hmember, if_neg (fun hc => hop hc.1), held, held, hcell, isFinished, isFinished,
        hslot, hlive']
      simp [Ne.symm hop]

/-- The pointer of a pending receive holds nothing yet. -/
def Unserved (call : GrpcCall) : Prop :=
  call.isOpLive .recvMessage = true → call.recvMessage = none

theorem completes_incomingQueue {P : IoreqOp → Bool → Prop} {call call' : GrpcCall}
    (hc : Completes P call call') : call'.incomingQueue = call.incomingQueue :=
  hc.invariant (I := fun c => c.incomingQueue = call.incomingQueue)
    (fun c op success _ hI => (finishIoreqOp_incomingQueue c op success).trans hI)
    (fun _ _ hI => hI) rfl

theorem completes_taken {P : IoreqOp → Bool → Prop} {call call' : GrpcCall}
    (hc : Completes P call call') (hwf : call.groups.WellFormed) (hcell : call.Unserved) :
    call'.taken = call.taken ∧ call'.Unserved := by
  induction hc with
  | refl => exact ⟨rfl, hcell⟩
  | @finish c op success hc _ ih =>
      obtain ⟨htaken, hun⟩ := ih
      have hwf' := completes_wellFormed hc hwf
      refine ⟨?_, ?_⟩
      · rw [finishIoreqOp_taken hwf', htaken]
        split
        · next h => rw [hun h.2, Option.toList_none, List.append_nil]
        · exact List.append_nil _
      · intro hlive
        rw [finishIoreqOp_isOpLive hwf', Bool.and_eq_true] at hlive
        rw [finishIoreqOp_recvMessage]
        exact hun hlive.1
  | write state hc ih => exact ih

theorem popMessage_taken {call : GrpcCall} (hwf : call.groups.WellFormed) :
    call.popMessage.1.taken ++ call.popMessage.1.incomingQueue =
        call.taken ++ call.incomingQueue ∧
      call.popMessage.1.Unserved ∧
      (call.popMessage.1.isOpLive .recvMessage = true →
        call.popMessage.1.incomingQueue = []) ∧
      call.popMessage.2 = call.popMessage.1.incomingQueue.isEmpty := by
  rcases call.popMessage_cases with
    ⟨hdead, hpop⟩ | ⟨hlive, hq, hpop⟩ | ⟨message, rest, hlive, hq, hpop⟩ <;> rw [hpop]
  · exact ⟨rfl, fun hlive => by simp [hdead] at hlive, fun hlive => by simp [hdead] at hlive, rfl⟩
  · have hheld : held { call with recvMessage := none } = call.held := by
      rw [held_of_live hlive]
      exact held_of_live hlive
    refine ⟨?_, fun _ => rfl, fun _ => hq, ?_⟩
    · rw [taken, taken, hheld]
      rfl
    · simp [hq]
  · have hlive' : (call.takeMessage message rest).isOpLive .recvMessage = true := hlive
    have hheld : (call.takeMessage message rest).held = call.held := by
      rw [held_of_live hlive, held_of_live hlive']
    have hdead : ((call.takeMessage message rest).finishIoreqOp .recvMessage true).isOpLive
        .recvMessage = false := by
      rw [@finishIoreqOp_isOpLive (call.takeMessage message rest) hwf]
      simp
    have htaken : (call.takeMessage message rest).taken = call.taken := by
      rw [taken, taken, hheld]
      rfl
    dsimp only
    refine ⟨?_, fun hl => by simp [hdead] at hl, fun hl => by simp [hdead] at hl, ?_⟩
    · rw [@finishIoreqOp_taken (call.takeMessage message rest) hwf,
        finishIoreqOp_incomingQueue, if_pos ⟨rfl, hlive'⟩, htaken, hq]
      simp [takeMessage]
    · rw [finishIoreqOp_incomingQueue]
      rfl

end CrowdSound.Core.GrpcCall
