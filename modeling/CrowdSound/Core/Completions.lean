import CrowdSound.Core.CallEvents

/-!
# Completing operations

Everything that completes operations goes through one function. It changes the groups, the
write state, the buffered metadata and the completed requests and nothing else.
-/

namespace CrowdSound.Core.GrpcCall

open OpGroups

/-- What the operations of a completed group do to the call, in any order. -/
def finishMembers (call : GrpcCall) (success : Bool) (members : List IoreqOp) : GrpcCall :=
  { call with
    writeState :=
      if !success && members.any IoreqOp.reusable then .writeClosed else call.writeState
    bufferedInitialMetadata :=
      if .recvInitialMetadata ∈ members then [] else call.bufferedInitialMetadata
    bufferedTrailingMetadata :=
      if .recvTrailingMetadata ∈ members then [] else call.bufferedTrailingMetadata }

/-- What the pointers of a completed group hold. -/
def memberResults (call : GrpcCall) (results : BatchResults) (members : List IoreqOp) :
    BatchResults where
  recvMessage := if .recvMessage ∈ members then call.recvMessage else results.recvMessage
  recvInitialMetadata :=
    if .recvInitialMetadata ∈ members then some call.bufferedInitialMetadata
    else results.recvInitialMetadata
  recvTrailingMetadata :=
    if .recvTrailingMetadata ∈ members then some call.bufferedTrailingMetadata
    else results.recvTrailingMetadata
  recvStatus := if .recvStatus ∈ members then some call.reportedStatus else results.recvStatus
  recvStatusDetails :=
    if .recvStatusDetails ∈ members then some call.getFinalDetails else results.recvStatusDetails

private theorem foldl_finishMember (success : Bool) (members : List IoreqOp) (hn : members.Nodup)
    (call : GrpcCall) (results : BatchResults) :
    members.foldl (finishMember success) (call, results) =
      (call.finishMembers success members, call.memberResults results members) := by
  induction members generalizing call results with
  | nil => simp [finishMembers, memberResults]
  | cons op ops ih =>
      obtain ⟨hop, hops⟩ := List.nodup_cons.mp hn
      rw [List.foldl_cons]
      cases op <;> cases success <;>
        simp only [finishMember, ih hops] <;>
        simp [finishMembers, memberResults, IoreqOp.reusable, reportedStatus, getFinalStatus,
          getFinalDetails, finalSource, hop]

theorem mem_members {call : GrpcCall} {set op : IoreqOp} :
    op ∈ call.members set ↔ call.groups.slot op = .group set := by
  have hall : op ∈ IoreqOp.all := by cases op <;> decide
  simp [members, hall]

private theorem members_nodup (call : GrpcCall) (set : IoreqOp) : (call.members set).Nodup := by
  have hall : IoreqOp.all.Nodup := by decide
  exact hall.filter _

theorem completeGroup_eq (call : GrpcCall) (set : IoreqOp) :
    call.completeGroup set =
      { call.finishMembers (call.groups.master set).success (call.members set) with
        groups := call.groups.release IoreqOp.reusable set
        completedRequests := call.completedRequests ++
          [⟨(call.groups.master set).tag, (call.groups.master set).success,
            call.memberResults {} (call.members set)⟩] } := by
  simp only [completeGroup, foldl_finishMember _ _ (call.members_nodup set)]
  rfl

/-- The call after an operation of the group `set` has completed, which was not the last. -/
def marked (call : GrpcCall) (set op : IoreqOp) (success : Bool) : GrpcCall :=
  { call with groups := call.groups.mark set op success }

theorem finishIoreqOp_cases (call : GrpcCall) (op : IoreqOp) (success : Bool) :
    (call.isOpLive op = false ∧ call.finishIoreqOp op success = call) ∨
    ∃ set, call.groups.slot op = .group set ∧ call.isOpLive op = true ∧
      ((insert op (call.groups.master set).complete ≠ (call.groups.master set).need ∧
          call.finishIoreqOp op success = call.marked set op success) ∨
        (insert op (call.groups.master set).complete = (call.groups.master set).need ∧
          call.finishIoreqOp op success =
            (call.marked set op success).completeGroup set)) := by
  unfold finishIoreqOp
  cases hlive : call.isOpLive op with
  | false => exact Or.inl ⟨rfl, rfl⟩
  | true =>
      obtain ⟨set, hset, hop⟩ := Groups.isLive_iff.mp hlive
      refine Or.inr ⟨set, hset, rfl, ?_⟩
      simp only [finishLiveIoreqOp, hset, Groups.mark_master_self, if_true]
      by_cases hlast : insert op (call.groups.master set).complete = (call.groups.master set).need
      · rw [if_pos hlast]
        exact Or.inr ⟨hlast, rfl⟩
      · rw [if_neg hlast]
        exact Or.inl ⟨hlast, rfl⟩

@[simp] theorem marked_groups (call : GrpcCall) (set op : IoreqOp) (success : Bool) :
    (call.marked set op success).groups = call.groups.mark set op success := rfl

@[simp] theorem completed_groups (call : GrpcCall) (set op : IoreqOp) (success : Bool) :
    ((call.marked set op success).completeGroup set).groups =
      (call.groups.mark set op success).release IoreqOp.reusable set := by
  rw [completeGroup_eq]
  rfl

theorem completed_requests (call : GrpcCall) (set op : IoreqOp) (success : Bool) :
    ((call.marked set op success).completeGroup set).completedRequests =
      call.completedRequests ++ [⟨(call.groups.master set).tag,
        (call.groups.master set).success && success,
        call.memberResults {} (call.members set)⟩] := by
  have hmaster := Groups.mark_master_self call.groups set op success
  rw [completeGroup_eq]
  simp only [marked_groups, hmaster]
  rfl

theorem finishIoreqOp_frame (call : GrpcCall) (op : IoreqOp) (success : Bool) :
    call.finishIoreqOp op success =
      { call with
        groups := (call.finishIoreqOp op success).groups
        completedRequests := (call.finishIoreqOp op success).completedRequests
        writeState := (call.finishIoreqOp op success).writeState
        bufferedInitialMetadata := (call.finishIoreqOp op success).bufferedInitialMetadata
        bufferedTrailingMetadata := (call.finishIoreqOp op success).bufferedTrailingMetadata } := by
  rcases call.finishIoreqOp_cases op success with ⟨_, h⟩ | ⟨set, _, _, ⟨_, h⟩ | ⟨_, h⟩⟩
  · rw [h]
  · rw [h]
    rfl
  · rw [h, completeGroup_eq]
    rfl

section Frame

variable (call : GrpcCall) (op : IoreqOp) (success : Bool)

@[simp] theorem finishIoreqOp_isClient :
    (call.finishIoreqOp op success).isClient = call.isClient := by
  rw [finishIoreqOp_frame]

@[simp] theorem finishIoreqOp_readState :
    (call.finishIoreqOp op success).readState = call.readState := by
  rw [finishIoreqOp_frame]

@[simp] theorem finishIoreqOp_haveAlarm :
    (call.finishIoreqOp op success).haveAlarm = call.haveAlarm := by
  rw [finishIoreqOp_frame]

@[simp] theorem finishIoreqOp_incomingQueue :
    (call.finishIoreqOp op success).incomingQueue = call.incomingQueue := by
  rw [finishIoreqOp_frame]

@[simp] theorem finishIoreqOp_recvMessage :
    (call.finishIoreqOp op success).recvMessage = call.recvMessage := by
  rw [finishIoreqOp_frame]

@[simp] theorem finishIoreqOp_receiving :
    (call.finishIoreqOp op success).receiving = call.receiving := by
  rw [finishIoreqOp_frame]

@[simp] theorem finishIoreqOp_sending :
    (call.finishIoreqOp op success).sending = call.sending := by
  rw [finishIoreqOp_frame]

@[simp] theorem finishIoreqOp_status :
    (call.finishIoreqOp op success).status = call.status := by
  rw [finishIoreqOp_frame]

@[simp] theorem finishIoreqOp_requestData :
    (call.finishIoreqOp op success).requestData = call.requestData := by
  rw [finishIoreqOp_frame]

@[simp] theorem finishIoreqOp_requestFlags :
    (call.finishIoreqOp op success).requestFlags = call.requestFlags := by
  rw [finishIoreqOp_frame]

@[simp] theorem finishIoreqOp_lastSendContains :
    (call.finishIoreqOp op success).lastSendContains = call.lastSendContains := by
  rw [finishIoreqOp_frame]

@[simp] theorem finishIoreqOp_cancelWithStatus :
    (call.finishIoreqOp op success).cancelWithStatus = call.cancelWithStatus := by
  rw [finishIoreqOp_frame]

@[simp] theorem finishIoreqOp_cq : (call.finishIoreqOp op success).cq = call.cq := by
  rw [finishIoreqOp_frame]

@[simp] theorem finishIoreqOp_transportOps :
    (call.finishIoreqOp op success).transportOps = call.transportOps := by
  rw [finishIoreqOp_frame]

end Frame

/-- The states reached by completing operations that `P` admits and setting the write state. -/
inductive Completes (P : IoreqOp → Bool → Prop) (call : GrpcCall) : GrpcCall → Prop where
  | refl : Completes P call call
  | finish {call' : GrpcCall} (op : IoreqOp) (success : Bool) (h : Completes P call call')
      (hop : P op success) : Completes P call (call'.finishIoreqOp op success)
  | write {call' : GrpcCall} (state : WriteState) (h : Completes P call call') :
      Completes P call { call' with writeState := state }

theorem Completes.invariant {P : IoreqOp → Bool → Prop} {I : GrpcCall → Prop}
    (hfinish : ∀ call op success, P op success → I call → I (call.finishIoreqOp op success))
    (hwrite : ∀ (call : GrpcCall) (state : WriteState), I call →
      I { call with writeState := state })
    {call call' : GrpcCall} (h : Completes P call call') (hI : I call) : I call' := by
  induction h with
  | refl => exact hI
  | finish op success _ hop ih => exact hfinish _ op success hop ih
  | write state _ ih => exact hwrite _ state ih

theorem Completes.trans {P : IoreqOp → Bool → Prop} {call call' call'' : GrpcCall}
    (h : Completes P call call') (h' : Completes P call' call'') : Completes P call call'' := by
  induction h' with
  | refl => exact h
  | finish op success _ hop ih => exact ih.finish op success hop
  | write state _ ih => exact ih.write state

theorem Completes.ite {P : IoreqOp → Bool → Prop} {call c c' : GrpcCall} {b : Prop}
    [Decidable b] (h : Completes P call c) (h' : Completes P call c') :
    Completes P call (if b then c else c') := by
  split
  · exact h
  · exact h'

/-- The operations of the sending side. -/
def IsSend : IoreqOp → Bool
  | .sendInitialMetadata | .sendMessage | .sendTrailingMetadata | .sendStatus | .sendClose => true
  | _ => false

theorem earlyOutWriteOps_completes (call : GrpcCall) :
    Completes (fun op _ => IsSend op = true) call call.earlyOutWriteOps := by
  unfold earlyOutWriteOps
  cases call.writeState with
  | initial => exact .refl
  | started => exact Completes.refl.finish _ _ rfl
  | writeClosed =>
      dsimp only
      exact ((((Completes.refl.finish _ _ rfl).finish _ _ rfl).finish _ _ rfl).finish _ _
        rfl).finish _ _ rfl

theorem finishSends_completes (call : GrpcCall) (success : Bool) :
    Completes (fun op _ => IsSend op = true) call (call.finishSends success) := by
  have hmetadata : ∀ c, Completes (fun op _ => IsSend op = true) call c →
      Completes (fun op _ => IsSend op = true) call
        { c.finishIoreqOp .sendInitialMetadata success with writeState := .started } :=
    fun c h => (h.finish .sendInitialMetadata success rfl).write .started
  have hclose : ∀ c, Completes (fun op _ => IsSend op = true) call c →
      Completes (fun op _ => IsSend op = true) call
        { ((c.finishIoreqOp .sendTrailingMetadata success).finishIoreqOp .sendStatus
            success).finishIoreqOp .sendClose true with writeState := .writeClosed } :=
    fun c h => (((h.finish .sendTrailingMetadata success rfl).finish .sendStatus success
      rfl).finish .sendClose true rfl).write .writeClosed
  have hend : ∀ c, Completes (fun op _ => IsSend op = true) call c →
      Completes (fun op _ => IsSend op = true) call
        (if success then c else { c with writeState := .writeClosed }.earlyOutWriteOps) := by
    intro c h
    cases success with
    | true => exact h
    | false => exact (h.write .writeClosed).trans (earlyOutWriteOps_completes _)
  unfold finishSends
  apply hend
  have h : Completes (fun op _ => IsSend op = true) call
      (if .sendInitialMetadata ∈ call.lastSendContains then
        { call.finishIoreqOp .sendInitialMetadata success with writeState := .started }
      else call) := .ite (hmetadata _ .refl) .refl
  have h' := h.finish .sendMessage success rfl
  dsimp only
  exact .ite (hclose _ (.ite h' h)) (.ite h' h)

theorem failReadOps_completes (call : GrpcCall) :
    Completes (fun op success => IsSend op = false ∧ success = false) call call.failReadOps := by
  unfold failReadOps
  dsimp only
  exact (((((Completes.refl.finish _ _ ⟨rfl, rfl⟩).finish _ _ ⟨rfl, rfl⟩).finish _ _
    ⟨rfl, rfl⟩).finish _ _ ⟨rfl, rfl⟩).finish _ _ ⟨rfl, rfl⟩).finish _ _ ⟨rfl, rfl⟩

/-- What the read side completes after the pending receive was served; `empty` says that no
message is left. -/
def ReadCompletes (readState : ReadState) (haveAlarm empty : Bool) (op : IoreqOp)
    (success : Bool) : Prop :=
  success = true ∧ match op with
    | .recvClose => readState = .streamClosed ∧ empty = true ∧ haveAlarm = false
    | .recvMessage => (readState = .readClosed ∨ readState = .streamClosed) ∧ empty = true
    | .recvStatus | .recvStatusDetails | .recvTrailingMetadata =>
      readState = .readClosed ∨ readState = .streamClosed
    | .recvInitialMetadata => readState ≠ .initial
    | _ => False

private theorem finishReadClosed_completes {P : IoreqOp → Bool → Prop} (call : GrpcCall)
    (empty : Bool) (hmessage : empty = true → P .recvMessage true) (hstatus : P .recvStatus true)
    (hdetails : P .recvStatusDetails true) (htrailing : P .recvTrailingMetadata true)
    (hinitial : P .recvInitialMetadata true) :
    Completes P call (call.finishReadClosed empty) := by
  have h : Completes P call (if empty then call.finishIoreqOp .recvMessage true else call) := by
    cases empty with
    | true => exact Completes.refl.finish _ _ (hmessage rfl)
    | false => exact .refl
  exact (((h.finish _ _ hstatus).finish _ _ hdetails).finish _ _ htrailing).finish _ _ hinitial

private theorem finishLiveIoreqOp_of_live {call : GrpcCall} {op : IoreqOp} (success : Bool)
    (h : call.isOpLive op = true) :
    call.finishLiveIoreqOp op success = call.finishIoreqOp op success := by
  rw [finishIoreqOp, if_pos h]

/-- A receive that is served: the first message is taken out of the queue. -/
def takeMessage (call : GrpcCall) (message : ByteBuffer) (rest : List ByteBuffer) : GrpcCall :=
  { call with recvMessage := some message, incomingQueue := rest }

theorem popMessage_cases (call : GrpcCall) :
    (call.isOpLive .recvMessage = false ∧ call.popMessage = (call, call.incomingQueue.isEmpty)) ∨
    (call.isOpLive .recvMessage = true ∧ call.incomingQueue = [] ∧
      call.popMessage = ({ call with recvMessage := none }, true)) ∨
    ∃ message rest, call.isOpLive .recvMessage = true ∧ call.incomingQueue = message :: rest ∧
      call.popMessage =
        ((call.takeMessage message rest).finishIoreqOp .recvMessage true, rest.isEmpty) := by
  unfold popMessage
  cases hlive : call.isOpLive .recvMessage with
  | false => simp
  | true =>
      cases hq : call.incomingQueue with
      | nil => simp
      | cons message rest =>
          have hlive' : (call.takeMessage message rest).isOpLive .recvMessage = true := hlive
          have h := finishLiveIoreqOp_of_live true hlive'
          refine Or.inr (Or.inr ⟨message, rest, rfl, rfl, ?_⟩)
          rw [← h]
          have hrest : ((call.takeMessage message rest).finishLiveIoreqOp
              .recvMessage true).incomingQueue = rest := by
            rw [h, finishIoreqOp_incomingQueue]
            rfl
          simp only [if_true, Prod.mk.injEq]
          exact ⟨rfl, congrArg List.isEmpty hrest⟩

theorem popMessage_readState (call : GrpcCall) :
    call.popMessage.1.readState = call.readState := by
  rcases call.popMessage_cases with ⟨_, h⟩ | ⟨_, _, h⟩ | ⟨_, _, _, _, h⟩ <;> rw [h]
  exact finishIoreqOp_readState _ _ _

theorem popMessage_haveAlarm (call : GrpcCall) :
    call.popMessage.1.haveAlarm = call.haveAlarm := by
  rcases call.popMessage_cases with ⟨_, h⟩ | ⟨_, _, h⟩ | ⟨_, _, _, _, h⟩ <;> rw [h]
  exact finishIoreqOp_haveAlarm _ _ _

theorem finishReadOps_completes (call : GrpcCall) :
    Completes (ReadCompletes call.readState call.haveAlarm call.popMessage.2) call.popMessage.1
      call.finishReadOps := by
  unfold finishReadOps
  dsimp only
  rw [popMessage_readState]
  cases hr : call.readState with
  | initial => exact .refl
  | gotInitialMetadata => exact Completes.refl.finish _ _ ⟨rfl, by simp⟩
  | readClosed =>
      apply finishReadClosed_completes <;> simp [ReadCompletes]
  | streamClosed =>
      have hclose : Completes (ReadCompletes .streamClosed call.haveAlarm call.popMessage.2)
          call.popMessage.1 (if call.popMessage.2 && !call.popMessage.1.haveAlarm then
            call.popMessage.1.finishIoreqOp .recvClose true else call.popMessage.1) := by
        split
        · next h =>
            rw [popMessage_haveAlarm, Bool.and_eq_true, Bool.not_eq_true'] at h
            exact Completes.refl.finish _ _ ⟨rfl, rfl, h.1, h.2⟩
        · exact .refl
      apply hclose.trans
      apply finishReadClosed_completes <;> simp [ReadCompletes]

end CrowdSound.Core.GrpcCall
