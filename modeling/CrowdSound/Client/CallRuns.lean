import CrowdSound.Client.GRPCCall

/-!
# The batches of a call object

Every batch of a call object is one operation, and its tag says which. What completes it fits the
operation: only a read brings a message, and a status batch always brings a status.
-/

namespace CrowdSound.Client

open CrowdSound.Core CrowdSound.Core.GrpcCall OpGroups

/-- The tag of the batch that a primitive operation belongs to; a client has no use for the last
two. -/
def tagOf : IoreqOp → Nat
  | .sendInitialMetadata => Handler.sendMetadata.tag
  | .recvInitialMetadata => Handler.recvMetadata.tag
  | .recvStatus | .recvStatusDetails | .recvTrailingMetadata | .recvClose =>
    Handler.recvStatus.tag
  | .recvMessage => Handler.recvMessage.tag
  | .sendMessage => Handler.sendMessage.tag
  | .sendClose => Handler.sendClose.tag
  | .sendTrailingMetadata | .sendStatus => 6

def GRPCOperation.requests : GRPCOperation → List Ioreq
  | sendMetadata metadata => [⟨.sendInitialMetadata, 0, .sendMetadata metadata⟩]
  | recvMetadata => [⟨.recvInitialMetadata, 0, .nothing⟩]
  | recvStatus => [⟨.recvStatus, 0, .recvStatus id⟩, ⟨.recvStatusDetails, 0, .nothing⟩,
      ⟨.recvTrailingMetadata, 0, .nothing⟩, ⟨.recvClose, 0, .nothing⟩]
  | recvMessage => [⟨.recvMessage, 0, .nothing⟩]
  | sendMessage message => [⟨.sendMessage, 0, .sendMessage ⟨.none, [message]⟩⟩]
  | sendClose => [⟨.sendClose, 0, .nothing⟩]

private theorem rewriteOp_batch {call : GrpcCall} (h : call.isClient = true)
    (operation : GRPCOperation) :
    call.rewriteOp ⟨operation.op, 0⟩ = .ok operation.requests := by
  cases operation <;> simp [GRPCOperation.op, GRPCOperation.requests, rewriteOp, h,
    areWriteFlagsValid]

private theorem rewriteOps_batch {call : GrpcCall} (h : call.isClient = true)
    (operation : GRPCOperation) :
    call.rewriteOps [] operation.batch = .ok operation.requests := by
  have hroom : ¬ ([] : List Ioreq).length + operation.requests.length > IoreqOp.count := by
    cases operation <;> simp [GRPCOperation.requests, IoreqOp.count]
  rw [GRPCOperation.batch, rewriteOps, rewriteOp_batch h]
  dsimp only
  rw [if_neg hroom]
  rfl

private theorem rewriteOp_requests {call : GrpcCall} {operation : GRPCOperation} {reqs : List Ioreq}
    (h : call.rewriteOp ⟨operation.op, 0⟩ = .ok reqs) : reqs = operation.requests := by
  cases hclient : call.isClient with
  | true =>
      rw [rewriteOp_batch hclient] at h
      exact (Except.ok.inj h).symm
  | false =>
      cases operation <;> simp [GRPCOperation.op, rewriteOp, hclient, areWriteFlagsValid] at h
      all_goals exact h.symm

theorem GRPCOperation.requests_tag (operation : GRPCOperation) :
    ∀ req ∈ operation.requests, tagOf req.op = operation.handler.tag := by
  cases operation <;> simp [GRPCOperation.requests, GRPCOperation.handler, tagOf]

private theorem GRPCOperation.requests_all {operation : GRPCOperation} {op : IoreqOp}
    (h : tagOf op = operation.handler.tag) : ∃ req ∈ operation.requests, req.op = op := by
  cases operation <;> cases op <;>
    simp [GRPCOperation.requests, GRPCOperation.handler, tagOf, Handler.tag] at h ⊢

private theorem GRPCOperation.requests_nodup (operation : GRPCOperation) :
    (operation.requests.map Ioreq.op).Nodup := by
  cases operation <;> simp [GRPCOperation.requests]

def IsOperation : CallEvent → Prop
  | .startBatch ops tag =>
    ∃ operation : GRPCOperation, ops = operation.batch ∧ tag = operation.handler.tag
  | _ => True

theorem IsOperation.single {e : CallEvent} (h : IsOperation e) : SingleBatch tagOf e := by
  cases e with
  | startBatch ops tag =>
      obtain ⟨operation, rfl, rfl⟩ := h
      refine ⟨⟨operation.op, 0⟩, rfl, ?_⟩
      intro call reqs hreqs
      rw [rewriteOp_requests hreqs]
      exact operation.requests_tag
  | _ => trivial

/-- What the tag of a group says of the operations in it. -/
def label (op : IoreqOp) : BatchTag :=
  ⟨if tagOf op = Handler.recvStatus.tag then .finishBatchWithClose else .finishBatch, tagOf op⟩

structure Labelled (g : Groups IoreqOp BatchTag) : Prop where
  tag : ∀ op l, g.slot op = .group l → (g.master l).tag = label op
  paired : ∀ op l, tagOf op = Handler.recvStatus.tag → g.slot op = .group l →
    g.slot .recvStatus = .group l

theorem Labelled.tagged {g : Groups IoreqOp BatchTag} (h : Labelled g) : Tagged tagOf g := by
  intro op l hl
  rw [h.tag op l hl]
  rfl

structure Fits (completion : Completion) : Prop where
  message : completion.results.recvMessage ≠ none → completion.tag = Handler.recvMessage.tag
  status : completion.tag = Handler.recvStatus.tag →
    completion.success = true ∧ completion.results.recvStatus ≠ none

private theorem finishIoreqOp_labelled {call : GrpcCall} (op : IoreqOp) (success : Bool)
    (h : Labelled call.groups) : Labelled (call.finishIoreqOp op success).groups := by
  constructor
  · intro op' l hl
    rw [finishIoreqOp_master_tag]
    exact h.tag op' l (finishIoreqOp_paired op success (fun _ hs => hs) hl).1
  · intro op' l htag hl
    exact (finishIoreqOp_paired op success (fun set hs => h.paired op' set htag hs) hl).2

theorem finishIoreqOp_fits {call : GrpcCall} (op : IoreqOp) (success : Bool)
    (hlabelled : Labelled call.groups)
    (h : ∀ completion ∈ completions call, Fits completion) :
    ∀ completion ∈ completions (call.finishIoreqOp op success), Fits completion := by
  rcases call.finishIoreqOp_cases op success with ⟨_, hf⟩ | ⟨s, hs, _, ⟨_, hf⟩ | ⟨_, hf⟩⟩
  · rw [hf]
    exact h
  · rw [hf]
    exact h
  · intro completion hmem
    have htag := hlabelled.tag op s hs
    have hcq : (call.finishIoreqOp op success).cq = call.cq := finishIoreqOp_cq _ _ _
    rw [completions, hcq, hf, completed_requests, List.map_append, ← List.append_assoc,
      List.mem_append] at hmem
    rcases hmem with hold | hnew
    · exact h completion hold
    · rw [List.map_singleton, List.mem_singleton] at hnew
      subst hnew
      constructor
      · intro hmessage
        rw [endOp_tag]
        rw [endOp_results] at hmessage
        have hmember : .recvMessage ∈ call.members s := by
          by_contra hno
          simp [memberResults, hno] at hmessage
        rw [hlabelled.tag _ s (mem_members.mp hmember)]
        rfl
      · intro hstatus
        rw [endOp_tag] at hstatus
        have hop : tagOf op = Handler.recvStatus.tag := by
          rw [← hstatus]
          exact congrArg BatchTag.userData htag.symm
        have hmember : .recvStatus ∈ call.members s :=
          mem_members.mpr (hlabelled.paired op s hop hs)
        rw [endOp_results]
        refine ⟨?_, by simp [memberResults, hmember]⟩
        have honComplete : (call.groups.master s).tag.onComplete = .finishBatchWithClose := by
          rw [htag, label, if_pos hop]
        simp [CompletedRequest.endOp, honComplete]

private theorem batchTag_batch {operation : GRPCOperation} {op : IoreqOp}
    (h : tagOf op = operation.handler.tag) :
    batchTag operation.batch operation.handler.tag = label op := by
  rw [label, h]
  cases operation <;> rfl

private theorem opened_labelled {call c : GrpcCall} {operation : GRPCOperation} {set : IoreqOp}
    {haveOps : Finset IoreqOp} (hwf : call.groups.WellFormed) (h : Labelled call.groups)
    (hs : Started call operation.requests set haveOps c) :
    Labelled (c.opened set haveOps
      (batchTag operation.batch operation.handler.tag)).groups := by
  have hmem : ∀ op ∈ haveOps, tagOf op = operation.handler.tag := by
    intro op hop
    obtain ⟨req, hreq, rfl⟩ := (hs.ops op).mp hop
    exact operation.requests_tag req hreq
  constructor
  · intro op l hl
    rw [hs.opened_slot] at hl
    by_cases hop : op ∈ haveOps
    · rw [if_pos hop] at hl
      have hset : set = l := Slot.group.inj hl
      subst hset
      rw [opened_tag]
      exact batchTag_batch (hmem op hop)
    · rw [if_neg hop] at hl
      rw [hs.opened_master hwf _ hl]
      exact h.tag op l hl
  · intro op l htag hl
    rw [hs.opened_slot] at hl ⊢
    by_cases hop : op ∈ haveOps
    · rw [if_pos hop] at hl
      have hstatus : operation.handler.tag = Handler.recvStatus.tag :=
        (hmem op hop).symm.trans htag
      have hreads : IoreqOp.recvStatus ∈ haveOps := by
        rw [hs.ops]
        have hhandler := Handler.tag_injective hstatus
        cases operation with
        | recvStatus => simp [GRPCOperation.requests]
        | _ => exact absurd hhandler (by simp [GRPCOperation.handler])
      rw [if_pos hreads]
      exact hl
    · rw [if_neg hop] at hl
      have hold := h.paired op l htag hl
      have hfree : IoreqOp.recvStatus ∉ haveOps := by
        intro hin
        rw [hs.claimed.free _ hin] at hold
        simp at hold
      rw [if_neg hfree]
      exact hold

/-- What the call object knows of its call between two events, of which `accepted` are the
batches it has started. -/
structure OneByOne (accepted : List Nat) (call : GrpcCall) : Prop where
  client : call.groups.slot .sendStatus = .done
  isClient : call.isClient = true
  accounts : Accounts accepted call
  settled : call.Settled
  labelled : Labelled call.groups
  fresh : Fresh tagOf accepted call.groups
  used : ∀ op : IoreqOp, op.reusable = false → tagOf op ∈ accepted →
    call.groups.slot op ≠ .empty
  fits : ∀ completion ∈ completions call, Fits completion

private theorem finishIoreqOp_used {call : GrpcCall} {op : IoreqOp} (op' : IoreqOp) (success : Bool)
    (hop : op.reusable = false) (h : call.groups.slot op ≠ .empty) :
    (call.finishIoreqOp op' success).groups.slot op ≠ .empty := by
  rcases call.finishIoreqOp_slot_cases op' success op with hs | ⟨_, hs⟩
  · rw [hs]
    exact h
  · simp [hs, hop]

private theorem OneByOne.step_used {accepted : List Nat} {call call' : GrpcCall} {e : CallEvent}
    (h : OneByOne accepted call) (he : IsOperation e) (hstep : call.step e = .ok call') :
    ∀ op : IoreqOp, op.reusable = false → tagOf op ∈ accepted ++ call.acceptedBatches e →
      call'.groups.slot op ≠ .empty := by
  intro op hop htag
  apply step_batches (I := fun c => c.groups.slot op ≠ .empty) _
    (fun c op' success hc => finishIoreqOp_used op' success hop hc) (fun _ hc => hc) _ _ _ h.client
    _ hstep
  · intro c c' hc hused
    rwa [hc.groups]
  · intro tag hbatch
    subst hbatch
    obtain ⟨operation, hnil, _⟩ := he
    exact absurd hnil (by simp [GRPCOperation.batch])
  · intro ops tag reqs set haveOps c hbatch hreqs hs hok
    subst hbatch
    obtain ⟨operation, rfl, rfl⟩ := he
    rw [rewriteOps_batch h.isClient] at hreqs
    cases hreqs
    rw [hs.opened_slot]
    rw [acceptedBatches, if_pos hok, List.mem_append, List.mem_singleton] at htag
    by_cases hmem : op ∈ haveOps
    · simp [hmem]
    · rw [if_neg hmem]
      rcases htag with hold | hnew
      · exact h.used op hop hold
      · exact absurd ((hs.ops op).mpr (GRPCOperation.requests_all hnew)) hmem
  · intro hd
    subst hd
    have hnone : call.acceptedBatches .destroy = [] := rfl
    rw [hnone, List.append_nil] at htag
    exact h.used op hop htag
  · intro hnone
    rw [hnone, List.append_nil] at htag
    exact h.used op hop htag

private theorem OneByOne.step_fits {accepted : List Nat} {call call' : GrpcCall} {e : CallEvent}
    (h : OneByOne accepted call) (he : IsOperation e) (hstep : call.step e = .ok call') :
    Labelled call'.groups ∧ ∀ completion ∈ completions call', Fits completion := by
  apply step_batches (I := fun c => Labelled c.groups ∧
    ∀ completion ∈ completions c, Fits completion) _ _ _ _ _ _ h.client
    (fun _ => ⟨h.labelled, h.fits⟩) hstep
  · rintro c c' hc ⟨hl, hf⟩
    rw [completions, hc.cq, hc.completedRequests, hc.groups]
    exact ⟨hl, hf⟩
  · exact fun c op success hc =>
      ⟨finishIoreqOp_labelled op success hc.1, finishIoreqOp_fits op success hc.1 hc.2⟩
  · rintro c ⟨hl, hf⟩
    refine ⟨hl, ?_⟩
    rw [completions, flushCompleted, List.map_nil, List.append_nil]
    exact hf
  · intro tag hbatch
    subst hbatch
    obtain ⟨operation, hnil, _⟩ := he
    exact absurd hnil (by simp [GRPCOperation.batch])
  · intro ops tag reqs set haveOps c hbatch hreqs hs _
    subst hbatch
    obtain ⟨operation, rfl, rfl⟩ := he
    rw [rewriteOps_batch h.isClient] at hreqs
    cases hreqs
    refine ⟨opened_labelled h.accounts.1 h.labelled hs, ?_⟩
    rw [hs.opened_eq h.client]
    exact h.fits
  · exact fun _ => ⟨h.labelled, h.fits⟩

theorem OneByOne.step {accepted : List Nat} {call call' : GrpcCall} {e : CallEvent}
    (h : OneByOne accepted call) (he : IsOperation e) (hstep : call.step e = .ok call') :
    OneByOne (accepted ++ call.acceptedBatches e) call' := by
  obtain ⟨_, hfresh⟩ :=
    step_single he.single h.client h.accounts.1 h.labelled.tagged h.fresh hstep
  obtain ⟨hlabelled, hfits⟩ := h.step_fits he hstep
  have haccounts := step_accounts h.accounts hstep
  rw [add_comm, Multiset.coe_add] at haccounts
  exact ⟨step_done h.client hstep, (step_kept h.client hstep).1.trans h.isClient, haccounts,
    step_settled h.settled hstep, hlabelled, hfresh, h.step_used he hstep, hfits⟩

theorem create_oneByOne (maxMessageLength : UInt32) (sendInitialMetadata : List Metadata)
    (sendDeadline : Bool) :
    OneByOne [] (create true maxMessageLength sendInitialMetadata sendDeadline) := by
  have hslot : ∀ op l, (create true maxMessageLength sendInitialMetadata
      sendDeadline).groups.slot op ≠ .group l := by
    intro op l
    simp only [create]
    split <;> simp
  refine ⟨rfl, rfl, create_accounts _ _ _ _, create_settled _ _ _ _, ⟨?_, ?_⟩, ⟨?_, ?_⟩, ?_, ?_⟩
  · exact fun op l hl => absurd hl (hslot op l)
  · exact fun op l _ hl => absurd hl (hslot op l)
  · intro op htrailing hstatus _
    simp [create, htrailing, hstatus]
  · intro op hop
    cases op <;> simp [create] <;> exact absurd hop (by decide)
  · exact fun _ _ htag => absurd htag List.not_mem_nil
  · exact fun _ hc => absurd hc List.not_mem_nil

/-- The metadata of an operation pass the check of the core. -/
def GRPCOperation.isLegal : GRPCOperation → Bool
  | sendMetadata metadata => metadata.all Metadata.isLegal
  | _ => true

private theorem GRPCOperation.isLegal_iff (operation : GRPCOperation) :
    operation.isLegal = true ↔
      ∀ req ∈ operation.requests, isLegalData req.op req.data = true := by
  cases operation <;> simp [GRPCOperation.isLegal, GRPCOperation.requests, isLegalData]

theorem OneByOne.startBatch_ok_iff {accepted : List Nat} {call : GrpcCall}
    (h : OneByOne accepted call) (operation : GRPCOperation) :
    (call.startBatch operation.batch operation.handler.tag).2 = .ok ↔
      operation.isLegal = true ∧
        ∀ req ∈ operation.requests, call.groups.slot req.op = .empty := by
  rw [Core.GrpcCall.startBatch_ok_iff, operation.isLegal_iff]
  constructor
  · rintro (hnil | ⟨reqs, hreqs, _, hall⟩)
    · exact absurd hnil (by simp [GRPCOperation.batch])
    · rw [rewriteOps_batch h.isClient] at hreqs
      cases hreqs
      exact ⟨fun req hreq => (hall req hreq).2, fun req hreq => (hall req hreq).1⟩
  · rintro ⟨hlegal, hempty⟩
    exact Or.inr ⟨_, rewriteOps_batch h.isClient operation, operation.requests_nodup,
      fun req hreq => ⟨hempty req hreq, hlegal req hreq⟩⟩

end CrowdSound.Client
