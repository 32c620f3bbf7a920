import CrowdSound.Core.Frames
import Mathlib.Algebra.Order.Group.Multiset
import Mathlib.Tactic.Abel

/-!
# Every batch completes at most once

The batches that a call accepted are those that it has reported and those whose groups are
outstanding. Nothing else is ever reported, and nothing is reported twice.
-/

namespace CrowdSound.Core.GrpcCall

open OpGroups

/-- The tags of the batches that were reported or wait to be. -/
def reported (call : GrpcCall) : List Nat :=
  call.cq.map Completion.tag ++ call.completedRequests.map fun r => r.tag.userData

def outstanding (call : GrpcCall) : Multiset Nat :=
  call.groups.outstanding.map BatchTag.userData

def accounted (call : GrpcCall) : Multiset Nat := call.reported + call.outstanding

private theorem SameRequests.accounted {c c' : GrpcCall} (h : SameRequests c c') :
    c'.accounted = c.accounted := by
  rw [GrpcCall.accounted, GrpcCall.accounted, reported, reported, outstanding, outstanding, h.cq,
    h.completedRequests, h.groups]

theorem endOp_tag (r : CompletedRequest) : r.endOp.tag = r.tag.userData := by
  unfold CompletedRequest.endOp
  split <;> rfl

private theorem flushCompleted_accounted (call : GrpcCall) :
    call.flushCompleted.accounted = call.accounted := by
  simp [accounted, reported, outstanding, flushCompleted, Function.comp_def, endOp_tag]

theorem startRecv_reported (call : GrpcCall) :
    call.startRecv.1.cq = call.cq ∧
      call.startRecv.1.completedRequests = call.completedRequests := by
  rcases call.startRecv_cases with ⟨_, _, _, h⟩ | ⟨_, h⟩ <;> rw [h] <;> exact ⟨rfl, rfl⟩

private theorem fillMessageAndClose_reported (call : GrpcCall) (sent : Option SendOps) :
    (call.fillMessageAndClose sent).1.cq = call.cq ∧
      (call.fillMessageAndClose sent).1.completedRequests = call.completedRequests := by
  have hmessage : (call.fillMessage sent).1.cq = call.cq ∧
      (call.fillMessage sent).1.completedRequests = call.completedRequests := by
    unfold fillMessage
    split <;> exact ⟨rfl, rfl⟩
  have hclose : ∀ (c : GrpcCall) (sent : Option SendOps), (c.fillClose sent).1.cq = c.cq ∧
      (c.fillClose sent).1.completedRequests = c.completedRequests := by
    intro c sent
    unfold fillClose
    split <;> exact ⟨rfl, rfl⟩
  rw [← hmessage.1, ← hmessage.2]
  exact hclose _ _

theorem startSend_reported (call : GrpcCall) :
    call.startSend.1.cq = call.cq ∧
      call.startSend.1.completedRequests = call.completedRequests := by
  unfold startSend fillSendOps
  split
  · exact ⟨rfl, rfl⟩
  · cases call.writeState with
    | initial =>
        dsimp only
        split
        · exact fillMessageAndClose_reported _ _
        · exact ⟨rfl, rfl⟩
    | started => exact fillMessageAndClose_reported _ _
    | writeClosed => exact ⟨rfl, rfl⟩

private theorem unlock_accounted (call : GrpcCall) : call.unlock.accounted = call.accounted := by
  have hrecv := startRecv_reported { call with cancelWithStatus := .ok }
  have hsend := startSend_reported (startRecv { call with cancelWithStatus := .ok }).1
  have hgroups := ((startRecv_same { call with cancelWithStatus := .ok }).trans
    (startSend_same _)).groups
  unfold unlock
  dsimp only
  rw [flushCompleted_accounted]
  simp only [accounted, reported, outstanding]
  rw [hsend.1, hsend.2, hrecv.1, hrecv.2, hgroups]

/-- The groups are well formed and account for the batches `tags`. -/
def Accounts (tags : Multiset Nat) (call : GrpcCall) : Prop :=
  call.groups.WellFormed ∧ call.accounted = tags

private theorem Accounts.congr {tags : Multiset Nat} {c c' : GrpcCall} (h : Accounts tags c)
    (hgroups : c'.groups = c.groups) (haccounted : c'.accounted = c.accounted) :
    Accounts tags c' :=
  ⟨hgroups ▸ h.1, haccounted.trans h.2⟩

private theorem Accounts.same {tags : Multiset Nat} {c c' : GrpcCall} (h : Accounts tags c)
    (hsame : SameRequests c c') : Accounts tags c' :=
  h.congr hsame.groups hsame.accounted

private theorem Accounts.unlock {tags : Multiset Nat} {call : GrpcCall} (h : Accounts tags call) :
    Accounts tags call.unlock :=
  h.congr call.unlock_same.groups call.unlock_accounted

theorem finishIoreqOp_accounts {tags : Multiset Nat} (call : GrpcCall) (op : IoreqOp)
    (success : Bool) (h : Accounts tags call) :
    Accounts tags (call.finishIoreqOp op success) := by
  obtain ⟨hwf, htags⟩ := h
  rcases call.finishIoreqOp_cases op success with ⟨_, h⟩ | ⟨set, hset, _, ⟨hmore, h⟩ | ⟨_, h⟩⟩
  · rw [h]
    exact ⟨hwf, htags⟩
  · rw [h]
    refine ⟨hwf.mark success hset hmore, ?_⟩
    rw [← htags]
    simp [accounted, reported, outstanding, marked, Groups.outstanding_mark]
  · rw [h, completeGroup_eq]
    refine ⟨hwf.release IoreqOp.reusable set op success, ?_⟩
    have hleader : (call.groups.mark set op success).slot set = .group set :=
      hwf.leader op set hset
    have hout := Groups.outstanding_release IoreqOp.reusable hleader
    rw [Groups.outstanding_mark] at hout
    rw [← htags]
    simp only [accounted, reported, outstanding, marked, finishMembers, hout, Multiset.map_add,
      Multiset.map_singleton, List.map_append, List.map_cons, List.map_nil, ← Multiset.coe_add,
      Multiset.coe_singleton, ← Multiset.singleton_add, add_assoc]

theorem completes_accounts {P : IoreqOp → Bool → Prop} {tags : Multiset Nat}
    {call call' : GrpcCall} (hc : Completes P call call') (h : Accounts tags call) :
    Accounts tags call' :=
  hc.invariant (fun call op success _ => finishIoreqOp_accounts call op success)
    (fun _ _ h => h.congr rfl rfl) h

theorem popMessage_accounts {tags : Multiset Nat} {call : GrpcCall} (h : Accounts tags call) :
    Accounts tags call.popMessage.1 := by
  rcases call.popMessage_cases with ⟨_, hpop⟩ | ⟨_, _, hpop⟩ | ⟨message, rest, _, _, hpop⟩ <;>
    rw [hpop]
  · exact h
  · exact h.congr rfl rfl
  · apply finishIoreqOp_accounts
    exact h.congr rfl rfl

theorem finishReadOps_accounts {tags : Multiset Nat} {call : GrpcCall}
    (h : Accounts tags call) : Accounts tags call.finishReadOps :=
  completes_accounts call.finishReadOps_completes (popMessage_accounts h)

/-- The call `call` has claimed `haveOps`, which were free in `before`. -/
structure Claimed (set : IoreqOp) (before : GrpcCall) (haveOps : Finset IoreqOp)
    (call : GrpcCall) : Prop where
  slots : ∀ op, call.groups.slot op =
    if op ∈ haveOps then .group set else before.groups.slot op
  free : ∀ op ∈ haveOps, before.groups.slot op = .empty
  master : call.groups.master = before.groups.master
  data : ∀ op, op ∉ haveOps → call.requestData op = before.requestData op ∧
    call.requestFlags op = before.requestFlags op
  reported : call.reported = before.reported
  rest : before.groups.slot .sendStatus = .done →
    call = { before with
      groups := call.groups
      requestData := call.requestData
      requestFlags := call.requestFlags }

private theorem Claimed.refl (set : IoreqOp) (call : GrpcCall) : Claimed set call ∅ call where
  slots op := by simp
  free op h := absurd h (Finset.notMem_empty op)
  master := rfl
  data _ _ := ⟨rfl, rfl⟩
  reported := rfl
  rest _ := rfl

private theorem sentStatus_same (call : GrpcCall) (req : Ioreq) :
    SameRequests call
      (if req.op = .sendStatus then call.setSendStatus req.data else call) := by
  split
  · exact call.setSendStatus_same req.data
  · exact .refl call

private theorem claimIoreq_groups (call : GrpcCall) (set : IoreqOp) (req : Ioreq) :
    (call.claimIoreq set req).groups = call.groups.claim set req.op := by
  simp only [claimIoreq, (call.sentStatus_same req).groups]

private theorem claimIoreq_data (call : GrpcCall) (set : IoreqOp) (req : Ioreq) :
    (call.claimIoreq set req).requestData =
        Function.update call.requestData req.op req.data ∧
      (call.claimIoreq set req).requestFlags =
        Function.update call.requestFlags req.op req.flags := by
  simp only [claimIoreq, (call.sentStatus_same req).requestData,
    (call.sentStatus_same req).requestFlags, and_self]

private theorem claimIoreq_reported (call : GrpcCall) (set : IoreqOp) (req : Ioreq) :
    (call.claimIoreq set req).reported = call.reported := by
  simp only [claimIoreq, reported, (call.sentStatus_same req).cq,
    (call.sentStatus_same req).completedRequests]

private theorem Claimed.claim {set : IoreqOp} {before call : GrpcCall} {haveOps : Finset IoreqOp}
    (h : Claimed set before haveOps call) (req : Ioreq)
    (hfree : call.groups.slot req.op = .empty) :
    req.op ∉ haveOps ∧ Claimed set before (insert req.op haveOps) (call.claimIoreq set req) := by
  have hnew : req.op ∉ haveOps := by
    intro hmem
    rw [h.slots, if_pos hmem] at hfree
    simp at hfree
  have hbefore : before.groups.slot req.op = .empty := by
    rw [h.slots, if_neg hnew] at hfree
    exact hfree
  refine ⟨hnew, ?_⟩
  constructor
  · intro op
    rw [claimIoreq_groups]
    by_cases hop : op = req.op
    · subst hop
      simp
    · rw [Groups.claim_slot_of_ne _ _ hop, h.slots]
      simp [hop]
  · intro op hop
    rcases Finset.mem_insert.mp hop with rfl | hop
    · exact hbefore
    · exact h.free op hop
  · rw [claimIoreq_groups, Groups.claim_master, h.master]
  · intro op hop
    rw [Finset.mem_insert, not_or] at hop
    rw [(call.claimIoreq_data set req).1, (call.claimIoreq_data set req).2,
      Function.update_of_ne hop.1, Function.update_of_ne hop.1]
    exact h.data op hop.2
  · rw [claimIoreq_reported, h.reported]
  · intro hdone
    have hne : req.op ≠ .sendStatus := by
      intro hop
      rw [hop, hdone] at hbefore
      simp at hbefore
    unfold claimIoreq
    rw [if_neg hne, h.rest hdone]

theorem claimIoreqs_claimed {set : IoreqOp} {before : GrpcCall} (reqs : List Ioreq)
    {call : GrpcCall} {haveOps : Finset IoreqOp} (h : Claimed set before haveOps call) :
    let r := claimIoreqs set call haveOps reqs
    Claimed set before r.2.1 r.1 ∧
      (r.2.2 = .ok →
        (∀ op, op ∈ r.2.1 ↔ op ∈ haveOps ∨ ∃ req ∈ reqs, req.op = op) ∧
        (∀ op ∈ haveOps, r.1.requestData op = call.requestData op ∧
          r.1.requestFlags op = call.requestFlags op) ∧
        ∀ req ∈ reqs, r.1.requestData req.op = req.data ∧ r.1.requestFlags req.op = req.flags) := by
  induction reqs generalizing call haveOps with
  | nil => exact ⟨h, fun _ => ⟨fun op => by simp [claimIoreqs], fun _ _ => ⟨rfl, rfl⟩, by simp⟩⟩
  | cons req reqs ih =>
      simp only [claimIoreqs]
      cases hslot : call.groups.slot req.op with
      | group l => exact ⟨h, by simp⟩
      | done => exact ⟨h, by simp⟩
      | empty =>
          cases isLegalData req.op req.data with
          | false => exact ⟨h, by simp⟩
          | true =>
              obtain ⟨hnew, hclaim⟩ := h.claim req hslot
              obtain ⟨hclaimed, hall⟩ := ih hclaim
              refine ⟨hclaimed, ?_⟩
              intro hok
              obtain ⟨hops, hkept, hdata⟩ := hall hok
              rw [(call.claimIoreq_data set req).1, (call.claimIoreq_data set req).2] at hkept
              refine ⟨?_, ?_, ?_⟩
              · intro op
                refine (hops op).trans ?_
                simp only [Finset.mem_insert, List.mem_cons, exists_eq_or_imp]
                rw [or_comm (a := op = req.op), or_assoc, eq_comm]
              · intro op hop
                have hne : op ≠ req.op := fun hop' => hnew (hop' ▸ hop)
                have hk := hkept op (Finset.mem_insert_of_mem hop)
                rw [Function.update_of_ne hne, Function.update_of_ne hne] at hk
                exact hk
              · intro req' hreq'
                rcases List.mem_cons.mp hreq' with rfl | hreq'
                · have hk := hkept req'.op (Finset.mem_insert_self _ _)
                  rw [Function.update_self, Function.update_self] at hk
                  exact hk
                · exact hdata req' hreq'

/-- Claiming succeeds exactly when the operations are different ones, free and with legal data. -/
theorem claimIoreqs_ok_iff (set : IoreqOp) (reqs : List Ioreq) (call : GrpcCall)
    (haveOps : Finset IoreqOp) :
    (claimIoreqs set call haveOps reqs).2.2 = .ok ↔
      (reqs.map Ioreq.op).Nodup ∧
        ∀ req ∈ reqs, call.groups.slot req.op = .empty ∧ isLegalData req.op req.data = true := by
  induction reqs generalizing call haveOps with
  | nil => simp [claimIoreqs]
  | cons req reqs ih =>
      simp only [claimIoreqs, List.map_cons, List.nodup_cons, List.mem_cons, forall_eq_or_imp]
      cases hslot : call.groups.slot req.op with
      | group l => simp
      | done => simp
      | empty =>
          cases hlegal : isLegalData req.op req.data with
          | false => simp
          | true =>
              simp only [Bool.not_true, Bool.false_eq_true, if_false, true_and, ih,
                claimIoreq_groups]
              rw [and_comm (a := req.op ∉ _), and_assoc]
              apply and_congr_right
              intro _
              constructor
              · intro h
                refine ⟨?_, ?_⟩
                · intro hmem
                  obtain ⟨req', hreq', hop⟩ := List.mem_map.mp hmem
                  have hfree := (h req' hreq').1
                  rw [hop, Groups.claim_slot_self] at hfree
                  simp at hfree
                · intro req' hreq'
                  obtain ⟨hfree, hdata⟩ := h req' hreq'
                  refine ⟨?_, hdata⟩
                  by_cases hop : req'.op = req.op
                  · rw [hop, hslot]
                  · rwa [Groups.claim_slot_of_ne _ _ hop] at hfree
              · intro ⟨hnew, h⟩ req' hreq'
                have hop : req'.op ≠ req.op := by
                  intro hop
                  exact hnew (List.mem_map.mpr ⟨req', hreq', hop⟩)
                rw [Groups.claim_slot_of_ne _ _ hop]
                exact h req' hreq'

private theorem Claimed.unclaim {set : IoreqOp} {before call : GrpcCall} {haveOps : Finset IoreqOp}
    (h : Claimed set before haveOps call) :
    call.groups.unclaim haveOps = before.groups := by
  have hslot : (call.groups.unclaim haveOps).slot = before.groups.slot := by
    funext op
    simp only [Groups.unclaim, h.slots]
    by_cases hop : op ∈ haveOps
    · simp [hop, h.free op hop]
    · simp [hop]
  have hmaster : (call.groups.unclaim haveOps).master = before.groups.master := h.master
  exact congrArg₂ Groups.mk hslot hmaster

/-- The operations of a request that was accepted. -/
structure Started (call : GrpcCall) (reqs : List Ioreq) (set : IoreqOp)
    (haveOps : Finset IoreqOp) (call' : GrpcCall) : Prop where
  claimed : Claimed set call haveOps call'
  leader : set ∈ haveOps
  ops : ∀ op, op ∈ haveOps ↔ ∃ req ∈ reqs, req.op = op
  data : ∀ req ∈ reqs, call'.requestData req.op = req.data ∧
    call'.requestFlags req.op = req.flags

theorem startIoreq_cases (call : GrpcCall) (reqs : List Ioreq) (tag : BatchTag)
    (hreqs : reqs ≠ []) :
    (∃ set haveOps c, Started call reqs set haveOps c ∧ call.startIoreq reqs tag =
      ({ c with groups := c.groups.setUp set haveOps tag }.finishReadOps.earlyOutWriteOps,
        .ok)) ∨
    ∃ set haveOps c e, Claimed set call haveOps c ∧ e ≠ .ok ∧
      call.startIoreq reqs tag = ({ c with groups := call.groups }, e) := by
  cases reqs with
  | nil => exact absurd rfl hreqs
  | cons req reqs =>
      have hc := claimIoreqs_claimed (req :: reqs) (Claimed.refl req.op call)
      unfold startIoreq
      dsimp only at hc ⊢
      generalize claimIoreqs req.op call ∅ (req :: reqs) = r at hc
      rcases r with ⟨c, haveOps, e⟩
      obtain ⟨hclaimed, hall⟩ := hc
      have hrefused : ∀ e : CallError, e ≠ .ok →
          ∃ set haveOps' c' e', Claimed set call haveOps' c' ∧ e' ≠ .ok ∧
            (({ c with groups := c.groups.unclaim haveOps }, e) : GrpcCall × CallError) =
              ({ c' with groups := call.groups }, e') := by
        intro e he
        exact ⟨req.op, haveOps, c, e, hclaimed, he, by rw [hclaimed.unclaim]⟩
      cases e with
      | ok =>
          obtain ⟨hops, _, hdata⟩ := hall rfl
          refine Or.inl ⟨req.op, haveOps, c, ⟨hclaimed, ?_, ?_, hdata⟩, rfl⟩
          · simp [hops]
          · simpa using hops
      | _ => exact Or.inr (hrefused _ (by decide))

theorem startIoreq_ok_iff (call : GrpcCall) (reqs : List Ioreq) (tag : BatchTag) :
    (call.startIoreq reqs tag).2 = .ok ↔
      (reqs.map Ioreq.op).Nodup ∧
        ∀ req ∈ reqs, call.groups.slot req.op = .empty ∧ isLegalData req.op req.data = true := by
  cases reqs with
  | nil => simp [startIoreq]
  | cons req reqs =>
      rw [← claimIoreqs_ok_iff req.op (req :: reqs) call ∅]
      unfold startIoreq
      dsimp only
      generalize claimIoreqs req.op call ∅ (req :: reqs) = r
      rcases r with ⟨c, haveOps, e⟩
      cases e <;> simp

private theorem startIoreq_accounts {tags : Multiset Nat} {call : GrpcCall} (reqs : List Ioreq)
    (tag : BatchTag) (hreqs : reqs ≠ []) (h : Accounts tags call) :
    Accounts (if (call.startIoreq reqs tag).2 = .ok then tag.userData ::ₘ tags else tags)
      (call.startIoreq reqs tag).1 := by
  rcases call.startIoreq_cases reqs tag hreqs with
    ⟨set, haveOps, c, hs, hstart⟩ | ⟨set, haveOps, c, e, hc, he, hstart⟩
  · rw [hstart, if_pos rfl]
    have hc := hs.claimed
    apply completes_accounts (earlyOutWriteOps_completes _)
    apply finishReadOps_accounts
    refine ⟨h.1.setUp tag hs.leader hc.free hc.slots hc.master, ?_⟩
    have hout := Groups.outstanding_setUp tag hs.leader hc.free hc.slots hc.master
    have hreported : GrpcCall.reported
        { c with groups := c.groups.setUp set haveOps tag } = call.reported := hc.reported
    rw [← h.2, accounted, accounted, outstanding, outstanding, hout, hreported,
      Multiset.map_cons, Multiset.add_cons]
  · rw [hstart, if_neg he]
    refine h.congr rfl ?_
    have hreported : GrpcCall.reported { c with groups := call.groups } = call.reported :=
      hc.reported
    rw [accounted, accounted, hreported]
    rfl

def acceptedBatches (call : GrpcCall) : CallEvent → List Nat
  | .startBatch ops tag => if (call.startBatch ops tag).2 = .ok then [tag] else []
  | _ => []

private theorem startBatch_accounts {tags : Multiset Nat} {call : GrpcCall} (ops : List BatchOp)
    (tag : Nat) (h : Accounts tags call) :
    Accounts (call.acceptedBatches (.startBatch ops tag) + tags) (call.startBatch ops tag).1 := by
  simp only [acceptedBatches]
  rcases call.startBatch_cases ops tag with
    ⟨_, hb⟩ | ⟨e, he, _, hb⟩ | ⟨reqs, hreqs, _, hb⟩
  · rw [hb, if_pos rfl]
    refine ⟨h.1, ?_⟩
    rw [← h.2]
    simp only [accounted, reported, outstanding, List.map_append, List.map_cons, List.map_nil,
      ← Multiset.coe_add]
    abel
  · rw [hb, if_neg he]
    simpa using h
  · have hstart := (startIoreq_accounts reqs (batchTag ops tag) hreqs h).unlock
    rw [hb]
    by_cases hok : (call.startIoreq reqs (batchTag ops tag)).2 = .ok
    · rw [if_pos hok] at hstart ⊢
      simpa [Multiset.singleton_add, batchTag] using hstart
    · rw [if_neg hok] at hstart ⊢
      simpa using hstart

private theorem cancel_unlock_accounts {tags : Multiset Nat} {call : GrpcCall} (status : StatusCode)
    (description : Option Bytes) (h : Accounts tags call) :
    Accounts tags (call.cancel status description).unlock :=
  (h.same (cancel_same _ _ _)).unlock

theorem step_accounts {tags : Multiset Nat} {call call' : GrpcCall} {e : CallEvent}
    (h : Accounts tags call) (hstep : call.step e = .ok call') :
    Accounts (call.acceptedBatches e + tags) call' := by
  have hkept : ∀ {c : GrpcCall}, Accounts tags c →
      Accounts (((List.nil : List Nat) : Multiset Nat) + tags) c := by
    intro c hc
    simpa using hc
  have hstart : ∀ ops tag, e = .startBatch ops tag →
      Accounts (call.acceptedBatches e + tags) call' := by
    intro ops tag he
    subst he
    rw [← Except.ok.inj hstep]
    exact startBatch_accounts ops tag h
  cases step_cases hstep with
  | emptyBatch tag => exact hstart _ _ rfl
  | malformedBatch ops tag => exact hstart _ _ rfl
  | batch ops tag => exact hstart _ _ rfl
  | sent success =>
      have hc := completes_accounts (call.finishSends_completes success) h
      have hended : Accounts tags (call.sendEnded success) := hc.congr rfl rfl
      exact hkept hended.unlock
  | received ops state c c' _ hops hstate =>
      have hidle : Accounts tags call.recvEnded := h.congr rfl rfl
      have hc := (hidle.same (recvStreamOps_same hops)).same (recvStreamState_same hstate)
      exact hkept (finishReadOps_accounts hc).unlock
  | recvFailed =>
      have hidle : Accounts tags call.recvEnded := h.congr rfl rfl
      exact hkept (completes_accounts (failReadOps_completes _) hidle).unlock
  | cancelled status description => exact hkept (cancel_unlock_accounts status description h)
  | deadlineExceeded =>
      have hidle : Accounts tags call.alarmEnded := h.congr rfl rfl
      exact hkept (finishReadOps_accounts (hidle.same (cancel_same _ _ _))).unlock
  | alarmCancelled =>
      have hidle : Accounts tags call.alarmEnded := h.congr rfl rfl
      exact hkept (finishReadOps_accounts hidle).unlock
  | destroyedClosed =>
      have hd : Accounts tags call.destroyStarted := h.congr rfl rfl
      exact hkept hd.unlock
  | destroyed =>
      have hd : Accounts tags call.destroyStarted := h.congr rfl rfl
      exact hkept (cancel_unlock_accounts _ _ hd.unlock)

theorem create_accounts (isClient : Bool) (maxMessageLength : UInt32)
    (sendInitialMetadata : List Metadata) (sendDeadline : Bool) :
    Accounts 0 (create isClient maxMessageLength sendInitialMetadata sendDeadline) := by
  have hslot : ∀ op l, (create isClient maxMessageLength sendInitialMetadata
      sendDeadline).groups.slot op ≠ .group l := by
    intro op l
    simp only [create]
    split <;> simp
  refine ⟨⟨?_, ?_, ?_⟩, ?_⟩
  · exact fun op l h => absurd h (hslot op l)
  · exact fun l h => absurd h (hslot l l)
  · exact fun l h => absurd h (hslot l l)
  · have hleaders : (create isClient maxMessageLength sendInitialMetadata
        sendDeadline).groups.leaders = ∅ := by
      apply Finset.eq_empty_of_forall_notMem
      intro l hl
      exact hslot l l (Groups.mem_leaders.mp hl)
    rw [accounted, outstanding, Groups.outstanding, hleaders]
    rfl

end CrowdSound.Core.GrpcCall
