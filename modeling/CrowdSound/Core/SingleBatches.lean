import CrowdSound.Core.Waiting

/-!
# Batches of one operation

A client that starts every batch with one operation and tags it with its kind knows from the tags
that are outstanding which operations it can start. The messages it is handed come before an `ok`
status.
-/

namespace CrowdSound.Core.GrpcCall

open OpGroups

variable {tagOf : IoreqOp → Nat}

/-- A batch of one operation, tagged by the kinds of the operations it stands for. -/
def SingleBatch (tagOf : IoreqOp → Nat) : CallEvent → Prop
  | .startBatch ops tag => ∃ o, ops = [o] ∧
      ∀ (call : GrpcCall) reqs, call.rewriteOp o = .ok reqs → ∀ req ∈ reqs, tagOf req.op = tag
  | _ => True

private theorem step_groups {I : Groups IoreqOp BatchTag → Prop} {call call' : GrpcCall}
    {e : CallEvent}
    (hfinish : ∀ (c : GrpcCall) op success, I c.groups → I (c.finishIoreqOp op success).groups)
    (hopen : ∀ ops tag reqs set haveOps c, e = .startBatch ops tag →
      call.rewriteOps [] ops = .ok reqs → Started call reqs set haveOps c →
      (call.startBatch ops tag).2 = .ok → I (c.opened set haveOps (batchTag ops tag)).groups)
    (hclient : call.groups.slot .sendStatus = .done) (h : I call.groups)
    (hstep : call.step e = .ok call') : I call'.groups := by
  apply step_batches (I := fun c => I c.groups) _ hfinish (fun _ h => h) (fun _ _ => h) hopen
    (fun _ => h) hclient (fun _ => h) hstep
  intro c c' hc h
  rwa [hc.groups]

def Tagged (tagOf : IoreqOp → Nat) (g : Groups IoreqOp BatchTag) : Prop :=
  ∀ op l, g.slot op = .group l → (g.master l).tag.userData = tagOf op

/-- The operations whose tag was never accepted are free, the reusable ones are never done. -/
structure Fresh (tagOf : IoreqOp → Nat) (accepted : List Nat) (g : Groups IoreqOp BatchTag) :
    Prop where
  empty : ∀ op, op ≠ .sendTrailingMetadata → op ≠ .sendStatus → tagOf op ∉ accepted →
    g.slot op = .empty
  reusable : ∀ op : IoreqOp, op.reusable = true → g.slot op ≠ .done

theorem finishIoreqOp_master_tag (call : GrpcCall) (op : IoreqOp) (success : Bool) (l : IoreqOp) :
    ((call.finishIoreqOp op success).groups.master l).tag = (call.groups.master l).tag := by
  have hmark : ∀ leader, ((call.groups.mark leader op success).master l).tag =
      (call.groups.master l).tag := by
    intro leader
    by_cases hl : l = leader
    · subst hl
      simp
    · rw [Groups.mark_master_of_ne _ _ _ hl]
  rcases call.finishIoreqOp_cases op success with ⟨_, h⟩ | ⟨s, _, _, ⟨_, h⟩ | ⟨_, h⟩⟩ <;> rw [h]
  · exact hmark s
  · rw [completed_groups]
    exact hmark s

private theorem finishIoreqOp_tagged {call : GrpcCall} (op : IoreqOp) (success : Bool)
    (h : Tagged tagOf call.groups) : Tagged tagOf (call.finishIoreqOp op success).groups := by
  intro op' l hl
  rw [finishIoreqOp_master_tag]
  exact h op' l (finishIoreqOp_paired op success (fun _ hs => hs) hl).1

private theorem finishIoreqOp_fresh {call : GrpcCall} {accepted : List Nat} (op : IoreqOp)
    (success : Bool) (h : Fresh tagOf accepted call.groups) :
    Fresh tagOf accepted (call.finishIoreqOp op success).groups := by
  constructor
  · intro op' htrailing hstatus htag
    have hempty := h.empty op' htrailing hstatus htag
    rcases call.finishIoreqOp_slot_cases op success op' with hs | ⟨⟨l, hl⟩, _⟩
    · rw [hs, hempty]
    · rw [hempty] at hl
      simp at hl
  · intro op' hr
    rcases call.finishIoreqOp_slot_cases op success op' with hs | ⟨_, hs⟩
    · rw [hs]
      exact h.reusable op' hr
    · rw [hs, if_pos hr]
      simp

private theorem SingleBatch.requests {call : GrpcCall} {ops : List BatchOp} {tag : Nat}
    (h : SingleBatch tagOf (.startBatch ops tag)) {reqs : List Ioreq}
    (hreqs : call.rewriteOps [] ops = .ok reqs) : ∀ req ∈ reqs, tagOf req.op = tag := by
  obtain ⟨o, rfl, ho⟩ := h
  unfold rewriteOps at hreqs
  split at hreqs
  · cases hreqs
  · next more hmore =>
      split at hreqs
      · cases hreqs
      · cases hreqs
        rw [List.nil_append]
        exact ho call more hmore

section Opened

variable {call c : GrpcCall} {reqs : List Ioreq} {set : IoreqOp} {haveOps : Finset IoreqOp}

theorem Started.opened_slot (h : Started call reqs set haveOps c) (tag : BatchTag) (op : IoreqOp) :
    (c.opened set haveOps tag).groups.slot op =
      if op ∈ haveOps then .group set else call.groups.slot op :=
  h.claimed.slots op

theorem opened_tag (c : GrpcCall) (set : IoreqOp) (haveOps : Finset IoreqOp) (tag : BatchTag) :
    ((c.opened set haveOps tag).groups.master set).tag = tag := by
  simp [opened, Groups.setUp]

theorem Started.opened_master (h : Started call reqs set haveOps c)
    (hwf : call.groups.WellFormed) (tag : BatchTag) {op l : IoreqOp}
    (hl : call.groups.slot op = .group l) :
    (c.opened set haveOps tag).groups.master l = call.groups.master l := by
  have hne : l ≠ set := by
    intro hls
    have hlead := hwf.leader op l hl
    rw [hls, h.claimed.free set h.leader] at hlead
    simp at hlead
  simp [opened, Groups.setUp, hne, h.claimed.master]

end Opened

private theorem opened_tagged {call c : GrpcCall} {ops : List BatchOp} {tag : Nat}
    {reqs : List Ioreq} {set : IoreqOp} {haveOps : Finset IoreqOp} (hwf : call.groups.WellFormed)
    (htagged : Tagged tagOf call.groups) (hs : Started call reqs set haveOps c)
    (hreqs : ∀ req ∈ reqs, tagOf req.op = tag) :
    Tagged tagOf (c.opened set haveOps (batchTag ops tag)).groups := by
  intro op l hl
  rw [hs.opened_slot] at hl
  by_cases hmem : op ∈ haveOps
  · rw [if_pos hmem] at hl
    obtain ⟨req, hreq, rfl⟩ := (hs.ops op).mp hmem
    have hset : set = l := Slot.group.inj hl
    subst hset
    rw [hreqs req hreq, opened_tag]
    rfl
  · rw [if_neg hmem] at hl
    rw [hs.opened_master hwf _ hl]
    exact htagged op l hl

theorem step_single {accepted : List Nat} {call call' : GrpcCall} {e : CallEvent}
    (he : SingleBatch tagOf e) (hclient : call.groups.slot .sendStatus = .done)
    (hwf : call.groups.WellFormed) (htagged : Tagged tagOf call.groups)
    (hfresh : Fresh tagOf accepted call.groups) (hstep : call.step e = .ok call') :
    Tagged tagOf call'.groups ∧ Fresh tagOf (accepted ++ call.acceptedBatches e) call'.groups := by
  have hmore : Fresh tagOf (accepted ++ call.acceptedBatches e) call.groups := by
    refine ⟨?_, hfresh.reusable⟩
    intro op htrailing hstatus htag
    exact hfresh.empty op htrailing hstatus fun hmem => htag (List.mem_append_left _ hmem)
  refine ⟨step_groups (fun c op success => finishIoreqOp_tagged op success) ?_ hclient htagged hstep,
    step_groups (fun c op success => finishIoreqOp_fresh op success) ?_ hclient hmore hstep⟩
  · intro ops tag reqs set haveOps c he' hreqs hs _
    subst he'
    exact opened_tagged hwf htagged hs (he.requests hreqs)
  · intro ops tag reqs set haveOps c he' hreqs hs hok
    subst he'
    have hslot : ∀ op, (c.opened set haveOps (batchTag ops tag)).groups.slot op =
        if op ∈ haveOps then .group set else call.groups.slot op := hs.claimed.slots
    constructor
    · intro op htrailing hstatus htag
      have hmem : op ∉ haveOps := by
        intro hmem
        obtain ⟨req, hreq, rfl⟩ := (hs.ops op).mp hmem
        apply htag
        rw [he.requests hreqs req hreq]
        simp [acceptedBatches, hok]
      rw [hslot, if_neg hmem]
      exact hmore.empty op htrailing hstatus htag
    · intro op hr
      rw [hslot]
      split
      · simp
      · exact hmore.reusable op hr

theorem Tagged.outstanding {call : GrpcCall} (h : Tagged tagOf call.groups)
    (hwf : call.groups.WellFormed) {op l : IoreqOp} (hl : call.groups.slot op = .group l) :
    tagOf op ∈ call.outstanding := by
  rw [GrpcCall.outstanding, Groups.outstanding, Multiset.map_map, Multiset.mem_map]
  refine ⟨l, ?_, h op l hl⟩
  exact Groups.mem_leaders.mpr (hwf.leader op l hl)

theorem Fresh.free {accepted : List Nat} {call : GrpcCall} (h : Fresh tagOf accepted call.groups)
    (htagged : Tagged tagOf call.groups) (hwf : call.groups.WellFormed) {op : IoreqOp}
    (hreusable : op.reusable = true) (hout : tagOf op ∉ call.outstanding) :
    call.groups.slot op = .empty := by
  cases hs : call.groups.slot op with
  | empty => rfl
  | done => exact absurd hs (h.reusable op hreusable)
  | group l => exact absurd (htagged.outstanding hwf hs) hout

/-- The completions that the queue was given or will be given next. -/
def completions (call : GrpcCall) : List Completion :=
  call.cq ++ call.completedRequests.map CompletedRequest.endOp

private theorem SameBatches.completions {c c' : GrpcCall} (h : SameBatches c c') :
    c'.completions = c.completions := by
  rw [GrpcCall.completions, GrpcCall.completions, h.cq, h.completedRequests]

@[simp] theorem flushCompleted_completions (call : GrpcCall) :
    call.flushCompleted.completions = call.completions := by
  simp [completions, flushCompleted]

private theorem completed_completions (call : GrpcCall) (set op : IoreqOp) (success : Bool) :
    ((call.marked set op success).completeGroup set).completions = call.completions ++
      [CompletedRequest.endOp ⟨(call.groups.master set).tag,
        (call.groups.master set).success && success,
        call.memberResults {} (call.members set)⟩] := by
  have hcq : ((call.marked set op success).completeGroup set).cq = call.cq := by
    rw [completeGroup_eq]
    rfl
  rw [completions, completions, hcq, completed_requests, List.map_append, ← List.append_assoc]
  rfl

/-- What the completions say of messages when these come in batches of their own: they are there
before the status `ok`, and with success. -/
structure MessageBatches (tagOf : IoreqOp → Nat) (call : GrpcCall) : Prop where
  tagged : Tagged tagOf call.groups
  last : call.completions.Pairwise fun r r' =>
    r.results.recvStatus = some .ok → r'.results.recvMessage = none
  succeeded : ∀ r ∈ call.completions, r.results.recvMessage ≠ none → r.success = true
  succeeding : ∀ l, call.groups.slot .recvMessage = .group l →
    .recvMessage ∉ (call.groups.master l).complete → (call.groups.master l).success = true

private theorem MessageBatches.same {c c' : GrpcCall} (h : MessageBatches tagOf c)
    (hs : SameBatches c c') : MessageBatches tagOf c' := by
  constructor
  · rw [hs.groups]
    exact h.tagged
  · rw [hs.completions]
    exact h.last
  · rw [hs.completions]
    exact h.succeeded
  · rw [hs.groups]
    exact h.succeeding

private theorem MessageBatches.unlock {call : GrpcCall} (h : MessageBatches tagOf call) :
    MessageBatches tagOf call.unlock := by
  obtain ⟨c, hs, hc⟩ := call.unlock_batches
  have hkept := h.same hs
  rw [hc]
  constructor
  · exact hkept.tagged
  · rw [flushCompleted_completions]
    exact hkept.last
  · rw [flushCompleted_completions]
    exact hkept.succeeded
  · exact hkept.succeeding

private theorem MessageBatches.opened {call c : GrpcCall} {ops : List BatchOp} {tag : Nat}
    {reqs : List Ioreq} {set : IoreqOp} {haveOps : Finset IoreqOp}
    (h : MessageBatches tagOf call) (hwf : call.groups.WellFormed)
    (hclient : call.groups.slot .sendStatus = .done) (hs : Started call reqs set haveOps c)
    (hreqs : ∀ req ∈ reqs, tagOf req.op = tag) :
    MessageBatches tagOf (c.opened set haveOps (batchTag ops tag)) := by
  have hcompletions : (c.opened set haveOps (batchTag ops tag)).completions =
      call.completions := by
    rw [hs.opened_eq hclient]
    rfl
  constructor
  · exact opened_tagged hwf h.tagged hs hreqs
  · rw [hcompletions]
    exact h.last
  · rw [hcompletions]
    exact h.succeeded
  · intro l hl
    rw [hs.opened_slot] at hl
    by_cases hmem : .recvMessage ∈ haveOps
    · rw [if_pos hmem] at hl
      cases hl
      intro _
      simp [GrpcCall.opened, Groups.setUp]
    · rw [if_neg hmem] at hl
      rw [hs.opened_master hwf _ hl]
      exact h.succeeding l hl

/-- The closing invariant of a call whose messages come in batches of their own. -/
structure Last (tagOf : IoreqOp → Nat) (ops : List StreamOp) (call : GrpcCall) : Prop
    extends MessageBatches tagOf call where
  closing : Closing ops call

section Alone

variable (halone : ∀ op, tagOf op = tagOf .recvMessage → op = .recvMessage)
include halone

theorem recvMessage_notFinished {call : GrpcCall} {accepted : List Nat}
    (hwf : call.groups.WellFormed) (htagged : Tagged tagOf call.groups)
    (hfresh : Fresh tagOf accepted call.groups) : call.isFinished .recvMessage = false := by
  cases hs : call.groups.slot .recvMessage with
  | empty => simp [isFinished, hs]
  | done => exact absurd hs (hfresh.reusable _ rfl)
  | group l =>
      rw [isFinished_of_slot hs, Bool.not_eq_false']
      rw [isOpLive, Groups.isLive_slot hs, decide_eq_true_eq]
      intro hcomplete
      have hlead := hwf.leader _ l hs
      obtain ⟨op, hneed, hmissing⟩ := Finset.exists_of_ssubset (hwf.unfinished l hlead)
      have hop := (hwf.need l hlead op).mp hneed
      have htag := (htagged op l hop).symm.trans (htagged .recvMessage l hs)
      rw [halone op htag] at hmissing
      exact hmissing hcomplete

/-- Completing an operation: a receive leaves no message unless it succeeds and the status `ok` was
not reported. -/
theorem MessageBatches.finish {call : GrpcCall} (h : MessageBatches tagOf call) {op : IoreqOp}
    (success : Bool) (hmessage : call.isOpLive .recvMessage = true → op = .recvMessage →
      call.recvMessage = none ∨
        success = true ∧ ∀ r ∈ call.completions, r.results.recvStatus ≠ some .ok) :
    MessageBatches tagOf (call.finishIoreqOp op success) := by
  have htagged := finishIoreqOp_tagged op success h.tagged
  -- a group that is not that of `op` keeps its master
  have hmaster : ∀ s l, l ≠ s → (call.groups.mark s op success).master l = call.groups.master l :=
    fun s l hne => Groups.mark_master_of_ne _ _ _ hne
  rcases call.finishIoreqOp_cases op success with ⟨_, hf⟩ | ⟨s, hs, hlive, ⟨_, hf⟩ | ⟨_, hf⟩⟩
  · rw [hf]
    exact h
  · rw [hf] at htagged ⊢
    refine ⟨htagged, h.last, h.succeeded, ?_⟩
    intro l hl hmissing
    rw [marked_groups, Groups.mark_slot] at hl
    rw [marked_groups] at hmissing ⊢
    by_cases hne : l = s
    · subst hne
      have htag := (h.tagged op l hs).symm.trans (h.tagged .recvMessage l hl)
      rw [halone op htag] at hmissing
      exact absurd (by simp) hmissing
    · rw [hmaster s l hne] at hmissing ⊢
      exact h.succeeding l hl hmissing
  · -- the message of the batch that completes
    have hnew : ∀ message, (call.memberResults {} (call.members s)).recvMessage = some message →
        op = .recvMessage ∧ call.recvMessage = some message ∧
          (call.groups.master s).success = true := by
      intro message hsome
      have hmember : .recvMessage ∈ call.members s := by
        by_contra hno
        simp [memberResults, hno] at hsome
      have hslot := mem_members.mp hmember
      have hop := halone op ((h.tagged op s hs).symm.trans (h.tagged .recvMessage s hslot))
      refine ⟨hop, by simpa [memberResults, hmember] using hsome, h.succeeding s hslot ?_⟩
      rw [hop] at hlive
      rw [isOpLive, Groups.isLive_slot hslot] at hlive
      exact of_decide_eq_true hlive
    have hopens : ∀ message,
        (call.memberResults {} (call.members s)).recvMessage = some message →
        success = true ∧ (call.groups.master s).success = true ∧
          ∀ r ∈ call.completions, r.results.recvStatus ≠ some .ok := by
      intro message hsome
      obtain ⟨hop, hcell, hsucceeding⟩ := hnew message hsome
      rw [hop] at hlive
      rcases hmessage hlive hop with hnone | ⟨hsuccess, hopen⟩
      · simp [hcell] at hnone
      · exact ⟨hsuccess, hsucceeding, hopen⟩
    rw [hf] at htagged ⊢
    refine ⟨htagged, ?_, ?_, ?_⟩
    · rw [completed_completions, List.pairwise_append]
      refine ⟨h.last, List.pairwise_singleton _ _, ?_⟩
      intro r hr r' hr' hok
      rw [List.mem_singleton.mp hr', endOp_results]
      cases hsome : (call.memberResults {} (call.members s)).recvMessage with
      | none => rfl
      | some message => exact absurd hok ((hopens message hsome).2.2 r hr)
    · intro r hr hcarries
      rw [completed_completions, List.mem_append, List.mem_singleton] at hr
      rcases hr with hr | rfl
      · exact h.succeeded r hr hcarries
      · rw [endOp_results] at hcarries
        obtain ⟨message, hsome⟩ := Option.ne_none_iff_exists'.mp hcarries
        obtain ⟨hsuccess, hsucceeding, _⟩ := hopens message hsome
        unfold CompletedRequest.endOp
        split
        · simp [hsuccess, hsucceeding]
        · rfl
    · intro l hl hmissing
      rw [completed_groups] at hl hmissing ⊢
      obtain ⟨hl, hne⟩ := Groups.release_slot_group.mp hl
      rw [Groups.release_master, hmaster s l hne] at hmissing ⊢
      exact h.succeeding l hl hmissing

private theorem Last.finish {ops : List StreamOp} {call : GrpcCall} (h : Last tagOf ops call)
    (hwf : call.groups.WellFormed) {op : IoreqOp} (success : Bool)
    (hop : op = .recvClose → call.readState = .streamClosed ∧ call.incomingQueue = [])
    (hflow : Flow ops call ∨
      call.isFinished .recvClose = false ∧ op ≠ .recvClose ∧ success = true) :
    Last tagOf ops (call.finishIoreqOp op success) := by
  refine ⟨h.toMessageBatches.finish halone success ?_, h.closing.finish hwf success hop ?_⟩
  · intro hlive _
    rcases hflow with hflow | ⟨hopen, _, hsuccess⟩
    · exact Or.inl (hflow.unserved hlive)
    · refine Or.inr ⟨hsuccess, ?_⟩
      intro r hr hok
      have hreport : r.results ∈ call.reports := by
        rw [completions, List.mem_append, List.mem_map] at hr
        rw [reports, List.mem_append, List.mem_map, List.mem_map]
        rcases hr with hr | ⟨request, hrequest, rfl⟩
        · exact Or.inl ⟨r, hr, rfl⟩
        · exact Or.inr ⟨request, hrequest, (endOp_results request).symm⟩
      have hfin := (h.closing.complete _ hreport hok).1
      simp [hopen] at hfin
  · exact hflow.imp_right fun hf => ⟨hf.1, hf.2.1⟩

private theorem Last.completes {P : IoreqOp → Bool → Prop} {ops : List StreamOp}
    {call call' : GrpcCall}
    (h : Last tagOf ops call) (hflow : Flow ops call) (hc : Completes P call call')
    (hclose : ∀ success, P .recvClose success →
      call.readState = .streamClosed ∧ call.incomingQueue = []) : Last tagOf ops call' := by
  induction hc with
  | refl => exact h
  | @finish c op success hc hop ih =>
      have hframe := completes_frame hc
      apply ih.finish halone (completes_wellFormed hc hflow.wellFormed) success
      · rintro rfl
        rw [completes_incomingQueue hc, hframe]
        exact hclose success hop
      · exact Or.inl (hflow.completes hc)
  | write state hc ih =>
      exact ⟨ih.toMessageBatches.same (by constructor <;> rfl),
        h.closing.completes hflow (hc.write state) hclose⟩

private theorem Last.finishReadOps {ops : List StreamOp} {call : GrpcCall} (h : Last tagOf ops call)
    (hread : Reading ops call) : Last tagOf ops call.finishReadOps := by
  have hpop : Last tagOf ops call.popMessage.1 := by
    have hclosing := h.closing.popMessage hread.wellFormed
    rcases call.popMessage_cases with
      ⟨_, hp⟩ | ⟨_, _, hp⟩ | ⟨message, rest, hlive, hq, hp⟩ <;> rw [hp] at hclosing ⊢
    · exact h
    · exact ⟨h.toMessageBatches.same (by constructor <;> rfl), hclosing⟩
    · have hopen : call.isFinished .recvClose = false := by
        cases hfin : call.isFinished .recvClose with
        | false => rfl
        | true =>
            have hempty := (h.closing.closed hfin).2
            simp [hq] at hempty
      have hopen' : (call.takeMessage message rest).isFinished .recvClose = false := hopen
      have htake : Last tagOf ops (call.takeMessage message rest) := by
        refine ⟨h.toMessageBatches.same (by constructor <;> rfl),
          ⟨h.closing.clientStatus.congr rfl, ?_, h.closing.paired, ?_⟩⟩
        · intro hfin
          simp [hopen'] at hfin
        · intro r hr hok
          have hfin := (h.closing.complete r hr hok).1
          simp [hopen] at hfin
      exact htake.finish halone hread.wellFormed true (fun hop => absurd hop (by decide))
        (Or.inr ⟨hopen', by decide, rfl⟩)
  apply hpop.completes halone hread.popMessage call.finishReadOps_completes
  rintro success ⟨_, hr, hempty, _⟩
  rw [popMessage_readState]
  refine ⟨hr, ?_⟩
  rw [(popMessage_taken hread.wellFormed).2.2.2] at hempty
  simpa using hempty

end Alone

theorem MessageBatches.step (halone : ∀ op, tagOf op = tagOf .recvMessage → op = .recvMessage)
    {past : List StreamOp} {call call' : GrpcCall} {e : CallEvent}
    (h : MessageBatches tagOf call) (hreads : ClientReads past call) (he : NotFailed e)
    (hsingle : SingleBatch tagOf e) (hstep : call.step e = .ok call') :
    MessageBatches tagOf call' := by
  have hread : ∀ {ops : List StreamOp} {c : GrpcCall}, Last tagOf ops c → Reading ops c →
      MessageBatches tagOf c.finishReadOps.unlock := by
    intro ops c hc hr
    exact (hc.finishReadOps halone hr).unlock
  have hlast : Last tagOf past call := ⟨h, hreads.closing⟩
  cases step_cases hstep with
  | emptyBatch tag =>
      obtain ⟨o, ho, _⟩ := hsingle
      cases ho
  | malformedBatch => exact h
  | batch ops tag reqs hne hreqs =>
      apply MessageBatches.unlock
      rcases call.startIoreq_cases reqs (batchTag ops tag) hne with
        ⟨set, haveOps, c, hs, hstart⟩ | ⟨set, haveOps, c, e, hc, _, hstart⟩
      · rw [hstart]
        have hasks := rewriteOps_asksForClose ⟨by simp, by simp⟩ hreqs
        have hopened := hreads.flow.toReading.opened hs hreads.client (batchTag ops tag)
        have hc : Last tagOf past (c.opened set haveOps (batchTag ops tag)) :=
          ⟨h.opened hreads.flow.wellFormed hreads.client hs (hsingle.requests hreqs),
            hreads.closing.opened hreads.flow hs hreads.client hasks _⟩
        have hflow := hopened.finishReadOps
        exact ((hc.finishReadOps halone hopened).completes halone hflow
          (earlyOutWriteOps_completes _) fun _ hsend => absurd hsend (by decide)).toMessageBatches
      · rw [hstart, hc.rest hreads.client]
        exact h.same (by constructor <;> rfl)
  | sent success =>
      have hc := hlast.completes halone hreads.flow (call.finishSends_completes success)
        (fun success hsend => absurd hsend (by decide))
      have hended : MessageBatches tagOf (call.sendEnded success) :=
        hc.same (by constructor <;> rfl)
      exact hended.unlock
  | received ops state c c' hreceiving hops hstate =>
      have hsame := (recvStreamOps_same hops).trans (recvStreamState_same hstate)
      have hidle : MessageBatches tagOf call.recvEnded := h.same (by constructor <;> rfl)
      exact hread ⟨hidle.same hsame.batches, hreads.received hreceiving hops hstate⟩
        (hreads.flow.toReading.received hops hstate)
  | recvFailed => exact absurd he Bool.false_ne_true
  | cancelled status description =>
      exact (h.same (call.cancel_same status description).batches).unlock
  | deadlineExceeded =>
      obtain ⟨hclosing, hflow⟩ := hreads.alarmEnded
      have hidle : MessageBatches tagOf call.alarmEnded := h.same (by constructor <;> rfl)
      exact hread ⟨hidle.same (cancel_same _ _ _).batches, hclosing.cancel (by decide) _⟩
        (hflow.cancel _ _).toReading
  | alarmCancelled =>
      obtain ⟨hclosing, hflow⟩ := hreads.alarmEnded
      have hidle : MessageBatches tagOf call.alarmEnded := h.same (by constructor <;> rfl)
      exact hread ⟨hidle, hclosing⟩ hflow.toReading
  | destroyedClosed =>
      have hd : MessageBatches tagOf call.destroyStarted :=
        ⟨h.tagged, h.last, h.succeeded, h.succeeding⟩
      exact hd.unlock
  | destroyed =>
      have hd : MessageBatches tagOf call.destroyStarted :=
        ⟨h.tagged, h.last, h.succeeded, h.succeeding⟩
      exact (hd.unlock.same (cancel_same _ _ _).batches).unlock

end CrowdSound.Core.GrpcCall
