import CrowdSound.Core.MessageFlow

/-!
# The status comes last

A client that is told the status `ok` has been handed every message of the stream: the status
waits for the stream to close and for the queue to become empty.
-/

namespace CrowdSound.Core.GrpcCall

open OpGroups

/-- On a client only the application and the wire set a status, the application not `ok`. -/
structure ClientStatus (call : GrpcCall) : Prop where
  api : (call.status .fromApiOverride).isSet = true → (call.status .fromApiOverride).code ≠ .ok
  core : (call.status .fromCore).isSet = false
  server : (call.status .fromServerStatus).isSet = false

theorem ClientStatus.congr {c c' : GrpcCall} (h : ClientStatus c) (hs : c'.status = c.status) :
    ClientStatus c' := by
  constructor <;> rw [hs]
  · exact h.api
  · exact h.core
  · exact h.server

private theorem ClientStatus.setCode {call : GrpcCall} (h : ClientStatus call)
    {source : StatusSource} {status : StatusCode}
    (hsource : source = .fromWire ∨ source = .fromApiOverride ∧ status ≠ .ok) :
    ClientStatus (call.setStatusCode source status) := by
  constructor
  · rw [setStatusCode_status]
    split
    · next hs =>
        intro _
        rcases hsource with hwire | ⟨_, hstatus⟩
        · rw [hwire] at hs
          exact absurd hs.1 (by decide)
        · exact hstatus
    · exact h.api
  · rw [setStatusCode_status, if_neg]
    · exact h.core
    · rintro ⟨rfl, _⟩
      simp at hsource
  · rw [setStatusCode_status, if_neg]
    · exact h.server
    · rintro ⟨rfl, _⟩
      simp at hsource

private theorem ClientStatus.setDetails {call : GrpcCall} (h : ClientStatus call)
    (source : StatusSource)
    (details : Option Bytes) : ClientStatus (call.setStatusDetails source details) := by
  have hsame := call.setStatusDetails_status source details
  constructor
  · rw [(hsame _).1, (hsame _).2]
    exact h.api
  · rw [(hsame _).1]
    exact h.core
  · rw [(hsame _).1]
    exact h.server

private theorem ClientStatus.cancel {call : GrpcCall} (h : ClientStatus call) {status : StatusCode}
    (hstatus : status ≠ .ok) (description : Option Bytes) :
    ClientStatus (call.cancel status description) :=
  ((h.setCode (Or.inr ⟨rfl, hstatus⟩)).setDetails _ _).congr rfl

private theorem ClientStatus.recvMdelem {call call' : GrpcCall} {isTrailing : Bool} {md : Metadata}
    (h : ClientStatus call) (hmd : call.recvMdelem isTrailing md = .ok call') :
    ClientStatus call' := by
  cases recvMdelem_cases hmd with
  | status => exact h.setCode (Or.inl rfl)
  | message => exact h.setDetails _ _
  | acceptEncoding => exact h
  | encoding | trailing | initial => exact h.congr rfl

private theorem ClientStatus.recvMdelems {call call' : GrpcCall} {isTrailing : Bool}
    {list : List Metadata} (h : ClientStatus call)
    (hmd : call.recvMdelems isTrailing list = .ok call') : ClientStatus call' := by
  induction list generalizing call with
  | nil =>
      cases hmd
      exact h
  | cons md list ih =>
      unfold GrpcCall.recvMdelems at hmd
      split at hmd
      · next c hc => exact ih (h.recvMdelem hc) hmd
      · cases hmd

private theorem ClientStatus.recvMetadata {call call' : GrpcCall} {batch : MetadataBatch}
    (h : ClientStatus call) (hmd : call.recvMetadata batch = .ok call') : ClientStatus call' := by
  have hgot : ∀ {c : GrpcCall} isTrailing, ClientStatus c →
      ClientStatus (c.gotMetadata isTrailing) := by
    intro c isTrailing hc
    unfold gotMetadata
    split
    · exact hc
    · exact hc.congr rfl
  unfold GrpcCall.recvMetadata at hmd
  dsimp only at hmd
  split at hmd
  · cases hmd
  · next c hc =>
      have hc' := h.recvMdelems hc
      split at hmd
      · split at hmd
        · next c' halarm =>
            cases hmd
            unfold setDeadlineAlarm at halarm
            split at halarm <;> cases halarm
            exact hgot _ (hc'.congr rfl)
        · cases hmd
      · cases hmd
        exact hgot _ hc'

private theorem ClientStatus.beginMessage {call : GrpcCall} (h : ClientStatus call)
    (length flags : UInt32) : ClientStatus (call.beginMessage length flags).1 := by
  unfold GrpcCall.beginMessage
  split
  · exact h.cancel (by decide) _
  · split
    · exact h.cancel (by decide) _
    · split
      · exact h.cancel (by decide) _
      · split <;> exact h.congr rfl

private theorem ClientStatus.addSlice {call : GrpcCall} (h : ClientStatus call) (slice : Bytes) :
    ClientStatus (call.addSliceToMessage slice).1 := by
  have hadd : ClientStatus { call with incomingMessage := call.incomingMessage ++ [slice] } :=
    h.congr rfl
  unfold addSliceToMessage
  split
  · exact h
  · split
    · exact h.cancel (by decide) _
    · dsimp only
      split
      · exact hadd.cancel (by decide) _
      · split
        · exact hadd.congr rfl
        · exact hadd

private theorem ClientStatus.recvStreamOps {call call' : GrpcCall} {ops : List StreamOp}
    (h : ClientStatus call) (hops : call.recvStreamOps ops = .ok call') : ClientStatus call' := by
  induction ops generalizing call with
  | nil =>
      cases hops
      exact h
  | cons op ops ih =>
      cases op with
      | noOp => exact ih h hops
      | metadata batch =>
          unfold GrpcCall.recvStreamOps at hops
          split at hops
          · next hb => exact ih (h.recvMetadata hb) hops
          · cases hops
      | beginMessage length flags =>
          have hbegin := h.beginMessage length flags
          unfold GrpcCall.recvStreamOps at hops
          split at hops
          · next hb =>
              rw [hb] at hbegin
              exact ih hbegin hops
          · next hb =>
              cases hops
              rw [hb] at hbegin
              exact hbegin
      | slice slice =>
          have hadd := h.addSlice slice
          unfold GrpcCall.recvStreamOps at hops
          split at hops
          · next hb =>
              rw [hb] at hadd
              exact ih hadd hops
          · next hb =>
              cases hops
              rw [hb] at hadd
              exact hadd

private theorem ClientStatus.clean {call : GrpcCall} (h : ClientStatus call)
    (hok : call.getFinalStatus = .ok) : call.Clean := by
  have hapi : (call.status .fromApiOverride).isSet = false := by
    cases hset : (call.status .fromApiOverride).isSet with
    | false => rfl
    | true =>
        have hfinal : call.finalSource = some .fromApiOverride := by
          simp [finalSource, StatusSource.all, hset]
        rw [getFinalStatus, hfinal] at hok
        exact absurd hok (h.api hset)
  refine ⟨hapi, ?_⟩
  intro source hset
  cases source with
  | fromApiOverride => simp [hapi] at hset
  | fromCore => simp [h.core] at hset
  | fromServerStatus => simp [h.server] at hset
  | fromWire =>
      have hfinal : call.finalSource = some .fromWire := by
        simp [finalSource, StatusSource.all, hapi, h.core, hset]
      rwa [getFinalStatus, hfinal] at hok

/-- The status operation stores `ok` only for the status `ok`. -/
def Honest (data : IoreqData) : Prop :=
  ∀ setValue, data = .recvStatus setValue → ∀ s, setValue s = .ok → s = .ok

private theorem Honest.final {call : GrpcCall} (h : Honest (call.requestData .recvStatus))
    (hok : call.reportedStatus = .ok) : call.getFinalStatus = .ok := by
  unfold reportedStatus at hok
  split at hok
  · next setValue hdata => exact h setValue hdata _ hok
  · exact hok

/-- Everything that the stream carried has been taken. -/
def TookAll (ops : List StreamOp) (call : GrpcCall) : Prop :=
  ∃ a, Assembly.initial.feedAll call.maxMessageLength ops = some (a, call.taken)

/-- The close completes after the last message, and the status `ok` is reported with it. -/
structure Closing (ops : List StreamOp) (call : GrpcCall) : Prop where
  clientStatus : ClientStatus call
  closed : call.isFinished .recvClose = true →
    call.readState = .streamClosed ∧ call.incomingQueue = []
  paired : ∀ set, call.groups.slot .recvStatus = .group set →
    call.groups.slot .recvClose = .group set ∧ Honest (call.requestData .recvStatus)
  complete : ∀ r ∈ call.reports, r.recvStatus = some .ok →
    call.isFinished .recvClose = true ∧ TookAll ops call

theorem finishIoreqOp_paired {call : GrpcCall} (op : IoreqOp) (success : Bool) {op₁ op₂ : IoreqOp}
    (h : ∀ set, call.groups.slot op₁ = .group set → call.groups.slot op₂ = .group set) {set : IoreqOp}
    (hset : (call.finishIoreqOp op success).groups.slot op₁ = .group set) :
    call.groups.slot op₁ = .group set ∧
      (call.finishIoreqOp op success).groups.slot op₂ = .group set := by
  rcases call.finishIoreqOp_cases op success with ⟨_, hf⟩ | ⟨s, _, _, ⟨_, hf⟩ | ⟨_, hf⟩⟩
  · rw [hf] at hset ⊢
    exact ⟨hset, h set hset⟩
  · rw [hf] at hset ⊢
    exact ⟨hset, h set hset⟩
  · rw [hf, completed_groups] at hset ⊢
    obtain ⟨hset, hne⟩ := Groups.release_slot_group.mp hset
    exact ⟨hset, Groups.release_slot_group.mpr ⟨h set hset, hne⟩⟩

private theorem recvClose_of_last {call : GrpcCall} (hwf : call.groups.WellFormed)
    {set op : IoreqOp} (hset : call.groups.slot op = .group set)
    (hlast : insert op (call.groups.master set).complete = (call.groups.master set).need)
    (hclose : call.groups.slot .recvClose = .group set) :
    op = .recvClose ∨ call.isFinished .recvClose = true := by
  have hneed : .recvClose ∈ (call.groups.master set).need :=
    (hwf.need set (hwf.leader op set hset) _).mpr hclose
  rw [← hlast, Finset.mem_insert] at hneed
  rcases hneed with hop | hcomplete
  · exact Or.inl hop.symm
  · right
    rw [isFinished_of_slot hclose, isOpLive, Groups.isLive_slot hclose]
    simp [hcomplete]

/-- Completing an operation, the close only on a closed stream without messages. -/
theorem Closing.finish {ops : List StreamOp} {call : GrpcCall} (h : Closing ops call)
    (hwf : call.groups.WellFormed) {op : IoreqOp} (success : Bool)
    (hop : op = .recvClose → call.readState = .streamClosed ∧ call.incomingQueue = [])
    (hflow : Flow ops call ∨ call.isFinished .recvClose = false ∧ op ≠ .recvClose) :
    Closing ops (call.finishIoreqOp op success) := by
  have hframe := call.finishIoreqOp_frame op success
  have hfinished := @finishIoreqOp_isFinished call hwf op .recvClose success rfl
  have htaken : Flow ops call → TookAll ops call → TookAll ops (call.finishIoreqOp op success) := by
    rintro hf ⟨a, ha⟩
    have hsame := (completes_taken (.finish (P := fun _ _ => True) op success .refl trivial) hwf
      hf.unserved).1
    refine ⟨a, ?_⟩
    rw [hsame]
    rw [hframe]
    exact ha
  -- what was reported before
  have hold : ∀ r ∈ call.reports, r.recvStatus = some .ok →
      (call.finishIoreqOp op success).isFinished .recvClose = true ∧
        TookAll ops (call.finishIoreqOp op success) := by
    intro r hr hok
    obtain ⟨hfin, htook⟩ := h.complete r hr hok
    rcases hflow with hf | ⟨hopen, _⟩
    · exact ⟨by rw [hfinished, hfin, Bool.true_or], htaken hf htook⟩
    · simp [hopen] at hfin
  constructor
  · exact h.clientStatus.congr (finishIoreqOp_status _ _ _)
  · intro hfin
    rw [finishIoreqOp_readState, finishIoreqOp_incomingQueue]
    rw [hfinished, Bool.or_eq_true, Bool.and_eq_true, decide_eq_true_eq] at hfin
    rcases hfin with hfin | ⟨hclose, _⟩
    · exact h.closed hfin
    · exact hop hclose
  · intro set hset
    obtain ⟨hset', hclose⟩ := finishIoreqOp_paired op success (fun s hs => (h.paired s hs).1) hset
    rw [finishIoreqOp_requestData]
    exact ⟨hclose, (h.paired set hset').2⟩
  · rcases call.finishIoreqOp_cases op success with ⟨_, hf⟩ | ⟨s, hs, hlive, ⟨_, hf⟩ | ⟨hlast, hf⟩⟩
    · rw [hf] at hold ⊢
      exact hold
    · rw [hf] at hold ⊢
      exact hold
    · intro r hr hok
      rw [hf, completed_reports, List.mem_append, List.mem_singleton] at hr
      rcases hr with hr | rfl
      · exact hold r hr hok
      · have hmember : call.groups.slot .recvStatus = .group s := by
          by_contra hno
          have hno' : .recvStatus ∉ call.members s := fun hm => hno (mem_members.mp hm)
          simp [memberResults, hno'] at hok
        have hmem : .recvStatus ∈ call.members s := mem_members.mpr hmember
        obtain ⟨hclose, hhonest⟩ := h.paired s hmember
        have hlastClose := recvClose_of_last hwf hs hlast hclose
        rcases hflow with hflow | ⟨hopen, hne⟩
        · have hqueue : call.incomingQueue = [] := by
            rcases hlastClose with hclose | hfin
            · exact (hop hclose).2
            · exact (h.closed hfin).2
          have hreported : call.reportedStatus = .ok := by
            simpa [memberResults, hmem] using hok
          have hclean := h.clientStatus.clean (hhonest.final hreported)
          have hfed := hflow.flows hclean
          rw [hqueue, List.append_nil] at hfed
          refine ⟨?_, htaken hflow ⟨_, hfed⟩⟩
          rw [hfinished]
          rcases hlastClose with hclose | hfin
          · subst hclose
            simp [hlive]
          · simp [hfin]
        · rcases hlastClose with hclose | hfin
          · exact absurd hclose hne
          · simp [hopen] at hfin

theorem Closing.completes {P : IoreqOp → Bool → Prop} {ops : List StreamOp}
    {call call' : GrpcCall} (h : Closing ops call) (hflow : Flow ops call)
    (hc : Completes P call call')
    (hclose : ∀ success, P .recvClose success →
      call.readState = .streamClosed ∧ call.incomingQueue = []) : Closing ops call' := by
  induction hc with
  | refl => exact h
  | @finish c op success hc hop ih =>
      have hframe := completes_frame hc
      apply ih.finish (completes_wellFormed hc hflow.wellFormed) success
      · rintro rfl
        rw [completes_incomingQueue hc, hframe]
        exact hclose success hop
      · exact Or.inl (hflow.completes hc)
  | write state _ ih => exact ⟨ih.clientStatus.congr rfl, ih.closed, ih.paired, ih.complete⟩

theorem Closing.popMessage {ops : List StreamOp} {call : GrpcCall} (h : Closing ops call)
    (hwf : call.groups.WellFormed) : Closing ops call.popMessage.1 := by
  rcases call.popMessage_cases with
    ⟨_, hpop⟩ | ⟨hlive, hq, hpop⟩ | ⟨message, rest, hlive, hq, hpop⟩ <;> rw [hpop]
  · exact h
  · refine ⟨h.clientStatus.congr rfl, h.closed, h.paired, ?_⟩
    intro r hr hok
    have htaken := (popMessage_taken hwf).1
    rw [hpop, hq, List.append_nil] at htaken
    have htaken' : taken { call with recvMessage := none } = call.taken := by
      simpa [hq] using htaken
    obtain ⟨hfin, a, ha⟩ := h.complete r hr hok
    refine ⟨hfin, a, ?_⟩
    rw [htaken']
    exact ha
  · have hopen : call.isFinished .recvClose = false := by
      cases hfin : call.isFinished .recvClose with
      | false => rfl
      | true =>
          have hempty := (h.closed hfin).2
          simp [hq] at hempty
    have hopen' : (call.takeMessage message rest).isFinished .recvClose = false := hopen
    have htake : Closing ops (call.takeMessage message rest) := by
      refine ⟨h.clientStatus.congr rfl, ?_, h.paired, ?_⟩
      · intro hfin
        simp [hopen'] at hfin
      · intro r hr hok
        have hfin := (h.complete r hr hok).1
        simp [hopen] at hfin
    exact htake.finish hwf true (fun hop => absurd hop (by decide)) (Or.inr ⟨hopen', by decide⟩)

private theorem Closing.finishReadOps {ops : List StreamOp} {call : GrpcCall} (h : Closing ops call)
    (hread : Reading ops call) : Closing ops call.finishReadOps := by
  apply (h.popMessage hread.wellFormed).completes hread.popMessage call.finishReadOps_completes
  rintro success ⟨_, hr, hempty, _⟩
  rw [popMessage_readState]
  refine ⟨hr, ?_⟩
  rw [(popMessage_taken hread.wellFormed).2.2.2] at hempty
  simpa using hempty

private theorem SameRead.isFinished {c c' : GrpcCall} (h : SameRead c c') (op : IoreqOp) :
    c'.isFinished op = c.isFinished op := by
  rw [GrpcCall.isFinished, GrpcCall.isFinished, h.groups, h.isOpLive]

private theorem Closing.unlock {ops : List StreamOp} {call : GrpcCall} (h : Closing ops call) :
    Closing ops call.unlock := by
  have hsame := call.unlock_same
  constructor
  · exact h.clientStatus.congr hsame.status
  · rw [hsame.isFinished, hsame.readState, hsame.incomingQueue]
    exact h.closed
  · rw [hsame.groups, hsame.requestData]
    exact h.paired
  · rw [call.unlock_reports, hsame.isFinished, TookAll, hsame.maxMessageLength,
      hsame.taken call.unlock_reports]
    exact h.complete

theorem cancel_readState (call : GrpcCall) (status : StatusCode) (description : Option Bytes) :
    (call.cancel status description).readState = call.readState := by
  show (call.setStatusCode .fromApiOverride status).readState = _
  unfold setStatusCode
  split <;> rfl

theorem Closing.cancel {ops : List StreamOp} {call : GrpcCall} (h : Closing ops call)
    {status : StatusCode} (hstatus : status ≠ .ok) (description : Option Bytes) :
    Closing ops (call.cancel status description) := by
  have hsame := call.cancel_same status description
  have hread := call.cancel_readState status description
  constructor
  · exact h.clientStatus.cancel hstatus description
  · intro hfin
    rw [hsame.isFinished] at hfin
    rw [hread]
    refine ⟨(h.closed hfin).1, ?_⟩
    rcases call.cancel_queue status description with hq | hq
    · exact hq
    · rw [hq]
      exact (h.closed hfin).2
  · rw [hsame.groups, hsame.requestData]
    exact h.paired
  · rw [hsame.reports, hsame.isFinished, TookAll, hsame.maxMessageLength, hsame.taken]
    exact h.complete

/-- A batch that asks for the status asks for the close, and stores the status as it is or
whether it is `ok`. -/
structure AsksForClose (reqs : List Ioreq) : Prop where
  close : ∀ req ∈ reqs, req.op = .recvStatus → ∃ req' ∈ reqs, req'.op = .recvClose
  honest : ∀ req ∈ reqs, req.op = .recvStatus → Honest req.data

private theorem rewriteOp_asksForClose {call : GrpcCall} {o : BatchOp} {reqs : List Ioreq}
    (h : call.rewriteOp o = .ok reqs) : AsksForClose reqs := by
  have hid : Honest (.recvStatus id) := by
    intro setValue hdata s hs
    cases hdata
    exact hs
  have hcancelled : Honest (.recvStatus setCancelledValue) := by
    intro setValue hdata s hs
    cases hdata
    by_contra hne
    have hcode : setCancelledValue s = 1 := by
      simp [setCancelledValue, hne]
    rw [hcode] at hs
    exact absurd hs (by decide)
  unfold rewriteOp at h
  repeat' split at h
  all_goals cases h
  all_goals constructor
  all_goals simp [hid, hcancelled]

theorem rewriteOps_asksForClose {call : GrpcCall} {ops : List BatchOp} {before reqs : List Ioreq}
    (hbefore : AsksForClose before) (h : call.rewriteOps before ops = .ok reqs) :
    AsksForClose reqs := by
  induction ops generalizing before with
  | nil =>
      cases h
      exact hbefore
  | cons o ops ih =>
      unfold rewriteOps at h
      split at h
      · cases h
      · next more hmore =>
          split at h
          · cases h
          · have hasks := rewriteOp_asksForClose hmore
            refine ih ⟨?_, ?_⟩ h
            · intro req hreq hop
              rcases List.mem_append.mp hreq with hreq | hreq
              · obtain ⟨req', hreq', hop'⟩ := hbefore.close req hreq hop
                exact ⟨req', List.mem_append_left _ hreq', hop'⟩
              · obtain ⟨req', hreq', hop'⟩ := hasks.close req hreq hop
                exact ⟨req', List.mem_append_right _ hreq', hop'⟩
            · intro req hreq hop
              rcases List.mem_append.mp hreq with hreq | hreq
              · exact hbefore.honest req hreq hop
              · exact hasks.honest req hreq hop

private theorem Started.opened_taken {call c : GrpcCall} {reqs : List Ioreq} {set : IoreqOp}
    {haveOps : Finset IoreqOp} (h : Started call reqs set haveOps c)
    (hwf : call.groups.WellFormed) (hclient : call.groups.slot .sendStatus = .done)
    (tag : BatchTag) : (c.opened set haveOps tag).taken = call.taken := by
  rw [taken, taken, handedOut, handedOut, held, held, h.opened_isFinished hwf]
  rw [h.opened_eq hclient]
  rfl

theorem Closing.opened {ops : List StreamOp} {call c : GrpcCall} {reqs : List Ioreq}
    {set : IoreqOp} {haveOps : Finset IoreqOp} (h : Closing ops call) (hflow : Flow ops call)
    (hs : Started call reqs set haveOps c) (hclient : call.groups.slot .sendStatus = .done)
    (hasks : AsksForClose reqs) (tag : BatchTag) : Closing ops (c.opened set haveOps tag) := by
  have hfinished := hs.opened_isFinished hflow.wellFormed tag
  have htaken := hs.opened_taken hflow.wellFormed hclient tag
  have heq := hs.opened_eq hclient tag
  constructor
  · rw [heq]
    exact h.clientStatus.congr rfl
  · intro hfin
    rw [hfinished] at hfin
    rw [heq]
    exact h.closed hfin
  · intro s hstatus
    have hslot : c.groups.slot .recvStatus = .group s := hstatus
    show c.groups.slot .recvClose = .group s ∧ Honest (c.requestData .recvStatus)
    rw [hs.claimed.slots] at hslot ⊢
    by_cases hmem : .recvStatus ∈ haveOps
    · rw [if_pos hmem] at hslot
      obtain ⟨req, hreq, hop⟩ := (hs.ops _).mp hmem
      have hclose : .recvClose ∈ haveOps := (hs.ops _).mpr (hasks.close req hreq hop)
      have hdata := (hs.data req hreq).1
      rw [hop] at hdata
      rw [if_pos hclose, hdata]
      exact ⟨hslot, hasks.honest req hreq hop⟩
    · rw [if_neg hmem] at hslot
      obtain ⟨hclose, hhonest⟩ := h.paired s hslot
      have hnew : .recvClose ∉ haveOps := by
        intro hmem'
        rw [hs.claimed.free _ hmem'] at hclose
        simp at hclose
      rw [if_neg hnew, (hs.claimed.data _ hmem).1]
      exact ⟨hclose, hhonest⟩
  · intro r hr hok
    have hr' : r ∈ call.reports := by
      rw [heq] at hr
      exact hr
    obtain ⟨hfin, a, ha⟩ := h.complete r hr' hok
    refine ⟨(hfinished _).trans hfin, a, ?_⟩
    rw [htaken]
    rw [heq]
    exact ha

private theorem Closing.startIoreq {ops : List StreamOp} {call : GrpcCall} (h : Closing ops call)
    (hflow : Flow ops call) (hclient : call.groups.slot .sendStatus = .done) {reqs : List Ioreq}
    (tag : BatchTag) (hreqs : reqs ≠ []) (hasks : AsksForClose reqs) :
    Closing ops (call.startIoreq reqs tag).1 := by
  rcases call.startIoreq_cases reqs tag hreqs with
    ⟨set, haveOps, c, hs, hstart⟩ | ⟨set, haveOps, c, e, hc, _, hstart⟩
  · have hopened := hflow.toReading.opened hs hclient tag
    have hclosing := h.opened hflow hs hclient hasks tag
    rw [hstart]
    apply (hclosing.finishReadOps hopened).completes hopened.finishReadOps
      (earlyOutWriteOps_completes _)
    intro success hsend
    exact absurd hsend (by decide)
  · rw [hstart]
    have hrest : ({ c with groups := call.groups } : GrpcCall) =
        { call with requestData := c.requestData, requestFlags := c.requestFlags } := by
      rw [hc.rest hclient]
    dsimp only
    rw [hrest]
    refine ⟨h.clientStatus.congr rfl, h.closed, ?_, h.complete⟩
    intro s hstatus
    have hnew : .recvStatus ∉ haveOps := by
      intro hmem
      have hfree := hc.free _ hmem
      have hgroup : call.groups.slot .recvStatus = .group s := hstatus
      rw [hgroup] at hfree
      simp at hfree
    obtain ⟨hclose, hhonest⟩ := h.paired s hstatus
    have hdata := (hc.data _ hnew).1
    exact ⟨hclose, hdata ▸ hhonest⟩

def Idle (call : GrpcCall) : Prop := call.readState = .streamClosed → call.receiving = false

private theorem unlock_receiving (call : GrpcCall) :
    call.unlock.receiving = (startRecv { call with cancelWithStatus := .ok }).1.receiving :=
  (startSend_kept _).1

private theorem Idle.unlock {call : GrpcCall} (h : Idle call) : Idle call.unlock := by
  intro hclosed
  rw [call.unlock_same.readState] at hclosed
  rw [unlock_receiving]
  rcases startRecv_cases { call with cancelWithStatus := .ok } with ⟨_, hneed, _, _⟩ | ⟨_, hr⟩
  · simp [needMoreData, hclosed] at hneed
  · rw [hr]
    exact h hclosed

private theorem Idle.finishReadOps {call : GrpcCall} (h : Idle call) : Idle call.finishReadOps := by
  rw [call.finishReadOps_frame]
  exact h

private theorem Idle.completes {P : IoreqOp → Bool → Prop} {call call' : GrpcCall} (h : Idle call)
    (hc : Completes P call call') : Idle call' := by
  rw [completes_frame hc]
  exact h

private theorem Idle.cancel {call : GrpcCall} (h : Idle call) (status : StatusCode)
    (description : Option Bytes) : Idle (call.cancel status description) := by
  intro hclosed
  rw [cancel_readState] at hclosed
  rw [(call.cancel_same status description).receiving]
  exact h hclosed

theorem step_idle {call call' : GrpcCall} {e : CallEvent}
    (hclient : call.groups.slot .sendStatus = .done) (h : Idle call)
    (hstep : call.step e = .ok call') : Idle call' := by
  cases step_cases hstep with
  | emptyBatch => exact h
  | malformedBatch => exact h
  | batch ops tag reqs hne =>
      apply Idle.unlock
      rcases call.startIoreq_cases reqs (batchTag ops tag) hne with
        ⟨set, haveOps, c, hs, hstart⟩ | ⟨set, haveOps, c, e, hc, _, hstart⟩
      · rw [hstart]
        have hopened : Idle (c.opened set haveOps (batchTag ops tag)) := by
          rw [hs.opened_eq hclient]
          exact h
        exact hopened.finishReadOps.completes (earlyOutWriteOps_completes _)
      · rw [hstart, hc.rest hclient]
        exact h
  | sent success =>
      have hc := h.completes (call.finishSends_completes success)
      have hended : Idle (call.sendEnded success) := hc
      exact hended.unlock
  | received ops state c c' _ hops hstate =>
      have hidle : c'.receiving = false :=
        (recvStreamState_same hstate).receiving.trans (recvStreamOps_same hops).receiving
      exact (Idle.finishReadOps fun _ => hidle).unlock
  | recvFailed =>
      have hidle : Idle call.recvEnded := fun _ => rfl
      exact (hidle.completes (failReadOps_completes _)).unlock
  | cancelled status description => exact (h.cancel status description).unlock
  | deadlineExceeded =>
      have hidle : Idle call.alarmEnded := h
      exact (hidle.cancel _ _).finishReadOps.unlock
  | alarmCancelled =>
      have hidle : Idle call.alarmEnded := h
      exact hidle.finishReadOps.unlock
  | destroyedClosed =>
      have hidle : Idle call.destroyStarted := h
      exact hidle.unlock
  | destroyed =>
      have hidle : Idle call.destroyStarted := h
      exact (hidle.unlock.cancel _ _).unlock

/-- The receive did not fail. -/
def NotFailed : CallEvent → Prop
  | .onDoneRecv success _ _ => success = true
  | _ => True

instance : DecidablePred NotFailed
  | .onDoneRecv success _ _ => inferInstanceAs (Decidable (success = true))
  | .startBatch _ _ => isTrue trivial
  | .onDoneSend _ => isTrue trivial
  | .cancel _ _ => isTrue trivial
  | .alarm _ => isTrue trivial
  | .destroy => isTrue trivial

/-- Everything that is known about the receiving side of a client between two events. -/
structure ClientReads (ops : List StreamOp) (call : GrpcCall) : Prop where
  client : call.groups.slot .sendStatus = .done
  flow : Flow ops call
  idle : Idle call
  closing : Closing ops call

theorem ClientReads.received {past ops : List StreamOp} {call c c' : GrpcCall}
    {state : StreamState} (h : ClientReads past call) (hreceiving : call.receiving = true)
    (hops : call.recvEnded.recvStreamOps ops = .ok c)
    (hstate : c.recvStreamState state = .ok c') : Closing (past ++ ops) c' := by
  have hclosing := h.closing
  have hopen : call.isFinished .recvClose = false := by
    cases hfin : call.isFinished .recvClose with
    | false => rfl
    | true =>
        have hidle := h.idle (hclosing.closed hfin).1
        simp [hreceiving] at hidle
  have hsame := (recvStreamOps_same hops).trans (recvStreamState_same hstate)
  have hidle : ClientStatus call.recvEnded := hclosing.clientStatus.congr rfl
  have hstatus : ClientStatus c' := by
    have hc := hidle.recvStreamOps hops
    unfold recvStreamState at hstate
    split at hstate
    · split at hstate <;> cases hstate
      exact hc.congr rfl
    · cases hstate
      exact hc.congr rfl
    · cases hstate
      exact hc
  refine ⟨hstatus, ?_, ?_, ?_⟩
  · intro hfin
    rw [hsame.isFinished] at hfin
    exact absurd (hopen.symm.trans hfin) Bool.false_ne_true
  · rw [hsame.groups, hsame.requestData]
    exact hclosing.paired
  · intro r hr hok
    rw [hsame.reports] at hr
    have hfin := (hclosing.complete r hr hok).1
    simp [hopen] at hfin

theorem ClientReads.alarmEnded {past : List StreamOp} {call : GrpcCall}
    (h : ClientReads past call) : Closing past call.alarmEnded ∧ Flow past call.alarmEnded :=
  ⟨⟨h.closing.clientStatus.congr rfl, h.closing.closed, h.closing.paired, h.closing.complete⟩,
    ⟨⟨h.flow.wellFormed, ⟨h.flow.reads.error, h.flow.reads.idle⟩, h.flow.flows⟩,
      h.flow.unserved, h.flow.waits⟩⟩

theorem ClientReads.step {past : List StreamOp} {call call' : GrpcCall} {e : CallEvent}
    (h : ClientReads past call) (he : NotFailed e) (hstep : call.step e = .ok call') :
    ClientReads (past ++ receivedOps e) call' := by
  refine ⟨step_done h.client hstep, step_flow h.client h.flow hstep,
    step_idle h.client h.idle hstep, ?_⟩
  have hkept : ∀ {c : GrpcCall}, Closing past c → Closing (past ++ []) c := by
    intro c hc
    rwa [List.append_nil]
  have hclosing := h.closing
  cases step_cases hstep with
  | emptyBatch tag =>
      refine hkept ⟨hclosing.clientStatus.congr rfl, hclosing.closed, hclosing.paired, ?_⟩
      intro r hr hok
      have hr' : r ∈ call.reports := by
        simp only [reports, List.map_append, List.mem_append, List.map_cons, List.map_nil,
          List.mem_singleton] at hr ⊢
        rcases hr with (hr | rfl) | hr
        · exact Or.inl hr
        · simp at hok
        · exact Or.inr hr
      obtain ⟨hfin, a, ha⟩ := hclosing.complete r hr' hok
      refine ⟨hfin, a, ?_⟩
      rw [call.emptyBatch_taken]
      exact ha
  | malformedBatch => exact hkept hclosing
  | batch ops tag reqs hne hreqs =>
      have hasks := rewriteOps_asksForClose ⟨by simp, by simp⟩ hreqs
      exact hkept (hclosing.startIoreq h.flow h.client _ hne hasks).unlock
  | sent success =>
      have hc := hclosing.completes h.flow (call.finishSends_completes success)
        (fun success hsend => absurd hsend (by decide))
      have hended : Closing past (call.sendEnded success) :=
        ⟨hc.clientStatus.congr rfl, hc.closed, hc.paired, hc.complete⟩
      exact hkept hended.unlock
  | received ops state c c' hreceiving hops hstate =>
      have hreading := h.flow.toReading.received hops hstate
      exact ((h.received hreceiving hops hstate).finishReadOps hreading).unlock
  | recvFailed => exact absurd he Bool.false_ne_true
  | cancelled status description hstatus =>
      exact hkept (hclosing.cancel hstatus description).unlock
  | deadlineExceeded =>
      obtain ⟨hidle, hflow⟩ := h.alarmEnded
      exact hkept ((hidle.cancel (by decide) _).finishReadOps (hflow.cancel _ _).toReading).unlock
  | alarmCancelled =>
      obtain ⟨hidle, hflow⟩ := h.alarmEnded
      exact hkept (hidle.finishReadOps hflow.toReading).unlock
  | destroyedClosed =>
      have hd : Closing past call.destroyStarted :=
        ⟨hclosing.clientStatus.congr rfl, hclosing.closed, hclosing.paired, hclosing.complete⟩
      exact hkept hd.unlock
  | destroyed =>
      have hd : Closing past call.destroyStarted :=
        ⟨hclosing.clientStatus.congr rfl, hclosing.closed, hclosing.paired, hclosing.complete⟩
      exact hkept (hd.unlock.cancel (by decide) _).unlock

theorem create_clientReads (maxMessageLength : UInt32) (sendInitialMetadata : List Metadata)
    (sendDeadline : Bool) :
    ClientReads [] (create true maxMessageLength sendInitialMetadata sendDeadline) := by
  refine ⟨rfl, create_flow _ _ _, fun _ => rfl, ⟨?_, ?_, ?_, ?_⟩⟩
  · exact ⟨fun h => absurd h Bool.false_ne_true, rfl, rfl⟩
  · exact fun h => absurd h Bool.false_ne_true
  · intro set h
    have hempty : (create true maxMessageLength sendInitialMetadata sendDeadline).groups.slot
        .recvStatus = .empty := rfl
    rw [hempty] at h
    simp at h
  · intro r hr
    exact absurd hr List.not_mem_nil

private theorem client_flow {maxMessageLength : UInt32} {sendInitialMetadata : List Metadata}
    {sendDeadline : Bool} {events : List CallEvent} {call : GrpcCall}
    (h : EventRun.run step (create true maxMessageLength sendInitialMetadata sendDeadline)
      events = .ok call) :
    Flow (events.flatMap receivedOps) call ∧ call.Settled ∧
      call.maxMessageLength = maxMessageLength := by
  have hflow := EventRun.run_history
    (I := fun past c => Flow (past.flatMap receivedOps) c ∧ c.Settled ∧
      c.maxMessageLength = maxMessageLength ∧ c.groups.slot .sendStatus = .done)
    (fun past s e s' hs he => by
      obtain ⟨hflow, hsettled, hmax, hclient⟩ := hs
      rw [List.flatMap_append, List.flatMap_singleton]
      exact ⟨step_flow hclient hflow he, step_settled hsettled he,
        (step_kept hclient he).2.trans hmax, step_done hclient he⟩)
    ⟨create_flow _ _ _, create_settled _ _ _ _, rfl, rfl⟩ h
  exact ⟨hflow.1, hflow.2.1, hflow.2.2.1⟩

/-- The messages that the completion queue was given. -/
def deliveredMessages (call : GrpcCall) : List ByteBuffer :=
  call.cq.filterMap fun c => c.results.recvMessage

theorem Settled.handedOut {call : GrpcCall} (h : call.Settled) :
    call.handedOut = call.deliveredMessages := by
  rw [GrpcCall.handedOut, reports, h.completed, List.map_nil, List.append_nil,
    deliveredMessages, List.filterMap_map]
  rfl

/-- In every run of a client, as long as no error status is set, the messages that the receives
have brought are those that were reported, in order, followed by the one whose batch waits for
other operations and those in the queue. -/
theorem messages_in_order {maxMessageLength : UInt32} {sendInitialMetadata : List Metadata}
    {sendDeadline : Bool} {events : List CallEvent} {call : GrpcCall}
    (h : EventRun.run step (create true maxMessageLength sendInitialMetadata sendDeadline)
      events = .ok call) (hclean : call.Clean) :
    ∃ a, Assembly.initial.feedAll maxMessageLength (events.flatMap receivedOps) =
      some (a, call.deliveredMessages ++ call.held ++ call.incomingQueue) := by
  obtain ⟨hflow, hsettled, hmax⟩ := client_flow h
  have hfed := hflow.flows hclean
  rw [hmax, taken, hsettled.handedOut] at hfed
  exact ⟨_, hfed⟩

theorem messages_exchange : ∃ call, EventRun.run step (create true 1000 [] false) exchange = .ok call ∧
    ∃ a, Assembly.initial.feedAll 1000 (exchange.flatMap receivedOps) =
      some (a, call.deliveredMessages ++ call.held ++ call.incomingQueue) := by
  obtain ⟨call, h, hclean⟩ := EventRun.exists_ok_of_any
    (r := EventRun.run step (create true 1000 [] false) exchange)
    (p := fun c => decide c.Clean) (by decide)
  exact ⟨call, h, messages_in_order h (of_decide_eq_true hclean)⟩

/-- Messages that a sender framed and that reached the call in any pieces, with no-ops and empty
slices anywhere, are the messages that it hands out while it is clean. -/
theorem framed_messages_in_order {maxMessageLength : UInt32}
    {sendInitialMetadata : List Metadata} {sendDeadline : Bool} {events : List CallEvent}
    {call : GrpcCall}
    (h : EventRun.run step (create true maxMessageLength sendInitialMetadata sendDeadline)
      events = .ok call) (hclean : call.Clean) {a : Assembly} {head tail : List StreamOp}
    {ms : List WireMessage}
    (hhead : Assembly.initial.feedAll maxMessageLength head = some (a, []))
    (hidle : a.pending = none) (hfits : ∀ m ∈ ms, m.Fits maxMessageLength a.algorithm)
    (htail : ∀ op ∈ tail, ∃ batch, op = .metadata batch)
    (hops : Assembly.content (events.flatMap receivedOps) =
      Assembly.content (head ++ (ms.flatMap WireMessage.frame ++ tail))) :
    call.deliveredMessages ++ call.held ++ call.incomingQueue = a.received ms ∧
      (call.deliveredMessages ++ call.held ++ call.incomingQueue).map
        (fun b => b.slices.flatten) = ms.map fun m => m.slices.flatten := by
  obtain ⟨hflow, hsettled, hmax⟩ := client_flow h
  have hfed := hflow.flows hclean
  rw [hmax, taken, hsettled.handedOut, ← Assembly.feedAll_content, hops,
    Assembly.feedAll_content, Assembly.feedAll_append] at hfed
  obtain ⟨c, first, more, hc, hmore, hall⟩ := hfed
  rw [hhead] at hc
  cases hc
  obtain ⟨b, messages, last, hb, hlast, hmessages⟩ := Assembly.feedAll_append.mp hmore
  obtain ⟨b', hb', _⟩ := Assembly.feedAll_frames ms a hidle hfits
  rw [hb'] at hb
  cases hb
  have hnone := Assembly.feedAll_metadata htail hlast
  rw [hall, hmessages, hnone, List.nil_append, List.append_nil]
  exact ⟨rfl, a.received_data ms⟩

/-- Two messages with no-ops and empty slices between and inside them. -/
def paddedMessages : List CallEvent :=
  [.startBatch [⟨.recvMessage, 0⟩] 1,
    .onDoneRecv true [.metadata ⟨[], false⟩, .noOp, .beginMessage 3 0, .slice [], .slice [1]]
      .streamOpen,
    .onDoneRecv true [.noOp, .slice [2, 3], .slice [], .beginMessage 1 0, .noOp, .slice [4], .noOp,
      .metadata ⟨[⟨mdstr "grpc-status", mdstr "0"⟩], false⟩] .closed]

theorem framed_messages_padded :
    ∃ call, EventRun.run step (create true 1000 [] false) paddedMessages = .ok call ∧
      call.deliveredMessages ++ call.held ++ call.incomingQueue =
        Assembly.initial.received [⟨0, [[1], [2, 3]]⟩, ⟨0, [[4]]⟩] ∧
      (call.deliveredMessages ++ call.held ++ call.incomingQueue).map
        (fun b => b.slices.flatten) = [[1, 2, 3], [4]] := by
  obtain ⟨call, h, hclean⟩ := EventRun.exists_ok_of_any
    (r := EventRun.run step (create true 1000 [] false) paddedMessages)
    (p := fun c => decide c.Clean) (by decide)
  have hhead : Assembly.initial.feedAll 1000 [.metadata ⟨[], false⟩] =
      some (Assembly.initial, []) := by decide
  have hfits : ∀ m ∈ [(⟨0, [[1], [2, 3]]⟩ : WireMessage), ⟨0, [[4]]⟩], m.Fits 1000 .none := by
    intro m hm
    rcases List.mem_pair.mp hm with rfl | rfl
    · exact ⟨by decide, fun hc => absurd hc (by decide)⟩
    · exact ⟨by decide, fun hc => absurd hc (by decide)⟩
  have htail : ∀ op ∈ [StreamOp.metadata ⟨[⟨mdstr "grpc-status", mdstr "0"⟩], false⟩],
      ∃ batch, op = .metadata batch := fun op hop => ⟨_, List.mem_singleton.mp hop⟩
  exact ⟨call, h, framed_messages_in_order h (of_decide_eq_true hclean) hhead rfl hfits htail
    (by decide)⟩

/-- In every run of a client whose receives do not fail, a batch that reports the status `ok`
reports it when the stream is closed and every message that it carried was handed over. -/
theorem okStatus_last {maxMessageLength : UInt32} {sendInitialMetadata : List Metadata}
    {sendDeadline : Bool} {events : List CallEvent} {call : GrpcCall}
    (h : EventRun.run step (create true maxMessageLength sendInitialMetadata sendDeadline)
      events = .ok call) (hreceives : ∀ e ∈ events, NotFailed e) {c : Completion}
    (hc : c ∈ call.cq) (hok : c.results.recvStatus = some .ok) :
    call.readState = .streamClosed ∧ call.incomingQueue = [] ∧
      ∃ a, Assembly.initial.feedAll maxMessageLength (events.flatMap receivedOps) =
        some (a, call.deliveredMessages ++ call.held) := by
  have hreads := EventRun.run_history
    (I := fun past c => (∀ e ∈ past, NotFailed e) → ClientReads (past.flatMap receivedOps) c)
    (fun past s e s' hs he hnf => by
      rw [List.flatMap_append, List.flatMap_singleton]
      exact (hs fun e' he' => hnf e' (by simp [he'])).step (hnf e (by simp)) he)
    (fun _ => create_clientReads _ _ _) h hreceives
  obtain ⟨_, hsettled, hmax⟩ := client_flow h
  have hr : c.results ∈ call.reports :=
    List.mem_append_left _ (List.mem_map.mpr ⟨c, hc, rfl⟩)
  obtain ⟨hfin, a, ha⟩ := hreads.closing.complete _ hr hok
  obtain ⟨hclosed, hqueue⟩ := hreads.closing.closed hfin
  rw [hmax, taken, hsettled.handedOut] at ha
  exact ⟨hclosed, hqueue, a, ha⟩

theorem okStatus_exchange :
    ∃ call, EventRun.run step (create true 1000 [] false) exchange = .ok call ∧
      ∃ c ∈ call.cq, c.results.recvStatus = some .ok ∧ call.readState = .streamClosed ∧
        call.incomingQueue = [] ∧
        ∃ a, Assembly.initial.feedAll 1000 (exchange.flatMap receivedOps) =
          some (a, call.deliveredMessages ++ call.held) := by
  obtain ⟨call, h, hreported⟩ := EventRun.exists_ok_of_any
    (r := EventRun.run step (create true 1000 [] false) exchange)
    (p := fun call => call.cq.any fun c => decide (c.results.recvStatus = some .ok)) (by decide)
  obtain ⟨c, hc, hok⟩ := List.any_eq_true.mp hreported
  have hstatus := of_decide_eq_true hok
  exact ⟨call, h, c, hc, hstatus, okStatus_last h (by decide) hc hstatus⟩

end CrowdSound.Core.GrpcCall
