import CrowdSound.Core.Alarms
import CrowdSound.Core.Sending

/-!
# The first send

A client sends its initial metadata once, before everything else: those of the channel, followed by
those of the one batch that was accepted with initial metadata.
-/

namespace CrowdSound.Core

/-- The initial metadata that an operation asks to be sent. -/
def Ioreq.initialMetadata (req : Ioreq) : Option (List Metadata) :=
  match req.op, req.data with
  | .sendInitialMetadata, .sendMetadata metadata => some metadata
  | _, _ => none

def BatchOp.initialMetadata (o : BatchOp) : Option (List Metadata) :=
  match o.op with
  | .sendInitialMetadata metadata => some metadata
  | _ => none

namespace GrpcCall

open OpGroups

def acceptedMetadata (call : GrpcCall) : CallEvent → List (List Metadata) :=
  acceptedParts BatchOp.initialMetadata call

/-- What a client sends first, given the metadata of its channel and those it was asked to send. -/
def firstBatch (channel : List Metadata) (deadline : Bool) (metadata : List Metadata) :
    MetadataBatch :=
  ⟨channel.reverse ++ metadata.map Metadata.canonical, deadline⟩

/-- How the sending of the initial metadata begins: `chosen` are those of the accepted batches. -/
structure Begins (channel : List Metadata) (deadline : Bool) (chosen : List (List Metadata))
    (call : GrpcCall) : Prop where
  unasked : call.groups.slot .sendInitialMetadata = .empty → chosen = []
  asked : call.groups.slot .sendInitialMetadata ≠ .empty → ∃ metadata, chosen = [metadata] ∧
    call.requestData .sendInitialMetadata = .sendMetadata metadata
  sendDeadline : call.sendDeadline = deadline
  unsent : call.sends = [] → call.sendInitialMetadata = channel
  wire : call.sends ≠ [] → ∃ metadata rest, chosen = [metadata] ∧
    call.sentOps = .metadata (firstBatch channel deadline metadata) :: rest

structure SameBeginning (call call' : GrpcCall) : Prop where
  free : call'.groups.slot .sendInitialMetadata = .empty ↔
    call.groups.slot .sendInitialMetadata = .empty
  requestData : call'.requestData = call.requestData
  sendDeadline : call'.sendDeadline = call.sendDeadline
  sendInitialMetadata : call'.sendInitialMetadata = call.sendInitialMetadata
  transportOps : call'.transportOps = call.transportOps

private theorem SameBeginning.trans {c c' c'' : GrpcCall} (h : SameBeginning c c')
    (h' : SameBeginning c' c'') : SameBeginning c c'' where
  free := h'.free.trans h.free
  requestData := h'.requestData.trans h.requestData
  sendDeadline := h'.sendDeadline.trans h.sendDeadline
  sendInitialMetadata := h'.sendInitialMetadata.trans h.sendInitialMetadata
  transportOps := h'.transportOps.trans h.transportOps

section Events

variable {channel : List Metadata} {deadline : Bool} {chosen : List (List Metadata)}
  {accepted sent : List WireMessage} {call call' : GrpcCall}

private theorem Begins.congr (h : Begins channel deadline chosen call)
    (hs : SameBeginning call call') :
    Begins channel deadline chosen call' := by
  have hsends : call'.sends = call.sends := by
    rw [sends, hs.transportOps, ← sends]
  constructor
  case unasked => exact fun hempty => h.unasked (hs.free.mp hempty)
  case asked =>
      intro htaken
      rw [hs.requestData]
      exact h.asked fun hempty => htaken (hs.free.mpr hempty)
  case sendDeadline => exact hs.sendDeadline.trans h.sendDeadline
  case unsent =>
      rw [hsends, hs.sendInitialMetadata]
      exact h.unsent
  case wire =>
      rw [sentOps, hsends, ← sentOps]
      exact h.wire

private theorem finishIoreqOp_free (call : GrpcCall) (op : IoreqOp) (success : Bool) :
    (call.finishIoreqOp op success).groups.slot .sendInitialMetadata = .empty ↔
      call.groups.slot .sendInitialMetadata = .empty := by
  rcases call.finishIoreqOp_slot_cases op success .sendInitialMetadata with hs | ⟨⟨l, hl⟩, hs⟩
  · rw [hs]
  · rw [hs, hl]
    simp [IoreqOp.reusable]

private theorem completes_beginning {P : IoreqOp → Bool → Prop} (hc : Completes P call call') :
    SameBeginning call call' := by
  have hfree : call'.groups.slot .sendInitialMetadata = .empty ↔
      call.groups.slot .sendInitialMetadata = .empty := by
    induction hc with
    | refl => exact Iff.rfl
    | finish op success _ _ ih => exact (finishIoreqOp_free _ op success).trans ih
    | write state _ ih => exact ih
  refine ⟨hfree, ?_, ?_, ?_, ?_⟩
  all_goals
    rw [completes_frame hc]
    rfl

private theorem finishReadOps_beginning (call : GrpcCall) :
    SameBeginning call call.finishReadOps := by
  have hpop : SameBeginning call call.popMessage.1 := by
    rcases call.popMessage_cases with ⟨_, h⟩ | ⟨_, _, h⟩ | ⟨message, rest, _, _, h⟩ <;> rw [h]
    · exact ⟨Iff.rfl, rfl, rfl, rfl, rfl⟩
    · exact ⟨Iff.rfl, rfl, rfl, rfl, rfl⟩
    · have hfinish : Completes (fun _ _ => True) (call.takeMessage message rest)
          ((call.takeMessage message rest).finishIoreqOp .recvMessage true) :=
        Completes.refl.finish _ _ trivial
      have htake : SameBeginning call (call.takeMessage message rest) :=
        ⟨Iff.rfl, rfl, rfl, rfl, rfl⟩
      exact htake.trans (completes_beginning hfinish)
  exact hpop.trans (completes_beginning call.finishReadOps_completes)

private theorem cancel_beginning (call : GrpcCall) (status : StatusCode)
    (description : Option Bytes) :
    SameBeginning call (call.cancel status description) := by
  have h := call.cancel_same status description
  exact ⟨by rw [h.groups], h.requestData, congrArg Prod.fst (call.cancel_deadline status description),
    h.sendInitialMetadata, h.transportOps⟩

private theorem received_beginning {ops : List StreamOp} {state : StreamState} {c : GrpcCall}
    (hclient : call.isClient = true) (hops : call.recvStreamOps ops = .ok c)
    (hstate : c.recvStreamState state = .ok call') : SameBeginning call call' := by
  have h := (recvStreamOps_same hops).trans (recvStreamState_same hstate)
  have hdeadline := (recvStreamState_deadline hstate).trans (recvStreamOps_deadline hclient hops)
  exact ⟨by rw [h.groups], h.requestData, congrArg Prod.fst hdeadline, h.sendInitialMetadata,
    h.transportOps⟩

theorem Begins.unlock (h : Begins channel deadline chosen call) (hs : Sends accepted sent call) :
    Begins channel deadline chosen call.unlock := by
  have hsame := call.unlock_same
  constructor
  case unasked =>
      rw [hsame.groups]
      exact h.unasked
  case asked =>
      rw [hsame.groups, hsame.requestData]
      exact h.asked
  case sendDeadline => exact hsame.sendDeadline.trans h.sendDeadline
  case unsent =>
      rcases hs.unlock_cases with ⟨hsends, hmetadata⟩ | ⟨s, hsends, _⟩
      · rw [hsends, hmetadata]
        exact h.unsent
      · rw [hsends]
        exact fun hnil => absurd hnil (by simp)
  case wire =>
      rcases hs.unlock_cases with ⟨hsends, _⟩ | ⟨s, hsends, hidle, hlive, hops⟩
      · rw [sentOps, hsends, ← sentOps]
        exact h.wire
      · intro _
        rw [sentOps, hsends, List.flatMap_append, ← sentOps, List.flatMap_singleton]
        by_cases hnil : call.sends = []
        · -- the send is the first
          have hinitial := (hs.begun.mp hnil).1
          have htaken : call.groups.slot .sendInitialMetadata ≠ .empty := by
            intro hempty
            obtain ⟨l, hl, _⟩ := Groups.isLive_iff.mp (hlive hinitial)
            simp [hempty] at hl
          obtain ⟨metadata, hchosen, hdata⟩ := h.asked htaken
          refine ⟨metadata, call.unsent.flatMap WireMessage.frame, hchosen, ?_⟩
          rw [sentOps, hnil, List.flatMap_nil, List.nil_append, hops, if_pos hinitial, initialOps,
            hdata, h.unsent hnil, h.sendDeadline]
          rfl
        · obtain ⟨metadata, rest, hchosen, hwire⟩ := h.wire hnil
          exact ⟨metadata, rest ++ s.ops, hchosen, by rw [hwire, List.cons_append]⟩

private theorem rewriteOp_initialMetadata {o : BatchOp} {reqs : List Ioreq}
    (h : call.rewriteOp o = .ok reqs) :
    reqs.filterMap Ioreq.initialMetadata = (BatchOp.initialMetadata o).toList ∧
      ∀ req ∈ reqs, req.op = .sendInitialMetadata →
        ∃ metadata, req.data = .sendMetadata metadata := by
  rcases o with ⟨op, flags⟩
  unfold rewriteOp at h
  repeat' split at h
  all_goals cases h
  all_goals simp_all [Ioreq.initialMetadata, BatchOp.initialMetadata]

private theorem Ioreq.initialMetadata_of_ne (req : Ioreq) (h : req.op ≠ .sendInitialMetadata) :
    req.initialMetadata = none := by
  unfold Ioreq.initialMetadata
  split
  · next hop _ => exact absurd hop h
  · rfl

/-- Only the first batch with initial metadata is accepted. -/
theorem Begins.opened {c : GrpcCall} {reqs : List Ioreq} {set : IoreqOp}
    {haveOps : Finset IoreqOp} (h : Begins channel deadline chosen call)
    (hs : Started call reqs set haveOps c) (hclient : call.groups.slot .sendStatus = .done)
    (hnodup : (reqs.map Ioreq.op).Nodup)
    (hdata : ∀ req ∈ reqs, req.op = .sendInitialMetadata →
      ∃ metadata, req.data = .sendMetadata metadata) (tag : BatchTag) :
    Begins channel deadline (chosen ++ reqs.filterMap Ioreq.initialMetadata)
      (c.opened set haveOps tag) := by
  have hslot : (c.opened set haveOps tag).groups.slot .sendInitialMetadata =
      if .sendInitialMetadata ∈ haveOps then .group set
      else call.groups.slot .sendInitialMetadata := hs.claimed.slots _
  have hstored : (c.opened set haveOps tag).requestData = c.requestData := rfl
  have hrest : (c.opened set haveOps tag).sendDeadline = call.sendDeadline ∧
      (c.opened set haveOps tag).sendInitialMetadata = call.sendInitialMetadata ∧
      (c.opened set haveOps tag).sends = call.sends := by
    rw [hs.opened_eq hclient tag]
    exact ⟨rfl, rfl, rfl⟩
  by_cases hmem : .sendInitialMetadata ∈ haveOps
  · have hnone := h.unasked (hs.claimed.free _ hmem)
    obtain ⟨req, hreq, hop, hd, _⟩ := hs.stored hmem
    obtain ⟨metadata, hmetadata⟩ := hdata req hreq hop
    have hnew : reqs.filterMap Ioreq.initialMetadata = [metadata] := by
      rw [filterMap_request Ioreq.initialMetadata_of_ne hnodup hreq hop]
      simp [Ioreq.initialMetadata, hop, hmetadata]
    have hquiet : call.sends = [] := by
      by_contra hsent
      obtain ⟨_, _, hchosen, _⟩ := h.wire hsent
      simp [hnone] at hchosen
    rw [if_pos hmem] at hslot
    rw [hnone, hnew, List.nil_append]
    constructor
    case unasked => exact fun hempty => absurd (hslot.symm.trans hempty) (by simp)
    case asked => exact fun _ => ⟨metadata, rfl, by rw [hstored, hd, hmetadata]⟩
    case sendDeadline => exact hrest.1.trans h.sendDeadline
    case unsent => exact fun _ => hrest.2.1.trans (h.unsent hquiet)
    case wire => exact fun hsent => absurd (hrest.2.2.trans hquiet) hsent
  · rw [hs.filterMap_of_notMem Ioreq.initialMetadata_of_ne hmem, List.append_nil]
    rw [if_neg hmem] at hslot
    constructor
    case unasked =>
        rw [hslot]
        exact h.unasked
    case asked =>
        rw [hslot, hstored, (hs.claimed.data _ hmem).1]
        exact h.asked
    case sendDeadline => exact hrest.1.trans h.sendDeadline
    case unsent =>
        rw [hrest.2.2, hrest.2.1]
        exact h.unsent
    case wire =>
        rw [sentOps, hrest.2.2, ← sentOps]
        exact h.wire

private theorem Begins.startIoreq (h : Begins channel deadline chosen call)
    (hclient : call.groups.slot .sendStatus = .done) {reqs : List Ioreq} (tag : BatchTag)
    (hreqs : reqs ≠ []) (hdata : ∀ req ∈ reqs, req.op = .sendInitialMetadata →
      ∃ metadata, req.data = .sendMetadata metadata) :
    Begins channel deadline (chosen ++ if (call.startIoreq reqs tag).2 = .ok then
        reqs.filterMap Ioreq.initialMetadata else []) (call.startIoreq reqs tag).1 := by
  have hok := call.startIoreq_ok_iff reqs tag
  rcases call.startIoreq_cases reqs tag hreqs with
    ⟨set, haveOps, c, hs, hstart⟩ | ⟨set, haveOps, c, e, hc, he, hstart⟩
  · rw [hstart] at hok ⊢
    rw [if_pos rfl]
    have hopened := h.opened hs hclient (hok.mp rfl).1 hdata tag
    exact (hopened.congr (finishReadOps_beginning _)).congr
      (completes_beginning (earlyOutWriteOps_completes _))
  · rw [hstart, if_neg he, List.append_nil, hc.rest hclient]
    -- what a refused batch stores was not in use
    refine ⟨h.unasked, fun htaken => ?_, h.sendDeadline, h.unsent, h.wire⟩
    have hnew : .sendInitialMetadata ∉ haveOps := fun hmem => htaken (hc.free _ hmem)
    show ∃ metadata, _ ∧ c.requestData .sendInitialMetadata = _
    rw [(hc.data _ hnew).1]
    exact h.asked htaken

theorem step_begins {e : CallEvent} (hclient : call.groups.slot .sendStatus = .done)
    (hs : Sends accepted sent call) (h : Begins channel deadline chosen call) (he : NotFailed e)
    (hstep : call.step e = .ok call') :
    Begins channel deadline (chosen ++ call.acceptedMetadata e) call' := by
  have hkept : ∀ {c : GrpcCall}, Begins channel deadline chosen c →
      Begins channel deadline (chosen ++ []) c := by
    intro c hc
    rwa [List.append_nil]
  have hidle : ∀ {c : GrpcCall}, SameSends call c → Sends accepted sent c := fun hsame =>
    hs.congr hsame
  have hbatch : ∀ ops tag, e = .startBatch ops tag →
      Begins channel deadline (chosen ++ call.acceptedMetadata e) call' := by
    intro ops tag he'
    subst he'
    rw [← Except.ok.inj hstep]
    simp only [acceptedMetadata, acceptedParts]
    rcases call.startBatch_cases ops tag with
      ⟨hops, hb⟩ | ⟨e, hne, hreqs, hb⟩ | ⟨reqs, hne, hreqs, hb⟩
    · subst hops
      rw [hb]
      simp only [if_true, List.filterMap_nil, List.append_nil]
      exact h.congr ⟨Iff.rfl, rfl, rfl, rfl, rfl⟩
    · rw [hb, if_neg hne]
      exact hkept h
    · obtain ⟨hmetadata, hdata⟩ :=
        rewriteOps_filterMap (fun _ _ => rewriteOp_initialMetadata) (by simp) hreqs
      have hmessages := (rewriteOps_filterMap (fun _ _ => rewriteOp_message) (by simp) hreqs).2
      have hstarted := (h.startIoreq hclient (batchTag ops tag) hne hdata).unlock
        (hs.startIoreq hclient (batchTag ops tag) hne hmessages)
      rw [hmetadata, List.filterMap_nil, List.nil_append] at hstarted
      rw [hb]
      exact hstarted
  -- the call when its alarm has ended and when it is destroyed
  have halarm : Sends accepted sent call.alarmEnded :=
    hidle ⟨rfl, rfl, rfl, rfl, rfl, rfl, rfl, rfl⟩
  have hended : Begins channel deadline chosen call.alarmEnded :=
    h.congr ⟨Iff.rfl, rfl, rfl, rfl, rfl⟩
  have hd : Sends accepted sent call.destroyStarted :=
    hidle ⟨rfl, rfl, rfl, rfl, rfl, rfl, rfl, rfl⟩
  have hdestroyed : Begins channel deadline chosen call.destroyStarted :=
    h.congr ⟨Iff.rfl, rfl, rfl, rfl, rfl⟩
  cases step_cases hstep with
  | emptyBatch tag => exact hbatch _ _ rfl
  | malformedBatch ops tag => exact hbatch _ _ rfl
  | batch ops tag => exact hbatch _ _ rfl
  | sent success hsending =>
      have hended : SameBeginning call (call.sendEnded success) := by
        have hc := completes_beginning (call.finishSends_completes success)
        exact ⟨hc.free, hc.requestData, hc.sendDeadline, hc.sendInitialMetadata, hc.transportOps⟩
      exact hkept ((h.congr hended).unlock (hs.sendEnded hsending success))
  | received ops state c c' _ hops hstate =>
      have hrecv : SameSends call call.recvEnded := ⟨rfl, rfl, rfl, rfl, rfl, rfl, rfl, rfl⟩
      have hsends := ((hidle hrecv).congr (recvStreamOps_same hops).sends).congr
        (recvStreamState_same hstate).sends
      have hrecv' : Begins channel deadline chosen call.recvEnded :=
        h.congr ⟨Iff.rfl, rfl, rfl, rfl, rfl⟩
      have hclient' : call.recvEnded.isClient = true := hs.client
      have hread := received_beginning hclient' hops hstate
      exact hkept (((hrecv'.congr hread).congr (finishReadOps_beginning c')).unlock
        hsends.finishReadOps)
  | recvFailed => exact absurd he Bool.false_ne_true
  | cancelled status description =>
      exact hkept ((h.congr (cancel_beginning _ _ _)).unlock
        (hidle (call.cancel_sends status description)))
  | deadlineExceeded =>
      refine hkept (Begins.unlock ?_ (halarm.congr (cancel_sends _ _ _)).finishReadOps)
      exact (hended.congr (cancel_beginning _ _ _)).congr (finishReadOps_beginning _)
  | alarmCancelled =>
      exact hkept ((hended.congr (finishReadOps_beginning _)).unlock halarm.finishReadOps)
  | destroyedClosed => exact hkept (hdestroyed.unlock hd)
  | destroyed =>
      obtain ⟨sent', hsent⟩ := hd.unlock
      refine hkept (Begins.unlock ?_ (hsent.congr (cancel_sends _ _ _)))
      exact (hdestroyed.unlock hd).congr (cancel_beginning _ _ _)

end Events

private theorem create_begins (maxMessageLength : UInt32) (sendInitialMetadata : List Metadata)
    (sendDeadline : Bool) : Begins sendInitialMetadata sendDeadline []
      (create true maxMessageLength sendInitialMetadata sendDeadline) :=
  ⟨fun _ => rfl, fun htaken => absurd rfl htaken, rfl, fun _ => rfl, fun hsent => absurd rfl hsent⟩

theorem run_begins {maxMessageLength : UInt32} {sendInitialMetadata : List Metadata}
    {sendDeadline : Bool} {events : List CallEvent} {call : GrpcCall}
    (h : EventRun.run step (create true maxMessageLength sendInitialMetadata sendDeadline)
      events = .ok call) (hreceives : ∀ e ∈ events, NotFailed e) :
    Begins sendInitialMetadata sendDeadline (EventRun.trace step acceptedMetadata
      (create true maxMessageLength sendInitialMetadata sendDeadline) events) call := by
  have hrun : call.groups.slot .sendStatus = .done ∧ (∃ accepted sent, Sends accepted sent call) ∧
      Begins sendInitialMetadata sendDeadline ([] ++ EventRun.trace step acceptedMetadata
        (create true maxMessageLength sendInitialMetadata sendDeadline) events) call :=
    EventRun.run_trace_invariant_of (P := NotFailed)
      (I := fun chosen c => c.groups.slot .sendStatus = .done ∧
        (∃ accepted sent, Sends accepted sent c) ∧
          Begins sendInitialMetadata sendDeadline chosen c)
      (fun past s e s' hs he hstep => by
        obtain ⟨hclient, ⟨accepted, sent, hsent⟩, hbegins⟩ := hs
        obtain ⟨sent', hsent'⟩ := step_sends hclient hsent he hstep
        exact ⟨step_done hclient hstep, ⟨_, sent', hsent'⟩,
          step_begins hclient hsent hbegins he hstep⟩)
      ⟨rfl, ⟨[], [], create_sends maxMessageLength sendInitialMetadata sendDeadline⟩,
        create_begins maxMessageLength sendInitialMetadata sendDeadline⟩ hreceives h
  exact hrun.2.2

theorem Begins.sent {channel : List Metadata} {deadline : Bool} {chosen : List (List Metadata)}
    {accepted sent : List WireMessage} {call : GrpcCall}
    (h : Begins channel deadline chosen call) (hs : Sends accepted sent call) :
    call.sends = [] ∧ sent = [] ∨ ∃ metadata, chosen = [metadata] ∧ call.sentOps =
      .metadata (firstBatch channel deadline metadata) :: sent.flatMap WireMessage.frame := by
  rcases hs.wire with hnone | ⟨batch, hbatch⟩
  · exact Or.inl hnone
  · have hsent : call.sends ≠ [] := by
      intro hnil
      rw [sentOps, hnil] at hbatch
      simp at hbatch
    obtain ⟨metadata, rest, hchosen, hwire⟩ := h.wire hsent
    rw [hbatch] at hwire
    obtain ⟨hfirst, _⟩ := List.cons.inj hwire
    exact Or.inr ⟨metadata, hchosen, hfirst ▸ hbatch⟩

/-- In every run of a client whose receives do not fail, the transport is given the initial metadata
of the channel and of the one accepted batch that has some, and then, in order and once each, the
messages of the accepted batches, all but the one that waits for as long as the write side is open,
and no send after the one with the close. -/
theorem sent_in_order {maxMessageLength : UInt32} {sendInitialMetadata : List Metadata}
    {sendDeadline : Bool} {events : List CallEvent} {call : GrpcCall}
    (h : EventRun.run step (create true maxMessageLength sendInitialMetadata sendDeadline)
      events = .ok call) (hreceives : ∀ e ∈ events, NotFailed e) :
    ∃ sent, (call.sends = [] ∧ sent = [] ∨
        ∃ metadata, EventRun.trace step acceptedMetadata
            (create true maxMessageLength sendInitialMetadata sendDeadline) events = [metadata] ∧
          call.sentOps = .metadata (firstBatch sendInitialMetadata sendDeadline metadata) ::
            sent.flatMap WireMessage.frame) ∧
      sent <+: EventRun.trace step acceptedMessages
        (create true maxMessageLength sendInitialMetadata sendDeadline) events ∧
      (call.writeState ≠ .writeClosed → EventRun.trace step acceptedMessages
        (create true maxMessageLength sendInitialMetadata sendDeadline) events =
          sent ++ call.unsent) ∧
      call.sends.Pairwise fun s _ => s.isLastSend = false := by
  obtain ⟨sent, hsent⟩ := run_sends h hreceives
  have hbegins := run_begins h hreceives
  exact ⟨sent, hbegins.sent hsent, hsent.sentPrefix, hsent.waiting, hsent.order⟩

theorem sent_exchange :
    ∃ call, EventRun.run step (create true 1000 [] false) exchange = .ok call ∧
      ∃ sent, (call.sends = [] ∧ sent = [] ∨
          ∃ metadata, EventRun.trace step acceptedMetadata (create true 1000 [] false) exchange =
              [metadata] ∧
            call.sentOps = .metadata (firstBatch [] false metadata) ::
              sent.flatMap WireMessage.frame) ∧
        sent <+: EventRun.trace step acceptedMessages (create true 1000 [] false) exchange ∧
        (call.writeState ≠ .writeClosed →
          EventRun.trace step acceptedMessages (create true 1000 [] false) exchange =
            sent ++ call.unsent) ∧
        call.sends.Pairwise fun s _ => s.isLastSend = false := by
  obtain ⟨call, h, _⟩ := EventRun.exists_ok_of_any
    (r := EventRun.run step (create true 1000 [] false) exchange) (p := fun _ => true) (by decide)
  exact ⟨call, h, sent_in_order h (by decide)⟩

end GrpcCall

end CrowdSound.Core
