import CrowdSound.Core.Alarms

/-!
# What a pending operation waits for

A pending read waits for a receive that is in flight, or for the application to take messages out
of a full buffer. One exception is a close that is pending when the call is cancelled: the
cancellation drops the last messages and does not look at the close again. The other is a message
that receives far more than was announced: the call then finds no room for another receive.
-/

namespace CrowdSound.Core.GrpcCall

open OpGroups

/-- The reads that complete as soon as the stream is closed for reading. -/
def untilReadClosed : List IoreqOp :=
  [.recvStatus, .recvStatusDetails, .recvTrailingMetadata, .recvInitialMetadata]

private theorem finishReadClosed_isOpLive {call : GrpcCall} (hwf : call.groups.WellFormed)
    (empty : Bool) {op : IoreqOp} (h : (call.finishReadClosed empty).isOpLive op = true) :
    call.isOpLive op = true ∧ op ∉ untilReadClosed ∧ (empty = true → op ≠ .recvMessage) := by
  obtain ⟨c, hc, hcomp⟩ : ∃ c, (c = if empty then call.finishIoreqOp .recvMessage true else call) ∧
      Completes (fun _ _ => True) call c := by
    refine ⟨_, rfl, ?_⟩
    exact .ite (Completes.refl.finish _ _ trivial) .refl
  have h₀ := completes_wellFormed hcomp hwf
  have h₁ := Completes.finish (P := fun _ _ => True) .recvStatus true hcomp trivial
  have h₂ := h₁.finish .recvStatusDetails true trivial
  have h₃ := h₂.finish .recvTrailingMetadata true trivial
  have hshape : call.finishReadClosed empty =
      (((c.finishIoreqOp .recvStatus true).finishIoreqOp .recvStatusDetails true).finishIoreqOp
        .recvTrailingMetadata true).finishIoreqOp .recvInitialMetadata true := by
    rw [hc]
    rfl
  rw [hshape, finishIoreqOp_isOpLive (completes_wellFormed h₃ hwf),
    finishIoreqOp_isOpLive (completes_wellFormed h₂ hwf),
    finishIoreqOp_isOpLive (completes_wellFormed h₁ hwf), finishIoreqOp_isOpLive h₀] at h
  simp only [Bool.and_eq_true, decide_eq_true_eq] at h
  obtain ⟨⟨⟨⟨hlive, hstatus⟩, hdetails⟩, htrailing⟩, hinitial⟩ := h
  have hmessage : call.isOpLive op = true ∧ (empty = true → op ≠ .recvMessage) := by
    cases empty with
    | false =>
        rw [hc, if_neg Bool.false_ne_true] at hlive
        exact ⟨hlive, fun h => absurd h Bool.false_ne_true⟩
    | true =>
        rw [hc, if_pos rfl, finishIoreqOp_isOpLive hwf, Bool.and_eq_true,
          decide_eq_true_eq] at hlive
        exact ⟨hlive.1, fun _ => hlive.2⟩
  refine ⟨hmessage.1, ?_, hmessage.2⟩
  simp [untilReadClosed, hstatus, hdetails, htrailing, hinitial]

/-- A close waits for messages to be taken or for the alarm to end. -/
def CloseWaits (call : GrpcCall) : Prop :=
  call.isOpLive .recvClose = true → call.readState = .streamClosed →
    call.incomingQueue ≠ [] ∨ call.haveAlarm = true

structure Pending (call : GrpcCall) : Prop where
  initialMetadata : call.isOpLive .recvInitialMetadata = true → call.readState = .initial
  reads : ∀ op, op = .recvMessage ∨ op ∈ untilReadClosed → call.isOpLive op = true →
    call.readState ≠ .readClosed ∧ call.readState ≠ .streamClosed

private theorem Pending.congr {c c' : GrpcCall} (h : Pending c) (hread : c'.readState = c.readState)
    (hlive : ∀ op, c'.isOpLive op = true → c.isOpLive op = true) : Pending c' where
  initialMetadata hl := hread.trans (h.initialMetadata (hlive _ hl))
  reads op hop hl := by
    rw [hread]
    exact h.reads op hop (hlive op hl)

private theorem CloseWaits.congr {c c' : GrpcCall} (h : CloseWaits c)
    (hread : c'.readState = c.readState)
    (hqueue : c'.incomingQueue = c.incomingQueue) (halarm : c'.haveAlarm = c.haveAlarm)
    (hlive : c'.isOpLive .recvClose = true → c.isOpLive .recvClose = true) : CloseWaits c' := by
  intro hl hclosed
  rw [hqueue, halarm]
  exact h (hlive hl) (hread.symm.trans hclosed)

theorem finishReadOps_pending {call : GrpcCall} (hwf : call.groups.WellFormed) :
    Pending call.finishReadOps ∧ CloseWaits call.finishReadOps := by
  have hwf' := (popMessage_accounts ⟨hwf, rfl⟩).1
  have hpop := popMessage_taken hwf
  have hread := call.popMessage_readState
  have halarm := call.popMessage_haveAlarm
  -- the stream is closed for reading
  have hclosed : ∀ c, Completes (fun _ _ => True) call.popMessage.1 c →
      call.readState ≠ .initial ∧ call.readState ≠ .gotInitialMetadata →
      Pending (c.finishReadClosed call.popMessage.2) := by
    intro c hc hr
    have hc' := completes_wellFormed hc hwf'
    constructor
    · intro hlive
      have hno := (finishReadClosed_isOpLive hc' _ hlive).2.1
      simp [untilReadClosed] at hno
    · intro op hop hlive
      obtain ⟨hlive, hno, hempty⟩ := finishReadClosed_isOpLive hc' _ hlive
      rcases hop with rfl | hop
      · have hq := hpop.2.2.1 (completes_isOpLive hc hwf' hlive)
        exact absurd rfl (hempty (by rw [hpop.2.2.2, hq]; rfl))
      · exact absurd hop hno
  have hqueue := completes_incomingQueue call.finishReadOps_completes
  have hstate : call.finishReadOps.readState = call.readState := by
    rw [call.finishReadOps_frame]
    rfl
  have halarm' := call.finishReadOps_haveAlarm
  cases hr : call.readState with
  | initial =>
      refine ⟨⟨fun _ => hstate.trans hr, ?_⟩, ?_⟩
      · intro op _ _
        rw [hstate, hr]
        exact ⟨by decide, by decide⟩
      · intro _ hc
        rw [hstate, hr] at hc
        exact absurd hc (by decide)
  | gotInitialMetadata =>
      refine ⟨⟨?_, ?_⟩, ?_⟩
      · intro hlive
        unfold finishReadOps at hlive
        dsimp only at hlive
        rw [hread, hr] at hlive
        dsimp only at hlive
        rw [finishIoreqOp_isOpLive hwf'] at hlive
        simp at hlive
      · intro op _ _
        rw [hstate, hr]
        exact ⟨by decide, by decide⟩
      · intro _ hc
        rw [hstate, hr] at hc
        exact absurd hc (by decide)
  | readClosed =>
      have hdone := hclosed call.popMessage.1 .refl (by simp [hr])
      have hshape : call.finishReadOps = call.popMessage.1.finishReadClosed call.popMessage.2 := by
        unfold finishReadOps
        dsimp only
        rw [hread, hr]
      rw [hshape] at hstate ⊢
      refine ⟨hdone, ?_⟩
      intro _ hc
      rw [hstate, hr] at hc
      exact absurd hc (by decide)
  | streamClosed =>
      obtain ⟨c, hc⟩ : ∃ c, c = if call.popMessage.2 && !call.popMessage.1.haveAlarm then
          call.popMessage.1.finishIoreqOp .recvClose true else call.popMessage.1 := ⟨_, rfl⟩
      have hshape : call.finishReadOps = c.finishReadClosed call.popMessage.2 := by
        unfold finishReadOps
        dsimp only
        rw [hread, hr, hc]
      have hcomp : Completes (fun _ _ => True) call.popMessage.1 c := by
        rw [hc]
        exact .ite (Completes.refl.finish _ _ trivial) .refl
      have hdone := hclosed c hcomp (by simp [hr])
      rw [hshape] at hqueue halarm' ⊢
      refine ⟨hdone, ?_⟩
      intro hlive _
      rw [hqueue, halarm']
      by_contra hno
      rw [not_or, not_not, Bool.not_eq_true] at hno
      have hempty : call.popMessage.2 = true := by
        rw [hpop.2.2.2, hno.1]
        rfl
      have hlive' := (finishReadClosed_isOpLive (completes_wellFormed hcomp hwf') _ hlive).1
      rw [hc, hempty, halarm, hno.2] at hlive'
      simp [finishIoreqOp_isOpLive hwf'] at hlive'

private theorem startIoreq_pending {call : GrpcCall} (hwf : call.groups.WellFormed)
    (hclient : call.groups.slot .sendStatus = .done) (reqs : List Ioreq) (tag : BatchTag)
    (hreqs : reqs ≠ []) (h : Pending call) :
    Pending (call.startIoreq reqs tag).1 ∧
      (CloseWaits call → CloseWaits (call.startIoreq reqs tag).1) := by
  rcases call.startIoreq_cases reqs tag hreqs with
    ⟨set, haveOps, c, hs, hstart⟩ | ⟨set, haveOps, c, e, hc, _, hstart⟩
  · rw [hstart]
    have hopened : (c.opened set haveOps tag).groups.WellFormed :=
      hwf.setUp tag hs.leader hs.claimed.free hs.claimed.slots hs.claimed.master
    have hread := finishReadOps_pending hopened
    have hcomp := earlyOutWriteOps_completes (c.opened set haveOps tag).finishReadOps
    have hwf' := (finishReadOps_accounts ⟨hopened, rfl⟩).1
    have hframe := completes_frame hcomp
    have hstate : (c.opened set haveOps tag).finishReadOps.earlyOutWriteOps.readState =
        (c.opened set haveOps tag).finishReadOps.readState := by
      rw [hframe]
      rfl
    have halarm : (c.opened set haveOps tag).finishReadOps.earlyOutWriteOps.haveAlarm =
        (c.opened set haveOps tag).finishReadOps.haveAlarm := by
      rw [hframe]
      rfl
    refine ⟨hread.1.congr hstate fun _ => completes_isOpLive hcomp hwf', fun _ => ?_⟩
    exact hread.2.congr hstate (completes_incomingQueue hcomp) halarm
      (completes_isOpLive hcomp hwf')
  · rw [hstart]
    have hrest : ({ c with groups := call.groups } : GrpcCall) =
        { call with requestData := c.requestData, requestFlags := c.requestFlags } := by
      rw [hc.rest hclient]
    dsimp only
    rw [hrest]
    exact ⟨h.congr rfl fun _ hl => hl, fun hw => hw.congr rfl rfl rfl id⟩

private theorem SameRead.pending {c c' : GrpcCall} (h : SameRead c c') (hp : Pending c) :
    Pending c' :=
  hp.congr h.readState fun op hl => (h.isOpLive op).symm.trans hl

private theorem SameRead.closeWaits {c c' : GrpcCall} (h : SameRead c c') :
    CloseWaits c' ↔ CloseWaits c := by
  rw [CloseWaits, CloseWaits, h.isOpLive, h.readState, h.incomingQueue, h.haveAlarm]

/-- The cancellation of a closed stream that drops the messages a pending close waits for. -/
structure DropsUnread (call : GrpcCall) (e : CallEvent) : Prop where
  cancels : ∃ status description, e = .cancel status description
  pending : call.isOpLive .recvClose = true
  closed : call.readState = .streamClosed
  unread : call.incomingQueue ≠ []
  noAlarm : call.haveAlarm = false
  first : (call.status .fromApiOverride).isSet = false

private theorem cancel_closeWaits {call : GrpcCall} {status : StatusCode}
    (description : Option Bytes) (hstatus : status ≠ .ok) (h : CloseWaits call) :
    CloseWaits (call.cancel status description) ↔
      ¬ DropsUnread call (.cancel status description) := by
  have hsame := call.cancel_same status description
  have hread := call.cancel_readState status description
  have halarm := call.cancel_haveAlarm status description
  have hqueue : (call.cancel status description).incomingQueue =
      if (call.status .fromApiOverride).isSet then call.incomingQueue else [] := by
    show (call.setStatusCode .fromApiOverride status).incomingQueue = _
    unfold setStatusCode
    split
    · rfl
    · simp [hstatus]
  rw [CloseWaits, hsame.isOpLive, hread, halarm, hqueue]
  constructor
  · intro hw hdrops
    have hstuck := hw hdrops.pending hdrops.closed
    simp [hdrops.first, hdrops.noAlarm] at hstuck
  · intro hkept hl hclosed
    rcases h hl hclosed with hunread | ha
    · cases hset : (call.status .fromApiOverride).isSet with
      | true => exact Or.inl hunread
      | false =>
          cases ha : call.haveAlarm with
          | true => exact Or.inr rfl
          | false => exact absurd ⟨⟨_, _, rfl⟩, hl, hclosed, hunread, ha, hset⟩ hkept
    · exact Or.inr ha

private theorem Pending.cancel {call : GrpcCall} (h : Pending call) (status : StatusCode)
    (description : Option Bytes) : Pending (call.cancel status description) :=
  h.congr (call.cancel_readState status description) fun op hl =>
    ((call.cancel_same status description).isOpLive op).symm.trans hl

private theorem closeWaits_of_open {call : GrpcCall} (h : call.readState ≠ .streamClosed) :
    CloseWaits call :=
  fun _ hclosed => absurd hclosed h

/-- Every event keeps a pending close waiting for something, but one that drops what it waits
for. -/
theorem step_pending {call call' : GrpcCall} {e : CallEvent} (hwf : call.groups.WellFormed)
    (hclient : call.groups.slot .sendStatus = .done) (hidle : Idle call) (h : Pending call)
    (hstep : call.step e = .ok call') :
    Pending call' ∧ (CloseWaits call → (CloseWaits call' ↔ ¬ DropsUnread call e)) := by
  have hno : (∀ status description, e ≠ .cancel status description) → ¬ DropsUnread call e := by
    rintro hne ⟨⟨status, description, he⟩, _⟩
    exact hne status description he
  have hunlock : ∀ {c : GrpcCall}, (∀ status description, e ≠ .cancel status description) →
      Pending c → (CloseWaits call → CloseWaits c) →
      Pending c.unlock ∧ (CloseWaits call → (CloseWaits c.unlock ↔ ¬ DropsUnread call e)) := by
    intro c hne hp hw
    refine ⟨c.unlock_same.pending hp, fun hcall => ?_⟩
    exact iff_of_true (c.unlock_same.closeWaits.mpr (hw hcall)) (hno hne)
  have hread : ∀ {c : GrpcCall}, (∀ status description, e ≠ .cancel status description) →
      c.groups.WellFormed → Pending c.finishReadOps.unlock ∧
        (CloseWaits call → (CloseWaits c.finishReadOps.unlock ↔ ¬ DropsUnread call e)) := by
    intro c hne hc
    have hp := finishReadOps_pending hc
    exact hunlock hne hp.1 fun _ => hp.2
  cases step_cases hstep with
  | emptyBatch tag =>
      refine ⟨h.congr rfl fun _ hl => hl, fun hw => ?_⟩
      exact iff_of_true (hw.congr rfl rfl rfl id) (hno (by simp))
  | malformedBatch => exact ⟨h, fun hw => iff_of_true hw (hno (by simp))⟩
  | batch ops tag reqs hne =>
      have hs := startIoreq_pending hwf hclient reqs (batchTag ops tag) hne h
      exact hunlock (by simp) hs.1 hs.2
  | sent success =>
      have hcomp := call.finishSends_completes success
      have hframe := completes_frame hcomp
      have hlive : ∀ op, (call.sendEnded success).isOpLive op = true → call.isOpLive op = true :=
        fun op hl => completes_isOpLive hcomp hwf hl
      have hstate : (call.sendEnded success).readState = call.readState := by
        show (call.finishSends success).readState = _
        rw [hframe]
        rfl
      have halarm : (call.sendEnded success).haveAlarm = call.haveAlarm := by
        show (call.finishSends success).haveAlarm = _
        rw [hframe]
        rfl
      have hqueue : (call.finishSends success).incomingQueue = call.incomingQueue :=
        completes_incomingQueue hcomp
      exact hunlock (by simp) (h.congr hstate hlive)
        fun hw => hw.congr hstate hqueue halarm (hlive _)
  | received ops state c c' _ hops hstate =>
      have hsame := (recvStreamOps_same hops).trans (recvStreamState_same hstate)
      exact hread (by simp) (hsame.groups.symm ▸ hwf)
  | recvFailed ops state hreceiving =>
      have hcomp := failReadOps_completes call.recvEnded
      have hframe := completes_frame hcomp
      have hstate : call.recvEnded.failReadOps.readState = call.readState := by
        rw [hframe]
        rfl
      have hopen : call.readState ≠ .streamClosed := by
        intro hclosed
        have hr := hidle hclosed
        simp [hreceiving] at hr
      exact hunlock (by simp) (h.congr hstate fun _ hl => completes_isOpLive hcomp hwf hl)
        fun _ => closeWaits_of_open (hstate.symm ▸ hopen)
  | cancelled status description hstatus =>
      refine ⟨(unlock_same _).pending (h.cancel status description), fun hw => ?_⟩
      rw [(unlock_same _).closeWaits]
      exact cancel_closeWaits description hstatus hw
  | deadlineExceeded =>
      refine hread (by simp) ?_
      rw [(cancel_same _ _ _).groups]
      exact hwf
  | alarmCancelled => exact hread (c := call.alarmEnded) (by simp) hwf
  | destroyedClosed =>
      exact hunlock (c := call.destroyStarted) (by simp) (h.congr rfl fun _ hl => hl)
        fun hw => hw.congr rfl rfl rfl id
  | destroyed _ hopen =>
      have hd : Pending call.destroyStarted := h.congr rfl fun _ hl => hl
      refine hunlock (by simp) (((unlock_same _).pending hd).cancel _ _) fun _ => ?_
      apply closeWaits_of_open
      rw [cancel_readState, call.destroyStarted.unlock_same.readState]
      exact hopen

/-- Every pending read has something that will complete it: a receive in flight, messages that
the application can take, or the deadline alarm. -/
structure Driven (call : GrpcCall) : Prop where
  message : call.isOpLive .recvMessage = true → call.receiving = true
  status : ∀ op ∈ untilReadClosed, call.isOpLive op = true →
    call.receiving = true ∨ call.incomingQueue ≠ [] ∧ call.maxRecvBytes ≤ 1024
  close : call.isOpLive .recvClose = true → call.receiving = true ∨ call.incomingQueue ≠ [] ∨
    call.readState = .streamClosed ∧ call.haveAlarm = true

/-- The bytes that a half-read message still expects, and those read ahead of it, wrap around to
almost none: with no message to take, no receive is started for the reads that are pending. -/
structure Starved (call : GrpcCall) : Prop where
  reading : call.readingMessage = true
  noRoom : call.maxRecvBytes ≤ 1024
  taken : call.incomingQueue = []
  idle : call.receiving = false
  unclosed : call.readState ≠ .streamClosed
  pending : ∃ op, (op = .recvMessage ∨ op = .recvClose ∨ op ∈ untilReadClosed) ∧
    call.isOpLive op = true

private theorem maxRecvBytes_of_announced {call : GrpcCall} (hreading : call.readingMessage = true)
    (hqueue : call.incomingQueue = [])
    (hannounced : call.incomingLength ≤ call.incomingMessageLength.toNat)
    (hlength : call.incomingMessageLength.toNat + 65536 < 2 ^ 32) : 1024 < call.maxRecvBytes := by
  have hreceived : call.incomingMessage.flatten.length ≤ call.incomingMessageLength.toNat :=
    hannounced
  have hmod : call.incomingMessage.flatten.length % 2 ^ 32 =
      call.incomingMessage.flatten.length := Nat.mod_eq_of_lt (by omega)
  rw [UInt32.lt_iff_toNat_lt, maxRecvBytes, hreading, hqueue, List.isEmpty_nil, Bool.and_self,
    if_pos rfl, UInt32.toNat_add, UInt32.toNat_sub, UInt32.toNat_ofNat', hmod]
  simp only [maxRecvPeekAhead, UInt32.reduceToNat]
  omega

/-- Only a message that overflowed, or one announced within 65536 bytes of the largest, starves the
call. -/
theorem Starved.overflown {call : GrpcCall} (h : Starved call) :
    call.incomingMessageLength.toNat < call.incomingLength ∨
      2 ^ 32 ≤ call.incomingMessageLength.toNat + 65536 := by
  by_contra hno
  rw [not_or, Nat.not_lt, Nat.not_le] at hno
  have hroom := maxRecvBytes_of_announced h.reading h.taken hno.1 hno.2
  exact absurd h.noRoom (UInt32.not_le.mpr hroom)

private theorem reading_of_maxRecvBytes {call : GrpcCall} (hqueue : call.incomingQueue = [])
    (h : call.maxRecvBytes ≤ 1024) : call.readingMessage = true := by
  by_contra hreading
  rw [Bool.not_eq_true] at hreading
  rw [maxRecvBytes, hreading, Bool.and_false, if_neg Bool.false_ne_true, hqueue] at h
  exact absurd h (by decide)

private theorem receiving_of_needMoreData {call : GrpcCall} (h : call.Settled)
    (hfed : ¬ Starved call) (hneed : call.needMoreData = true) {op : IoreqOp}
    (hop : op = .recvMessage ∨ op = .recvClose ∨ op ∈ untilReadClosed)
    (hlive : call.isOpLive op = true) :
    call.receiving = true ∨ call.incomingQueue ≠ [] ∧ call.maxRecvBytes ≤ 1024 := by
  rcases h.recv with hr | hn | hfull
  · exact Or.inl hr
  · simp [hneed] at hn
  · by_cases hq : call.incomingQueue = []
    · cases hr : call.receiving with
      | true => exact Or.inl rfl
      | false =>
          have hopen : call.readState ≠ .streamClosed := by
            intro hclosed
            simp [needMoreData, hclosed] at hneed
          exact absurd ⟨reading_of_maxRecvBytes hq hfull, hfull, hq, hr, hopen, op, hop, hlive⟩ hfed
    · exact Or.inr ⟨hq, hfull⟩

private theorem Driven.not_starved {call : GrpcCall} (h : Driven call) : ¬ Starved call := by
  intro hstarved
  obtain ⟨op, hop, hlive⟩ := hstarved.pending
  rcases hop with rfl | rfl | hop
  · have hr := h.message hlive
    simp [hstarved.idle] at hr
  · rcases h.close hlive with hr | hq | hclosed
    · simp [hstarved.idle] at hr
    · exact hq hstarved.taken
    · exact hstarved.unclosed hclosed.1
  · rcases h.status op hop hlive with hr | hq
    · simp [hstarved.idle] at hr
    · exact hq.1 hstarved.taken

private theorem driven_iff {call : GrpcCall} (hsettled : call.Settled) (hidle : Idle call)
    (hpending : Pending call)
    (hwaits : call.isOpLive .recvMessage = true → call.incomingQueue = []) :
    Driven call ↔ CloseWaits call ∧ ¬ Starved call := by
  constructor
  · intro h
    refine ⟨fun hlive hclosed => ?_, h.not_starved⟩
    rcases h.close hlive with hr | hq | ha
    · simp [hidle hclosed] at hr
    · exact Or.inl hq
    · exact Or.inr ha.2
  · rintro ⟨hclose, hfed⟩
    constructor
    · intro hlive
      have hq := hwaits hlive
      have hopen := (hpending.reads _ (Or.inl rfl) hlive).2
      have hneed : call.needMoreData = true := by
        simp [needMoreData, hopen, hlive, hq]
      rcases receiving_of_needMoreData hsettled hfed hneed (Or.inl rfl) hlive with hr | ⟨hne, _⟩
      · exact hr
      · exact absurd hq hne
    · intro op hop hlive
      have hopen := (hpending.reads op (Or.inr hop) hlive).2
      refine receiving_of_needMoreData hsettled hfed ?_ (Or.inr (Or.inr hop)) hlive
      simp only [untilReadClosed, List.mem_cons, List.not_mem_nil, or_false] at hop
      rcases hop with rfl | rfl | rfl | rfl <;> simp [needMoreData, hopen, hlive]
    · intro hlive
      by_cases hclosed : call.readState = .streamClosed
      · rcases hclose hlive hclosed with hq | ha
        · exact Or.inr (Or.inl hq)
        · exact Or.inr (Or.inr ⟨hclosed, ha⟩)
      · by_cases hq : call.incomingQueue = []
        · have hneed : call.needMoreData = true := by
            simp [needMoreData, hclosed, hlive, hq]
          rcases receiving_of_needMoreData hsettled hfed hneed (Or.inr (Or.inl rfl)) hlive with
            hr | ⟨hne, _⟩
          · exact Or.inl hr
          · exact absurd hq hne
        · exact Or.inr (Or.inl hq)

/-- What holds of a client call between two events, whatever happens. -/
structure ClientWaits (call : GrpcCall) : Prop where
  client : call.groups.slot .sendStatus = .done
  settled : call.Settled
  idle : Idle call
  pending : Pending call
  flow : ∃ ops, Flow ops call

theorem ClientWaits.step {call call' : GrpcCall} {e : CallEvent} (h : ClientWaits call)
    (hstep : call.step e = .ok call') : ClientWaits call' := by
  obtain ⟨ops, hflow⟩ := h.flow
  exact ⟨step_done h.client hstep, step_settled h.settled hstep,
    step_idle h.client h.idle hstep,
    (step_pending hflow.wellFormed h.client h.idle h.pending hstep).1,
    ⟨_, step_flow h.client hflow hstep⟩⟩

theorem create_clientWaits (maxMessageLength : UInt32) (sendInitialMetadata : List Metadata)
    (sendDeadline : Bool) :
    ClientWaits (create true maxMessageLength sendInitialMetadata sendDeadline) := by
  have hread : (create true maxMessageLength sendInitialMetadata sendDeadline).readState =
      .initial := rfl
  refine ⟨rfl, create_settled _ _ _ _, fun _ => rfl, ⟨fun _ => rfl, ?_⟩,
    ⟨[], create_flow _ _ _⟩⟩
  intro op _ _
  rw [hread]
  exact ⟨by decide, by decide⟩

theorem ClientWaits.driven_iff {call : GrpcCall} (h : ClientWaits call) :
    Driven call ↔ CloseWaits call ∧ ¬ Starved call := by
  obtain ⟨ops, hflow⟩ := h.flow
  exact GrpcCall.driven_iff h.settled h.idle h.pending hflow.waits

/-- No pending read of a client is ever left without something to complete it exactly in the runs
that never cancel a closed stream while a pending close waits for messages to be taken and never
starve the call. -/
theorem driven_throughout_iff (maxMessageLength : UInt32) (sendInitialMetadata : List Metadata)
    (sendDeadline : Bool) (events : List CallEvent) :
    EventRun.Throughout step Driven
        (create true maxMessageLength sendInitialMetadata sendDeadline) events ↔
      EventRun.EveryStep step (fun call e call' => ¬ DropsUnread call e ∧ ¬ Starved call')
        (create true maxMessageLength sendInitialMetadata sendDeadline) events := by
  refine EventRun.throughout_iff_everyStep (I := ClientWaits) (fun s e s' hs he => hs.step he) ?_
    (create_clientWaits _ _ _) ?_ events
  · intro s e s' hs hdriven he
    obtain ⟨ops, hflow⟩ := hs.flow
    have hwaits := (step_pending hflow.wellFormed hs.client hs.idle hs.pending he).2
      (hs.driven_iff.mp hdriven).1
    rw [(hs.step he).driven_iff, hwaits]
  · rw [(create_clientWaits _ _ _).driven_iff]
    refine ⟨closeWaits_of_open ?_, fun hstarved => ?_⟩
    · show ReadState.initial ≠ .streamClosed
      decide
    · exact absurd hstarved.reading Bool.false_ne_true

-- a message within 65536 bytes of the largest is never read
example : ∃ call, EventRun.run step (create true 4294967295 [] false)
    [.startBatch [⟨.recvStatusOnClient, 0⟩] 1,
      .onDoneRecv true [.metadata ⟨[], false⟩, .beginMessage 4294901760 0] .streamOpen] =
        .ok call ∧ Starved call := by
  obtain ⟨call, hrun, h⟩ := EventRun.exists_ok_of_any
    (r := EventRun.run step (create true 4294967295 [] false)
      [.startBatch [⟨.recvStatusOnClient, 0⟩] 1,
        .onDoneRecv true [.metadata ⟨[], false⟩, .beginMessage 4294901760 0] .streamOpen])
    (p := fun call => (call.readingMessage && decide (call.maxRecvBytes ≤ 1024) &&
      call.incomingQueue.isEmpty && !call.receiving) &&
      (call.readState != .streamClosed && call.isOpLive .recvStatus)) (by decide)
  simp only [Bool.and_eq_true, decide_eq_true_eq, List.isEmpty_iff, Bool.not_eq_true',
    bne_iff_ne] at h
  obtain ⟨⟨⟨⟨hreading, hroom⟩, htaken⟩, hidle⟩, hunclosed, hlive⟩ := h
  exact ⟨call, hrun, hreading, hroom, htaken, hidle, hunclosed, .recvStatus,
    Or.inr (Or.inr (by decide)), hlive⟩

end CrowdSound.Core.GrpcCall
