import CrowdSound.Core.Closing

/-!
# The deadline alarm

The deadline that comes with the initial metadata sets an alarm on a server. A client has the alarm
of its own deadline or none.
-/

namespace CrowdSound.Core.GrpcCall

/-- Whether a call has a deadline, and whether its alarm is still set. -/
def deadline (call : GrpcCall) : Bool × Bool := (call.sendDeadline, call.haveAlarm)

private theorem setStatusCode_deadline (call : GrpcCall) (source : StatusSource)
    (status : StatusCode) :
    (call.setStatusCode source status).deadline = call.deadline := by
  unfold setStatusCode
  split <;> rfl

theorem cancel_deadline (call : GrpcCall) (status : StatusCode) (description : Option Bytes) :
    (call.cancel status description).deadline = call.deadline :=
  call.setStatusCode_deadline .fromApiOverride status

theorem cancel_haveAlarm (call : GrpcCall) (status : StatusCode) (description : Option Bytes) :
    (call.cancel status description).haveAlarm = call.haveAlarm :=
  congrArg Prod.snd (call.cancel_deadline status description)

private theorem beginMessage_deadline (call : GrpcCall) (length flags : UInt32) :
    (call.beginMessage length flags).1.deadline = call.deadline := by
  unfold beginMessage
  split
  · exact cancel_deadline _ _ _
  · split
    · exact cancel_deadline _ _ _
    · split
      · exact cancel_deadline _ _ _
      · split <;> rfl

private theorem addSliceToMessage_deadline (call : GrpcCall) (slice : Bytes) :
    (call.addSliceToMessage slice).1.deadline = call.deadline := by
  unfold addSliceToMessage
  split
  · rfl
  · split
    · exact cancel_deadline _ _ _
    · dsimp only
      split
      · exact cancel_deadline _ _ _
      · split <;> rfl

private theorem recvMdelem_deadline {call call' : GrpcCall} {isTrailing : Bool} {md : Metadata}
    (h : call.recvMdelem isTrailing md = .ok call') : call'.deadline = call.deadline := by
  cases recvMdelem_cases h with
  | status => exact setStatusCode_deadline _ _ _
  | message | encoding | acceptEncoding | trailing | initial => rfl

private theorem recvMdelems_deadline {call call' : GrpcCall} {isTrailing : Bool}
    {list : List Metadata}
    (h : call.recvMdelems isTrailing list = .ok call') : call'.deadline = call.deadline := by
  induction list generalizing call with
  | nil =>
      cases h
      rfl
  | cons md list ih =>
      unfold recvMdelems at h
      split at h
      · next hmd => exact (ih h).trans (recvMdelem_deadline hmd)
      · cases h

private theorem recvMetadata_deadline {call call' : GrpcCall} {batch : MetadataBatch}
    (hclient : call.isClient = true) (h : call.recvMetadata batch = .ok call') :
    call'.deadline = call.deadline := by
  unfold recvMetadata at h
  dsimp only at h
  split at h
  · cases h
  · next c hc =>
      have hc' : c.isClient = true := (recvMdelems_same hc).isClient.trans hclient
      rw [if_neg (by simp [hc'])] at h
      cases h
      have hgot : ∀ isTrailing, (c.gotMetadata isTrailing).deadline = c.deadline := by
        intro isTrailing
        unfold gotMetadata
        split <;> rfl
      exact (hgot _).trans (recvMdelems_deadline hc)

theorem recvStreamOps_deadline {call call' : GrpcCall} {ops : List StreamOp}
    (hclient : call.isClient = true) (h : call.recvStreamOps ops = .ok call') :
    call'.deadline = call.deadline := by
  induction ops generalizing call with
  | nil =>
      cases h
      rfl
  | cons op ops ih =>
      cases op with
      | noOp => exact ih hclient h
      | metadata batch =>
          unfold recvStreamOps at h
          split at h
          · next hb =>
              exact (ih ((recvMetadata_same hb).isClient.trans hclient) h).trans
                (recvMetadata_deadline hclient hb)
          · cases h
      | beginMessage length flags =>
          have hsame := call.beginMessage_same length flags
          have halarm := call.beginMessage_deadline length flags
          unfold recvStreamOps at h
          split at h
          · next hb =>
              rw [hb] at hsame halarm
              exact (ih (hsame.isClient.trans hclient) h).trans halarm
          · next hb =>
              cases h
              rwa [hb] at halarm
      | slice slice =>
          have hsame := call.addSliceToMessage_same slice
          have halarm := call.addSliceToMessage_deadline slice
          unfold recvStreamOps at h
          split at h
          · next hb =>
              rw [hb] at hsame halarm
              exact (ih (hsame.isClient.trans hclient) h).trans halarm
          · next hb =>
              cases h
              rwa [hb] at halarm

theorem recvStreamState_deadline {call call' : GrpcCall} {state : StreamState}
    (h : call.recvStreamState state = .ok call') : call'.deadline = call.deadline := by
  unfold recvStreamState at h
  split at h
  · split at h <;> cases h
    rfl
  · cases h
    rfl
  · cases h
    rfl

theorem finishReadOps_haveAlarm (call : GrpcCall) :
    call.finishReadOps.haveAlarm = call.haveAlarm := by
  rw [call.finishReadOps_frame]
  rfl

private theorem startIoreq_haveAlarm {call : GrpcCall}
    (hclient : call.groups.slot .sendStatus = .done)
    (reqs : List Ioreq) (tag : BatchTag) (hreqs : reqs ≠ []) :
    (call.startIoreq reqs tag).1.haveAlarm = call.haveAlarm := by
  rcases call.startIoreq_cases reqs tag hreqs with
    ⟨set, haveOps, c, hs, hstart⟩ | ⟨set, haveOps, c, e, hc, _, hstart⟩
  · rw [hstart, completes_frame (earlyOutWriteOps_completes _)]
    show (c.opened set haveOps tag).finishReadOps.haveAlarm = _
    rw [finishReadOps_haveAlarm, hs.opened_eq hclient]
  · rw [hstart, hc.rest hclient]

/-- An alarm is set for a client when the call is made or not at all. -/
theorem step_haveAlarm {call call' : GrpcCall} {e : CallEvent} (hisClient : call.isClient = true)
    (hclient : call.groups.slot .sendStatus = .done) (halarm : call.haveAlarm = false)
    (hstep : call.step e = .ok call') : call'.haveAlarm = false := by
  cases step_cases hstep with
  | emptyBatch => exact halarm
  | malformedBatch => exact halarm
  | batch ops tag reqs hne =>
      rw [(unlock_same _).haveAlarm, startIoreq_haveAlarm hclient reqs _ hne]
      exact halarm
  | sent success =>
      rw [(unlock_same _).haveAlarm]
      show (call.finishSends success).haveAlarm = false
      rw [completes_frame (call.finishSends_completes success)]
      exact halarm
  | received ops state c c' _ hops hstate =>
      have hended : call.recvEnded.isClient = true := hisClient
      have hkept := (recvStreamState_deadline hstate).trans (recvStreamOps_deadline hended hops)
      rw [(unlock_same _).haveAlarm, finishReadOps_haveAlarm]
      exact (congrArg Prod.snd hkept).trans halarm
  | recvFailed ops state hreceiving =>
      rw [(unlock_same _).haveAlarm, completes_frame (failReadOps_completes call.recvEnded)]
      exact halarm
  | cancelled status description hstatus =>
      rw [(unlock_same _).haveAlarm, cancel_haveAlarm]
      exact halarm
  | deadlineExceeded =>
      rw [(unlock_same _).haveAlarm, finishReadOps_haveAlarm, cancel_haveAlarm]
      rfl
  | alarmCancelled =>
      rw [(unlock_same _).haveAlarm, finishReadOps_haveAlarm]
      rfl
  | destroyedClosed =>
      rw [(unlock_same _).haveAlarm]
      exact halarm
  | destroyed =>
      rw [(unlock_same _).haveAlarm, cancel_haveAlarm, (unlock_same _).haveAlarm]
      exact halarm

theorem run_haveAlarm {call call' : GrpcCall} {es : List CallEvent}
    (hisClient : call.isClient = true) (hclient : call.groups.slot .sendStatus = .done)
    (halarm : call.haveAlarm = false) (hrun : EventRun.run step call es = .ok call') :
    call'.haveAlarm = false := by
  have hall := EventRun.run_invariant (P := fun _ => True)
    (I := fun c : GrpcCall => c.isClient = true ∧ c.groups.slot .sendStatus = .done ∧
      c.haveAlarm = false)
    (fun s e s' hs _ hstep => ⟨(step_kept hs.2.1 hstep).1.trans hs.1, step_done hs.2.1 hstep,
      step_haveAlarm hs.1 hs.2.1 hs.2.2 hstep⟩)
    ⟨hisClient, hclient, halarm⟩ (fun _ _ => trivial) hrun
  exact hall.2.2

end CrowdSound.Core.GrpcCall
