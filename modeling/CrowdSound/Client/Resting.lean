import CrowdSound.Client.Finishes
import CrowdSound.Core.Waiting

/-!
# A call at rest

When a started call has nothing left to do, no message is left unread and the read side is not
starved, its application was told that the responses end.
-/

namespace CrowdSound.Client

open CrowdSound.Core CrowdSound.Core.GrpcCall

section Core

variable {call call' : GrpcCall}

private theorem OneByOne.exists_live {accepted : List Nat} (h : OneByOne accepted call) {tag : Nat}
    (htag : tag ∈ call.outstanding) : ∃ op, tagOf op = tag ∧ call.isOpLive op = true := by
  rw [outstanding, OpGroups.Groups.outstanding, Multiset.map_map, Multiset.mem_map] at htag
  obtain ⟨l, hl, rfl⟩ := htag
  have hleader := OpGroups.Groups.mem_leaders.mp (Finset.mem_val.mp hl)
  have hwf := h.accounts.1
  obtain ⟨op, hneed, hopen⟩ := Finset.exists_of_ssubset (hwf.unfinished l hleader)
  have hslot := (hwf.need l hleader op).mp hneed
  exact ⟨op, (h.labelled.tagged op l hslot).symm,
    OpGroups.Groups.isLive_iff.mpr ⟨l, hslot, hopen⟩⟩

private theorem accounted_of_accepted {accepted : List Nat} (h : OneByOne accepted call) {tag : Nat}
    (htag : tag ∈ accepted) : tag ∈ call.accounted := by
  rw [h.accounts.2]
  exact htag

theorem run_accounted {es : List CallEvent} {tag : Nat} (hwf : call.groups.WellFormed)
    (htag : tag ∈ call.accounted) (hrun : EventRun.run GrpcCall.step call es = .ok call') :
    tag ∈ call'.accounted := by
  have hall := EventRun.run_invariant (P := fun _ => True)
    (I := fun c : GrpcCall => c.groups.WellFormed ∧ tag ∈ c.accounted)
    (fun s e s' hs _ hstep => by
      have hnext := step_accounts ⟨hs.1, rfl⟩ hstep
      refine ⟨hnext.1, ?_⟩
      rw [hnext.2]
      exact Multiset.mem_add.mpr (Or.inr hs.2))
    ⟨hwf, htag⟩ (fun _ _ => trivial) hrun
  exact hall.2

/-- Only a cancellation can take away what a pending close waits for. -/
theorem run_closeWaits {es : List CallEvent} (h : ClientWaits call) (hclose : CloseWaits call)
    (hes : ∀ e ∈ es, ∀ status description, e ≠ .cancel status description)
    (hrun : EventRun.run GrpcCall.step call es = .ok call') : CloseWaits call' := by
  have hall := EventRun.run_invariant
    (P := fun e : CallEvent => ∀ status description, e ≠ .cancel status description)
    (I := fun c : GrpcCall => ClientWaits c ∧ CloseWaits c)
    (fun s e s' hs hne hstep => by
      obtain ⟨ops, hflow⟩ := hs.1.flow
      have hpending := step_pending hflow.wellFormed hs.1.client hs.1.idle hs.1.pending hstep
      refine ⟨hs.1.step hstep, (hpending.2 hs.2).mpr ?_⟩
      rintro ⟨⟨status, description, he⟩, _⟩
      exact hne status description he)
    ⟨h, hclose⟩ hes hrun
  exact hall.2

theorem run_clientWaits {es : List CallEvent} (h : ClientWaits call)
    (hrun : EventRun.run GrpcCall.step call es = .ok call') : ClientWaits call' :=
  EventRun.run_invariant (P := fun _ => True) (fun _ _ _ hs _ hstep => hs.step hstep) h
    (fun _ _ => trivial) hrun

end Core

namespace GRPCCall

variable {ρ : Type} {decompress : CompressionAlgorithm → List Bytes → Bytes}
  {parse : Bytes → Option ρ}

/-- No receive is in flight, no message is unread, every completion was handled and the main queue
is empty. -/
def atRest (c : GRPCCall ρ) : Bool :=
  !c.wrappedCall.receiving && c.wrappedCall.incomingQueue.isEmpty &&
    (c.wrappedCall.cq.drop c.handled).isEmpty &&
      c.responseWriteable.all fun w => w.writeableQueue.isEmpty

/-- What a started call has done as long as it holds on to itself: its status is asked for and was
not handled, and a pending close of the core waits for something. -/
structure Attends (c : GRPCCall ρ) : Prop where
  waits : ClientWaits c.wrappedCall
  asked : c.started = true → Handler.recvStatus.tag ∈ c.wrappedCall.accounted
  close : c.started = true → c.retainSelf = true → CloseWaits c.wrappedCall
  status : ∀ r ∈ c.wrappedCall.cq.take c.handled, r.tag = Handler.recvStatus.tag →
    c.retainSelf = false

section Steps

variable {accepted : List Nat} {c c' : GRPCCall ρ}

private theorem Attends.kept (h : Attends c) (htokens : Tokens accepted c) {es : List CallEvent}
    (hrun : EventRun.run GrpcCall.step c.wrappedCall es = .ok c'.wrappedCall)
    (hes : ∀ e ∈ es, ∀ status description, e ≠ .cancel status description)
    (hstarted : c'.started = c.started) (hself : c'.retainSelf = c.retainSelf)
    (hhandled : c'.handled = c.handled) : Attends c' := by
  have htake := take_handled (run_cq htokens.call.client hrun) htokens.handled
  constructor
  · exact run_clientWaits h.waits hrun
  · rw [hstarted]
    exact fun hs => run_accounted htokens.call.accounts.1 (h.asked hs) hrun
  · rw [hstarted, hself]
    exact fun hs hr => run_closeWaits h.waits (h.close hs hr) hes hrun
  · rw [hhandled, hself, htake]
    exact h.status

private theorem Attends.letGo (h : Attends c) (htokens : Tokens accepted c) (es : List CallEvent)
    (hrun : EventRun.run GrpcCall.step c.wrappedCall es = .ok c'.wrappedCall)
    (hstarted : c'.started = c.started) (hself : c'.retainSelf = false) : Attends c' := by
  constructor
  · exact run_clientWaits h.waits hrun
  · rw [hstarted]
    exact fun hs => run_accounted htokens.call.accounts.1 (h.asked hs) hrun
  · exact fun _ hr => by simp [hself] at hr
  · exact fun _ _ _ => hself

private theorem Attends.handles (h : Attends c) (htokens : Tokens accepted c)
    (hreleases : Releases c) {completion : Completion} {rest : List Completion} {outOfMemory : Bool}
    (hq : c.wrappedCall.cq.drop c.handled = completion :: rest)
    (hhandler : Handles decompress c.counted completion outOfMemory c') : Attends c' := by
  have htake := take_counted hq
  have hfits : Fits completion := by
    apply htokens.call.fits
    apply List.mem_append_left
    apply List.mem_of_mem_drop
    rw [hq]
    exact List.mem_cons_self
  have hkept : ∀ c₁ : GRPCCall ρ, c₁.wrappedCall = c.wrappedCall → c₁.started = c.started →
      c₁.retainSelf = c.retainSelf → c₁.handled = c.handled + 1 →
      (completion.tag = Handler.recvStatus.tag → c.retainSelf = false) → Attends c₁ := by
    intro c₁ hcall hstarted hself hhandled hstatus
    refine ⟨hcall ▸ h.waits, ?_, ?_, ?_⟩
    · rw [hcall, hstarted]
      exact h.asked
    · rw [hcall, hstarted, hself]
      exact h.close
    · rw [hcall, hhandled, htake, hself]
      intro r hr htag
      rcases List.mem_append.mp hr with hold | hnew
      · exact h.status r hold htag
      · exact hstatus (List.mem_singleton.mp hnew ▸ htag)
  have hother : ∀ handler : Handler, handler ≠ .recvStatus → completion.tag = handler.tag →
      completion.tag = Handler.recvStatus.tag → c.retainSelf = false :=
    fun handler hne htag hstatus => absurd (Handler.tag_injective (htag.symm.trans hstatus)) hne
  cases hhandler with
  | headers _ htag => exact hkept _ rfl rfl rfl rfl (hother .recvMetadata (by decide) htag)
  | status =>
      refine h.letGo htokens [] rfl ?_ rfl
      rw [finishWithError_started]
      rfl
  | value message _ _ hmessage =>
      refine hkept _ rfl ?_ rfl rfl (hother .recvMessage (by decide) (readMessage_some hmessage))
      exact Option.isSome_map
  | noMemory =>
      refine h.letGo htokens [cancelEvent] ?_ ?_ rfl
      · rw [EventRun.run_singleton, step_cancelEvent]
        rfl
      · exact finishWithError_started c.counted (some errorInternal)
  | resumed _ htag => exact hkept _ rfl rfl rfl rfl (hother .sendMessage (by decide) htag)
  | failed =>
      refine h.letGo htokens [] rfl ?_ rfl
      exact finishWithError_started _ _
  | ignored _ htag =>
      refine hkept _ rfl rfl rfl rfl fun hstatus => ?_
      rcases htag with hgone | hfailed | ⟨_, hno⟩
      · exact (hreleases.gone hgone).2
      · simp [(hfits.status hstatus).1] at hfailed
      · exact absurd hstatus hno

private theorem Attends.runs (h : Attends c) (htokens : Tokens accepted c)
    {w : GRXConcurrentWriteable Bytes} {block : WriteableBlock Bytes}
    {rest : List (WriteableBlock Bytes)} (hw : c.responseWriteable = some w)
    (hruns : Runs parse c { w with writeableQueue := rest } block c') : Attends c' := by
  obtain ⟨hkept, w', hw', _⟩ := hruns.fewer
  have hrun : EventRun.run GrpcCall.step c.wrappedCall [] = .ok c'.wrappedCall := by
    rw [(runMainBlock_kept parse hruns).1]
    rfl
  have hstarted : c'.started = c.started := by simp [started, hw, hw']
  cases hself' : c'.retainSelf with
  | false => exact h.letGo htokens _ hrun hstarted hself'
  | true =>
      have hself : c.retainSelf = true := by
        cases hself : c.retainSelf with
        | true => rfl
        | false => simp [hkept hself] at hself'
      refine h.kept htokens hrun (fun _ he => absurd he List.not_mem_nil) hstarted
        (hself'.trans hself.symm) (runMainBlock_kept parse hruns).2

private theorem Attends.start (h : Attends c) (htokens : Tokens accepted c) (hs : c.started = false)
    {headers : List Metadata} {c₁ c₂ c₃ : GRPCCall ρ}
    (h₁ : c.begun.startBatch (.sendMetadata headers) = .ok c₁)
    (h₂ : c₁.startBatch .recvMetadata = .ok c₂) (h₃ : c₂.startBatch .recvStatus = .ok c₃)
    (hrun : EventRun.run GrpcCall.step c.wrappedCall (coreEvents c (.startWithWriteable headers)) =
      .ok c₃.wrappedCall) (hhandled : c₃.handled = c.handled) :
    Attends (c₃.withWriter c₃.requestWriter.start) := by
  have hnext := htokens.start hs h₁ h₂ h₃
  have hnone := (htokens.unstarted hs).1
  have hclose : CloseWaits c.wrappedCall := by
    intro hlive
    have hempty : c.wrappedCall.groups.slot .recvClose = .empty :=
      htokens.call.fresh.empty _ (by decide) (by decide) (by simp [hnone])
    obtain ⟨l, hl, _⟩ := OpGroups.Groups.isLive_iff.mp hlive
    simp [hempty] at hl
  have hall := htokens.call.accepted_eq c.handled
  have htaken : c.wrappedCall.cq.take c.handled = [] := by
    apply List.eq_nil_iff_forall_not_mem.mpr
    intro r hr
    have htag : r.tag ∈ (accepted : Multiset Nat) := by
      rw [hall]
      exact Multiset.mem_add.mpr (Or.inl (List.mem_map_of_mem hr))
    rw [hnone] at htag
    exact absurd htag List.not_mem_nil
  constructor
  · exact run_clientWaits h.waits hrun
  · exact fun _ => accounted_of_accepted hnext.call (by simp)
  · intro _ _
    exact run_closeWaits h.waits hclose (by simp [coreEvents, batchEvent]) hrun
  · intro r hr
    have hr' : r ∈ c₃.wrappedCall.cq.take c.handled := hhandled ▸ hr
    rw [take_handled (run_cq htokens.call.client hrun) htokens.handled, htaken] at hr'
    exact absurd hr' List.not_mem_nil

private theorem step_attends {e : ClientEvent} (htokens : Tokens accepted c)
    (hreleases : Releases c)
    (h : Attends c) (hstep : c.step decompress parse e = .ok c') : Attends c' := by
  have hcore := step_core decompress parse hstep
  have hquiet : (∀ e' ∈ coreEvents c e, ∀ status description, e' ≠ .cancel status description) →
      c'.started = c.started → c'.retainSelf = c.retainSelf → c'.handled = c.handled →
      Attends c' := fun hes hstarted hself hhandled =>
    h.kept htokens hcore hes hstarted hself hhandled
  have hcalls : ∀ e' ∈ coreEvents c .callQueue, ∀ status description,
      e' ≠ .cancel status description := by
    intro e' he
    simp only [coreEvents] at he
    split at he
    · simp at he
    · split at he
      · split at he
        · simp at he
        · simp [List.mem_singleton.mp he, batchEvent]
      · simp [List.mem_singleton.mp he]
  cases step_cases decompress parse hstep with
  | started headers c₁ c₂ c₃ hretained h₁ h₂ h₃ =>
      have hs := htokens.notStarted_of_start (startBatch_ok.mp h₁).1
      refine h.start htokens hs h₁ h₂ h₃ hcore ?_
      obtain ⟨_, rfl⟩ := startBatch_ok.mp h₁
      obtain ⟨_, rfl⟩ := startBatch_ok.mp h₂
      obtain ⟨_, rfl⟩ := startBatch_ok.mp h₃
      rfl
  | valueWritten => exact hquiet (by simp [coreEvents]) rfl rfl rfl
  | writesFailed =>
      have hstarted := finishWithError_started (c.withWriter .finished) (some errorCancelled)
      exact h.letGo htokens _ hcore hstarted rfl
  | writesEnded => exact hquiet (by simp [coreEvents]) rfl rfl rfl
  | batch block rest operation _ hq hop hd hstart =>
      obtain ⟨_, rfl⟩ := startBatch_ok.mp hstart
      exact hquiet hcalls rfl rfl rfl
  | skipped => exact hquiet hcalls rfl rfl rfl
  | destroyed rest _ hq hdestroy =>
      obtain ⟨call, _, rfl⟩ := onCore_ok.mp hdestroy
      exact hquiet hcalls rfl rfl rfl
  | handled outOfMemory completion rest _ hq hhandler =>
      exact h.handles htokens hreleases hq hhandler
  | ran w block rest _ hw hq hruns => exact h.runs htokens hw hruns
  | sent success _ hcore' =>
      obtain ⟨call, _, rfl⟩ := onCore_ok.mp hcore'
      exact hquiet (by simp [coreEvents]) rfl rfl rfl
  | received success ops state _ hcore' =>
      obtain ⟨call, _, rfl⟩ := onCore_ok.mp hcore'
      exact hquiet (by simp [coreEvents]) rfl rfl rfl
  | cancelled =>
      exact h.letGo htokens _ hcore (finishWithError_started c (some errorCancelled)) rfl
  | released => exact hquiet (by simp [coreEvents]) rfl rfl rfl
  | deallocated => exact hquiet (by simp [coreEvents]) rfl rfl rfl

end Steps

theorem run_attends {maxMessageLength : UInt32} {channelMetadata : List Metadata}
    {events : List ClientEvent} {c : GRPCCall ρ}
    (h : EventRun.run (step decompress parse) (initWithHost maxMessageLength channelMetadata)
      events = .ok c) : (∃ accepted, Tokens accepted c) ∧ Attends c := by
  have hrun := EventRun.run_invariant (P := fun _ => True)
    (I := fun c : GRPCCall ρ => (∃ accepted, Tokens accepted c) ∧ Releases c ∧ Attends c)
    (fun s e s' hs _ he => by
      obtain ⟨⟨accepted, htokens⟩, hreleases, hattends⟩ := hs
      exact ⟨step_tokens htokens he, step_releases hreleases he,
        step_attends htokens hreleases hattends he⟩)
    ⟨⟨_, initWithHost_tokens maxMessageLength channelMetadata⟩,
      initWithHost_releases maxMessageLength channelMetadata,
      create_clientWaits _ _ _, fun hs => absurd hs Bool.false_ne_true,
      fun hs => absurd hs Bool.false_ne_true, fun r hr => absurd hr List.not_mem_nil⟩
    (fun _ _ => trivial) h
  exact ⟨hrun.1, hrun.2.2⟩

private theorem Attends.released {accepted : List Nat} {c : GRPCCall ρ} (h : Attends c)
    (htokens : Tokens accepted c) (hstarted : c.started = true)
    (hhandled : c.wrappedCall.cq.drop c.handled = [])
    (hreceiving : c.wrappedCall.receiving = false) (hunread : c.wrappedCall.incomingQueue = [])
    (halarm : c.wrappedCall.haveAlarm = false) (hfed : ¬ c.wrappedCall.Starved) :
    c.retainSelf = false := by
  have htag := h.asked hstarted
  rw [accounted, reported, htokens.call.settled.completed, List.map_nil, List.append_nil,
    Multiset.mem_add, Multiset.mem_coe, List.mem_map] at htag
  rcases htag with ⟨r, hr, htag⟩ | hout
  · apply h.status r _ htag
    rwa [← List.take_append_drop c.handled c.wrappedCall.cq, hhandled, List.append_nil] at hr
  · by_contra hself
    rw [Bool.not_eq_false] at hself
    have hdriven := h.waits.driven_iff.mpr ⟨h.close hstarted hself, hfed⟩
    obtain ⟨op, htag, hlive⟩ := htokens.call.exists_live hout
    by_cases hop : op = .recvClose
    · have hwaits := hdriven.close (hop ▸ hlive)
      simp [hreceiving, hunread, halarm] at hwaits
    · have hreads : op ∈ untilReadClosed := by
        cases op <;> simp [tagOf, Handler.tag, untilReadClosed] at htag hop ⊢
      have hwaits := hdriven.status op hreads hlive
      simp [hreceiving, hunread] at hwaits

theorem run_noAlarm {maxMessageLength : UInt32} {channelMetadata : List Metadata}
    {events : List ClientEvent} {c : GRPCCall ρ}
    (h : EventRun.run (step decompress parse) (initWithHost maxMessageLength channelMetadata)
      events = .ok c) : c.wrappedCall.haveAlarm = false := by
  have hcore := EventRun.run_simulate_trace GRPCCall.wrappedCall coreEvents
    (fun s e s' he => step_core decompress parse he) h
  exact run_haveAlarm rfl rfl rfl hcore

/-- In every run a started call that is at rest and not starved has let go of itself, and its
application was told that the responses end: as long as it was not, the call has something to wait
for. -/
theorem finished_at_rest {maxMessageLength : UInt32} {channelMetadata : List Metadata}
    {events : List ClientEvent} {c : GRPCCall ρ}
    (h : EventRun.run (step decompress parse) (initWithHost maxMessageLength channelMetadata)
      events = .ok c) (hstarted : c.started = true) (hrest : c.atRest = true)
    (hfed : ¬ c.wrappedCall.Starved) : c.retainSelf = false ∧ c.finished = true := by
  obtain ⟨⟨accepted, htokens⟩, hattends⟩ := run_attends h
  obtain ⟨w, hw⟩ := Option.isSome_iff_exists.mp hstarted
  simp only [atRest, hw, Option.all_some, Bool.and_eq_true, Bool.not_eq_true',
    List.isEmpty_iff] at hrest
  obtain ⟨⟨⟨hreceiving, hunread⟩, hhandled⟩, hmain⟩ := hrest
  have hreleased := hattends.released htokens hstarted hhandled hreceiving hunread (run_noAlarm h)
    hfed
  have hfinish := (run_released_iff h hw).mp hreleased
  rw [hmain, List.any_nil] at hfinish
  exact ⟨hreleased, hfinish.resolve_right Bool.false_ne_true⟩

theorem rest_session : ∃ c : GRPCCall Bytes,
    EventRun.run (step joinSlices some) (initWithHost 1000 []) session = .ok c ∧
      c.started = true ∧ c.atRest = true ∧ c.retainSelf = false ∧ c.finished = true := by
  obtain ⟨c, h, hc⟩ := EventRun.exists_ok_of_any
    (r := EventRun.run (step joinSlices some) (initWithHost 1000 [] : GRPCCall Bytes) session)
    (p := fun c => c.started && c.atRest && !c.wrappedCall.readingMessage) (by decide)
  simp only [Bool.and_eq_true, Bool.not_eq_true'] at hc
  obtain ⟨⟨hstarted, hrest⟩, hidle⟩ := hc
  have hfed : ¬ c.wrappedCall.Starved := by
    intro hstarved
    have hreading := hstarved.reading
    simp [hidle] at hreading
  exact ⟨c, h, hstarted, hrest, finished_at_rest h hstarted hrest hfed⟩

end GRPCCall

end CrowdSound.Client
