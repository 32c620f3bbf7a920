import CrowdSound.Client.Responses

/-!
# The end of a call

A call object holds on to itself until the end of its responses is certain, so that nobody else has
to keep it alive for its responses to arrive.
-/

namespace CrowdSound.Client

open CrowdSound.Core CrowdSound.Core.GrpcCall

def isCompletion {ρ : Type} : WriteableBlock ρ → Bool
  | .successfulCompletion => true
  | _ => false

def ends {ρ : Type} (block : WriteableBlock ρ) : Bool := isCompletion block || block.finishes

def isFinish {ρ : Type} : GRXMessage ρ → Bool
  | .writeValue _ => false
  | .writesFinishedWithError _ => true

private theorem isFinish_parsed {ρ : Type} (parse : Bytes → Option ρ)
    (messages : List (GRXMessage Bytes)) :
    (messages.filterMap (parsedMessage parse)).any isFinish = messages.any isFinish := by
  induction messages with
  | nil => rfl
  | cons message messages ih =>
      cases message with
      | writeValue value =>
          cases hparse : parse value with
          | none => simpa [parsedMessage, hparse, isFinish] using ih
          | some response => simpa [parsedMessage, hparse, isFinish] using ih
      | writesFinishedWithError errorOrNil => simp [parsedMessage, isFinish]

def finishAsked (w : GRXConcurrentWriteable Bytes) : Bool :=
  w.alreadyFinished || w.writeableQueue.any isCompletion

/-- The writeable was finished, or a cancellation on the main queue will do it. -/
def finishCertain (w : GRXConcurrentWriteable Bytes) : Bool :=
  w.sent.any isFinish || w.writeableQueue.any WriteableBlock.finishes

section Finishing

variable {released : Bool} {w : GRXConcurrentWriteable Bytes}

/-- The call was released exactly when the writeable was told to finish. -/
structure Finishing (released : Bool) (w : GRXConcurrentWriteable Bytes) : Prop where
  ordered : w.WellOrdered
  asked : released = finishAsked w
  certain : w.alreadyFinished = true → finishCertain w = true

private theorem Finishing.of_ordered (hordered : w.WellOrdered)
    (h : released = finishAsked w ∧ (w.alreadyFinished = true → finishCertain w = true)) :
    Finishing released w :=
  ⟨hordered, h.1, h.2⟩

private theorem initWithWriteable_finishing :
    Finishing false GRXConcurrentWriteable.initWithWriteable :=
  ⟨⟨rfl, Or.inl ⟨[], rfl, Nat.zero_le _⟩⟩, rfl, fun h => absurd h Bool.false_ne_true⟩

private theorem Finishing.enqueueValue (h : Finishing released w) (value : Bytes) :
    Finishing released (w.enqueueValue value) := by
  refine ⟨GRXConcurrentWriteable.step_wellOrdered w (.enqueueValue value) h.ordered, ?_,
    fun hf => ?_⟩
  · rw [h.asked]
    simp [finishAsked, GRXConcurrentWriteable.enqueueValue, isCompletion]
  · have hcertain := h.certain hf
    simpa [finishCertain, GRXConcurrentWriteable.enqueueValue, WriteableBlock.finishes]
      using hcertain

private theorem Finishing.finish (h : Finishing released w) (errorOrNil : Option NSError) :
    Finishing true (match errorOrNil with
      | some error => w.cancelWithError error
      | none => w.enqueueSuccessfulCompletion) := by
  cases errorOrNil with
  | none =>
      refine ⟨GRXConcurrentWriteable.step_wellOrdered w .enqueueSuccessfulCompletion h.ordered, ?_,
        fun hf => ?_⟩
      · simp [finishAsked, GRXConcurrentWriteable.enqueueSuccessfulCompletion, isCompletion]
      · have hcertain := h.certain hf
        simpa [finishCertain, GRXConcurrentWriteable.enqueueSuccessfulCompletion,
          WriteableBlock.finishes] using hcertain
  | some error =>
      refine .of_ordered
        (GRXConcurrentWriteable.step_wellOrdered w (.cancelWithError error) h.ordered) ?_
      dsimp only
      unfold GRXConcurrentWriteable.cancelWithError
      cases hf : w.alreadyFinished with
      | true =>
          rw [if_pos rfl]
          refine ⟨?_, h.certain⟩
          simp [finishAsked, hf]
      | false =>
          rw [if_neg Bool.false_ne_true]
          have hlive : w.writeable = true := by simp [h.ordered.live, hf]
          refine ⟨?_, fun _ => ?_⟩
          · simp [finishAsked]
          · simp [finishCertain, WriteableBlock.finishes, hlive]

theorem Finishing.runBlock (h : Finishing released w) {block : WriteableBlock Bytes}
    {rest : List (WriteableBlock Bytes)} (hq : w.writeableQueue = block :: rest) :
    Finishing released (GRXConcurrentWriteable.runBlock { w with writeableQueue := rest }
      block) := by
  refine .of_ordered (runBlock_ordered h.ordered hq) ?_
  have hasked := h.asked
  have hcertain := h.certain
  rw [finishAsked, hq, List.any_cons] at hasked
  rw [finishCertain, hq, List.any_cons] at hcertain
  cases block with
  | value value =>
      cases hw : w.writeable with
      | true =>
          refine ⟨?_, fun hf => ?_⟩
          · rw [hasked]
            simp [finishAsked, GRXConcurrentWriteable.runBlock, isCompletion]
          · have hf' : w.alreadyFinished = true := by
              simpa [GRXConcurrentWriteable.runBlock, hw] using hf
            simp [h.ordered.live, hf'] at hw
      | false =>
          refine ⟨?_, fun hf => ?_⟩
          · rw [hasked]
            simp [finishAsked, GRXConcurrentWriteable.runBlock, isCompletion]
          · have hf' : w.alreadyFinished = true := by
              simpa [GRXConcurrentWriteable.runBlock, hw] using hf
            have hnow := hcertain hf'
            simpa [finishCertain, GRXConcurrentWriteable.runBlock, hw, WriteableBlock.finishes]
              using hnow
  | successfulCompletion =>
      cases hf : w.alreadyFinished with
      | true =>
          have hnow := hcertain hf
          refine ⟨?_, fun _ => ?_⟩
          · rw [hasked]
            simp [finishAsked, GRXConcurrentWriteable.runBlock, hf]
          · simpa [finishCertain, GRXConcurrentWriteable.runBlock, hf, WriteableBlock.finishes]
              using hnow
      | false =>
          have hlive : w.writeable = true := by simp [h.ordered.live, hf]
          refine ⟨?_, fun _ => ?_⟩
          · rw [hasked]
            simp [finishAsked, GRXConcurrentWriteable.runBlock, hf, isCompletion]
          · simp [finishCertain, GRXConcurrentWriteable.runBlock, hlive, isFinish]
  | cancellation writeable error =>
      cases writeable with
      | true =>
          refine ⟨?_, fun _ => ?_⟩
          · rw [hasked]
            simp [finishAsked, GRXConcurrentWriteable.runBlock, isCompletion]
          · simp [finishCertain, GRXConcurrentWriteable.runBlock, isFinish]
      | false =>
          refine ⟨?_, fun hf => ?_⟩
          · rw [hasked]
            simp [finishAsked, GRXConcurrentWriteable.runBlock, isCompletion]
          · have hnow := hcertain hf
            simpa [finishCertain, GRXConcurrentWriteable.runBlock, WriteableBlock.finishes]
              using hnow

private theorem Finishing.released_iff (h : Finishing released w) :
    released = true ↔ w.sent.any isFinish = true ∨ w.writeableQueue.any ends = true := by
  rw [h.asked]
  constructor
  · intro hasked
    rcases Bool.or_eq_true_iff.mp hasked with hf | hcompletion
    · rcases Bool.or_eq_true_iff.mp (h.certain hf) with hsent | hqueued
      · exact Or.inl hsent
      · obtain ⟨block, hmem, hblock⟩ := List.any_eq_true.mp hqueued
        exact Or.inr (List.any_eq_true.mpr ⟨block, hmem, by simp [ends, hblock]⟩)
    · obtain ⟨block, hmem, hblock⟩ := List.any_eq_true.mp hcompletion
      exact Or.inr (List.any_eq_true.mpr ⟨block, hmem, by simp [ends, hblock]⟩)
  · rintro (hsent | hqueued)
    · rcases h.ordered.shape with ⟨values, hvalues, _⟩ | ⟨_, _, _, hf, _⟩
      · simp [hvalues, isFinish] at hsent
      · simp [finishAsked, hf]
    · obtain ⟨block, hmem, hblock⟩ := List.any_eq_true.mp hqueued
      rcases Bool.or_eq_true_iff.mp hblock with hcompletion | hfinishes
      · rw [finishAsked, List.any_eq_true.mpr ⟨block, hmem, hcompletion⟩, Bool.or_true]
      · have hpending : 0 < w.pendingFinishes := List.countP_pos_iff.mpr ⟨block, hmem, hfinishes⟩
        cases hf : w.alreadyFinished with
        | true => simp [finishAsked, hf]
        | false =>
            rcases h.ordered.shape with ⟨_, _, hle⟩ | ⟨_, _, _, hdone, _⟩
            · rw [hf, Bool.toNat_false] at hle
              omega
            · simp [hf] at hdone

end Finishing

namespace GRPCCall

variable {ρ : Type} {decompress : CompressionAlgorithm → List Bytes → Bytes}
  {parse : Bytes → Option ρ}

def finished (c : GRPCCall ρ) : Bool := c.responses.any isFinish

/-- A block on the main queue will tell the application that the responses end. -/
def finishQueued (c : GRPCCall ρ) : Bool :=
  c.responseWriteable.any fun w => w.writeableQueue.any ends

/-- The call object lets go of itself exactly when its writeable is told to finish, and it goes away
after that only. -/
structure Releases (c : GRPCCall ρ) : Prop where
  finishing : ∀ w, c.responseWriteable = some w → Finishing (!c.retainSelf) w
  gone : c.deallocated = true → c.retained = false ∧ c.retainSelf = false

section Steps

variable {c c' : GRPCCall ρ}

private theorem Releases.congr (h : Releases c)
    (hwriteable : c'.responseWriteable = c.responseWriteable)
    (hself : c'.retainSelf = c.retainSelf) (hd : c'.deallocated = c.deallocated)
    (hretained : c'.retained = c.retained) : Releases c' := by
  refine ⟨fun w hw => ?_, fun hgone => ?_⟩
  · rw [hself]
    exact h.finishing w (hwriteable ▸ hw)
  · rw [hretained, hself]
    exact h.gone (hd ▸ hgone)

private theorem Releases.finishWithError (h : Releases c) (errorOrNil : Option NSError) :
    Releases (c.finishWithError errorOrNil) := by
  refine ⟨fun w' hw' => ?_, fun hgone => ⟨(h.gone hgone).1, rfl⟩⟩
  obtain ⟨w, hw, rfl⟩ := Option.map_eq_some_iff.mp hw'
  exact (h.finishing w hw).finish errorOrNil

private theorem Releases.cancelCall (h : Releases c) :
    Releases c.cancelCall := h.congr rfl rfl rfl rfl

private theorem Releases.startNextRead (h : Releases c) : Releases c.startNextRead := by
  rcases c.startNextRead_cases with hkept | ⟨_, hnext⟩
  · rwa [hkept]
  · rw [hnext]
    exact h.congr rfl rfl rfl rfl

private theorem Releases.handles (h : Releases c) {completion : Completion} {outOfMemory : Bool}
    (hhandler : Handles decompress c completion outOfMemory c') : Releases c' := by
  cases hhandler with
  | headers => exact h.congr rfl rfl rfl rfl
  | status =>
      have hset : Releases (c.trailersSet completion.results) := h.congr rfl rfl rfl rfl
      exact hset.finishWithError _
  | value message =>
      refine ⟨fun w' hw' => ?_, h.gone⟩
      obtain ⟨w, hw, rfl⟩ := Option.map_eq_some_iff.mp hw'
      exact (h.finishing w hw).enqueueValue _
  | noMemory => exact (h.finishWithError _).cancelCall
  | resumed => exact h.congr rfl rfl rfl rfl
  | failed => exact h.finishWithError _
  | ignored => exact h

private theorem Releases.runs (h : Releases c) {w : GRXConcurrentWriteable Bytes}
    {block : WriteableBlock Bytes} {rest : List (WriteableBlock Bytes)}
    (hw : c.responseWriteable = some w) (hq : w.writeableQueue = block :: rest)
    (hruns : Runs parse c { w with writeableQueue := rest } block c') : Releases c' := by
  have hran : Releases (c.withWriteable
      (GRXConcurrentWriteable.runBlock { w with writeableQueue := rest } block)) := by
    refine ⟨fun w' hw' => ?_, h.gone⟩
    cases hw'
    exact (h.finishing w hw).runBlock hq
  cases hruns with
  | parsed =>
      apply Releases.startNextRead
      exact hran.congr rfl rfl rfl rfl
  | bad =>
      apply Releases.startNextRead
      unfold badResponse
      split
      · exact hran
      · exact hran.finishWithError _
  | completed => exact hran.congr rfl rfl rfl rfl
  | cancelled => exact hran.congr rfl rfl rfl rfl
  | silent => exact hran

theorem step_releases {e : ClientEvent} (h : Releases c)
    (hstep : c.step decompress parse e = .ok c') : Releases c' := by
  cases step_cases decompress parse hstep with
  | started headers c₁ c₂ c₃ hretained h₁ h₂ h₃ =>
      obtain ⟨_, rfl⟩ := startBatch_ok.mp h₁
      obtain ⟨_, rfl⟩ := startBatch_ok.mp h₂
      obtain ⟨_, rfl⟩ := startBatch_ok.mp h₃
      refine ⟨fun w hw => ?_, fun hgone => ?_⟩
      · cases hw
        exact initWithWriteable_finishing
      · have hno := (h.gone hgone).1
        simp [hretained] at hno
  | valueWritten => exact h.congr rfl rfl rfl rfl
  | writesFailed =>
      have hfinished : Releases (c.withWriter .finished) := h.congr rfl rfl rfl rfl
      exact (hfinished.finishWithError _).cancelCall
  | writesEnded => exact h.congr rfl rfl rfl rfl
  | batch block rest operation _ hq hop hd hstart =>
      obtain ⟨_, rfl⟩ := startBatch_ok.mp hstart
      exact h.congr rfl rfl rfl rfl
  | skipped => exact h.congr rfl rfl rfl rfl
  | destroyed rest _ hq hdestroy =>
      obtain ⟨call, _, rfl⟩ := onCore_ok.mp hdestroy
      exact h.congr rfl rfl rfl rfl
  | handled outOfMemory completion rest _ hq hhandler =>
      have hcounted : Releases c.counted := h.congr rfl rfl rfl rfl
      exact hcounted.handles hhandler
  | ran w block rest _ hw hq hruns => exact h.runs hw hq hruns
  | sent success _ hcore =>
      obtain ⟨call, _, rfl⟩ := onCore_ok.mp hcore
      exact h.congr rfl rfl rfl rfl
  | received success ops state _ hcore =>
      obtain ⟨call, _, rfl⟩ := onCore_ok.mp hcore
      exact h.congr rfl rfl rfl rfl
  | cancelled => exact (h.finishWithError _).cancelCall
  | released => exact ⟨h.finishing, fun hgone => ⟨rfl, (h.gone hgone).2⟩⟩
  | deallocated hreferenced _ =>
      obtain ⟨hretained, hself, _⟩ := isReferenced_eq_false.mp hreferenced
      exact ⟨h.finishing, fun _ => ⟨hretained, hself⟩⟩

/-- How many blocks of the main queue can still run: those that wait, and a cancellation. -/
def mainBlocks (w : GRXConcurrentWriteable Bytes) : Nat :=
  w.writeableQueue.length + (!w.alreadyFinished).toNat

private theorem mainBlocks_runBlock (w : GRXConcurrentWriteable Bytes)
    (block : WriteableBlock Bytes) :
    mainBlocks (w.runBlock block) ≤ mainBlocks w := by
  cases block with
  | value value => cases hw : w.writeable <;> simp [GRXConcurrentWriteable.runBlock, mainBlocks, hw]
  | successfulCompletion =>
      cases hf : w.alreadyFinished <;> simp [GRXConcurrentWriteable.runBlock, mainBlocks, hf]
  | cancellation writeable error =>
      cases writeable <;> simp [GRXConcurrentWriteable.runBlock, mainBlocks]

private theorem mainBlocks_cancelWithError (w : GRXConcurrentWriteable Bytes) (error : NSError) :
    mainBlocks (w.cancelWithError error) ≤ mainBlocks w := by
  cases hf : w.alreadyFinished <;> simp [GRXConcurrentWriteable.cancelWithError, mainBlocks, hf]

theorem startNextRead_retainSelf (c : GRPCCall ρ) :
    c.startNextRead.retainSelf = c.retainSelf := by
  rcases c.startNextRead_cases with hkept | ⟨_, hnext⟩
  · rw [hkept]
  · rw [hnext]
    rfl

private theorem startNextRead_responseWriteable (c : GRPCCall ρ) :
    c.startNextRead.responseWriteable = c.responseWriteable := by
  rcases c.startNextRead_cases with hkept | ⟨_, hnext⟩
  · rw [hkept]
  · rw [hnext]
    rfl

theorem Runs.fewer {w : GRXConcurrentWriteable Bytes} {block : WriteableBlock Bytes}
    (hruns : Runs parse c w block c') : (c.retainSelf = false → c'.retainSelf = false) ∧
      ∃ w', c'.responseWriteable = some w' ∧ mainBlocks w' ≤ mainBlocks w := by
  have hran := mainBlocks_runBlock w block
  cases hruns with
  | parsed =>
      rw [startNextRead_retainSelf, startNextRead_responseWriteable]
      exact ⟨fun hself => hself, _, rfl, hran⟩
  | bad =>
      rw [startNextRead_retainSelf, startNextRead_responseWriteable]
      unfold badResponse
      split
      · exact ⟨fun hself => hself, _, rfl, hran⟩
      · exact ⟨fun _ => rfl, _, rfl, (mainBlocks_cancelWithError _ _).trans hran⟩
  | completed => exact ⟨fun hself => hself, _, rfl, hran⟩
  | cancelled => exact ⟨fun hself => hself, _, rfl, hran⟩
  | silent => exact ⟨fun hself => hself, _, rfl, hran⟩

variable (decompress parse) in
private theorem exists_drained (w : GRXConcurrentWriteable Bytes)
    (hw : c.responseWriteable = some w) (hself : c.retainSelf = false) :
    ∃ n c', EventRun.run (step decompress parse) c (List.replicate n .mainQueue) = .ok c' ∧
      c'.retainSelf = false ∧ ∃ w', c'.responseWriteable = some w' ∧ w'.writeableQueue = [] := by
  induction hn : mainBlocks w using Nat.strong_induction_on generalizing c w with
  | _ n ih =>
      cases hq : w.writeableQueue with
      | nil => exact ⟨0, c, rfl, hself, w, hw, hq⟩
      | cons block rest =>
          have hstep : c.step decompress parse .mainQueue =
              .ok (c.runMainBlock parse { w with writeableQueue := rest } block) := by
            simp only [step, hw, hq]
          have hruns := runMainBlock_cases parse c { w with writeableQueue := rest } block
          obtain ⟨hkept, w₁, hw₁, hle⟩ := hruns.fewer
          have hlt : mainBlocks w₁ < n := by
            have htaken : mainBlocks { w with writeableQueue := rest } + 1 = mainBlocks w := by
              simp only [mainBlocks, hq, List.length_cons]
              omega
            omega
          obtain ⟨m, c', hrun, hdone⟩ := ih _ hlt w₁ hw₁ (hkept hself) rfl
          refine ⟨m + 1, c', ?_, hdone⟩
          rw [List.replicate_succ, EventRun.run_cons_ok]
          exact ⟨_, hstep, hrun⟩

end Steps

theorem initWithHost_releases (maxMessageLength : UInt32) (channelMetadata : List Metadata) :
    Releases (initWithHost maxMessageLength channelMetadata : GRPCCall ρ) :=
  ⟨fun w hw => absurd hw (by simp [initWithHost]), fun hgone => absurd hgone Bool.false_ne_true⟩

theorem run_releases {maxMessageLength : UInt32} {channelMetadata : List Metadata}
    {events : List ClientEvent} {c : GRPCCall ρ}
    (h : EventRun.run (step decompress parse) (initWithHost maxMessageLength channelMetadata)
      events = .ok c) : Releases c :=
  EventRun.run_invariant (P := fun _ => True) (fun _ _ _ hs _ he => step_releases hs he)
    (initWithHost_releases maxMessageLength channelMetadata) (fun _ _ => trivial) h

theorem run_released_iff {maxMessageLength : UInt32} {channelMetadata : List Metadata}
    {events : List ClientEvent} {c : GRPCCall ρ}
    (h : EventRun.run (step decompress parse) (initWithHost maxMessageLength channelMetadata)
      events = .ok c) {w : GRXConcurrentWriteable Bytes} (hw : c.responseWriteable = some w) :
    c.retainSelf = false ↔ c.finished = true ∨ w.writeableQueue.any ends = true := by
  obtain ⟨_, _, hdelivers⟩ := run_delivers h
  have hreleased := ((run_releases h).finishing w hw).released_iff
  rwa [Bool.not_eq_true', ← isFinish_parsed parse, ← (hdelivers.delivered w hw).responses]
    at hreleased

/-- In every run, a call object that was started has let go of itself exactly when the application
was told that its responses end or the block that tells it waits on the main queue, and it never
goes away before. Once it has let go, running the main queue is enough for the application to be
told. -/
theorem released_iff_finished {maxMessageLength : UInt32} {channelMetadata : List Metadata}
    {events : List ClientEvent} {c : GRPCCall ρ}
    (h : EventRun.run (step decompress parse) (initWithHost maxMessageLength channelMetadata)
      events = .ok c) (hstarted : c.started = true) :
    (c.retainSelf = false ↔ c.finished = true ∨ c.finishQueued = true) ∧
      (c.deallocated = true → c.retainSelf = false) ∧
      (c.retainSelf = false → ∃ n c', EventRun.run (step decompress parse) c
        (List.replicate n .mainQueue) = .ok c' ∧ c'.finished = true) := by
  obtain ⟨w, hw⟩ := Option.isSome_iff_exists.mp hstarted
  refine ⟨?_, fun hgone => ((run_releases h).gone hgone).2, fun hself => ?_⟩
  · rw [finishQueued, hw]
    exact run_released_iff h hw
  · obtain ⟨n, c', hdrain, hself', w', hw', hempty⟩ := exists_drained decompress parse w hw hself
    have hrun := (EventRun.run_append (List.replicate n .mainQueue) h).trans hdrain
    refine ⟨n, c', hdrain, ?_⟩
    have hfinish := (run_released_iff hrun hw').mp hself'
    simpa [hempty] using hfinish

theorem released_session : ∃ c : GRPCCall Bytes,
    EventRun.run (step joinSlices some) (initWithHost 1000 []) session = .ok c ∧
      c.started = true ∧ (c.retainSelf = false ↔ c.finished = true ∨ c.finishQueued = true) ∧
      (c.deallocated = true → c.retainSelf = false) ∧
      (c.retainSelf = false → ∃ n c', EventRun.run (step joinSlices some) c
        (List.replicate n .mainQueue) = .ok c' ∧ c'.finished = true) := by
  obtain ⟨c, h, hstarted⟩ := EventRun.exists_ok_of_any
    (r := EventRun.run (step joinSlices some) (initWithHost 1000 [] : GRPCCall Bytes) session)
    (p := fun c => c.started) (by decide)
  exact ⟨c, h, hstarted, released_iff_finished h hstarted⟩

end GRPCCall

end CrowdSound.Client
