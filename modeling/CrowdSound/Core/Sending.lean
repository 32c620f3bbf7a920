import CrowdSound.Core.Closing

/-!
# What a client sends

The transport is given the initial metadata first, then every accepted message once, in order,
each as one frame, and nothing after the close.
-/

namespace CrowdSound.Core

/-- The message that an operation asks to be sent. -/
def Ioreq.message (req : Ioreq) : Option WireMessage :=
  match req.op, req.data with
  | .sendMessage, .sendMessage message => some ⟨req.flags, message.slices⟩
  | _, _ => none

def BatchOp.message (o : BatchOp) : Option WireMessage :=
  match o.op with
  | .sendMessage (some message) => some ⟨o.flags, message.slices⟩
  | _ => none

namespace GrpcCall

open OpGroups

def sends (call : GrpcCall) : List SendOps := call.transportOps.filterMap TransportStreamOp.sendOps

def sentOps (call : GrpcCall) : List StreamOp := call.sends.flatMap SendOps.ops

def acceptedParts {β : Type} (f : BatchOp → Option β) (call : GrpcCall) : CallEvent → List β
  | .startBatch ops tag => if (call.startBatch ops tag).2 = .ok then ops.filterMap f else []
  | _ => []

def acceptedMessages (call : GrpcCall) : CallEvent → List WireMessage :=
  acceptedParts BatchOp.message call

def pendingMessage (call : GrpcCall) : Option WireMessage :=
  match call.requestData .sendMessage with
  | .sendMessage message => some ⟨call.requestFlags .sendMessage, message.slices⟩
  | _ => none

/-- The accepted message that the transport was not given yet. -/
def unsent (call : GrpcCall) : List WireMessage :=
  if call.isOpLive .sendMessage = true ∧ .sendMessage ∉ call.lastSendContains then
    call.pendingMessage.toList
  else []

/-- What a client has sent: `accepted` are the messages of the batches it has accepted and
`sent` those that the transport was given. -/
structure Sends (accepted sent : List WireMessage) (call : GrpcCall) : Prop where
  wellFormed : call.groups.WellFormed
  client : call.isClient = true
  wire : call.sends = [] ∧ sent = [] ∨
    ∃ batch, call.sentOps = .metadata batch :: sent.flatMap WireMessage.frame
  begun : call.sends = [] ↔ call.writeState = .initial ∧ call.sending = false
  order : call.sends.Pairwise fun s _ => s.isLastSend = false
  last : (∃ s ∈ call.sends, s.isLastSend = true) →
    .sendClose ∈ call.lastSendContains ∨ call.writeState = .writeClosed
  sentPrefix : sent <+: accepted
  waiting : call.writeState ≠ .writeClosed → accepted = sent ++ call.unsent
  idle : call.sending = false → call.lastSendContains = ∅
  closed : call.writeState = .writeClosed → call.sending = false
  inFlight : .sendMessage ∈ call.lastSendContains → call.isOpLive .sendMessage = true
  first : call.sending = true → call.writeState = .initial →
    .sendInitialMetadata ∈ call.lastSendContains
  metadata : .sendInitialMetadata ∈ call.lastSendContains →
    call.isOpLive .sendInitialMetadata = true ∨ call.isFinished .sendInitialMetadata = true
  started : call.writeState ≠ .initial → call.isFinished .sendInitialMetadata = true
  healthy : ∀ set, call.groups.slot set = .group set →
    (call.groups.master set).success = false → call.writeState = .writeClosed
  data : ∀ set, call.groups.slot .sendMessage = .group set → call.pendingMessage ≠ none

/-- The fields that sending depends on. -/
structure SameSends (call call' : GrpcCall) : Prop where
  isClient : call'.isClient = call.isClient
  writeState : call'.writeState = call.writeState
  sending : call'.sending = call.sending
  lastSendContains : call'.lastSendContains = call.lastSendContains
  groups : call'.groups = call.groups
  requestData : call'.requestData = call.requestData
  requestFlags : call'.requestFlags = call.requestFlags
  transportOps : call'.transportOps = call.transportOps

private theorem SameSends.unsent {c c' : GrpcCall} (h : SameSends c c') : c'.unsent = c.unsent := by
  rw [GrpcCall.unsent, GrpcCall.unsent, isOpLive, isOpLive, h.groups, h.lastSendContains,
    pendingMessage, pendingMessage, h.requestData, h.requestFlags]

theorem Sends.congr {accepted sent : List WireMessage} {c c' : GrpcCall}
    (h : Sends accepted sent c) (hs : SameSends c c') : Sends accepted sent c' := by
  have hsends : c'.sends = c.sends := by
    rw [GrpcCall.sends, hs.transportOps, ← GrpcCall.sends]
  have hlive : ∀ op, c'.isOpLive op = c.isOpLive op := fun op => by
    rw [isOpLive, hs.groups, ← isOpLive]
  have hfinished : ∀ op, c'.isFinished op = c.isFinished op := fun op => by
    rw [isFinished, isFinished, hs.groups, hlive]
  have hpending : c'.pendingMessage = c.pendingMessage := by
    rw [pendingMessage, pendingMessage, hs.requestData, hs.requestFlags]
  constructor
  case wellFormed =>
      rw [hs.groups]
      exact h.wellFormed
  case client =>
      rw [hs.isClient]
      exact h.client
  case wire =>
      rw [sentOps, hsends, ← sentOps]
      exact h.wire
  case begun =>
      rw [hsends, hs.writeState, hs.sending]
      exact h.begun
  case order =>
      rw [hsends]
      exact h.order
  case last =>
      rw [hsends, hs.lastSendContains, hs.writeState]
      exact h.last
  case sentPrefix => exact h.sentPrefix
  case waiting =>
      rw [hs.writeState, hs.unsent]
      exact h.waiting
  case idle =>
      rw [hs.sending, hs.lastSendContains]
      exact h.idle
  case closed =>
      rw [hs.writeState, hs.sending]
      exact h.closed
  case inFlight =>
      rw [hs.lastSendContains, hlive]
      exact h.inFlight
  case first =>
      rw [hs.sending, hs.writeState, hs.lastSendContains]
      exact h.first
  case metadata =>
      rw [hs.lastSendContains, hlive, hfinished]
      exact h.metadata
  case started =>
      rw [hs.writeState, hfinished]
      exact h.started
  case healthy =>
      rw [hs.groups, hs.writeState]
      exact h.healthy
  case data =>
      rw [hs.groups, hpending]
      exact h.data

private theorem finishIoreqOp_writeState (call : GrpcCall) (op : IoreqOp) (success : Bool) :
    (call.finishIoreqOp op success).writeState = .writeClosed ∨
      (call.finishIoreqOp op success).writeState = call.writeState := by
  rcases call.finishIoreqOp_cases op success with ⟨_, h⟩ | ⟨set, _, _, ⟨_, h⟩ | ⟨_, h⟩⟩
  · exact Or.inr (by rw [h])
  · exact Or.inr (by rw [h]; rfl)
  · rw [h, completeGroup_eq]
    simp only [finishMembers]
    split
    · exact Or.inl rfl
    · exact Or.inr rfl

private theorem finishIoreqOp_writeClosed {call : GrpcCall} (op : IoreqOp) (success : Bool)
    (h : call.writeState = .writeClosed) :
    (call.finishIoreqOp op success).writeState = .writeClosed :=
  (call.finishIoreqOp_writeState op success).elim id fun hw => hw.trans h

/-- No outstanding group has failed yet. -/
def Healthy (call : GrpcCall) : Prop :=
  ∀ set, call.groups.slot set = .group set → (call.groups.master set).success = true

private theorem finishIoreqOp_slot {call : GrpcCall} {op op' set : IoreqOp} {success : Bool}
    (h : (call.finishIoreqOp op success).groups.slot op' = .group set) :
    call.groups.slot op' = .group set :=
  (finishIoreqOp_paired op success (fun _ hs => hs) h).1

private theorem finishIoreqOp_healthy {call : GrpcCall} (hwf : call.groups.WellFormed)
    (h : Healthy call) (op : IoreqOp) :
    Healthy (call.finishIoreqOp op true) ∧
      (call.finishIoreqOp op true).writeState = call.writeState := by
  have hmaster : ∀ set, ((call.finishIoreqOp op true).groups.master set).success =
      (call.groups.master set).success := by
    have hmark : ∀ leader set, ((call.groups.mark leader op true).master set).success =
        (call.groups.master set).success := by
      intro leader set
      by_cases hs : set = leader
      · subst hs
        simp
      · rw [Groups.mark_master_of_ne _ _ _ hs]
    intro set
    rcases call.finishIoreqOp_cases op true with ⟨_, hf⟩ | ⟨s, _, _, ⟨_, hf⟩ | ⟨_, hf⟩⟩ <;> rw [hf]
    · exact hmark s set
    · rw [completed_groups]
      exact hmark s set
  refine ⟨?_, ?_⟩
  · intro set hset
    rw [hmaster]
    exact h set (finishIoreqOp_slot hset)
  · rcases call.finishIoreqOp_cases op true with ⟨_, hf⟩ | ⟨s, hs, _, ⟨_, hf⟩ | ⟨_, hf⟩⟩ <;> rw [hf]
    · rfl
    · have hsuccess := h s (hwf.leader op s hs)
      have hmarked : ((call.groups.mark s op true).master s).success = true := by
        rw [Groups.mark_master_self, hsuccess]
        rfl
      rw [completeGroup_eq]
      simp only [finishMembers, marked_groups, hmarked]
      rfl

theorem Sends.finishClosed {accepted sent : List WireMessage} {call : GrpcCall}
    (h : Sends accepted sent call) (hclosed : call.writeState = .writeClosed) (op : IoreqOp)
    (success : Bool) : Sends accepted sent (call.finishIoreqOp op success) := by
  have hw := finishIoreqOp_writeClosed op success hclosed
  have hsends : (call.finishIoreqOp op success).sends = call.sends := by
    rw [GrpcCall.sends, finishIoreqOp_transportOps, ← GrpcCall.sends]
  have hnone : call.lastSendContains = ∅ := h.idle (h.closed hclosed)
  have hpending : (call.finishIoreqOp op success).pendingMessage = call.pendingMessage := by
    rw [pendingMessage, pendingMessage, finishIoreqOp_requestData, finishIoreqOp_requestFlags]
  constructor
  case wellFormed => exact (finishIoreqOp_accounts call op success ⟨h.wellFormed, rfl⟩).1
  case client =>
      rw [finishIoreqOp_isClient]
      exact h.client
  case wire =>
      rw [sentOps, hsends, ← sentOps]
      exact h.wire
  case begun =>
      rw [hsends, h.begun, hclosed, hw]
      simp
  case order =>
      rw [hsends]
      exact h.order
  case last => exact fun _ => Or.inr hw
  case sentPrefix => exact h.sentPrefix
  case waiting => exact fun hne => absurd hw hne
  case idle =>
      rw [finishIoreqOp_sending, finishIoreqOp_lastSendContains]
      exact h.idle
  case closed =>
      rw [finishIoreqOp_sending]
      exact fun _ => h.closed hclosed
  case inFlight =>
      rw [finishIoreqOp_lastSendContains, hnone]
      exact fun hmem => absurd hmem (by simp)
  case first =>
      rw [hw]
      exact fun _ hne => absurd hne (by decide)
  case metadata =>
      rw [finishIoreqOp_lastSendContains, hnone]
      exact fun hmem => absurd hmem (by simp)
  case started =>
      intro _
      rw [finishIoreqOp_isFinished h.wellFormed success rfl,
        h.started (by rw [hclosed]; decide), Bool.true_or]
  case healthy => exact fun _ _ _ => hw
  case data =>
      intro set hset
      rw [hpending]
      exact h.data set (finishIoreqOp_slot hset)

theorem Sends.finishSuccess {accepted sent : List WireMessage} {call : GrpcCall}
    (h : Sends accepted sent call) {op : IoreqOp} (hop : op ≠ .sendMessage) :
    Sends accepted sent (call.finishIoreqOp op true) := by
  by_cases hclosed : call.writeState = .writeClosed
  · exact h.finishClosed hclosed op true
  · have hhealthy : Healthy call := by
      intro set hset
      cases hs : (call.groups.master set).success with
      | true => rfl
      | false => exact absurd (h.healthy set hset hs) hclosed
    obtain ⟨hhealthy', hw⟩ := finishIoreqOp_healthy h.wellFormed hhealthy op
    have hsends : (call.finishIoreqOp op true).sends = call.sends := by
      rw [GrpcCall.sends, finishIoreqOp_transportOps, ← GrpcCall.sends]
    have hpending : (call.finishIoreqOp op true).pendingMessage = call.pendingMessage := by
      rw [pendingMessage, pendingMessage, finishIoreqOp_requestData, finishIoreqOp_requestFlags]
    have hlive : (call.finishIoreqOp op true).isOpLive .sendMessage =
        call.isOpLive .sendMessage := by
      rw [finishIoreqOp_isOpLive h.wellFormed]
      simp [Ne.symm hop]
    have hunsent : (call.finishIoreqOp op true).unsent = call.unsent := by
      rw [unsent, unsent, hlive, hpending, finishIoreqOp_lastSendContains]
    constructor
    case wellFormed => exact (finishIoreqOp_accounts call op true ⟨h.wellFormed, rfl⟩).1
    case client =>
        rw [finishIoreqOp_isClient]
        exact h.client
    case wire =>
        rw [sentOps, hsends, ← sentOps]
        exact h.wire
    case begun =>
        rw [hsends, hw, finishIoreqOp_sending]
        exact h.begun
    case order =>
        rw [hsends]
        exact h.order
    case last =>
        rw [hsends, hw, finishIoreqOp_lastSendContains]
        exact h.last
    case sentPrefix => exact h.sentPrefix
    case waiting =>
        rw [hw, hunsent]
        exact h.waiting
    case idle =>
        rw [finishIoreqOp_sending, finishIoreqOp_lastSendContains]
        exact h.idle
    case closed =>
        rw [hw, finishIoreqOp_sending]
        exact h.closed
    case inFlight =>
        rw [finishIoreqOp_lastSendContains, hlive]
        exact h.inFlight
    case first =>
        rw [finishIoreqOp_sending, hw, finishIoreqOp_lastSendContains]
        exact h.first
    case metadata =>
        intro hmem
        rw [finishIoreqOp_lastSendContains] at hmem
        rw [finishIoreqOp_isFinished h.wellFormed true rfl, finishIoreqOp_isOpLive h.wellFormed]
        rcases h.metadata hmem with hl | hf
        · by_cases heq : op = .sendInitialMetadata
          · simp [heq, hl]
          · simp [hl, Ne.symm heq]
        · simp [hf]
    case started =>
        intro hne
        rw [hw] at hne
        rw [finishIoreqOp_isFinished h.wellFormed true rfl, h.started hne, Bool.true_or]
    case healthy =>
        intro set hset hfail
        exact absurd ((hhealthy' set hset).symm.trans hfail) (by decide)
    case data =>
        intro set hset
        rw [hpending]
        exact h.data set (finishIoreqOp_slot hset)

theorem Sends.finishReadOps {accepted sent : List WireMessage} {call : GrpcCall}
    (h : Sends accepted sent call) : Sends accepted sent call.finishReadOps := by
  have hpop : Sends accepted sent call.popMessage.1 := by
    rcases call.popMessage_cases with ⟨_, hp⟩ | ⟨_, _, hp⟩ | ⟨message, rest, _, _, hp⟩ <;> rw [hp]
    · exact h
    · exact h.congr ⟨rfl, rfl, rfl, rfl, rfl, rfl, rfl, rfl⟩
    · have htake : Sends accepted sent (call.takeMessage message rest) :=
        h.congr ⟨rfl, rfl, rfl, rfl, rfl, rfl, rfl, rfl⟩
      exact htake.finishSuccess (by decide)
  have hclosed : ∀ {c : GrpcCall} empty, Sends accepted sent c →
      Sends accepted sent (c.finishReadClosed empty) := by
    intro c empty hc
    have hmessage : Sends accepted sent
        (if empty then c.finishIoreqOp .recvMessage true else c) := by
      split
      · exact hc.finishSuccess (by decide)
      · exact hc
    exact (((hmessage.finishSuccess (by decide)).finishSuccess (by decide)).finishSuccess
      (by decide)).finishSuccess (by decide)
  unfold GrpcCall.finishReadOps
  dsimp only
  cases call.popMessage.1.readState with
  | initial => exact hpop
  | gotInitialMetadata => exact hpop.finishSuccess (by decide)
  | readClosed => exact hclosed _ hpop
  | streamClosed =>
      refine hclosed _ ?_
      split
      · exact hpop.finishSuccess (by decide)
      · exact hpop

private theorem finishIoreqOp_of_finished {call : GrpcCall} {op : IoreqOp} (success : Bool)
    (h : call.isFinished op = true) : call.finishIoreqOp op success = call := by
  rw [isFinished, Bool.and_eq_true, Bool.not_eq_true'] at h
  rw [finishIoreqOp, h.2, if_neg Bool.false_ne_true]

private theorem Sends.earlyOutWriteOps {accepted sent : List WireMessage} {call : GrpcCall}
    (h : Sends accepted sent call) : Sends accepted sent call.earlyOutWriteOps := by
  have hclosed : ∀ {c : GrpcCall} op success, Sends accepted sent c ∧ c.writeState = .writeClosed →
      Sends accepted sent (c.finishIoreqOp op success) ∧
        (c.finishIoreqOp op success).writeState = .writeClosed :=
    fun op success hc => ⟨hc.1.finishClosed hc.2 op success,
      finishIoreqOp_writeClosed op success hc.2⟩
  unfold GrpcCall.earlyOutWriteOps
  cases hw : call.writeState with
  | initial => exact h
  | started =>
      dsimp only
      rw [finishIoreqOp_of_finished false (h.started (by rw [hw]; decide))]
      exact h
  | writeClosed =>
      exact (hclosed _ _ (hclosed _ _ (hclosed _ _ (hclosed _ _ (hclosed _ _ ⟨h, hw⟩))))).1

/-- The three parts of what the end of a send completes. -/
def sentMetadata (call : GrpcCall) (success : Bool) : GrpcCall :=
  if .sendInitialMetadata ∈ call.lastSendContains then
    { call.finishIoreqOp .sendInitialMetadata success with writeState := .started }
  else call

def sentMessage (call : GrpcCall) (success : Bool) : GrpcCall :=
  if .sendMessage ∈ call.lastSendContains then call.finishIoreqOp .sendMessage success else call

def sentClose (call : GrpcCall) (success : Bool) : GrpcCall :=
  if .sendClose ∈ call.lastSendContains then
    let call := call.finishIoreqOp .sendTrailingMetadata success
    let call := call.finishIoreqOp .sendStatus success
    { call.finishIoreqOp .sendClose true with writeState := .writeClosed }
  else call

private theorem finishSends_eq (call : GrpcCall) (success : Bool) :
    call.finishSends success =
      if success then ((call.sentMetadata success).sentMessage success).sentClose success
      else GrpcCall.earlyOutWriteOps
        { ((call.sentMetadata success).sentMessage success).sentClose success with
          writeState := .writeClosed } := rfl

private theorem finishSends_true (call : GrpcCall) :
    call.finishSends true = ((call.sentMetadata true).sentMessage true).sentClose true := by
  rw [finishSends_eq, if_pos rfl]

private theorem finishSends_false (call : GrpcCall) :
    call.finishSends false = GrpcCall.earlyOutWriteOps
      { ((call.sentMetadata false).sentMessage false).sentClose false with
        writeState := .writeClosed } := by
  rw [finishSends_eq, if_neg Bool.false_ne_true]

private theorem sentMessage_completes (call : GrpcCall) (success : Bool) :
    Completes (fun _ _ => True) call (call.sentMessage success) :=
  .ite (Completes.refl.finish _ _ trivial) .refl

private theorem sentClose_completes (call : GrpcCall) (success : Bool) :
    Completes (fun _ _ => True) call (call.sentClose success) :=
  .ite ((((Completes.refl.finish _ _ trivial).finish _ _ trivial).finish _ _ trivial).write _) .refl

private theorem sentMetadata_completes (call : GrpcCall) (success : Bool) :
    Completes (fun _ _ => True) call (call.sentMetadata success) :=
  .ite ((Completes.refl.finish _ _ trivial).write _) .refl

private theorem completes_isFinished {P : IoreqOp → Bool → Prop} {call call' : GrpcCall}
    (hc : Completes P call call') (hwf : call.groups.WellFormed) {op : IoreqOp}
    (hreusable : op.reusable = false) (h : call.isFinished op = true) :
    call'.isFinished op = true := by
  induction hc with
  | refl => exact h
  | finish op' success hc _ ih =>
      rw [finishIoreqOp_isFinished (completes_wellFormed hc hwf) success hreusable, ih,
        Bool.true_or]
  | write state _ ih => exact ih

private theorem completes_slot {P : IoreqOp → Bool → Prop} {call call' : GrpcCall}
    (hc : Completes P call call') {op set : IoreqOp} (h : call'.groups.slot op = .group set) :
    call.groups.slot op = .group set := by
  induction hc with
  | refl => exact h
  | finish op' success _ _ ih => exact ih (finishIoreqOp_slot h)
  | write state _ ih => exact ih h

private theorem Sends.sentMetadata_isFinished {accepted sent : List WireMessage} {call : GrpcCall}
    (h : Sends accepted sent call) (hsending : call.sending = true) (success : Bool) :
    (call.sentMetadata success).isFinished .sendInitialMetadata = true := by
  unfold GrpcCall.sentMetadata
  split
  · next hmem =>
      show (call.finishIoreqOp .sendInitialMetadata success).isFinished .sendInitialMetadata = true
      rw [finishIoreqOp_isFinished h.wellFormed success rfl]
      rcases h.metadata hmem with hl | hf
      · simp [hl]
      · simp [hf]
  · next hmem => exact h.started fun hi => hmem (h.first hsending hi)

def sendDone (call : GrpcCall) : GrpcCall := { call with lastSendContains := ∅, sending := false }

theorem Sends.endedClosed {P : IoreqOp → Bool → Prop} {accepted sent : List WireMessage}
    {call c : GrpcCall} (h : Sends accepted sent call) (hsending : call.sending = true)
    (hc : Completes P call c) (hclosed : c.writeState = .writeClosed)
    (hmetadata : c.isFinished .sendInitialMetadata = true) : Sends accepted sent c.sendDone := by
  have hframe := completes_frame hc
  have hsends : c.sendDone.sends = call.sends := by
    show c.transportOps.filterMap TransportStreamOp.sendOps = _
    rw [hframe]
    rfl
  have hpending : c.sendDone.pendingMessage = call.pendingMessage := by
    show c.pendingMessage = _
    rw [hframe]
    rfl
  have hsent : call.sends ≠ [] := by
    intro hnil
    have hno := (h.begun.mp hnil).2
    simp [hsending] at hno
  have hwf := completes_wellFormed hc h.wellFormed
  constructor
  case wellFormed => exact hwf
  case client =>
      show c.isClient = true
      rw [hframe]
      exact h.client
  case wire =>
      rw [sentOps, hsends, ← sentOps]
      exact h.wire
  case begun =>
      rw [hsends]
      refine iff_of_false hsent ?_
      rintro ⟨hi, _⟩
      exact absurd (hclosed.symm.trans hi) (by decide)
  case order =>
      rw [hsends]
      exact h.order
  case last => exact fun _ => Or.inr hclosed
  case sentPrefix => exact h.sentPrefix
  case waiting => exact fun hne => absurd hclosed hne
  case idle => exact fun _ => rfl
  case closed => exact fun _ => rfl
  case inFlight => exact fun hmem => absurd hmem (by simp [sendDone])
  case first => exact fun hs => absurd hs Bool.false_ne_true
  case metadata => exact fun hmem => absurd hmem (by simp [sendDone])
  case started => exact fun _ => hmetadata
  case healthy => exact fun _ _ _ => hclosed
  case data =>
      intro set hset
      rw [hpending]
      exact h.data set (completes_slot hc hset)

private theorem Sends.sentMetadata {accepted sent : List WireMessage} {call : GrpcCall}
    (h : Sends accepted sent call) (hsending : call.sending = true) :
    Sends accepted sent (call.sentMetadata true) ∧ (call.sentMetadata true).writeState = .started ∧
      (call.sentMetadata true).lastSendContains = call.lastSendContains ∧
      (call.sentMetadata true).sending = true := by
  have hfinished := h.sentMetadata_isFinished hsending true
  have hopen : call.writeState ≠ .writeClosed := by
    intro hclosed
    have hno := h.closed hclosed
    simp [hsending] at hno
  unfold GrpcCall.sentMetadata at hfinished ⊢
  split at hfinished
  · next hmem =>
      rw [if_pos hmem]
      have hc : Sends accepted sent (call.finishIoreqOp .sendInitialMetadata true) :=
        h.finishSuccess (by decide)
      have hsends : (call.finishIoreqOp .sendInitialMetadata true).sending = true := by
        rw [finishIoreqOp_sending]; exact hsending
      have hhealthy : Healthy call := by
        intro set hset
        cases hs : (call.groups.master set).success with
        | true => rfl
        | false => exact absurd (h.healthy set hset hs) hopen
      have hstill := finishIoreqOp_healthy h.wellFormed hhealthy .sendInitialMetadata
      have hopen' : (call.finishIoreqOp .sendInitialMetadata true).writeState ≠ .writeClosed := by
        rw [hstill.2]
        exact hopen
      have hsent : (call.finishIoreqOp .sendInitialMetadata true).sends ≠ [] := by
        intro hnil
        have hno := (hc.begun.mp hnil).2
        exact Bool.false_ne_true (hno.symm.trans hsends)
      refine ⟨?_, rfl, finishIoreqOp_lastSendContains _ _ _, hsends⟩
      constructor
      case wellFormed => exact hc.wellFormed
      case client => exact hc.client
      case wire => exact hc.wire
      case begun =>
          refine iff_of_false hsent ?_
          rintro ⟨hi, _⟩
          exact absurd hi (by simp)
      case order => exact hc.order
      case last =>
          intro hl
          rcases hc.last hl with hm | hw
          · exact Or.inl hm
          · exact absurd hw hopen'
      case sentPrefix => exact hc.sentPrefix
      case waiting => exact fun _ => hc.waiting hopen'
      case idle => exact hc.idle
      case closed => exact fun hw => absurd hw (by simp)
      case inFlight => exact hc.inFlight
      case first => exact fun _ hi => absurd hi (by simp)
      case metadata => exact hc.metadata
      case started => exact fun _ => hfinished
      case healthy =>
          intro set hset hfail
          exact absurd ((hstill.1 set hset).symm.trans hfail) (by decide)
      case data => exact hc.data
  · next hmem =>
      rw [if_neg hmem]
      refine ⟨h, ?_, rfl, hsending⟩
      cases hw : call.writeState with
      | initial => exact absurd (h.first hsending hw) hmem
      | started => rfl
      | writeClosed => exact absurd hw hopen

theorem Sends.endedOpen {accepted sent : List WireMessage} {call : GrpcCall}
    (h : Sends accepted sent call) (hsending : call.sending = true)
    (hstarted : call.writeState = .started) (hclose : .sendClose ∉ call.lastSendContains) :
    Sends accepted sent (call.sentMessage true).sendDone := by
  have hc := sentMessage_completes call true
  have hframe := completes_frame hc
  have hsends : (call.sentMessage true).sendDone.sends = call.sends := by
    show (call.sentMessage true).transportOps.filterMap TransportStreamOp.sendOps = _
    rw [hframe]
    rfl
  have hpending : (call.sentMessage true).sendDone.pendingMessage = call.pendingMessage := by
    show (call.sentMessage true).pendingMessage = _
    rw [hframe]
    rfl
  have hsent : call.sends ≠ [] := by
    intro hnil
    have hno := (h.begun.mp hnil).2
    simp [hsending] at hno
  have hopen : call.writeState ≠ .writeClosed := by
    rw [hstarted]
    decide
  have hhealthy : Healthy call := by
    intro set hset
    cases hs : (call.groups.master set).success with
    | true => rfl
    | false => exact absurd (h.healthy set hset hs) hopen
  have hstill : Healthy (call.sentMessage true) ∧
      (call.sentMessage true).writeState = call.writeState := by
    unfold GrpcCall.sentMessage
    split
    · exact finishIoreqOp_healthy h.wellFormed hhealthy _
    · exact ⟨hhealthy, rfl⟩
  have hstarted' : (call.sentMessage true).sendDone.writeState = .started :=
    hstill.2.trans hstarted
  have hunsent : (call.sentMessage true).sendDone.unsent = call.unsent := by
    have hlive : (call.sentMessage true).sendDone.isOpLive .sendMessage =
        (call.isOpLive .sendMessage && decide (.sendMessage ∉ call.lastSendContains)) := by
      show (call.sentMessage true).isOpLive .sendMessage = _
      unfold GrpcCall.sentMessage
      split
      · next hmem => simp [finishIoreqOp_isOpLive h.wellFormed, hmem]
      · next hmem => simp [hmem]
    rw [unsent, unsent, hlive, hpending]
    simp [sendDone]
  have hwf := completes_wellFormed hc h.wellFormed
  constructor
  case wellFormed => exact hwf
  case client =>
      show (call.sentMessage true).isClient = true
      rw [hframe]
      exact h.client
  case wire =>
      rw [sentOps, hsends, ← sentOps]
      exact h.wire
  case begun =>
      rw [hsends, hstarted']
      exact iff_of_false hsent (by simp)
  case order =>
      rw [hsends]
      exact h.order
  case last =>
      rw [hsends]
      intro hl
      rcases h.last hl with hm | hw
      · exact absurd hm hclose
      · exact absurd hw hopen
  case sentPrefix => exact h.sentPrefix
  case waiting =>
      rw [hunsent]
      exact fun _ => h.waiting hopen
  case idle => exact fun _ => rfl
  case closed => exact fun _ => rfl
  case inFlight => exact fun hmem => absurd hmem (by simp [sendDone])
  case first => exact fun hs => absurd hs Bool.false_ne_true
  case metadata => exact fun hmem => absurd hmem (by simp [sendDone])
  case started =>
      intro _
      exact completes_isFinished hc h.wellFormed rfl (h.started (by rw [hstarted]; decide))
  case healthy =>
      intro set hset hfail
      exact absurd ((hstill.1 set hset).symm.trans hfail) (by decide)
  case data =>
      intro set hset
      rw [hpending]
      exact h.data set (completes_slot hc hset)

private theorem earlyOutWriteOps_writeClosed {call : GrpcCall}
    (h : call.writeState = .writeClosed) :
    call.earlyOutWriteOps.writeState = .writeClosed := by
  unfold GrpcCall.earlyOutWriteOps
  rw [h]
  exact finishIoreqOp_writeClosed _ _ (finishIoreqOp_writeClosed _ _ (finishIoreqOp_writeClosed _ _
    (finishIoreqOp_writeClosed _ _ (finishIoreqOp_writeClosed _ _ h))))

theorem Sends.sendEnded {accepted sent : List WireMessage} {call : GrpcCall}
    (h : Sends accepted sent call) (hsending : call.sending = true) (success : Bool) :
    Sends accepted sent (call.sendEnded success) := by
  have hfinished := h.sentMetadata_isFinished hsending success
  have hmetadata := call.sentMetadata_completes success
  have hmessage := (call.sentMetadata success).sentMessage_completes success
  have hclose := ((call.sentMetadata success).sentMessage success).sentClose_completes success
  have hmore := hmessage.trans hclose
  have hwf := completes_wellFormed hmetadata h.wellFormed
  cases success with
  | false =>
      have hend := hmore.write .writeClosed
      have hearly := earlyOutWriteOps_completes
        { ((call.sentMetadata false).sentMessage false).sentClose false with
          writeState := .writeClosed }
      refine h.endedClosed (c := call.finishSends false) hsending
        (call.finishSends_completes false) ?_ ?_
      · rw [finishSends_false]
        exact earlyOutWriteOps_writeClosed rfl
      · rw [finishSends_false]
        apply completes_isFinished hearly (completes_wellFormed hend hwf) rfl
        exact completes_isFinished hend hwf rfl hfinished
  | true =>
      obtain ⟨hsent, hstarted, hlast, hsending'⟩ := h.sentMetadata hsending
      by_cases hmem : .sendClose ∈ call.lastSendContains
      · refine h.endedClosed (c := call.finishSends true) hsending
          (call.finishSends_completes true) ?_ ?_
        · rw [finishSends_true]
          unfold GrpcCall.sentClose
          rw [if_pos]
          rw [completes_frame hmessage]
          show _ ∈ (call.sentMetadata true).lastSendContains
          rw [hlast]
          exact hmem
        · rw [finishSends_true]
          exact completes_isFinished hmore hwf rfl hfinished
      · have hshape : call.finishSends true = (call.sentMetadata true).sentMessage true := by
          rw [finishSends_true]
          unfold GrpcCall.sentClose
          rw [if_neg]
          rw [completes_frame hmessage]
          show _ ∉ (call.sentMetadata true).lastSendContains
          rw [hlast]
          exact hmem
        have hended : call.sendEnded true = ((call.sentMetadata true).sentMessage true).sendDone := by
          rw [← hshape]
          rfl
        rw [hended]
        exact hsent.endedOpen hsending' hstarted (hlast.symm ▸ hmem)

private theorem messageOps_eq {call : GrpcCall} (h : .sendMessage ∉ call.lastSendContains) :
    call.messageOps = call.unsent.flatMap WireMessage.frame := by
  unfold messageOps unsent pendingMessage
  cases hlive : call.isOpLive .sendMessage with
  | false => simp
  | true =>
      cases hdata : call.requestData .sendMessage with
      | sendMessage message => simp [h, WireMessage.frame, copyByteBufferToStreamOps,
          WireMessage.length, ByteBuffer.length]
      | _ => simp [h]

theorem fillMessageAndClose_filled (call : GrpcCall) (sent : Option SendOps)
    (hclient : call.isClient = true) :
    (call.fillMessageAndClose sent).1 =
        { call with lastSendContains := (call.fillMessageAndClose sent).1.lastSendContains } ∧
      (∀ op, op ∈ (call.fillMessageAndClose sent).1.lastSendContains ↔
        op ∈ call.lastSendContains ∨ op = .sendMessage ∧ call.isOpLive .sendMessage = true ∨
          op = .sendClose ∧ call.isOpLive .sendClose = true) ∧
      ∀ s, (call.fillMessageAndClose sent).2 = some s → s.ops = sendOpsOf sent ++ call.messageOps ∧
        (s.isLastSend = true → call.isOpLive .sendClose = true ∨
          ∃ s', sent = some s' ∧ s'.isLastSend = true) := by
  have htrailing : ∀ c : GrpcCall, c.isClient = true → c.trailingOps = [] := by
    intro c hc
    rw [trailingOps, if_pos hc]
  have hnone : call.isOpLive .sendMessage = false → call.messageOps = [] := by
    intro hlive
    unfold messageOps
    rw [hlive]
  have hsent : ∀ s, sent = some s → s.ops = sendOpsOf sent := by
    rintro s rfl
    rfl
  rw [fillMessageAndClose_eq]
  unfold fillMessage
  cases hmessage : call.isOpLive .sendMessage with
  | false =>
      rw [if_neg Bool.false_ne_true, hnone hmessage]
      dsimp only
      unfold fillClose
      cases hclose : call.isOpLive .sendClose with
      | false =>
          refine ⟨rfl, fun op => by simp, ?_⟩
          intro s hs
          rw [List.append_nil]
          exact ⟨hsent s hs, fun hl => Or.inr ⟨s, hs, hl⟩⟩
      | true =>
          refine ⟨rfl, fun op => by simp [or_comm], ?_⟩
          intro s hs
          simp only [if_true, Option.some.injEq] at hs
          subst hs
          simp [htrailing call hclient]
  | true =>
      rw [if_pos rfl]
      dsimp only
      have hlive : isOpLive
          { call with lastSendContains := insert .sendMessage call.lastSendContains } .sendClose =
          call.isOpLive .sendClose := rfl
      unfold fillClose
      rw [hlive]
      cases hclose : call.isOpLive .sendClose with
      | false =>
          refine ⟨rfl, fun op => by simp [or_comm], ?_⟩
          intro s hs
          simp only [Bool.false_eq_true, if_false, Option.some.injEq] at hs
          subst hs
          simp
      | true =>
          refine ⟨rfl, ?_, ?_⟩
          · intro op
            simp only [if_true, Finset.mem_insert, and_true]
            tauto
          intro s hs
          have hno := htrailing
            { call with lastSendContains := insert .sendMessage call.lastSendContains } hclient
          simp only [if_true, Option.some.injEq] at hs
          subst hs
          simp [hno, sendOpsOf]

/-- What starting a send does, if anything is sent. -/
structure Filled (call call' : GrpcCall) (s : SendOps) : Prop where
  frame : call' = { call with
    lastSendContains := call'.lastSendContains
    sendInitialMetadata := call'.sendInitialMetadata
    sending := true }
  idle : call.sending = false
  writable : call.writeState ≠ .writeClosed
  first : call.writeState = .initial → call.isOpLive .sendInitialMetadata = true
  ops : s.ops = (if call.writeState = .initial then call.initialOps else []) ++
    call.unsent.flatMap WireMessage.frame
  message : .sendMessage ∈ call'.lastSendContains ↔ call.isOpLive .sendMessage = true
  metadata : .sendInitialMetadata ∈ call'.lastSendContains ↔ call.writeState = .initial
  close : s.isLastSend = true → .sendClose ∈ call'.lastSendContains

private theorem startSend_filled {accepted sent : List WireMessage} {call : GrpcCall}
    (h : Sends accepted sent call) :
    call.startSend = (call, none) ∨
      ∃ s, call.startSend.2 = some s ∧ Filled call call.startSend.1 s := by
  cases hs : call.sending with
  | true =>
      left
      rw [startSend, hs, if_pos rfl]
  | false =>
      have hlast := h.idle hs
      have hsend : call.startSend =
          ({ call.fillSendOps.1 with sending := call.fillSendOps.2.isSome },
            call.fillSendOps.2) := by
        rw [startSend, hs, if_neg Bool.false_ne_true]
      cases hfill : call.fillSendOps.2 with
      | none =>
          left
          have hcall : ({ call with sending := false } : GrpcCall) = call := by
            rw [← hs]
          rw [hsend, (fillSendOps_none hfill).fillSendOps]
          exact congrArg (fun c => (c, none)) hcall
      | some s =>
          right
          rw [hsend]
          refine ⟨s, hfill, ?_⟩
          have hops := @messageOps_eq call (by rw [hlast]; simp)
          unfold fillSendOps at hfill ⊢
          cases hw : call.writeState with
          | initial =>
              rw [hw] at hfill
              dsimp only at hfill ⊢
              cases hlive : call.isOpLive .sendInitialMetadata with
              | false =>
                  rw [hlive] at hfill
                  simp at hfill
              | true =>
                  rw [hlive, if_pos rfl] at hfill
                  rw [if_pos rfl]
                  obtain ⟨hframe, hcontains, hfilled⟩ := fillMessageAndClose_filled
                    call.fillInitialMetadata (some ⟨call.initialOps, false⟩) h.client
                  obtain ⟨hs', hl⟩ := hfilled s hfill
                  have hcontains' : ∀ op, op ∈ (call.fillInitialMetadata.fillMessageAndClose
                      (some ⟨call.initialOps, false⟩)).1.lastSendContains ↔
                      op = .sendInitialMetadata ∨
                        op = .sendMessage ∧ call.isOpLive .sendMessage = true ∨
                        op = .sendClose ∧ call.isOpLive .sendClose = true := by
                    intro op
                    refine (hcontains op).trans ?_
                    simp only [fillInitialMetadata, hlast]
                    simp [isOpLive]
                  have hmessages : call.fillInitialMetadata.messageOps = call.messageOps := rfl
                  rw [hmessages, hops] at hs'
                  constructor
                  case frame =>
                      rw [hframe, hfill]
                      rfl
                  case idle => exact hs
                  case writable => simp [hw]
                  case first => exact fun _ => hlive
                  case ops =>
                      rw [hs', hw, if_pos rfl]
                      rfl
                  case message =>
                      rw [hcontains']
                      simp
                  case metadata =>
                      rw [hcontains', hw]
                      simp
                  case close =>
                      intro hlast'
                      rw [hcontains']
                      rcases hl hlast' with hc | ⟨s', hs', hl'⟩
                      · exact Or.inr (Or.inr ⟨rfl, hc⟩)
                      · cases hs'
                        exact absurd hl' Bool.false_ne_true
          | started =>
              rw [hw] at hfill
              dsimp only at hfill ⊢
              obtain ⟨hframe, hcontains, hfilled⟩ := fillMessageAndClose_filled call none h.client
              obtain ⟨hs', hl⟩ := hfilled s hfill
              rw [hops] at hs'
              constructor
              case frame =>
                  rw [hframe, hfill]
                  rfl
              case idle => exact hs
              case writable => simp [hw]
              case first => simp [hw]
              case ops =>
                  rw [hs', hw]
                  rfl
              case message =>
                  rw [hcontains, hlast]
                  simp
              case metadata =>
                  rw [hcontains, hlast, hw]
                  simp
              case close =>
                  intro hlast'
                  rw [hcontains]
                  rcases hl hlast' with hc | ⟨s', hs', _⟩
                  · exact Or.inr (Or.inr ⟨rfl, hc⟩)
                  · cases hs'
          | writeClosed =>
              rw [hw] at hfill
              simp at hfill

theorem Sends.filled {accepted sent : List WireMessage} {call c : GrpcCall} {s : SendOps}
    (h : Sends accepted sent call) (hf : Filled call c s) (cancelWithStatus : StatusCode)
    (maxRecvBytes : Option UInt32) :
    Sends accepted (sent ++ call.unsent)
      { c with transportOps := call.transportOps ++ [⟨cancelWithStatus, maxRecvBytes, some s⟩] } := by
  have hsends : sends { c with
      transportOps := call.transportOps ++ [⟨cancelWithStatus, maxRecvBytes, some s⟩] } =
      call.sends ++ [s] := by
    simp [sends]
  have hsentOps : sentOps { c with
      transportOps := call.transportOps ++ [⟨cancelWithStatus, maxRecvBytes, some s⟩] } =
      call.sentOps ++ s.ops := by
    rw [sentOps, hsends, sentOps]
    simp
  have hnone := h.idle hf.idle
  have hopen : ∀ s' ∈ call.sends, s'.isLastSend = false := by
    intro s' hs'
    cases hl : s'.isLastSend with
    | false => rfl
    | true =>
        rcases h.last ⟨s', hs', hl⟩ with hmem | hclosed
        · simp [hnone] at hmem
        · exact absurd hclosed hf.writable
  have hwait := h.waiting hf.writable
  rw [hf.frame] at hsends hsentOps ⊢
  have hlive : ∀ op, isOpLive { call with
      lastSendContains := c.lastSendContains
      sendInitialMetadata := c.sendInitialMetadata
      sending := true
      transportOps := call.transportOps ++ [⟨cancelWithStatus, maxRecvBytes, some s⟩] } op =
      call.isOpLive op := fun _ => rfl
  constructor
  case wellFormed => exact h.wellFormed
  case client => exact h.client
  case wire =>
      rw [hsentOps, hf.ops]
      rcases h.wire with ⟨hnil, hsent⟩ | ⟨batch, hwire⟩
      · have hi := (h.begun.mp hnil).1
        right
        rw [if_pos hi, hsent, sentOps, hnil]
        exact ⟨_, rfl⟩
      · have hne : call.sends ≠ [] := by
          intro hnil
          rw [sentOps, hnil] at hwire
          simp at hwire
        have hi : call.writeState ≠ .initial := fun hi => hne (h.begun.mpr ⟨hi, hf.idle⟩)
        right
        refine ⟨batch, ?_⟩
        rw [if_neg hi, hwire, List.flatMap_append]
        rfl
  case begun =>
      rw [hsends]
      simp
  case order =>
      rw [hsends, List.pairwise_append]
      refine ⟨h.order, List.pairwise_singleton _ _, ?_⟩
      intro s' hs' _ _
      exact hopen s' hs'
  case last =>
      rw [hsends]
      rintro ⟨s', hs', hl⟩
      rcases List.mem_append.mp hs' with hs' | hs'
      · rw [hopen s' hs'] at hl
        exact absurd hl Bool.false_ne_true
      · rw [List.mem_singleton.mp hs'] at hl
        exact Or.inl (hf.close hl)
  case sentPrefix => rw [hwait]
  case waiting =>
      intro _
      have hunsent : unsent { call with
          lastSendContains := c.lastSendContains
          sendInitialMetadata := c.sendInitialMetadata
          sending := true
          transportOps := call.transportOps ++ [⟨cancelWithStatus, maxRecvBytes, some s⟩] } = [] := by
        rw [unsent, hlive, if_neg]
        rintro ⟨hl, hno⟩
        exact hno (hf.message.mpr hl)
      rw [hunsent, List.append_nil]
      exact hwait
  case idle => exact fun hno => absurd hno (by simp)
  case closed => exact fun hclosed => absurd hclosed hf.writable
  case inFlight => exact fun hmem => hf.message.mp hmem
  case first => exact fun _ hi => hf.metadata.mpr hi
  case metadata => exact fun hmem => Or.inl (hf.first (hf.metadata.mp hmem))
  case started => exact h.started
  case healthy => exact h.healthy
  case data => exact h.data

private theorem startRecv_sends (call : GrpcCall) : SameSends call call.startRecv.1 := by
  rcases call.startRecv_cases with ⟨_, _, _, h⟩ | ⟨_, h⟩ <;> rw [h] <;> constructor <;> rfl

theorem Sends.unlock {accepted sent : List WireMessage} {call : GrpcCall}
    (h : Sends accepted sent call) : ∃ sent', Sends accepted sent' call.unlock := by
  have hreset : Sends accepted sent { call with cancelWithStatus := .ok } :=
    h.congr ⟨rfl, rfl, rfl, rfl, rfl, rfl, rfl, rfl⟩
  have hsame := startRecv_sends { call with cancelWithStatus := .ok }
  have hc := hreset.congr hsame
  unfold GrpcCall.unlock
  dsimp only
  generalize (startRecv { call with cancelWithStatus := .ok }).2 = recv
  generalize (startRecv { call with cancelWithStatus := .ok }).1 = c at hc
  rcases startSend_filled hc with hnone | ⟨s, hs, hf⟩
  · rw [hnone]
    refine ⟨sent, ?_⟩
    have hsends : sends (flushCompleted { c with transportOps := c.transportOps ++
        if call.cancelWithStatus != .ok || recv.isSome || (none : Option SendOps).isSome then
          [⟨call.cancelWithStatus, recv, none⟩] else [] }) = c.sends := by
      rw [sends, sends, flushCompleted]
      dsimp only
      rw [List.filterMap_append]
      split <;> simp
    constructor
    case wellFormed => exact hc.wellFormed
    case client => exact hc.client
    case wire =>
        rw [sentOps, hsends]
        exact hc.wire
    case begun =>
        rw [hsends]
        exact hc.begun
    case order =>
        rw [hsends]
        exact hc.order
    case last =>
        rw [hsends]
        exact hc.last
    case sentPrefix => exact hc.sentPrefix
    case waiting => exact hc.waiting
    case idle => exact hc.idle
    case closed => exact hc.closed
    case inFlight => exact hc.inFlight
    case first => exact hc.first
    case metadata => exact hc.metadata
    case started => exact hc.started
    case healthy => exact hc.healthy
    case data => exact hc.data
  · refine ⟨sent ++ c.unsent, ?_⟩
    have hfilled := hc.filled hf call.cancelWithStatus recv
    refine hfilled.congr ?_
    have htransport : c.startSend.1.transportOps = c.transportOps := by
      rw [hf.frame]
    rw [hs]
    simp only [Option.isSome_some, Bool.or_true, if_true, htransport]
    constructor <;> rfl

theorem Sends.unlock_cases {accepted sent : List WireMessage} {call : GrpcCall}
    (h : Sends accepted sent call) :
    (call.unlock.sends = call.sends ∧
      call.unlock.sendInitialMetadata = call.sendInitialMetadata) ∨
    ∃ s, call.unlock.sends = call.sends ++ [s] ∧ call.sending = false ∧
      (call.writeState = .initial → call.isOpLive .sendInitialMetadata = true) ∧
      s.ops = (if call.writeState = .initial then call.initialOps else []) ++
        call.unsent.flatMap WireMessage.frame := by
  have hreset : Sends accepted sent { call with cancelWithStatus := .ok } :=
    h.congr ⟨rfl, rfl, rfl, rfl, rfl, rfl, rfl, rfl⟩
  obtain ⟨c, recv, hrecv, hframe⟩ : ∃ c recv,
      startRecv { call with cancelWithStatus := .ok } = (c, recv) ∧
        c = { call with cancelWithStatus := .ok, receiving := c.receiving } := by
    rcases startRecv_cases { call with cancelWithStatus := .ok } with ⟨_, _, _, hr⟩ | ⟨_, hr⟩
    · exact ⟨_, _, hr, rfl⟩
    · exact ⟨_, _, hr, rfl⟩
  have hc : Sends accepted sent c := by
    rw [hframe]
    exact hreset.congr ⟨rfl, rfl, rfl, rfl, rfl, rfl, rfl, rfl⟩
  have hsame : c.sends = call.sends ∧ c.sendInitialMetadata = call.sendInitialMetadata := by
    rw [hframe]
    exact ⟨rfl, rfl⟩
  unfold GrpcCall.unlock
  dsimp only
  rw [hrecv]
  dsimp only
  rcases startSend_filled hc with hnone | ⟨s, hs, hf⟩
  · left
    rw [hnone, ← hsame.1, ← hsame.2]
    refine ⟨?_, rfl⟩
    rw [sends, sends, flushCompleted]
    dsimp only
    rw [List.filterMap_append]
    split <;> simp
  · right
    have htransport : c.startSend.1.transportOps = c.transportOps := by
      rw [hf.frame]
    have hidle := hf.idle
    have hfirst := hf.first
    have hops := hf.ops
    refine ⟨s, ?_, ?_, ?_, ?_⟩
    · rw [← hsame.1, sends, sends, flushCompleted, hs]
      dsimp only
      rw [List.filterMap_append, htransport]
      simp
    · rw [hframe] at hidle
      exact hidle
    · rw [hframe] at hfirst
      exact hfirst
    · rw [hframe] at hops
      exact hops

theorem rewriteOp_message {call : GrpcCall} {o : BatchOp} {reqs : List Ioreq}
    (h : call.rewriteOp o = .ok reqs) :
    reqs.filterMap Ioreq.message = (BatchOp.message o).toList ∧
      ∀ req ∈ reqs, req.op = .sendMessage → ∃ message, req.data = .sendMessage message := by
  rcases o with ⟨op, flags⟩
  unfold rewriteOp at h
  repeat' split at h
  all_goals cases h
  all_goals simp_all [Ioreq.message, BatchOp.message]

theorem rewriteOps_filterMap {β : Type} {f : Ioreq → Option β} {g : BatchOp → Option β}
    {P : Ioreq → Prop} {call : GrpcCall}
    (hone : ∀ o reqs, call.rewriteOp o = .ok reqs →
      reqs.filterMap f = (g o).toList ∧ ∀ req ∈ reqs, P req)
    {ops : List BatchOp} {before reqs : List Ioreq} (hbefore : ∀ req ∈ before, P req)
    (h : call.rewriteOps before ops = .ok reqs) :
    reqs.filterMap f = before.filterMap f ++ ops.filterMap g ∧ ∀ req ∈ reqs, P req := by
  induction ops generalizing before with
  | nil =>
      cases h
      simpa using hbefore
  | cons o ops ih =>
      unfold rewriteOps at h
      split at h
      · cases h
      · next more hmore =>
          split at h
          · cases h
          · obtain ⟨hkept, hdata⟩ := hone o more hmore
            obtain ⟨hall, hreqs⟩ := ih (by
              intro req hreq
              rcases List.mem_append.mp hreq with hreq | hreq
              · exact hbefore req hreq
              · exact hdata req hreq) h
            refine ⟨?_, hreqs⟩
            rw [hall, List.filterMap_append, hkept, List.append_assoc]
            cases hg : g o <;> simp [hg]

theorem filterMap_request {β : Type} {f : Ioreq → Option β} {op : IoreqOp}
    (hother : ∀ req : Ioreq, req.op ≠ op → f req = none) {reqs : List Ioreq}
    (hnodup : (reqs.map Ioreq.op).Nodup) {req : Ioreq} (hreq : req ∈ reqs) (hop : req.op = op) :
    reqs.filterMap f = (f req).toList := by
  induction reqs with
  | nil => exact absurd hreq List.not_mem_nil
  | cons r reqs ih =>
      rw [List.map_cons, List.nodup_cons] at hnodup
      rcases List.mem_cons.mp hreq with rfl | hreq
      · have hrest : reqs.filterMap f = [] := by
          rw [List.filterMap_eq_nil_iff]
          intro r' hr'
          apply hother
          intro hr
          exact hnodup.1 (List.mem_map.mpr ⟨r', hr', hr.trans hop.symm⟩)
        cases hm : f req <;> simp [hm, hrest]
      · have hne : r.op ≠ op := by
          intro hr
          exact hnodup.1 (List.mem_map.mpr ⟨req, hreq, hop.trans hr.symm⟩)
        rw [List.filterMap_cons_none (hother r hne)]
        exact ih hnodup.2 hreq

private theorem Ioreq.message_of_ne (req : Ioreq) (h : req.op ≠ .sendMessage) :
    req.message = none := by
  unfold Ioreq.message
  split
  · next hop _ => exact absurd hop h
  · rfl

section Opened

variable {call c : GrpcCall} {reqs : List Ioreq} {set : IoreqOp} {haveOps : Finset IoreqOp}

theorem Started.stored (hs : Started call reqs set haveOps c) {op : IoreqOp}
    (hmem : op ∈ haveOps) : ∃ req ∈ reqs, req.op = op ∧ c.requestData op = req.data ∧
      c.requestFlags op = req.flags := by
  obtain ⟨req, hreq, hop⟩ := (hs.ops op).mp hmem
  have hd := hs.data req hreq
  rw [hop] at hd
  exact ⟨req, hreq, hop, hd⟩

theorem Started.filterMap_of_notMem {β : Type} {f : Ioreq → Option β} {op : IoreqOp}
    (hs : Started call reqs set haveOps c) (hother : ∀ req : Ioreq, req.op ≠ op → f req = none)
    (hmem : op ∉ haveOps) : reqs.filterMap f = [] := by
  rw [List.filterMap_eq_nil_iff]
  intro req hreq
  exact hother req fun hop => hmem ((hs.ops op).mpr ⟨req, hreq, hop⟩)

private theorem Started.pendingMessage (hs : Started call reqs set haveOps c)
    (hnodup : (reqs.map Ioreq.op).Nodup)
    (hdata : ∀ req ∈ reqs, req.op = .sendMessage → ∃ message, req.data = .sendMessage message)
    (hmem : .sendMessage ∈ haveOps) :
    ∃ m, reqs.filterMap Ioreq.message = [m] ∧ c.pendingMessage = some m := by
  obtain ⟨req, hreq, hop, hd, hflags⟩ := hs.stored hmem
  obtain ⟨message, hmessage⟩ := hdata req hreq hop
  refine ⟨⟨req.flags, message.slices⟩, ?_, ?_⟩
  · rw [filterMap_request Ioreq.message_of_ne hnodup hreq hop]
    simp [Ioreq.message, hop, hmessage]
  · rw [GrpcCall.pendingMessage, hd, hflags, hmessage]

private theorem Started.pendingMessage_of_notMem (hs : Started call reqs set haveOps c)
    (hmem : .sendMessage ∉ haveOps) : c.pendingMessage = call.pendingMessage := by
  have hd := hs.claimed.data _ hmem
  rw [GrpcCall.pendingMessage, GrpcCall.pendingMessage, hd.1, hd.2]

private theorem Started.opened_failed (hs : Started call reqs set haveOps c) (tag : BatchTag)
    {l : IoreqOp} (hl : (c.opened set haveOps tag).groups.slot l = .group l)
    (hfail : ((c.opened set haveOps tag).groups.master l).success = false) :
    call.groups.slot l = .group l ∧ (call.groups.master l).success = false := by
  have hslot : (c.opened set haveOps tag).groups.slot l =
      if l ∈ haveOps then .group set else call.groups.slot l := hs.claimed.slots l
  have hne : l ≠ set := by
    rintro rfl
    have hnew : ((c.opened l haveOps tag).groups.master l).success = true := by
      show ((c.groups.setUp l haveOps tag).master l).success = true
      simp [Groups.setUp]
    simp [hnew] at hfail
  have hmaster : (c.opened set haveOps tag).groups.master l = call.groups.master l := by
    show (c.groups.setUp set haveOps tag).master l = _
    simp [Groups.setUp, hne, hs.claimed.master]
  rw [hslot] at hl
  rw [hmaster] at hfail
  split at hl
  · exact absurd (Slot.group.inj hl).symm hne
  · exact ⟨hl, hfail⟩

private theorem Sends.opened_unsent {accepted sent : List WireMessage}
    (h : Sends accepted sent call)
    (hs : Started call reqs set haveOps c) (hclient : call.groups.slot .sendStatus = .done)
    (hnodup : (reqs.map Ioreq.op).Nodup)
    (hdata : ∀ req ∈ reqs, req.op = .sendMessage → ∃ message, req.data = .sendMessage message)
    (tag : BatchTag) :
    (c.opened set haveOps tag).unsent = call.unsent ++ reqs.filterMap Ioreq.message := by
  have hlast : (c.opened set haveOps tag).lastSendContains = call.lastSendContains := by
    rw [hs.opened_eq hclient tag]
  have hpending : (c.opened set haveOps tag).pendingMessage = c.pendingMessage := rfl
  rw [unsent, unsent, hs.opened_isOpLive h.wellFormed tag, hlast, hpending]
  by_cases hmem : .sendMessage ∈ haveOps
  · obtain ⟨m, hm, hnew⟩ := hs.pendingMessage hnodup hdata hmem
    have hdead : call.isOpLive .sendMessage = false := by
      have hfree := hs.claimed.free _ hmem
      simp [isOpLive, Groups.isLive, hfree]
    have hno : .sendMessage ∉ call.lastSendContains := by
      intro hin
      have hl := h.inFlight hin
      simp [hdead] at hl
    simp [hmem, hdead, hno, hm, hnew]
  · rw [hs.pendingMessage_of_notMem hmem, hs.filterMap_of_notMem Ioreq.message_of_ne hmem]
    simp [hmem]

theorem Sends.opened {accepted sent : List WireMessage} (h : Sends accepted sent call)
    (hs : Started call reqs set haveOps c) (hclient : call.groups.slot .sendStatus = .done)
    (hnodup : (reqs.map Ioreq.op).Nodup)
    (hdata : ∀ req ∈ reqs, req.op = .sendMessage → ∃ message, req.data = .sendMessage message)
    (tag : BatchTag) :
    Sends (accepted ++ reqs.filterMap Ioreq.message) sent (c.opened set haveOps tag) := by
  have hwf : (c.opened set haveOps tag).groups.WellFormed :=
    h.wellFormed.setUp tag hs.leader hs.claimed.free hs.claimed.slots hs.claimed.master
  have hlive := hs.opened_isOpLive h.wellFormed tag
  have hfinished := hs.opened_isFinished h.wellFormed tag
  have heq := hs.opened_eq hclient tag
  have hlast : (c.opened set haveOps tag).lastSendContains = call.lastSendContains := by
    rw [heq]
  have hwrite : (c.opened set haveOps tag).writeState = call.writeState := by
    rw [heq]
  have hsending : (c.opened set haveOps tag).sending = call.sending := by
    rw [heq]
  have hsends : (c.opened set haveOps tag).sends = call.sends := by
    rw [heq]
    rfl
  constructor
  case wellFormed => exact hwf
  case client =>
      rw [heq]
      exact h.client
  case wire =>
      rw [sentOps, hsends, ← sentOps]
      exact h.wire
  case begun =>
      rw [hsends, hwrite, hsending]
      exact h.begun
  case order =>
      rw [hsends]
      exact h.order
  case last =>
      rw [hsends, hlast, hwrite]
      exact h.last
  case sentPrefix => exact h.sentPrefix.trans (List.prefix_append _ _)
  case waiting =>
      rw [hwrite, h.opened_unsent hs hclient hnodup hdata]
      intro hopen
      rw [h.waiting hopen, List.append_assoc]
  case idle =>
      rw [hsending, hlast]
      exact h.idle
  case closed =>
      rw [hwrite, hsending]
      exact h.closed
  case inFlight =>
      rw [hlast, hlive]
      intro hmem
      rw [h.inFlight hmem, Bool.or_true]
  case first =>
      rw [hsending, hwrite, hlast]
      exact h.first
  case metadata =>
      rw [hlast, hlive, hfinished]
      intro hmem
      rcases h.metadata hmem with hl | hf
      · exact Or.inl (by rw [hl, Bool.or_true])
      · exact Or.inr hf
  case started =>
      rw [hwrite, hfinished]
      exact h.started
  case healthy =>
      intro l hl hfail
      obtain ⟨hl, hfail⟩ := hs.opened_failed tag hl hfail
      rw [hwrite]
      exact h.healthy l hl hfail
  case data =>
      intro l hl
      have hpending : (c.opened set haveOps tag).pendingMessage = c.pendingMessage := rfl
      have hslot := hs.claimed.slots .sendMessage
      rw [hpending]
      by_cases hmem : .sendMessage ∈ haveOps
      · obtain ⟨m, _, hnew⟩ := hs.pendingMessage hnodup hdata hmem
        simp [hnew]
      · rw [hs.pendingMessage_of_notMem hmem]
        apply h.data l
        rw [if_neg hmem] at hslot
        exact hslot.symm.trans hl

end Opened

theorem Sends.startIoreq {accepted sent : List WireMessage} {call : GrpcCall}
    (h : Sends accepted sent call) (hclient : call.groups.slot .sendStatus = .done)
    {reqs : List Ioreq} (tag : BatchTag) (hreqs : reqs ≠ [])
    (hdata : ∀ req ∈ reqs, req.op = .sendMessage → ∃ message, req.data = .sendMessage message) :
    Sends (accepted ++ if (call.startIoreq reqs tag).2 = .ok then
        reqs.filterMap Ioreq.message else []) sent (call.startIoreq reqs tag).1 := by
  have hok := call.startIoreq_ok_iff reqs tag
  rcases call.startIoreq_cases reqs tag hreqs with
    ⟨set, haveOps, c, hs, hstart⟩ | ⟨set, haveOps, c, e, hc, he, hstart⟩
  · rw [hstart] at hok ⊢
    rw [if_pos rfl]
    exact (h.opened hs hclient (hok.mp rfl).1 hdata tag).finishReadOps.earlyOutWriteOps
  · rw [hstart, if_neg he, List.append_nil]
    have hrest : ({ c with groups := call.groups } : GrpcCall) =
        { call with requestData := c.requestData, requestFlags := c.requestFlags } := by
      rw [hc.rest hclient]
    dsimp only
    rw [hrest]
    -- a message operation that was claimed was free
    have hpending : ∀ set, call.groups.slot .sendMessage = .group set →
        pendingMessage { call with requestData := c.requestData, requestFlags := c.requestFlags } =
          call.pendingMessage := by
      intro s hslot
      have hnew : .sendMessage ∉ haveOps := by
        intro hmem
        rw [hc.free _ hmem] at hslot
        simp at hslot
      have hd := hc.data _ hnew
      rw [pendingMessage, pendingMessage]
      dsimp only
      rw [hd.1, hd.2]
    have hunsent : unsent { call with
        requestData := c.requestData, requestFlags := c.requestFlags } = call.unsent := by
      rw [unsent, unsent]
      cases hl : call.isOpLive .sendMessage with
      | false =>
          have hl' : isOpLive { call with
              requestData := c.requestData, requestFlags := c.requestFlags } .sendMessage = false :=
            hl
          rw [hl']
          simp
      | true =>
          obtain ⟨s, hslot, _⟩ := Groups.isLive_iff.mp hl
          have hl' : isOpLive { call with
              requestData := c.requestData, requestFlags := c.requestFlags } .sendMessage = true :=
            hl
          rw [hl', hpending s hslot]
    constructor
    case wellFormed => exact h.wellFormed
    case client => exact h.client
    case wire => exact h.wire
    case begun => exact h.begun
    case order => exact h.order
    case last => exact h.last
    case sentPrefix => exact h.sentPrefix
    case waiting =>
        rw [hunsent]
        exact h.waiting
    case idle => exact h.idle
    case closed => exact h.closed
    case inFlight => exact h.inFlight
    case first => exact h.first
    case metadata => exact h.metadata
    case started => exact h.started
    case healthy => exact h.healthy
    case data =>
        intro s hslot
        rw [hpending s hslot]
        exact h.data s hslot

theorem cancel_sends (call : GrpcCall) (status : StatusCode) (description : Option Bytes) :
    SameSends call (call.cancel status description) := by
  have h := call.cancel_same status description
  exact ⟨h.isClient, h.writeState, h.sending, h.lastSendContains, h.groups, h.requestData,
    h.requestFlags, h.transportOps⟩

theorem SameRequests.sends {c c' : GrpcCall} (h : SameRequests c c') : SameSends c c' :=
  ⟨h.isClient, h.writeState, h.sending, h.lastSendContains, h.groups, h.requestData,
    h.requestFlags, h.transportOps⟩

theorem step_sends {accepted sent : List WireMessage} {call call' : GrpcCall} {e : CallEvent}
    (hclient : call.groups.slot .sendStatus = .done) (h : Sends accepted sent call)
    (he : NotFailed e) (hstep : call.step e = .ok call') :
    ∃ sent', Sends (accepted ++ call.acceptedMessages e) sent' call' := by
  have hkept : ∀ {sent : List WireMessage} {c : GrpcCall}, Sends accepted sent c →
      Sends (accepted ++ []) sent c := by
    intro sent c hc
    rwa [List.append_nil]
  have hidle : ∀ {c : GrpcCall}, SameSends call c → Sends accepted sent c := fun hs => h.congr hs
  have hbatch : ∀ ops tag, e = .startBatch ops tag →
      ∃ sent', Sends (accepted ++ call.acceptedMessages e) sent' call' := by
    intro ops tag he'
    subst he'
    rw [← Except.ok.inj hstep]
    simp only [acceptedMessages, acceptedParts]
    rcases call.startBatch_cases ops tag with
      ⟨hops, hb⟩ | ⟨e, hne, hreqs, hb⟩ | ⟨reqs, hne, hreqs, hb⟩
    · subst hops
      rw [hb]
      refine ⟨sent, ?_⟩
      simp only [if_true, List.filterMap_nil, List.append_nil]
      exact hidle ⟨rfl, rfl, rfl, rfl, rfl, rfl, rfl, rfl⟩
    · rw [hb, if_neg hne]
      exact ⟨sent, hkept h⟩
    · obtain ⟨hmessages, hdata⟩ := rewriteOps_filterMap (fun _ _ => rewriteOp_message) (by simp) hreqs
      have hstarted := (h.startIoreq hclient (batchTag ops tag) hne hdata).unlock
      rw [hmessages, List.filterMap_nil, List.nil_append] at hstarted
      rw [hb]
      exact hstarted
  have hdone : ∀ {c : GrpcCall}, Sends accepted sent c →
      ∃ sent', Sends (accepted ++ []) sent' c.unlock := by
    intro c hc
    obtain ⟨sent', hs⟩ := hc.unlock
    exact ⟨sent', hkept hs⟩
  cases step_cases hstep with
  | emptyBatch tag => exact hbatch _ _ rfl
  | malformedBatch ops tag => exact hbatch _ _ rfl
  | batch ops tag => exact hbatch _ _ rfl
  | sent success hsending => exact hdone (h.sendEnded hsending success)
  | received ops state c c' _ hops hstate =>
      have hrecv : SameSends call call.recvEnded := ⟨rfl, rfl, rfl, rfl, rfl, rfl, rfl, rfl⟩
      have hc := ((hidle hrecv).congr (recvStreamOps_same hops).sends).congr
        (recvStreamState_same hstate).sends
      exact hdone hc.finishReadOps
  | recvFailed => exact absurd he Bool.false_ne_true
  | cancelled status description => exact hdone (hidle (call.cancel_sends status description))
  | deadlineExceeded =>
      have halarm : Sends accepted sent call.alarmEnded :=
        hidle ⟨rfl, rfl, rfl, rfl, rfl, rfl, rfl, rfl⟩
      exact hdone (halarm.congr (cancel_sends _ _ _)).finishReadOps
  | alarmCancelled =>
      have halarm : Sends accepted sent call.alarmEnded :=
        hidle ⟨rfl, rfl, rfl, rfl, rfl, rfl, rfl, rfl⟩
      exact hdone halarm.finishReadOps
  | destroyedClosed => exact hdone (hidle ⟨rfl, rfl, rfl, rfl, rfl, rfl, rfl, rfl⟩)
  | destroyed =>
      have hd : Sends accepted sent call.destroyStarted :=
        hidle ⟨rfl, rfl, rfl, rfl, rfl, rfl, rfl, rfl⟩
      obtain ⟨sent', hs⟩ := hd.unlock
      obtain ⟨sent'', hs'⟩ := (hs.congr (cancel_sends _ _ _)).unlock
      exact ⟨sent'', hkept hs'⟩

theorem create_sends (maxMessageLength : UInt32) (sendInitialMetadata : List Metadata)
    (sendDeadline : Bool) :
    Sends [] [] (create true maxMessageLength sendInitialMetadata sendDeadline) := by
  have hslot : ∀ op l, (create true maxMessageLength sendInitialMetadata
      sendDeadline).groups.slot op ≠ .group l := by
    intro op l
    simp only [create]
    split <;> simp
  constructor
  case wellFormed => exact (create_accounts _ _ _ _).1
  case client => rfl
  case wire => exact Or.inl ⟨rfl, rfl⟩
  case begun => exact iff_of_true rfl ⟨rfl, rfl⟩
  case order => exact List.Pairwise.nil
  case last =>
      rintro ⟨s, hs, _⟩
      exact absurd hs List.not_mem_nil
  case sentPrefix => exact List.prefix_rfl
  case waiting => exact fun _ => rfl
  case idle => exact fun _ => rfl
  case closed => exact fun hno => absurd hno (by simp [create])
  case inFlight => exact fun hmem => absurd hmem (by simp [create])
  case first => exact fun hno => absurd hno Bool.false_ne_true
  case metadata => exact fun hmem => absurd hmem (by simp [create])
  case started => exact fun hno => absurd rfl hno
  case healthy => exact fun l hl => absurd hl (hslot l l)
  case data => exact fun l hl => absurd hl (hslot _ l)

theorem run_sends {maxMessageLength : UInt32} {sendInitialMetadata : List Metadata}
    {sendDeadline : Bool} {events : List CallEvent} {call : GrpcCall}
    (h : EventRun.run step (create true maxMessageLength sendInitialMetadata sendDeadline)
      events = .ok call) (hreceives : ∀ e ∈ events, NotFailed e) :
    ∃ sent, Sends (EventRun.trace step acceptedMessages
      (create true maxMessageLength sendInitialMetadata sendDeadline) events) sent call := by
  have hrun : call.groups.slot .sendStatus = .done ∧ ∃ sent, Sends ([] ++ EventRun.trace step
      acceptedMessages (create true maxMessageLength sendInitialMetadata sendDeadline) events)
      sent call := EventRun.run_trace_invariant_of (P := NotFailed)
    (I := fun accepted c => c.groups.slot .sendStatus = .done ∧ ∃ sent, Sends accepted sent c)
    (fun past s e s' hs he hstep =>
      ⟨step_done hs.1 hstep, hs.2.elim fun sent hsent => step_sends hs.1 hsent he hstep⟩)
    ⟨rfl, [], create_sends maxMessageLength sendInitialMetadata sendDeadline⟩ hreceives h
  exact hrun.2

end GrpcCall

end CrowdSound.Core
