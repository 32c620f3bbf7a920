import CrowdSound.Service.GRXWriteable

/-!
# The concurrent writeable

The RPC layer reports to a writeable through a wrapper that enqueues each message on the main
queue. Whatever is enqueued or cancelled, in whatever order and however the blocks interleave,
the wrapped writeable receives values followed by at most one finish.
-/

namespace CrowdSound

variable {ρ : Type}

/-- A block waiting on the main queue. A cancellation captures the writeable it took away. -/
inductive WriteableBlock (ρ : Type) where
  | value (value : ρ)
  | successfulCompletion
  | cancellation (writeable : Bool) (error : NSError)

/-- A cancellation that still holds the writeable will finish it. -/
def WriteableBlock.finishes : WriteableBlock ρ → Bool
  | .cancellation writeable _ => writeable
  | _ => false

/-- `sent` lists the messages the wrapped writeable has received. -/
structure GRXConcurrentWriteable (ρ : Type) where
  writeable : Bool
  alreadyFinished : Bool
  writeableQueue : List (WriteableBlock ρ)
  sent : List (GRXMessage ρ)

inductive WrapperEvent (ρ : Type) where
  | enqueueValue (value : ρ)
  | enqueueSuccessfulCompletion
  | cancelWithError (error : NSError)
  | cancelSilently
  | mainQueue

namespace GRXConcurrentWriteable

def initWithWriteable : GRXConcurrentWriteable ρ := ⟨true, false, [], []⟩

def enqueueValue (c : GRXConcurrentWriteable ρ) (value : ρ) : GRXConcurrentWriteable ρ :=
  { c with writeableQueue := c.writeableQueue ++ [.value value] }

def enqueueSuccessfulCompletion (c : GRXConcurrentWriteable ρ) : GRXConcurrentWriteable ρ :=
  { c with writeableQueue := c.writeableQueue ++ [.successfulCompletion] }

def cancelWithError (c : GRXConcurrentWriteable ρ) (error : NSError) :
    GRXConcurrentWriteable ρ :=
  if c.alreadyFinished then c
  else { c with
    alreadyFinished := true
    writeable := false
    writeableQueue := c.writeableQueue ++ [.cancellation c.writeable error] }

def cancelSilently (c : GRXConcurrentWriteable ρ) : GRXConcurrentWriteable ρ :=
  if c.alreadyFinished then c else { c with alreadyFinished := true, writeable := false }

/-- What a block does when the main queue runs it. -/
def runBlock (c : GRXConcurrentWriteable ρ) : WriteableBlock ρ → GRXConcurrentWriteable ρ
  | .value value =>
    if c.writeable then { c with sent := c.sent ++ [.writeValue value] } else c
  | .successfulCompletion =>
    if c.alreadyFinished then c
    else { c with
      alreadyFinished := true
      writeable := false
      sent := if c.writeable then c.sent ++ [.writesFinishedWithError none] else c.sent }
  | .cancellation writeable error =>
    if writeable then { c with sent := c.sent ++ [.writesFinishedWithError (some error)] } else c

def step (c : GRXConcurrentWriteable ρ) : WrapperEvent ρ → GRXConcurrentWriteable ρ
  | .enqueueValue value => c.enqueueValue value
  | .enqueueSuccessfulCompletion => c.enqueueSuccessfulCompletion
  | .cancelWithError error => c.cancelWithError error
  | .cancelSilently => c.cancelSilently
  | .mainQueue => match c.writeableQueue with
    | [] => c
    | block :: rest => { c with writeableQueue := rest }.runBlock block

def pendingFinishes (c : GRXConcurrentWriteable ρ) : Nat :=
  c.writeableQueue.countP WriteableBlock.finishes

/-- Only values were sent, and one finish can follow once the writeable is gone. -/
def SentValues (c : GRXConcurrentWriteable ρ) : Prop :=
  ∃ values : List ρ, c.sent = values.map .writeValue ∧
    c.pendingFinishes ≤ c.alreadyFinished.toNat

/-- The finish was sent, and no message can follow it. -/
def SentFinish (c : GRXConcurrentWriteable ρ) : Prop :=
  ∃ (values : List ρ) (errorOrNil : Option NSError),
    c.sent = GRXMessage.sequence values errorOrNil ∧
      c.alreadyFinished = true ∧ c.pendingFinishes = 0

structure WellOrdered (c : GRXConcurrentWriteable ρ) : Prop where
  live : c.writeable = !c.alreadyFinished
  shape : c.SentValues ∨ c.SentFinish

private theorem WellOrdered.of_same {c d : GRXConcurrentWriteable ρ} (h : c.WellOrdered)
    (hw : d.writeable = c.writeable) (hf : d.alreadyFinished = c.alreadyFinished)
    (hs : d.sent = c.sent) (hp : d.pendingFinishes = c.pendingFinishes) : d.WellOrdered := by
  refine ⟨by rw [hw, hf, h.live], ?_⟩
  simpa only [SentValues, SentFinish, hf, hs, hp] using h.shape

private theorem cancelWithError_wellOrdered (c : GRXConcurrentWriteable ρ) (error : NSError)
    (h : c.WellOrdered) : (c.cancelWithError error).WellOrdered := by
  unfold cancelWithError
  cases hf : c.alreadyFinished with
  | true => exact h
  | false =>
      refine ⟨rfl, Or.inl ?_⟩
      rcases h.shape with ⟨values, hs, hp⟩ | ⟨_, _, _, hdone, _⟩
      · refine ⟨values, hs, ?_⟩
        have hnone : c.writeableQueue.countP WriteableBlock.finishes = 0 := by
          simpa [hf, pendingFinishes] using hp
        have hone := List.countP_le_length (p := WriteableBlock.finishes)
          (l := [WriteableBlock.cancellation (ρ := ρ) c.writeable error])
        simpa [pendingFinishes, List.countP_append, hnone] using hone
      · simp [hf] at hdone

private theorem cancelSilently_wellOrdered (c : GRXConcurrentWriteable ρ)
    (h : c.WellOrdered) : c.cancelSilently.WellOrdered := by
  unfold cancelSilently
  cases hf : c.alreadyFinished with
  | true => exact h
  | false =>
      refine ⟨rfl, Or.inl ?_⟩
      rcases h.shape with ⟨values, hs, hp⟩ | ⟨_, _, _, hdone, _⟩
      · refine ⟨values, hs, ?_⟩
        rw [hf, Bool.toNat_false] at hp
        exact Nat.le_trans hp (Nat.zero_le _)
      · simp [hf] at hdone

private theorem runBlock_wellOrdered (c : GRXConcurrentWriteable ρ) (block : WriteableBlock ρ)
    (rest : List (WriteableBlock ρ)) (hq : c.writeableQueue = block :: rest)
    (h : c.WellOrdered) : (runBlock { c with writeableQueue := rest } block).WellOrdered := by
  have hcount : c.pendingFinishes =
      rest.countP WriteableBlock.finishes + block.finishes.toNat := by
    rw [pendingFinishes, hq]
    cases hb : block.finishes <;> simp [hb]
  have hlive := h.live
  cases block with
  | value value =>
      have hrest : rest.countP WriteableBlock.finishes = c.pendingFinishes := by
        simpa [WriteableBlock.finishes] using hcount.symm
      have hsame : { c with writeableQueue := rest }.WellOrdered :=
        h.of_same rfl rfl rfl hrest
      cases hw : c.writeable with
      | false => simpa [runBlock, hw] using hsame
      | true =>
          have hf : c.alreadyFinished = false := by simpa [hw] using hlive
          rcases h.shape with ⟨values, hs, hp⟩ | ⟨_, _, _, hdone, _⟩
          · refine ⟨by simp [runBlock, hf], Or.inl ⟨values ++ [value], ?_, ?_⟩⟩
            · simp [runBlock, hs]
            · simpa [runBlock, pendingFinishes, hrest] using hp
          · simp [hf] at hdone
  | successfulCompletion =>
      have hrest : rest.countP WriteableBlock.finishes = c.pendingFinishes := by
        simpa [WriteableBlock.finishes] using hcount.symm
      have hsame : { c with writeableQueue := rest }.WellOrdered :=
        h.of_same rfl rfl rfl hrest
      cases hf : c.alreadyFinished with
      | true => simpa [runBlock, hf] using hsame
      | false =>
          have hw : c.writeable = true := by simpa [hf] using hlive
          rcases h.shape with ⟨values, hs, hp⟩ | ⟨_, _, _, hdone, _⟩
          · refine ⟨rfl, Or.inr ⟨values, none, ?_, rfl, ?_⟩⟩
            · simp [runBlock, hw, hs, GRXMessage.sequence]
            · simpa [runBlock, pendingFinishes, hrest, hf] using hp
          · simp [hf] at hdone
  | cancellation writeable error =>
      cases writeable with
      | false =>
          have hrest : rest.countP WriteableBlock.finishes = c.pendingFinishes := by
            simpa [WriteableBlock.finishes] using hcount.symm
          exact h.of_same rfl rfl rfl hrest
      | true =>
          have hrest : c.pendingFinishes = rest.countP WriteableBlock.finishes + 1 := by
            simpa [WriteableBlock.finishes] using hcount
          rcases h.shape with ⟨values, hs, hp⟩ | ⟨_, _, _, _, hnone⟩
          · have hbound := Bool.toNat_le c.alreadyFinished
            have hf : c.alreadyFinished = true := by
              rw [← Bool.toNat_eq_one]
              omega
            refine ⟨hlive, Or.inr ⟨values, some error, ?_, hf, ?_⟩⟩
            · simp [runBlock, hs, GRXMessage.sequence]
            · simp only [runBlock, if_true, pendingFinishes]
              omega
          · omega

theorem step_wellOrdered (c : GRXConcurrentWriteable ρ) (e : WrapperEvent ρ)
    (h : c.WellOrdered) : (c.step e).WellOrdered := by
  cases e with
  | enqueueValue value =>
      exact h.of_same rfl rfl rfl (by
        simp [step, enqueueValue, pendingFinishes, WriteableBlock.finishes])
  | enqueueSuccessfulCompletion =>
      exact h.of_same rfl rfl rfl (by
        simp [step, enqueueSuccessfulCompletion, pendingFinishes, WriteableBlock.finishes])
  | cancelWithError error => exact cancelWithError_wellOrdered c error h
  | cancelSilently => exact cancelSilently_wellOrdered c h
  | mainQueue =>
      cases hq : c.writeableQueue with
      | nil => simpa only [step, hq] using h
      | cons block rest => simpa only [step, hq] using runBlock_wellOrdered c block rest hq h

theorem sent_shape (events : List (WrapperEvent ρ)) :
    let c := events.foldl step (initWithWriteable (ρ := ρ))
    (∃ values : List ρ, c.sent = values.map .writeValue) ∨
      ∃ (values : List ρ) (errorOrNil : Option NSError),
        c.sent = GRXMessage.sequence values errorOrNil := by
  intro c
  have hc : c.WellOrdered := by
    apply List.foldlRecOn (motive := WellOrdered) events step
    · exact ⟨rfl, Or.inl ⟨[], rfl, Nat.zero_le _⟩⟩
    · exact fun c h e _ => step_wellOrdered c e h
  rcases hc.shape with ⟨values, hs, _⟩ | ⟨values, errorOrNil, hs, _⟩
  · exact Or.inl ⟨values, hs⟩
  · exact Or.inr ⟨values, errorOrNil, hs⟩

end GRXConcurrentWriteable

end CrowdSound
