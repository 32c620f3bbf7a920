import CrowdSound.Foundation
import CrowdSound.Library.EventRun

/-!
# Writeables

A writer sends a writeable a sequence of values and then one finish with an optional error.
The two convenience constructors turn these messages into calls of a single block: the single
handler hears of a finish only when it carries an error, the event handler hears of every one.
-/

namespace CrowdSound

variable {ρ σ : Type}

/-- A block acts on the state it captures and may raise. -/
abbrev GRXSingleHandler (ρ σ : Type) := Option ρ → Option NSError → σ → Except NSException σ

abbrev GRXEventHandler (ρ σ : Type) :=
  Bool → Option ρ → Option NSError → σ → Except NSException σ

structure GRXWriteable (ρ σ : Type) where
  valueHandler : Option (ρ → σ → Except NSException σ)
  completionHandler : Option (Option NSError → σ → Except NSException σ)

namespace GRXWriteable

def init : GRXWriteable ρ σ := ⟨none, none⟩

def writeableWithSingleHandler : Option (GRXSingleHandler ρ σ) → GRXWriteable ρ σ
  | none => init
  | some handler =>
    { valueHandler := some fun value => handler (some value) none
      completionHandler := some fun errorOrNil => match errorOrNil with
        | some error => handler none (some error)
        | none => .ok }

def writeableWithEventHandler : Option (GRXEventHandler ρ σ) → GRXWriteable ρ σ
  | none => init
  | some handler =>
    { valueHandler := some fun value => handler false (some value) none
      completionHandler := some fun errorOrNil => handler true none errorOrNil }

def writeValue (w : GRXWriteable ρ σ) (value : ρ) (s : σ) : Except NSException σ :=
  match w.valueHandler with
  | some handler => handler value s
  | none => .ok s

def writesFinishedWithError (w : GRXWriteable ρ σ) (errorOrNil : Option NSError) (s : σ) :
    Except NSException σ :=
  match w.completionHandler with
  | some handler => handler errorOrNil s
  | none => .ok s

end GRXWriteable

/-- The messages of the `GRXWriteable` protocol. -/
inductive GRXMessage (ρ : Type) where
  | writeValue (value : ρ)
  | writesFinishedWithError (errorOrNil : Option NSError)
  deriving DecidableEq

def GRXMessage.sequence (values : List ρ) (errorOrNil : Option NSError) : List (GRXMessage ρ) :=
  values.map .writeValue ++ [.writesFinishedWithError errorOrNil]

namespace GRXWriteable

def receive (w : GRXWriteable ρ σ) (s : σ) : GRXMessage ρ → Except NSException σ
  | .writeValue value => w.writeValue value s
  | .writesFinishedWithError errorOrNil => w.writesFinishedWithError errorOrNil s

def receiveSequence (w : GRXWriteable ρ σ) (s : σ) (values : List ρ)
    (errorOrNil : Option NSError) : Except NSException σ :=
  EventRun.run w.receive s (GRXMessage.sequence values errorOrNil)

theorem receiveSequence_ok (w : GRXWriteable ρ σ) (s t : σ) (values : List ρ)
    (errorOrNil : Option NSError) :
    w.receiveSequence s values errorOrNil = .ok t ↔
      ∃ m, EventRun.run w.receive s (values.map .writeValue) = .ok m ∧
        w.writesFinishedWithError errorOrNil m = .ok t :=
  EventRun.run_snoc_ok s t _ _

end GRXWriteable

end CrowdSound
