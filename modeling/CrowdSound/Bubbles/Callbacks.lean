import CrowdSound.Bubbles.SceneRuns

/-!
# Callbacks

A delegate that answers as it likes, does not raise, and keeps a list of the callbacks it
receives. It may leave out any of the methods.
-/

namespace CrowdSound

inductive CallbackMethod where
  | shouldTap
  | didTap
  | shouldLongPress
  | didLongPress
  | startedRemoving
  | canceledRemoving
  | shouldRemove
  | didRemove
  deriving DecidableEq

structure Callback where
  method : CallbackMethod
  index : Int
  deriving DecidableEq

/-- The methods that a delegate has, and what they answer and do. -/
structure Observer (C D : Type) where
  responds : CallbackMethod → Bool
  answer : CallbackMethod → SIFloatingCollectionScene C → Int → D → Bool × D

abbrev ObservedScene (C D : Type) := SceneState C (D × List Callback)

namespace Observer

variable {C D : Type} (o : Observer C D)

def question (method : CallbackMethod) : Option (DelegateQuestion C (D × List Callback)) :=
  if o.responds method then
    some fun scene index received =>
      let (answer, delegate) := o.answer method scene index received.1
      (answer, delegate, received.2 ++ [⟨method, index⟩])
  else none

def report (method : CallbackMethod) : Option (DelegateReport C (D × List Callback)) :=
  if o.responds method then
    some fun scene index received =>
      .ok ((o.answer method scene index received.1).2, received.2 ++ [⟨method, index⟩])
  else none

def delegate : SIFloatingCollectionSceneDelegate C (D × List Callback) where
  shouldTapFloatingNodeAtIndex := o.question .shouldTap
  didTapFloatingNodeAtIndex := o.report .didTap
  shouldLongPressFloatingNodeAtIndex := o.question .shouldLongPress
  didLongPressFloatingNodeAtIndex := o.report .didLongPress
  startedRemovingOfFloatingNodeAtIndex := o.report .startedRemoving
  canceledRemovingOfFloatingNodeAtIndex := o.report .canceledRemoving
  shouldRemoveFloatingNodeAtIndex := o.question .shouldRemove
  didRemoveFloatingNodeAtIndex := o.report .didRemove

/-- Has all methods and agrees to everything. -/
def agreeing : Observer Unit Unit := ⟨fun _ => true, fun _ _ _ _ => (true, ())⟩

def call (method : CallbackMethod) (index : Int) : List Callback :=
  if o.responds method then [⟨method, index⟩] else []

end Observer

namespace SceneState

variable {C D : Type} (o : Observer C D)

def received (s : ObservedScene C D) : List Callback := s.delegate.2

theorem ask_received (method : CallbackMethod) (s : ObservedScene C D) (index : Int) :
    (ask (o.question method) s index).2.received = s.received ++ o.call method index := by
  by_cases h : o.responds method = true
  · simp [ask, Observer.question, Observer.call, received, h]
  · simp [ask, Observer.question, Observer.call, received, h]

private theorem ask_refused {method : CallbackMethod} {s : ObservedScene C D} {index : Int}
    (h : (ask (o.question method) s index).1 = false) : o.responds method = true := by
  by_contra hresponds
  simp [ask, Observer.question, hresponds] at h

theorem tell_received (method : CallbackMethod) (s : ObservedScene C D) (index : Int) :
    ∃ s', tell (o.report method) s index = .ok s' ∧ s'.scene = s.scene ∧
      s'.received = s.received ++ o.call method index := by
  by_cases h : o.responds method = true
  · refine ⟨⟨s.scene, (o.answer method s.scene index s.delegate.1).2,
      s.delegate.2 ++ [⟨method, index⟩]⟩, ?_, rfl, ?_⟩
    · simp only [tell, Observer.report, h, if_true]
      rfl
    · simp [Observer.call, received, h]
  · exact ⟨s, by simp [tell, Observer.report, h], rfl, by simp [Observer.call, received, h]⟩

/-- The callbacks received between two scenes all have a property. -/
def Told (P : Callback → Prop) (s s' : ObservedScene C D) : Prop :=
  ∃ calls, s'.received = s.received ++ calls ∧ ∀ callback ∈ calls, P callback

theorem Told.same {P : Callback → Prop} {s s' : ObservedScene C D}
    (h : s'.received = s.received) : Told P s s' :=
  ⟨[], by simp [h], nofun⟩

theorem Told.trans {P : Callback → Prop} {s s' s'' : ObservedScene C D} (h : Told P s s')
    (h' : Told P s' s'') : Told P s s'' := by
  obtain ⟨calls, hreceived, hcalls⟩ := h
  obtain ⟨calls', hreceived', hcalls'⟩ := h'
  refine ⟨calls ++ calls', by rw [hreceived', hreceived, List.append_assoc], ?_⟩
  intro callback hmem
  rcases List.mem_append.mp hmem with hmem | hmem
  · exact hcalls callback hmem
  · exact hcalls' callback hmem

theorem Told.mono {P Q : Callback → Prop} {s s' : ObservedScene C D} (h : Told P s s')
    (hPQ : ∀ callback, P callback → Q callback) : Told Q s s' := by
  obtain ⟨calls, hreceived, hcalls⟩ := h
  exact ⟨calls, hreceived, fun callback hmem => hPQ callback (hcalls callback hmem)⟩

theorem Told.call {P : Callback → Prop} {s s' : ObservedScene C D} {method : CallbackMethod}
    {index : Int} (h : s'.received = s.received ++ o.call method index)
    (hcall : P ⟨method, index⟩) : Told P s s' := by
  refine ⟨_, h, ?_⟩
  intro callback hmem
  unfold Observer.call at hmem
  split at hmem
  · rw [List.mem_singleton.mp hmem]
    exact hcall
  · exact nomatch hmem

def newCallbacks (s s' : ObservedScene C D) : List Callback :=
  s'.received.drop s.received.length

theorem Told.new {P : Callback → Prop} {s s' : ObservedScene C D} (h : Told P s s') :
    ∀ callback ∈ newCallbacks s s', P callback := by
  obtain ⟨calls, hreceived, hcalls⟩ := h
  rw [newCallbacks, hreceived, List.drop_left]
  exact hcalls

/-- A callback of a press carries the index of the node. -/
def OfPress (index : Int) (callback : Callback) : Prop :=
  callback.index = index ∧ callback.method ≠ .shouldRemove

theorem ask_told (method : CallbackMethod) (s : ObservedScene C D) (index : Int)
    (hmethod : method ≠ .shouldRemove) :
    Told (OfPress index) s (ask (o.question method) s index).2 :=
  Told.call o (ask_received o method s index) ⟨rfl, hmethod⟩

theorem ask_refused_received {method : CallbackMethod} {s : ObservedScene C D} {index : Int}
    (h : (ask (o.question method) s index).1 = false) :
    newCallbacks s (ask (o.question method) s index).2 ≠ [] := by
  rw [newCallbacks, ask_received, List.drop_left, Observer.call, if_pos (ask_refused o h)]
  simp

theorem tell_told (method : CallbackMethod) (s : ObservedScene C D) (index : Int)
    (hmethod : method ≠ .shouldRemove) :
    ∃ s', tell (o.report method) s index = .ok s' ∧ s'.scene = s.scene ∧
      Told (OfPress index) s s' := by
  obtain ⟨s', htell, hscene, hreceived⟩ := tell_received o method s index
  exact ⟨s', htell, hscene, Told.call o hreceived ⟨rfl, hmethod⟩⟩

theorem shouldRemove_told (s : ObservedScene C D) (index : Int) :
    Told (fun callback => callback.method = .shouldRemove) s
      (s.shouldRemoveNodeAtIndex o.delegate index).2 := by
  unfold shouldRemoveNodeAtIndex
  split
  · exact Told.call o (ask_received o .shouldRemove s index) rfl
  · exact Told.same rfl

@[simp] theorem removeFromParent_received (s : ObservedScene C D) (node : Nat) :
    (s.removeFromParent node).received = s.received := by
  unfold removeFromParent
  split <;> rfl

end SceneState

end CrowdSound
