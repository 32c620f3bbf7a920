import CrowdSound.Bubbles.DelegateIndexes
import CrowdSound.Bubbles.Removals
import CrowdSound.Bubbles.Selection

/-!
# The node that is pressed

The beginning of a touch records where the finger is, and only the end of the touch or an update
looks which node is there. By then the nodes have moved. A log beside the scene looks when the
finger is put down, and says when the two agree.
-/

namespace CrowdSound

open SIFloatingCollectionScene

namespace CallbackMethod

/-- A callback that reports what has happened, where the others ask. -/
def isReport : CallbackMethod → Bool
  | shouldTap | shouldLongPress | shouldRemove => false
  | didTap | didLongPress | startedRemoving | canceledRemoving | didRemove => true

end CallbackMethod

/-- The number of fingers on the scene and, for a single finger that has not been dragged, the
floating node it was put down on, if there was one. -/
structure PressLog where
  fingers : Nat
  pressed : Option (Option Nat)

namespace PressLog

def init : PressLog := ⟨0, none⟩

end PressLog

/-- The answer to the hit test that an event makes. -/
def SceneEvent.hit? : SceneEvent → Option SKHit
  | touchesEnded _ hit => some hit
  | update _ hit => some hit
  | _ => none

namespace SceneState

variable {C D : Type}

def notePress (nodeUnder : SIFloatingCollectionScene C → CGPoint → Option HitNode)
    (log : PressLog) (scene : SIFloatingCollectionScene C) : FloatingEvent C → PressLog
  | .scene (.touchesBegan location _) =>
    ⟨log.fingers + 1,
      if log.fingers = 0 then some ((nodeUnder scene location).bind HitNode.floating?) else none⟩
  | .scene (.touchesMoved previousLocation location) =>
    if location = previousLocation then log else { log with pressed := none }
  | .scene (.touchesEnded _ _) => ⟨log.fingers - 1, none⟩
  | .scene .touchesCancelled => ⟨log.fingers - 1, none⟩
  | _ => log

abbrev Logged (C D : Type) := SceneState C D × PressLog

def loggedStep (nodeUnder : SIFloatingCollectionScene C → CGPoint → Option HitNode)
    (g : Geometry) (d : SIFloatingCollectionSceneDelegate C D) :
    Logged C D → FloatingEvent C → Except Stuck (Logged C D) :=
  EventRun.watch (floatingStep g d) fun log s event _ => notePress nodeUnder log s.scene event

theorem loggedStep_run (nodeUnder : SIFloatingCollectionScene C → CGPoint → Option HitNode)
    (g : Geometry) (d : SIFloatingCollectionSceneDelegate C D) (w : Logged C D)
    (events : List (FloatingEvent C)) :
    (EventRun.run (loggedStep nodeUnder g d) w events).map Prod.fst =
      EventRun.run (floatingStep g d) w.1 events :=
  EventRun.run_watch _ w events

section Affected

variable (o : Observer C D)

/-- The end of a touch on the node goes through: it is in a state that a touch of this length
changes, and the delegate does not refuse. -/
def LetThrough (s : ObservedScene C D) (timestamp : NSTimeInterval) (node : Nat) : Prop :=
  let index := indexOfObject s.scene.floatingNodes node
  s.scene.LongPress timestamp ∧
      ((s.scene.nodes node).state = .normal ∨ (s.scene.nodes node).state = .tapped) ∧
      (ask (o.question .shouldLongPress) s index).1 = true ∨
    ¬ s.scene.LongPress timestamp ∧
      (((s.scene.nodes node).state = .normal ∨ (s.scene.nodes node).state = .longPressed) ∧
          (ask (o.question .shouldTap) s index).1 = true ∨
        (s.scene.nodes node).state = .removing)

variable {o} in
theorem LetThrough.acts {s : ObservedScene C D} {timestamp : NSTimeInterval} {node : Nat}
    (h : LetThrough o s timestamp node) : Acts s.scene timestamp node := by
  rcases h with ⟨hlong, hstate, _⟩ | ⟨hshort, ⟨hstate, _⟩ | hstate⟩
  · exact Or.inl ⟨hlong, hstate⟩
  · refine Or.inr ⟨hshort, ?_⟩
    rcases hstate with hstate | hstate <;> rw [hstate] <;> decide
  · refine Or.inr ⟨hshort, ?_⟩
    rw [hstate]
    decide

/-- The event changes or reports the node if it is under the touch point: a release goes through,
the start of its removal is due and is visible, or its removal is due and allowed. -/
def Affects (g : Geometry) (s : ObservedScene C D) (event : SceneEvent) (node : Nat) : Prop :=
  match event with
  | .touchesEnded timestamp _ =>
    s.scene.mode ≠ .moving ∧ s.scene.touchPoint ≠ noTouchPoint ∧ LetThrough o s timestamp node
  | .update currentTime _ =>
    s.scene.StartDue currentTime ∧
        ((s.scene.nodes node).state ≠ .removing ∨ o.responds .startedRemoving = true) ∨
      s.scene.RemoveDue currentTime ∧ s.removalAllowed g o.delegate node = true
  | _ => False

/-- An event changes, removes and reports one node only. -/
structure OnlyNode (s : ObservedScene C D) (event : SceneEvent) (s' : ObservedScene C D)
    (pressed : Option Nat) : Prop where
  states : ∀ node, (s'.scene.nodes node).state ≠ (s.scene.nodes node).state → pressed = some node
  members : ∀ node ∈ s.scene.floatingNodes, node ∉ s'.scene.floatingNodes → pressed = some node
  reports : ∀ callback ∈ newCallbacks s s', callback.method.isReport = true →
    ∃ node, pressed = some node ∧ s.actedOn (.scene event) = some node ∧
      callback.index = indexOfObject s.scene.floatingNodes node

private theorem OnlyNode.quiet {s s' : ObservedScene C D} (event : SceneEvent)
    (pressed : Option Nat)
    (hstates : ∀ node, (s'.scene.nodes node).state = (s.scene.nodes node).state)
    (hmembers : s'.scene.floatingNodes = s.scene.floatingNodes)
    (htold : Told (fun callback => callback.method.isReport = false) s s') :
    OnlyNode s event s' pressed where
  states node hchanged := absurd (hstates node) hchanged
  members node hnode hgone := absurd (hmembers ▸ hnode) hgone
  reports callback hcallback hreport := by
    rw [htold.new callback hcallback] at hreport
    cases hreport

/-- A press that goes through changes its node; another changes and reports nothing. -/
structure PressOutcome (s s' : ObservedScene C D) (node : Nat) (through : Prop) : Prop where
  changes : through → (s'.scene.nodes node).state ≠ (s.scene.nodes node).state
  quiet : ¬ through → (∀ other, (s'.scene.nodes other).state = (s.scene.nodes other).state) ∧
    Told (fun callback => callback.method.isReport = false) s s'

private theorem PressOutcome.refl (s : ObservedScene C D) (node : Nat) {through : Prop}
    (h : ¬ through) : PressOutcome s s node through :=
  ⟨fun hthrough => absurd hthrough h, fun _ => ⟨fun _ => rfl, Told.same rfl⟩⟩

private theorem askPress_outcome {s s' : ObservedScene C D} {node : Nat}
    {question report : CallbackMethod}
    {state : SIFloatingNodeState} (hquestion : question.isReport = false)
    (hstate : state ≠ (s.scene.nodes node).state)
    (h : askPress (o.question question) (o.report report) state s node = .ok s') :
    PressOutcome s s' node
      ((ask (o.question question) s (indexOfObject s.scene.floatingNodes node)).1 = true) := by
  rcases askPress_ok h with ⟨hrefused, hscene⟩ | ⟨hanswer, hscene⟩
  · constructor
    · intro hanswer
      rw [hrefused] at hanswer
      cases hanswer
    · intro _
      refine ⟨fun _ => by rw [hscene], ?_⟩
      have hs' : s' = (ask (o.question question) s
          (indexOfObject s.scene.floatingNodes node)).2 := by
        simp only [askPress, hrefused, Bool.false_eq_true, if_false] at h
        exact (Except.ok.inj h).symm
      rw [hs']
      exact Told.call o (ask_received o question s _) hquestion
  · constructor
    · intro _
      rw [hscene, setState_state, if_pos rfl]
      exact hstate
    · exact fun hnot => absurd hanswer hnot

private theorem longPress_outcome {s s' : ObservedScene C D} {node : Nat}
    (h : s.updateNodeStateWhenLongPressed o.delegate node = .ok s') :
    PressOutcome s s' node
      (((s.scene.nodes node).state = .normal ∨ (s.scene.nodes node).state = .tapped) ∧
        (ask (o.question .shouldLongPress) s
          (indexOfObject s.scene.floatingNodes node)).1 = true) := by
  by_cases hstate : (s.scene.nodes node).state = .normal ∨ (s.scene.nodes node).state = .tapped
  · rw [updateNodeStateWhenLongPressed_eq hstate] at h
    simp only [hstate, true_and]
    apply askPress_outcome o rfl _ h
    rcases hstate with hstate | hstate <;> rw [hstate] <;> decide
  · have hsame : s' = s := by
      unfold updateNodeStateWhenLongPressed at h
      cases hnode : (s.scene.nodes node).state with
      | normal => exact absurd (Or.inl hnode) hstate
      | tapped => exact absurd (Or.inr hnode) hstate
      | longPressed =>
          simp only [hnode] at h
          exact (Except.ok.inj h).symm
      | removing =>
          simp only [hnode] at h
          exact (Except.ok.inj h).symm
    rw [hsame]
    exact PressOutcome.refl s node fun hthrough => hstate hthrough.1

private theorem tap_outcome {s s' : ObservedScene C D} {node : Nat}
    (hprevious : (s.scene.nodes node).state = .removing →
      (s.scene.nodes node).previousState ≠ .removing)
    (h : s.updateNodeState o.delegate node = .ok s') :
    PressOutcome s s' node
      (((s.scene.nodes node).state = .normal ∨ (s.scene.nodes node).state = .longPressed) ∧
          (ask (o.question .shouldTap) s (indexOfObject s.scene.floatingNodes node)).1 = true ∨
        (s.scene.nodes node).state = .removing) := by
  cases hnode : (s.scene.nodes node).state with
  | normal =>
      rw [updateNodeState_eq (Or.inl hnode)] at h
      simp only [reduceCtorEq, or_false, true_and]
      exact askPress_outcome o rfl (by rw [hnode]; decide) h
  | longPressed =>
      rw [updateNodeState_eq (Or.inr hnode)] at h
      simp only [reduceCtorEq, or_false, or_true, true_and]
      exact askPress_outcome o rfl (by rw [hnode]; decide) h
  | tapped =>
      have htapped := updateNodeStateBody_tapped o.delegate
        (updateNodeStateBody o.delegate fun _ _ => .error .loops) s node hnode
      have hsame : s' = s := Except.ok.inj (h.symm.trans htapped)
      rw [hsame]
      exact PressOutcome.refl s node (by simp)
  | removing =>
      constructor
      · intro _
        rcases updateNodeState_ok h with ⟨hsettled, _⟩ | ⟨hstate, _⟩ | ⟨_, hscene⟩
        · rw [hnode] at hsettled
          simp at hsettled
        · rw [hnode] at hstate
          simp at hstate
        · rw [hscene, hnode]
          simp only [restored_state, if_true]
          exact hprevious hnode
      · exact fun hnot => absurd (Or.inr rfl) hnot

theorem touchesEnded_outcome {s s' : ObservedScene C D} {timestamp : NSTimeInterval} {hit : SKHit}
    {node : Nat} (hpressed : s.scene.Pressed hit node)
    (hprevious : (s.scene.nodes node).state = .removing →
      (s.scene.nodes node).previousState ≠ .removing)
    (h : s.touchesEnded o.delegate timestamp hit = .ok s') :
    PressOutcome s s' node (LetThrough o s timestamp node) := by
  unfold touchesEnded at h
  rw [if_pos ⟨hpressed.1, hpressed.2.1⟩, hpressed.2.2] at h
  unfold LetThrough
  by_cases hlong : s.scene.LongPress timestamp
  · have hlong' : timestamp - s.scene.touchStartedTime > s.scene.longPressTime := hlong
    simp only [hlong, true_and, not_true_eq_false, false_and, or_false]
    simp only [if_pos hlong'] at h
    obtain ⟨pressed, hok, hs'⟩ := bind_eq_ok.mp h
    have houtcome := longPress_outcome o hok
    cases hs'
    exact ⟨houtcome.changes, houtcome.quiet⟩
  · have hshort : ¬ timestamp - s.scene.touchStartedTime > s.scene.longPressTime := hlong
    simp only [hlong, false_and, not_false_eq_true, true_and, false_or]
    simp only [if_neg hshort] at h
    obtain ⟨pressed, hok, hs'⟩ := bind_eq_ok.mp h
    have houtcome := tap_outcome o hprevious hok
    cases hs'
    exact ⟨houtcome.changes, houtcome.quiet⟩

theorem ended_onlyNode {g : Geometry} {s s' : ObservedScene C D} {timestamp : NSTimeInterval}
    {hit : SKHit} (hs : Restorable s.scene) (hattached : s.scene.Attached hit)
    (h : s.touchesEnded o.delegate timestamp hit = .ok s') (pressed : Option Nat) :
    OnlyNode s (.touchesEnded timestamp hit) s' pressed ↔
      ∀ node, s.scene.nodeAtPoint hit = some (.floating node) →
        Affects o g s (.touchesEnded timestamp hit) node → pressed = some node := by
  have hended := touchesEnded_ok h
  have hmembers : s'.scene.floatingNodes = s.scene.floatingNodes := by
    obtain ⟨_, _, hscene⟩ := hended.frame
    rw [hscene]
  by_cases hpress : ∃ node, s.scene.Pressed hit node
  · obtain ⟨node, hpressed⟩ := hpress
    have hprevious := hs.pressed hattached hpressed
    have houtcome := touchesEnded_outcome o hpressed hprevious h
    constructor
    · intro honly node' hnode' haffects
      have hsame : node' = node := by
        have heq := hnode'.symm.trans hpressed.2.2
        cases heq
        rfl
      rw [hsame] at haffects ⊢
      exact honly.states node (houtcome.changes haffects.2.2)
    · intro hcondition
      by_cases hthrough : LetThrough o s timestamp node
      · have hnode := hcondition node hpressed.2.2 ⟨hpressed.1, hpressed.2.1, hthrough⟩
        obtain ⟨told, hok, htold⟩ := touchesEnded_told o timestamp hpressed hprevious
        have hsame : s' = told := Except.ok.inj (h.symm.trans hok)
        constructor
        · intro node' hchanged
          obtain ⟨hpressed', _⟩ := ended_states hended node' hchanged
          rw [hpressed.unique hpressed']
          exact hnode
        · intro node' hmember hgone
          exact absurd (hmembers ▸ hmember) hgone
        · intro callback hcallback _
          rw [hsame] at hcallback
          refine ⟨node, hnode, ?_, (htold.told.new callback hcallback).1⟩
          simp [actedOn, hpressed.2.2, HitNode.floating?]
      · obtain ⟨hstates, htold⟩ := houtcome.quiet hthrough
        exact OnlyNode.quiet _ pressed hstates hmembers htold
  · have hmiss := not_exists.mp hpress
    apply iff_of_true
    · apply OnlyNode.quiet _ pressed _ hmembers (Told.same (touchesEnded_unpressed o hmiss h))
      intro node
      by_contra hchanged
      exact hmiss node (ended_states hended node hchanged).1
    · intro node hnode haffects
      exact absurd ⟨haffects.1, haffects.2.1, hnode⟩ (hmiss node)

private theorem update_starts_received {g : Geometry} {s s' : ObservedScene C D}
    {currentTime : NSTimeInterval} {hit : SKHit} {node : Nat}
    (hdue : s.scene.StartDue currentTime)
    (hnode : s.scene.nodeAtPoint hit = some (.floating node))
    (h : s.update o.delegate g currentTime hit = .ok s') :
    s'.scene = { (s.scene.dampNodes g).frozen node with
        mode := .editing, touchStartedTime := -1, removingStartedTime := currentTime } ∧
      s'.received = s.received ++
        o.call .startedRemoving (indexOfObject s.scene.floatingNodes node) := by
  rw [update_eq, if_pos hdue, hnode] at h
  obtain ⟨told, htell, hscene, hreceived⟩ := tell_received o .startedRemoving
    ({ s with scene := { ({ s.scene.dampNodes g with
        touchStartedTime := -1, removingStartedTime := currentTime } :
          SIFloatingCollectionScene C).frozen node with mode := .editing } } : ObservedScene C D)
    (indexOfObject s.scene.floatingNodes node)
  have hsame : s' = told := Except.ok.inj (h.symm.trans htell)
  rw [hsame]
  exact ⟨hscene, hreceived⟩

private theorem removeFloatingNodeAtIndex_refused_told {s s' : ObservedScene C D} {index : Int}
    (hrefused : (s.shouldRemoveNodeAtIndex o.delegate index).1 = false)
    (h : s.removeFloatingNodeAtIndex o.delegate index = .ok s') :
    Told (fun callback => callback.method.isReport = false) s s' := by
  rw [removeFloatingNodeAtIndex_refused hrefused] at h
  rw [← Except.ok.inj h]
  apply (shouldRemove_told o s index).mono
  intro callback hquestion
  rw [hquestion]
  rfl

private theorem removalAllowed_mem {g : Geometry} {d : SIFloatingCollectionSceneDelegate C D}
    {s : SceneState C D} {node : Nat} (h : s.removalAllowed g d node = true) :
    node ∈ s.scene.floatingNodes := by
  by_contra hnot
  rw [removalAllowed, indexOfObject_of_not_mem hnot] at h
  simp [shouldRemoveNodeAtIndex] at h

private theorem startDue_not_removeDue {scene : SIFloatingCollectionScene C}
    {currentTime : NSTimeInterval} (h : scene.StartDue currentTime) :
    ¬ scene.RemoveDue currentTime := fun hremove => h.2.2.2.1 hremove.2.2.2.1

private theorem update_starts_onlyNode {g : Geometry} {s s' : ObservedScene C D}
    {currentTime : NSTimeInterval} {hit : SKHit} {node : Nat}
    (hdue : s.scene.StartDue currentTime)
    (hnode : s.scene.nodeAtPoint hit = some (.floating node))
    (h : s.update o.delegate g currentTime hit = .ok s') (pressed : Option Nat) :
    OnlyNode s (.update currentTime hit) s' pressed ↔
      (Affects o g s (.update currentTime hit) node → pressed = some node) := by
  obtain ⟨hscene, hreceived⟩ := update_starts_received o hdue hnode h
  have hacted : s.actedOn (.scene (.update currentTime hit)) = some node := by
    simp [actedOn, hnode, HitNode.floating?]
  have hnew : newCallbacks s s' =
      o.call .startedRemoving (indexOfObject s.scene.floatingNodes node) := by
    rw [newCallbacks, hreceived, List.drop_left]
  have hstates : ∀ other, (s'.scene.nodes other).state =
      if other = node then .removing else (s.scene.nodes other).state := by
    intro other
    rw [hscene]
    simp only [frozen_state, (s.scene.dampNodes_node g other).1]
  constructor
  · intro honly haffects
    rcases haffects with ⟨_, hne | hresponds⟩ | ⟨hremove, _⟩
    · apply honly.states
      rw [hstates, if_pos rfl]
      exact Ne.symm hne
    · obtain ⟨reported, hpressed, hreported, _⟩ := honly.reports
        ⟨.startedRemoving, indexOfObject s.scene.floatingNodes node⟩
        (by simp [hnew, Observer.call, hresponds]) rfl
      rw [hacted] at hreported
      rw [hpressed, hreported]
    · exact absurd hremove (startDue_not_removeDue hdue)
  · intro hcondition
    constructor
    · intro other hchanged
      rw [hstates] at hchanged
      split at hchanged
      next hsame =>
        rw [hsame] at hchanged ⊢
        exact hcondition (Or.inl ⟨hdue, Or.inl (Ne.symm hchanged)⟩)
      next => exact absurd rfl hchanged
    · intro other hmember hgone
      rw [hscene] at hgone
      exact absurd hmember hgone
    · intro callback hcallback _
      rw [hnew, Observer.call] at hcallback
      split at hcallback
      next hresponds =>
        rw [List.mem_singleton.mp hcallback]
        exact ⟨node, hcondition (Or.inl ⟨hdue, Or.inr hresponds⟩), hacted, rfl⟩
      next => cases hcallback

private theorem update_removes_reports {g : Geometry} {s s' : ObservedScene C D}
    {currentTime : NSTimeInterval} {hit : SKHit} {callback : Callback}
    (hstart : ¬ s.scene.StartDue currentTime) (hdue : s.scene.RemoveDue currentTime)
    (h : s.update o.delegate g currentTime hit = .ok s')
    (hcallback : callback ∈ newCallbacks s s') (hreport : callback.method.isReport = true) :
    ∃ node, s.scene.nodeAtPoint hit = some (.floating node) ∧
      s.removalAllowed g o.delegate node = true ∧
      callback.index = indexOfObject s.scene.floatingNodes node := by
  rw [update_eq, if_neg hstart, if_pos hdue] at h
  split at h
  · cases h
  next found hfound =>
    let pending : ObservedScene C D :=
      { s with scene := { s.scene.dampNodes g with removingStartedTime := -1 } }
    have hcallback' : callback ∈ newCallbacks pending s' := hcallback
    have hne : callback.method ≠ .shouldRemove := by
      intro hquestion
      rw [hquestion] at hreport
      cases hreport
    obtain ⟨hindex, node, hobject⟩ :=
      (removeFloatingNodeAtIndex_told o h).new callback hcallback' hne
    obtain ⟨hfloating, _⟩ := objectAtIndex_indexOfNode (s := s.scene) hobject
    rw [hfloating] at hfound h hindex
    refine ⟨node, hfound, ?_, hindex⟩
    by_contra hrefused
    have hquestion := (removeFloatingNodeAtIndex_refused_told o
      (Bool.eq_false_iff.mpr hrefused) h).new callback hcallback'
    rw [hquestion] at hreport
    cases hreport

private theorem update_removes_onlyNode {g : Geometry} {s s' : ObservedScene C D}
    {currentTime : NSTimeInterval} {hit : SKHit} (hs : s.scene.WellNumbered)
    (hstart : ¬ s.scene.StartDue currentTime) (hdue : s.scene.RemoveDue currentTime)
    (h : s.update o.delegate g currentTime hit = .ok s') (pressed : Option Nat) :
    OnlyNode s (.update currentTime hit) s' pressed ↔
      ∀ node, s.scene.nodeAtPoint hit = some (.floating node) →
        Affects o g s (.update currentTime hit) node → pressed = some node := by
  have hupdate := update_ok h
  constructor
  · intro honly node hnode haffects
    rcases haffects with ⟨hstart', _⟩ | ⟨_, hallowed⟩
    · exact absurd hstart' hstart
    · have hmember := removalAllowed_mem hallowed
      apply honly.members node hmember
      exact (update_removes_iff hs hupdate hmember).mpr ⟨hdue, hnode, hallowed⟩
  · intro hcondition
    constructor
    · intro node hchanged
      exact absurd (updated_states hupdate node hchanged).1 hstart
    · intro node hmember hgone
      obtain ⟨_, hnode, hallowed⟩ := (update_removes_iff hs hupdate hmember).mp hgone
      exact hcondition node hnode (Or.inr ⟨hdue, hallowed⟩)
    · intro callback hcallback hreport
      obtain ⟨node, hnode, hallowed, hindex⟩ :=
        update_removes_reports o hstart hdue h hcallback hreport
      refine ⟨node, hcondition node hnode (Or.inr ⟨hdue, hallowed⟩), ?_, hindex⟩
      simp [actedOn, hnode, HitNode.floating?]

private theorem update_onlyNode {g : Geometry} {s s' : ObservedScene C D}
    {currentTime : NSTimeInterval} {hit : SKHit} (hs : s.scene.WellNumbered)
    (h : s.update o.delegate g currentTime hit = .ok s') (pressed : Option Nat) :
    OnlyNode s (.update currentTime hit) s' pressed ↔
      ∀ node, s.scene.nodeAtPoint hit = some (.floating node) →
        Affects o g s (.update currentTime hit) node → pressed = some node := by
  by_cases hstart : s.scene.StartDue currentTime
  · obtain ⟨node, hnode⟩ : ∃ node, s.scene.nodeAtPoint hit = some (.floating node) := by
      cases update_ok h with
      | idles hnot _ _ => exact absurd hstart hnot
      | starts node _ hnode _ => exact ⟨node, hnode⟩
      | refuses hnot _ _ _ => exact absurd hstart hnot
      | removes _ hnot _ _ _ _ _ => exact absurd hstart hnot
    rw [update_starts_onlyNode o hstart hnode h]
    constructor
    · intro hcondition node' hnode'
      have heq := hnode'.symm.trans hnode
      cases heq
      exact hcondition
    · exact fun hcondition => hcondition node hnode
  · by_cases hremove : s.scene.RemoveDue currentTime
    · exact update_removes_onlyNode o hs hstart hremove h pressed
    · rw [update_eq, if_neg hstart, if_neg hremove] at h
      cases h
      apply iff_of_true
      · exact OnlyNode.quiet _ pressed (fun node => (s.scene.dampNodes_node g node).1) rfl
          (Told.same rfl)
      · intro node _ haffects
        exact absurd haffects (by simp [Affects, hstart, hremove])

section Presses

variable (nodeUnder : SIFloatingCollectionScene C → CGPoint → Option HitNode)

/-- While a finger that was not dragged is on the scene, events of the scene concern only the node
it was put down on. -/
def ConcernsPressed (w : Logged C (D × List Callback)) (event : FloatingEvent C)
    (w' : Logged C (D × List Callback)) : Prop :=
  ∀ sceneEvent, event = .scene sceneEvent →
    (∀ hit, sceneEvent.hit? = some hit → TestsTouchPoint nodeUnder w.1.scene hit) →
    ∀ pressed, w.2.pressed = some pressed → OnlyNode w.1 sceneEvent w'.1 pressed

/-- Meanwhile, whenever an event affects the node under the touch point, that node is the one the
finger was put down on. -/
def StaysUnder (g : Geometry) (w : Logged C (D × List Callback)) (event : FloatingEvent C) :
    Prop :=
  ∀ sceneEvent, event = .scene sceneEvent →
    (∀ hit, sceneEvent.hit? = some hit → TestsTouchPoint nodeUnder w.1.scene hit) →
    ∀ pressed, w.2.pressed = some pressed →
      ∀ node, nodeUnder w.1.scene w.1.scene.touchPoint = some (.floating node) →
        Affects o g w.1 sceneEvent node → pressed = some node

private theorem concernsPressed_step {g : Geometry} {w w' : Logged C (D × List Callback)}
    {event : FloatingEvent C} (hnumbered : w.1.scene.WellNumbered)
    (hrestorable : Restorable w.1.scene) (h : w.1.floatingStep g o.delegate event = .ok w'.1) :
    ConcernsPressed nodeUnder w event w' ↔ StaysUnder o nodeUnder g w event := by
  apply forall_congr'
  intro sceneEvent
  apply imp_congr_right
  rintro rfl
  apply imp_congr_right
  intro htests
  apply forall_congr'
  intro pressed
  apply imp_congr_right
  intro _
  have hquiet : (∀ node, (w'.1.scene.nodes node).state = (w.1.scene.nodes node).state) →
      w'.1.scene.floatingNodes = w.1.scene.floatingNodes →
      w'.1.received = w.1.received → (∀ node, ¬ Affects o g w.1 sceneEvent node) →
      (OnlyNode w.1 sceneEvent w'.1 pressed ↔
        ∀ node, nodeUnder w.1.scene w.1.scene.touchPoint = some (.floating node) →
          Affects o g w.1 sceneEvent node → pressed = some node) := by
    intro hstates hmembers hreceived hnot
    exact iff_of_true (OnlyNode.quiet _ pressed hstates hmembers (Told.same hreceived))
      fun node _ haffects => absurd haffects (hnot node)
  cases sceneEvent with
  | touchesBegan location timestamp =>
      have hs' := (Except.ok.inj h).symm
      exact hquiet (by simp [hs', SIFloatingCollectionScene.touchesBegan])
        (by simp [hs', SIFloatingCollectionScene.touchesBegan]) (by rw [hs']; rfl) fun _ => id
  | touchesMoved previousLocation location =>
      have hs' := (Except.ok.inj h).symm
      rcases w.1.scene.touchesMoved_cases g previousLocation location with hsame | ⟨_, hmoved⟩
      · exact hquiet (by simp [hs', hsame]) (by simp [hs', hsame]) (by rw [hs']; rfl) fun _ => id
      · exact hquiet (by simp [hs', hmoved]) (by simp [hs', hmoved]) (by rw [hs']; rfl)
          fun _ => id
  | touchesEnded timestamp hit =>
      obtain ⟨hattached, hended⟩ := enabled_ok.mp h
      have htest : w.1.scene.nodeAtPoint hit = nodeUnder w.1.scene w.1.scene.touchPoint :=
        htests hit rfl
      rw [ended_onlyNode o (g := g) hrestorable hattached hended, htest]
  | touchesCancelled =>
      have hs' := (Except.ok.inj h).symm
      exact hquiet (by simp [hs', SIFloatingCollectionScene.touchesCancelled])
        (by simp [hs', SIFloatingCollectionScene.touchesCancelled]) (by rw [hs']; rfl) fun _ => id
  | update currentTime hit =>
      obtain ⟨_, hupdated⟩ := enabled_ok.mp h
      have htest : w.1.scene.nodeAtPoint hit = nodeUnder w.1.scene w.1.scene.touchPoint :=
        htests hit rfl
      rw [update_onlyNode o hnumbered hupdated, htest]
  | didSimulatePhysics position =>
      have hs' := (Except.ok.inj h).symm
      exact hquiet (by simp [hs', SIFloatingCollectionScene.didSimulatePhysics])
        (by simp [hs', SIFloatingCollectionScene.didSimulatePhysics]) (by rw [hs']; rfl)
        fun _ => id
  | fadedOut node =>
      obtain ⟨_, hfaded⟩ := enabled_ok.mp h
      have hs' := (Except.ok.inj hfaded).symm
      exact hquiet (by simp [hs']) (by simp [hs']) (by rw [hs']; rfl) fun _ => id

/-- In every run, a single finger that is not dragged affects only the node it was put down on
exactly when, each time the scene acts on the node under the touch point, it is that node. -/
theorem concernsPressed_iff (g : Geometry) (settings : SceneSettings) (blank : SIFloatingNode C)
    (delegate : D) (events : List (FloatingEvent C)) :
    EventRun.EveryStep (loggedStep nodeUnder g o.delegate) (ConcernsPressed nodeUnder)
        (⟨settings.scene blank, (delegate, [])⟩, .init) events ↔
      EventRun.EveryStep (loggedStep nodeUnder g o.delegate)
        (fun w event _ => StaysUnder o nodeUnder g w event)
        (⟨settings.scene blank, (delegate, [])⟩, .init) events := by
  apply EventRun.everyStep_congr (I := fun w => w.1.scene.WellNumbered ∧ Restorable w.1.scene)
  · intro w event w' hw h
    have hstep := floatingStep_ok (EventRun.watch_ok.mp h).1
    exact ⟨floatingStep_wellNumbered hw.1 hstep, floatingStep_restorable hw.2 hstep⟩
  · exact fun w event w' hw h =>
      concernsPressed_step o nodeUnder hw.1 hw.2 (EventRun.watch_ok.mp h).1
  · refine ⟨⟨List.nodup_nil, ?_⟩, scene_restorable settings blank⟩
    intro node hnode
    cases hnode

end Presses

end Affected

/-- The first of two square bubbles that contains the point. -/
def squareUnder (scene : SIFloatingCollectionScene Unit) (point : CGPoint) : Option HitNode :=
  match scene.floatingNodes.find? fun node =>
    |point.x - (scene.nodes node).position.x| ≤ 10 ∧
      |point.y - (scene.nodes node).position.y| ≤ 10 with
  | some node => some (.floating node)
  | none => some .scene

/-- A finger is put down on the first of two bubbles, which then change places. -/
def driftingBubbles : List (FloatingEvent Unit) :=
  [.addChild ⟨⟨20, 20⟩, ⟨20, 20⟩, false, ()⟩, .addChild ⟨⟨70, 70⟩, ⟨20, 20⟩, false, ()⟩,
    .scene (.touchesBegan ⟨20, 20⟩ 1),
    .scene (.didSimulatePhysics fun node => if node = 0 then ⟨70, 70⟩ else ⟨20, 20⟩)]

/-- The finger is lifted, and the second bubble is tapped. -/
theorem drift_tapsOther :
    ¬ EventRun.EveryStep (loggedStep squareUnder axisGeometry Observer.agreeing.delegate)
      (ConcernsPressed squareUnder) (emptyScene, .init)
      (driftingBubbles ++ [.scene (.touchesEnded (11 / 10) [.floating 1])]) := by
  intro h
  have hbefore : (EventRun.run (loggedStep squareUnder axisGeometry Observer.agreeing.delegate)
      (emptyScene, .init) driftingBubbles).toOption.any (fun w =>
        w.2.pressed = some (some 0) ∧ (w.1.scene.nodes 1).state = .normal ∧
          w.1.scene.nodeAtPoint [.floating 1] = squareUnder w.1.scene w.1.scene.touchPoint) =
      true := by
    decide +kernel
  have hafter : (EventRun.run (loggedStep squareUnder axisGeometry Observer.agreeing.delegate)
      (emptyScene, .init)
      (driftingBubbles ++ [.scene (.touchesEnded (11 / 10) [.floating 1])])).toOption.any (fun w =>
        (w.1.scene.nodes 1).state = .tapped) = true := by
    decide +kernel
  obtain ⟨w, hw, hdown⟩ := EventRun.exists_ok_of_any hbefore
  obtain ⟨w', hw', htapped⟩ := EventRun.exists_ok_of_any hafter
  rw [EventRun.run_append _ hw, EventRun.run_singleton] at hw'
  obtain ⟨hpressed, hnormal, htest⟩ := of_decide_eq_true hdown
  have honly := h.last hw hw' (.touchesEnded (11 / 10) [.floating 1]) rfl
    (fun hit hhit => by cases hhit; exact htest) (some 0) hpressed
  have hchanged : (w'.1.scene.nodes 1).state ≠ (w.1.scene.nodes 1).state := by
    rw [of_decide_eq_true htapped, hnormal]
    decide
  exact absurd (honly.states 1 hchanged) (by decide)

end SceneState

end CrowdSound
