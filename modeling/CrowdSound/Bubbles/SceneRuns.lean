import CrowdSound.Bubbles.Scene

/-!
# Runs of a floating scene

A scene is set up, nodes are added and removed, fingers touch it and frames update it. What an
update or the end of a touch does to the scene is said once, with the conditions under which it
does so; the delegate is only asked and told.
-/

namespace CrowdSound

open SIFloatingCollectionScene

structure NewNode (C : Type) where
  position : CGPoint
  frameSize : CGSize
  fadesOut : Bool
  content : C

def SIFloatingNode.init {C : Type} (new : NewNode C) : SIFloatingNode C where
  state := .normal
  previousState := .normal
  dynamic := true
  linearDamping := 1 / 10
  position := new.position
  frameSize := new.frameSize
  fadesOut := new.fadesOut
  content := new.content

/-- The properties that the owner of a scene sets. -/
structure SceneSettings where
  size : CGSize
  allowEditing : Bool
  allowMultipleSelection : Bool
  restrictedToBounds : Bool
  timeToStartRemove : NSTimeInterval
  timeToRemove : NSTimeInterval
  pushStrength : ℚ

def SceneSettings.scene {C : Type} (settings : SceneSettings) (blank : SIFloatingNode C) :
    SIFloatingCollectionScene C :=
  { (initWithSize settings.size blank).configureScene with
    allowEditing := settings.allowEditing
    allowMultipleSelection := settings.allowMultipleSelection
    restrictedToBounds := settings.restrictedToBounds
    timeToStartRemove := settings.timeToStartRemove
    timeToRemove := settings.timeToRemove
    pushStrength := settings.pushStrength }

def defaultSettings (size : CGSize) : SceneSettings :=
  ⟨size, false, false, true, 7 / 10, 2, 10000⟩

theorem SceneSettings.scene_floatingNodes {C : Type} (settings : SceneSettings)
    (blank : SIFloatingNode C) : (settings.scene blank).floatingNodes = [] := rfl

/-- A geometry that is exact along the axes. -/
def axisGeometry : Geometry where
  sqrt x := x
  hypot x y := |x| + |y|
  circleFrame radius := ⟨2 * radius, 2 * radius⟩

/-- A delegate without methods. -/
def noDelegate : SIFloatingCollectionSceneDelegate Unit Unit := {}

inductive FloatingEvent (C : Type) where
  | addChild (new : NewNode C)
  | removeFloatingNodeAtIndex (index : Int)
  | scene (event : SceneEvent)

namespace SceneState

variable {C D : Type} (g : Geometry) (d : SIFloatingCollectionSceneDelegate C D)

def floatingStep (s : SceneState C D) : FloatingEvent C → Except Stuck (SceneState C D)
  | .addChild new => .ok { s with scene := s.scene.addChild (.init new) }
  | .removeFloatingNodeAtIndex index => s.removeFloatingNodeAtIndex d index
  | .scene event => s.step g d event

end SceneState

namespace SceneState

variable {C D : Type} {g : Geometry} {d : SIFloatingCollectionSceneDelegate C D}

@[simp] theorem ask_scene (method : Option (DelegateQuestion C D)) (s : SceneState C D)
    (index : Int) : (ask method s index).2.scene = s.scene := by
  cases method <;> rfl

private theorem tell_scene {method : Option (DelegateReport C D)} {s s' : SceneState C D}
    {index : Int} (h : tell method s index = .ok s') : s'.scene = s.scene := by
  cases method with
  | none =>
      cases h
      rfl
  | some method =>
      obtain ⟨delegate, _, hs'⟩ := bind_eq_ok.mp h
      cases hs'
      rfl

@[simp] theorem shouldRemoveNodeAtIndex_scene (s : SceneState C D) (index : Int) :
    (s.shouldRemoveNodeAtIndex d index).2.scene = s.scene := by
  unfold shouldRemoveNodeAtIndex
  split
  · exact ask_scene _ _ _
  · rfl

end SceneState

namespace SIFloatingCollectionScene

variable {C : Type}

/-- Without the node of an index, which may be fading out. -/
def without (s : SIFloatingCollectionScene C) (index : Int) (node : Nat) :
    SIFloatingCollectionScene C :=
  { s with
    floatingNodes := s.floatingNodes.eraseIdx index.toNat
    fadingOut := if (s.nodes node).fadesOut then s.fadingOut ++ [node] else s.fadingOut }

def frozen (s : SIFloatingCollectionScene C) (node : Nat) : SIFloatingCollectionScene C :=
  s.updateNode node fun floating => { floating with dynamic := false }.setState .removing

/-- A node as it was before it was being removed. -/
def restored (s : SIFloatingCollectionScene C) (node : Nat) : SIFloatingCollectionScene C :=
  s.updateNode node fun floating =>
    { floating with dynamic := true }.setState floating.previousState

@[simp] theorem frozen_state (s : SIFloatingCollectionScene C) (node node' : Nat) :
    ((s.frozen node).nodes node').state =
      if node' = node then .removing else (s.nodes node').state := by
  by_cases h : node' = node
  · subst h
    simp only [frozen, updateNode, Function.update_self, SIFloatingNode.setState, if_true]
    split
    · assumption
    · rfl
  · simp [frozen, updateNode, h]

@[simp] theorem frozen_dynamic (s : SIFloatingCollectionScene C) (node : Nat) :
    ((s.frozen node).nodes node).dynamic = false := by
  simp only [frozen, updateNode, Function.update_self, SIFloatingNode.setState]
  split <;> rfl

@[simp] theorem restored_state (s : SIFloatingCollectionScene C) (node node' : Nat) :
    ((s.restored node).nodes node').state =
      if node' = node then (s.nodes node).previousState else (s.nodes node').state := by
  by_cases h : node' = node
  · subst h
    simp only [restored, updateNode, Function.update_self, SIFloatingNode.setState, if_true]
    split
    · assumption
    · rfl
  · simp [restored, updateNode, h]

def StartDue (s : SIFloatingCollectionScene C) (currentTime : NSTimeInterval) : Prop :=
  s.mode ≠ .moving ∧ s.allowEditing = true ∧ s.touchPoint ≠ noTouchPoint ∧
    s.touchStartedTime ≠ -1 ∧ currentTime - s.touchStartedTime > s.timeToStartRemove

def RemoveDue (s : SIFloatingCollectionScene C) (currentTime : NSTimeInterval) : Prop :=
  s.mode = .editing ∧ s.allowEditing = true ∧ s.touchPoint ≠ noTouchPoint ∧
    s.touchStartedTime = -1 ∧ s.removingStartedTime ≠ -1 ∧
    currentTime - s.removingStartedTime > s.timeToRemove

instance (s : SIFloatingCollectionScene C) (currentTime : NSTimeInterval) :
    Decidable (s.StartDue currentTime) := by
  unfold StartDue
  infer_instance

instance (s : SIFloatingCollectionScene C) (currentTime : NSTimeInterval) :
    Decidable (s.RemoveDue currentTime) := by
  unfold RemoveDue
  infer_instance

def Pressed (s : SIFloatingCollectionScene C) (hit : SKHit) (node : Nat) : Prop :=
  s.mode ≠ .moving ∧ s.touchPoint ≠ noTouchPoint ∧ s.nodeAtPoint hit = some (.floating node)

def LongPress (s : SIFloatingCollectionScene C) (timestamp : NSTimeInterval) : Prop :=
  timestamp - s.touchStartedTime > s.longPressTime

end SIFloatingCollectionScene

namespace SIFloatingCollectionScene

variable {C : Type}

theorem isAttached_floating (s : SIFloatingCollectionScene C) (node : Nat) :
    s.isAttached (.floating node) = true ↔ node ∈ s.floatingNodes ∨ node ∈ s.fadingOut := by
  simp [isAttached]

theorem objectAtIndex_indexOfNode {s : SIFloatingCollectionScene C} {found : HitNode} {node : Nat}
    (h : objectAtIndex s.floatingNodes (s.indexOfNode found) = .ok node) :
    found = .floating node ∧ node ∈ s.floatingNodes := by
  cases found with
  | floating floating =>
      by_cases hmember : floating ∈ s.floatingNodes
      · have hsame : node = floating :=
          Except.ok.inj (h.symm.trans (objectAtIndex_indexOfObject hmember))
        rw [hsame]
        exact ⟨rfl, hmember⟩
      · have hindex : s.indexOfNode (.floating floating) = -1 := indexOfObject_of_not_mem hmember
        rw [hindex] at h
        exact nomatch h
  | scene => exact nomatch h
  | other => exact nomatch h

end SIFloatingCollectionScene

namespace SceneState

variable {C D : Type} {g : Geometry} {d : SIFloatingCollectionSceneDelegate C D}

theorem removeFloatingNodeAtIndex_refused {s : SceneState C D} {index : Int}
    (h : (s.shouldRemoveNodeAtIndex d index).1 = false) :
    s.removeFloatingNodeAtIndex d index = .ok (s.shouldRemoveNodeAtIndex d index).2 := by
  unfold removeFloatingNodeAtIndex
  simp [h]

private theorem removeFloatingNodeAtIndex_ok {s s' : SceneState C D} {index : Int}
    (h : s.removeFloatingNodeAtIndex d index = .ok s') :
    ((s.shouldRemoveNodeAtIndex d index).1 = false ∧ s'.scene = s.scene) ∨
      (s.shouldRemoveNodeAtIndex d index).1 = true ∧
        ∃ node, objectAtIndex s.scene.floatingNodes index = .ok node ∧
          s'.scene = s.scene.without index node := by
  have hscene := s.shouldRemoveNodeAtIndex_scene (d := d) index
  unfold removeFloatingNodeAtIndex at h
  generalize s.shouldRemoveNodeAtIndex d index = answered at h hscene
  obtain ⟨answer, asked⟩ := answered
  cases answer with
  | false =>
      cases h
      exact Or.inl ⟨rfl, hscene⟩
  | true =>
      obtain ⟨node, hnode, htell⟩ := bind_eq_ok.mp h
      refine Or.inr ⟨rfl, node, ?_, ?_⟩
      · rw [← hscene]
        exact (mapError_raised_ok _ _).mp hnode
      · rw [tell_scene htell, ← hscene]
        simp only [removeFromParent, without]
        split <;> rfl

private theorem startRemovingNode_ok {s s' : SceneState C D} {node : HitNode}
    (h : s.startRemovingNode d node = .ok s') :
    ∃ floating, node = .floating floating ∧
      s'.scene = { s.scene.frozen floating with mode := .editing } := by
  cases node with
  | floating floating => exact ⟨floating, rfl, tell_scene h⟩
  | scene => exact nomatch h
  | other => exact nomatch h

private theorem cancelRemovingNode_ok {s s' : SceneState C D} {node : Nat}
    (h : s.cancelRemovingNode d node = .ok s') :
    s'.scene = { s.scene.restored node with mode := .normal } :=
  tell_scene h

/-- Ask about a press; when the answer is yes, set the state and report it. -/
def askPress (question : Option (DelegateQuestion C D)) (report : Option (DelegateReport C D))
    (state : SIFloatingNodeState) (s : SceneState C D) (node : Nat) :
    Except Stuck (SceneState C D) :=
  let index := indexOfObject s.scene.floatingNodes node
  let (answer, asked) := ask question s index
  if answer then tell report (asked.setState node state) index else .ok asked

theorem askPress_ok {question : Option (DelegateQuestion C D)}
    {report : Option (DelegateReport C D)} {state : SIFloatingNodeState} {s s' : SceneState C D}
    {node : Nat} (h : askPress question report state s node = .ok s') :
    ((ask question s (indexOfObject s.scene.floatingNodes node)).1 = false ∧
        s'.scene = s.scene) ∨
      ((ask question s (indexOfObject s.scene.floatingNodes node)).1 = true ∧
        s'.scene = s.scene.setState node state) := by
  have hask := ask_scene question s (indexOfObject s.scene.floatingNodes node)
  unfold askPress at h
  dsimp only at h
  split at h
  next hanswer =>
    refine Or.inr ⟨hanswer, ?_⟩
    rw [tell_scene h, setState, hask]
  next hanswer =>
    cases h
    exact Or.inl ⟨by simpa using hanswer, hask⟩

private theorem updateSelectedNode_eq (f : SceneState C D → Nat → Except Stuck (SceneState C D))
    (s : SceneState C D) : s.updateSelectedNode (updateNodeStateBody d f) = .ok s := by
  rw [updateSelectedNode_body]
  unfold updateSelectedNode indexOfTappedNode
  dsimp only
  cases hfound : s.scene.floatingNodes.findIdx? fun node => (s.scene.nodes node).state = .tapped with
  | none => simp
  | some index =>
      obtain ⟨hlt, _, _⟩ := List.findIdx?_eq_some_iff_getElem.mp hfound
      have hobject := (objectAtIndex_natCast s.scene.floatingNodes index _).mpr
        (List.getElem?_eq_getElem hlt)
      simp only [hobject]
      split <;> rfl

theorem updateNodeStateWhenLongPressed_eq {s : SceneState C D} {node : Nat}
    (hstate : (s.scene.nodes node).state = .normal ∨ (s.scene.nodes node).state = .tapped) :
    s.updateNodeStateWhenLongPressed d node = askPress d.shouldLongPressFloatingNodeAtIndex
      d.didLongPressFloatingNodeAtIndex .longPressed s node := by
  rcases hstate with hstate | hstate
  · simp only [updateNodeStateWhenLongPressed, hstate]
    rfl
  · simp only [updateNodeStateWhenLongPressed, hstate]
    rfl

theorem updateNodeState_eq {s : SceneState C D} {node : Nat}
    (hstate : (s.scene.nodes node).state = .normal ∨
      (s.scene.nodes node).state = .longPressed) :
    s.updateNodeState d node = askPress d.shouldTapFloatingNodeAtIndex
      d.didTapFloatingNodeAtIndex .tapped s node := by
  rcases hstate with hstate | hstate
  · rw [updateNodeState, updateNodeStateBody]
    simp only [hstate, updateSelectedNode_eq]
    rfl
  · rw [updateNodeState, updateNodeStateBody]
    simp only [hstate]
    rfl

private theorem updateNodeStateWhenLongPressed_ok {s s' : SceneState C D} {node : Nat}
    (h : s.updateNodeStateWhenLongPressed d node = .ok s') :
    s'.scene = s.scene ∨
      ((s.scene.nodes node).state = .normal ∨ (s.scene.nodes node).state = .tapped) ∧
        s'.scene = s.scene.setState node .longPressed := by
  by_cases hstate : (s.scene.nodes node).state = .normal ∨ (s.scene.nodes node).state = .tapped
  · rw [updateNodeStateWhenLongPressed_eq hstate] at h
    rcases askPress_ok h with ⟨_, hsame⟩ | ⟨_, hset⟩
    · exact Or.inl hsame
    · exact Or.inr ⟨hstate, hset⟩
  · unfold updateNodeStateWhenLongPressed at h
    cases hnode : (s.scene.nodes node).state with
    | normal => exact absurd (Or.inl hnode) hstate
    | tapped => exact absurd (Or.inr hnode) hstate
    | longPressed =>
        simp only [hnode] at h
        cases h
        exact Or.inl rfl
    | removing =>
        simp only [hnode] at h
        cases h
        exact Or.inl rfl

theorem updateNodeState_ok {s s' : SceneState C D} {node : Nat}
    (h : s.updateNodeState d node = .ok s') :
    (((s.scene.nodes node).state = .tapped ∨ (s.scene.nodes node).state ≠ .removing ∧
        (ask d.shouldTapFloatingNodeAtIndex s (indexOfObject s.scene.floatingNodes node)).1 =
          false) ∧ s'.scene = s.scene) ∨
      (((s.scene.nodes node).state = .normal ∨ (s.scene.nodes node).state = .longPressed) ∧
        (ask d.shouldTapFloatingNodeAtIndex s (indexOfObject s.scene.floatingNodes node)).1 =
          true ∧ s'.scene = s.scene.setState node .tapped) ∨
      ((s.scene.nodes node).state = .removing ∧
        s'.scene = { s.scene.restored node with mode := .normal }) := by
  by_cases hstate : (s.scene.nodes node).state = .normal ∨
      (s.scene.nodes node).state = .longPressed
  · have hnot : (s.scene.nodes node).state ≠ .removing := by
      rcases hstate with hstate | hstate <;> rw [hstate] <;> decide
    rw [updateNodeState_eq hstate] at h
    rcases askPress_ok h with ⟨hanswer, hsame⟩ | ⟨hanswer, hset⟩
    · exact Or.inl ⟨Or.inr ⟨hnot, hanswer⟩, hsame⟩
    · exact Or.inr (Or.inl ⟨hstate, hanswer, hset⟩)
  · unfold updateNodeState updateNodeStateBody at h
    cases hnode : (s.scene.nodes node).state with
    | normal => exact absurd (Or.inl hnode) hstate
    | longPressed => exact absurd (Or.inr hnode) hstate
    | tapped =>
        simp only [hnode] at h
        cases h
        exact Or.inl ⟨Or.inl rfl, rfl⟩
    | removing =>
        simp only [hnode] at h
        exact Or.inr (Or.inr ⟨rfl, cancelRemovingNode_ok h⟩)

inductive EndedStep (d : SIFloatingCollectionSceneDelegate C D) (s : SceneState C D)
    (timestamp : NSTimeInterval) (hit : SKHit) (scene' : SIFloatingCollectionScene C) : Prop where
  | misses (hmiss : ∀ node, ¬ s.scene.Pressed hit node)
      (mode : SIFloatingCollectionSceneMode) (hscene : scene' = { s.scene with mode })
  | settles (node : Nat) (hpressed : s.scene.Pressed hit node)
      (hsettled : s.scene.LongPress timestamp ∨ (s.scene.nodes node).state = .tapped ∨
        (s.scene.nodes node).state ≠ .removing ∧ (ask d.shouldTapFloatingNodeAtIndex s
          (indexOfObject s.scene.floatingNodes node)).1 = false)
      (hscene : scene' = { s.scene with mode := .normal })
  | longPresses (node : Nat) (hpressed : s.scene.Pressed hit node)
      (hlong : s.scene.LongPress timestamp)
      (hstate : (s.scene.nodes node).state = .normal ∨ (s.scene.nodes node).state = .tapped)
      (hscene : scene' = { s.scene.setState node .longPressed with mode := .normal })
  | taps (node : Nat) (hpressed : s.scene.Pressed hit node)
      (hshort : ¬ s.scene.LongPress timestamp)
      (hstate : (s.scene.nodes node).state = .normal ∨ (s.scene.nodes node).state = .longPressed)
      (hanswer : (ask d.shouldTapFloatingNodeAtIndex s
        (indexOfObject s.scene.floatingNodes node)).1 = true)
      (hscene : scene' = { s.scene.setState node .tapped with mode := .normal })
  | cancels (node : Nat) (hpressed : s.scene.Pressed hit node)
      (hshort : ¬ s.scene.LongPress timestamp)
      (hstate : (s.scene.nodes node).state = .removing)
      (hscene : scene' = { s.scene.restored node with mode := .normal })

theorem EndedStep.frame {s : SceneState C D} {timestamp : NSTimeInterval} {hit : SKHit}
    {scene' : SIFloatingCollectionScene C} (h : EndedStep d s timestamp hit scene') :
    ∃ nodes mode, scene' = { s.scene with nodes, mode } := by
  cases h with
  | misses _ mode hscene => exact ⟨_, mode, hscene⟩
  | settles node _ _ hscene => exact ⟨_, _, hscene⟩
  | longPresses node _ _ _ hscene => exact ⟨_, _, hscene⟩
  | taps node _ _ _ _ hscene => exact ⟨_, _, hscene⟩
  | cancels node _ _ _ hscene => exact ⟨_, _, hscene⟩

theorem touchesEnded_ok {s s' : SceneState C D} {timestamp : NSTimeInterval} {hit : SKHit}
    (h : s.touchesEnded d timestamp hit = .ok s') : EndedStep d s timestamp hit s'.scene := by
  unfold touchesEnded at h
  split at h
  next hactive =>
    split at h
    · exact nomatch h
    next node hnode =>
      have hpressed : s.scene.Pressed hit node := ⟨hactive.1, hactive.2, hnode⟩
      by_cases hlong : s.scene.LongPress timestamp
      · have hlong' : timestamp - s.scene.touchStartedTime > s.scene.longPressTime := hlong
        rw [if_pos hlong'] at h
        obtain ⟨pressed, hok, hs'⟩ := bind_eq_ok.mp h
        cases hs'
        rcases updateNodeStateWhenLongPressed_ok hok with hsame | ⟨hstate, hset⟩
        · exact .settles node hpressed (Or.inl hlong) (by rw [hsame])
        · exact .longPresses node hpressed hlong hstate (by rw [hset])
      · have hshort : ¬ timestamp - s.scene.touchStartedTime > s.scene.longPressTime := hlong
        rw [if_neg hshort] at h
        obtain ⟨pressed, hok, hs'⟩ := bind_eq_ok.mp h
        cases hs'
        rcases updateNodeState_ok hok with
          ⟨hsettled, hsame⟩ | ⟨hstate, hanswer, hset⟩ | ⟨hstate, hset⟩
        · exact .settles node hpressed (Or.inr hsettled) (by rw [hsame])
        · exact .taps node hpressed hlong hstate hanswer (by rw [hset])
        · exact .cancels node hpressed hlong hstate (by rw [hset])
    next found hother hfound =>
      cases h
      refine .misses ?_ _ rfl
      intro node hpressed
      have hnode := hpressed.2.2
      rw [hfound] at hnode
      exact hother node (Option.some.inj hnode)
  next hactive =>
    cases h
    refine .misses ?_ .normal rfl
    intro node hpressed
    exact hactive ⟨hpressed.1, hpressed.2.1⟩

def removalAllowed (g : Geometry) (d : SIFloatingCollectionSceneDelegate C D)
    (s : SceneState C D) (node : Nat) : Bool :=
  (shouldRemoveNodeAtIndex d
    { s with scene := { s.scene.dampNodes g with removingStartedTime := -1 } }
    (indexOfObject s.scene.floatingNodes node)).1

/-- An update damps the nodes, and starts to remove a node or removes one when that is due. -/
inductive UpdateStep (g : Geometry) (d : SIFloatingCollectionSceneDelegate C D)
    (s : SceneState C D) (currentTime : NSTimeInterval) (hit : SKHit)
    (scene' : SIFloatingCollectionScene C) : Prop where
  | idles (hstart : ¬ s.scene.StartDue currentTime) (hremove : ¬ s.scene.RemoveDue currentTime)
      (hscene : scene' = s.scene.dampNodes g)
  | starts (node : Nat) (hdue : s.scene.StartDue currentTime)
      (hnode : s.scene.nodeAtPoint hit = some (.floating node))
      (hscene : scene' = { (s.scene.dampNodes g).frozen node with
        mode := .editing, touchStartedTime := -1, removingStartedTime := currentTime })
  | refuses (hstart : ¬ s.scene.StartDue currentTime) (hdue : s.scene.RemoveDue currentTime)
      (hrefused : ∀ node ∈ s.scene.floatingNodes,
        s.scene.nodeAtPoint hit = some (.floating node) → s.removalAllowed g d node = false)
      (hscene : scene' = { s.scene.dampNodes g with removingStartedTime := -1 })
  | removes (node : Nat) (hstart : ¬ s.scene.StartDue currentTime)
      (hdue : s.scene.RemoveDue currentTime)
      (hnode : s.scene.nodeAtPoint hit = some (.floating node))
      (hmember : node ∈ s.scene.floatingNodes) (hallowed : s.removalAllowed g d node = true)
      (hscene : scene' = { s.scene.dampNodes g with removingStartedTime := -1 }.without
        (indexOfObject s.scene.floatingNodes node) node)

theorem update_eq (g : Geometry) (d : SIFloatingCollectionSceneDelegate C D) (s : SceneState C D)
    (currentTime : NSTimeInterval) (hit : SKHit) :
    s.update d g currentTime hit =
      if s.scene.StartDue currentTime then
        match s.scene.nodeAtPoint hit with
        | none => .error .loops
        | some node => startRemovingNode d { s with scene := { s.scene.dampNodes g with
            touchStartedTime := -1, removingStartedTime := currentTime } } node
      else if s.scene.RemoveDue currentTime then
        match s.scene.nodeAtPoint hit with
        | none => .error .loops
        | some node => removeFloatingNodeAtIndex d { s with scene := { s.scene.dampNodes g with
            removingStartedTime := -1 } } (s.scene.indexOfNode node)
      else .ok { s with scene := s.scene.dampNodes g } := by
  unfold update
  dsimp only
  split
  next hidle =>
    have hstart : ¬ s.scene.StartDue currentTime := by
      intro hdue
      rcases hidle with hmoving | hediting
      · exact hdue.1 hmoving
      · exact absurd (hdue.2.1.symm.trans hediting) (by decide)
    have hremove : ¬ s.scene.RemoveDue currentTime := by
      intro hdue
      rcases hidle with hmoving | hediting
      · exact absurd (hdue.1.symm.trans hmoving) (by decide)
      · exact absurd (hdue.2.1.symm.trans hediting) (by decide)
    rw [if_neg hstart, if_neg hremove]
  next hactive =>
    obtain ⟨hmoving, hnotediting⟩ := not_or.mp hactive
    have hediting : s.scene.allowEditing = true := eq_true_of_ne_false hnotediting
    split
    next htouch =>
      have hremove : ¬ s.scene.RemoveDue currentTime := fun hdue => htouch.2 hdue.2.2.2.1
      have hstart : s.scene.StartDue currentTime ↔
          currentTime - s.scene.touchStartedTime > s.scene.timeToStartRemove :=
        ⟨fun hdue => hdue.2.2.2.2, fun hlate => ⟨hmoving, hediting, htouch.1, htouch.2, hlate⟩⟩
      rw [if_neg hremove]
      exact if_congr hstart.symm rfl rfl
    next htouch =>
      have hstart : ¬ s.scene.StartDue currentTime :=
        fun hdue => htouch ⟨hdue.2.2.1, hdue.2.2.2.1⟩
      rw [if_neg hstart]
      split
      next hpending =>
        have htime : s.scene.touchStartedTime = -1 := by
          by_contra htime
          exact htouch ⟨hpending.2.2, htime⟩
        have hremove : s.scene.RemoveDue currentTime ↔
            currentTime - s.scene.removingStartedTime > s.scene.timeToRemove :=
          ⟨fun hdue => hdue.2.2.2.2.2,
            fun hlate => ⟨hpending.1, hediting, hpending.2.2, htime, hpending.2.1, hlate⟩⟩
        exact if_congr hremove.symm rfl rfl
      next hpending =>
        have hremove : ¬ s.scene.RemoveDue currentTime :=
          fun hdue => hpending ⟨hdue.1, hdue.2.2.2.2.1, hdue.2.2.1⟩
        rw [if_neg hremove]

theorem update_ok {s s' : SceneState C D} {currentTime : NSTimeInterval} {hit : SKHit}
    (h : s.update d g currentTime hit = .ok s') :
    UpdateStep g d s currentTime hit s'.scene := by
  rw [update_eq] at h
  split at h
  next hdue =>
    split at h
    · exact nomatch h
    next node hnode =>
      obtain ⟨floating, hfloating, hscene⟩ := startRemovingNode_ok h
      rw [hfloating] at hnode
      exact .starts floating hdue hnode hscene
  next hstart =>
    split at h
    next hdue =>
      split at h
      · exact nomatch h
      next node hnode =>
        rcases removeFloatingNodeAtIndex_ok h with
          ⟨hrefused, hscene⟩ | ⟨hallowed, removed, hremoved, hscene⟩
        · refine .refuses hstart hdue ?_ hscene
          intro floating _ hfloating
          rw [hnode] at hfloating
          rw [Option.some.inj hfloating] at hrefused
          exact hrefused
        · obtain ⟨hfloating, hmember⟩ := objectAtIndex_indexOfNode hremoved
          rw [hfloating] at hnode hallowed hscene
          exact .removes removed hstart hdue hnode hmember hallowed hscene
    next hremove =>
      cases h
      exact .idles hstart hremove rfl

inductive FloatingStep (g : Geometry) (d : SIFloatingCollectionSceneDelegate C D)
    (s : SceneState C D) : FloatingEvent C → SIFloatingCollectionScene C → Prop where
  | adds (new : NewNode C) : FloatingStep g d s (.addChild new) (s.scene.addChild (.init new))
  | keeps (index : Int) : FloatingStep g d s (.removeFloatingNodeAtIndex index) s.scene
  | removes (index : Int) (node : Nat) (hnode : objectAtIndex s.scene.floatingNodes index = .ok node) :
      FloatingStep g d s (.removeFloatingNodeAtIndex index) (s.scene.without index node)
  | begins (location : CGPoint) (timestamp : NSTimeInterval) :
      FloatingStep g d s (.scene (.touchesBegan location timestamp))
        (s.scene.touchesBegan location timestamp)
  | moves (previousLocation location : CGPoint) (mode : SIFloatingCollectionSceneMode)
      (appliedForces : List (Nat × CGVector)) :
      FloatingStep g d s (.scene (.touchesMoved previousLocation location))
        { s.scene with mode, appliedForces }
  | ends (timestamp : NSTimeInterval) (hit : SKHit) (scene' : SIFloatingCollectionScene C)
      (hattached : s.scene.Attached hit) (hended : EndedStep d s timestamp hit scene') :
      FloatingStep g d s (.scene (.touchesEnded timestamp hit)) scene'
  | cancels : FloatingStep g d s (.scene .touchesCancelled) s.scene.touchesCancelled
  | updates (currentTime : NSTimeInterval) (hit : SKHit) (scene' : SIFloatingCollectionScene C)
      (hattached : s.scene.Attached hit) (hupdated : UpdateStep g d s currentTime hit scene') :
      FloatingStep g d s (.scene (.update currentTime hit)) scene'
  | simulates (position : Nat → CGPoint) :
      FloatingStep g d s (.scene (.didSimulatePhysics position))
        (s.scene.didSimulatePhysics position)
  | fades (node : Nat) (hfading : node ∈ s.scene.fadingOut) :
      FloatingStep g d s (.scene (.fadedOut node))
        { s.scene with fadingOut := s.scene.fadingOut.erase node }

theorem floatingStep_ok {s s' : SceneState C D} {event : FloatingEvent C}
    (h : s.floatingStep g d event = .ok s') : FloatingStep g d s event s'.scene := by
  cases event with
  | addChild new =>
      cases h
      exact .adds new
  | removeFloatingNodeAtIndex index =>
      rcases removeFloatingNodeAtIndex_ok h with ⟨_, hscene⟩ | ⟨_, node, hnode, hscene⟩
      · rw [hscene]
        exact .keeps index
      · rw [hscene]
        exact .removes index node hnode
  | scene event =>
      cases event with
      | touchesBegan location timestamp =>
          cases h
          exact .begins location timestamp
      | touchesMoved previousLocation location =>
          cases h
          rcases s.scene.touchesMoved_cases g previousLocation location with
            hsame | ⟨appliedForces, hmoved⟩
          · rw [hsame]
            exact .moves previousLocation location s.scene.mode s.scene.appliedForces
          · rw [hmoved]
            exact .moves previousLocation location .moving appliedForces
      | touchesEnded timestamp hit =>
          obtain ⟨hattached, hended⟩ := enabled_ok.mp h
          exact .ends timestamp hit _ hattached (touchesEnded_ok hended)
      | touchesCancelled =>
          cases h
          exact .cancels
      | update currentTime hit =>
          obtain ⟨hattached, hupdated⟩ := enabled_ok.mp h
          exact .updates currentTime hit _ hattached (update_ok hupdated)
      | didSimulatePhysics position =>
          cases h
          exact .simulates position
      | fadedOut node =>
          obtain ⟨hfading, hfaded⟩ := enabled_ok.mp h
          cases hfaded
          exact .fades node hfading

end SceneState

namespace SIFloatingCollectionScene

variable {C : Type}

/-- Members are distinct nodes that have been created. -/
structure WellNumbered (s : SIFloatingCollectionScene C) : Prop where
  nodup : s.floatingNodes.Nodup
  created : ∀ node ∈ s.floatingNodes, node < s.created

theorem WellNumbered.sublist {s s' : SIFloatingCollectionScene C} (hs : s.WellNumbered)
    (hmembers : s'.floatingNodes.Sublist s.floatingNodes) (hcreated : s'.created = s.created) :
    s'.WellNumbered := by
  constructor
  · exact hs.nodup.sublist hmembers
  · intro node hnode
    rw [hcreated]
    exact hs.created node (hmembers.subset hnode)

theorem WellNumbered.mem_without {s : SIFloatingCollectionScene C} (hs : s.WellNumbered)
    {index : Int} {removed : Nat} (hremoved : objectAtIndex s.floatingNodes index = .ok removed)
    (node : Nat) :
    node ∈ (s.without index removed).floatingNodes ↔ node ∈ s.floatingNodes ∧ node ≠ removed := by
  obtain ⟨_, hindex⟩ := (objectAtIndex_ok _ _ _).mp hremoved
  simp only [without, List.mem_eraseIdx_iff_getElem?]
  constructor
  · rintro ⟨i, hne, hi⟩
    refine ⟨List.mem_of_getElem? hi, ?_⟩
    rintro rfl
    obtain ⟨hlt, _⟩ := List.getElem?_eq_some_iff.mp hi
    exact hne ((List.getElem?_inj hlt hs.nodup).mp (hi.trans hindex.symm))
  · rintro ⟨hnode, hne⟩
    obtain ⟨i, hi⟩ := List.getElem?_of_mem hnode
    refine ⟨i, ?_, hi⟩
    intro heq
    rw [heq, hindex] at hi
    exact hne (Option.some.inj hi).symm

theorem WellNumbered.addChild {s : SIFloatingCollectionScene C} (hs : s.WellNumbered)
    (floating : SIFloatingNode C) : (s.addChild floating).WellNumbered := by
  have hnew : s.created ∉ s.floatingNodes := by
    intro hmem
    exact absurd (hs.created s.created hmem) (by omega)
  constructor
  · simp only [SIFloatingCollectionScene.addChild]
    rw [List.nodup_append]
    refine ⟨hs.nodup, by simp, ?_⟩
    rintro node hnode other hother rfl
    exact hnew (List.mem_singleton.mp hother ▸ hnode)
  · intro node hnode
    simp only [SIFloatingCollectionScene.addChild] at hnode ⊢
    rcases List.mem_append.mp hnode with hmember | hlast
    · exact Nat.lt_succ_of_lt (hs.created node hmember)
    · rw [List.mem_singleton.mp hlast]
      exact Nat.lt_succ_self _

end SIFloatingCollectionScene

namespace SceneState

variable {C D : Type} {g : Geometry} {d : SIFloatingCollectionSceneDelegate C D}

theorem floatingStep_wellNumbered {s : SceneState C D} {event : FloatingEvent C}
    {scene' : SIFloatingCollectionScene C} (hs : s.scene.WellNumbered)
    (h : FloatingStep g d s event scene') : scene'.WellNumbered := by
  cases h with
  | adds new => exact hs.addChild _
  | keeps index => exact hs
  | removes index node _ => exact hs.sublist (List.eraseIdx_sublist _ _) rfl
  | begins location timestamp => exact hs.sublist (List.Sublist.refl _) rfl
  | moves previousLocation location mode appliedForces =>
      exact hs.sublist (List.Sublist.refl _) rfl
  | ends timestamp hit _ _ hended =>
      obtain ⟨nodes, mode, hscene⟩ := hended.frame
      exact hs.sublist (by rw [hscene]) (by rw [hscene])
  | cancels => exact hs.sublist (List.Sublist.refl _) rfl
  | updates currentTime hit _ _ hupdated =>
      cases hupdated with
      | idles _ _ hscene => exact hs.sublist (by rw [hscene]; rfl) (by rw [hscene]; rfl)
      | starts node _ _ hscene => exact hs.sublist (by rw [hscene]; rfl) (by rw [hscene]; rfl)
      | refuses _ _ _ hscene => exact hs.sublist (by rw [hscene]; rfl) (by rw [hscene]; rfl)
      | removes node _ _ _ _ _ hscene =>
          exact hs.sublist (by rw [hscene]; exact List.eraseIdx_sublist _ _) (by rw [hscene]; rfl)
  | simulates position => exact hs.sublist (List.Sublist.refl _) rfl
  | fades node _ => exact hs.sublist (List.Sublist.refl _) rfl

end SceneState

end CrowdSound
