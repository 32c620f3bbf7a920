import CrowdSound.Library.EventRun
import CrowdSound.Foundation
import Mathlib.Algebra.Order.Field.Rat
import Mathlib.Logic.Function.Basic

/-!
# The floating collection scene

Nodes floating around a magnetic field, each in one of four states. A touch that ends without
having moved taps or long-presses the node under it; with editing allowed, a touch that rests on
a node starts removing it. Coordinates and times are rational. SpriteKit answers the hit tests
and moves the nodes: its answers come with the events. A node is its number in the order of
creation.
-/

namespace CrowdSound

structure CGPoint where
  x : ℚ
  y : ℚ
  deriving DecidableEq

structure CGSize where
  width : ℚ
  height : ℚ
  deriving DecidableEq

structure CGVector where
  dx : ℚ
  dy : ℚ
  deriving DecidableEq

abbrev NSTimeInterval := ℚ

/-- The functions of the math library and of SpriteKit's shapes. -/
structure Geometry where
  sqrt : ℚ → ℚ
  hypot : ℚ → ℚ → ℚ
  /-- The frame of a circle of the given radius. -/
  circleFrame : Int → CGSize

inductive SIFloatingNodeState where
  | normal
  | tapped
  | longPressed
  | removing
  deriving DecidableEq

inductive SIFloatingCollectionSceneMode where
  | normal
  | editing
  | moving
  deriving DecidableEq

/-- A floating node; `content` is what its subclass adds, and `fadesOut` tells whether the
`removeAnimation` of the subclass answers an action. -/
structure SIFloatingNode (C : Type) where
  state : SIFloatingNodeState
  previousState : SIFloatingNodeState
  dynamic : Bool
  linearDamping : ℚ
  position : CGPoint
  frameSize : CGSize
  fadesOut : Bool
  content : C

/-- The setter of `state`. -/
def SIFloatingNode.setState {C : Type} (node : SIFloatingNode C) (state : SIFloatingNodeState) :
    SIFloatingNode C :=
  if node.state = state then node
  else { node with previousState := node.state, state }

/-- `fadingOut` are the nodes taken out of `floatingNodes` whose fade-out is still running. -/
structure SIFloatingCollectionScene (C : Type) where
  size : CGSize
  userInteractionEnabled : Bool
  magneticFieldPosition : CGPoint
  mode : SIFloatingCollectionSceneMode
  timeToStartRemove : NSTimeInterval
  timeToRemove : NSTimeInterval
  allowEditing : Bool
  allowMultipleSelection : Bool
  restrictedToBounds : Bool
  pushStrength : ℚ
  touchPoint : CGPoint
  touchStartedTime : NSTimeInterval
  removingStartedTime : NSTimeInterval
  longPressTime : NSTimeInterval
  floatingNodes : List Nat
  nodes : Nat → SIFloatingNode C
  created : Nat
  fadingOut : List Nat
  appliedForces : List (Nat × CGVector)

def noTouchPoint : CGPoint := ⟨-1, -1⟩

section Delegate

variable (C D : Type)

/-- A question to the delegate about an index; asking may change the state of the delegate. -/
abbrev DelegateQuestion := SIFloatingCollectionScene C → Int → D → Bool × D

/-- A report to the delegate about an index, whose answer is not used. -/
abbrev DelegateReport := SIFloatingCollectionScene C → Int → D → Except NSException D

/-- The optional methods that the scene calls. -/
structure SIFloatingCollectionSceneDelegate where
  shouldTapFloatingNodeAtIndex : Option (DelegateQuestion C D) := none
  didTapFloatingNodeAtIndex : Option (DelegateReport C D) := none
  shouldLongPressFloatingNodeAtIndex : Option (DelegateQuestion C D) := none
  didLongPressFloatingNodeAtIndex : Option (DelegateReport C D) := none
  startedRemovingOfFloatingNodeAtIndex : Option (DelegateReport C D) := none
  canceledRemovingOfFloatingNodeAtIndex : Option (DelegateReport C D) := none
  shouldRemoveFloatingNodeAtIndex : Option (DelegateQuestion C D) := none
  didRemoveFloatingNodeAtIndex : Option (DelegateReport C D) := none

structure SceneState where
  scene : SIFloatingCollectionScene C
  delegate : D

end Delegate

/-- A node of the scene tree other than the scene itself. -/
inductive SKNode where
  | floating (node : Nat)
  | other (userInteractionEnabled : Bool)
  deriving DecidableEq

/-- SpriteKit's answer to a hit test: the node that was hit and its ancestors below the scene,
from the hit upwards; empty when the scene itself was hit. -/
abbrev SKHit := List SKNode

/-- A node where the climb of a hit test can end. -/
inductive HitNode where
  | scene
  | floating (node : Nat)
  | other
  deriving DecidableEq

def SKNode.hitNode : SKNode → HitNode
  | floating node => .floating node
  | other _ => .other

/-- Climb to the first node that is a child of the scene, a floating node, or enabled for user
interaction. The parent of the scene is nil, and from nil the climb never ends. -/
def climb (sceneEnabled : Bool) : SKHit → Option HitNode
  | [] => if sceneEnabled then some .scene else none
  | [currentNode] => some currentNode.hitNode
  | .floating node :: _ => some (.floating node)
  | .other userInteractionEnabled :: parent :: ancestors =>
    if userInteractionEnabled then some .other else climb sceneEnabled (parent :: ancestors)

theorem climb_enabled (hit : SKHit) : ∃ node, climb true hit = some node := by
  induction hit with
  | nil => exact ⟨.scene, rfl⟩
  | cons skNode ancestors ih =>
      cases ancestors with
      | nil => exact ⟨skNode.hitNode, rfl⟩
      | cons parent ancestors =>
          cases skNode with
          | floating node => exact ⟨.floating node, rfl⟩
          | other userInteractionEnabled =>
              cases userInteractionEnabled with
              | true => exact ⟨.other, rfl⟩
              | false => exact ih

theorem climb_floating {sceneEnabled : Bool} {hit : SKHit} {node : Nat}
    (h : climb sceneEnabled hit = some (.floating node)) : .floating node ∈ hit := by
  induction hit with
  | nil => cases sceneEnabled <;> exact nomatch h
  | cons skNode ancestors ih =>
      cases ancestors with
      | nil =>
          cases skNode with
          | floating node' =>
              cases h
              exact List.mem_singleton_self _
          | other userInteractionEnabled => exact nomatch h
      | cons parent ancestors =>
          cases skNode with
          | floating node' =>
              cases h
              exact List.mem_cons_self
          | other userInteractionEnabled =>
              cases userInteractionEnabled with
              | true => exact nomatch h
              | false => exact List.mem_cons_of_mem _ (ih h)

namespace SIFloatingCollectionScene

variable {C : Type}

/-- A scene as `initWithSize:` leaves it; a scene is enabled for user interaction. -/
def initWithSize (size : CGSize) (blank : SIFloatingNode C) : SIFloatingCollectionScene C where
  size := size
  userInteractionEnabled := true
  magneticFieldPosition := ⟨0, 0⟩
  mode := .normal
  timeToStartRemove := 7 / 10
  timeToRemove := 2
  allowEditing := false
  allowMultipleSelection := false
  restrictedToBounds := true
  pushStrength := 10000
  touchPoint := noTouchPoint
  touchStartedTime := -1
  removingStartedTime := -1
  longPressTime := 1 / 2
  floatingNodes := []
  nodes := fun _ => blank
  created := 0
  fadingOut := []
  appliedForces := []

/-- `didMoveToView:` places the magnetic field. -/
def configureScene (s : SIFloatingCollectionScene C) : SIFloatingCollectionScene C :=
  { s with magneticFieldPosition := ⟨s.size.width / 2, s.size.height / 2⟩ }

def updateNode (s : SIFloatingCollectionScene C) (node : Nat)
    (f : SIFloatingNode C → SIFloatingNode C) : SIFloatingCollectionScene C :=
  { s with nodes := Function.update s.nodes node (f (s.nodes node)) }

def setState (s : SIFloatingCollectionScene C) (node : Nat) (state : SIFloatingNodeState) :
    SIFloatingCollectionScene C :=
  s.updateNode node fun floating => floating.setState state

@[simp] theorem setState_state (s : SIFloatingCollectionScene C) (node : Nat)
    (state : SIFloatingNodeState) (node' : Nat) :
    ((s.setState node state).nodes node').state =
      if node' = node then state else (s.nodes node').state := by
  by_cases h : node' = node
  · subst h
    simp only [setState, updateNode, Function.update_self, SIFloatingNode.setState, if_true]
    split
    · assumption
    · rfl
  · simp [setState, updateNode, h]

@[simp] theorem setState_content (s : SIFloatingCollectionScene C) (node : Nat)
    (state : SIFloatingNodeState) (node' : Nat) :
    ((s.setState node state).nodes node').content = (s.nodes node').content := by
  by_cases h : node' = node
  · subst h
    simp only [setState, updateNode, Function.update_self, SIFloatingNode.setState]
    split <;> rfl
  · simp [setState, updateNode, h]

def configureNode (floating : SIFloatingNode C) : SIFloatingNode C :=
  { floating with dynamic := true, linearDamping := 3 }

def addChild (s : SIFloatingCollectionScene C) (floating : SIFloatingNode C) :
    SIFloatingCollectionScene C :=
  { s with
    nodes := Function.update s.nodes s.created (configureNode floating)
    created := s.created + 1
    floatingNodes := s.floatingNodes ++ [s.created] }

def nodeAtPoint (s : SIFloatingCollectionScene C) (hit : SKHit) : Option HitNode :=
  climb s.userInteractionEnabled hit

def isAttached (s : SIFloatingCollectionScene C) : SKNode → Bool
  | .floating node => node ∈ s.floatingNodes ∨ node ∈ s.fadingOut
  | .other _ => true

def Attached (s : SIFloatingCollectionScene C) (hit : SKHit) : Prop :=
  ∀ skNode ∈ hit, s.isAttached skNode = true

instance (s : SIFloatingCollectionScene C) (hit : SKHit) : Decidable (s.Attached hit) :=
  inferInstanceAs (Decidable (∀ skNode ∈ hit, s.isAttached skNode = true))

/-- `(int)[_floatingNodes indexOfObject:node]`. -/
def indexOfNode (s : SIFloatingCollectionScene C) : HitNode → Int
  | .floating node => indexOfObject s.floatingNodes node
  | _ => -1

def indexOfTappedNode (s : SIFloatingCollectionScene C) : Int :=
  match s.floatingNodes.findIdx? fun node => (s.nodes node).state = .tapped with
  | some index => index
  | none => -1

def distanceBetweenFirstPoint (g : Geometry) (firstPoint secondPoint : CGPoint) : ℚ :=
  g.hypot (secondPoint.x - firstPoint.x) (secondPoint.y - firstPoint.y)

/-- The damping loop of `update:`. -/
def dampNodes (g : Geometry) (s : SIFloatingCollectionScene C) : SIFloatingCollectionScene C :=
  { s with nodes := fun node =>
      if node ∈ s.floatingNodes then
        let distanceFromCenter := distanceBetweenFirstPoint g s.magneticFieldPosition
          (s.nodes node).position
        { s.nodes node with linearDamping :=
            if distanceFromCenter > 100 then 2 else 2 + (100 - distanceFromCenter) / 10 }
      else s.nodes node }

def touchesBegan (s : SIFloatingCollectionScene C) (location : CGPoint)
    (timestamp : NSTimeInterval) : SIFloatingCollectionScene C :=
  { s with touchPoint := location, touchStartedTime := timestamp }

def pushForce (s : SIFloatingCollectionScene C) (floating : SIFloatingNode C) (dx dy : ℚ) :
    CGVector :=
  let w := floating.frameSize.width / 2
  let h := floating.frameSize.height / 2
  let outsideX := floating.position.x < -w ∨ floating.position.x > s.size.width + w
  let outsideY := floating.position.y < -h ∨ floating.position.y > s.size.height + h
  { dx := if s.restrictedToBounds ∧ outsideX ∧ floating.position.x * dx > 0 then 0
      else s.pushStrength * dx
    dy := if s.restrictedToBounds ∧ outsideY ∧ floating.position.y * dy > 0 then 0
      else s.pushStrength * dy }

/-- The displacement of a drag, scaled by the distance of the finger from the origin. -/
def scaledDisplacement (g : Geometry) (previousLocation location : CGPoint) : CGVector :=
  let b := g.sqrt (location.x ^ 2 + location.y ^ 2)
  { dx := if b = 0 then 0 else (location.x - previousLocation.x) / b
    dy := if b = 0 then 0 else (location.y - previousLocation.y) / b }

def touchesMoved (g : Geometry) (s : SIFloatingCollectionScene C)
    (previousLocation location : CGPoint) : SIFloatingCollectionScene C :=
  if s.mode = .editing then s
  else
    let displacement := scaledDisplacement g previousLocation location
    if displacement.dx = 0 ∧ displacement.dy = 0 then s
    else
      { s with
        mode := .moving
        appliedForces := s.appliedForces ++ s.floatingNodes.map fun node =>
          (node, s.pushForce (s.nodes node) displacement.dx displacement.dy) }

theorem touchesMoved_cases (g : Geometry) (s : SIFloatingCollectionScene C)
    (previousLocation location : CGPoint) :
    s.touchesMoved g previousLocation location = s ∨
      ∃ appliedForces, s.touchesMoved g previousLocation location =
        { s with mode := .moving, appliedForces } := by
  unfold touchesMoved
  split
  · exact Or.inl rfl
  · dsimp only
    split
    · exact Or.inl rfl
    · exact Or.inr ⟨_, rfl⟩

theorem dampNodes_node (g : Geometry) (s : SIFloatingCollectionScene C) (node : Nat) :
    ((s.dampNodes g).nodes node).state = (s.nodes node).state ∧
      ((s.dampNodes g).nodes node).content = (s.nodes node).content := by
  unfold dampNodes
  dsimp only
  split
  · exact ⟨rfl, rfl⟩
  · exact ⟨rfl, rfl⟩

def touchesCancelled (s : SIFloatingCollectionScene C) : SIFloatingCollectionScene C :=
  { s with mode := .normal }

/-- SpriteKit moves the nodes. -/
def didSimulatePhysics (s : SIFloatingCollectionScene C) (position : Nat → CGPoint) :
    SIFloatingCollectionScene C :=
  { s with nodes := fun node => { s.nodes node with position := position node } }

end SIFloatingCollectionScene

namespace SceneState

variable {C D : Type}

/-- An absent method means yes. -/
def ask (method : Option (DelegateQuestion C D)) (s : SceneState C D) (index : Int) :
    Bool × SceneState C D :=
  match method with
  | none => (true, s)
  | some method =>
    let (answer, delegate) := method s.scene index s.delegate
    (answer, { s with delegate })

def tell (method : Option (DelegateReport C D)) (s : SceneState C D) (index : Int) :
    Except Stuck (SceneState C D) :=
  match method with
  | none => .ok s
  | some method => do
    let delegate ← (method s.scene index s.delegate).mapError .raised
    return { s with delegate }

def setState (s : SceneState C D) (node : Nat) (state : SIFloatingNodeState) :
    SceneState C D :=
  { s with scene := s.scene.setState node state }

variable (d : SIFloatingCollectionSceneDelegate C D)

/-- The bound is inclusive. -/
def shouldRemoveNodeAtIndex (s : SceneState C D) (index : Int) : Bool × SceneState C D :=
  if 0 ≤ index ∧ index ≤ s.scene.floatingNodes.length then
    ask d.shouldRemoveFloatingNodeAtIndex s index
  else (false, s)

/-- A node whose `removeAnimation` answers an action stays attached until it has faded out. -/
def removeFromParent (s : SceneState C D) (node : Nat) : SceneState C D :=
  if (s.scene.nodes node).fadesOut then
    { s with scene := { s.scene with fadingOut := s.scene.fadingOut ++ [node] } }
  else s

def removeFloatingNodeAtIndex (s : SceneState C D) (index : Int) :
    Except Stuck (SceneState C D) :=
  let (answer, s) := s.shouldRemoveNodeAtIndex d index
  if answer then do
    let node ← (objectAtIndex s.scene.floatingNodes index).mapError .raised
    let removed := { s with scene := { s.scene with
      floatingNodes := s.scene.floatingNodes.eraseIdx index.toNat } }
    tell d.didRemoveFloatingNodeAtIndex (removed.removeFromParent node) index
  else .ok s

/-- A node that is not a floating node does not recognize the setter of `state`. -/
def startRemovingNode (s : SceneState C D) (node : HitNode) : Except Stuck (SceneState C D) :=
  match node with
  | .floating floating =>
    let frozen := s.scene.updateNode floating fun floating =>
      { floating with dynamic := false }.setState .removing
    let started := { s with scene := { frozen with mode := .editing } }
    tell d.startedRemovingOfFloatingNodeAtIndex started
      (indexOfObject s.scene.floatingNodes floating)
  | _ => .error (.raised .invalidArgumentException)

def cancelRemovingNode (s : SceneState C D) (node : Nat) : Except Stuck (SceneState C D) :=
  let restored := s.scene.updateNode node fun floating =>
    { floating with dynamic := true }.setState floating.previousState
  let canceled := { s with scene := { restored with mode := .normal } }
  tell d.canceledRemovingOfFloatingNodeAtIndex canceled
    (indexOfObject s.scene.floatingNodes node)

def updateNodeStateWhenLongPressed (s : SceneState C D) (node : Nat) :
    Except Stuck (SceneState C D) :=
  let index := indexOfObject s.scene.floatingNodes node
  match (s.scene.nodes node).state with
  | .normal | .tapped =>
    let (answer, s) := ask d.shouldLongPressFloatingNodeAtIndex s index
    if answer then tell d.didLongPressFloatingNodeAtIndex (s.setState node .longPressed) index
    else .ok s
  | .longPressed | .removing => .ok s

/-- With single selection, update the state of the node that is tapped. -/
def updateSelectedNode
    (updateNodeState : SceneState C D → Nat → Except Stuck (SceneState C D))
    (s : SceneState C D) : Except Stuck (SceneState C D) :=
  let selectedIndex := s.scene.indexOfTappedNode
  if s.scene.allowMultipleSelection = false ∧ selectedIndex ≠ -1 then
    match objectAtIndex s.scene.floatingNodes selectedIndex with
    | .ok selected => updateNodeState s selected
    | .error exception => .error (.raised exception)
  else .ok s

/-- The body of `updateNodeState:`, with the method it calls recursively. -/
def updateNodeStateBody
    (updateNodeState : SceneState C D → Nat → Except Stuck (SceneState C D))
    (s : SceneState C D) (node : Nat) : Except Stuck (SceneState C D) :=
  let index := indexOfObject s.scene.floatingNodes node
  match (s.scene.nodes node).state with
  | .normal =>
    let (answer, s) := ask d.shouldTapFloatingNodeAtIndex s index
    if answer then do
      let s ← s.updateSelectedNode updateNodeState
      tell d.didTapFloatingNodeAtIndex (s.setState node .tapped) index
    else .ok s
  | .longPressed =>
    let (answer, s) := ask d.shouldTapFloatingNodeAtIndex s index
    if answer then tell d.didTapFloatingNodeAtIndex (s.setState node .tapped) index
    else .ok s
  | .removing => s.cancelRemovingNode d node
  | .tapped => .ok s

/-- The recursive call is made on a tapped node, which ends it at once. -/
def updateNodeState (s : SceneState C D) (node : Nat) : Except Stuck (SceneState C D) :=
  updateNodeStateBody d (updateNodeStateBody d fun _ _ => .error .loops) s node

theorem updateNodeStateBody_tapped
    (updateNodeState : SceneState C D → Nat → Except Stuck (SceneState C D))
    (s : SceneState C D) (node : Nat) (h : (s.scene.nodes node).state = .tapped) :
    updateNodeStateBody d updateNodeState s node = .ok s := by
  simp only [updateNodeStateBody, h]

private theorem indexOfTappedNode_tapped {scene : SIFloatingCollectionScene C} {node : Nat}
    (h : objectAtIndex scene.floatingNodes scene.indexOfTappedNode = .ok node) :
    (scene.nodes node).state = .tapped := by
  unfold SIFloatingCollectionScene.indexOfTappedNode at h
  cases hi : scene.floatingNodes.findIdx? fun node => (scene.nodes node).state = .tapped with
  | none =>
      rw [hi] at h
      simp [objectAtIndex] at h
  | some index =>
      rw [hi, objectAtIndex_natCast] at h
      obtain ⟨hlt, htapped, _⟩ := List.findIdx?_eq_some_iff_getElem.mp hi
      have hnode : scene.floatingNodes[index] = node := by
        rw [List.getElem?_eq_getElem hlt] at h
        exact Option.some.inj h
      rw [← hnode]
      exact of_decide_eq_true htapped

theorem updateSelectedNode_body
    (updateNodeState : SceneState C D → Nat → Except Stuck (SceneState C D))
    (s : SceneState C D) :
    s.updateSelectedNode (updateNodeStateBody d updateNodeState) =
      s.updateSelectedNode fun s _ => .ok s := by
  unfold updateSelectedNode
  dsimp only
  split
  · cases hs : objectAtIndex s.scene.floatingNodes s.scene.indexOfTappedNode with
    | error x => rfl
    | ok selected =>
        exact updateNodeStateBody_tapped d updateNodeState s selected (indexOfTappedNode_tapped hs)
  · rfl

private theorem updateNodeStateBody_body
    (updateNodeState : SceneState C D → Nat → Except Stuck (SceneState C D))
    (s : SceneState C D) (node : Nat) :
    updateNodeStateBody d (updateNodeStateBody d updateNodeState) s node =
      updateNodeStateBody d (fun s _ => .ok s) s node := by
  unfold updateNodeStateBody
  cases (s.scene.nodes node).state with
  | normal =>
      dsimp only
      split
      · have hselected := updateSelectedNode_body d updateNodeState
          (ask d.shouldTapFloatingNodeAtIndex s (indexOfObject s.scene.floatingNodes node)).2
        unfold updateNodeStateBody at hselected
        rw [hselected]
      · rfl
  | tapped => rfl
  | longPressed => rfl
  | removing => rfl

theorem updateNodeState_rec (s : SceneState C D) (node : Nat) :
    s.updateNodeState d node = updateNodeStateBody d (updateNodeState d) s node := by
  have hrec := updateNodeStateBody_body d (updateNodeStateBody d fun _ _ => .error .loops) s node
  exact (updateNodeStateBody_body d _ s node).trans hrec.symm

def touchesEnded (s : SceneState C D) (timestamp : NSTimeInterval) (hit : SKHit) :
    Except Stuck (SceneState C D) :=
  if s.scene.mode ≠ .moving ∧ s.scene.touchPoint ≠ noTouchPoint then
    match s.scene.nodeAtPoint hit with
    | none => .error .loops
    | some (.floating node) => do
      let s ← if timestamp - s.scene.touchStartedTime > s.scene.longPressTime then
          s.updateNodeStateWhenLongPressed d node
        else s.updateNodeState d node
      return { s with scene := { s.scene with mode := .normal } }
    | some _ => .ok s
  else .ok { s with scene := { s.scene with mode := .normal } }

def update (g : Geometry) (s : SceneState C D) (currentTime : NSTimeInterval) (hit : SKHit) :
    Except Stuck (SceneState C D) :=
  let s := { s with scene := s.scene.dampNodes g }
  if s.scene.mode = .moving ∨ s.scene.allowEditing = false then .ok s
  else if s.scene.touchPoint ≠ noTouchPoint ∧ s.scene.touchStartedTime ≠ -1 then
    if currentTime - s.scene.touchStartedTime > s.scene.timeToStartRemove then
      match s.scene.nodeAtPoint hit with
      | none => .error .loops
      | some node => startRemovingNode d { s with scene := { s.scene with
          touchStartedTime := -1, removingStartedTime := currentTime } } node
    else .ok s
  else if s.scene.mode = .editing ∧ s.scene.removingStartedTime ≠ -1 ∧
      s.scene.touchPoint ≠ noTouchPoint then
    if currentTime - s.scene.removingStartedTime > s.scene.timeToRemove then
      match s.scene.nodeAtPoint hit with
      | none => .error .loops
      | some node => removeFloatingNodeAtIndex d { s with scene := { s.scene with
          removingStartedTime := -1 } } (s.scene.indexOfNode node)
    else .ok s
  else .ok s

theorem update_of_not_allowEditing (g : Geometry) (s : SceneState C D)
    (currentTime : NSTimeInterval) (hit : SKHit) (h : s.scene.allowEditing = false) :
    s.update d g currentTime hit = .ok { s with scene := s.scene.dampNodes g } := by
  have hediting : (s.scene.dampNodes g).allowEditing = false := h
  simp only [update, hediting, or_true, if_true]

end SceneState

/-- What happens to a scene, with SpriteKit's answer to the hit test where one is made. -/
inductive SceneEvent where
  | touchesBegan (location : CGPoint) (timestamp : NSTimeInterval)
  | touchesMoved (previousLocation location : CGPoint)
  | touchesEnded (timestamp : NSTimeInterval) (hit : SKHit)
  | touchesCancelled
  | update (currentTime : NSTimeInterval) (hit : SKHit)
  | didSimulatePhysics (position : Nat → CGPoint)
  | fadedOut (node : Nat)

namespace SceneState

variable {C D : Type}

/-- SpriteKit only hits nodes that are attached to the scene. -/
def step (g : Geometry) (d : SIFloatingCollectionSceneDelegate C D) (s : SceneState C D)
    (event : SceneEvent) : Except Stuck (SceneState C D) :=
  match event with
  | .touchesBegan location timestamp =>
    .ok { s with scene := s.scene.touchesBegan location timestamp }
  | .touchesMoved previousLocation location =>
    .ok { s with scene := s.scene.touchesMoved g previousLocation location }
  | .touchesEnded timestamp hit =>
    if s.scene.Attached hit then s.touchesEnded d timestamp hit else .error .notEnabled
  | .touchesCancelled => .ok { s with scene := s.scene.touchesCancelled }
  | .update currentTime hit =>
    if s.scene.Attached hit then s.update d g currentTime hit else .error .notEnabled
  | .didSimulatePhysics position =>
    .ok { s with scene := s.scene.didSimulatePhysics position }
  | .fadedOut node =>
    if node ∈ s.scene.fadingOut then
      .ok { s with scene := { s.scene with fadingOut := s.scene.fadingOut.erase node } }
    else .error .notEnabled

end SceneState

end CrowdSound
