import CrowdSound.Bubbles.Scene
import CrowdSound.Library.WhileLoop

/-!
# Hit tests

The tree of a scene as its nodes see it, by parent pointers, and the loop that climbs from a hit
towards the scene. A message to nil answers no, and the parent of nil is nil: a climb that has
passed the scene does not end. The scene model reads the same climb off the path of a hit.
-/

namespace CrowdSound

/-- A scene and its descendants, all of them finitely many steps below the scene. `floatingNode`
tells which floating node a node is, if it is one. -/
structure SceneTree (N : Type) where
  scene : N
  parent : N → Option N
  floatingNode : N → Option Nat
  userInteractionEnabled : N → Bool
  parent_none : ∀ node, parent node = none ↔ node = scene
  acyclic : WellFounded fun above below => parent below = some above
  scene_notFloating : floatingNode scene = none

namespace SceneTree

variable {N : Type} (t : SceneTree N)

def Stops (node : N) : Prop :=
  t.floatingNode node ≠ none ∨ t.userInteractionEnabled node = true ∨
    t.parent node = some t.scene

/-- The first node on the way up from a node where a climb may stop. -/
inductive Nearest : N → N → Prop
  | here (node : N) (h : t.Stops node) : Nearest node node
  | above (node parent found : N) (h : ¬ t.Stops node) (hparent : t.parent node = some parent)
      (hfound : Nearest parent found) : Nearest node found

private theorem scene_stops_iff : t.Stops t.scene ↔ t.userInteractionEnabled t.scene = true := by
  have hparent : t.parent t.scene = none := (t.parent_none t.scene).mpr rfl
  simp [Stops, t.scene_notFloating, hparent]

def StepUp (above below : Option N) : Prop :=
  ∃ node, below = some node ∧ above = t.parent node

private theorem stepUp_wellFounded : WellFounded t.StepUp := by
  have hnil : Acc t.StepUp none := by
    constructor
    rintro above ⟨node, hnode, _⟩
    cases hnode
  have hnode : ∀ node, Acc t.StepUp (some node) := by
    intro node
    induction node using t.acyclic.induction with
    | _ node ih =>
        constructor
        rintro above ⟨below, hbelow, habove⟩
        cases hbelow
        cases hparent : t.parent node with
        | none =>
            rw [habove, hparent]
            exact hnil
        | some parent =>
            rw [habove, hparent]
            exact ih parent hparent
  constructor
  intro currentNode
  cases currentNode with
  | none => exact hnil
  | some node => exact hnode node

/-- What the scene model keeps of a node. -/
def kind (node : N) : SKNode :=
  match t.floatingNode node with
  | some floating => .floating floating
  | none => .other (t.userInteractionEnabled node)

/-- The nodes from a hit upwards that are below the scene. -/
inductive Path : N → List N → Prop
  | scene : Path t.scene []
  | child (node parent : N) (path : List N) (hparent : t.parent node = some parent)
      (hpath : Path parent path) : Path node (node :: path)

theorem exists_path (hit : N) : ∃ path, t.Path hit path := by
  induction hit using t.acyclic.induction with
  | _ node ih =>
      cases hparent : t.parent node with
      | none =>
          rw [(t.parent_none node).mp hparent]
          exact ⟨[], .scene⟩
      | some parent =>
          obtain ⟨path, hpath⟩ := ih parent hparent
          exact ⟨node :: path, .child node parent path hparent hpath⟩

private theorem ne_scene_of_parent {node parent : N} (hparent : t.parent node = some parent) :
    node ≠ t.scene := by
  intro hscene
  rw [(t.parent_none node).mpr hscene] at hparent
  cases hparent

private theorem climb_kind (node : N) (path : List SKNode) (hpath : path ≠ [])
    (sceneEnabled : Bool) :
    climb sceneEnabled (t.kind node :: path) =
      if (t.floatingNode node).isSome ∨ t.userInteractionEnabled node = true then
        some (t.kind node).hitNode
      else climb sceneEnabled path := by
  cases path with
  | nil => exact absurd rfl hpath
  | cons next path =>
      unfold kind
      cases hfloating : t.floatingNode node with
      | some floating => simp [climb, SKNode.hitNode]
      | none =>
          cases henabled : t.userInteractionEnabled node with
          | true => simp [climb, SKNode.hitNode]
          | false => simp [climb]

variable [DecidableEq N]

/-- `[currentNode.parent isKindOfClass:SKScene.class]` -/
def isChildOfScene (currentNode : Option N) : Bool :=
  currentNode.bind t.parent = some t.scene

def isFloatingNode (currentNode : Option N) : Bool :=
  (currentNode.bind t.floatingNode).isSome

def isEnabled (currentNode : Option N) : Bool :=
  currentNode.any t.userInteractionEnabled

def climbs (currentNode : Option N) : Bool :=
  !t.isChildOfScene currentNode && !t.isFloatingNode currentNode && !t.isEnabled currentNode

/-- `nodeAtPoint:` on a hit, given up after so many tests. -/
def nodeAtPoint (fuel : Nat) (hit : N) : Option (Option N) :=
  WhileLoop.run t.climbs (fun currentNode => currentNode.bind t.parent) fuel (some hit)

private theorem climbs_nil : t.climbs none = true := rfl

private theorem climbs_iff (node : N) : t.climbs (some node) = true ↔ ¬ t.Stops node := by
  simp [climbs, isChildOfScene, isFloatingNode, isEnabled, Stops, and_comm, and_left_comm,
    and_assoc]

private theorem climbs_false_iff (node : N) : t.climbs (some node) = false ↔ t.Stops node := by
  rw [← Bool.not_eq_true, climbs_iff, not_not]

/-- The climb is on its way up from the hit, still below the scene. -/
def OnTheWay (hit : N) (currentNode : Option N) : Prop :=
  ∃ node, currentNode = some node ∧ node ≠ t.scene ∧
    ∀ found, t.Nearest node found → t.Nearest hit found

private theorem onTheWay_step {hit : N} {currentNode : Option N} (h : t.OnTheWay hit currentNode)
    (hclimbs : t.climbs currentNode = true) :
    t.OnTheWay hit (currentNode.bind t.parent) ∧
      t.StepUp (currentNode.bind t.parent) currentNode := by
  obtain ⟨node, rfl, hscene, hnearest⟩ := h
  have hstops := (t.climbs_iff node).mp hclimbs
  cases hparent : t.parent node with
  | none => exact absurd ((t.parent_none node).mp hparent) hscene
  | some parent =>
      constructor
      · refine ⟨parent, hparent, ?_, ?_⟩
        · -- a child of the scene is where the climb stops
          rintro rfl
          exact hstops (Or.inr (Or.inr hparent))
        · intro found hfound
          exact hnearest found (.above node parent found hstops hparent hfound)
      · exact ⟨node, rfl, rfl⟩

private theorem nodeAtPoint_below {hit : N} (hhit : hit ≠ t.scene) :
    ∃ fuel node, t.nodeAtPoint fuel hit = some (some node) ∧ t.Nearest hit node := by
  have hstart : t.OnTheWay hit (some hit) := ⟨hit, rfl, hhit, fun _ hfound => hfound⟩
  obtain ⟨fuel, ended, hrun, ⟨node, rfl, _, hnearest⟩, hstop⟩ :=
    WhileLoop.terminates t.stepUp_wellFounded
      (fun _ h hclimbs => t.onTheWay_step h hclimbs) hstart
  have hstops := (t.climbs_false_iff node).mp hstop
  exact ⟨fuel, node, hrun, hnearest node (.here node hstops)⟩

private theorem nodeAtPoint_scene (h : t.userInteractionEnabled t.scene = true) :
    t.nodeAtPoint 1 t.scene = some (some t.scene) :=
  WhileLoop.run_stop ((t.climbs_false_iff t.scene).mpr (t.scene_stops_iff.mpr h)) 0

private theorem nodeAtPoint_disabledScene (h : t.userInteractionEnabled t.scene = false)
    (fuel : Nat) :
    t.nodeAtPoint fuel t.scene = none := by
  apply WhileLoop.diverges
    (I := fun currentNode => currentNode = some t.scene ∨ currentNode = none) _ fuel (Or.inl rfl)
  rintro currentNode (rfl | rfl)
  · refine ⟨(t.climbs_iff t.scene).mpr ?_, Or.inr ((t.parent_none t.scene).mpr rfl)⟩
    rw [t.scene_stops_iff, h]
    simp
  · exact ⟨t.climbs_nil, Or.inr rfl⟩

/-- The climb ends at a node: the nearest node where it may stop, or the scene if that was hit. -/
def FindsNode (hit : N) : Prop :=
  ∃ fuel node, t.nodeAtPoint fuel hit = some (some node) ∧
    (if hit = t.scene then node = t.scene else t.Nearest hit node)

/-- The climb finds its node unless the hit is a scene that is not enabled. -/
theorem findsNode_iff (hit : N) :
    t.FindsNode hit ↔ hit ≠ t.scene ∨ t.userInteractionEnabled t.scene = true := by
  constructor
  · rintro ⟨fuel, node, hrun, _⟩
    by_contra hboth
    simp only [not_or, not_not, Bool.not_eq_true] at hboth
    rw [hboth.1, t.nodeAtPoint_disabledScene hboth.2] at hrun
    cases hrun
  · intro h
    by_cases hhit : hit = t.scene
    · have henabled := h.resolve_left (not_not.mpr hhit)
      rw [hhit]
      exact ⟨1, t.scene, t.nodeAtPoint_scene henabled, by rw [if_pos rfl]⟩
    · obtain ⟨fuel, node, hrun, hnearest⟩ := t.nodeAtPoint_below hhit
      exact ⟨fuel, node, hrun, by rw [if_neg hhit]; exact hnearest⟩

/-- A scene without children. -/
def lone (enabled : Bool) : SceneTree Unit where
  scene := ()
  parent _ := none
  floatingNode _ := none
  userInteractionEnabled _ := enabled
  parent_none _ := ⟨fun _ => rfl, fun _ => rfl⟩
  acyclic := by
    constructor
    intro node
    constructor
    intro above habove
    cases habove
  scene_notFloating := rfl

theorem lone_loops : ¬ (lone false).FindsNode () := by
  rintro ⟨fuel, node, hrun, _⟩
  rw [(lone false).nodeAtPoint_disabledScene rfl fuel] at hrun
  cases hrun

def hitNode (node : N) : HitNode :=
  if node = t.scene then .scene else (t.kind node).hitNode

/-- The scene model answers what the loop ends at, and answers nothing when the loop does not
end. -/
theorem climb_path {hit : N} {path : List N} (h : t.Path hit path) :
    (∃ fuel node, t.nodeAtPoint fuel hit = some (some node) ∧
        climb (t.userInteractionEnabled t.scene) (path.map t.kind) = some (t.hitNode node)) ∨
      ((∀ fuel, t.nodeAtPoint fuel hit = none) ∧
        climb (t.userInteractionEnabled t.scene) (path.map t.kind) = none) := by
  induction h with
  | scene =>
      cases henabled : t.userInteractionEnabled t.scene with
      | true =>
          refine Or.inl ⟨1, t.scene, t.nodeAtPoint_scene henabled, ?_⟩
          simp [climb, hitNode]
      | false => exact Or.inr ⟨t.nodeAtPoint_disabledScene henabled, rfl⟩
  | child node parent path hparent hpath ih =>
      have hnode : t.hitNode node = (t.kind node).hitNode :=
        if_neg (t.ne_scene_of_parent hparent)
      by_cases hstops : t.Stops node
      · refine Or.inl ⟨1, node, ?_, ?_⟩
        · exact WhileLoop.run_stop ((t.climbs_false_iff node).mpr hstops) 0
        · rw [hnode, List.map_cons]
          cases hpath with
          | scene => rfl
          | child _ above path habove hpath =>
              rw [climb_kind t node _ (by simp)]
              have hbelow : t.parent node ≠ some t.scene := by
                rw [hparent]
                intro hscene
                exact t.ne_scene_of_parent habove (Option.some.inj hscene)
              have hkind : (t.floatingNode node).isSome ∨
                  t.userInteractionEnabled node = true := by
                rcases hstops with hfloating | henabled | hchild
                · exact Or.inl (Option.isSome_iff_ne_none.mpr hfloating)
                · exact Or.inr henabled
                · exact absurd hchild hbelow
              rw [if_pos hkind]
      · have hclimbs := (t.climbs_iff node).mpr hstops
        have hstep : ∀ fuel, t.nodeAtPoint (fuel + 1) node = t.nodeAtPoint fuel parent := by
          intro fuel
          have hrun : t.nodeAtPoint (fuel + 1) node =
              WhileLoop.run t.climbs (fun currentNode => currentNode.bind t.parent) fuel
                ((some node).bind t.parent) := WhileLoop.run_step hclimbs fuel
          rw [Option.bind_some, hparent] at hrun
          exact hrun
        have hsame : climb (t.userInteractionEnabled t.scene) ((node :: path).map t.kind) =
            climb (t.userInteractionEnabled t.scene) (path.map t.kind) := by
          cases hpath with
          | scene => exact absurd (Or.inr (Or.inr hparent)) hstops
          | child _ above path habove hpath =>
              rw [List.map_cons, climb_kind t node _ (by simp)]
              apply if_neg
              rintro (hfloating | henabled)
              · exact hstops (Or.inl (Option.isSome_iff_ne_none.mp hfloating))
              · exact hstops (Or.inr (Or.inl henabled))
        rw [hsame]
        rcases ih with ⟨fuel, found, hrun, hclimb⟩ | ⟨hnever, hclimb⟩
        · exact Or.inl ⟨fuel + 1, found, (hstep fuel).trans hrun, hclimb⟩
        · refine Or.inr ⟨?_, hclimb⟩
          intro fuel
          cases fuel with
          | zero => rfl
          | succ fuel => exact (hstep fuel).trans (hnever fuel)

end SceneTree

end CrowdSound
