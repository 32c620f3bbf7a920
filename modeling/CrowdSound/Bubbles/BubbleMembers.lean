import CrowdSound.Bubbles.SceneRuns

/-!
# Members that are bubbles

Bubbles fade out when they are removed. In a scene to which only bubbles are added, no member is
fading out: it was not removed yet, and numbers are not used twice.
-/

namespace CrowdSound

private theorem SIFloatingNode.setState_fadesOut {C : Type} (floating : SIFloatingNode C)
    (state : SIFloatingNodeState) : (floating.setState state).fadesOut = floating.fadesOut := by
  unfold SIFloatingNode.setState
  split <;> rfl

namespace SIFloatingCollectionScene

variable {C : Type}

/-- Bubbles fade out when they are removed, and a member has not been removed yet. -/
structure BubbleMembers (s : SIFloatingCollectionScene C) : Prop where
  fadesOut : ∀ node ∈ s.floatingNodes, (s.nodes node).fadesOut = true
  notFading : ∀ node ∈ s.floatingNodes, node ∉ s.fadingOut

private theorem updateNode_fadesOut (s : SIFloatingCollectionScene C) (changed : Nat)
    {f : SIFloatingNode C → SIFloatingNode C}
    (hf : ∀ floating, (f floating).fadesOut = floating.fadesOut) (node : Nat) :
    ((s.updateNode changed f).nodes node).fadesOut = (s.nodes node).fadesOut := by
  by_cases hsame : node = changed
  · rw [hsame]
    simp [updateNode, hf]
  · simp [updateNode, hsame]

private theorem frozen_fadesOut (s : SIFloatingCollectionScene C) (frozen node : Nat) :
    ((s.frozen frozen).nodes node).fadesOut = (s.nodes node).fadesOut :=
  s.updateNode_fadesOut frozen
    (fun floating => SIFloatingNode.setState_fadesOut { floating with dynamic := false } _) node

private theorem restored_fadesOut (s : SIFloatingCollectionScene C) (restored node : Nat) :
    ((s.restored restored).nodes node).fadesOut = (s.nodes node).fadesOut :=
  s.updateNode_fadesOut restored
    (fun floating => SIFloatingNode.setState_fadesOut { floating with dynamic := true } _) node

private theorem dampNodes_fadesOut (g : Geometry) (s : SIFloatingCollectionScene C) (node : Nat) :
    ((s.dampNodes g).nodes node).fadesOut = (s.nodes node).fadesOut := by
  unfold dampNodes
  dsimp only
  split <;> rfl

/-- The members are numbered, fade out, and are apart from the bubbles that are fading out. -/
structure BubblesApart (s : SIFloatingCollectionScene C) : Prop where
  numbered : s.WellNumbered
  fadingCreated : ∀ node ∈ s.fadingOut, node < s.created
  bubbles : BubbleMembers s

private theorem BubblesApart.of_nodes {s s' : SIFloatingCollectionScene C} (hs : BubblesApart s)
    (hmembers : s'.floatingNodes = s.floatingNodes) (hcreated : s'.created = s.created)
    (hfading : s'.fadingOut = s.fadingOut)
    (hnodes : ∀ node, (s'.nodes node).fadesOut = (s.nodes node).fadesOut) : BubblesApart s' := by
  refine ⟨hs.numbered.sublist (by rw [hmembers]) hcreated, ?_, ?_, ?_⟩
  · rw [hfading, hcreated]
    exact hs.fadingCreated
  · intro node hnode
    rw [hmembers] at hnode
    rw [hnodes]
    exact hs.bubbles.fadesOut node hnode
  · rw [hmembers, hfading]
    exact hs.bubbles.notFading

private theorem BubblesApart.without {s : SIFloatingCollectionScene C} (hs : BubblesApart s)
    {index : Int} {removed : Nat} (hremoved : objectAtIndex s.floatingNodes index = .ok removed) :
    BubblesApart (s.without index removed) := by
  have hmember := List.mem_of_getElem? ((objectAtIndex_ok _ _ _).mp hremoved).2
  have hfading : (s.without index removed).fadingOut = s.fadingOut ++ [removed] :=
    if_pos (hs.bubbles.fadesOut removed hmember)
  refine ⟨hs.numbered.sublist (List.eraseIdx_sublist _ _) rfl, ?_, ?_, ?_⟩
  · intro node hnode
    rw [hfading] at hnode
    rcases List.mem_append.mp hnode with hnode | hnode
    · exact hs.fadingCreated node hnode
    · rw [List.mem_singleton.mp hnode]
      exact hs.numbered.created removed hmember
  · intro node hnode
    exact hs.bubbles.fadesOut node ((hs.numbered.mem_without hremoved node).mp hnode).1
  · intro node hnode
    obtain ⟨hnode, hne⟩ := (hs.numbered.mem_without hremoved node).mp hnode
    rw [hfading]
    simp [hs.bubbles.notFading node hnode, hne]

private theorem BubblesApart.addChild {s : SIFloatingCollectionScene C} (hs : BubblesApart s)
    {floating : SIFloatingNode C} (hfades : floating.fadesOut = true) :
    BubblesApart (s.addChild floating) := by
  refine ⟨hs.numbered.addChild floating, ?_, ?_, ?_⟩
  · exact fun node hnode => Nat.lt_succ_of_lt (hs.fadingCreated node hnode)
  · intro node hnode
    by_cases hnew : node = s.created
    · simp [SIFloatingCollectionScene.addChild, hnew, configureNode, hfades]
    · have hold : node ∈ s.floatingNodes := by
        simpa [SIFloatingCollectionScene.addChild, hnew] using hnode
      simpa [SIFloatingCollectionScene.addChild, hnew] using hs.bubbles.fadesOut node hold
  · intro node hnode hfading
    by_cases hnew : node = s.created
    · exact absurd (hs.fadingCreated node hfading) (by omega)
    · have hold : node ∈ s.floatingNodes := by
        simpa [SIFloatingCollectionScene.addChild, hnew] using hnode
      exact hs.bubbles.notFading node hold hfading

end SIFloatingCollectionScene

namespace SceneState

open SIFloatingCollectionScene

variable {C D : Type} {g : Geometry} {d : SIFloatingCollectionSceneDelegate C D}

def AddsBubble : FloatingEvent C → Prop
  | .addChild new => new.fadesOut = true
  | _ => True

private theorem ended_bubblesApart {s : SceneState C D} {timestamp : NSTimeInterval} {hit : SKHit}
    {scene' : SIFloatingCollectionScene C} (hs : BubblesApart s.scene)
    (h : EndedStep d s timestamp hit scene') : BubblesApart scene' := by
  cases h with
  | misses _ mode hscene => exact hscene ▸ hs.of_nodes rfl rfl rfl fun _ => rfl
  | settles node _ _ hscene => exact hscene ▸ hs.of_nodes rfl rfl rfl fun _ => rfl
  | longPresses node _ _ _ hscene =>
      exact hscene ▸ hs.of_nodes rfl rfl rfl
        (s.scene.updateNode_fadesOut node fun floating => floating.setState_fadesOut _)
  | taps node _ _ _ _ hscene =>
      exact hscene ▸ hs.of_nodes rfl rfl rfl
        (s.scene.updateNode_fadesOut node fun floating => floating.setState_fadesOut _)
  | cancels node _ _ _ hscene =>
      exact hscene ▸ hs.of_nodes rfl rfl rfl (s.scene.restored_fadesOut node)

private theorem updated_bubblesApart {s : SceneState C D} {currentTime : NSTimeInterval}
    {hit : SKHit} {scene' : SIFloatingCollectionScene C} (hs : BubblesApart s.scene)
    (h : UpdateStep g d s currentTime hit scene') : BubblesApart scene' := by
  have hdamped : BubblesApart (s.scene.dampNodes g) :=
    hs.of_nodes rfl rfl rfl (dampNodes_fadesOut g s.scene)
  cases h with
  | idles _ _ hscene => exact hscene ▸ hdamped
  | starts node _ _ hscene =>
      exact hscene ▸ hdamped.of_nodes rfl rfl rfl ((s.scene.dampNodes g).frozen_fadesOut node)
  | refuses _ _ _ hscene => exact hscene ▸ hdamped.of_nodes rfl rfl rfl fun _ => rfl
  | removes node _ _ _ hmember _ hscene =>
      have hquiet : BubblesApart { s.scene.dampNodes g with removingStartedTime := -1 } :=
        hdamped.of_nodes rfl rfl rfl fun _ => rfl
      exact hscene ▸ hquiet.without (objectAtIndex_indexOfObject hmember)

private theorem floatingStep_bubblesApart {s : SceneState C D} {event : FloatingEvent C}
    {scene' : SIFloatingCollectionScene C} (hs : BubblesApart s.scene) (hadds : AddsBubble event)
    (h : FloatingStep g d s event scene') : BubblesApart scene' := by
  cases h with
  | adds new => exact hs.addChild hadds
  | keeps index => exact hs
  | removes index node hnode => exact hs.without hnode
  | begins location timestamp => exact hs.of_nodes rfl rfl rfl fun _ => rfl
  | moves previousLocation location mode appliedForces =>
      exact hs.of_nodes rfl rfl rfl fun _ => rfl
  | ends timestamp hit _ _ hended => exact ended_bubblesApart hs hended
  | cancels => exact hs.of_nodes rfl rfl rfl fun _ => rfl
  | updates currentTime hit _ _ hupdated => exact updated_bubblesApart hs hupdated
  | simulates position => exact hs.of_nodes rfl rfl rfl fun _ => rfl
  | fades node hfading =>
      refine ⟨⟨hs.numbered.nodup, hs.numbered.created⟩, ?_, hs.bubbles.fadesOut, ?_⟩
      · exact fun other hother => hs.fadingCreated other (List.mem_of_mem_erase hother)
      · exact fun other hother hmem =>
          hs.bubbles.notFading other hother (List.mem_of_mem_erase hmem)

/-- Whatever has happened to a scene of bubbles, a commit can start from it. -/
theorem run_bubbleMembers {settings : SceneSettings} {blank : SIFloatingNode C} {delegate : D}
    {events : List (FloatingEvent C)} {s : SceneState C D}
    (hadds : ∀ event ∈ events, AddsBubble event)
    (h : EventRun.run (floatingStep g d) ⟨settings.scene blank, delegate⟩ events = .ok s) :
    BubbleMembers s.scene := by
  have hstart : BubblesApart (settings.scene blank) := by
    refine ⟨⟨List.nodup_nil, by simp [settings.scene_floatingNodes]⟩, ?_, ?_, ?_⟩
    · intro node hnode
      cases hnode
    · simp [settings.scene_floatingNodes]
    · simp [settings.scene_floatingNodes]
  have hapart := EventRun.run_invariant (I := fun s => BubblesApart s.scene)
    (fun _ _ _ hs hevent hstep => floatingStep_bubblesApart hs hevent (floatingStep_ok hstep))
    hstart hadds h
  exact hapart.bubbles

end SceneState

end CrowdSound
