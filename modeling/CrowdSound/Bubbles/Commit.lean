import CrowdSound.Bubbles.RemovalIndexes
import CrowdSound.Bubbles.CommitOrder
import CrowdSound.Bubbles.BubbleMembers

/-!
# The commit animation

A commit queues one block for each bubble, which removes the bubble and, if it is tapped, throws
it. A removed bubble fades out and is detached when it has faded out; a throw discards the actions
of the bubble together with what they were to do at their end.
-/

namespace CrowdSound

open SIFloatingCollectionScene

namespace BubbleScene

variable {C D : Type}

/-- `blocks` are the bubbles whose blocks have not run yet, `thrown` the bubbles that were thrown
while attached, and `throwing` those of them whose throw is still running. -/
structure CommitState (C D : Type) where
  state : SceneState C D
  blocks : List Nat
  thrown : List Nat
  throwing : List Nat

/-- A bubble is attached as a member, while it fades out, and after it was thrown. -/
def CommitState.Attached (s : CommitState C D) (node : Nat) : Prop :=
  s.state.scene.isAttached (.floating node) = true ∨ node ∈ s.thrown

instance (s : CommitState C D) (node : Nat) : Decidable (s.Attached node) :=
  inferInstanceAs (Decidable (_ ∨ _))

/-- The sequence of blocks, in the order of the bubbles. -/
def performCommitSelectionAnimation (sorting : Sorting) (g : Geometry) (state : SceneState C D) :
    CommitState C D where
  state := state
  blocks := sortedFloatingNodes sorting g state.scene
  thrown := []
  throwing := []

/-- The completion block that is passed in is not used. A node outside the scene runs no
action. -/
def throwNode (s : CommitState C D) (node : Nat) : CommitState C D :=
  if s.Attached node then
    { s with
      state := { s.state with scene := { s.state.scene with
        fadingOut := s.state.scene.fadingOut.filter (· ≠ node) } }
      thrown := s.thrown ++ [node]
      throwing := s.throwing.filter (· ≠ node) ++ [node] }
  else s

def runBlock (d : SIFloatingCollectionSceneDelegate C D) (s : CommitState C D) (node : Nat) :
    Except Stuck (CommitState C D) := do
  let index := indexOfObject s.state.scene.floatingNodes node
  let state ← s.state.removeFloatingNodeAtIndex d index
  let removed := { s with state }
  return if (state.scene.nodes node).state = .tapped then throwNode removed node else removed

/-- The next block runs, or an action of a bubble ends. -/
inductive CommitEvent where
  | runBlock
  | fadedOut (node : Nat)
  | thrown (node : Nat)

def commitStep (g : Geometry) (d : SIFloatingCollectionSceneDelegate C D) (s : CommitState C D) :
    CommitEvent → Except Stuck (CommitState C D)
  | .runBlock =>
    match s.blocks with
    | [] => .error .notEnabled
    | node :: blocks => runBlock d { s with blocks } node
  | .fadedOut node => do
    let state ← s.state.step g d (.fadedOut node)
    return { s with state }
  | .thrown node =>
    if node ∈ s.throwing then .ok { s with throwing := s.throwing.erase node }
    else .error .notEnabled

/-- The sequence and the actions that it started have finished. -/
structure Finished (members : List Nat) (s : CommitState C D) : Prop where
  blocks : s.blocks = []
  throwing : s.throwing = []
  fading : ∀ node ∈ members, node ∉ s.state.scene.fadingOut

/-- The index of each bubble just before it is removed, in the given order. -/
def indexesBefore : List Nat → List Nat → List Int
  | [], _ => []
  | node :: order, members =>
    indexOfObject members node :: indexesBefore order (members.erase node)

def reports (callbacks : List Callback) : List Callback :=
  callbacks.filter fun callback => callback.method = .didRemove

/-- No member is left, did-remove was reported once for each of them, and all are detached. -/
structure Cleared (o : Observer C D) (order : List Nat) (start : ObservedScene C D)
    (s : CommitState C (D × List Callback)) : Prop where
  members : s.state.scene.floatingNodes = []
  reports : reports (SceneState.newCallbacks start s.state) =
    (indexesBefore order start.scene.floatingNodes).flatMap (o.call .didRemove)
  detached : ∀ node ∈ start.scene.floatingNodes, ¬ s.Attached node

/-- A commit can always be finished, and clears the scene however its actions end. -/
structure CommitClears (sorting : Sorting) (g : Geometry) (o : Observer C D)
    (start : ObservedScene C D) : Prop where
  finishes : ∀ events s, EventRun.run (commitStep g o.delegate)
      (performCommitSelectionAnimation sorting g start) events = .ok s →
    ∃ more final, EventRun.run (commitStep g o.delegate) s more = .ok final ∧
      Finished start.scene.floatingNodes final
  clears : ∀ events final, EventRun.run (commitStep g o.delegate)
      (performCommitSelectionAnimation sorting g start) events = .ok final →
    Finished start.scene.floatingNodes final →
      Cleared o (sortedFloatingNodes sorting g start.scene) start final

private theorem eraseIdx_indexOfObject {members : List Nat} {node : Nat} (h : node ∈ members) :
    members.eraseIdx (indexOfObject members node).toNat = members.erase node := by
  unfold indexOfObject
  rw [List.erase_eq_eraseIdx]
  cases hindex : members.idxOf? node with
  | none => exact absurd h (List.idxOf?_eq_none_iff.mp hindex)
  | some index => rfl

/-- What a block does when its bubble is a member that may be removed. -/
structure BlockRun (o : Observer C D) (s : CommitState C (D × List Callback)) (node : Nat)
    (s' : CommitState C (D × List Callback)) : Prop where
  blocks : s'.blocks = s.blocks
  nodes : s'.state.scene.nodes = s.state.scene.nodes
  members : s'.state.scene.floatingNodes = s.state.scene.floatingNodes.erase node
  received : s'.state.received = s.state.received ++
    (o.call .shouldRemove (indexOfObject s.state.scene.floatingNodes node) ++
      o.call .didRemove (indexOfObject s.state.scene.floatingNodes node))
  tapped : (s.state.scene.nodes node).state = .tapped →
    s'.state.scene.fadingOut = (s.state.scene.fadingOut ++ [node]).filter (· ≠ node) ∧
      s'.thrown = s.thrown ++ [node] ∧
        s'.throwing = s.throwing.filter (· ≠ node) ++ [node]
  untapped : (s.state.scene.nodes node).state ≠ .tapped →
    s'.state.scene.fadingOut = s.state.scene.fadingOut ++ [node] ∧ s'.thrown = s.thrown ∧
      s'.throwing = s.throwing

private theorem runBlock_ok (o : Observer C D) {s : CommitState C (D × List Callback)} {node : Nat}
    (hmember : node ∈ s.state.scene.floatingNodes)
    (hfades : (s.state.scene.nodes node).fadesOut = true)
    (hallows : ∀ state index, SceneState.Allows (C := C) o state index) :
    ∃ s', runBlock o.delegate s node = .ok s' ∧ BlockRun o s node s' := by
  obtain ⟨state, hremove, hscene, hreceived⟩ := SceneState.removeFloatingNodeAtIndex_allowed o
    (objectAtIndex_indexOfObject hmember) (hallows s.state _)
  have hnodes : state.scene.nodes = s.state.scene.nodes := by
    rw [hscene]
    rfl
  have hmembers : state.scene.floatingNodes = s.state.scene.floatingNodes.erase node := by
    rw [hscene]
    exact eraseIdx_indexOfObject hmember
  have hfading : state.scene.fadingOut = s.state.scene.fadingOut ++ [node] := by
    rw [hscene]
    exact if_pos hfades
  by_cases htapped : (s.state.scene.nodes node).state = .tapped
  · have hattached : CommitState.Attached ({ s with state } :
        CommitState C (D × List Callback)) node := by
      refine Or.inl ((SIFloatingCollectionScene.isAttached_floating _ _).mpr (Or.inr ?_))
      simp [hfading]
    refine ⟨throwNode { s with state } node, ?_, ?_⟩
    · have hthrows : (state.scene.nodes node).state = .tapped := by
        rw [hnodes]
        exact htapped
      exact bind_eq_ok.mpr ⟨state, hremove, congrArg Except.ok (if_pos hthrows)⟩
    · unfold throwNode
      rw [if_pos hattached]
      constructor
      · rfl
      · exact hnodes
      · exact hmembers
      · exact hreceived
      · intro _
        rw [← hfading]
        exact ⟨rfl, rfl, rfl⟩
      · exact fun hnot => absurd htapped hnot
  · refine ⟨{ s with state }, ?_, ?_⟩
    · have hthrows : (state.scene.nodes node).state ≠ .tapped := by
        rw [hnodes]
        exact htapped
      exact bind_eq_ok.mpr ⟨state, hremove, congrArg Except.ok (if_neg hthrows)⟩
    · constructor
      · rfl
      · exact hnodes
      · exact hmembers
      · exact hreceived
      · exact fun hyes => absurd hyes htapped
      · exact fun _ => ⟨hfading, rfl, rfl⟩

/-- What holds between the blocks: the bubbles left are the members, each bubble removed so far was
reported, and a tapped bubble stays attached. -/
structure Committing (o : Observer C D) (order : List Nat) (start : ObservedScene C D)
    (s : CommitState C (D × List Callback)) : Prop where
  nodes : s.state.scene.nodes = start.scene.nodes
  members : s.state.scene.floatingNodes ⊆ start.scene.floatingNodes
  blocks : s.blocks.Perm s.state.scene.floatingNodes
  reported : ∃ calls, s.state.received = start.received ++ calls ∧
    reports calls ++
        (indexesBefore s.blocks s.state.scene.floatingNodes).flatMap (o.call .didRemove) =
      (indexesBefore order start.scene.floatingNodes).flatMap (o.call .didRemove)
  stays : ∀ node ∈ start.scene.floatingNodes, (start.scene.nodes node).state = .tapped →
    node ∉ s.state.scene.fadingOut ∧ (node ∈ s.state.scene.floatingNodes ∨ node ∈ s.thrown)
  leaves : ∀ node, (start.scene.nodes node).state ≠ .tapped → node ∉ s.thrown

private theorem performCommitSelectionAnimation_committing (sorting : Sorting) (g : Geometry)
    (o : Observer C D) {start : ObservedScene C D} (hbubbles : BubbleMembers start.scene) :
    Committing o (sortedFloatingNodes sorting g start.scene) start
      (performCommitSelectionAnimation sorting g start) where
  nodes := rfl
  members := fun _ hnode => hnode
  blocks := sorting.perm _ _
  reported := ⟨[], by simp [performCommitSelectionAnimation], rfl⟩
  stays := fun node hnode _ => ⟨hbubbles.notFading node hnode, Or.inl hnode⟩
  leaves := fun _ _ hthrown => by cases hthrown

private theorem reports_call (o : Observer C D) (index : Int) :
    reports (o.call .shouldRemove index ++ o.call .didRemove index) =
      o.call .didRemove index := by
  unfold reports Observer.call
  rw [List.filter_append]
  split <;> split <;> rfl

private theorem reports_append (calls calls' : List Callback) :
    reports (calls ++ calls') = reports calls ++ reports calls' :=
  List.filter_append _ _

theorem Committing.block {o : Observer C D} {order : List Nat} {start : ObservedScene C D}
    {s s' : CommitState C (D × List Callback)} (hs : Committing o order start s) {node : Nat}
    {blocks : List Nat} (hblocks : s.blocks = node :: blocks)
    (h : BlockRun o { s with blocks } node s') : Committing o order start s' := by
  have hmember : node ∈ s.state.scene.floatingNodes :=
    hs.blocks.subset (by simp [hblocks])
  constructor
  · rw [h.nodes]
    exact hs.nodes
  · rw [h.members]
    exact fun other hother => hs.members (List.mem_of_mem_erase hother)
  · rw [h.members, h.blocks]
    have hperm := hs.blocks
    rw [hblocks] at hperm
    simpa using hperm.erase node
  · obtain ⟨calls, hreceived, hreported⟩ := hs.reported
    refine ⟨calls ++ (o.call .shouldRemove (indexOfObject s.state.scene.floatingNodes node) ++
      o.call .didRemove (indexOfObject s.state.scene.floatingNodes node)), ?_, ?_⟩
    · rw [h.received, hreceived, List.append_assoc]
    · rw [reports_append, reports_call, h.members, h.blocks, ← hreported, hblocks,
        indexesBefore, List.flatMap_cons, List.append_assoc]
  · intro other hother htapped
    obtain ⟨hfading, hstays⟩ := hs.stays other hother htapped
    by_cases hsame : other = node
    · subst hsame
      rw [← hs.nodes] at htapped
      obtain ⟨hfading', hthrown, _⟩ := h.tapped htapped
      rw [hfading', hthrown]
      exact ⟨by simp, Or.inr (by simp)⟩
    · have hmembers : other ∈ s'.state.scene.floatingNodes ↔
          other ∈ s.state.scene.floatingNodes := by
        rw [h.members]
        exact List.mem_erase_of_ne hsame
      rw [hmembers]
      by_cases hblock : (s.state.scene.nodes node).state = .tapped
      · obtain ⟨hfading', hthrown, _⟩ := h.tapped hblock
        rw [hfading', hthrown]
        exact ⟨by simp [hfading, hsame], hstays.imp_right fun hthrown => by simp [hthrown]⟩
      · obtain ⟨hfading', hthrown, _⟩ := h.untapped hblock
        rw [hfading', hthrown]
        exact ⟨by simp [hfading, hsame], hstays⟩
  · intro other hother
    have hleaves := hs.leaves other hother
    by_cases hblock : (s.state.scene.nodes node).state = .tapped
    · have hne : other ≠ node := by
        rintro rfl
        rw [hs.nodes] at hblock
        exact hother hblock
      obtain ⟨_, hthrown, _⟩ := h.tapped hblock
      rw [hthrown]
      simp [hleaves, hne]
    · obtain ⟨_, hthrown, _⟩ := h.untapped hblock
      rw [hthrown]
      exact hleaves

section Run

variable {sorting : Sorting} {g : Geometry} {o : Observer C D} {order : List Nat}
  {start : ObservedScene C D} {s s' : CommitState C (D × List Callback)}

private theorem Committing.runs (hs : Committing o order start s)
    (hbubbles : BubbleMembers start.scene)
    (hallows : ∀ state index, SceneState.Allows (C := C) o state index) {node : Nat}
    {blocks : List Nat} (hblocks : s.blocks = node :: blocks) :
    ∃ s', commitStep g o.delegate s .runBlock = .ok s' ∧ BlockRun o { s with blocks } node s' := by
  have hmember : node ∈ s.state.scene.floatingNodes :=
    hs.blocks.subset (by simp [hblocks])
  have hfades : (s.state.scene.nodes node).fadesOut = true := by
    rw [hs.nodes]
    exact hbubbles.fadesOut node (hs.members hmember)
  obtain ⟨s', hrun, hblock⟩ := runBlock_ok o (s := { s with blocks }) hmember hfades hallows
  refine ⟨s', ?_, hblock⟩
  unfold commitStep
  rw [hblocks]
  exact hrun

private theorem fadedOut_ok {node : Nat} (h : commitStep g o.delegate s (.fadedOut node) = .ok s') :
    node ∈ s.state.scene.fadingOut ∧ s' = { s with state := { s.state with scene :=
      { s.state.scene with fadingOut := s.state.scene.fadingOut.erase node } } } := by
  obtain ⟨state, hstep, hs'⟩ := bind_eq_ok.mp h
  obtain ⟨hfading, hstate⟩ := enabled_ok.mp hstep
  cases hstate
  exact ⟨hfading, (Except.ok.inj hs').symm⟩

private theorem commitStep_committing (hs : Committing o order start s)
    (hbubbles : BubbleMembers start.scene)
    (hallows : ∀ state index, SceneState.Allows (C := C) o state index) {event : CommitEvent}
    (h : commitStep g o.delegate s event = .ok s') : Committing o order start s' := by
  cases event with
  | runBlock =>
      cases hblocks : s.blocks with
      | nil =>
          simp only [commitStep, hblocks] at h
          cases h
      | cons node blocks =>
          obtain ⟨next, hnext, hblock⟩ := hs.runs hbubbles hallows hblocks (g := g)
          rw [Except.ok.inj (h.symm.trans hnext)]
          exact hs.block hblocks hblock
  | fadedOut node =>
      obtain ⟨_, hs'⟩ := fadedOut_ok h
      rw [hs']
      refine ⟨hs.nodes, hs.members, hs.blocks, hs.reported, ?_, hs.leaves⟩
      intro other hother htapped
      obtain ⟨hfading, hstays⟩ := hs.stays other hother htapped
      exact ⟨fun hmem => hfading (List.mem_of_mem_erase hmem), hstays⟩
  | thrown node =>
      obtain ⟨_, hs'⟩ := enabled_ok.mp h
      cases hs'
      exact ⟨hs.nodes, hs.members, hs.blocks, hs.reported, hs.stays, hs.leaves⟩

/-- The work that is left: a block leaves at most one running action behind. -/
def work (s : CommitState C (D × List Callback)) : Nat :=
  2 * s.blocks.length + s.state.scene.fadingOut.length + s.throwing.length

private theorem BlockRun.work_lt {node : Nat} {blocks : List Nat}
    (hblocks : s.blocks = node :: blocks)
    (h : BlockRun o { s with blocks } node s') : work s' < work s := by
  have hlength : s'.blocks.length + 1 = s.blocks.length := by
    rw [h.blocks, hblocks]
    rfl
  unfold work
  by_cases htapped : (s.state.scene.nodes node).state = .tapped
  · obtain ⟨hfading, _, hthrowing⟩ := h.tapped htapped
    have hkept := List.length_filter_le (fun other => decide (other ≠ node)) s.throwing
    have hleft := List.length_filter_le (fun other => decide (other ≠ node))
      s.state.scene.fadingOut
    have hnone : [node].filter (fun other => decide (other ≠ node)) = [] := by simp
    rw [hfading, hthrowing, List.filter_append, hnone, List.append_nil, List.length_append,
      List.length_singleton]
    dsimp only
    omega
  · obtain ⟨hfading, _, hthrowing⟩ := h.untapped htapped
    rw [hfading, hthrowing, List.length_append, List.length_singleton]
    dsimp only
    omega

private theorem Committing.progress (hs : Committing o order start s)
    (hbubbles : BubbleMembers start.scene)
    (hallows : ∀ state index, SceneState.Allows (C := C) o state index) :
    Finished start.scene.floatingNodes s ∨
      ∃ event s', commitStep g o.delegate s event = .ok s' ∧ work s' < work s := by
  cases hblocks : s.blocks with
  | cons node blocks =>
      obtain ⟨s', hstep, hblock⟩ := hs.runs hbubbles hallows hblocks (g := g)
      exact Or.inr ⟨.runBlock, s', hstep, hblock.work_lt hblocks⟩
  | nil =>
      cases hthrowing : s.throwing with
      | cons node throwing =>
          refine Or.inr ⟨.thrown node, { s with throwing := s.throwing.erase node }, ?_, ?_⟩
          · exact if_pos (by simp [hthrowing])
          · simp [work, hthrowing]
      | nil =>
          cases hfading : s.state.scene.fadingOut with
          | cons node fadingOut =>
              refine Or.inr ⟨.fadedOut node, { s with state := { s.state with scene :=
                { s.state.scene with fadingOut := s.state.scene.fadingOut.erase node } } }, ?_, ?_⟩
              · have hmember : node ∈ s.state.scene.fadingOut := by simp [hfading]
                exact bind_eq_ok.mpr ⟨_, if_pos hmember, rfl⟩
              · simp [work, hfading]
          | nil => exact Or.inl ⟨hblocks, hthrowing, by simp [hfading]⟩

private theorem Committing.finishes (hs : Committing o order start s)
    (hbubbles : BubbleMembers start.scene)
    (hallows : ∀ state index, SceneState.Allows (C := C) o state index) :
    ∃ events final, EventRun.run (commitStep g o.delegate) s events = .ok final ∧
      Finished start.scene.floatingNodes final := by
  induction hwork : work s using Nat.strong_induction_on generalizing s with
  | _ n ih =>
      rcases hs.progress hbubbles hallows (g := g) with hfinished | ⟨event, s', hstep, hless⟩
      · exact ⟨[], s, rfl, hfinished⟩
      · obtain ⟨events, final, hrun, hfinished⟩ := ih (work s') (hwork ▸ hless)
          (commitStep_committing hs hbubbles hallows hstep) rfl
        refine ⟨event :: events, final, ?_, hfinished⟩
        exact (EventRun.run_cons_ok _ _ _ _).mpr ⟨s', hstep, hrun⟩

private theorem Committing.cleared_iff (hs : Committing o order start s)
    (hfinished : Finished start.scene.floatingNodes s) :
    Cleared o order start s ↔
      ∀ node ∈ start.scene.floatingNodes, (start.scene.nodes node).state ≠ .tapped := by
  have hempty : s.state.scene.floatingNodes = [] := by
    have hperm := hs.blocks
    rw [hfinished.blocks] at hperm
    exact hperm.nil_eq.symm
  constructor
  · intro hcleared node hnode htapped
    obtain ⟨_, hstays⟩ := hs.stays node hnode htapped
    rw [hempty] at hstays
    exact hcleared.detached node hnode (Or.inr (hstays.resolve_left (by simp)))
  · intro huntapped
    obtain ⟨calls, hreceived, hreported⟩ := hs.reported
    constructor
    · exact hempty
    · rw [SceneState.newCallbacks, hreceived, List.drop_left, ← hreported, hfinished.blocks]
      simp [indexesBefore]
    · intro node hnode hattached
      rcases hattached with hattached | hthrown
      · rw [SIFloatingCollectionScene.isAttached_floating, hempty] at hattached
        exact hfinished.fading node hnode (hattached.resolve_left (by simp))
      · exact hs.leaves node (huntapped node hnode) hthrown

/-- A commit clears the scene exactly when no bubble is tapped. -/
theorem commitClears_iff (sorting : Sorting) (g : Geometry) (o : Observer C D)
    (start : ObservedScene C D) (hbubbles : BubbleMembers start.scene)
    (hallows : ∀ state index, SceneState.Allows (C := C) o state index) :
    CommitClears sorting g o start ↔
      ∀ node ∈ start.scene.floatingNodes, (start.scene.nodes node).state ≠ .tapped := by
  have hstart := performCommitSelectionAnimation_committing sorting g o hbubbles
  have hreached : ∀ {events s}, EventRun.run (commitStep g o.delegate)
      (performCommitSelectionAnimation sorting g start) events = .ok s →
        Committing o (sortedFloatingNodes sorting g start.scene) start s := by
    intro events s hrun
    exact EventRun.run_invariant (P := fun _ => True)
      (fun _ _ _ hs _ h => commitStep_committing hs hbubbles hallows h) hstart
      (fun _ _ => trivial) hrun
  constructor
  · intro hclears
    obtain ⟨events, final, hrun, hfinished⟩ := hstart.finishes hbubbles hallows (g := g)
    exact ((hreached hrun).cleared_iff hfinished).mp (hclears.clears events final hrun hfinished)
  · intro huntapped
    constructor
    · intro events s hrun
      exact (hreached hrun).finishes hbubbles hallows
    · intro events final hrun hfinished
      exact ((hreached hrun).cleared_iff hfinished).mpr huntapped

end Run

def insertionSorting : Sorting where
  sortedArrayUsingComparator cmp array := array.insertionSort fun a b => (cmp a b).isLE = true
  perm _ array := List.perm_insertionSort _ array

def oneBubble (state : SIFloatingNodeState) : ObservedScene Unit Unit where
  scene := (((defaultSettings ⟨100, 100⟩).scene (.init ⟨⟨0, 0⟩, ⟨20, 20⟩, true, ()⟩)).addChild
    (.init ⟨⟨50, 60⟩, ⟨20, 20⟩, true, ()⟩)).setState 0 state
  delegate := ((), [])

def twoBubbles : ObservedScene Unit Unit where
  scene := (oneBubble .normal).scene.addChild (.init ⟨⟨20, 30⟩, ⟨20, 20⟩, true, ()⟩)
  delegate := ((), [])

theorem twoBubbles_normal_clears :
    CommitClears insertionSorting axisGeometry Observer.agreeing twoBubbles :=
  (commitClears_iff insertionSorting axisGeometry Observer.agreeing twoBubbles
    ⟨by decide +kernel, by decide +kernel⟩ (fun _ _ => rfl)).mpr (by decide +kernel)

/-- A tapped bubble is thrown, and nothing detaches it when the throw has ended. -/
theorem oneBubble_tapped_stays :
    ¬ CommitClears insertionSorting axisGeometry Observer.agreeing (oneBubble .tapped) := by
  intro hclears
  have hthrown : (EventRun.run (commitStep axisGeometry Observer.agreeing.delegate)
      (performCommitSelectionAnimation insertionSorting axisGeometry (oneBubble .tapped))
      [.runBlock, .thrown 0]).toOption.any (fun s => s.blocks = [] ∧ s.throwing = [] ∧
        s.state.scene.fadingOut = [] ∧ s.Attached 0) = true := by
    decide +kernel
  obtain ⟨final, hrun, hfinal⟩ := EventRun.exists_ok_of_any hthrown
  obtain ⟨hblocks, hthrowing, hfading, hattached⟩ := of_decide_eq_true hfinal
  have hfinished : Finished (oneBubble .tapped).scene.floatingNodes final :=
    ⟨hblocks, hthrowing, by simp [hfading]⟩
  have hcleared := hclears.clears _ final hrun hfinished
  exact hcleared.detached 0 (by decide +kernel) hattached

end BubbleScene

end CrowdSound
