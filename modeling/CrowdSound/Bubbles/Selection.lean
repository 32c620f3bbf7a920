import CrowdSound.Bubbles.SceneRuns

/-!
# Single selection

With single selection, a tap on a node asks for the update of the node that is tapped already.
That node is in state `Tapped`, where an update does nothing, so both stay tapped. Single selection
holds along a run exactly when no touch makes a node tapped while another one is.
-/

namespace CrowdSound

namespace SIFloatingCollectionScene

variable {C : Type}

def AtMostOneTapped (s : SIFloatingCollectionScene C) : Prop :=
  ∀ node ∈ s.floatingNodes, ∀ other ∈ s.floatingNodes,
    (s.nodes node).state = .tapped → (s.nodes other).state = .tapped → node = other

private theorem AtMostOneTapped.of_tapped {s s' : SIFloatingCollectionScene C}
    (hs : s.AtMostOneTapped) (h : ∀ node ∈ s'.floatingNodes, (s'.nodes node).state = .tapped →
      node ∈ s.floatingNodes ∧ (s.nodes node).state = .tapped) : s'.AtMostOneTapped := by
  intro node hnode other hother htapped hothertapped
  obtain ⟨hmember, hstate⟩ := h node hnode htapped
  obtain ⟨hothermember, hotherstate⟩ := h other hother hothertapped
  exact hs node hmember other hothermember hstate hotherstate

/-- A change of one node's state keeps single selection unless it makes a member tapped while
another is. -/
theorem AtMostOneTapped.change {s s' : SIFloatingCollectionScene C} {node : Nat}
    {state : SIFloatingNodeState} (hone : s.AtMostOneTapped)
    (hmembers : s'.floatingNodes = s.floatingNodes)
    (hstates : ∀ other, (s'.nodes other).state =
      if other = node then state else (s.nodes other).state)
    (hstate : state = .tapped → (s.nodes node).state ≠ .tapped) :
    s'.AtMostOneTapped ↔ (state = .tapped → node ∈ s.floatingNodes →
      ∀ other ∈ s.floatingNodes, (s.nodes other).state ≠ .tapped) := by
  constructor
  · intro hone' htapped hnode other hother hothertapped
    have hne : other ≠ node := by
      rintro rfl
      exact hstate htapped hothertapped
    have hsame := hone' other (hmembers ▸ hother) node (hmembers ▸ hnode)
      (by rw [hstates, if_neg hne, hothertapped]) (by rw [hstates, if_pos rfl, htapped])
    exact hne hsame
  · intro halone
    by_cases htap : state = .tapped ∧ node ∈ s.floatingNodes
    · have honly : ∀ other ∈ s'.floatingNodes, (s'.nodes other).state = .tapped →
          other = node := by
        intro other hother hothertapped
        by_contra hne
        rw [hstates, if_neg hne] at hothertapped
        exact halone htap.1 htap.2 other (hmembers ▸ hother) hothertapped
      intro first hfirst second hsecond hfirsttapped hsecondtapped
      rw [honly first hfirst hfirsttapped, honly second hsecond hsecondtapped]
    · apply hone.of_tapped
      intro other hother htapped
      rw [hmembers] at hother
      rw [hstates] at htapped
      split at htapped
      next hsame =>
        rw [hsame] at hother
        exact absurd ⟨htapped, hother⟩ htap
      · exact ⟨hother, htapped⟩

private theorem atMostOneTapped_scene (settings : SceneSettings) (blank : SIFloatingNode C) :
    (settings.scene blank).AtMostOneTapped := by
  simp [AtMostOneTapped, SceneSettings.scene_floatingNodes]

theorem Pressed.unique {s : SIFloatingCollectionScene C} {hit : SKHit} {node other : Nat}
    (hnode : s.Pressed hit node) (hother : s.Pressed hit other) : other = node := by
  have hsame := hother.2.2.symm.trans hnode.2.2
  cases hsame
  rfl

end SIFloatingCollectionScene

namespace SceneState

variable {C D : Type} {g : Geometry} {d : SIFloatingCollectionSceneDelegate C D}

/-- The end of a touch makes the node tapped: a tap that is let through, or the cancelling of a
removal that began when the node was tapped. -/
def TappedBy (d : SIFloatingCollectionSceneDelegate C D) (s : SceneState C D)
    (timestamp : NSTimeInterval) (hit : SKHit) (node : Nat) : Prop :=
  s.scene.Pressed hit node ∧ ¬ s.scene.LongPress timestamp ∧
    (((s.scene.nodes node).state = .normal ∨ (s.scene.nodes node).state = .longPressed) ∧
        (ask d.shouldTapFloatingNodeAtIndex s
          (indexOfObject s.scene.floatingNodes node)).1 = true ∨
      (s.scene.nodes node).state = .removing ∧ (s.scene.nodes node).previousState = .tapped)

/-- When the step makes a member tapped, no member is tapped yet. -/
def TapsAlone (d : SIFloatingCollectionSceneDelegate C D) (s : SceneState C D)
    (event : FloatingEvent C) : Prop :=
  ∀ timestamp hit, event = .scene (.touchesEnded timestamp hit) →
    ∀ node ∈ s.scene.floatingNodes, TappedBy d s timestamp hit node →
      ∀ other ∈ s.scene.floatingNodes, (s.scene.nodes other).state ≠ .tapped

private theorem press_atMostOneTapped {s : SceneState C D} {timestamp : NSTimeInterval}
    {hit : SKHit} {scene' : SIFloatingCollectionScene C} {node : Nat} (state : SIFloatingNodeState)
    (hone : s.scene.AtMostOneTapped) (hpressed : s.scene.Pressed hit node)
    (hmembers : scene'.floatingNodes = s.scene.floatingNodes)
    (hstates : ∀ other, (scene'.nodes other).state =
      if other = node then state else (s.scene.nodes other).state)
    (htapped : TappedBy d s timestamp hit node ↔ state = .tapped)
    (hstate : state = .tapped → (s.scene.nodes node).state ≠ .tapped) :
    scene'.AtMostOneTapped ↔ ∀ node ∈ s.scene.floatingNodes, TappedBy d s timestamp hit node →
      ∀ other ∈ s.scene.floatingNodes, (s.scene.nodes other).state ≠ .tapped := by
  rw [hone.change hmembers hstates hstate]
  constructor
  · intro halone node' hmember htapped'
    rw [hpressed.unique htapped'.1] at hmember htapped'
    exact halone (htapped.mp htapped') hmember
  · intro halone hstate' hmember
    exact halone node hmember (htapped.mpr hstate')

private theorem ended_atMostOneTapped {s : SceneState C D} {timestamp : NSTimeInterval}
    {hit : SKHit} {scene' : SIFloatingCollectionScene C} (hone : s.scene.AtMostOneTapped)
    (h : EndedStep d s timestamp hit scene') :
    scene'.AtMostOneTapped ↔ ∀ node ∈ s.scene.floatingNodes, TappedBy d s timestamp hit node →
      ∀ other ∈ s.scene.floatingNodes, (s.scene.nodes other).state ≠ .tapped := by
  cases h with
  | misses hmiss mode hscene =>
      refine iff_of_true ?_ ?_
      · rw [hscene]
        exact hone
      · intro node _ htapped
        exact absurd htapped.1 (hmiss node)
  | settles node hpressed hsettled hscene =>
      refine iff_of_true ?_ ?_
      · rw [hscene]
        exact hone
      · rintro node' _ ⟨hpressed', hshort, htaps⟩
        rw [hpressed.unique hpressed'] at htaps
        rcases hsettled with hlong | htapped | ⟨hremoving, hrefused⟩
        · exact absurd hlong hshort
        · simp [htapped] at htaps
        · simp [hremoving, hrefused] at htaps
  | longPresses node hpressed hlong _ hscene =>
      apply press_atMostOneTapped .longPressed hone hpressed
      · rw [hscene]
        rfl
      · intro other
        rw [hscene]
        exact s.scene.setState_state node .longPressed other
      · simp [TappedBy, hlong]
      · intro hne
        cases hne
  | taps node hpressed hshort hstate hanswer hscene =>
      apply press_atMostOneTapped .tapped hone hpressed
      · rw [hscene]
        rfl
      · intro other
        rw [hscene]
        exact s.scene.setState_state node .tapped other
      · exact iff_of_true ⟨hpressed, hshort, Or.inl ⟨hstate, hanswer⟩⟩ rfl
      · rcases hstate with hstate | hstate <;> simp [hstate]
  | cancels node hpressed hshort hstate hscene =>
      apply press_atMostOneTapped (s.scene.nodes node).previousState hone hpressed
      · rw [hscene]
        rfl
      · intro other
        rw [hscene]
        exact s.scene.restored_state node other
      · simp [TappedBy, hpressed, hshort, hstate]
      · simp [hstate]

private theorem update_atMostOneTapped {s : SceneState C D} {currentTime : NSTimeInterval}
    {hit : SKHit} {scene' : SIFloatingCollectionScene C} (hone : s.scene.AtMostOneTapped)
    (h : UpdateStep g d s currentTime hit scene') : scene'.AtMostOneTapped := by
  have hdamped : ∀ node, ((s.scene.dampNodes g).nodes node).state = (s.scene.nodes node).state :=
    fun node => (s.scene.dampNodes_node g node).1
  apply hone.of_tapped
  intro node hnode htapped
  cases h with
  | idles _ _ hscene =>
      rw [hscene] at hnode htapped
      exact ⟨hnode, hdamped node ▸ htapped⟩
  | starts started _ _ hscene =>
      rw [hscene] at hnode htapped
      refine ⟨hnode, ?_⟩
      simp only [SIFloatingCollectionScene.frozen_state] at htapped
      split at htapped
      · exact nomatch htapped
      · exact hdamped node ▸ htapped
  | refuses _ _ _ hscene =>
      rw [hscene] at hnode htapped
      exact ⟨hnode, hdamped node ▸ htapped⟩
  | removes removed _ _ _ _ _ hscene =>
      rw [hscene] at hnode htapped
      exact ⟨List.mem_of_mem_eraseIdx hnode, hdamped node ▸ htapped⟩

private theorem floatingStep_atMostOneTapped {s : SceneState C D} {event : FloatingEvent C}
    {scene' : SIFloatingCollectionScene C} (hone : s.scene.AtMostOneTapped)
    (h : FloatingStep g d s event scene') : scene'.AtMostOneTapped ↔ TapsAlone d s event := by
  have hkept : (∀ timestamp hit, event ≠ .scene (.touchesEnded timestamp hit)) →
      scene'.AtMostOneTapped → (scene'.AtMostOneTapped ↔ TapsAlone d s event) :=
    fun hevent hone' => iff_of_true hone' fun timestamp hit heq => absurd heq (hevent timestamp hit)
  cases h with
  | adds new =>
      refine hkept nofun (hone.of_tapped ?_)
      intro node hnode htapped
      dsimp only [SIFloatingCollectionScene.addChild] at hnode htapped
      by_cases hnew : node = s.scene.created
      · rw [hnew, Function.update_self] at htapped
        exact nomatch htapped
      · rw [Function.update_of_ne hnew] at htapped
        have hmember : node ∈ s.scene.floatingNodes := by simpa [hnew] using hnode
        exact ⟨hmember, htapped⟩
  | keeps index => exact hkept nofun hone
  | removes index removed _ =>
      refine hkept nofun (hone.of_tapped ?_)
      exact fun node hnode htapped => ⟨List.mem_of_mem_eraseIdx hnode, htapped⟩
  | begins location timestamp => exact hkept nofun hone
  | moves previousLocation location mode appliedForces => exact hkept nofun hone
  | ends timestamp hit _ _ hended =>
      rw [ended_atMostOneTapped hone hended]
      constructor
      · intro halone timestamp' hit' heq
        cases heq
        exact halone
      · exact fun halone => halone timestamp hit rfl
  | cancels => exact hkept nofun hone
  | updates currentTime hit _ _ hupdated =>
      exact hkept nofun (update_atMostOneTapped hone hupdated)
  | simulates position => exact hkept nofun hone
  | fades node _ => exact hkept nofun hone

/-- In every run of a scene with single selection, at most one node is ever tapped exactly when
no touch makes a node tapped while another one is. -/
theorem singleSelection_iff (g : Geometry) (d : SIFloatingCollectionSceneDelegate C D)
    (settings : SceneSettings) (blank : SIFloatingNode C) (delegate : D)
    (events : List (FloatingEvent C)) :
    EventRun.Throughout (floatingStep g d) (fun s => s.scene.AtMostOneTapped)
        ⟨{ settings with allowMultipleSelection := false }.scene blank, delegate⟩ events ↔
      EventRun.EveryStep (floatingStep g d) (fun s event _ => TapsAlone d s event)
        ⟨{ settings with allowMultipleSelection := false }.scene blank, delegate⟩ events := by
  have hstep : ∀ (s : SceneState C D) (event : FloatingEvent C) (s' : SceneState C D), True →
      s.scene.AtMostOneTapped → s.floatingStep g d event = .ok s' →
        (s'.scene.AtMostOneTapped ↔ TapsAlone d s event) :=
    fun s event s' _ hone h => floatingStep_atMostOneTapped hone (floatingStep_ok h)
  exact EventRun.throughout_iff_everyStep (fun _ _ _ _ _ => trivial) hstep trivial
    (SIFloatingCollectionScene.atMostOneTapped_scene _ blank) events

def singleSelectionScene : SceneState Unit Unit :=
  ⟨{ defaultSettings ⟨100, 100⟩ with allowMultipleSelection := false }.scene
    (.init ⟨⟨0, 0⟩, ⟨20, 20⟩, false, ()⟩), ()⟩

/-- Two bubbles, tapped one after the other. -/
def twoTaps : List (FloatingEvent Unit) :=
  [.addChild ⟨⟨20, 20⟩, ⟨20, 20⟩, false, ()⟩, .addChild ⟨⟨70, 70⟩, ⟨20, 20⟩, false, ()⟩,
    .scene (.touchesBegan ⟨20, 20⟩ 1), .scene (.touchesEnded (11 / 10) [.floating 0]),
    .scene (.touchesBegan ⟨70, 70⟩ 2), .scene (.touchesEnded (21 / 10) [.floating 1])]

theorem twoTaps_bothTapped :
    ¬ EventRun.Throughout (floatingStep axisGeometry noDelegate)
      (fun s => s.scene.AtMostOneTapped) singleSelectionScene twoTaps := by
  intro h
  have hrun : (EventRun.run (floatingStep axisGeometry noDelegate) singleSelectionScene
      twoTaps).toOption.any (fun s =>
        0 ∈ s.scene.floatingNodes ∧ 1 ∈ s.scene.floatingNodes ∧
          (s.scene.nodes 0).state = .tapped ∧ (s.scene.nodes 1).state = .tapped) = true := by
    decide +kernel
  obtain ⟨s, hs, htapped⟩ := EventRun.exists_ok_of_any hrun
  obtain ⟨hzero, hone, hfirst, hsecond⟩ := of_decide_eq_true htapped
  exact absurd (h.last hs 0 hzero 1 hone hfirst hsecond) (by decide)

end SceneState

end CrowdSound
