import CrowdSound.Bubbles.Callbacks
import CrowdSound.Bubbles.Removals
import Mathlib.Tactic.Linarith

/-!
# Letting go

An update that starts a removal sets the start of the touch to the value that stands for none. The
end of the touch takes it for a time: every release then counts as a long press, which does nothing
to a node that is being removed, and a cancelled touch only resets the mode.
-/

namespace CrowdSound

namespace SceneState

variable {C D : Type}

def Releases (event : FloatingEvent C) : Prop :=
  (∃ timestamp hit, 0 < timestamp ∧ event = .scene (.touchesEnded timestamp hit)) ∨
    event = .scene .touchesCancelled

/-- The node is as it was before its removal was started, and the delegate was told so once. -/
def RemovalCanceled (o : Observer C D) (removal : StartedRemoval) (s s' : ObservedScene C D) :
    Prop :=
  (s'.scene.nodes removal.node).state = removal.before ∧
    (s'.scene.nodes removal.node).dynamic = true ∧ s'.scene.mode = .normal ∧
    (o.responds .canceledRemoving = true → (s'.received.drop s.received.length).count
      ⟨.canceledRemoving, indexOfObject s.scene.floatingNodes removal.node⟩ = 1)

theorem release_keepsRemoving {g : Geometry} {d : SIFloatingCollectionSceneDelegate C D}
    {s : SceneState C D} {log : TouchLog} {event : FloatingEvent C}
    {scene' : SIFloatingCollectionScene C} {removal : StartedRemoval} (h : Tracked s.scene log)
    (hstarted : log.started = some removal) (hrelease : Releases event)
    (hstep : FloatingStep g d s event scene') :
    (scene'.nodes removal.node).state = .removing ∧
      (scene'.nodes removal.node).dynamic = false := by
  obtain ⟨hstate, hdynamic⟩ := h.frozen removal hstarted
  obtain ⟨htouch, _⟩ := h.started removal hstarted
  rcases hrelease with ⟨timestamp, hit, hpositive, rfl⟩ | rfl
  · cases hstep with
    | ends _ _ _ _ hended =>
      -- without a start the touch seems to have begun one second before all times
      have hlong : s.scene.LongPress timestamp := by
        show timestamp - s.scene.touchStartedTime > s.scene.longPressTime
        rw [htouch, h.longPress]
        linarith
      cases hended with
      | misses _ mode hscene =>
          rw [hscene]
          exact ⟨hstate, hdynamic⟩
      | settles node _ _ hscene =>
          rw [hscene]
          exact ⟨hstate, hdynamic⟩
      | longPresses node _ _ hpressed hscene =>
          have hne : removal.node ≠ node := by
            intro hsame
            rw [← hsame, hstate] at hpressed
            rcases hpressed with hpressed | hpressed <;> exact nomatch hpressed
          rw [hscene]
          simp [SIFloatingCollectionScene.setState, SIFloatingCollectionScene.updateNode, hne,
            hstate, hdynamic]
      | taps node _ hshort _ _ _ => exact absurd hlong hshort
      | cancels node _ hshort _ _ => exact absurd hlong hshort
  · cases hstep with
    | cancels => exact ⟨hstate, hdynamic⟩

/-- In every run of a scene that allows editing, no release cancels the removal that its touch has
started. -/
theorem release_neverCancels (g : Geometry) (o : Observer C D) (settings : SceneSettings)
    (blank : SIFloatingNode C) (delegate : D) (events : List (FloatingEvent C)) :
    EventRun.EveryStep (touchedStep g o.delegate) (fun w event w' => Releases event →
        ∀ removal, w.2.started = some removal → removal.node ∈ w.1.scene.floatingNodes →
          ¬ RemovalCanceled o removal w.1 w'.1)
      (editingScene settings blank (delegate, [])) events := by
  refine EventRun.everyStep_of_invariant (I := fun w => Tracked w.1.scene w.2) ?_
    (editingScene_tracked settings blank (delegate, [])) events
  intro w event w' hw h
  refine ⟨touchedStep_tracked hw h, ?_⟩
  rintro hrelease removal hstarted _ ⟨_, hdynamic, _⟩
  obtain ⟨hstep, _⟩ := EventRun.watch_ok.mp h
  have hkept := release_keepsRemoving hw hstarted hrelease (floatingStep_ok hstep)
  rw [hdynamic] at hkept
  exact nomatch hkept.2

def pressedBubble : Touched Unit (Unit × List Callback) :=
  editingScene (defaultSettings ⟨100, 100⟩) (.init ⟨⟨0, 0⟩, ⟨20, 20⟩, false, ()⟩) ((), [])

/-- A finger rests on a bubble until its removal is started. -/
def longPress : List (FloatingEvent Unit) :=
  [.addChild ⟨⟨20, 20⟩, ⟨20, 20⟩, false, ()⟩, .scene (.touchesBegan ⟨20, 20⟩ 1),
    .scene (.update 2 [.floating 0])]

/-- The finger is lifted one second after the start. -/
theorem release_leavesFrozen :
    ¬ EventRun.EveryStep (touchedStep axisGeometry Observer.agreeing.delegate)
      (fun w event w' => Releases event → ∀ removal, w.2.started = some removal →
        removal.node ∈ w.1.scene.floatingNodes →
          RemovalCanceled .agreeing removal w.1 w'.1)
      pressedBubble (longPress ++ [.scene (.touchesEnded 3 [.floating 0])]) := by
  intro h
  have hbefore : (EventRun.run (touchedStep axisGeometry Observer.agreeing.delegate) pressedBubble
      longPress).toOption.any (fun w =>
        w.2.started.any (fun removal => removal.node = 0) ∧ 0 ∈ w.1.scene.floatingNodes) =
      true := by
    decide +kernel
  have hafter : (EventRun.run (touchedStep axisGeometry Observer.agreeing.delegate) pressedBubble
      (longPress ++ [.scene (.touchesEnded 3 [.floating 0])])).toOption.any (fun w =>
        !(w.1.scene.nodes 0).dynamic) = true := by
    decide +kernel
  obtain ⟨w, hw, hpressed⟩ := EventRun.exists_ok_of_any hbefore
  obtain ⟨w', hw', hfrozen⟩ := EventRun.exists_ok_of_any hafter
  rw [EventRun.run_append _ hw, EventRun.run_singleton] at hw'
  obtain ⟨hstarted, hmember⟩ := of_decide_eq_true hpressed
  obtain ⟨removal, hremoval, hzero⟩ := (Option.any_eq_true _ _).mp hstarted
  have hnode : removal.node = 0 := of_decide_eq_true hzero
  have hcanceled := h.last hw hw' (Or.inl ⟨3, [.floating 0], by norm_num, rfl⟩) removal hremoval
    (hnode ▸ hmember)
  have hdynamic := hcanceled.2.1
  rw [hnode] at hdynamic
  rw [hdynamic] at hfrozen
  exact nomatch hfrozen

end SceneState

end CrowdSound
