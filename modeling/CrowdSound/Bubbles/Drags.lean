import CrowdSound.Bubbles.PressedNode

/-!
# Drags

A finger that moves turns the touch into a drag, and the end of a drag presses nothing. Whether it
moved is decided after its displacement was divided by its distance from the origin, and for the
distance zero both quotients are set to zero.
-/

namespace CrowdSound

open SIFloatingCollectionScene

/-- A geometry with a square root that is zero at zero only. -/
structure LawfulGeometry extends Geometry where
  sqrt_eq_zero : ∀ x, 0 ≤ x → (sqrt x = 0 ↔ x = 0)

/-- A move of a finger that reported another location than the one before. -/
def SceneEvent.Displaces (event : SceneEvent) (location : CGPoint) : Prop :=
  ∃ previousLocation, event = .touchesMoved previousLocation location ∧
    location ≠ previousLocation

/-- What happens while a single finger is down: it moves, and the scene goes on. -/
def SceneEvent.duringTouch : SceneEvent → Bool
  | touchesMoved _ _ => true
  | update _ _ => true
  | didSimulatePhysics _ => true
  | fadedOut _ => true
  | _ => false

def Displaced (moves : List SceneEvent) : Prop :=
  ∃ event ∈ moves, ∃ location, event.Displaces location

def DisplacedOffOrigin (moves : List SceneEvent) : Prop :=
  ∃ event ∈ moves, ∃ location, event.Displaces location ∧ location ≠ ⟨0, 0⟩

namespace CallbackMethod

def ofPress : CallbackMethod → Bool
  | shouldTap | didTap | shouldLongPress | didLongPress => true
  | startedRemoving | canceledRemoving | shouldRemove | didRemove => false

end CallbackMethod

namespace LawfulGeometry

variable (g : LawfulGeometry)

private theorem scaledDisplacement_eq_zero_iff (previousLocation location : CGPoint) :
    ((scaledDisplacement g.toGeometry previousLocation location).dx = 0 ∧
        (scaledDisplacement g.toGeometry previousLocation location).dy = 0) ↔
      location = previousLocation ∨ location = ⟨0, 0⟩ := by
  obtain ⟨x', y'⟩ := previousLocation
  obtain ⟨x, y⟩ := location
  have hsum : 0 ≤ x ^ 2 + y ^ 2 := add_nonneg (sq_nonneg x) (sq_nonneg y)
  have horigin : g.sqrt (x ^ 2 + y ^ 2) = 0 ↔ x = 0 ∧ y = 0 := by
    rw [g.sqrt_eq_zero _ hsum, add_eq_zero_iff_of_nonneg (sq_nonneg x) (sq_nonneg y)]
    simp
  simp only [scaledDisplacement, CGPoint.mk.injEq]
  by_cases hzero : g.sqrt (x ^ 2 + y ^ 2) = 0
  · rw [if_pos hzero, if_pos hzero]
    exact iff_of_true ⟨rfl, rfl⟩ (Or.inr (horigin.mp hzero))
  · have hquotient : ∀ displacement : ℚ,
        displacement / g.sqrt (x ^ 2 + y ^ 2) = 0 ↔ displacement = 0 := by
      intro displacement
      rw [div_eq_zero_iff, or_iff_left hzero]
    rw [if_neg hzero, if_neg hzero, hquotient, hquotient, sub_eq_zero, sub_eq_zero,
      or_iff_left (mt horigin.mpr hzero)]

private theorem touchesMoved_mode {C : Type} {s : SIFloatingCollectionScene C}
    (hmode : s.mode ≠ .editing) (previousLocation location : CGPoint) :
    (s.touchesMoved g.toGeometry previousLocation location).mode =
      if location = previousLocation ∨ location = ⟨0, 0⟩ then s.mode else .moving := by
  have hzero := g.scaledDisplacement_eq_zero_iff previousLocation location
  unfold touchesMoved
  rw [if_neg hmode]
  dsimp only
  split
  next hstill => rw [if_pos (hzero.mp hstill)]
  next hmoved => rw [if_neg (mt hzero.mpr hmoved)]

end LawfulGeometry

namespace SceneState

variable {C D : Type} (o : Observer C D)

/-- The scene after its owner has turned editing off. -/
def editingOff (s : SceneState C D) : SceneState C D :=
  { s with scene := { s.scene with allowEditing := false } }

/-- The end of the touch changes the state of no node, no method for taps and long presses is
called, and the mode is `Normal` afterwards. -/
structure PressesNothing (s s' : ObservedScene C D) : Prop where
  states : ∀ node, (s'.scene.nodes node).state = (s.scene.nodes node).state
  calls : ∀ callback ∈ newCallbacks s s', callback.method.ofPress = false
  mode : s'.scene.mode = .normal

/-- A release at this time would act on a bubble under the touch point, if it is not the end of a
drag. -/
def ReleaseActs (s : SceneState C D) (timestamp : NSTimeInterval) (hit : SKHit) : Prop :=
  s.scene.touchPoint ≠ noTouchPoint ∧ ∃ node, s.scene.nodeAtPoint hit = some (.floating node) ∧
    Acts s.scene timestamp node

/-- The mode tells whether a displaced move has ended off the origin. -/
structure DragTracked (moves : List SceneEvent) (scene : SIFloatingCollectionScene C) : Prop where
  editing : scene.allowEditing = false
  restorable : Restorable scene
  moving : DisplacedOffOrigin moves → scene.mode = .moving
  resting : ¬ DisplacedOffOrigin moves → scene.mode = .normal

private theorem displacedOffOrigin_snoc (moves : List SceneEvent) (event : SceneEvent) :
    DisplacedOffOrigin (moves ++ [event]) ↔ DisplacedOffOrigin moves ∨
      ∃ location, event.Displaces location ∧ location ≠ ⟨0, 0⟩ := by
  simp only [DisplacedOffOrigin, List.mem_append, List.mem_singleton, or_and_right, exists_or,
    exists_eq_left]

private theorem displacedOffOrigin_move (moves : List SceneEvent)
    (previousLocation location : CGPoint) :
    DisplacedOffOrigin (moves ++ [.touchesMoved previousLocation location]) ↔
      DisplacedOffOrigin moves ∨ ¬ (location = previousLocation ∨ location = ⟨0, 0⟩) := by
  rw [displacedOffOrigin_snoc]
  apply or_congr_right
  simp only [SceneEvent.Displaces, SceneEvent.touchesMoved.injEq, not_or]
  constructor
  · rintro ⟨_, ⟨_, ⟨rfl, rfl⟩, hne⟩, horigin⟩
    exact ⟨hne, horigin⟩
  · rintro ⟨hne, horigin⟩
    exact ⟨location, ⟨previousLocation, ⟨rfl, rfl⟩, hne⟩, horigin⟩

private theorem DragTracked.other {moves : List SceneEvent} {event : SceneEvent}
    {scene scene' : SIFloatingCollectionScene C} (h : DragTracked moves scene)
    (hevent : ∀ previousLocation location, event ≠ .touchesMoved previousLocation location)
    (hediting : scene'.allowEditing = scene.allowEditing) (hrestorable : Restorable scene')
    (hmode : scene'.mode = scene.mode) : DragTracked (moves ++ [event]) scene' := by
  have hsame : DisplacedOffOrigin (moves ++ [event]) ↔ DisplacedOffOrigin moves := by
    rw [displacedOffOrigin_snoc]
    apply or_iff_left
    rintro ⟨location, ⟨previousLocation, hmove, _⟩, _⟩
    exact hevent previousLocation location hmove
  constructor
  · exact hediting.trans h.editing
  · exact hrestorable
  · intro hmoved
    exact hmode.trans (h.moving (hsame.mp hmoved))
  · intro hmoved
    exact hmode.trans (h.resting (mt hsame.mpr hmoved))

private theorem DragTracked.move {g : LawfulGeometry} {moves : List SceneEvent}
    {scene : SIFloatingCollectionScene C} (h : DragTracked moves scene)
    (previousLocation location : CGPoint)
    (hrestorable : Restorable (scene.touchesMoved g.toGeometry previousLocation location)) :
    DragTracked (moves ++ [.touchesMoved previousLocation location])
      (scene.touchesMoved g.toGeometry previousLocation location) := by
  have hmode : scene.mode ≠ .editing := by
    by_cases hmoved : DisplacedOffOrigin moves
    · rw [h.moving hmoved]
      decide
    · rw [h.resting hmoved]
      decide
  have hmode' := g.touchesMoved_mode hmode previousLocation location
  have hediting : (scene.touchesMoved g.toGeometry previousLocation location).allowEditing =
      scene.allowEditing := by
    rcases scene.touchesMoved_cases g.toGeometry previousLocation location with
      hsame | ⟨_, hmoved⟩
    · rw [hsame]
    · rw [hmoved]
  constructor
  · exact hediting.trans h.editing
  · exact hrestorable
  · intro hmoved
    rw [displacedOffOrigin_move] at hmoved
    rw [hmode']
    split
    next hstill => exact h.moving (hmoved.resolve_right fun hnot => hnot hstill)
    next => rfl
  · intro hmoved
    rw [displacedOffOrigin_move, not_or, not_not] at hmoved
    rw [hmode', if_pos hmoved.2]
    exact h.resting hmoved.1

private theorem step_dragTracked {g : LawfulGeometry} {d : SIFloatingCollectionSceneDelegate C D}
    {moves : List SceneEvent} {s s' : SceneState C D} {event : SceneEvent}
    (h : DragTracked moves s.scene) (hduring : event.duringTouch = true)
    (hok : s.step g.toGeometry d event = .ok s') : DragTracked (moves ++ [event]) s'.scene := by
  have hfloating : s.floatingStep g.toGeometry d (.scene event) = .ok s' := hok
  have hrestorable : Restorable s'.scene :=
    floatingStep_restorable h.restorable (floatingStep_ok hfloating)
  cases event with
  | touchesBegan location timestamp => cases hduring
  | touchesEnded timestamp hit => cases hduring
  | touchesCancelled => cases hduring
  | touchesMoved previousLocation location =>
      cases hok
      exact h.move previousLocation location hrestorable
  | update currentTime hit =>
      obtain ⟨_, hupdated⟩ := enabled_ok.mp hok
      rw [update_of_not_allowEditing d g.toGeometry s currentTime hit h.editing] at hupdated
      cases hupdated
      exact h.other (by simp) rfl hrestorable rfl
  | didSimulatePhysics position =>
      cases hok
      exact h.other (by simp) rfl hrestorable rfl
  | fadedOut node =>
      obtain ⟨_, hfaded⟩ := enabled_ok.mp hok
      cases hfaded
      exact h.other (by simp) rfl hrestorable rfl

theorem run_dragTracked {g : LawfulGeometry} {d : SIFloatingCollectionSceneDelegate C D}
    {s s' : SceneState C D} {moves : List SceneEvent} (hs : DragTracked [] s.scene)
    (hduring : ∀ event ∈ moves, event.duringTouch = true)
    (hrun : EventRun.run (step g.toGeometry d) s moves = .ok s') :
    DragTracked moves s'.scene := by
  have hall : ∀ (past moves : List SceneEvent) (s : SceneState C D), DragTracked past s.scene →
      (∀ event ∈ moves, event.duringTouch = true) →
      EventRun.run (step g.toGeometry d) s moves = .ok s' →
        DragTracked (past ++ moves) s'.scene := by
    intro past moves
    induction moves generalizing past with
    | nil =>
        intro s hs _ hrun
        cases hrun
        rw [List.append_nil]
        exact hs
    | cons event moves ih =>
        intro s hs hduring hrun
        obtain ⟨t, hstep, hrest⟩ := (EventRun.run_cons_ok _ _ _ _).mp hrun
        have ht := step_dragTracked hs (hduring event List.mem_cons_self) hstep
        have hmoves := ih (past ++ [event]) t ht
          (fun event hmem => hduring event (List.mem_cons_of_mem _ hmem)) hrest
        rwa [List.append_assoc, List.singleton_append] at hmoves
  exact hall [] moves s hs hduring hrun

private theorem touchesEnded_mode {d : SIFloatingCollectionSceneDelegate C D}
    {s s' : SceneState C D}
    {timestamp : NSTimeInterval} {hit : SKHit} (hmode : s.scene.mode = .normal)
    (h : s.touchesEnded d timestamp hit = .ok s') : s'.scene.mode = .normal := by
  unfold touchesEnded at h
  split at h
  · split at h
    · cases h
    · dsimp only at h
      split at h
      · obtain ⟨_, _, hs'⟩ := bind_eq_ok.mp h
        cases hs'
        rfl
      · obtain ⟨_, _, hs'⟩ := bind_eq_ok.mp h
        cases hs'
        rfl
    · cases h
      exact hmode
  · cases h
    rfl

private theorem PressesNothing.of_unpressed {s s' : ObservedScene C D} {timestamp : NSTimeInterval}
    {hit : SKHit} (hmiss : ∀ node, ¬ s.scene.Pressed hit node)
    (h : s.touchesEnded o.delegate timestamp hit = .ok s') (hmode : s'.scene.mode = .normal) :
    PressesNothing s s' := by
  refine ⟨?_, ?_, hmode⟩
  · intro node
    by_contra hchanged
    exact hmiss node (ended_states (touchesEnded_ok h) node hchanged).1
  · rw [newCallbacks, touchesEnded_unpressed o hmiss h, List.drop_length]
    intro callback hcallback
    cases hcallback

private theorem releaseActs_iff {s : SceneState C D} {timestamp : NSTimeInterval} {hit : SKHit}
    {node : Nat} (hpressed : s.scene.Pressed hit node) :
    ReleaseActs s timestamp hit ↔ Acts s.scene timestamp node := by
  constructor
  · intro h
    obtain ⟨_, node', hnode', hacts⟩ := h
    have heq := hnode'.symm.trans hpressed.2.2
    cases heq
    exact hacts
  · exact fun hacts => ⟨hpressed.2.1, node, hpressed.2.2, hacts⟩

private theorem press_pressesNothing {s s' : ObservedScene C D} {timestamp : NSTimeInterval}
    {hit : SKHit} {node : Nat} (hmode : s.scene.mode = .normal)
    (hpressed : s.scene.Pressed hit node)
    (hprevious : (s.scene.nodes node).state = .removing →
      (s.scene.nodes node).previousState ≠ .removing)
    (h : s.touchesEnded o.delegate timestamp hit = .ok s') :
    PressesNothing s s' ↔ ¬ Acts s.scene timestamp node := by
  obtain ⟨told, hok, htold⟩ := touchesEnded_told o timestamp hpressed hprevious
  have hsame : s' = told := Except.ok.inj (h.symm.trans hok)
  rw [← hsame] at htold
  have houtcome := touchesEnded_outcome o hpressed hprevious h
  constructor
  · intro hnothing hacts
    have hrefused : ¬ LetThrough o s timestamp node :=
      fun hthrough => houtcome.changes hthrough (hnothing.states node)
    rcases htold.acted hacts with hcallbacks | hchanged
    · -- a press that is refused was asked about
      obtain ⟨callback, hcallback⟩ := List.exists_mem_of_ne_nil _ hcallbacks
      have hquestion := (houtcome.quiet hrefused).2.new callback hcallback
      have hmethod := (htold.told.new callback hcallback).2
      have hcall := hnothing.calls callback hcallback
      cases hcase : callback.method <;> simp [hcase, CallbackMethod.isReport,
        CallbackMethod.ofPress] at hquestion hmethod hcall
    · exact hchanged (hnothing.states node)
  · intro hnot
    have hthrough : ¬ LetThrough o s timestamp node := fun hthrough => hnot hthrough.acts
    refine ⟨(houtcome.quiet hthrough).1, ?_, touchesEnded_mode hmode h⟩
    rw [newCallbacks, htold.settled hnot, List.drop_length]
    intro callback hcallback
    cases hcallback

private theorem release_pressesNothing {s s' : ObservedScene C D} {timestamp : NSTimeInterval}
    {hit : SKHit} (hs : Restorable s.scene) (hattached : s.scene.Attached hit)
    (hmode : s.scene.mode = .normal)
    (h : s.touchesEnded o.delegate timestamp hit = .ok s') :
    PressesNothing s s' ↔ ¬ ReleaseActs s timestamp hit := by
  have hmoving : s.scene.mode ≠ .moving := by
    rw [hmode]
    decide
  by_cases hpress : ∃ node, s.scene.Pressed hit node
  · obtain ⟨node, hpressed⟩ := hpress
    rw [releaseActs_iff hpressed]
    exact press_pressesNothing o hmode hpressed (hs.pressed hattached hpressed) h
  · have hmiss := not_exists.mp hpress
    apply iff_of_true
    · exact PressesNothing.of_unpressed o hmiss h (touchesEnded_mode hmode h)
    · rintro ⟨hpoint, node, hnode, _⟩
      exact hmiss node ⟨hmoving, hpoint, hnode⟩

/-- With editing off, in the mode `Normal`: the end of a drag presses nothing if and only if a
displaced move of it ended off the origin, or a release then would act on no bubble. -/
theorem drag_pressesNothing_iff (g : LawfulGeometry) (settings : SceneSettings)
    (blank : SIFloatingNode C) (delegate : D) (events : List (FloatingEvent C))
    (location : CGPoint) (timestamp ended : NSTimeInterval) (moves : List SceneEvent) (hit : SKHit)
    (s dragged s' : ObservedScene C D)
    (hrun : EventRun.run (floatingStep g.toGeometry o.delegate)
      ⟨settings.scene blank, (delegate, [])⟩ events = .ok s)
    (hmode : s.scene.mode = .normal)
    (hduring : ∀ event ∈ moves, event.duringTouch = true)
    (hdrag : EventRun.run (step g.toGeometry o.delegate) s.editingOff
      (.touchesBegan location timestamp :: moves) = .ok dragged)
    (hended : dragged.step g.toGeometry o.delegate (.touchesEnded ended hit) = .ok s') :
    (Displaced moves → PressesNothing dragged s') ↔
      (Displaced moves → DisplacedOffOrigin moves ∨ ¬ dragged.ReleaseActs ended hit) := by
  have hrestorable : Restorable s.scene := run_restorable (scene_restorable settings blank) hrun
  obtain ⟨began, hbegan, hmoves⟩ := (EventRun.run_cons_ok _ _ _ _).mp hdrag
  have hstart : DragTracked [] began.scene := by
    cases hbegan
    refine ⟨rfl, hrestorable, ?_, fun _ => hmode⟩
    rintro ⟨event, hmem, _⟩
    cases hmem
  have htracked := run_dragTracked hstart hduring hmoves
  obtain ⟨hattached, hrelease⟩ := enabled_ok.mp hended
  apply imp_congr_right
  intro _
  by_cases hoff : DisplacedOffOrigin moves
  · have hmoving := htracked.moving hoff
    have hmiss : ∀ node, ¬ dragged.scene.Pressed hit node :=
      fun node hpressed => hpressed.1 hmoving
    apply iff_of_true
    · apply PressesNothing.of_unpressed o hmiss hrelease
      have hnot : ¬ (dragged.scene.mode ≠ .moving ∧ dragged.scene.touchPoint ≠ noTouchPoint) :=
        fun hpress => hpress.1 hmoving
      rw [touchesEnded, if_neg hnot] at hrelease
      cases hrelease
      rfl
    · exact Or.inl hoff
  · rw [release_pressesNothing o htracked.restorable hattached (htracked.resting hoff) hrelease,
      or_iff_right hoff]

def exactAxisGeometry : LawfulGeometry where
  toGeometry := axisGeometry
  sqrt_eq_zero _ _ := Iff.rfl

/-- A finger is put down on the only bubble, moves to the given point, and is lifted: the scene
before, at the end of the drag, and after. -/
def dragTo (point : CGPoint) :
    Except Stuck (ObservedScene Unit Unit × ObservedScene Unit Unit × ObservedScene Unit Unit) := do
  let s ← EventRun.run (floatingStep axisGeometry Observer.agreeing.delegate) emptyScene
    [.addChild ⟨⟨5, 5⟩, ⟨20, 20⟩, false, ()⟩]
  let dragged ← EventRun.run (step axisGeometry Observer.agreeing.delegate) s.editingOff
    [.touchesBegan ⟨5, 5⟩ 1, .touchesMoved ⟨5, 5⟩ point]
  let s' ← dragged.step axisGeometry Observer.agreeing.delegate
    (.touchesEnded (11 / 10) [.floating 0])
  return (s, dragged, s')

private theorem dragTo_ok {point : CGPoint} {s dragged s' : ObservedScene Unit Unit}
    (h : dragTo point = .ok (s, dragged, s')) :
    EventRun.run (floatingStep axisGeometry Observer.agreeing.delegate) emptyScene
        [.addChild ⟨⟨5, 5⟩, ⟨20, 20⟩, false, ()⟩] = .ok s ∧
      EventRun.run (step axisGeometry Observer.agreeing.delegate) s.editingOff
        [.touchesBegan ⟨5, 5⟩ 1, .touchesMoved ⟨5, 5⟩ point] = .ok dragged ∧
      dragged.step axisGeometry Observer.agreeing.delegate
        (.touchesEnded (11 / 10) [.floating 0]) = .ok s' := by
  obtain ⟨_, hs, hrest⟩ := bind_eq_ok.mp h
  obtain ⟨_, hdragged, hlast⟩ := bind_eq_ok.mp hrest
  obtain ⟨_, hended, hsame⟩ := bind_eq_ok.mp hlast
  cases hsame
  exact ⟨hs, hdragged, hended⟩

private theorem displaced_single {location previousLocation : CGPoint}
    (h : location ≠ previousLocation) :
    Displaced [.touchesMoved previousLocation location] :=
  ⟨_, List.mem_singleton_self _, location, previousLocation, rfl, h⟩

theorem drag_pressesNothing_aside :
    ∃ s dragged s', dragTo ⟨6, 6⟩ = .ok (s, dragged, s') ∧ PressesNothing dragged s' := by
  have hany : (dragTo ⟨6, 6⟩).toOption.any (fun t => decide (t.1.scene.mode = .normal)) =
      true := by
    decide +kernel
  obtain ⟨⟨s, dragged, s'⟩, hok, hmode⟩ := EventRun.exists_ok_of_any hany
  obtain ⟨hs, hdragged, hended⟩ := dragTo_ok hok
  have hiff := drag_pressesNothing_iff Observer.agreeing exactAxisGeometry
    (defaultSettings ⟨100, 100⟩) _ () _ ⟨5, 5⟩ 1 (11 / 10) [.touchesMoved ⟨5, 5⟩ ⟨6, 6⟩] _ s dragged
    s' hs (of_decide_eq_true hmode) (by simp [SceneEvent.duringTouch]) hdragged hended
  refine ⟨s, dragged, s', hok, hiff.mpr ?_ (displaced_single (by decide))⟩
  intro _
  exact Or.inl ⟨_, List.mem_singleton_self _, ⟨6, 6⟩, ⟨⟨5, 5⟩, rfl, by decide⟩, by decide⟩

/-- A drag into the corner is a tap. -/
theorem drag_toOrigin_taps :
    ∃ s dragged s', dragTo ⟨0, 0⟩ = .ok (s, dragged, s') ∧ s.scene.mode = .normal ∧
      Displaced [.touchesMoved ⟨5, 5⟩ ⟨0, 0⟩] ∧ ¬ PressesNothing dragged s' := by
  have hany : (dragTo ⟨0, 0⟩).toOption.any (fun t => decide (t.1.scene.mode = .normal ∧
      (t.2.1.scene.nodes 0).state = .normal ∧ (t.2.2.scene.nodes 0).state = .tapped)) = true := by
    decide +kernel
  obtain ⟨⟨s, dragged, s'⟩, hok, hstates⟩ := EventRun.exists_ok_of_any hany
  obtain ⟨hmode, hbefore, hafter⟩ := of_decide_eq_true hstates
  refine ⟨s, dragged, s', hok, hmode, displaced_single (by decide), ?_⟩
  intro hnothing
  have hsame := hnothing.states 0
  rw [hafter, hbefore] at hsame
  cases hsame

end SceneState

end CrowdSound
