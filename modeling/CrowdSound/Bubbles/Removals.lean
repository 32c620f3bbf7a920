import CrowdSound.Bubbles.SceneRuns

/-!
# Removal by a sustained press

The scene keeps a touch in four fields: the point and the time it began, the time a removal
started, and the mode. Nothing clears the point, and the end of a touch clears neither time. A log
beside the scene follows the finger itself and the node whose removal it has started, and says
when the fields agree with them.
-/

namespace CrowdSound

open SIFloatingCollectionScene

/-- A finger that is down: when and where it was put down, and where it is. -/
structure Finger where
  began : NSTimeInterval
  put : CGPoint
  location : CGPoint

structure StartedRemoval where
  node : Nat
  since : NSTimeInterval
  before : SIFloatingNodeState

structure TouchLog where
  finger : Option Finger
  started : Option StartedRemoval

namespace TouchLog

def init : TouchLog := ⟨none, none⟩

end TouchLog

namespace SceneState

variable {C D : Type}

def Starts (s : SceneState C D) (currentTime : NSTimeInterval) (hit : SKHit) (node : Nat) : Prop :=
  s.scene.StartDue currentTime ∧ s.scene.nodeAtPoint hit = some (.floating node)

/-- The log after an event, before it is known what became of the node. -/
def noteTouch (log : TouchLog) (s : SceneState C D) : FloatingEvent C → TouchLog
  | .scene (.touchesBegan location timestamp) => ⟨some ⟨timestamp, location, location⟩, none⟩
  | .scene (.touchesMoved _ location) =>
    { log with finger := log.finger.map fun finger => { finger with location } }
  | .scene (.touchesEnded _ _) => .init
  | .scene .touchesCancelled => .init
  | .scene (.update currentTime hit) =>
    match s.scene.nodeAtPoint hit with
    | some (.floating node) =>
      if s.scene.StartDue currentTime ∧ log.finger.isSome then
        { log with started := some ⟨node, currentTime, (s.scene.nodes node).state⟩ }
      else log
    | _ => log
  | _ => log

/-- A removal is over when its node leaves the state `Removing`. -/
def logTouch (log : TouchLog) (s : SceneState C D) (event : FloatingEvent C)
    (scene' : SIFloatingCollectionScene C) : TouchLog :=
  let noted := noteTouch log s event
  { noted with started := noted.started.filter fun removal =>
      (scene'.nodes removal.node).state = .removing }

abbrev Touched (C D : Type) := SceneState C D × TouchLog

def touchedStep (g : Geometry) (d : SIFloatingCollectionSceneDelegate C D) :
    Touched C D → FloatingEvent C → Except Stuck (Touched C D) :=
  EventRun.watch (floatingStep g d) fun log s event s' => logTouch log s event s'.scene

theorem touchedStep_run (g : Geometry) (d : SIFloatingCollectionSceneDelegate C D)
    (w : Touched C D) (events : List (FloatingEvent C)) :
    (EventRun.run (touchedStep g d) w events).map Prod.fst =
      EventRun.run (floatingStep g d) w.1 events :=
  EventRun.run_watch _ w events

/-- The fields of the scene are those of the finger that is down and of the removal it started. -/
structure Tracked (scene : SIFloatingCollectionScene C) (log : TouchLog) : Prop where
  numbered : scene.WellNumbered
  longPress : scene.longPressTime = 1 / 2
  put : ∀ finger, log.finger = some finger → scene.touchPoint = finger.put ∧
    (scene.touchStartedTime ≠ -1 → scene.touchStartedTime = finger.began)
  down : ∀ removal, log.started = some removal → log.finger.isSome = true
  started : ∀ removal, log.started = some removal → scene.touchStartedTime = -1 ∧
    (scene.removingStartedTime ≠ -1 → scene.removingStartedTime = removal.since)
  frozen : ∀ removal, log.started = some removal →
    (scene.nodes removal.node).state = .removing ∧ (scene.nodes removal.node).dynamic = false

private theorem tracked_none {scene : SIFloatingCollectionScene C} (hnumbered : scene.WellNumbered)
    (hlong : scene.longPressTime = 1 / 2) : Tracked scene .init where
  numbered := hnumbered
  longPress := hlong
  put := nofun
  down := nofun
  started := nofun
  frozen := nofun

/-- A step that keeps the fields of the touch, and a log that keeps the finger but for its
location. -/
theorem Tracked.keep {scene scene' : SIFloatingCollectionScene C} {log log' : TouchLog}
    (h : Tracked scene log) (hnumbered : scene'.WellNumbered)
    (hlong : scene'.longPressTime = scene.longPressTime)
    (hpoint : scene'.touchPoint = scene.touchPoint)
    (htime : scene'.touchStartedTime = scene.touchStartedTime)
    (hremoving : scene'.removingStartedTime = scene.removingStartedTime ∨
      scene'.removingStartedTime = -1)
    (hdynamic : ∀ node, (scene'.nodes node).state = .removing →
      (scene'.nodes node).dynamic = (scene.nodes node).dynamic)
    (hfinger : ∀ finger', log'.finger = some finger' → ∃ finger, log.finger = some finger ∧
      finger.began = finger'.began ∧ finger.put = finger'.put)
    (hdown : log.finger.isSome = true → log'.finger.isSome = true)
    (hstarted : ∀ removal, log'.started = some removal → log.started = some removal ∧
      (scene'.nodes removal.node).state = .removing) : Tracked scene' log' where
  numbered := hnumbered
  longPress := hlong.trans h.longPress
  put := by
    intro finger' hfinger'
    obtain ⟨finger, hlog, hbegan, hput⟩ := hfinger finger' hfinger'
    rw [hpoint, htime, ← hput, ← hbegan]
    exact h.put finger hlog
  down := fun removal hlog => hdown (h.down removal (hstarted removal hlog).1)
  started := by
    intro removal hlog
    obtain ⟨htouch, hsince⟩ := h.started removal (hstarted removal hlog).1
    refine ⟨htime.trans htouch, ?_⟩
    intro hne
    rcases hremoving with hsame | hcleared
    · rw [hsame] at hne ⊢
      exact hsince hne
    · exact absurd hcleared hne
  frozen := by
    intro removal hlog
    obtain ⟨hlog', hstate⟩ := hstarted removal hlog
    exact ⟨hstate, (hdynamic _ hstate).trans (h.frozen removal hlog').2⟩

private theorem logTouch_started {log : TouchLog} {s : SceneState C D} {event : FloatingEvent C}
    {scene' : SIFloatingCollectionScene C} {removal : StartedRemoval}
    (h : (logTouch log s event scene').started = some removal) :
    (noteTouch log s event).started = some removal ∧
      (scene'.nodes removal.node).state = .removing := by
  obtain ⟨hnoted, hstate⟩ := Option.filter_eq_some_iff.mp h
  exact ⟨hnoted, of_decide_eq_true hstate⟩

private theorem noteTouch_update {log : TouchLog} {s : SceneState C D}
    {currentTime : NSTimeInterval} {hit : SKHit} (h : ¬ s.scene.StartDue currentTime) :
    noteTouch log s (.scene (.update currentTime hit)) = log := by
  simp only [noteTouch, h, false_and, if_false]
  split <;> rfl

private theorem Tracked.quiet {s : SceneState C D} {log : TouchLog} {event : FloatingEvent C}
    {scene' : SIFloatingCollectionScene C} (h : Tracked s.scene log)
    (hnote : noteTouch log s event = log) (hnumbered : scene'.WellNumbered)
    (hlong : scene'.longPressTime = s.scene.longPressTime)
    (hpoint : scene'.touchPoint = s.scene.touchPoint)
    (htime : scene'.touchStartedTime = s.scene.touchStartedTime)
    (hremoving : scene'.removingStartedTime = s.scene.removingStartedTime ∨
      scene'.removingStartedTime = -1)
    (hdynamic : ∀ node, (scene'.nodes node).state = .removing →
      (scene'.nodes node).dynamic = (s.scene.nodes node).dynamic) :
    Tracked scene' (logTouch log s event scene') := by
  have hfinger : (logTouch log s event scene').finger = log.finger := by
    show (noteTouch log s event).finger = log.finger
    rw [hnote]
  apply h.keep hnumbered hlong hpoint htime hremoving hdynamic
  · intro finger hlog
    exact ⟨finger, hfinger ▸ hlog, rfl, rfl⟩
  · rw [hfinger]
    exact id
  · intro removal hlog
    have hstarted := logTouch_started hlog
    rwa [hnote] at hstarted

private theorem dampNodes_dynamic (g : Geometry) (scene : SIFloatingCollectionScene C)
    (node : Nat) :
    ((scene.dampNodes g).nodes node).dynamic = (scene.nodes node).dynamic := by
  simp only [dampNodes]
  split <;> rfl

theorem Tracked.start {g : Geometry} {s : SceneState C D} {log : TouchLog}
    {currentTime : NSTimeInterval} {hit : SKHit} {node : Nat}
    {scene' : SIFloatingCollectionScene C} (h : Tracked s.scene log)
    (hnumbered : scene'.WellNumbered) (hdue : s.scene.StartDue currentTime)
    (hnode : s.scene.nodeAtPoint hit = some (.floating node))
    (hscene : scene' = { (s.scene.dampNodes g).frozen node with
      mode := .editing, touchStartedTime := -1, removingStartedTime := currentTime }) :
    Tracked scene' (logTouch log s (.scene (.update currentTime hit)) scene') := by
  have hnote : noteTouch log s (.scene (.update currentTime hit)) = if log.finger.isSome then
      { log with started := some ⟨node, currentTime, (s.scene.nodes node).state⟩ } else log := by
    simp [noteTouch, hnode, hdue]
  have hstarted : ∀ removal,
      (logTouch log s (.scene (.update currentTime hit)) scene').started = some removal →
        log.finger.isSome = true ∧ removal.node = node ∧ removal.since = currentTime ∧
          (scene'.nodes removal.node).state = .removing := by
    intro removal hlog
    obtain ⟨hnoted, hstate⟩ := logTouch_started hlog
    rw [hnote] at hnoted
    split at hnoted
    next hfinger =>
      cases hnoted
      exact ⟨hfinger, rfl, rfl, hstate⟩
    next hfinger => exact absurd (h.down removal hnoted) hfinger
  have hfinger : (logTouch log s (.scene (.update currentTime hit)) scene').finger =
      log.finger := by
    show (noteTouch log s (.scene (.update currentTime hit))).finger = log.finger
    rw [hnote]
    split <;> rfl
  constructor
  · exact hnumbered
  · rw [hscene]
    exact h.longPress
  · intro finger hlog
    rw [hfinger] at hlog
    rw [hscene]
    exact ⟨(h.put finger hlog).1, fun hne => absurd rfl hne⟩
  · intro removal hlog
    rw [hfinger]
    exact (hstarted removal hlog).1
  · intro removal hlog
    rw [hscene]
    exact ⟨rfl, fun _ => (hstarted removal hlog).2.2.1.symm⟩
  · intro removal hlog
    obtain ⟨_, hsame, _, hstate⟩ := hstarted removal hlog
    refine ⟨hstate, ?_⟩
    rw [hsame, hscene]
    exact frozen_dynamic _ node

private theorem step_tracked {g : Geometry} {d : SIFloatingCollectionSceneDelegate C D}
    {s : SceneState C D} {log : TouchLog} {event : FloatingEvent C}
    {scene' : SIFloatingCollectionScene C} (h : Tracked s.scene log)
    (hstep : FloatingStep g d s event scene') : Tracked scene' (logTouch log s event scene') := by
  have hnumbered := floatingStep_wellNumbered h.numbered hstep
  cases hstep with
  | adds new =>
      refine h.quiet rfl hnumbered rfl rfl rfl (Or.inl rfl) ?_
      intro node hstate
      by_cases hnew : node = s.scene.created
      · rw [hnew] at hstate
        simp [SIFloatingCollectionScene.addChild, configureNode, SIFloatingNode.init] at hstate
      · simp [SIFloatingCollectionScene.addChild, hnew]
  | keeps index => exact h.quiet rfl hnumbered rfl rfl rfl (Or.inl rfl) fun _ _ => rfl
  | removes index node _ => exact h.quiet rfl hnumbered rfl rfl rfl (Or.inl rfl) fun _ _ => rfl
  | begins location timestamp =>
      constructor
      · exact hnumbered
      · exact h.longPress
      · intro finger hlog
        cases hlog
        exact ⟨rfl, fun _ => rfl⟩
      · intro removal hlog
        cases hlog
      · intro removal hlog
        cases hlog
      · intro removal hlog
        cases hlog
  | moves previousLocation location mode appliedForces =>
      refine h.keep hnumbered rfl rfl rfl (Or.inl rfl) (fun _ _ => rfl) ?_ ?_ ?_
      · intro finger' hlog
        obtain ⟨finger, hfinger, hmoved⟩ := Option.map_eq_some_iff.mp hlog
        rw [← hmoved]
        exact ⟨finger, hfinger, rfl, rfl⟩
      · intro hdown
        simpa [logTouch, noteTouch] using hdown
      · exact fun removal hlog => logTouch_started hlog
  | ends timestamp hit _ _ hended =>
      obtain ⟨nodes, mode, hscene⟩ := hended.frame
      have hlong : scene'.longPressTime = s.scene.longPressTime := by
        rw [hscene]
      exact tracked_none hnumbered (hlong.trans h.longPress)
  | cancels => exact tracked_none hnumbered h.longPress
  | updates currentTime hit _ _ hupdated =>
      cases hupdated with
      | idles hstart _ hscene =>
          rw [hscene] at hnumbered ⊢
          exact h.quiet (noteTouch_update hstart) hnumbered rfl rfl rfl (Or.inl rfl)
            fun node _ => dampNodes_dynamic g _ node
      | starts node hdue hnode hscene => exact h.start hnumbered hdue hnode hscene
      | refuses hstart _ _ hscene =>
          rw [hscene] at hnumbered ⊢
          exact h.quiet (noteTouch_update hstart) hnumbered rfl rfl rfl (Or.inr rfl)
            fun node _ => dampNodes_dynamic g _ node
      | removes node hstart _ _ _ _ hscene =>
          rw [hscene] at hnumbered ⊢
          exact h.quiet (noteTouch_update hstart) hnumbered rfl rfl rfl (Or.inr rfl)
            fun node _ => dampNodes_dynamic g _ node
  | simulates position => exact h.quiet rfl hnumbered rfl rfl rfl (Or.inl rfl) fun _ _ => rfl
  | fades node _ => exact h.quiet rfl hnumbered rfl rfl rfl (Or.inl rfl) fun _ _ => rfl

theorem touchedStep_tracked {g : Geometry} {d : SIFloatingCollectionSceneDelegate C D}
    {w w' : Touched C D} {event : FloatingEvent C} (hw : Tracked w.1.scene w.2)
    (h : touchedStep g d w event = .ok w') : Tracked w'.1.scene w'.2 := by
  obtain ⟨hstep, hlog⟩ := EventRun.watch_ok.mp h
  rw [hlog]
  exact step_tracked hw (floatingStep_ok hstep)

def Removes (g : Geometry) (d : SIFloatingCollectionSceneDelegate C D) (s : SceneState C D)
    (currentTime : NSTimeInterval) (hit : SKHit) (node : Nat) : Prop :=
  s.scene.RemoveDue currentTime ∧ s.scene.nodeAtPoint hit = some (.floating node) ∧
    s.removalAllowed g d node = true

theorem update_removes_iff {g : Geometry} {d : SIFloatingCollectionSceneDelegate C D}
    {s : SceneState C D} {currentTime : NSTimeInterval} {hit : SKHit}
    {scene' : SIFloatingCollectionScene C} (hs : s.scene.WellNumbered)
    (h : UpdateStep g d s currentTime hit scene') {node : Nat}
    (hnode : node ∈ s.scene.floatingNodes) :
    node ∉ scene'.floatingNodes ↔ Removes g d s currentTime hit node := by
  cases h with
  | idles _ hremove hscene =>
      rw [hscene]
      exact iff_of_false (fun hnot => hnot hnode) (fun hremoves => hremove hremoves.1)
  | starts started hdue _ hscene =>
      rw [hscene]
      refine iff_of_false (fun hnot => hnot hnode) ?_
      exact fun hremoves => hdue.2.2.2.1 hremoves.1.2.2.2.1
  | refuses _ _ hrefused hscene =>
      rw [hscene]
      refine iff_of_false (fun hnot => hnot hnode) ?_
      rintro ⟨_, hhit, hallowed⟩
      rw [hrefused node hnode hhit] at hallowed
      exact nomatch hallowed
  | removes removed _ hdue hhit hmember hallowed hscene =>
      have hdamped : ({ s.scene.dampNodes g with
          removingStartedTime := -1 } : SIFloatingCollectionScene C).WellNumbered :=
        ⟨hs.nodup, hs.created⟩
      have hwithout := hdamped.mem_without (objectAtIndex_indexOfObject hmember) node
      rw [hscene]
      constructor
      · intro hnot
        have hsame : node = removed := by
          by_contra hne
          exact hnot (hwithout.mpr ⟨hnode, hne⟩)
        rw [hsame]
        exact ⟨hdue, hhit, hallowed⟩
      · rintro ⟨_, hhit', _⟩ hmem
        have hsame : removed = node := by
          have heq := hhit.symm.trans hhit'
          cases heq
          rfl
        exact (hwithout.mp hmem).2 hsame.symm

variable {nodeUnder : SIFloatingCollectionScene C → CGPoint → Option HitNode}

def TestsTouchPoint (nodeUnder : SIFloatingCollectionScene C → CGPoint → Option HitNode)
    (scene : SIFloatingCollectionScene C) (hit : SKHit) : Prop :=
  scene.nodeAtPoint hit = nodeUnder scene scene.touchPoint

/-- An update starts to remove a node only under a finger that has been down for long enough and
lies on it, and removes one only while the finger that started it is still down. -/
def SustainedPress (nodeUnder : SIFloatingCollectionScene C → CGPoint → Option HitNode)
    (w : Touched C D) (event : FloatingEvent C) (w' : Touched C D) : Prop :=
  ∀ currentTime hit, event = .scene (.update currentTime hit) →
    TestsTouchPoint nodeUnder w.1.scene hit →
      (∀ node, Starts w.1 currentTime hit node → ∃ finger, w.2.finger = some finger ∧
        currentTime - finger.began > w.1.scene.timeToStartRemove ∧
        nodeUnder w.1.scene finger.location = some (.floating node)) ∧
      ∀ node ∈ w.1.scene.floatingNodes, node ∉ w'.1.scene.floatingNodes →
        w.2.finger.isSome = true ∧ ∃ removal, w.2.started = some removal ∧ removal.node = node ∧
          currentTime - removal.since > w.1.scene.timeToRemove

/-- When a start is due, a finger is down and still over what is where it was put. When the
removal of a node is due, the finger that is down is the one whose start it was, on the same
node. -/
def FingerRests (nodeUnder : SIFloatingCollectionScene C → CGPoint → Option HitNode) (g : Geometry)
    (d : SIFloatingCollectionSceneDelegate C D) (w : Touched C D) (event : FloatingEvent C) :
    Prop :=
  ∀ currentTime hit, event = .scene (.update currentTime hit) →
    TestsTouchPoint nodeUnder w.1.scene hit →
      (∀ node, Starts w.1 currentTime hit node → ∃ finger, w.2.finger = some finger ∧
        nodeUnder w.1.scene finger.location = nodeUnder w.1.scene finger.put) ∧
      ∀ node ∈ w.1.scene.floatingNodes, Removes g d w.1 currentTime hit node →
        ∃ removal, w.2.started = some removal ∧ removal.node = node

private theorem Tracked.starts_iff {scene : SIFloatingCollectionScene C} {log : TouchLog}
    {currentTime : NSTimeInterval} {node : Nat} (h : Tracked scene log)
    (hdue : scene.StartDue currentTime)
    (hnode : nodeUnder scene scene.touchPoint = some (.floating node)) :
    (∃ finger, log.finger = some finger ∧ currentTime - finger.began > scene.timeToStartRemove ∧
        nodeUnder scene finger.location = some (.floating node)) ↔
      ∃ finger, log.finger = some finger ∧
        nodeUnder scene finger.location = nodeUnder scene finger.put := by
  constructor
  · rintro ⟨finger, hfinger, _, hlies⟩
    rw [(h.put finger hfinger).1] at hnode
    exact ⟨finger, hfinger, hlies.trans hnode.symm⟩
  · rintro ⟨finger, hfinger, hlies⟩
    obtain ⟨hpoint, hbegan⟩ := h.put finger hfinger
    obtain ⟨_, _, _, htouched, hlate⟩ := hdue
    rw [hpoint] at hnode
    refine ⟨finger, hfinger, ?_, hlies.trans hnode⟩
    rw [← hbegan htouched]
    exact hlate

private theorem Tracked.removes_iff {scene : SIFloatingCollectionScene C} {log : TouchLog}
    {currentTime : NSTimeInterval} {node : Nat} (h : Tracked scene log)
    (hdue : scene.RemoveDue currentTime) :
    (log.finger.isSome = true ∧ ∃ removal, log.started = some removal ∧ removal.node = node ∧
        currentTime - removal.since > scene.timeToRemove) ↔
      ∃ removal, log.started = some removal ∧ removal.node = node := by
  constructor
  · rintro ⟨_, removal, hstarted, hnode, _⟩
    exact ⟨removal, hstarted, hnode⟩
  · rintro ⟨removal, hstarted, hnode⟩
    obtain ⟨_, _, _, _, hpending, hlate⟩ := hdue
    refine ⟨h.down removal hstarted, removal, hstarted, hnode, ?_⟩
    rw [← (h.started removal hstarted).2 hpending]
    exact hlate

private theorem sustainedPress_step {g : Geometry} {d : SIFloatingCollectionSceneDelegate C D}
    {w w' : Touched C D} {event : FloatingEvent C} (hw : Tracked w.1.scene w.2)
    (h : touchedStep g d w event = .ok w') :
    SustainedPress nodeUnder w event w' ↔ FingerRests nodeUnder g d w event := by
  obtain ⟨hstep, _⟩ := EventRun.watch_ok.mp h
  apply forall_congr'
  intro currentTime
  apply forall_congr'
  intro hit
  apply imp_congr_right
  rintro rfl
  have hupdate : UpdateStep g d w.1 currentTime hit w'.1.scene :=
    update_ok (enabled_ok.mp hstep).2
  apply imp_congr_right
  intro htests
  apply and_congr
  · apply forall_congr'
    intro node
    apply imp_congr_right
    intro hstarts
    exact hw.starts_iff hstarts.1 (htests.symm.trans hstarts.2)
  · apply forall_congr'
    intro node
    apply imp_congr_right
    intro hnode
    rw [update_removes_iff hw.numbered hupdate hnode]
    apply imp_congr_right
    exact fun hremoves => hw.removes_iff hremoves.1

/-- A scene that allows editing, before any touch. -/
def editingScene (settings : SceneSettings) (blank : SIFloatingNode C) (delegate : D) :
    Touched C D :=
  (⟨{ settings with allowEditing := true }.scene blank, delegate⟩, .init)

theorem editingScene_tracked (settings : SceneSettings) (blank : SIFloatingNode C)
    (delegate : D) :
    Tracked (editingScene settings blank delegate).1.scene (editingScene settings blank delegate).2 :=
  tracked_none ⟨List.nodup_nil, nofun⟩ rfl

/-- In every run of a scene that allows editing, only sustained presses start and finish removals
exactly when the finger rests at each update where one is due. -/
theorem sustainedPress_iff (nodeUnder : SIFloatingCollectionScene C → CGPoint → Option HitNode)
    (g : Geometry) (d : SIFloatingCollectionSceneDelegate C D) (settings : SceneSettings)
    (blank : SIFloatingNode C) (delegate : D) (events : List (FloatingEvent C)) :
    EventRun.EveryStep (touchedStep g d) (SustainedPress nodeUnder)
        (editingScene settings blank delegate) events ↔
      EventRun.EveryStep (touchedStep g d) (fun w event _ => FingerRests nodeUnder g d w event)
        (editingScene settings blank delegate) events :=
  EventRun.everyStep_congr (fun _ _ _ hw h => touchedStep_tracked hw h)
    (fun _ _ _ hw h => sustainedPress_step hw h) (editingScene_tracked settings blank delegate)
    events

/-- A short tap on a bubble, and two updates after it. -/
def tapThenWait : List (FloatingEvent Unit) :=
  [.addChild ⟨⟨20, 20⟩, ⟨20, 20⟩, false, ()⟩, .scene (.touchesBegan ⟨20, 20⟩ 1),
    .scene (.touchesEnded (11 / 10) [.floating 0]), .scene (.update 2 [.floating 0])]

def bubbleScene : Touched Unit Unit :=
  editingScene (defaultSettings ⟨100, 100⟩) (.init ⟨⟨0, 0⟩, ⟨20, 20⟩, false, ()⟩) ()

/-- The only bubble is a square. -/
def bubbleUnder (scene : SIFloatingCollectionScene Unit) (point : CGPoint) : Option HitNode :=
  let position := (scene.nodes 0).position
  if 0 ∈ scene.floatingNodes ∧ |point.x - position.x| ≤ 10 ∧ |point.y - position.y| ≤ 10 then
    some (.floating 0)
  else some .scene

/-- The tap removes the bubble three seconds after the finger was lifted. -/
theorem tap_removesLater :
    ¬ EventRun.EveryStep (touchedStep axisGeometry noDelegate) (SustainedPress bubbleUnder)
      bubbleScene (tapThenWait ++ [.scene (.update (41 / 10) [.floating 0])]) := by
  intro h
  have hbefore : (EventRun.run (touchedStep axisGeometry noDelegate) bubbleScene
      tapThenWait).toOption.any (fun w =>
        w.2.finger.isSome = false ∧ 0 ∈ w.1.scene.floatingNodes ∧
          bubbleUnder w.1.scene w.1.scene.touchPoint = some (.floating 0)) = true := by
    decide +kernel
  have hafter : (EventRun.run (touchedStep axisGeometry noDelegate) bubbleScene
      (tapThenWait ++ [.scene (.update (41 / 10) [.floating 0])])).toOption.any (fun w =>
        0 ∉ w.1.scene.floatingNodes) = true := by
    decide +kernel
  obtain ⟨w, hw, hlifted⟩ := EventRun.exists_ok_of_any hbefore
  obtain ⟨w', hw', hremoved⟩ := EventRun.exists_ok_of_any hafter
  rw [EventRun.run_append _ hw, EventRun.run_singleton] at hw'
  obtain ⟨hfinger, hmember, hunder⟩ := of_decide_eq_true hlifted
  have hpress := h.last hw hw' (41 / 10) [.floating 0] rfl hunder.symm
  have hdown := (hpress.2 0 hmember (of_decide_eq_true hremoved)).1
  rw [hfinger] at hdown
  cases hdown

end SceneState

end CrowdSound
