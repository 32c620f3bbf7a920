import CrowdSound.Bubbles.Trending
import CrowdSound.Library.TimedActions
import Mathlib.Data.Rat.Floor

/-!
# The scale of a bubble

Each change of a bubble's state starts an action that changes its scale, under a key of its own,
and only the action of a removal is taken away by later changes. Actions under different keys run
side by side; the order in which a frame carries them forward is left open. The bubble is at rest
when it is not being removed and no action has a change of the scale left.
-/

namespace CrowdSound

open EventRun TimedActions

inductive ActionKey where
  | removing
  | tapped
  | normalize
  | longPress
  deriving DecidableEq

structure AnimatedBubble where
  floating : SIFloatingNode BubbleContent
  xScale : ℚ
  actions : ActionKey → Option (Progress ℚ)

/-- A frame carries each action forward by the time since the last one. -/
structure Frame where
  elapsed : ℚ
  order : List ActionKey
  nonneg : 0 ≤ elapsed
  nodup : order.Nodup
  complete : ∀ key, key ∈ order

inductive BubbleEvent where
  | setState (state : SIFloatingNodeState)
  | frame (frame : Frame)

namespace AnimatedBubble

def created (floating : SIFloatingNode BubbleContent) : AnimatedBubble where
  floating := floating
  xScale := 1
  actions := fun _ => none

def removeActionForKey (b : AnimatedBubble) (key : ActionKey) : AnimatedBubble :=
  { b with actions := Function.update b.actions key none }

/-- The action replaces the one that runs under the same key. -/
def runAction (b : AnimatedBubble) (action : Action ℚ) (key : ActionKey) : AnimatedBubble :=
  { b with actions := Function.update b.actions key (some (.waiting action)) }

def pulse (xScale : ℚ) : Action ℚ :=
  .sequence (.moveTo (xScale + 13 / 100) 0) (.moveTo xScale (3 / 10))

/-- Two pulses, each beside a change of the fill colour, beside a change of the stroke colour. The
colours leave the scale alone. -/
def pulseWithFadeStroke (xScale : ℚ) : Action ℚ :=
  let pulseWithFade := .group (pulse xScale) (.idle (3 / 10))
  .group (.sequence pulseWithFade pulseWithFade) (.idle (6 / 10))

/-! Some of the animations first remove the action of a removal. -/

def tappingAnimation (b : AnimatedBubble) : Action ℚ × AnimatedBubble :=
  let b := b.removeActionForKey .removing
  (pulseWithFadeStroke b.xScale, b)

def longPressingAnimation (b : AnimatedBubble) : Action ℚ × AnimatedBubble :=
  let b := b.removeActionForKey .removing
  (pulseWithFadeStroke b.xScale, b)

def normalizeAnimation (b : AnimatedBubble) : Action ℚ × AnimatedBubble :=
  (.moveTo 1 (2 / 10), b.removeActionForKey .removing)

def removingAnimation (b : AnimatedBubble) : Action ℚ × AnimatedBubble :=
  (.repeatForever (pulse b.xScale), b)

def stateChanged (b : AnimatedBubble) : AnimatedBubble :=
  match b.floating.state with
  | .normal =>
    let (action, b) := b.normalizeAnimation
    b.runAction action .normalize
  | .longPressed =>
    let (action, b) := b.longPressingAnimation
    b.runAction action .longPress
  | .tapped =>
    let (action, b) := b.tappingAnimation
    b.runAction action .tapped
  | .removing =>
    let (action, b) := b.removingAnimation
    b.runAction action .removing

def setState (b : AnimatedBubble) (state : SIFloatingNodeState) : AnimatedBubble :=
  if b.floating.state = state then b
  else stateChanged { b with floating := b.floating.setState state }

def advance (elapsed : ℚ) (b : AnimatedBubble) (key : ActionKey) : AnimatedBubble :=
  match b.actions key with
  | none => b
  | some progress =>
    let s := progress.advance b.xScale elapsed
    { b with xScale := s.value, actions := Function.update b.actions key s.progress }

def frame (b : AnimatedBubble) (f : Frame) : AnimatedBubble := f.order.foldl (advance f.elapsed) b

/-- Nothing here can fail. -/
def bubbleStep (b : AnimatedBubble) : BubbleEvent → Except Empty AnimatedBubble
  | .setState state => .ok (b.setState state)
  | .frame f => .ok (b.frame f)

def frameStep (b : AnimatedBubble) (f : Frame) : Except Empty AnimatedBubble := .ok (b.frame f)

/-- The bubble is not being removed, and no action has a change of its scale left. -/
structure AtRest (b : AnimatedBubble) : Prop where
  state : b.floating.state ≠ .removing
  finished : ∀ key left, b.actions key = some left → left.moves = false

def RestsAtOne (b : AnimatedBubble) : Prop := b.AtRest → b.xScale = 1

/-- However the time goes on, the bubble does not come to rest at another scale. -/
def SettlesAtOne (b : AnimatedBubble) : Prop :=
  ∀ frames, Throughout frameStep RestsAtOne b frames

/-- When the state changes to one of those that pulse, the scale is one. -/
def PulsesFromOne (b : AnimatedBubble) (event : BubbleEvent) (_ : AnimatedBubble) : Prop :=
  ∀ state, event = .setState state → state ≠ b.floating.state →
    state = .tapped ∨ state = .longPressed → b.xScale = 1

/-- The animation of a change: it pulses around the present scale, returns to the scale one, or
pulses for ever. -/
inductive ScaleChange (b b' : AnimatedBubble) : SIFloatingNodeState → Prop where
  | pulses {state : SIFloatingNodeState} (key : ActionKey)
      (hpressed : state = .tapped ∨ state = .longPressed) (hkey : key ≠ .removing)
      (hactions : b'.actions = Function.update (Function.update b.actions .removing none) key
        (some (.waiting (pulseWithFadeStroke b.xScale)))) : ScaleChange b b' state
  | normalizes (hactions : b'.actions = Function.update
      (Function.update b.actions .removing none) .normalize (some (.waiting (.moveTo 1 (2 / 10)))))
      : ScaleChange b b' .normal
  | removes (hactions : b'.actions = Function.update b.actions .removing
      (some (.waiting (.repeatForever (pulse b.xScale))))) : ScaleChange b b' .removing

private theorem setState_changes {b : AnimatedBubble} {state : SIFloatingNodeState}
    (h : b.floating.state ≠ state) : ScaleChange b (b.setState state) state := by
  have hstate : (b.floating.setState state).state = state := by
    simp [SIFloatingNode.setState, h]
  unfold setState stateChanged
  rw [if_neg h]
  dsimp only
  rw [hstate]
  cases state with
  | normal => exact .normalizes rfl
  | tapped => exact .pulses .tapped (Or.inl rfl) (by decide) rfl
  | longPressed => exact .pulses .longPress (Or.inr rfl) (by decide) rfl
  | removing => exact .removes rfl

private theorem setState_floating (b : AnimatedBubble) (state : SIFloatingNodeState) :
    (b.setState state).floating = b.floating.setState state := by
  unfold setState stateChanged
  split
  case isTrue h => simp [SIFloatingNode.setState, h]
  case isFalse h =>
    dsimp only
    split <;> rfl

variable {b : AnimatedBubble} {elapsed : ℚ} {key key' : ActionKey} {left : Progress ℚ}

private theorem advance_of_none (h : b.actions key = none) : b.advance elapsed key = b := by
  unfold advance
  rw [h]

private theorem advance_of_some (h : b.actions key = some left) :
    b.advance elapsed key = { b with
      xScale := (left.advance b.xScale elapsed).value
      actions := Function.update b.actions key (left.advance b.xScale elapsed).progress } := by
  unfold advance
  rw [h]

private theorem update_eq_some {actions : ActionKey → Option (Progress ℚ)}
    {new : Option (Progress ℚ)} (h : Function.update actions key new key' = some left) :
    (key' = key ∧ new = some left) ∨ (key' ≠ key ∧ actions key' = some left) := by
  by_cases hsame : key' = key
  · rw [hsame, Function.update_self] at h
    exact Or.inl ⟨hsame, h⟩
  · rw [Function.update_of_ne hsame] at h
    exact Or.inr ⟨hsame, h⟩

@[simp] theorem advance_floating (b : AnimatedBubble) (elapsed : ℚ) (key : ActionKey) :
    (b.advance elapsed key).floating = b.floating := by
  unfold advance
  split <;> rfl

private theorem advance_actions_of_ne (h : key' ≠ key) :
    (b.advance elapsed key).actions key' = b.actions key' := by
  unfold advance
  split
  · rfl
  · simp [h]

private theorem foldl_advance_actions_of_notMem {order : List ActionKey} (h : key ∉ order) :
    (order.foldl (advance elapsed) b).actions key = b.actions key := by
  induction order generalizing b with
  | nil => rfl
  | cons key' order ih =>
      obtain ⟨hne, hnotMem⟩ := List.ne_and_not_mem_of_not_mem_cons h
      rw [List.foldl_cons, ih hnotMem]
      exact advance_actions_of_ne hne

private theorem frame_invariant {I : AnimatedBubble → Prop} (f : Frame)
    (hadvance : ∀ b key, I b → I (b.advance f.elapsed key)) (hb : I b) : I (b.frame f) := by
  unfold frame
  induction f.order generalizing b with
  | nil => exact hb
  | cons key order ih => exact ih (hadvance b key hb)

/-- Every action settles the scale at one, and until one of them will move it, it is there. -/
structure Settled (b : AnimatedBubble) : Prop where
  settles : ∀ key left, b.actions key = some left → left.SettlesAt 1
  scale : (∃ key left, b.actions key = some left ∧ left.moves = true) ∨ b.xScale = 1

private theorem created_settled (floating : SIFloatingNode BubbleContent) :
    (created floating).Settled := by
  constructor
  · intro key left hleft
    cases hleft
  · exact Or.inr rfl

private theorem Settled.advance (h : b.Settled) (elapsed : ℚ) (key : ActionKey) :
    (b.advance elapsed key).Settled := by
  cases hkey : b.actions key with
  | none =>
      rw [advance_of_none hkey]
      exact h
  | some left =>
      have hstep := Progress.advance_settling (h.settles key left hkey) b.xScale elapsed
      rw [advance_of_some hkey]
      constructor
      · intro key' left' hleft'
        rcases update_eq_some hleft' with ⟨_, hnew⟩ | ⟨_, hold⟩
        · exact hstep.settles left' hnew
        · exact h.settles key' left' hold
      · by_cases hmoves : (left.advance b.xScale elapsed).moves = true
        · obtain ⟨left', hleft', hmoving⟩ := (Option.any_eq_true _ _).mp hmoves
          exact Or.inl ⟨key, left', by simp [hleft'], hmoving⟩
        · have hvalue := hstep.value.resolve_left hmoves
          cases hmoved : left.moves with
          | true =>
              rw [if_pos hmoved] at hvalue
              exact Or.inr hvalue
          | false =>
              rw [if_neg (by simp [hmoved])] at hvalue
              -- this action did not move the scale; if another one will, it is still there
              cases h.scale with
              | inl hother =>
                  obtain ⟨key', left', hleft', hmoving⟩ := hother
                  have hne : key' ≠ key := by
                    intro hsame
                    rw [hsame, hkey, Option.some.injEq] at hleft'
                    rw [← hleft', hmoved] at hmoving
                    cases hmoving
                  exact Or.inl ⟨key', left', by simpa [hne] using hleft', hmoving⟩
              | inr hone => exact Or.inr (hvalue.trans hone)

private theorem Settled.frame (h : b.Settled) (f : Frame) : (b.frame f).Settled :=
  frame_invariant f (fun _ key hb => hb.advance f.elapsed key) h

private theorem Settled.start {b' : AnimatedBubble} {actions : ActionKey → Option (Progress ℚ)}
    {action : Action ℚ} (h : b.Settled)
    (hactions : ∀ key left, actions key = some left → b.actions key = some left)
    (hsettles : action.SettlesAt 1) (hmoves : action.moves = true)
    (hb' : b'.actions = Function.update actions key (some (.waiting action))) : b'.Settled := by
  constructor
  · intro key' left' hleft'
    rw [hb'] at hleft'
    rcases update_eq_some hleft' with ⟨_, hnew⟩ | ⟨_, hold⟩
    · rw [← Option.some.inj hnew]
      exact hsettles
    · exact h.settles key' left' (hactions key' left' hold)
  · exact Or.inl ⟨key, .waiting action, by rw [hb', Function.update_self], hmoves⟩

private theorem removed_actions {actions : ActionKey → Option (Progress ℚ)}
    (removed key : ActionKey)
    (left : Progress ℚ) (h : Function.update actions removed none key = some left) :
    actions key = some left := by
  rcases update_eq_some h with ⟨_, hnone⟩ | ⟨_, hold⟩
  · cases hnone
  · exact hold

private theorem pulseWithFadeStroke_settlesAt (xScale : ℚ) :
    (pulseWithFadeStroke xScale).SettlesAt xScale := by
  simp [pulseWithFadeStroke, pulse, Action.SettlesAt, Action.moves]

private theorem Settled.setState {state : SIFloatingNodeState} (h : b.Settled)
    (hpulse : state ≠ b.floating.state → state = .tapped ∨ state = .longPressed → b.xScale = 1) :
    (b.setState state).Settled := by
  by_cases hsame : b.floating.state = state
  · rw [AnimatedBubble.setState, if_pos hsame]
    exact h
  · cases setState_changes hsame with
    | pulses key hpressed hkey hactions =>
        have hone := hpulse (Ne.symm hsame) hpressed
        rw [hone] at hactions
        exact h.start (removed_actions .removing) (pulseWithFadeStroke_settlesAt 1) rfl hactions
    | normalizes hactions =>
        have hsettles : Action.SettlesAt 1 (.moveTo (1 : ℚ) (2 / 10)) := rfl
        exact h.start (removed_actions .removing) hsettles rfl hactions
    | removes hactions =>
        have hsettles : Action.SettlesAt 1 (.repeatForever (pulse b.xScale)) := trivial
        exact h.start (fun _ _ hleft => hleft) hsettles rfl hactions

def ActionsEnd (b : AnimatedBubble) : Prop :=
  ∀ key left, key ≠ .removing → b.actions key = some left → left.ends = true

private theorem created_actionsEnd (floating : SIFloatingNode BubbleContent) :
    (created floating).ActionsEnd := by
  intro key left hkey hleft
  cases hleft

private theorem ActionsEnd.advance (h : b.ActionsEnd) (elapsed : ℚ) (key : ActionKey) :
    (b.advance elapsed key).ActionsEnd := by
  cases hkey : b.actions key with
  | none =>
      rw [advance_of_none hkey]
      exact h
  | some left =>
      rw [advance_of_some hkey]
      intro key' left' hkey' hleft'
      rcases update_eq_some hleft' with ⟨hsame, hnew⟩ | ⟨_, hold⟩
      · rw [hsame] at hkey'
        exact Progress.advance_left (h key left hkey' hkey) b.xScale elapsed left' hnew
      · exact h key' left' hkey' hold

private theorem ActionsEnd.frame (h : b.ActionsEnd) (f : Frame) : (b.frame f).ActionsEnd :=
  frame_invariant f (fun _ key hb => hb.advance f.elapsed key) h

private theorem ActionsEnd.start {b' : AnimatedBubble} {actions : ActionKey → Option (Progress ℚ)}
    {action : Action ℚ} (h : b.ActionsEnd)
    (hactions : ∀ key left, actions key = some left → b.actions key = some left)
    (hends : key = .removing ∨ action.ends = true)
    (hb' : b'.actions = Function.update actions key (some (.waiting action))) :
    b'.ActionsEnd := by
  intro key' left' hkey' hleft'
  rw [hb'] at hleft'
  rcases update_eq_some hleft' with ⟨hsame, hnew⟩ | ⟨_, hold⟩
  · rw [hsame] at hkey'
    rw [← Option.some.inj hnew]
    exact hends.resolve_left hkey'
  · exact h key' left' hkey' (hactions key' left' hold)

private theorem ActionsEnd.setState (h : b.ActionsEnd) (state : SIFloatingNodeState) :
    (b.setState state).ActionsEnd := by
  by_cases hsame : b.floating.state = state
  · rw [AnimatedBubble.setState, if_pos hsame]
    exact h
  · cases setState_changes hsame with
    | pulses key hpressed hkey hactions =>
        exact h.start (removed_actions .removing) (Or.inr rfl) hactions
    | normalizes hactions => exact h.start (removed_actions .removing) (Or.inr rfl) hactions
    | removes hactions => exact h.start (fun _ _ hleft => hleft) (Or.inl rfl) hactions

private theorem exists_enough (keys : List ActionKey)
    (h : ∀ key ∈ keys, ∀ left, b.actions key = some left → left.ends = true) :
    ∃ enough, ∀ elapsed, enough ≤ elapsed → ∀ key ∈ keys, ∀ left, b.actions key = some left →
      ∀ value, (left.advance value elapsed).progress = none := by
  induction keys with
  | nil =>
      refine ⟨0, ?_⟩
      intro elapsed helapsed key hkey
      cases hkey
  | cons key keys ih =>
      obtain ⟨enough, henough⟩ := ih (fun key' hkey' => h key' (List.mem_cons_of_mem key hkey'))
      have hfirst : ∃ enough', ∀ elapsed, enough' ≤ elapsed → ∀ left,
          b.actions key = some left → ∀ value, (left.advance value elapsed).progress = none := by
        cases hkey : b.actions key with
        | none =>
            refine ⟨0, ?_⟩
            intro elapsed helapsed left hleft
            cases hleft
        | some left =>
            obtain ⟨enough', needed, hended⟩ :=
              Progress.advance_ends (h key (List.mem_cons_self ..) left hkey)
            refine ⟨enough', ?_⟩
            intro elapsed helapsed left' hleft' value
            cases hleft'
            exact (hended value elapsed helapsed).1
      obtain ⟨enough', henough'⟩ := hfirst
      refine ⟨max enough enough', ?_⟩
      intro elapsed helapsed key' hkey'
      cases hkey' with
      | head => exact henough' elapsed ((le_max_right _ _).trans helapsed)
      | tail _ hkey' =>
          exact henough elapsed ((le_max_left _ _).trans helapsed) key' hkey'

theorem foldl_advance_ended {order : List ActionKey}
    (h : ∀ key ∈ order, ∀ left, b.actions key = some left →
      ∀ value, (left.advance value elapsed).progress = none) :
    ∀ key ∈ order, (order.foldl (advance elapsed) b).actions key = none := by
  induction order generalizing b with
  | nil =>
      intro key hkey
      cases hkey
  | cons first order ih =>
      have hfirst : (b.advance elapsed first).actions first = none := by
        cases hleft : b.actions first with
        | none =>
            rw [advance_of_none hleft]
            exact hleft
        | some left =>
            rw [advance_of_some hleft]
            simpa using h first (List.mem_cons_self ..) left hleft b.xScale
      have hrest : ∀ key ∈ order, (order.foldl (advance elapsed)
          (b.advance elapsed first)).actions key = none := by
        apply ih
        intro key hkey left hleft
        have hne : key ≠ first := by
          intro hsame
          rw [hsame, hfirst] at hleft
          cases hleft
        rw [advance_actions_of_ne hne] at hleft
        exact h key (List.mem_cons_of_mem first hkey) left hleft
      intro key hkey
      rw [List.foldl_cons]
      by_cases hmem : key ∈ order
      · exact hrest key hmem
      · have hsame : key = first := (List.mem_cons.mp hkey).resolve_right hmem
        rw [foldl_advance_actions_of_notMem hmem, hsame]
        exact hfirst

def others (key : ActionKey) : List ActionKey :=
  [.removing, .tapped, .normalize, .longPress].erase key

private theorem notMem_others (key : ActionKey) : key ∉ others key := by
  cases key <;> decide

/-- All actions, with a given one at the end. -/
def endingWith (key : ActionKey) : List ActionKey := others key ++ [key]

def lateFrame (elapsed : ℚ) (helapsed : 0 ≤ elapsed) (key : ActionKey) : Frame where
  elapsed := elapsed
  order := endingWith key
  nonneg := helapsed
  nodup := by cases key <;> decide
  complete := by
    intro key'
    cases key <;> cases key' <;> decide

private theorem lateFrame_xScale {xScale : ℚ}
    (h : ∀ key left, b.actions key = some left → left.ends = true)
    (hkey : b.actions key = some left) (hsettles : left.SettlesAt xScale)
    (hmoves : left.moves = true) :
    ∃ f, (∀ key, (b.frame f).actions key = none) ∧ (b.frame f).xScale = xScale := by
  obtain ⟨enough, henough⟩ := exists_enough (endingWith key) (fun key _ => h key)
  have hended := henough (max 0 enough) (le_max_right _ _)
  let f := lateFrame (max 0 enough) (le_max_left _ _) key
  refine ⟨f, ?_, ?_⟩
  · intro key'
    exact foldl_advance_ended hended key' (f.complete key')
  · have hlast : ((others key).foldl (advance (max 0 enough)) b).actions key = some left := by
      rw [foldl_advance_actions_of_notMem (notMem_others key), hkey]
    show (List.foldl (advance (max 0 enough)) b (endingWith key)).xScale = xScale
    rw [endingWith, List.foldl_append, List.foldl_cons, List.foldl_nil, advance_of_some hlast]
    let value := ((others key).foldl (advance (max 0 enough)) b).xScale
    have hstep := Progress.advance_settling hsettles value (max 0 enough)
    have hnone : (left.advance value (max 0 enough)).progress = none :=
      hended key (f.complete key) left hkey value
    have hvalue := hstep.value.resolve_left (by simp [Step.moves, hnone])
    rw [if_pos hmoves] at hvalue
    exact hvalue

private theorem frame_floating (b : AnimatedBubble) (f : Frame) :
    (b.frame f).floating = b.floating := by
  apply frame_invariant (I := fun b' => b'.floating = b.floating) f _ rfl
  intro b' key hsame
  rw [advance_floating, hsame]

private theorem Settled.restsAtOne (h : b.Settled) : b.RestsAtOne := by
  intro hrest
  cases h.scale with
  | inl hmoving =>
      obtain ⟨key, left, hleft, hmoves⟩ := hmoving
      rw [hrest.finished key left hleft] at hmoves
      cases hmoves
  | inr hone => exact hone

private theorem Settled.settlesAtOne (h : b.Settled) : b.SettlesAtOne := by
  intro frames
  apply throughout_of_invariant _ (fun _ hb => hb.restsAtOne) h
  intro b f b' hb hstep
  cases hstep
  exact hb.frame f

private theorem ScaleChange.pulses_from_one {b' : AnimatedBubble} {state : SIFloatingNodeState}
    (hends : b.ActionsEnd) (h : ScaleChange b b' state) (hstate : b'.floating.state = state)
    (hpressed : state = .tapped ∨ state = .longPressed) (hsettles : b'.SettlesAtOne) :
    b.xScale = 1 := by
  have hnotRemoving : state ≠ .removing := by
    rcases hpressed with rfl | rfl <;> decide
  cases h with
  | pulses key hpressed' hkey hactions =>
      have hall : ∀ key' left', b'.actions key' = some left' → left'.ends = true := by
        intro key' left' hleft'
        rw [hactions] at hleft'
        rcases update_eq_some hleft' with ⟨_, hnew⟩ | ⟨_, hothers⟩
        · rw [← Option.some.inj hnew]
          rfl
        · rcases update_eq_some hothers with ⟨_, hnone⟩ | ⟨hremoving, hold⟩
          · cases hnone
          · exact hends key' left' hremoving hold
      have hstarted : b'.actions key = some (.waiting (pulseWithFadeStroke b.xScale)) := by
        rw [hactions, Function.update_self]
      obtain ⟨f, hended, hscale⟩ :=
        lateFrame_xScale hall hstarted (pulseWithFadeStroke_settlesAt b.xScale) rfl
      have hrest : (b'.frame f).AtRest := by
        constructor
        · rw [frame_floating, hstate]
          exact hnotRemoving
        · intro key' left' hleft'
          rw [hended key'] at hleft'
          cases hleft'
      have hlast := (hsettles [f]).last (run_singleton b' f)
      exact hscale.symm.trans (hlast hrest)
  | normalizes hactions => rcases hpressed with hpressed | hpressed <;> cases hpressed
  | removes hactions => exact absurd rfl hnotRemoving

/-- A bubble created at the scale one settles there throughout a run exactly when each pulse of
the run starts from there. -/
theorem settlesAtOne_iff (floating : SIFloatingNode BubbleContent) (events : List BubbleEvent) :
    Throughout bubbleStep SettlesAtOne (created floating) events ↔
      EveryStep bubbleStep PulsesFromOne (created floating) events := by
  apply throughout_iff_everyStep_of_inductive (I := ActionsEnd) (J := Settled)
  · intro b event b' hends hstep
    cases event with
    | setState state =>
        cases hstep
        exact hends.setState state
    | frame f =>
        cases hstep
        exact hends.frame f
  · intro b event b' hends hsettled hstep hpulses
    cases event with
    | setState state =>
        cases hstep
        exact hsettled.setState (hpulses state rfl)
    | frame f =>
        cases hstep
        exact hsettled.frame f
  · exact fun _ hsettled => hsettled.settlesAtOne
  · intro b event b' hends hsettled hstep hsettles state hevent hchange hpressed
    subst hevent
    cases hstep
    have hstate : (b.setState state).floating.state = state := by
      simp [setState_floating, SIFloatingNode.setState, Ne.symm hchange]
    exact (setState_changes (Ne.symm hchange)).pulses_from_one hends hstate hpressed hsettles
  · exact created_actionsEnd floating
  · exact created_settled floating

def tenth : Frame where
  elapsed := 1 / 10
  order := [.tapped, .normalize, .longPress, .removing]
  nonneg := by decide +kernel
  nodup := by decide
  complete := by
    intro key
    cases key <;> decide

def abba : SIFloatingNode BubbleContent where
  state := .normal
  previousState := .normal
  dynamic := true
  linearDamping := 3
  position := ⟨0, 0⟩
  frameSize := ⟨60, 60⟩
  fadesOut := true
  content := ⟨nsstring ['A', 'b', 'b', 'a'], none⟩

/-- The bubble is tapped, then its removal starts and is cancelled while it pulses. -/
def cancelledRemoval : List BubbleEvent :=
  [.setState .tapped] ++ List.replicate 7 (.frame tenth) ++
    [.setState .removing, .frame tenth, .setState .tapped] ++ List.replicate 7 (.frame tenth)

/-- Back in the state before its removal, the bubble has grown. -/
theorem cancelledRemoval_grows : ¬ ∀ (floating : SIFloatingNode BubbleContent)
    (events : List BubbleEvent), floating.state = .normal →
      Throughout bubbleStep RestsAtOne (created floating) events := by
  intro hclaim
  have hgrown : (run bubbleStep (created abba) cancelledRemoval).toOption.any (fun b =>
      b.floating.state = .tapped ∧ b.xScale = 163 / 150 ∧
        ∀ key ∈ endingWith .tapped, b.actions key = none) = true := by
    decide +kernel
  obtain ⟨b, hrun, hb⟩ := exists_ok_of_any hgrown
  obtain ⟨hstate, hscale, hended⟩ := of_decide_eq_true hb
  have hrest : b.AtRest := by
    constructor
    · rw [hstate]
      decide
    · intro key left hleft
      rw [hended key (by cases key <;> decide)] at hleft
      cases hleft
  have hone := (hclaim abba cancelledRemoval rfl).last hrun hrest
  rw [hscale] at hone
  norm_num at hone

end AnimatedBubble

end CrowdSound
