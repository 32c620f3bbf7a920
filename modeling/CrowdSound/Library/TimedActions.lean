import Mathlib.Algebra.Order.Floor.Ring
import Mathlib.Algebra.Order.Group.MinMax
import Mathlib.Algebra.Order.Field.Basic

/-!
# Timed actions

Actions that move a value over time, and what is left of them while they run. A move interpolates
linearly from the value at its start to its target; sequences pass on the time they leave over;
the parts of a group run side by side; a repetition never ends. The rules say which value an action
settles at when it has no move left, and that actions without repetitions end.
-/

namespace TimedActions

inductive Action (K : Type*) where
  | moveTo (target duration : K)
  | idle (duration : K)
  | sequence (first second : Action K)
  | group (first second : Action K)
  | repeatForever (content : Action K)

/-- What is left of an action; of a group one part may be all that is left. -/
inductive Progress (K : Type*) where
  | waiting (action : Action K)
  | moving (start target duration elapsed : K)
  | idling (duration elapsed : K)
  | sequence (first : Progress K) (second : Action K)
  | group (first second : Progress K)
  | repeating (current : Progress K) (content : Action K)

/-- The value after some time, what is left, and if nothing is left, the time left over. -/
structure Step (K : Type*) where
  value : K
  progress : Option (Progress K)
  leftover : K

variable {K : Type*}

def Action.moves : Action K → Bool
  | moveTo _ _ => true
  | idle _ => false
  | sequence first second => first.moves || second.moves
  | group first second => first.moves || second.moves
  | repeatForever content => content.moves

def Progress.moves : Progress K → Bool
  | waiting action => action.moves
  | moving _ _ _ _ => true
  | idling _ _ => false
  | sequence first second => first.moves || second.moves
  | group first second => first.moves || second.moves
  | repeating current content => current.moves || content.moves

def Step.moves (s : Step K) : Bool := s.progress.any Progress.moves

/-- Once it has moved and has no move left, the action has moved the value there. In a sequence
the last part that moves decides. -/
def Action.SettlesAt (c : K) : Action K → Prop
  | moveTo target _ => target = c
  | idle _ => True
  | sequence first second =>
    if second.moves = true then second.SettlesAt c else first.SettlesAt c
  | group first second => first.SettlesAt c ∧ second.SettlesAt c
  | repeatForever _ => True

def Progress.SettlesAt (c : K) : Progress K → Prop
  | waiting action => action.SettlesAt c
  | moving _ target _ _ => target = c
  | idling _ _ => True
  | sequence first second =>
    if second.moves = true then second.SettlesAt c else first.SettlesAt c
  | group first second => first.SettlesAt c ∧ second.SettlesAt c
  | repeating current content => current.moves = true → content.moves = true

/-- Nothing in the action is repeated for ever. -/
def Action.ends : Action K → Bool
  | moveTo _ _ => true
  | idle _ => true
  | sequence first second => first.ends && second.ends
  | group first second => first.ends && second.ends
  | repeatForever _ => false

def Progress.ends : Progress K → Bool
  | waiting action => action.ends
  | moving _ _ _ _ => true
  | idling _ _ => true
  | sequence first second => first.ends && second.ends
  | group first second => first.ends && second.ends
  | repeating _ _ => false

theorem Action.settlesAt_of_still {action : Action K} (c : K) (h : action.moves = false) :
    action.SettlesAt c := by
  induction action with
  | moveTo target duration => cases h
  | idle duration => trivial
  | sequence first second ihf ihs =>
      obtain ⟨hfirst, hsecond⟩ := Bool.or_eq_false_iff.mp h
      simp only [Action.SettlesAt, hsecond, Bool.false_eq_true, if_false]
      exact ihf hfirst
  | group first second ihf ihs =>
      obtain ⟨hfirst, hsecond⟩ := Bool.or_eq_false_iff.mp h
      exact ⟨ihf hfirst, ihs hsecond⟩
  | repeatForever content ih => trivial

theorem Progress.settlesAt_of_still {progress : Progress K} (c : K) (h : progress.moves = false) :
    progress.SettlesAt c := by
  induction progress with
  | waiting action => exact Action.settlesAt_of_still c h
  | moving start target duration elapsed => cases h
  | idling duration elapsed => trivial
  | sequence first second ih =>
      obtain ⟨hfirst, hsecond⟩ := Bool.or_eq_false_iff.mp h
      simp only [Progress.SettlesAt, hsecond, Bool.false_eq_true, if_false]
      exact ih hfirst
  | group first second ihf ihs =>
      obtain ⟨hfirst, hsecond⟩ := Bool.or_eq_false_iff.mp h
      exact ⟨ihf hfirst, ihs hsecond⟩
  | repeating current content ih =>
      intro hcurrent
      simp [Progress.moves, hcurrent] at h

/-- A step leaves the value alone and leaves no moves. -/
structure Still (value : K) (s : Step K) : Prop where
  value : s.value = value
  moves : s.moves = false

/-- A step of something that settles: it keeps settling there, and when no move is left after it
the value is there, if it moved at all. -/
structure Settling (c : K) (moves : Bool) (value : K) (s : Step K) : Prop where
  settles : ∀ left, s.progress = some left → left.SettlesAt c
  value : s.moves = true ∨ s.value = if moves = true then c else value
  still : moves = false → s.moves = false

theorem Still.settling {c value : K} {s : Step K} (h : Still value s) :
    Settling c false value s := by
  constructor
  · intro left hleft
    have hmoves := h.moves
    rw [Step.moves, hleft] at hmoves
    exact Progress.settlesAt_of_still c hmoves
  · exact Or.inr h.value
  · exact fun _ => h.moves

variable [Field K]

/-- The second action starts in the time that the first one leaves over. -/
def Step.andThen (s : Step K) (second : Action K) (start : K → K → Step K) : Step K :=
  match s.progress with
  | none => start s.value s.leftover
  | some first => ⟨s.value, some (.sequence first second), 0⟩

theorem Still.andThen {value : K} {s : Step K} {second : Action K} {start : K → K → Step K}
    (hs : Still value s) (hmoves : second.moves = false)
    (hstart : ∀ dt, Still value (start value dt)) : Still value (s.andThen second start) := by
  obtain ⟨hvalue, hleft⟩ := hs
  unfold Step.andThen
  unfold Step.moves at hleft
  cases hprogress : s.progress with
  | none =>
      rw [hvalue]
      exact hstart _
  | some first =>
      rw [hprogress] at hleft
      constructor
      · exact hvalue
      · simpa [Step.moves, Progress.moves, hmoves] using hleft

/-- A second part that moves decides where a sequence settles. -/
theorem Settling.andThen_moving {c value : K} (s : Step K) {second : Action K}
    {start : K → K → Step K} (hmoves : second.moves = true) (hsecond : second.SettlesAt c)
    (hstart : ∀ value dt, Settling c true value (start value dt)) :
    Settling c true value (s.andThen second start) := by
  unfold Step.andThen
  cases s.progress with
  | none =>
      have hnext := hstart s.value s.leftover
      exact ⟨hnext.settles, hnext.value, hnext.still⟩
  | some first =>
      constructor
      · intro left hleft
        cases hleft
        show if second.moves = true then second.SettlesAt c else first.SettlesAt c
        rw [if_pos hmoves]
        exact hsecond
      · exact Or.inl (by simp [Step.moves, Progress.moves, hmoves])
      · intro hfalse
        cases hfalse

theorem Settling.andThen_still {c value : K} {moves : Bool} {s : Step K} {second : Action K}
    {start : K → K → Step K} (hs : Settling c moves value s) (hmoves : second.moves = false)
    (hstart : ∀ value dt, Still value (start value dt)) :
    Settling c moves value (s.andThen second start) := by
  unfold Step.andThen
  cases hprogress : s.progress with
  | none =>
      have hnext := hstart s.value s.leftover
      have hended : s.moves = false := by simp [Step.moves, hprogress]
      refine ⟨hnext.settling.settles, Or.inr ?_, fun _ => hnext.moves⟩
      rw [hnext.value]
      exact hs.value.resolve_left (by simp [hended])
  | some first =>
      have hleft : s.moves = first.moves := by simp [Step.moves, hprogress]
      have hmoves' : Step.moves ⟨s.value, some (.sequence first second), 0⟩ = s.moves := by
        simp [Step.moves, Progress.moves, hmoves, hprogress]
      constructor
      · intro left hleft
        cases hleft
        show if second.moves = true then second.SettlesAt c else first.SettlesAt c
        rw [if_neg (by simp [hmoves])]
        exact hs.settles first hprogress
      · rw [hmoves']
        exact hs.value
      · rw [hmoves']
        exact hs.still

theorem Settling.andThen {c value : K} {moves : Bool} {s : Step K} {second : Action K}
    {start : K → K → Step K} (hs : second.moves = false → Settling c moves value s)
    (hsecond : second.moves = true → second.SettlesAt c)
    (hstart : second.SettlesAt c → ∀ value dt, Settling c second.moves value (start value dt))
    (hstill : second.moves = false → ∀ value dt, Still value (start value dt)) :
    Settling c (moves || second.moves) value (s.andThen second start) := by
  cases hmoves : second.moves with
  | true =>
      rw [Bool.or_true]
      rw [hmoves] at hstart
      exact andThen_moving s hmoves (hsecond hmoves) (hstart (hsecond hmoves))
  | false =>
      rw [Bool.or_false]
      exact (hs hmoves).andThen_still hmoves (hstill hmoves)

theorem Step.andThen_ends {s : Step K} {second : Action K} {start : K → K → Step K}
    (hs : ∀ left, s.progress = some left → left.ends = true) (hsecond : second.ends = true)
    (hstart : ∀ value dt left, (start value dt).progress = some left → left.ends = true)
    (left : Progress K) (h : (s.andThen second start).progress = some left) :
    left.ends = true := by
  unfold Step.andThen at h
  cases hprogress : s.progress with
  | none =>
      rw [hprogress] at h
      exact hstart _ _ left h
  | some first =>
      rw [hprogress] at h
      cases h
      exact (Bool.and_eq_true _ _).mpr ⟨hs first hprogress, hsecond⟩

variable [LinearOrder K]

def moveStep (start target duration elapsed : K) : Step K :=
  if duration ≤ elapsed then ⟨target, none, elapsed - duration⟩
  else ⟨start + (target - start) * (elapsed / duration),
    some (.moving start target duration elapsed), 0⟩

def idleStep (value duration elapsed : K) : Step K :=
  if duration ≤ elapsed then ⟨value, none, elapsed - duration⟩
  else ⟨value, some (.idling duration elapsed), 0⟩

theorem moveStep_settling (start target duration elapsed value : K) :
    Settling target true value (moveStep start target duration elapsed) := by
  unfold moveStep
  split
  · constructor
    · intro left hleft
      cases hleft
    · exact Or.inr rfl
    · intro hfalse
      cases hfalse
  · constructor
    · intro left hleft
      cases hleft
      rfl
    · exact Or.inl rfl
    · intro hfalse
      cases hfalse

theorem idleStep_still (value duration elapsed : K) :
    Still value (idleStep value duration elapsed) := by
  unfold idleStep
  split
  · exact ⟨rfl, rfl⟩
  · exact ⟨rfl, rfl⟩

/-- A group ends when both of its parts have ended. -/
def Step.beside (first second : Step K) : Step K :=
  match first.progress, second.progress with
  | none, none => ⟨second.value, none, min first.leftover second.leftover⟩
  | some left, none => ⟨second.value, some left, 0⟩
  | none, some left => ⟨second.value, some left, 0⟩
  | some left, some left' => ⟨second.value, some (.group left left'), 0⟩

@[simp] theorem Step.beside_value (first second : Step K) :
    (first.beside second).value = second.value := by
  unfold Step.beside
  split <;> rfl

@[simp] theorem Step.beside_moves (first second : Step K) :
    (first.beside second).moves = (first.moves || second.moves) := by
  unfold Step.beside Step.moves
  cases first.progress with
  | none =>
      cases second.progress with
      | none => rfl
      | some left' => rfl
  | some left =>
      cases second.progress with
      | none => simp
      | some left' => rfl

theorem Still.beside {value value' : K} {first second : Step K} (hfirst : Still value first)
    (hsecond : Still value' second) : Still value' (first.beside second) := by
  constructor
  · rw [Step.beside_value]
    exact hsecond.value
  · rw [Step.beside_moves, hfirst.moves, hsecond.moves]
    rfl

theorem Settling.beside {c value : K} {moves moves' : Bool} {first second : Step K}
    (hfirst : Settling c moves value first) (hsecond : Settling c moves' first.value second) :
    Settling c (moves || moves') value (first.beside second) := by
  constructor
  · intro left hleft
    unfold Step.beside at hleft
    cases hf : first.progress with
    | none =>
        cases hs : second.progress with
        | none =>
            rw [hf, hs] at hleft
            cases hleft
        | some right =>
            rw [hf, hs] at hleft
            cases hleft
            exact hsecond.settles left hs
    | some part =>
        cases hs : second.progress with
        | none =>
            rw [hf, hs] at hleft
            cases hleft
            exact hfirst.settles left hf
        | some right =>
            rw [hf, hs] at hleft
            cases hleft
            exact ⟨hfirst.settles part hf, hsecond.settles right hs⟩
  · rw [Step.beside_moves, Step.beside_value]
    by_cases hleft : first.moves = true ∨ second.moves = true
    · exact Or.inl (by simpa using hleft)
    · obtain ⟨hleft₁, hleft₂⟩ := not_or.mp hleft
      have hvalue := hfirst.value.resolve_left hleft₁
      have hvalue' := hsecond.value.resolve_left hleft₂
      refine Or.inr ?_
      rw [hvalue', hvalue]
      cases moves <;> cases moves' <;> rfl
  · intro hnone
    obtain ⟨hnone₁, hnone₂⟩ := Bool.or_eq_false_iff.mp hnone
    rw [Step.beside_moves, hfirst.still hnone₁, hsecond.still hnone₂]
    rfl

theorem Step.beside_ends {first second : Step K}
    (hfirst : ∀ left, first.progress = some left → left.ends = true)
    (hsecond : ∀ left, second.progress = some left → left.ends = true)
    (left : Progress K) (h : (first.beside second).progress = some left) : left.ends = true := by
  unfold Step.beside at h
  cases hf : first.progress with
  | none =>
      cases hs : second.progress with
      | none =>
          rw [hf, hs] at h
          cases h
      | some right =>
          rw [hf, hs] at h
          cases h
          exact hsecond left hs
  | some part =>
      cases hs : second.progress with
      | none =>
          rw [hf, hs] at h
          cases h
          exact hfirst left hf
      | some right =>
          rw [hf, hs] at h
          cases h
          exact (Bool.and_eq_true _ _).mpr ⟨hfirst part hf, hsecond right hs⟩

/-- Given enough time it ends, and leaves over what it does not need. -/
def EndsInTime (step : K → K → Step K) : Prop :=
  ∃ enough needed : K, ∀ value dt, enough ≤ dt →
    (step value dt).progress = none ∧ (step value dt).leftover = dt - needed

section

variable [IsStrictOrderedRing K]

theorem EndsInTime.andThen {step start : K → K → Step K} (hstep : EndsInTime step)
    (second : Action K) (hstart : EndsInTime start) :
    EndsInTime fun value dt => (step value dt).andThen second start := by
  obtain ⟨enough, needed, hfirst⟩ := hstep
  obtain ⟨enough', needed', hsecond⟩ := hstart
  refine ⟨max enough (enough' + needed), needed + needed', ?_⟩
  intro value dt hdt
  obtain ⟨hended, hleft⟩ := hfirst value dt ((le_max_left _ _).trans hdt)
  have hrest : enough' ≤ (step value dt).leftover := by
    rw [hleft]
    exact le_sub_iff_add_le.mpr ((le_max_right _ _).trans hdt)
  obtain ⟨hended', hleft'⟩ := hsecond (step value dt).value _ hrest
  simp only [Step.andThen, hended]
  refine ⟨hended', ?_⟩
  rw [hleft', hleft, sub_sub]

theorem EndsInTime.beside {step step' : K → K → Step K} (hstep : EndsInTime step)
    (hstep' : EndsInTime step') :
    EndsInTime fun value dt => (step value dt).beside (step' (step value dt).value dt) := by
  obtain ⟨enough, needed, hfirst⟩ := hstep
  obtain ⟨enough', needed', hsecond⟩ := hstep'
  refine ⟨max enough enough', max needed needed', ?_⟩
  intro value dt hdt
  obtain ⟨hended, hleft⟩ := hfirst value dt ((le_max_left _ _).trans hdt)
  obtain ⟨hended', hleft'⟩ := hsecond (step value dt).value dt ((le_max_right _ _).trans hdt)
  simp only [Step.beside, hended, hended']
  refine ⟨trivial, ?_⟩
  rw [hleft, hleft', min_sub_sub_left]

end

variable [FloorRing K]

def Action.duration : Action K → K
  | moveTo _ duration => duration
  | idle duration => duration
  | sequence first second => first.duration + second.duration
  | group first second => max first.duration second.duration
  | repeatForever _ => 0

/-- An action that has ended starts again; whole rounds that fit in the time left over end where
they start. -/
def Step.again (s : Step K) (content : Action K) (start : K → K → Step K) : Step K :=
  match s.progress with
  | some current => ⟨s.value, some (.repeating current content), 0⟩
  | none =>
    let rounds := ⌊s.leftover / content.duration⌋
    let next := start s.value (s.leftover - rounds * content.duration)
    ⟨next.value, some (.repeating (next.progress.getD (.waiting content)) content), 0⟩

theorem Still.again {value : K} {s : Step K} {content : Action K} {start : K → K → Step K}
    (hs : Still value s) (hmoves : content.moves = false)
    (hstart : ∀ dt, Still value (start value dt)) : Still value (s.again content start) := by
  obtain ⟨hvalue, hleft⟩ := hs
  unfold Step.moves at hleft
  unfold Step.again
  cases hprogress : s.progress with
  | none =>
      have hnext := hstart (s.leftover - ⌊s.leftover / content.duration⌋ * content.duration)
      have hleft' := hnext.moves
      unfold Step.moves at hleft'
      rw [hvalue]
      refine ⟨hnext.value, ?_⟩
      simp only [Step.moves, Option.any_some, Progress.moves, hmoves, Bool.or_false]
      cases hp : (start value (s.leftover - ⌊s.leftover / content.duration⌋ *
          content.duration)).progress with
      | none => exact hmoves
      | some next =>
          rw [hp] at hleft'
          exact hleft'
  | some current =>
      rw [hprogress] at hleft
      refine ⟨hvalue, ?_⟩
      simpa [Step.moves, Progress.moves, hmoves] using hleft

/-- What is repeated for ever never settles. -/
theorem Step.again_settling (c value : K) (s : Step K) {content : Action K}
    (start : K → K → Step K) (hmoves : content.moves = true) :
    Settling c true value (s.again content start) := by
  unfold Step.again
  cases s.progress with
  | none =>
      constructor
      · intro left hleft
        cases hleft
        exact fun _ => hmoves
      · exact Or.inl (by simp [Step.moves, Progress.moves, hmoves])
      · intro hfalse
        cases hfalse
  | some current =>
      constructor
      · intro left hleft
        cases hleft
        exact fun _ => hmoves
      · exact Or.inl (by simp [Step.moves, Progress.moves, hmoves])
      · intro hfalse
        cases hfalse

def Action.start : Action K → K → K → Step K
  | moveTo target duration, value, dt => moveStep value target duration dt
  | idle duration, value, dt => idleStep value duration dt
  | sequence first second, value, dt =>
    (first.start value dt).andThen second fun value dt => second.start value dt
  | group first second, value, dt =>
    let s := first.start value dt
    s.beside (second.start s.value dt)
  | repeatForever content, value, dt =>
    (content.start value dt).again content fun value dt => content.start value dt

def Progress.advance : Progress K → K → K → Step K
  | waiting action, value, dt => action.start value dt
  | moving start target duration elapsed, _, dt => moveStep start target duration (elapsed + dt)
  | idling duration elapsed, value, dt => idleStep value duration (elapsed + dt)
  | sequence first second, value, dt => (first.advance value dt).andThen second second.start
  | group first second, value, dt =>
    let s := first.advance value dt
    s.beside (second.advance s.value dt)
  | repeating current content, value, dt =>
    (current.advance value dt).again content content.start

/-- What does not move leaves the value alone. -/
theorem Action.start_still {action : Action K} (h : action.moves = false) (value dt : K) :
    Still value (action.start value dt) := by
  induction action generalizing value dt with
  | moveTo target duration => cases h
  | idle duration => exact idleStep_still value duration dt
  | sequence first second ihf ihs =>
      obtain ⟨hfirst, hsecond⟩ := Bool.or_eq_false_iff.mp h
      exact (ihf hfirst value dt).andThen hsecond fun dt => ihs hsecond value dt
  | group first second ihf ihs =>
      obtain ⟨hfirst, hsecond⟩ := Bool.or_eq_false_iff.mp h
      have hf := ihf hfirst value dt
      have hs := ihs hsecond (first.start value dt).value dt
      have hvalue := hf.value
      constructor
      · exact (hf.beside hs).value.trans hvalue
      · exact (hf.beside hs).moves
  | repeatForever content ih =>
      exact (ih h value dt).again h fun dt => ih h value dt

theorem Progress.advance_still {progress : Progress K} (h : progress.moves = false)
    (value dt : K) : Still value (progress.advance value dt) := by
  induction progress generalizing value dt with
  | waiting action => exact Action.start_still h value dt
  | moving start target duration elapsed => cases h
  | idling duration elapsed => exact idleStep_still value duration (elapsed + dt)
  | sequence first second ih =>
      obtain ⟨hfirst, hsecond⟩ := Bool.or_eq_false_iff.mp h
      exact (ih hfirst value dt).andThen hsecond fun dt => Action.start_still hsecond value dt
  | group first second ihf ihs =>
      obtain ⟨hfirst, hsecond⟩ := Bool.or_eq_false_iff.mp h
      have hf := ihf hfirst value dt
      have hs := ihs hsecond (first.advance value dt).value dt
      have hvalue := hf.value
      constructor
      · exact (hf.beside hs).value.trans hvalue
      · exact (hf.beside hs).moves
  | repeating current content ih =>
      obtain ⟨hcurrent, hcontent⟩ := Bool.or_eq_false_iff.mp h
      exact (ih hcurrent value dt).again hcontent fun dt => Action.start_still hcontent value dt

theorem Action.start_settling {action : Action K} {c : K} (h : action.SettlesAt c)
    (value dt : K) : Settling c action.moves value (action.start value dt) := by
  induction action generalizing value dt with
  | moveTo target duration =>
      cases h
      exact moveStep_settling value c duration dt value
  | idle duration => exact (idleStep_still value duration dt).settling
  | sequence first second ihf ihs =>
      apply Settling.andThen
      · intro hmoves
        have hfirst : first.SettlesAt c := by
          simpa [Action.SettlesAt, hmoves] using h
        exact ihf hfirst value dt
      · intro hmoves
        simpa [Action.SettlesAt, hmoves] using h
      · exact fun hsecond => ihs hsecond
      · exact fun hmoves => Action.start_still hmoves
  | group first second ihf ihs =>
      exact (ihf h.1 value dt).beside (ihs h.2 (first.start value dt).value dt)
  | repeatForever content ih =>
      cases hmoves : content.moves with
      | true =>
          simp only [Action.moves, hmoves]
          exact Step.again_settling c value _ _ hmoves
      | false =>
          have hmoves' : (Action.repeatForever content).moves = false := hmoves
          have hstill := Action.start_still hmoves' value dt
          simp only [Action.moves, hmoves]
          exact hstill.settling

theorem Progress.advance_settling {progress : Progress K} {c : K} (h : progress.SettlesAt c)
    (value dt : K) : Settling c progress.moves value (progress.advance value dt) := by
  induction progress generalizing value dt with
  | waiting action => exact Action.start_settling h value dt
  | moving start target duration elapsed =>
      cases h
      exact moveStep_settling start c duration (elapsed + dt) value
  | idling duration elapsed => exact (idleStep_still value duration (elapsed + dt)).settling
  | sequence first second ih =>
      apply Settling.andThen
      · intro hmoves
        have hfirst : first.SettlesAt c := by
          simpa [Progress.SettlesAt, hmoves] using h
        exact ih hfirst value dt
      · intro hmoves
        simpa [Progress.SettlesAt, hmoves] using h
      · exact fun hsecond => Action.start_settling hsecond
      · exact fun hmoves => Action.start_still hmoves
  | group first second ihf ihs =>
      exact (ihf h.1 value dt).beside (ihs h.2 (first.advance value dt).value dt)
  | repeating current content ih =>
      cases hmoves : content.moves with
      | true =>
          simp only [Progress.moves, hmoves, Bool.or_true]
          exact Step.again_settling c value _ _ hmoves
      | false =>
          have hcurrent : current.moves = false := by
            by_contra hmoving
            rw [h (eq_true_of_ne_false hmoving)] at hmoves
            cases hmoves
          have hmoves' : (Progress.repeating current content).moves = false := by
            simp [Progress.moves, hmoves, hcurrent]
          have hstill := Progress.advance_still hmoves' value dt
          simp only [Progress.moves, hmoves, hcurrent]
          exact hstill.settling

theorem Action.start_left {action : Action K} (h : action.ends = true) (value dt : K)
    (left : Progress K) (hleft : (action.start value dt).progress = some left) :
    left.ends = true := by
  induction action generalizing value dt left with
  | moveTo target duration =>
      simp only [Action.start, moveStep] at hleft
      split at hleft
      · cases hleft
      · cases hleft
        rfl
  | idle duration =>
      simp only [Action.start, idleStep] at hleft
      split at hleft
      · cases hleft
      · cases hleft
        rfl
  | sequence first second ihf ihs =>
      obtain ⟨hfirst, hsecond⟩ := (Bool.and_eq_true _ _).mp h
      exact Step.andThen_ends (ihf hfirst value dt) hsecond (ihs hsecond) left hleft
  | group first second ihf ihs =>
      obtain ⟨hfirst, hsecond⟩ := (Bool.and_eq_true _ _).mp h
      exact Step.beside_ends (ihf hfirst value dt) (ihs hsecond _ dt) left hleft
  | repeatForever content ih => cases h

theorem Progress.advance_left {progress : Progress K} (h : progress.ends = true) (value dt : K)
    (left : Progress K) (hleft : (progress.advance value dt).progress = some left) :
    left.ends = true := by
  induction progress generalizing value dt left with
  | waiting action => exact Action.start_left h value dt left hleft
  | moving start target duration elapsed =>
      simp only [Progress.advance, moveStep] at hleft
      split at hleft
      · cases hleft
      · cases hleft
        rfl
  | idling duration elapsed =>
      simp only [Progress.advance, idleStep] at hleft
      split at hleft
      · cases hleft
      · cases hleft
        rfl
  | sequence first second ih =>
      obtain ⟨hfirst, hsecond⟩ := (Bool.and_eq_true _ _).mp h
      exact Step.andThen_ends (ih hfirst value dt) hsecond (Action.start_left hsecond) left hleft
  | group first second ihf ihs =>
      obtain ⟨hfirst, hsecond⟩ := (Bool.and_eq_true _ _).mp h
      exact Step.beside_ends (ihf hfirst value dt) (ihs hsecond _ dt) left hleft
  | repeating current content ih => cases h

variable [IsStrictOrderedRing K]

theorem Action.start_ends {action : Action K} (h : action.ends = true) :
    EndsInTime action.start := by
  induction action with
  | moveTo target duration =>
      refine ⟨duration, duration, ?_⟩
      intro value dt hdt
      simp [Action.start, moveStep, hdt]
  | idle duration =>
      refine ⟨duration, duration, ?_⟩
      intro value dt hdt
      simp [Action.start, idleStep, hdt]
  | sequence first second ihf ihs =>
      obtain ⟨hfirst, hsecond⟩ := (Bool.and_eq_true _ _).mp h
      exact (ihf hfirst).andThen second (ihs hsecond)
  | group first second ihf ihs =>
      obtain ⟨hfirst, hsecond⟩ := (Bool.and_eq_true _ _).mp h
      exact (ihf hfirst).beside (ihs hsecond)
  | repeatForever content ih => cases h

/-- What is left of an action in which nothing is repeated for ever ends. -/
theorem Progress.advance_ends {progress : Progress K} (h : progress.ends = true) :
    EndsInTime progress.advance := by
  induction progress with
  | waiting action => exact Action.start_ends h
  | moving start target duration elapsed =>
      refine ⟨duration - elapsed, duration - elapsed, ?_⟩
      intro value dt hdt
      have hlate : duration ≤ elapsed + dt := sub_le_iff_le_add'.mp hdt
      simp only [Progress.advance, moveStep, hlate, if_true]
      exact ⟨trivial, (sub_sub_eq_add_sub dt duration elapsed).symm ▸ by rw [add_comm]⟩
  | idling duration elapsed =>
      refine ⟨duration - elapsed, duration - elapsed, ?_⟩
      intro value dt hdt
      have hlate : duration ≤ elapsed + dt := sub_le_iff_le_add'.mp hdt
      simp only [Progress.advance, idleStep, hlate, if_true]
      exact ⟨trivial, (sub_sub_eq_add_sub dt duration elapsed).symm ▸ by rw [add_comm]⟩
  | sequence first second ih =>
      obtain ⟨hfirst, hsecond⟩ := (Bool.and_eq_true _ _).mp h
      exact (ih hfirst).andThen second (Action.start_ends hsecond)
  | group first second ihf ihs =>
      obtain ⟨hfirst, hsecond⟩ := (Bool.and_eq_true _ _).mp h
      exact (ihf hfirst).beside (ihs hsecond)
  | repeating current content ih => cases h

end TimedActions
