import Mathlib.Data.List.Basic

/-!
# Runs of fallible event handlers

A handler takes a state and an event to the next state or fails. A run feeds it a list of
events and stops at the first failure. The rules carry a fact about one step to whole runs:
invariants, the failures a run can end in, and observations that each step folds its own output
into.
-/

namespace EventRun

variable {σ ε χ ω β : Type*} {step : σ → ε → Except χ σ}

/-- Feed the events in order, stopping at the first failure. -/
def run (step : σ → ε → Except χ σ) (s : σ) : List ε → Except χ σ
  | [] => .ok s
  | e :: es => match step s e with
    | .ok s' => run step s' es
    | .error x => .error x

@[simp] theorem run_nil (s : σ) : run step s [] = .ok s := rfl

@[simp] theorem run_singleton (s : σ) (e : ε) : run step s [e] = step s e := by
  cases h : step s e <;> simp [run, h]

theorem run_cons_ok (s t : σ) (e : ε) (es : List ε) :
    run step s (e :: es) = .ok t ↔ ∃ s', step s e = .ok s' ∧ run step s' es = .ok t := by
  cases h : step s e <;> simp [run, h]

theorem run_append_ok (s t : σ) (es fs : List ε) :
    run step s (es ++ fs) = .ok t ↔ ∃ m, run step s es = .ok m ∧ run step m fs = .ok t := by
  induction es generalizing s with
  | nil => simp
  | cons e es ih =>
      simp only [List.cons_append, run_cons_ok, ih]
      constructor
      · rintro ⟨s', he, m, hm, ht⟩
        exact ⟨m, ⟨s', he, hm⟩, ht⟩
      · rintro ⟨m, ⟨s', he, hm⟩, ht⟩
        exact ⟨s', he, m, hm, ht⟩

theorem run_append {s m : σ} {es : List ε} (fs : List ε) (h : run step s es = .ok m) :
    run step s (es ++ fs) = run step m fs := by
  induction es generalizing s with
  | nil =>
      cases h
      rfl
  | cons e es ih =>
      obtain ⟨s', he, hs'⟩ := (run_cons_ok s m e es).mp h
      rw [List.cons_append, run, he]
      exact ih hs'

theorem run_snoc_ok (s t : σ) (es : List ε) (e : ε) :
    run step s (es ++ [e]) = .ok t ↔ ∃ m, run step s es = .ok m ∧ step m e = .ok t := by
  simp [run_append_ok]

theorem exists_ok_of_any {r : Except χ σ} {p : σ → Bool} (h : r.toOption.any p = true) :
    ∃ s, r = .ok s ∧ p s = true := by
  cases r with
  | error x => exact nomatch h
  | ok s => exact ⟨s, rfl, h⟩

theorem run_map {ε' : Type*} (f : ε' → ε) (s : σ) (es : List ε') :
    run step s (es.map f) = run (fun s e => step s (f e)) s es := by
  induction es generalizing s with
  | nil => rfl
  | cons e es ih => simp [run, ih]

/-- What every step of `events` admitted by `P` preserves, the whole run preserves. -/
theorem run_invariant {I : σ → Prop} {P : ε → Prop}
    (hstep : ∀ s e s', I s → P e → step s e = .ok s' → I s') {s t : σ} {es : List ε}
    (hs : I s) (hes : ∀ e ∈ es, P e) (h : run step s es = .ok t) : I t := by
  induction es generalizing s with
  | nil =>
      cases h
      exact hs
  | cons e es ih =>
      obtain ⟨s', he, hs'⟩ := (run_cons_ok s t e es).mp h
      have hI := hstep s e s' hs (hes e (by simp)) he
      exact ih hI (fun e' he' => hes e' (by simp [he'])) hs'

/-- The outputs of the steps of a run, in order. -/
def trace (step : σ → ε → Except χ σ) (out : σ → ε → List ω) (s : σ) : List ε → List ω
  | [] => []
  | e :: es => out s e ++ match step s e with
    | .ok s' => trace step out s' es
    | .error _ => []

@[simp] theorem trace_nil (out : σ → ε → List ω) (s : σ) : trace step out s [] = [] := rfl

theorem trace_cons (out : σ → ε → List ω) {s s' : σ} {e : ε} (es : List ε)
    (h : step s e = .ok s') :
    trace step out s (e :: es) = out s e ++ trace step out s' es := by
  simp [trace, h]

theorem trace_of_event (out : ε → List ω) {s t : σ} {es : List ε} (h : run step s es = .ok t) :
    trace step (fun _ e => out e) s es = es.flatMap out := by
  induction es generalizing s with
  | nil => rfl
  | cons e es ih =>
      obtain ⟨s', he, hs'⟩ := (run_cons_ok s t e es).mp h
      rw [trace_cons _ _ he, ih hs', List.flatMap_cons]

theorem forall_trace {out : σ → ε → List ω} {P : ω → Prop} {es : List ε}
    (h : ∀ s, ∀ e ∈ es, ∀ x ∈ out s e, P x) (s : σ) : ∀ x ∈ trace step out s es, P x := by
  induction es generalizing s with
  | nil => exact fun _ hx => absurd hx List.not_mem_nil
  | cons e es ih =>
      intro x hx
      rw [trace, List.mem_append] at hx
      rcases hx with hx | hx
      · exact h s e (by simp) x hx
      · cases he : step s e with
        | error f => simp [he] at hx
        | ok s' =>
            rw [he] at hx
            exact ih (fun s e' he' => h s e' (by simp [he'])) s' x hx

theorem trace_flatMap (out : σ → ε → List ω) (f : ω → List β) (s : σ) (es : List ε) :
    (trace step out s es).flatMap f = trace step (fun s e => (out s e).flatMap f) s es := by
  induction es generalizing s with
  | nil => rfl
  | cons e es ih =>
      cases he : step s e with
      | error x => simp [trace, he]
      | ok s' => rw [trace_cons _ _ he, trace_cons _ _ he, List.flatMap_append, ih]

theorem run_error {I : σ → Prop} {Q : χ → Prop}
    (hI : ∀ s e s', I s → step s e = .ok s' → I s')
    (hQ : ∀ s e x, I s → step s e = .error x → Q x) {s : σ} {es : List ε} {x : χ} (hs : I s)
    (h : run step s es = .error x) : Q x := by
  induction es generalizing s with
  | nil => exact nomatch h
  | cons e es ih =>
      cases he : step s e with
      | ok s' =>
          rw [run, he] at h
          exact ih (hI s e s' hs he) h
      | error y =>
          rw [run, he] at h
          have hyx := Except.error.inj h
          subst hyx
          exact hQ s e y hs he

/-- An invariant of the state and the trace so far. -/
theorem run_trace_invariant {out : σ → ε → List ω} {I : List ω → σ → Prop}
    (hstep : ∀ past s e s', I past s → step s e = .ok s' → I (past ++ out s e) s')
    {past : List ω} {s t : σ} {es : List ε} (hs : I past s) (h : run step s es = .ok t) :
    I (past ++ trace step out s es) t := by
  induction es generalizing past s with
  | nil =>
      cases h
      simpa using hs
  | cons e es ih =>
      obtain ⟨s', he, hs'⟩ := (run_cons_ok s t e es).mp h
      rw [trace_cons out _ he, ← List.append_assoc]
      exact ih (hstep past s e s' hs he) hs'

theorem run_trace_invariant_of {out : σ → ε → List ω} {I : List ω → σ → Prop} {P : ε → Prop}
    (hstep : ∀ past s e s', I past s → P e → step s e = .ok s' → I (past ++ out s e) s')
    {past : List ω} {s t : σ} {es : List ε} (hs : I past s) (hes : ∀ e ∈ es, P e)
    (h : run step s es = .ok t) : I (past ++ trace step out s es) t := by
  induction es generalizing past s with
  | nil =>
      cases h
      simpa using hs
  | cons e es ih =>
      obtain ⟨s', he, hs'⟩ := (run_cons_ok s t e es).mp h
      rw [trace_cons out _ he, ← List.append_assoc]
      exact ih (hstep past s e s' hs (hes e (by simp)) he) (fun e' he' => hes e' (by simp [he'])) hs'

/-- If each step folds its own output into an observation, a run folds in its trace. -/
theorem run_fold {out : σ → ε → List ω} {obs : σ → β} {apply : β → ω → β}
    (hstep : ∀ s e s', step s e = .ok s' → obs s' = (out s e).foldl apply (obs s))
    {s t : σ} {es : List ε} (h : run step s es = .ok t) :
    obs t = (trace step out s es).foldl apply (obs s) := by
  induction es generalizing s with
  | nil =>
      cases h
      rfl
  | cons e es ih =>
      obtain ⟨s', he, hs'⟩ := (run_cons_ok s t e es).mp h
      rw [trace_cons out _ he, List.foldl_append, ← hstep s e s' he]
      exact ih hs'

/-- A fact about every single step a run takes. -/
def EveryStep (step : σ → ε → Except χ σ) (P : σ → ε → σ → Prop) (s : σ) : List ε → Prop
  | [] => True
  | e :: es => ∀ s', step s e = .ok s' → P s e s' ∧ EveryStep step P s' es

theorem everyStep_of_invariant {I : σ → Prop} {P : σ → ε → σ → Prop}
    (hstep : ∀ s e s', I s → step s e = .ok s' → I s' ∧ P s e s') {s : σ} (hs : I s)
    (es : List ε) : EveryStep step P s es := by
  induction es generalizing s with
  | nil => trivial
  | cons e es ih =>
      intro s' he
      obtain ⟨hI, hP⟩ := hstep s e s' hs he
      exact ⟨hP, ih hI⟩

theorem everyStep_congr {I : σ → Prop} {P Q : σ → ε → σ → Prop}
    (hI : ∀ s e s', I s → step s e = .ok s' → I s')
    (hPQ : ∀ s e s', I s → step s e = .ok s' → (P s e s' ↔ Q s e s')) {s : σ} (hs : I s)
    (es : List ε) : EveryStep step P s es ↔ EveryStep step Q s es := by
  induction es generalizing s with
  | nil => exact Iff.rfl
  | cons e es ih =>
      apply forall_congr'
      intro s'
      apply imp_congr_right
      intro he
      rw [hPQ s e s' hs he, ih (hI s e s' hs he)]

/-- A fact about every event a run meets and the state it meets it in, also where the event
fails. -/
def EachEvent (step : σ → ε → Except χ σ) (P : σ → ε → Prop) (s : σ) : List ε → Prop
  | [] => True
  | e :: es => P s e ∧ ∀ s', step s e = .ok s' → EachEvent step P s' es

theorem eachEvent_congr {I : σ → Prop} {P Q : σ → ε → Prop}
    (hI : ∀ s e s', I s → step s e = .ok s' → I s') (hPQ : ∀ s e, I s → (P s e ↔ Q s e)) {s : σ}
    (hs : I s) (es : List ε) : EachEvent step P s es ↔ EachEvent step Q s es := by
  induction es generalizing s with
  | nil => exact Iff.rfl
  | cons e es ih =>
      apply and_congr (hPQ s e hs)
      apply forall_congr'
      intro s'
      apply imp_congr_right
      intro he
      exact ih (hI s e s' hs he)

theorem EachEvent.last {P : σ → ε → Prop} {s t : σ} {es : List ε} {e : ε}
    (hP : EachEvent step P s (es ++ [e])) (h : run step s es = .ok t) : P t e := by
  induction es generalizing s with
  | nil =>
      cases h
      exact hP.1
  | cons e' es ih =>
      obtain ⟨s', he, hs'⟩ := (run_cons_ok s t e' es).mp h
      exact ih (hP.2 s' he) hs'

/-- An invariant of the events so far and the state. -/
theorem run_history {I : List ε → σ → Prop}
    (hstep : ∀ past s e s', I past s → step s e = .ok s' → I (past ++ [e]) s')
    {s t : σ} {es : List ε} (hs : I [] s) (h : run step s es = .ok t) : I es t := by
  have htrace : I ([] ++ trace step (fun _ e => [e]) s es) t := run_trace_invariant hstep hs h
  rw [trace_of_event (fun e => [e]) h] at htrace
  simpa using htrace

/-- A fact about every state a run reaches, the first one included. -/
def Throughout (step : σ → ε → Except χ σ) (P : σ → Prop) (s : σ) : List ε → Prop
  | [] => P s
  | e :: es => P s ∧ ∀ s', step s e = .ok s' → Throughout step P s' es

theorem throughout_of_invariant {I P : σ → Prop}
    (hstep : ∀ s e s', I s → step s e = .ok s' → I s') (hP : ∀ s, I s → P s) {s : σ} (hs : I s)
    (es : List ε) : Throughout step P s es := by
  induction es generalizing s with
  | nil => exact hP s hs
  | cons e es ih =>
      refine ⟨hP s hs, ?_⟩
      intro s' he
      exact ih (hstep s e s' hs he)

theorem Throughout.last {P : σ → Prop} {s t : σ} {es : List ε} (hP : Throughout step P s es)
    (h : run step s es = .ok t) : P t := by
  induction es generalizing s with
  | nil =>
      cases h
      exact hP
  | cons e es ih =>
      obtain ⟨s', he, hs'⟩ := (run_cons_ok s t e es).mp h
      exact ih (hP.2 s' he) hs'

theorem EveryStep.last {P : σ → ε → σ → Prop} {s t t' : σ} {es : List ε} {e : ε}
    (hP : EveryStep step P s (es ++ [e])) (h : run step s es = .ok t)
    (hlast : step t e = .ok t') : P t e t' := by
  induction es generalizing s with
  | nil =>
      cases h
      exact (hP t' hlast).1
  | cons e' es ih =>
      obtain ⟨s', he, hs'⟩ := (run_cons_ok s t e' es).mp h
      exact ih (hP s' he).2 hs'

theorem Throughout.first {P : σ → Prop} {s : σ} {es : List ε} (h : Throughout step P s es) :
    P s := by
  cases es with
  | nil => exact h
  | cons e es => exact h.1

/-- A state fact `P` holds throughout a run exactly when a step fact `Q` holds of every step, if
`Q` keeps an invariant from which `P` follows, and `P` after a step shows that `Q` held of it. -/
theorem throughout_iff_everyStep_of_inductive {I J P : σ → Prop} {Q : σ → ε → σ → Prop}
    (hI : ∀ s e s', I s → step s e = .ok s' → I s')
    (hJ : ∀ s e s', I s → J s → step s e = .ok s' → Q s e s' → J s') (hP : ∀ s, J s → P s)
    (hQ : ∀ s e s', I s → J s → step s e = .ok s' → P s' → Q s e s') {s : σ} (hs : I s)
    (hs' : J s) (es : List ε) : Throughout step P s es ↔ EveryStep step Q s es := by
  induction es generalizing s with
  | nil => exact iff_of_true (hP s hs') trivial
  | cons e es ih =>
      rw [Throughout, EveryStep, and_iff_right (hP s hs')]
      apply forall_congr'
      intro s'
      apply imp_congr_right
      intro he
      have hnext := hI s e s' hs he
      constructor
      · intro h
        have hstep := hQ s e s' hs hs' he h.first
        exact ⟨hstep, (ih hnext (hJ s e s' hs hs' he hstep)).mp h⟩
      · intro h
        exact (ih hnext (hJ s e s' hs hs' he h.1)).mpr h.2

theorem throughout_iff_everyStep {I P : σ → Prop} {Q : σ → ε → σ → Prop}
    (hI : ∀ s e s', I s → step s e = .ok s' → I s')
    (hPQ : ∀ s e s', I s → P s → step s e = .ok s' → (P s' ↔ Q s e s')) {s : σ} (hs : I s)
    (hP : P s) (es : List ε) : Throughout step P s es ↔ EveryStep step Q s es :=
  throughout_iff_everyStep_of_inductive hI
    (fun s e s' hs hP he => (hPQ s e s' hs hP he).mpr) (fun _ hP => hP)
    (fun s e s' hs hP he => (hPQ s e s' hs hP he).mp) hs hP es

/-- Steps of one system that the events of another one stand for make up its runs. -/
theorem run_simulate {σ' ε' : Type*} {step' : σ' → ε' → Except χ σ'} (view : σ → σ')
    (events : ε → List ε')
    (hstep : ∀ s e s', step s e = .ok s' → run step' (view s) (events e) = .ok (view s'))
    {s t : σ} {es : List ε} (h : run step s es = .ok t) :
    run step' (view s) (es.flatMap events) = .ok (view t) := by
  induction es generalizing s with
  | nil =>
      cases h
      rfl
  | cons e es ih =>
      obtain ⟨s', he, hs'⟩ := (run_cons_ok s t e es).mp h
      rw [List.flatMap_cons, run_append _ (hstep s e s' he)]
      exact ih hs'

/-- The same where the events that a step stands for depend on its state. -/
theorem run_simulate_trace {σ' ε' χ' : Type*} {step' : σ' → ε' → Except χ' σ'} (view : σ → σ')
    (events : σ → ε → List ε')
    (hstep : ∀ s e s', step s e = .ok s' → run step' (view s) (events s e) = .ok (view s'))
    {s t : σ} {es : List ε} (h : run step s es = .ok t) :
    run step' (view s) (trace step events s es) = .ok (view t) := by
  induction es generalizing s with
  | nil =>
      cases h
      rfl
  | cons e es ih =>
      obtain ⟨s', he, hs'⟩ := (run_cons_ok s t e es).mp h
      rw [trace_cons _ _ he, run_append _ (hstep s e s' he)]
      exact ih hs'

theorem trace_append (out : σ → ε → List ω) {s m : σ} {es : List ε} (fs : List ε)
    (h : run step s es = .ok m) :
    trace step out s (es ++ fs) = trace step out s es ++ trace step out m fs := by
  induction es generalizing s with
  | nil =>
      cases h
      rfl
  | cons e es ih =>
      obtain ⟨s', he, hs'⟩ := (run_cons_ok s m e es).mp h
      rw [List.cons_append, trace_cons _ _ he, trace_cons _ _ he, ih hs', List.append_assoc]

theorem trace_simulate {σ' ε' χ' : Type*} {step' : σ' → ε' → Except χ' σ'} (view : σ → σ')
    (events : σ → ε → List ε') (out : σ → ε → List ω) (out' : σ' → ε' → List ω)
    (hstep : ∀ s e s', step s e = .ok s' → run step' (view s) (events s e) = .ok (view s') ∧
      trace step' out' (view s) (events s e) = out s e)
    {s t : σ} {es : List ε} (h : run step s es = .ok t) :
    trace step' out' (view s) (trace step events s es) = trace step out s es := by
  induction es generalizing s with
  | nil => rfl
  | cons e es ih =>
      obtain ⟨s', he, hs'⟩ := (run_cons_ok s t e es).mp h
      obtain ⟨hrun, hout⟩ := hstep s e s' he
      rw [trace_cons _ _ he, trace_cons _ _ he, trace_append _ _ hrun, hout, ih hs']

/-- A system with a monitor beside it, which sees every step. -/
def watch {μ : Type*} (step : σ → ε → Except χ σ) (observe : μ → σ → ε → σ → μ)
    (w : σ × μ) (e : ε) : Except χ (σ × μ) :=
  match step w.1 e with
  | .ok s' => .ok (s', observe w.2 w.1 e s')
  | .error x => .error x

theorem watch_ok {μ : Type*} {observe : μ → σ → ε → σ → μ} {w w' : σ × μ} {e : ε} :
    watch step observe w e = .ok w' ↔
      step w.1 e = .ok w'.1 ∧ w'.2 = observe w.2 w.1 e w'.1 := by
  unfold watch
  cases h : step w.1 e with
  | error x => simp
  | ok s' =>
      rcases w' with ⟨t, n⟩
      simp only [Except.ok.injEq, Prod.mk.injEq]
      constructor
      · rintro ⟨rfl, rfl⟩
        exact ⟨rfl, rfl⟩
      · rintro ⟨rfl, rfl⟩
        exact ⟨rfl, rfl⟩

/-- The monitor does not disturb the system. -/
theorem run_watch {μ : Type*} (observe : μ → σ → ε → σ → μ) (w : σ × μ) (es : List ε) :
    (run (watch step observe) w es).map Prod.fst = run step w.1 es := by
  induction es generalizing w with
  | nil => rfl
  | cons e es ih =>
      cases h : step w.1 e with
      | error x => simp [run, watch, h, Except.map]
      | ok s' => simpa [run, watch, h] using ih (s', observe w.2 w.1 e s')

end EventRun
