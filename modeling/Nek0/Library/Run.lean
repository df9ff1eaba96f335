import Mathlib.Data.List.Basic

/-!
# Runs of a labelled system

A system is a partial step function: `step s a = none` says that action `a` is
not enabled in state `s`. `Run` collects the finite runs whose every action is
enabled and taken in a state that meets a side condition, so that one induction
serves both the unconditional results (`ok` is `fun _ _ => True`) and the results
that hold while a condition is met. `exec` computes a run, which gives closed
runs by evaluation.
-/

namespace Nek0.Library

variable {S A T B : Type*}

/-- The action sequence `as` leads from `s` to the last state, and each action
was enabled and met `ok` where it was taken. -/
inductive Run (step : S → A → Option S) (ok : S → A → Prop) (s : S) : List A → S → Prop where
  | start : Run step ok s [] s
  | next {as : List A} {t u : S} {a : A} (before : Run step ok s as t) (meets : ok t a)
      (taken : step t a = some u) : Run step ok s (as ++ [a]) u

/-- The condition that excludes nothing. -/
def anyStep (_ : S) (_ : A) : Prop := True

/-- A state property that the start has and every admitted step keeps holds in
every state a run reaches. -/
theorem Run.invariant {step : S → A → Option S} {ok : S → A → Prop} {s t : S} {as : List A}
    (run : Run step ok s as t) (inv : S → Prop) (initial : inv s)
    (kept : ∀ t a u, inv t → ok t a → step t a = some u → inv u) : inv t := by
  induction run with
  | start => exact initial
  | next _ meets taken ih => exact kept _ _ _ ih meets taken

/-- Where every step keeps a property exactly if it meets a condition, the property holds at
the end of a run if and only if all its steps met the condition. -/
theorem Run.holds_iff {step : S → A → Option S} {ok : S → A → Prop} {s t : S} {as : List A}
    (run : Run step anyStep s as t) {good : S → Prop} (inv : S → Prop) (initial : inv s)
    (fresh : good s) (kept : ∀ t a u, inv t → step t a = some u → inv u)
    (exact : ∀ t a u, inv t → step t a = some u → (good u ↔ good t ∧ ok t a)) :
    good t ↔ Run step ok s as t := by
  constructor
  · have invariant : inv t ∧ (good t → Run step ok s as t) := by
      induction run with
      | start => exact ⟨initial, fun _ => .start⟩
      | next _ _ taken ih =>
        refine ⟨kept _ _ _ ih.1 taken, fun holds => ?_⟩
        obtain ⟨before, met⟩ := (exact _ _ _ ih.1 taken).mp holds
        exact .next (ih.2 before) met taken
    exact invariant.2
  · intro met
    have both := met.invariant (fun u => inv u ∧ good u) ⟨initial, fresh⟩
      fun t a u holds ok taken =>
        ⟨kept t a u holds.1 taken, (exact t a u holds.1 taken).mpr ⟨holds.2, ok⟩⟩
    exact both.2

/-- A run that meets a condition meets every weaker one. -/
theorem Run.weaken {step : S → A → Option S} {ok weaker : S → A → Prop}
    (implied : ∀ t a, ok t a → weaker t a) {s t : S} {as : List A}
    (run : Run step ok s as t) : Run step weaker s as t := by
  induction run with
  | start => exact .start
  | next _ meets taken ih => exact .next ih (implied _ _ meets) taken

/-- The same actions lead to the same state. -/
theorem Run.deterministic {step : S → A → Option S} {ok ok' : S → A → Prop} {s t u : S}
    {as : List A} (first : Run step ok s as t) (second : Run step ok' s as u) : t = u := by
  induction first generalizing u with
  | start =>
    generalize none : ([] : List A) = as at second
    cases second with
    | start => rfl
    | next => simp at none
  | @next as t t' a _ _ taken ih =>
    generalize same : as ++ [a] = bs at second
    cases second with
    | start => simp at same
    | next before _ taken' =>
      obtain ⟨rfl, last⟩ := List.append_inj' same rfl
      obtain rfl := List.singleton_inj.mp last
      obtain rfl := ih before
      exact Option.some.inj (taken.symm.trans taken')

/-- Where a step out of a good state leads to a good one exactly if it meets a condition, all
states that a run visits are good if and only if all its steps met the condition. The invariant
need not survive a step that leads out of the good states. -/
theorem Run.always_iff_of_kept {step : S → A → Option S} {ok : S → A → Prop} {s t : S}
    {as : List A} (run : Run step anyStep s as t) {good : S → Prop} (inv : S → Prop)
    (initial : inv s) (fresh : good s)
    (kept : ∀ t a u, inv t → good t → step t a = some u → good u → inv u)
    (exact : ∀ t a u, inv t → good t → step t a = some u → (good u ↔ ok t a)) :
    (∀ bs u, bs <+: as → Run step anyStep s bs u → good u) ↔ Run step ok s as t := by
  constructor
  · intro always
    have invariant : inv t ∧ Run step ok s as t := by
      induction run with
      | start => exact ⟨initial, .start⟩
      | @next as t u a before meets taken ih =>
        have soFar := ih fun bs v shorter => always bs v (shorter.trans (List.prefix_append as [a]))
        have last := always as t (List.prefix_append as [a]) before
        have reached := always _ u List.prefix_rfl (.next before meets taken)
        exact ⟨kept t a u soFar.1 last taken reached,
          .next soFar.2 ((exact t a u soFar.1 last taken).mp reached) taken⟩
    exact invariant.2
  · intro met
    clear run
    have invariant : inv t ∧ ∀ bs u, bs <+: as → Run step anyStep s bs u → good u := by
      induction met with
      | start =>
        refine ⟨initial, fun bs u shorter reached => ?_⟩
        obtain rfl := List.prefix_nil.mp shorter
        have same : Run step anyStep s [] s := .start
        exact reached.deterministic same ▸ fresh
      | @next as t u a before meets taken ih =>
        have good := ih.2 as t List.prefix_rfl (before.weaken fun _ _ _ => trivial)
        have reached := (exact t a u ih.1 good taken).mpr meets
        refine ⟨kept t a u ih.1 good taken reached, fun bs v shorter visited => ?_⟩
        rcases List.prefix_concat_iff.mp shorter with whole | shorter
        · subst whole
          have same := visited.deterministic (.next before meets taken)
          exact same ▸ reached
        · exact ih.2 bs v shorter visited
    exact invariant.2

/-- The same for an invariant of all steps. -/
theorem Run.always_iff {step : S → A → Option S} {ok : S → A → Prop} {s t : S} {as : List A}
    (run : Run step anyStep s as t) {good : S → Prop} (inv : S → Prop) (initial : inv s)
    (fresh : good s) (kept : ∀ t a u, inv t → step t a = some u → inv u)
    (exact : ∀ t a u, inv t → good t → step t a = some u → (good u ↔ ok t a)) :
    (∀ bs u, bs <+: as → Run step anyStep s bs u → good u) ↔ Run step ok s as t :=
  run.always_iff_of_kept inv initial fresh (fun t a u holds _ taken _ => kept t a u holds taken)
    exact

/-- Where a step has a property exactly if it meets a condition, all steps of a run have it if and
only if all of them met the condition. -/
theorem Run.each_iff {step : S → A → Option S} {ok : S → A → Prop} {s t : S} {as : List A}
    (run : Run step anyStep s as t) {fine : S → A → Prop} (inv : S → Prop) (initial : inv s)
    (kept : ∀ t a u, inv t → step t a = some u → inv u)
    (exact : ∀ t a u, inv t → step t a = some u → (fine t a ↔ ok t a)) :
    (∀ bs u a, bs ++ [a] <+: as → Run step anyStep s bs u → fine u a) ↔ Run step ok s as t := by
  constructor
  · intro each
    have invariant : inv t ∧ Run step ok s as t := by
      induction run with
      | start => exact ⟨initial, .start⟩
      | @next as t u a before _ taken ih =>
        have soFar := ih fun bs v b shorter =>
          each bs v b (shorter.trans (List.prefix_append as [a]))
        have last := each as t a List.prefix_rfl before
        exact ⟨kept t a u soFar.1 taken, .next soFar.2 ((exact t a u soFar.1 taken).mp last) taken⟩
    exact invariant.2
  · intro met
    clear run
    have invariant : inv t ∧
        ∀ bs u a, bs ++ [a] <+: as → Run step anyStep s bs u → fine u a := by
      induction met with
      | start =>
        refine ⟨initial, fun bs u a shorter => ?_⟩
        simp at shorter
      | @next as t u a before meets taken ih =>
        refine ⟨kept t a u ih.1 taken, fun bs v b shorter visited => ?_⟩
        rcases List.prefix_concat_iff.mp shorter with whole | shorter
        · obtain ⟨rfl, last⟩ := List.append_inj' whole rfl
          obtain rfl := List.singleton_inj.mp last
          obtain rfl := visited.deterministic before
          exact (exact v b u ih.1 taken).mpr meets
        · exact ih.2 bs v b shorter visited
    exact invariant.2

theorem Run.append {step : S → A → Option S} {ok : S → A → Prop} {s t u : S} {as bs : List A}
    (first : Run step ok s as t) (second : Run step ok t bs u) : Run step ok s (as ++ bs) u := by
  induction second with
  | start => simpa using first
  | next _ meets taken ih =>
    rw [← List.append_assoc]
    exact .next ih meets taken

theorem Run.single {step : S → A → Option S} {ok : S → A → Prop} {s t : S} {a : A}
    (meets : ok s a) (taken : step s a = some t) : Run step ok s [a] t := by
  have one : Run step ok s ([] ++ [a]) t := .next .start meets taken
  exact one

theorem Run.cons {step : S → A → Option S} {ok : S → A → Prop} {s t u : S} {a : A} {as : List A}
    (meets : ok s a) (taken : step s a = some t) (rest : Run step ok t as u) :
    Run step ok s (a :: as) u :=
  (Run.single meets taken).append rest

/-- Where each step of one system is matched by a run of another, so is each run. -/
theorem Run.simulate {step : S → A → Option S} {ok : S → A → Prop} {s u : S} {as : List A}
    (run : Run step ok s as u) (step' : T → B → Option T) (ok' : T → B → Prop)
    (related : S → T → Prop) {t : T} (initial : related s t)
    (matched : ∀ s a u t, related s t → ok s a → step s a = some u →
      ∃ bs v, Run step' ok' t bs v ∧ related u v) :
    ∃ bs v, Run step' ok' t bs v ∧ related u v := by
  induction run with
  | start => exact ⟨[], t, .start, initial⟩
  | next _ meets taken ih =>
    obtain ⟨bs, v, before, same⟩ := ih
    obtain ⟨more, w, further, still⟩ := matched _ _ _ v same meets taken
    exact ⟨bs ++ more, w, before.append further, still⟩

/-- Where each step of one system is matched by a step of another with the same action, each run
is matched by a run with the same actions. -/
theorem Run.lockstep {step : S → A → Option S} {ok : S → A → Prop} {s u : S} {as : List A}
    (run : Run step ok s as u) (step' : T → A → Option T) (ok' : T → A → Prop)
    (related : S → T → Prop) {t : T} (initial : related s t)
    (matched : ∀ s a u t, related s t → ok s a → step s a = some u →
      ∃ v, ok' t a ∧ step' t a = some v ∧ related u v) :
    ∃ v, Run step' ok' t as v ∧ related u v := by
  induction run with
  | start => exact ⟨t, .start, initial⟩
  | next _ meets taken ih =>
    obtain ⟨v, before, same⟩ := ih
    obtain ⟨w, admitted, moved, still⟩ := matched _ _ _ v same meets taken
    exact ⟨w, .next before admitted moved, still⟩

/-- Runs the actions from left to right, if all of them are enabled. -/
def exec (step : S → A → Option S) : S → List A → Option S
  | s, [] => some s
  | s, a :: as => (step s a).bind fun t => exec step t as

theorem run_of_exec {step : S → A → Option S} {ok : S → A → Prop} {as : List A} {s t : S}
    (meets : ∀ a ∈ as, ∀ u, ok u a) (computed : exec step s as = some t) :
    Run step ok s as t := by
  induction as generalizing s with
  | nil =>
    simp only [exec, Option.some.injEq] at computed
    exact computed ▸ .start
  | cons a as ih =>
    simp only [exec, Option.bind_eq_some_iff] at computed
    obtain ⟨u, taken, rest⟩ := computed
    simp only [List.forall_mem_cons] at meets
    exact Run.cons (meets.1 s) taken (ih meets.2 rest)

/-- A computed run whose last state passes a test. -/
theorem reaches_of_exec {step : S → A → Option S} {as : List A} {s : S} {test : S → Bool}
    (ok : S → A → Prop) (meets : ∀ a ∈ as, ∀ u, ok u a)
    (passes : (exec step s as).any test = true) :
    ∃ t, Run step ok s as t ∧ test t = true := by
  obtain ⟨t, computed, passed⟩ := (Option.any_eq_true ..).mp passes
  exact ⟨t, run_of_exec meets computed, passed⟩

/-- The system that refuses every step which fails the check. -/
def guarded (check : S → A → Bool) (step : S → A → Option S) (s : S) (a : A) : Option S :=
  if check s a then step s a else none

/-- A computed run whose every step passes a check. -/
theorem reaches_of_guarded {step : S → A → Option S} {as : List A} {s : S} {test : S → Bool}
    (check : S → A → Bool) (passes : (exec (guarded check step) s as).any test = true) :
    ∃ t, Run step (fun u a => check u a = true) s as t ∧ test t = true := by
  obtain ⟨t, run, passed⟩ := reaches_of_exec anyStep (fun _ _ _ => trivial) passes
  refine ⟨t, ?_, passed⟩
  clear passes passed
  induction run with
  | start => exact .start
  | next _ _ taken ih =>
    simp only [guarded, Option.ite_none_right_eq_some] at taken
    exact .next ih taken.1 taken.2

end Nek0.Library
