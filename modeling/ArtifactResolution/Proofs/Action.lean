namespace ArtifactResolution
set_option autoImplicit false

/-- A bit of what a call does to a state: a test that may fail, or a change that is made at once. -/
inductive Action (σ ε : Type) where
  | test (answer : σ → Except ε Unit)
  | change (f : σ → σ)

namespace Action
variable {σ ε : Type}

/-- Takes actions in turn until a test fails; the changes made so far stay. -/
def perform (x : σ) : List (Action σ ε) → σ × Except ε Unit
  | [] => (x, .ok ())
  | .change f :: actions => perform (f x) actions
  | .test answer :: actions =>
    match answer x with
    | .ok () => perform x actions
    | .error e => (x, .error e)

/-- The state and the answer after a call that leads to another state or is refused. -/
def settle (x : σ) : Except ε σ → σ × Except ε Unit
  | .ok x' => (x', .ok ())
  | .error e => (x, .error e)

theorem perform_append (x : σ) (first second : List (Action σ ε)) :
    perform x (first ++ second) =
      match perform x first with
      | (x', .ok ()) => perform x' second
      | (x', .error e) => (x', .error e) := by
  induction first generalizing x with
  | nil => rfl
  | cons action first ih =>
    cases action with
    | change f => exact ih (f x)
    | test answer =>
      simp only [List.cons_append, perform]
      cases answer x with
      | ok => exact ih x
      | error e => rfl

theorem perform_settled {x : σ} {first second : List (Action σ ε)} {outcome : Except ε σ}
    {f : σ → σ} (hfirst : perform x first = settle x outcome)
    (hsecond : ∀ x', perform x' second = (f x', .ok ())) :
    perform x (first ++ second) = settle x (outcome.map f) := by
  rw [perform_append, hfirst]
  cases outcome with
  | error e => rfl
  | ok x' => exact hsecond x'

theorem perform_test_change (x : σ) (answer : σ → Except ε Unit) (f : σ → σ) :
    perform x [test answer, change f] = settle x ((answer x).map fun _ => f x) := by
  rw [perform]
  cases answer x <;> rfl

end Action

end ArtifactResolution
