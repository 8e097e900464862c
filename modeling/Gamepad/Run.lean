import Gamepad.Event

/-! # Runs of a machine -/

namespace Gamepad.Step

variable {σ κ α : Type}

def after (act : σ → κ → Step σ α) (state : σ) (commands : List κ) : σ :=
  commands.foldl (fun state command => (act state command).next) state

def run (act : σ → κ → Step σ α) (state : σ) : List κ → List (Step σ α)
  | [] => []
  | command :: rest => act state command :: run act (act state command).next rest

def allEvents (steps : List (Step σ α)) : List Event :=
  steps.flatMap Step.events

variable (act : σ → κ → Step σ α) (state : σ)

@[simp]
theorem after_nil : after act state [] = state := rfl

@[simp]
theorem after_cons (command : κ) (rest : List κ) :
    after act state (command :: rest) = after act (act state command).next rest := rfl

@[simp]
theorem run_nil : run act state [] = [] := rfl

@[simp]
theorem run_cons (command : κ) (rest : List κ) :
    run act state (command :: rest) =
      act state command :: run act (act state command).next rest := rfl

theorem after_append (before rest : List κ) :
    after act state (before ++ rest) = after act (after act state before) rest := by
  simp [after]

theorem run_append (before rest : List κ) :
    run act state (before ++ rest) =
      run act state before ++ run act (after act state before) rest := by
  induction before generalizing state with
  | nil => rfl
  | cons command before ih => simp [ih]

@[simp]
theorem run_length (commands : List κ) : (run act state commands).length = commands.length := by
  induction commands generalizing state with
  | nil => rfl
  | cons command rest ih => simp [ih]

end Gamepad.Step
