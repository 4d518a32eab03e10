import Timesheet.Command.Machine
import Timesheet.Text.Blank

/-!
Questions to the person at the console.
-/
namespace Timesheet.Run

variable {σ : Type}

def maxAttempts : Nat := 3

/-- Waits for a yes or a no, so many times. -/
def awaitConsent : Nat → Run σ Bool
  | 0 => throw (.noAnswer maxAttempts)
  | attempts + 1 => do
    let key ← readKey
    if key = 'y' ∨ key = 'Y' ∨ key = '\n' then return true
    else if key = 'n' ∨ key = 'N' then return false
    else
      tell ("Unknown option: '" ++ key.toString ++ "', press 'y' to confirm or 'n' to cancel")
      awaitConsent attempts

def consent (question : String) : Run σ Bool := do
  tell (question ++ " [Y/n]")
  awaitConsent maxAttempts

def askOptional (question : String) : Run σ (Option String) := do
  tell (question ++ " (leave empty for none):")
  let answer := Text.trim (← readLine)
  return if answer = "" then none else some answer

/-- Asks for a text that is not blank, so many more times. -/
def askAgain (question : String) : Nat → Run σ String
  | 0 => throw (.noAnswer maxAttempts)
  | attempts + 1 => do
    tell (question ++ ":")
    let answer := Text.trim (← readLine)
    if answer ≠ "" then return answer
    tell "Note: This field can't be empty and must be initialized"
    if attempts ≠ 0 then
      tell ("Info: Attempt " ++ toString (maxAttempts - attempts + 1) ++ "/" ++
        toString maxAttempts)
    askAgain question attempts

def ask (question : String) : Run σ String := askAgain question maxAttempts

end Timesheet.Run
