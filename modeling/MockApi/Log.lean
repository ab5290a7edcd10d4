/-
What the program reports beside its results: warnings and errors in order.
-/
import MockApi.Text.Basic

namespace MockApi

/-- The weight of a report, the lighter ones left out. -/
inductive LogLevel where
  | warning
  | error
deriving DecidableEq, Repr

/-- A report. -/
structure LogLine where
  level : LogLevel
  message : Text
deriving DecidableEq, Repr

abbrev Log := List LogLine

def LogLine.warning (message : Text) : LogLine := ⟨.warning, message⟩

def LogLine.error (message : Text) : LogLine := ⟨.error, message⟩

end MockApi
