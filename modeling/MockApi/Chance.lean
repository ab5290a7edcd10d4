/-
Draws of chance as a list of numbers still to come. A draw takes the next
number, zero when none is left, and folds it into the range that is asked
for; so a run of the program is a function of the list.
-/

namespace MockApi

/-- The numbers still to be drawn. -/
structure Chance where
  numbers : List Int
deriving DecidableEq, Repr

namespace Chance

/-- The next number below a positive bound, and the draws that remain. -/
def below (bound : Nat) (chance : Chance) : Nat × Chance :=
  match chance.numbers with
  | [] => (0, chance)
  | n :: rest => ((n.emod bound).toNat, ⟨rest⟩)

/-- A number between two bounds, both included. -/
def between (least greatest : Nat) (chance : Chance) : Nat × Chance :=
  let (n, chance) := chance.below (greatest - least + 1)
  (least + n, chance)

/-- An item of a list, if it has any. -/
def pick? {α : Type} (items : List α) (chance : Chance) : Option α × Chance :=
  let (n, chance) := chance.below items.length
  (items[n]?, chance)

end Chance

end MockApi
