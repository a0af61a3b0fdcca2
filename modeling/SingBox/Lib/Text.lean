import Mathlib.Data.List.Basic

/-! # Cutting texts

A text is a list of symbols. `before` and `after?` cut it at the first place where another
text begins; neither sees further than that place.
-/

namespace Lib.Text

variable {α : Type} [DecidableEq α]

/-- What stands before the first `part`; the whole text where there is none. -/
def before (part : List α) : List α → List α
  | [] => []
  | symbol :: rest => if part <+: symbol :: rest then [] else symbol :: before part rest

/-- What stands after the first `part`. -/
def after? (part : List α) : List α → Option (List α)
  | [] => none
  | symbol :: rest =>
    if part <+: symbol :: rest then some ((symbol :: rest).drop part.length) else after? part rest

end Lib.Text
