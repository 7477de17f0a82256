import Mathlib

/-!
# The first match decides

A list of rules decides about an input by its first rule that applies, and otherwise as it is told.
Rules that correspond one by one decide alike; what comes after a list matters only to inputs to
which no rule of the list applies.
-/

namespace FirstMatch

variable {ρ ρ' α δ : Type*}

variable {applies : ρ → α → Bool} {decision : ρ → δ} {applies' : ρ' → α → Bool}
  {decision' : ρ' → δ} {otherwise : δ} {rules : List ρ} {rules' : List ρ'} {input : α}

end FirstMatch
