import FieldRules.Proofs.Run
import FieldRules.Rule.Scanner

/-!
# Rule texts whose lists are compiled elsewhere

The reader of rule texts is told how to compile the argument lists that it comes to. It does nothing else with
the state of that computation. So a property that compiling a list has is one that reading a text has
(`compositional_parseBy`), and where compiling a list gives what reading it anew does, reading a text gives what
`parse` does (`yields_parseBy`).
-/

namespace FieldRules.Rule

open Cache

variable {σ : Type} {compile : String → Run σ Error Expr} {strict : Bool} {text : List Char}

/-! ## Properties that reading has -/

section Compositional
variable {C : (α : Type) → Run σ Error α → Prop} (hC : Run.Compositional C)
  (hcompile : ∀ list, C Expr (compile list))
include hC hcompile

theorem compositional_resolveArgumentsBy (list : String) (bindings : List (String × Value)) :
    C _ (resolveArgumentsBy compile list bindings) := by
  unfold resolveArgumentsBy
  split
  · exact hC.pure []
  · exact hC.bind (hcompile list) fun e => hC.lift _

theorem compositional_readPartBy (part : Part) (rest : List Char) (d : Draft) :
    C _ (readPartBy compile strict text part rest d) := by
  cases part with
  | name => exact hC.bind (hC.lift _) fun _ => hC.pure _
  | arguments =>
    refine hC.bind (hC.bind (hC.lift _) fun g => ?_) fun _ => hC.pure _
    exact hC.bind (compositional_resolveArgumentsBy hC hcompile _ _) fun _ => hC.pure _
  | groups => exact hC.bind (hC.lift _) fun _ => hC.pure _
  | message => exact hC.bind (hC.lift _) fun _ => hC.pure _

theorem compositional_readFragmentsBy (fuel : Nat) (draft? : Option Draft) (rest : List Char) :
    C _ (readFragmentsBy compile strict text fuel draft? rest) := by
  fun_induction readFragmentsBy compile strict text fuel draft? rest
  case case1 | case2 => exact hC.pure []
  case case3 ih => exact hC.bind (hC.lift _) fun f => hC.bind ih fun fs => hC.pure _
  case case4 ih | case5 ih => exact ih
  case case6 ih =>
    exact hC.bind (compositional_readPartBy hC hcompile _ _ _) fun read => ih read.1 read.2

theorem compositional_parseBy (text? : Option String) : C _ (parseBy compile strict text?) :=
  hC.bind (hC.lift _) fun key => compositional_readFragmentsBy hC hcompile _ none key.toList

end Compositional

/-! ## What reading gives -/

section Yields
variable {I : σ → Prop} (hcompile : ∀ list, Run.Yields I (compile list) (compileArguments list))
include hcompile

theorem yields_resolveArgumentsBy (list : String) (bindings : List (String × Value)) :
    Run.Yields I (resolveArgumentsBy compile list bindings) (resolveArguments list bindings) := by
  unfold resolveArguments resolveArgumentsBy
  split
  · exact .pure []
  · exact (hcompile list).bind fun e _ => .lift (evaluateArguments list bindings e)

theorem yields_readPartBy (part : Part) (rest : List Char) (d : Draft) :
    Run.Yields I (readPartBy compile strict text part rest d) (readPart strict text part rest d) := by
  cases part with
  | name => exact (Run.Yields.lift (readName text rest)).bind fun _ _ => .pure _
  | arguments =>
    refine Run.Yields.bind (r := readArguments text (rest.drop 1)) ?_ fun _ _ => .pure _
    refine (Run.Yields.lift (gather text .plain {} (rest.drop 1))).bind fun g _ => ?_
    exact (yields_resolveArgumentsBy hcompile _ _).bind fun _ _ => .pure _
  | groups =>
    exact (Run.Yields.lift (readGroups strict text [] [] false (rest.drop 1))).bind fun _ _ => .pure _
  | message => exact (Run.Yields.lift (readMessage text (rest.drop 2))).bind fun _ _ => .pure _

theorem yields_readFragmentsBy (fuel : Nat) (draft? : Option Draft) (rest : List Char) :
    Run.Yields I (readFragmentsBy compile strict text fuel draft? rest)
      (readFragments strict text fuel draft? rest) := by
  fun_induction readFragmentsBy compile strict text fuel draft? rest
  case case1 => exact .pure []
  case case2 fuel d? hfuel =>
    obtain ⟨fuel, rfl⟩ := Nat.exists_eq_succ_of_ne_zero hfuel
    exact .pure []
  case case3 fuel c rest hc d ih =>
    rw [eq_of_beq hc, readFragments_delimiter]
    exact (Run.Yields.lift (finish strict text d)).bind fun f _ => ih.bind fun fs _ => .pure _
  case case4 fuel c rest hc ih =>
    rw [eq_of_beq hc, readFragments_delimiter]
    exact ih
  case case5 fuel d? c rest hc hpart ih =>
    rw [readFragments_cons (by simpa using hc), hpart]
    exact ih
  case case6 fuel d? c rest hc part hpart ih =>
    rw [readFragments_cons (by simpa using hc), hpart]
    exact (yields_readPartBy hcompile part _ _).bind fun read _ => ih read.1 read.2

/-- Reading a text with such lists is reading it. -/
theorem yields_parseBy (text? : Option String) :
    Run.Yields I (parseBy compile strict text?) (parse strict text?) :=
  (Run.Yields.lift (clean text?)).bind fun key _ =>
    yields_readFragmentsBy hcompile _ none key.toList

end Yields

end FieldRules.Rule
