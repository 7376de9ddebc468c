import FieldRules.Proofs.Rule.RoundTrip
import FieldRules.Proofs.Rule.Strictness

/-!
# Parts out of order

The parts of a descriptor may be written in any order: a loose reader reads the same fragment from all of them, and
a strict one accepts only the order name, arguments, groups, message (`parse_printIn`). In every order each part is
passed as a whole, so both readers come to the delimiter behind the parts with the same draft, and differ in what
they make of the order in which the parts have been seen.
-/

namespace FieldRules.Rule

variable {d : Descriptor} {order : List Part}

theorem rank_injective : Function.Injective Part.rank := by
  intro p q h
  cases p <;> cases q <;> first | rfl | cases h

/-- There is only one order in which the parts of a descriptor stand in order. -/
theorem inOrder_iff_of_perm (horder : order.Perm d.parts) : InOrder order ↔ order = d.parts := by
  have hparts : InOrder d.parts := inOrder_eq_iff.1 d.inOrder_parts
  constructor
  · intro h
    refine horder.eq_of_pairwise ?_ h hparts
    intro p q _ _ hpq hqp
    exact rank_injective (Nat.le_antisymm hpq hqp)
  · rintro rfl
    exact hparts

section Readers
variable {strict : Bool}

/-- The rule text of a single descriptor, as it is read. -/
theorem parse_printIn_eq (hd : d.Printable) (horder : order.Perm d.parts) :
    parse strict (some (String.ofList (d.printIn order)))
      = readFragments strict (d.printIn order ++ [delimiter]) ((d.printIn order).length + 2) none
          (d.printIn order ++ [delimiter]) := by
  have hne : order ≠ [] := by
    rintro rfl
    exact List.cons_ne_nil _ _ horder.nil_eq.symm
  have hclosed := Descriptor.closed_printIn hd hne fun part => horder.mem_iff.1
  rw [parse_eq_bind, clean_of_closed hclosed]
  dsimp only [Bind.bind, Except.bind]
  rw [String.toList_ofList, List.length_append]
  rfl

/-- Where the order is accepted, the descriptor is read. -/
theorem parse_printIn_eq_ok (hd : d.Printable) (horder : order.Perm d.parts)
    (haccepted : strict = true → inOrder order = order) :
    parse strict (some (String.ofList (d.printIn order))) = .ok [d.fragment] := by
  rw [parse_printIn_eq hd horder]
  have hend : Passes strict (d.printIn order ++ [delimiter]) ⟨some { d.draft with seen := order }, [delimiter]⟩
      [d.fragment] ⟨none, []⟩ := .finished (finish_draft hd.named haccepted) (.here _)
  refine ((passes_order hd horder []).trans hend).reads _ ?_
  rw [List.length_append]
  exact Nat.lt_succ_self _

/-- A strict reader reads nothing where the parts stand out of order. -/
theorem inOrder_of_parse_true (hd : d.Printable) (horder : order.Perm d.parts) {fs : List Fragment}
    (h : parse true (some (String.ofList (d.printIn order))) = .ok fs) : InOrder order := by
  rw [parse_printIn_eq hd horder] at h
  have hlength : (d.printIn order ++ [delimiter]).length < (d.printIn order).length + 2 := by
    rw [List.length_append]
    exact Nat.lt_succ_self _
  obtain ⟨fuel, fs', hfuel, hread, -⟩ := (passes_order hd horder []).exists_read hlength h
  obtain ⟨fuel, rfl⟩ := Nat.exists_eq_succ_of_ne_zero (Nat.ne_zero_of_lt hfuel)
  rw [readFragments_delimiter] at hread
  obtain ⟨f, hfinish, -⟩ := bind_eq_ok hread
  exact (finish_true_iff.1 hfinish).2

end Readers

/-- **Parts in any order.** The parts of a descriptor, written in any order, are read by a loose reader as the same
single fragment as in their own order, the one that the descriptor describes. A strict reader accepts them exactly if
they stand in their own order, and then reads that fragment as well. -/
theorem parse_printIn {d : Descriptor} {order : List Part} (hd : d.Printable) (horder : order.Perm d.parts) :
    ∃ f, d.Describes f ∧
      parse false (some (String.ofList d.print)) = .ok [f] ∧
      parse false (some (String.ofList (d.printIn order))) = .ok [f] ∧
      ∀ fs, parse true (some (String.ofList (d.printIn order))) = .ok fs ↔ order = d.parts ∧ fs = [f] := by
  have hloose : ∀ {order}, order.Perm d.parts →
      parse false (some (String.ofList (d.printIn order))) = .ok [d.fragment] :=
    fun horder => parse_printIn_eq_ok hd horder fun h => nomatch h
  refine ⟨d.fragment, Descriptor.describes_fragment hd, ?_, hloose horder, ?_⟩
  · rw [d.print_eq]
    exact hloose (.refl _)
  · intro fs
    constructor
    · intro h
      have hin := inOrder_of_parse_true hd horder h
      rw [parse_printIn_eq_ok hd horder fun _ => inOrder_eq_iff.2 hin] at h
      exact ⟨(inOrder_iff_of_perm horder).1 hin, (Except.ok.inj h).symm⟩
    · rintro ⟨rfl, rfl⟩
      exact parse_printIn_eq_ok hd horder fun _ => d.inOrder_parts

/-- A descriptor with all its parts, the message written first and the name before its arguments. -/
theorem parse_printIn_messageFirst : ∃ f, (fenced.head (by decide)).Describes f ∧
    parse false (some (String.ofList (fenced.head (by decide)).print)) = .ok [f] ∧
    parse false (some (String.ofList ((fenced.head (by decide)).printIn [.message, .groups, .name, .arguments])))
      = .ok [f] ∧
    ∀ fs, parse true (some (String.ofList ((fenced.head (by decide)).printIn
      [.message, .groups, .name, .arguments]))) ≠ .ok fs := by
  have hprintable := printable_fenced _ (List.head_mem (show fenced ≠ [] by decide))
  obtain ⟨f, hdescribes, hcanonical, hloose, hstrict⟩ := parse_printIn hprintable
    (show [Part.message, .groups, .name, .arguments].Perm (fenced.head (by decide)).parts by decide)
  refine ⟨f, hdescribes, hcanonical, hloose, ?_⟩
  intro fs h
  exact absurd ((hstrict fs).1 h).1 (by decide)

end FieldRules.Rule
