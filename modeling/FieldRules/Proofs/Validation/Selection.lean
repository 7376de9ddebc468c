import FieldRules.Proofs.Run
import FieldRules.Validation.Objects

/-!
# Selection of fragments

Under a request for groups, the fragments that belong to the groups are looked at without those that are equal
to an earlier one. A fragment that is left out may decide otherwise than the one it is equal to, because equal
values need not be the same to a handler: the number one and the truth value are equal, and are different as
texts. `selectFragments_verdict` says exactly when the selection is not rejected although a fragment of the
groups is.
-/

namespace FieldRules

open Cache

/-! ## Fragments without repetitions -/

section Distinct
variable {f : Fragment} {fragments chosen : List Fragment}

/-- Chooses a fragment, unless it is equal to one that has been chosen. -/
def chooseDistinct (chosen : List Fragment) (f : Fragment) : List Fragment :=
  if chosen.any f.same then chosen else chosen ++ [f]

theorem distinctFragments_eq (fragments : List Fragment) :
    distinctFragments fragments = fragments.foldl chooseDistinct [] := rfl

theorem mem_foldl_chooseDistinct (h : f ∈ fragments.foldl chooseDistinct chosen) :
    f ∈ chosen ∨ f ∈ fragments := by
  induction fragments generalizing chosen with
  | nil => exact .inl h
  | cons g fragments ih =>
    rcases ih h with hchosen | hrest
    · unfold chooseDistinct at hchosen
      split at hchosen
      · exact .inl hchosen
      · rcases List.mem_append.1 hchosen with hchosen | hg
        · exact .inl hchosen
        · exact .inr (by simp [List.mem_singleton.1 hg])
    · exact .inr (List.mem_cons_of_mem _ hrest)

theorem mem_foldl_of_chosen (h : f ∈ chosen) : f ∈ fragments.foldl chooseDistinct chosen := by
  induction fragments generalizing chosen with
  | nil => exact h
  | cons g fragments ih =>
    refine ih ?_
    unfold chooseDistinct
    split
    · exact h
    · exact List.mem_append_left _ h

/-- A fragment is chosen, or an equal one is. -/
theorem mem_foldl_or_same (h : f ∈ fragments) :
    f ∈ fragments.foldl chooseDistinct chosen ∨
      ∃ kept ∈ fragments.foldl chooseDistinct chosen, f.same kept = true := by
  induction fragments generalizing chosen with
  | nil => cases h
  | cons g fragments ih =>
    rcases List.mem_cons.1 h with rfl | hrest
    · rw [List.foldl_cons, chooseDistinct]
      split
      · next hsame =>
        obtain ⟨kept, hkept, hequal⟩ := List.any_eq_true.1 hsame
        exact .inr ⟨kept, mem_foldl_of_chosen hkept, hequal⟩
      · exact .inl (mem_foldl_of_chosen (by simp))
    · exact ih hrest

end Distinct

/-- Equal fragments differ in their arguments alone. -/
theorem Fragment.eq_of_same {f g : Fragment} (h : f.same g = true) (harguments : f.arguments = g.arguments) :
    f = g := by
  simp only [Fragment.same, Bool.and_eq_true, beq_iff_eq] at h
  obtain ⟨⟨⟨hname, hgroups⟩, -⟩, hmessage⟩ := h
  cases f
  cases g
  simp_all

/-! ## Verdicts -/

namespace Validator

/-- Whether the decision about a subject by a fragment is that it is rejected. -/
def rejects (V : Validator) (q : Request) (s : Subject) (session : Session) (f : Fragment) : Bool :=
  match (V.settle q s (Dispatch.run V.registry V.leniency s.value f s.context) session).1 with
  | .ok found => !found.passed
  | .error _ => false

/-- A subject that has been held against a fragment has a rejection exactly if the fragment rejects it. -/
theorem rejects_of_holdAgainst {V : Validator} {q : Request} {s : Subject} {f : Fragment}
    {session session' : Session} {r? : Option Rejection}
    (h : V.holdAgainst q s f session = (.ok r?, session')) : V.rejects q s session f = r?.isSome := by
  obtain ⟨found, session₁, hfound, h⟩ := Run.bind_eq_ok h
  rw [rejects, hfound]
  cases hpassed : found.passed with
  | true =>
    rw [hpassed] at h
    cases h
    simp [hpassed]
  | false =>
    rw [hpassed] at h
    obtain ⟨r, session₂, -, h⟩ := Run.bind_eq_ok h
    cases h
    simp [hpassed]

/-- **When the selection hides a rejection.** What the selection rejects, a fragment of the requested groups
rejects. The converse fails exactly if a fragment of the groups rejects, and every one that does is left out
for an equal fragment with other arguments that does not. -/
theorem selectFragments_verdict (V : Validator) (q : Request) (s : Subject) (session : Session)
    (fragments : List Fragment) (requested : List String) :
    ((∃ f ∈ selectFragments fragments (some requested), V.rejects q s session f = true) →
      ∃ f ∈ fragments, f.inGroups requested = true ∧ V.rejects q s session f = true) ∧
    (¬((∃ f ∈ selectFragments fragments (some requested), V.rejects q s session f = true) ↔
        ∃ f ∈ fragments, f.inGroups requested = true ∧ V.rejects q s session f = true) ↔
      (∃ f ∈ fragments, f.inGroups requested = true ∧ V.rejects q s session f = true) ∧
        ∀ f ∈ fragments, f.inGroups requested = true → V.rejects q s session f = true →
          f ∉ selectFragments fragments (some requested) ∧
            ∃ kept ∈ selectFragments fragments (some requested), f.same kept = true ∧
              f.arguments ≠ kept.arguments ∧ V.rejects q s session kept = false) := by
  have hsubset : ∀ f ∈ selectFragments fragments (some requested),
      f ∈ fragments ∧ f.inGroups requested = true := by
    intro f hf
    rw [selectFragments, distinctFragments_eq] at hf
    rcases mem_foldl_chooseDistinct hf with hf | hf
    · cases hf
    · exact List.mem_filter.1 hf
  have hfirst : (∃ f ∈ selectFragments fragments (some requested), V.rejects q s session f = true) →
      ∃ f ∈ fragments, f.inGroups requested = true ∧ V.rejects q s session f = true := by
    rintro ⟨f, hf, hrejects⟩
    obtain ⟨hmem, hgroups⟩ := hsubset f hf
    exact ⟨f, hmem, hgroups, hrejects⟩
  refine ⟨hfirst, ?_⟩
  constructor
  · -- A rejecting fragment that is left out is left out for an equal one, which then has to pass.
    intro hdiffers
    have hasked : ∃ f ∈ fragments, f.inGroups requested = true ∧ V.rejects q s session f = true := by
      by_contra hnone
      exact hdiffers ⟨hfirst, fun hasked => absurd hasked hnone⟩
    have hselected : ¬∃ f ∈ selectFragments fragments (some requested), V.rejects q s session f = true :=
      fun hsome => hdiffers ⟨fun _ => hasked, fun _ => hsome⟩
    refine ⟨hasked, fun f hf hgroups hrejects => ?_⟩
    have hout : f ∉ selectFragments fragments (some requested) := fun hin => hselected ⟨f, hin, hrejects⟩
    have hasks : f ∈ fragments.filter fun f => f.inGroups requested := List.mem_filter.2 ⟨hf, hgroups⟩
    rcases mem_foldl_or_same hasks with hin | ⟨kept, hkept, hsame⟩
    · exact absurd hin hout
    · have hpasses : V.rejects q s session kept = false :=
        Bool.eq_false_iff.2 fun hr => hselected ⟨kept, hkept, hr⟩
      refine ⟨hout, kept, hkept, hsame, fun harguments => ?_, hpasses⟩
      rw [Fragment.eq_of_same hsame harguments, hpasses] at hrejects
      cases hrejects
  · rintro ⟨⟨f, hf, hgroups, hrejects⟩, hhidden⟩ hiff
    obtain ⟨g, hg, hg'⟩ := hiff.2 ⟨f, hf, hgroups, hrejects⟩
    obtain ⟨hmem, hin⟩ := hsubset g hg
    exact (hhidden g hmem hin hg').1 hg

/-- A fragment that asks for the value to equal another one, in a group. -/
def equalsIn (group : String) (v : Value) : Fragment where
  name := "equals"
  groups := [group]
  arguments := [v]

/-- The text of the number one equals the number, and is not the text of the truth value; the fragment for the
truth value is equal to that for the number. -/
theorem selection_hides_rejection :
    ¬((∃ f ∈ selectFragments [equalsIn "g" (.int 1), equalsIn "g" (.bool true)] (some ["g"]),
        ({} : Validator).rejects {} { value := .string "1", label := "target" } {} f = true) ↔
      ∃ f ∈ [equalsIn "g" (.int 1), equalsIn "g" (.bool true)], f.inGroups ["g"] = true ∧
        ({} : Validator).rejects {} { value := .string "1", label := "target" } {} f = true) := by
  decide +kernel

end Validator

end FieldRules
