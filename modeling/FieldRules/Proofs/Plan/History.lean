import FieldRules.Proofs.Plan.Search

/-!
# Compiling after compiling

A class may be compiled after any number of others, some of which could not be compiled. A plan is kept as
soon as it is there, before the types nested in it are compiled, and it stays if one of those fails. A later
search does not enter it again. `compileType_after` says when this cannot be noticed: always, as long as no
earlier class has failed, and otherwise exactly if the shorter search fails as the whole one does.
`forgets_failure` is the smallest case in which it can.
-/

namespace FieldRules.Plans

open Cache

/-- What has been compiled after classes were compiled one after the other, whether they failed or not. -/
def after (s : Sources) (earlier : List Class) : Plans :=
  earlier.foldl (fun p c => (compileType s c p).2) {}

section After
variable {s : Sources}

theorem after_concat (s : Sources) (earlier : List Class) (c : Class) :
    after s (earlier ++ [c]) = (compileType s c (after s earlier)).2 := by
  rw [after, List.foldl_append]
  rfl

/-- Compiling a class is the search that stops at the kept types. -/
theorem compileType_eq {p : Plans} (h : Settled s p) (c : Class) :
    (compileType s c p).1 = outcome s c (firstFailure s (keptTypes p) c) ∧
      Settled s (compileType s c p).2 ∧
      keptTypes (compileType s c p).2 = (visit s (fieldCount s) (keptTypes p) c).2 := by
  obtain ⟨p', hrun, hsettled, hkept⟩ := searches_compileTypeWithin s (fieldCount s) h c
  rw [compileType, hrun]
  exact ⟨rfl, hsettled, hkept⟩

theorem settled_after (s : Sources) (earlier : List Class) : Settled s (after s earlier) := by
  induction earlier using List.reverseRecOn with
  | nil => exact .empty s
  | append_singleton earlier c ih =>
    rw [after_concat]
    exact (compileType_eq ih c).2.1

theorem outcome_eq_error {known : List Class} {c : Class} {e : Error} :
    outcome s c (firstFailure s known c) = .error e ↔ firstFailure s known c = some e := by
  cases hfirst : firstFailure s known c with
  | none =>
    obtain ⟨plan, hplan⟩ := plan_of_visit_eq_none hfirst
    simp [outcome, hplan]
  | some e' => simp [outcome]

/-- The outcomes of two searches differ exactly if their failures do. -/
theorem outcome_congr {known more : List Class} {c : Class} :
    outcome s c (firstFailure s more c) = outcome s c (firstFailure s known c) ↔
      firstFailure s more c = firstFailure s known c := by
  refine ⟨fun h => ?_, fun h => by rw [h]⟩
  refine Option.ext fun e => ?_
  rw [← outcome_eq_error, ← outcome_eq_error, h]

/-- The types that are kept are finished, as long as no class has failed. -/
theorem finished_after {earlier : List Class}
    (h : ∀ before b, before ++ [b] <+: earlier → ∃ plan, (compileType s b (after s before)).1 = .ok plan) :
    Finished s (keptTypes (after s earlier)) := by
  induction earlier using List.reverseRecOn with
  | nil => exact fun b hb => nomatch hb
  | append_singleton earlier c ih =>
    have hbefore := ih fun before b hcut => h before b (hcut.trans (List.prefix_append _ _))
    obtain ⟨houtcome, -, hkept⟩ := compileType_eq (settled_after s earlier) c
    rw [after_concat, hkept]
    refine hbefore.visit (Option.eq_none_iff_forall_ne_some.2 fun e he => ?_)
    obtain ⟨plan, hplan⟩ := h earlier c (List.prefix_refl _)
    rw [houtcome, outcome_eq_error.2 he] at hplan
    cases hplan

/-- Compiling a class after others. It has the same outcome as at first exactly if the search that stops at
the kept types fails as the one that stops nowhere does; it fails exactly if it reaches a type without a
plan past the kept ones. So it cannot fail if it does not at first, and nothing changes as long as nothing
has failed. -/
theorem compileType_after (s : Sources) (earlier : List Class) (c : Class) :
    ((compileType s c (after s earlier)).1 = (compileType s c {}).1 ↔
      firstFailure s (keptTypes (after s earlier)) c = firstFailure s [] c) ∧
    ((∃ e, (compileType s c (after s earlier)).1 = .error e) ↔
      ∃ b, Reaches s (keptTypes (after s earlier)) c b ∧ ∃ e, planFor s b = .error e) ∧
    ((∃ plan, (compileType s c {}).1 = .ok plan) →
      (compileType s c (after s earlier)).1 = (compileType s c {}).1) ∧
    ((∀ before b, before ++ [b] <+: earlier →
        ∃ plan, (compileType s b (after s before)).1 = .ok plan) →
      (compileType s c (after s earlier)).1 = (compileType s c {}).1) := by
  have hlater := (compileType_eq (settled_after s earlier) c).1
  have hfirst := (compileType_eq (Settled.empty s) c).1
  have hempty : keptTypes {} = [] := rfl
  rw [hempty] at hfirst
  rw [hlater, hfirst]
  refine ⟨outcome_congr, ?_, ?_, ?_⟩
  · simp only [outcome_eq_error]
    rw [← Option.isSome_iff_exists]
    exact firstFailure_isSome
  · rintro ⟨plan, hplan⟩
    have hnone : ¬(firstFailure s [] c).isSome := by
      rw [Option.isSome_iff_exists]
      rintro ⟨e, he⟩
      rw [outcome_eq_error.2 he] at hplan
      cases hplan
    -- What is kept only closes ways, so a search that finds nothing without it finds nothing with it.
    have hlater : ¬(firstFailure s (keptTypes (after s earlier)) c).isSome := by
      rw [firstFailure_isSome] at hnone ⊢
      rintro ⟨b, hreach, hb⟩
      exact hnone ⟨b, hreach.of_subset (List.nil_subset _), hb⟩
    rw [Option.not_isSome_iff_eq_none] at hnone hlater
    rw [hnone, hlater]
  · intro h
    rw [firstFailure_of_finished (finished_after h)]

end After

/-! ## A failure that is forgotten -/

/-- Three classes, each nested in the one before; the annotation of the last one cannot be resolved. -/
def chain : Sources where
  declarations :=
    { classes :=
        [{ declared := ⟨⟨"models", "Order"⟩, []⟩,
           annotations := [("item", .annotated (.classRef ⟨⟨"models", "Item"⟩, []⟩) [.nested])] },
         { declared := ⟨⟨"models", "Item"⟩, []⟩,
           annotations := [("price", .annotated (.classRef ⟨⟨"models", "Price"⟩, []⟩) [.nested])] },
         { declared := ⟨⟨"models", "Price"⟩, []⟩,
           annotations := [("currency", .reference "Currency")] }] }

/-- The first class fails when it is compiled for the first time, and does not when it is for the second. -/
theorem forgets_failure : ∃ e plan,
    (compileType chain ⟨⟨"models", "Order"⟩, []⟩ {}).1 = .error e ∧
    (compileType chain ⟨⟨"models", "Order"⟩, []⟩ (after chain [⟨⟨"models", "Order"⟩, []⟩])).1
      = .ok plan := by
  exact ⟨_, _, rfl, rfl⟩

end FieldRules.Plans
