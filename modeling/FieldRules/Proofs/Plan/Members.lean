import FieldRules.Plan.Compile
import FieldRules.Proofs.Entries
import Mathlib.Data.List.Induction
import Mathlib.Data.List.Nodup
import Mathlib.Tactic.Common

/-!
# What the fields of a class are

The fields of a class are put together declaration by declaration. `Member.fields_declared` says what is
true of the outcome: every name occurs once, and the tags of a field are those that `declaredTags` finds
for its key, so they do not depend on the class whose fields were asked for.
-/

namespace FieldRules

namespace Member

/-! ## Putting one member among others -/

theorem names_put (m : Member) (ms : List Member) :
    (put m ms).map name = if m.name ∈ ms.map name then ms.map name else ms.map name ++ [m.name] := by
  induction ms with
  | nil => rfl
  | cons n rest ih =>
    unfold put
    by_cases hn : n.name = m.name
    · simp [hn]
    · have hn' : m.name ≠ n.name := fun h => hn h.symm
      simp only [beq_eq_false_iff_ne.2 hn, Bool.false_eq_true, if_false, List.map_cons, ih,
        List.mem_cons, hn', false_or]
      split <;> rfl

theorem nodup_put {ms : List Member} (h : (ms.map name).Nodup) (m : Member) :
    ((put m ms).map name).Nodup := by
  rw [names_put]
  split
  · exact h
  · next hm =>
    rw [List.nodup_append]
    refine ⟨h, List.nodup_singleton _, ?_⟩
    intro a ha b hb hab
    rw [List.mem_singleton] at hb
    rw [hab, hb] at ha
    exact hm ha

/-- What stands among the members afterwards is the new one, or an old one with another name. -/
theorem mem_put {ms : List Member} (h : (ms.map name).Nodup) {m x : Member} (hx : x ∈ put m ms) :
    x = m ∨ (x ∈ ms ∧ x.name ≠ m.name) := by
  induction ms with
  | nil => exact .inl (List.mem_singleton.1 hx)
  | cons n rest ih =>
    rw [List.map_cons, List.nodup_cons] at h
    unfold put at hx
    split at hx
    · next hn =>
      rcases List.mem_cons.1 hx with hx | hx
      · exact .inl hx
      · refine .inr ⟨List.mem_cons_of_mem n hx, ?_⟩
        intro hname
        rw [← eq_of_beq hn] at hname
        exact h.1 (hname ▸ List.mem_map_of_mem hx)
    · next hn =>
      rcases List.mem_cons.1 hx with rfl | hx
      · exact .inr ⟨List.mem_cons_self .., fun hname => hn (beq_iff_eq.2 hname)⟩
      · rcases ih h.2 hx with rfl | ⟨hmem, hne⟩
        · exact .inl rfl
        · exact .inr ⟨List.mem_cons_of_mem n hmem, hne⟩

theorem eq_or_mem_of_mem_put {ms : List Member} {m x : Member} (hx : x ∈ put m ms) :
    x = m ∨ x ∈ ms := by
  induction ms with
  | nil => exact .inl (List.mem_singleton.1 hx)
  | cons n rest ih =>
    unfold put at hx
    split at hx
    · rcases List.mem_cons.1 hx with hx | hx
      · exact .inl hx
      · exact .inr (List.mem_cons_of_mem n hx)
    · rcases List.mem_cons.1 hx with rfl | hx
      · exact .inr (List.mem_cons_self ..)
      · exact (ih hx).imp_right (List.mem_cons_of_mem n)

/-! ## Putting declarations one after the other -/

section PutAll
variable {β : Type} (label : β → String) (f : β → List Member → Member)

/-- Puts what each declaration makes of the members before it. -/
def putAll (xs : List β) (known : List Member) : List Member :=
  xs.foldl (fun known x => put (f x known) known) known

theorem nodup_putAll {known : List Member} (h : (known.map name).Nodup) (xs : List β) :
    ((putAll f xs known).map name).Nodup := by
  induction xs generalizing known with
  | nil => exact h
  | cons x xs ih => exact ih (nodup_put h _)

/-- The last declaration of a name counts; without one the member is an old one. -/
theorem mem_putAll (hf : ∀ x known, (f x known).name = label x) {known : List Member}
    (h : (known.map name).Nodup) (xs : List β) {m : Member} (hm : m ∈ putAll f xs known) :
    (m ∈ known ∧ xs.reverse.find? (fun x => label x == m.name) = none) ∨
      ∃ x before, xs.reverse.find? (fun x => label x == m.name) = some x ∧ m = f x before := by
  induction xs using List.reverseRecOn with
  | nil => exact .inl ⟨hm, rfl⟩
  | append_singleton xs x ih =>
    have hlast : putAll f (xs ++ [x]) known = put (f x (putAll f xs known)) (putAll f xs known) := by
      simp [putAll, List.foldl_append]
    rw [hlast] at hm
    simp only [List.reverse_append, List.reverse_cons, List.reverse_nil, List.nil_append,
      List.singleton_append, List.find?_cons]
    -- the last declaration comes first in the reversed list, so it is found unless the names differ
    rcases mem_put (nodup_putAll f h xs) hm with rfl | ⟨hm, hne⟩
    · exact .inr ⟨x, putAll f xs known, by simp [hf], rfl⟩
    · rw [hf] at hne
      have hx : (label x == m.name) = false := beq_eq_false_iff_ne.2 hne.symm
      rw [hx]
      exact ih hm

/-- What holds of the old members and of each new one holds of all. -/
theorem forall_putAll {P : Member → Prop} {xs : List β} {known : List Member}
    (hf : ∀ x ∈ xs, ∀ before, (∀ m ∈ before, P m) → P (f x before)) (hknown : ∀ m ∈ known, P m) :
    ∀ m ∈ putAll f xs known, P m := by
  induction xs generalizing known with
  | nil => exact hknown
  | cons x xs ih =>
    refine ih (fun x' hx' => hf x' (List.mem_cons_of_mem x hx')) ?_
    intro m hm
    rcases eq_or_mem_of_mem_put hm with rfl | hm
    · exact hf x (List.mem_cons_self ..) known hknown
    · exact hknown m hm

end PutAll

/-! ## The declarations of one class -/

/-- The hints of a class with classes in the place of their names. -/
def resolvedHints (d : Declarations) (type : TypeName) : Except Fault (List (String × Hint)) :=
  (d.annotations type).mapM fun p => do return (p.1, ← p.2.resolve (d.classNamed? type.home))

/-- The hints that declare fields of a class; none if they cannot be resolved. -/
def fieldHints (d : Declarations) (type : TypeName) : List (String × Hint) :=
  match resolvedHints d type with
  | .ok hints => hints.filter fun p => !p.2.isClassVar
  | .error _ => []

/-- The ancestors are resolved too, but nothing is taken over from them. -/
theorem resolvedHints_of_resolveAnnotations {d : Declarations} {c : Class}
    {hints : List (String × Hint)} (h : resolveAnnotations d c = .ok hints) :
    resolvedHints d c.name = .ok hints := by
  change Except.bind _ (fun _ => resolvedHints d c.name) = _ at h
  unfold Except.bind at h
  split at h
  · cases h
  · exact h

theorem ownHints_eq {d : Declarations} {c : Class} {hints : List (String × Hint)}
    (h : ownHints d c = .ok hints) : hints = fieldHints d c.name := by
  unfold ownHints at h
  split at h
  · next hempty =>
    cases h
    unfold fieldHints resolvedHints
    rw [List.isEmpty_iff.1 hempty]
    rfl
  · split at h
    · next resolved hresolved =>
      cases h
      unfold fieldHints
      rw [resolvedHints_of_resolveAnnotations hresolved]
    · cases h

/-- The tags that the last declaration of a field in a class gives to it. An entry of the rule table
comes after the hints. -/
def declaredTags (d : Declarations) (table : RuleTable) : MemberKey → List Tag
  | .field owner field =>
    match (table.fields owner).reverse.find? fun r => r.name == field with
    | some r => r.tags
    | none =>
      match (fieldHints d owner).reverse.find? fun p => p.1 == field with
      | some p => p.2.tags
      | none => []
  | .parameter .. => []

/-- A member is a field with the tags of its declaration. -/
def Declared (d : Declarations) (table : RuleTable) (m : Member) : Prop :=
  m.tags = declaredTags d table m.key ∧ ∃ owner, m.key = .field owner m.name

section AddClass
variable {d : Declarations} {table : RuleTable} {c : Class} {known members : List Member}

/-- The members after a class: its hints are put first, then its entries in the rule table. -/
theorem addClass_eq (h : addClass d table known c = .ok members) :
    members = putAll (ofRule c) (table.fields c.name)
      (putAll (fun p _ => ofHint c p.1 p.2) (fieldHints d c.name) known) := by
  unfold addClass at h
  obtain ⟨hints, hown, rfl⟩ := exists_of_bind_pure h
  rw [ownHints_eq hown]
  rfl

theorem nodup_addClass (hknown : (known.map name).Nodup) (h : addClass d table known c = .ok members) :
    (members.map name).Nodup := by
  rw [addClass_eq h]
  exact nodup_putAll _ (nodup_putAll _ hknown _) _

theorem declared_addClass (hknown : (known.map name).Nodup) (hdecl : ∀ m ∈ known, Declared d table m)
    (h : addClass d table known c = .ok members) : ∀ m ∈ members, Declared d table m := by
  intro m hm
  rw [addClass_eq h] at hm
  have hhints := nodup_putAll (fun (p : String × Hint) _ => ofHint c p.1 p.2) hknown
    (fieldHints d c.name)
  -- the entries of the table were put last, so they are asked first
  rcases mem_putAll FieldRule.name (ofRule c) (fun _ _ => rfl) hhints _ hm with
    ⟨hm, hrule⟩ | ⟨r, before, hrule, rfl⟩
  · rcases mem_putAll Prod.fst (fun p _ => ofHint c p.1 p.2) (fun _ _ => rfl) hknown _ hm with
      ⟨hm, -⟩ | ⟨p, before, hhint, rfl⟩
    · exact hdecl m hm
    · refine ⟨?_, c.name, rfl⟩
      simp only [ofHint] at hrule hhint ⊢
      simp only [declaredTags, hrule, hhint]
  · refine ⟨?_, c.name, rfl⟩
    simp only [ofRule] at hrule ⊢
    simp only [declaredTags, hrule]

end AddClass

/-! ## All fields of a class -/

section Fields
variable {d : Declarations} {table : RuleTable}

/-- What holds at the start and is kept by every class holds at the end. -/
theorem foldlM_addClass_induction {P : List Member → Prop}
    (hstep : ∀ c known members, P known → addClass d table known c = .ok members → P members)
    (classes : List Class) {known members : List Member} (hknown : P known)
    (h : classes.foldlM (addClass d table) known = .ok members) : P members := by
  induction classes generalizing known with
  | nil =>
    cases h
    exact hknown
  | cons c rest ih =>
    rw [List.foldlM_cons] at h
    obtain ⟨next, hadd, h⟩ := bind_eq_ok h
    exact ih (hstep c known next hknown hadd) h

/-- Every field of a class occurs once, and its tags are those of its declaration. -/
theorem fields_declared {c : Class} {members : List Member} (h : fields d table c = .ok members) :
    (members.map name).Nodup ∧ ∀ m ∈ members, Declared d table m := by
  refine foldlM_addClass_induction
    (P := fun ms => (ms.map name).Nodup ∧ ∀ m ∈ ms, Declared d table m) ?_ _ ?_ h
  · intro c known members hknown hadd
    exact ⟨nodup_addClass hknown.1 hadd, declared_addClass hknown.1 hknown.2 hadd⟩
  · exact ⟨List.nodup_nil, by simp⟩

end Fields

end Member

end FieldRules
