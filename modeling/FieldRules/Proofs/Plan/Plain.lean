import FieldRules.Proofs.Entries
import FieldRules.Proofs.Plan.Members

/-!
# Plain declarations

Tags can be taken off the annotations of classes, and entries of a rule table can say what they say.

* `Tag.Alike` is what makes tags say the same of a field, and `FieldRule.ofTags` is an entry for tags
  (`FieldRule.alike_ofTags`);
* `Declarations.plain` takes the tags off. The hints keep their classes and are resolved as before, or fail as
  before (`Member.ownHints_plain`).
-/

namespace FieldRules

/-! ## Tags that say the same -/

/-- Tags that say the same of a field: its first rules, its constraints, its first label, whether its value is
validated as an object, and its first gate. -/
structure Tag.Alike (ts us : List Tag) : Prop where
  rules : Tag.rules? ts = Tag.rules? us
  constraints : Tag.constraints ts = Tag.constraints us
  label : Tag.label? ts = Tag.label? us
  nested : Tag.isNested ts = Tag.isNested us
  gate : Tag.gate? ts = Tag.gate? us

/-- Whether a tag says something of a field. -/
def Tag.counts : Tag → Bool
  | note _ => false
  | _ => true

theorem Tag.alike_nil {ts : List Tag} (h : ts.any Tag.counts = false) : Tag.Alike [] ts := by
  induction ts with
  | nil => exact ⟨rfl, rfl, rfl, rfl, rfl⟩
  | cons t ts ih =>
    rw [List.any_cons, Bool.or_eq_false_iff] at h
    obtain ⟨ht, hts⟩ := h
    cases t with
    | note v =>
      obtain ⟨hrules, hconstraints, hlabel, hnested, hgate⟩ := ih hts
      exact ⟨hrules, hconstraints, hlabel, hnested, hgate⟩
    | rules | constraint | label | nested | gate => cases ht

namespace FieldRule

/-- The entry for a field that says what tags say. -/
def ofTags (name : String) (ts : List Tag) : FieldRule where
  name := name
  rules? := Tag.rules? ts
  constraints := Tag.constraints ts
  label? := Tag.label? ts
  nested := Tag.isNested ts
  gate? := Tag.gate? ts

section Tags
variable (r : FieldRule)

theorem rules?_tags : Tag.rules? r.tags = r.rules? := by
  have hnone : r.constraints.findSome? (fun _ => (none : Option String)) = none :=
    List.findSome?_eq_none_iff.2 fun _ _ => rfl
  unfold tags Tag.rules?
  cases r.rules? <;> cases r.label? <;> cases r.nested <;> cases r.gate? <;>
    simp [List.findSome?_append, List.findSome?_map, Function.comp_def, hnone]

theorem constraints_tags : Tag.constraints r.tags = r.constraints := by
  unfold tags Tag.constraints
  cases r.rules? <;> cases r.label? <;> cases r.nested <;> cases r.gate? <;>
    simp [List.filterMap_append, List.filterMap_map]

theorem label?_tags : Tag.label? r.tags = r.label? := by
  have hnone : r.constraints.findSome? (fun _ => (none : Option String)) = none :=
    List.findSome?_eq_none_iff.2 fun _ _ => rfl
  unfold tags Tag.label?
  cases r.rules? <;> cases r.label? <;> cases r.nested <;> cases r.gate? <;>
    simp [List.findSome?_append, List.findSome?_map, Function.comp_def, hnone]

theorem isNested_tags : Tag.isNested r.tags = r.nested := by
  unfold tags Tag.isNested
  cases r.rules? <;> cases r.label? <;> cases r.nested <;> cases r.gate? <;>
    simp [List.any_append, List.any_map]

theorem gate?_tags : Tag.gate? r.tags = r.gate? := by
  have hnone : r.constraints.findSome? (fun _ => (none : Option Gate)) = none :=
    List.findSome?_eq_none_iff.2 fun _ _ => rfl
  unfold tags Tag.gate?
  cases r.rules? <;> cases r.label? <;> cases r.nested <;> cases r.gate? <;>
    simp [List.findSome?_append, List.findSome?_map, Function.comp_def, hnone]

end Tags

theorem alike_ofTags (name : String) (ts : List Tag) : Tag.Alike (ofTags name ts).tags ts :=
  ⟨rules?_tags _, constraints_tags _, label?_tags _, isNested_tags _, gate?_tags _⟩

end FieldRule

/-! ## Plain hints -/

namespace Hint

/-- The hint without the tags around it. -/
def bare : Hint → Hint
  | annotated h _ => h.bare
  | h => h

theorem tags_bare (h : Hint) : h.bare.tags = [] := by
  fun_induction bare h
  case case1 ih => exact ih
  case case2 h hother =>
    cases h with
    | annotated h ts => exact absurd rfl (hother h ts)
    | _ => rfl

theorem unwrap_annotated (h : Hint) (ts : List Tag) : (annotated h ts).unwrap = h.unwrap := by
  unfold unwrap
  rw [alternatives]
  rfl

/-- Tags do not change the class that a hint stands for. -/
theorem unwrap_bare (h : Hint) : h.bare.unwrap = h.unwrap := by
  fun_induction bare h
  case case1 ih => rw [ih, unwrap_annotated]
  case case2 => rfl

/-- Whether there are tags on the hint. -/
def isAnnotated : Hint → Bool
  | annotated .. => true
  | _ => false

theorem bare_eq_self {h : Hint} (hplain : h.isAnnotated = false) : h.bare = h := by
  cases h with
  | annotated h ts => cases hplain
  | _ => rfl

theorem tags_eq_nil {h : Hint} (hplain : h.isAnnotated = false) : h.tags = [] := by
  cases h with
  | annotated h ts => cases hplain
  | _ => rfl

theorem isAnnotated_eq_false {h : Hint} (hother : ∀ g ts, h ≠ annotated g ts) : h.isAnnotated = false := by
  cases h with
  | annotated g ts => exact absurd rfl (hother g ts)
  | _ => rfl

section Resolve
variable {find : String → Option Class} {h h' : Hint}

/-- A hint is resolved to one of the same form. -/
theorem form_resolve (hr : h.resolve find = .ok h') :
    h'.isAnnotated = h.isAnnotated ∧ h'.isClassVar = h.isClassVar := by
  cases h with
  | classRef c | literal words | typeVar =>
    cases hr
    exact ⟨rfl, rfl⟩
  | reference name =>
    rw [resolve] at hr
    split at hr
    · cases hr
      exact ⟨rfl, rfl⟩
    · cases hr
  | union | list | sequence | callable | annotated | classVar =>
    obtain ⟨g, -, rfl⟩ := exists_of_bind_pure hr
    exact ⟨rfl, rfl⟩
  | dict key item =>
    rw [resolve] at hr
    obtain ⟨key', -, hr⟩ := bind_eq_ok hr
    obtain ⟨g, -, rfl⟩ := exists_of_bind_pure hr
    exact ⟨rfl, rfl⟩

/-- Resolving leaves the tags alone. -/
theorem tags_resolve (hr : h.resolve find = .ok h') : h'.tags = h.tags := by
  fun_induction tags h generalizing h'
  case case1 g ts ih =>
    obtain ⟨g', hg, rfl⟩ := exists_of_bind_pure hr
    rw [tags, ih hg]
  case case2 h hother =>
    have hplain := isAnnotated_eq_false hother
    exact tags_eq_nil ((form_resolve hr).1.trans hplain)

/-- Tags can be taken off before or after resolving. -/
theorem resolve_bare (find : String → Option Class) (h : Hint) :
    h.bare.resolve find = (h.resolve find).map bare := by
  fun_induction bare h
  case case1 g ts ih =>
    rw [ih, resolve]
    cases g.resolve find <;> rfl
  case case2 h hother =>
    cases hr : h.resolve find with
    | error e => rfl
    | ok h' =>
      have hplain := (form_resolve hr).1.trans (isAnnotated_eq_false hother)
      rw [Except.map, bare_eq_self hplain]

end Resolve

/-- The hint of a field without its tags. An attribute of the class keeps the tags around it, without which it
would be no field. -/
def plain (h : Hint) : Hint :=
  if h.bare.isClassVar then h else h.bare

/-- Tags come off the hint of a field. -/
theorem plain_eq_bare {h : Hint} (hfield : h.bare.isClassVar = false) : h.plain = h.bare := by
  rw [plain, hfield, if_neg Bool.false_ne_true]

/-- Tags stay around the hint of an attribute of the class. -/
theorem plain_eq_self {h : Hint} (hvar : h.bare.isClassVar = true) : h.plain = h := by
  rw [plain, if_pos hvar]

theorem isClassVar_bare {h : Hint} (hvar : h.isClassVar = true) : h.bare.isClassVar = true := by
  cases h with
  | classVar g => rfl
  | _ => cases hvar

theorem isClassVar_plain (h : Hint) : h.plain.isClassVar = h.isClassVar := by
  cases hbare : h.bare.isClassVar with
  | true => rw [plain_eq_self hbare]
  | false =>
    rw [plain_eq_bare hbare, hbare]
    cases hvar : h.isClassVar with
    | true => exact absurd (isClassVar_bare hvar) (by rw [hbare]; exact Bool.false_ne_true)
    | false => rfl

theorem unwrap_plain (h : Hint) : h.plain.unwrap = h.unwrap := by
  unfold plain
  split
  · rfl
  · exact unwrap_bare h

/-- Tags can be taken off the hint of a field before or after resolving. -/
theorem resolve_plain (find : String → Option Class) (h : Hint) :
    h.plain.resolve find = (h.resolve find).map plain := by
  have hbare := resolve_bare find h
  cases hr : h.resolve find with
  | error e =>
    rw [hr] at hbare
    unfold plain
    split
    · exact hr
    · exact hbare
  | ok h' =>
    rw [hr] at hbare
    have hvar : h'.bare.isClassVar = h.bare.isClassVar := (form_resolve hbare).2
    rw [Except.map, plain, plain, hvar]
    split
    · exact hr
    · exact hbare

end Hint

/-! ## Plain declarations -/

/-- A field with the hint without tags. -/
def plainField (p : String × Hint) : String × Hint :=
  (p.1, p.2.plain)

namespace Declarations

/-- The declarations without the tags on annotations. -/
def plain (d : Declarations) : Declarations :=
  { d with classes := d.classes.map fun decl =>
      { decl with annotations := decl.annotations.map plainField } }

/-- Every class is declared once, with one annotation for a field. -/
structure WellFormed (d : Declarations) : Prop where
  classes : (d.classes.map fun decl => decl.declared.name).Nodup
  fields : ∀ decl ∈ d.classes, (decl.annotations.map Prod.fst).Nodup

/-- Whether a field is tagged; attributes of classes are no fields. -/
def isTagged (p : String × Hint) : Bool :=
  !p.2.bare.isClassVar && p.2.tags.any Tag.counts

/-- The entry for a field that says what its tags say. -/
def entry (p : String × Hint) : FieldRule :=
  .ofTags p.1 p.2.tags

/-- The entries for the tagged fields of a class. -/
def entries (d : Declarations) (type : TypeName) : List FieldRule :=
  ((d.annotations type).filter isTagged).map entry

section Plain
variable {d : Declarations}

theorem find?_plain (d : Declarations) (type : TypeName) :
    d.plain.find? type = (d.find? type).map fun decl =>
      { decl with annotations := decl.annotations.map plainField } := by
  unfold find? plain
  rw [List.find?_map]
  rfl

theorem annotations_plain (d : Declarations) (type : TypeName) :
    d.plain.annotations type = (d.annotations type).map plainField := by
  unfold annotations
  rw [find?_plain]
  cases d.find? type <;> rfl

theorem isTagged_plainField (p : String × Hint) : isTagged (plainField p) = false := by
  unfold isTagged plainField
  cases hvar : p.2.bare.isClassVar with
  | true =>
    rw [Hint.plain_eq_self hvar, hvar]
    rfl
  | false => rw [Hint.plain_eq_bare hvar, Hint.tags_bare, List.any_nil, Bool.and_false]

/-- No field of plain declarations is tagged. -/
theorem entries_plain (d : Declarations) (type : TypeName) : d.plain.entries type = [] := by
  have hnone : (d.plain.annotations type).filter isTagged = [] := by
    rw [annotations_plain, List.filter_map, List.map_eq_nil_iff, List.filter_eq_nil_iff]
    intro p _
    rw [Function.comp_apply, isTagged_plainField]
    exact Bool.false_ne_true
  rw [entries, hnone, List.map_nil]

theorem classNamed?_plain (d : Declarations) (home : String) :
    d.plain.classNamed? home = d.classNamed? home := by
  funext name
  unfold classNamed?
  rw [find?_plain, Option.map_map]
  rfl

theorem classAt_plain (d : Declarations) (c : Class) (type : TypeName) :
    Member.classAt d.plain c type = Member.classAt d c type := by
  unfold Member.classAt
  rw [find?_plain, Option.map_map]
  rfl

theorem WellFormed.nodup_annotations (h : d.WellFormed) (type : TypeName) :
    ((d.annotations type).map Prod.fst).Nodup := by
  unfold annotations
  cases hfind : d.find? type with
  | none => exact List.nodup_nil
  | some decl => exact h.fields decl (List.mem_of_find?_eq_some hfind)

end Plain

end Declarations

/-! ## Hints of plain declarations -/

theorem mapM_map_eq {ε α β : Type} {g g' : α → Except ε β} {f : α → α} {k : β → β}
    (h : ∀ x, g' (f x) = (g x).map k) (xs : List α) : (xs.map f).mapM g' = (xs.mapM g).map (List.map k) := by
  induction xs with
  | nil => rfl
  | cons x xs ih =>
    rw [List.map_cons, List.mapM_cons, List.mapM_cons, h, ih]
    cases g x with
    | error e => rfl
    | ok y => cases xs.mapM g <;> rfl

theorem discard_map {ε α : Type} (f : α → α) (x : Except ε α) :
    (discard (x.map f) : Except ε Unit) = discard x := by
  cases x <;> rfl

namespace Member

variable {d : Declarations}

theorem resolvedHints_plain (d : Declarations) (type : TypeName) :
    resolvedHints d.plain type = (resolvedHints d type).map (List.map plainField) := by
  unfold resolvedHints
  rw [Declarations.annotations_plain, Declarations.classNamed?_plain]
  refine mapM_map_eq (fun p => ?_) _
  rw [plainField, Hint.resolve_plain]
  cases p.2.resolve (d.classNamed? type.home) <;> rfl

theorem resolveAnnotations_plain (d : Declarations) (c : Class) :
    resolveAnnotations d.plain c = (resolveAnnotations d c).map (List.map plainField) := by
  have hall : ∀ names : List TypeName,
      (names.forM fun name => discard (resolvedHints d.plain name) : Except Fault Unit)
        = names.forM fun name => discard (resolvedHints d name) := by
    intro names
    congr 1
    funext name
    rw [resolvedHints_plain, discard_map]
  show (c.ancestors.reverse.forM fun name => discard (resolvedHints d.plain name)) >>=
      (fun _ => resolvedHints d.plain c.name) =
    ((c.ancestors.reverse.forM fun name => discard (resolvedHints d name)) >>=
      fun _ => resolvedHints d c.name).map (List.map plainField)
  rw [hall, resolvedHints_plain]
  cases (c.ancestors.reverse.forM fun name => discard (resolvedHints d name) : Except Fault Unit) <;> rfl

/-- Resolved hints belong to the annotations as they are written. -/
theorem forall₂_resolvedHints {type : TypeName} {hints : List (String × Hint)}
    (h : resolvedHints d type = .ok hints) : List.Forall₂ (fun p q => q.1 = p.1 ∧ q.2.tags = p.2.tags ∧
      q.2.isClassVar = p.2.isClassVar ∧ q.2.bare.isClassVar = p.2.bare.isClassVar) (d.annotations type) hints := by
  refine (forall₂_of_mapM_eq_ok h).imp fun p q hq => ?_
  obtain ⟨g, hg, rfl⟩ := exists_of_bind_pure hq
  refine ⟨rfl, Hint.tags_resolve hg, (Hint.form_resolve hg).2, ?_⟩
  have hbare : p.2.bare.resolve (d.classNamed? type.home) = .ok g.bare := by
    rw [Hint.resolve_bare, hg]
    rfl
  exact (Hint.form_resolve hbare).2

theorem ownHints_plain (d : Declarations) (c : Class) :
    ownHints d.plain c = (ownHints d c).map (List.map plainField) := by
  unfold ownHints
  rw [Declarations.annotations_plain, List.isEmpty_map, resolveAnnotations_plain]
  split
  · rfl
  · cases hresolved : resolveAnnotations d c with
    | error e => rfl
    | ok hints =>
      show Except.ok ((hints.map plainField).filter fun p => !p.2.isClassVar)
        = Except.ok ((hints.filter fun p => !p.2.isClassVar).map plainField)
      rw [List.filter_map]
      congr 2
      exact List.filter_congr fun q _ => congrArg (!·) (Hint.isClassVar_plain q.2)

end Member

end FieldRules
