import FieldRules.Proofs.Plan.Tagged

/-!
# Tables for tagged fields

Entries that are added to an empty table one after the other, in any order, make a table that has what the tags
of every class say, as long as there is one entry for every tagged field (`RuleTable.carries_addAll`).
-/

namespace FieldRules

namespace RuleTable

/-! ## Adding entries -/

theorem fields_cons (e : TypeName × List FieldRule) (t : RuleTable) (type : TypeName) :
    fields (e :: t) type = if type = e.1 then e.2 else t.fields type := by
  unfold fields
  rw [List.lookup_cons]
  by_cases h : type = e.1
  · rw [if_pos h, beq_iff_eq.2 h]
    rfl
  · rw [if_neg h, beq_eq_false_iff_ne.2 h]

theorem fields_add (t : RuleTable) (type : TypeName) (r : FieldRule) (other : TypeName) :
    (t.add type r).fields other = if other = type then putRule r (t.fields type) else t.fields other := by
  induction t with
  | nil => exact fields_cons ..
  | cons e t ih =>
    obtain ⟨first, rules⟩ := e
    rw [add]
    by_cases hfirst : first = type
    · subst hfirst
      rw [if_pos (beq_self_eq_true _), fields_cons, fields_cons, fields_cons, if_pos rfl]
      split <;> rfl
    · rw [if_neg (by simpa using hfirst), fields_cons, fields_cons, fields_cons, ih, if_neg (Ne.symm hfirst)]
      by_cases h : other = first
      · rw [if_pos h, if_pos h, if_neg (h ▸ hfirst)]
      · rw [if_neg h, if_neg h]

theorem putRule_of_new {r : FieldRule} {rules : List FieldRule} (h : r.name ∉ rules.map FieldRule.name) :
    putRule r rules = rules ++ [r] := by
  induction rules with
  | nil => rfl
  | cons q rules ih =>
    rw [List.map_cons, List.mem_cons, not_or] at h
    rw [putRule, if_neg (by simpa using Ne.symm h.1), ih h.2, List.cons_append]

/-- Adds entries for fields of types one after the other. -/
def addAll (es : List (TypeName × FieldRule)) (t : RuleTable) : RuleTable :=
  es.foldl (fun t e => t.add e.1 e.2) t

theorem addAll_append (es es' : List (TypeName × FieldRule)) (t : RuleTable) :
    addAll (es ++ es') t = addAll es' (addAll es t) :=
  List.foldl_append

theorem addAll_map (type : TypeName) (rules : List FieldRule) (t : RuleTable) :
    addAll (rules.map (Prod.mk type)) t = rules.foldl (fun t r => t.add type r) t :=
  List.foldl_map

/-- The field that an entry is for. -/
def target (e : TypeName × FieldRule) : TypeName × String :=
  (e.1, e.2.name)

/-- An entry for a field that has none is put behind those of its type. -/
theorem fields_add_of_new {t : RuleTable} {e : TypeName × FieldRule}
    (hnew : e.2.name ∉ (t.fields e.1).map FieldRule.name) (other : TypeName) :
    (t.add e.1 e.2).fields other = t.fields other ++ if other = e.1 then [e.2] else [] := by
  rw [fields_add]
  split
  · next h => rw [h, putRule_of_new hnew]
  · rw [List.append_nil]

/-- Entries for fields that have none are put behind those of their types. -/
theorem fields_addAll {es : List (TypeName × FieldRule)} {t : RuleTable} (hnodup : (es.map target).Nodup)
    (hnew : ∀ e ∈ es, e.2.name ∉ (t.fields e.1).map FieldRule.name) (type : TypeName) :
    (addAll es t).fields type = t.fields type ++ (es.filter fun e => e.1 == type).map Prod.snd := by
  induction es generalizing t with
  | nil => rw [List.filter_nil, List.map_nil, List.append_nil]; rfl
  | cons e es ih =>
    obtain ⟨hfirst, hnodup⟩ := List.nodup_cons.1 hnodup
    have hput := fields_add_of_new (hnew e (List.mem_cons_self ..))
    show (addAll es (t.add e.1 e.2)).fields type = _
    rw [ih hnodup, hput, List.append_assoc, List.filter_cons]
    · by_cases h : type = e.1
      · rw [if_pos h, if_pos (by simpa using h.symm)]
        rfl
      · rw [if_neg h, if_neg (by simpa using Ne.symm h)]
        rfl
    · -- the fields of the other entries have none after the first one either
      intro e' he'
      rw [hput, List.map_append, List.mem_append, not_or]
      refine ⟨hnew e' (List.mem_cons_of_mem _ he'), ?_⟩
      split
      · next h =>
        rw [List.map_singleton, List.mem_singleton]
        intro hname
        apply hfirst
        rw [show target e = target e' from Prod.ext h.symm hname.symm]
        exact List.mem_map_of_mem he'
      · exact List.not_mem_nil

end RuleTable

/-! ## Entries for tagged fields -/

/-- What comes from one of several different keys. -/
theorem filter_flatMap_pairs {κ α : Type} [DecidableEq κ] (f : κ → List α) {keys : List κ} (hnodup : keys.Nodup)
    (key : κ) : ((keys.flatMap fun k => (f k).map (Prod.mk k)).filter fun e => e.1 == key).map Prod.snd
      = if key ∈ keys then f key else [] := by
  induction keys with
  | nil => rfl
  | cons k keys ih =>
    obtain ⟨hfirst, hnodup⟩ := List.nodup_cons.1 hnodup
    rw [List.flatMap_cons, List.filter_append, List.map_append, ih hnodup, List.filter_map, List.map_map]
    by_cases h : k = key
    · subst h
      rw [if_neg hfirst, if_pos (List.mem_cons_self ..), List.append_nil, List.filter_eq_self.2 (by simp)]
      exact List.map_id _
    · rw [List.filter_eq_nil_iff.2 (by simpa using fun _ _ => h)]
      simp [Ne.symm h]

namespace Declarations

/-- The entries for all tagged fields, each with the class that it is for. -/
def registrations (d : Declarations) : List (TypeName × FieldRule) :=
  (d.classes.map fun decl => decl.declared.name).flatMap fun type => (d.entries type).map (Prod.mk type)

variable {d : Declarations}

theorem WellFormed.nodup_entries (h : d.WellFormed) (type : TypeName) :
    ((d.entries type).map FieldRule.name).Nodup := by
  unfold entries
  rw [List.map_map]
  exact (h.nodup_annotations type).sublist (List.filter_sublist.map Prod.fst)

theorem WellFormed.nodup_registrations (h : d.WellFormed) : (d.registrations.map RuleTable.target).Nodup := by
  unfold registrations
  rw [List.map_flatMap, List.nodup_flatMap]
  constructor
  · intro type _
    rw [List.map_map]
    have hnames := (h.nodup_entries type).map (f := Prod.mk type) fun _ _ hnames => (Prod.mk.inj hnames).2
    rwa [List.map_map] at hnames
  · refine h.classes.imp fun {type other} hne => List.disjoint_left.2 ?_
    intro key hkey hother
    simp only [List.map_map, List.mem_map] at hkey hother
    obtain ⟨r, -, rfl⟩ := hkey
    obtain ⟨q, -, hq⟩ := hother
    exact hne (Prod.mk.inj hq).1.symm

/-- A class that is not declared has no tagged fields. -/
theorem entries_of_undeclared {type : TypeName} (h : type ∉ d.classes.map fun decl => decl.declared.name) :
    d.entries type = [] := by
  have hnone : d.find? type = none := by
    unfold find?
    rw [List.find?_eq_none]
    intro decl hdecl heq
    exact h (List.mem_map.2 ⟨decl, hdecl, eq_of_beq heq⟩)
  unfold entries annotations
  rw [hnone]
  rfl

theorem registrations_plain (d : Declarations) : d.plain.registrations = [] := by
  unfold registrations
  rw [List.flatMap_eq_nil_iff]
  intro type _
  rw [entries_plain, List.map_nil]

end Declarations

/-- **A table for tagged fields.** Entries for all tagged fields, added in any order, make a table that has what
the tags say. -/
theorem RuleTable.carries_addAll {d : Declarations} (hd : d.WellFormed) {es : List (TypeName × FieldRule)}
    (h : es.Perm d.registrations) : (addAll es []).Carries d := by
  intro type
  have hnodup : (es.map target).Nodup := ((h.map target).nodup_iff).2 hd.nodup_registrations
  rw [fields_addAll hnodup fun _ _ => List.not_mem_nil]
  have hentries : ((d.registrations.filter fun e => e.1 == type).map Prod.snd) = d.entries type := by
    rw [Declarations.registrations, filter_flatMap_pairs d.entries hd.classes]
    split
    · rfl
    · next hnone => rw [Declarations.entries_of_undeclared hnone]
  rw [← hentries]
  exact (h.filter _).map Prod.snd

end FieldRules
