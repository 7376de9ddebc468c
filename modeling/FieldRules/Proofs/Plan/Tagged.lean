import FieldRules.Proofs.Plan.Closure
import FieldRules.Proofs.Plan.History
import FieldRules.Proofs.Plan.Plain

/-!
# Fields that are tagged in one way or the other

Tags can stand in the annotation of a field, or an entry of a rule table can stand for them while the annotation
is plain. The entry is put in the place of the field and keeps its type, so the fields of a class come out alike:
in the same order, and with tags that say the same (`Member.fields_plain`). What is compiled from alike fields is
the same (`Plans.planOf_plain`), with the types nested in them and whatever has been compiled before
(`Plans.compileType_plain`).
-/

namespace FieldRules

namespace Member

/-! ## Members under their names -/

/-- The member with a name. -/
def named? (ms : List Member) (n : String) : Option Member :=
  ms.find? fun m => m.name == n

theorem named?_put (m : Member) (ms : List Member) (n : String) :
    named? (put m ms) n = if m.name = n then some m else named? ms n := by
  unfold named?
  induction ms with
  | nil => by_cases hn : m.name = n <;> simp [put, hn]
  | cons x ms ih =>
    unfold put
    by_cases hx : x.name = m.name
    · rw [if_pos (by simpa using hx), List.find?_cons, List.find?_cons, hx]
      by_cases hn : m.name = n
      · simp [hn]
      · rw [if_neg hn, beq_eq_false_iff_ne.2 hn]
    · rw [if_neg (by simpa using hx), List.find?_cons, List.find?_cons, ih]
      by_cases hn : m.name = n
      · have hxn : x.name ≠ n := fun h => hx (h.trans hn.symm)
        rw [beq_eq_false_iff_ne.2 hxn, if_pos hn]
      · simp [hn]

theorem name_of_named? {ms : List Member} {n : String} {m : Member} (h : named? ms n = some m) :
    m.name = n := by
  simpa using List.find?_some (p := fun m : Member => m.name == n) h

/-- Members in the same order are related if those of the same name are. -/
theorem forall₂_of_named? {R : Member → Member → Prop} {ms ms' : List Member}
    (hnames : ms.map name = ms'.map name) (hnodup : (ms.map name).Nodup)
    (h : ∀ n m m', named? ms n = some m → named? ms' n = some m' → R m m') : List.Forall₂ R ms ms' := by
  induction ms generalizing ms' with
  | nil =>
    rw [List.map_nil, eq_comm, List.map_eq_nil_iff] at hnames
    rw [hnames]
    exact .nil
  | cons m ms ih =>
    cases ms' with
    | nil => cases hnames
    | cons m' ms' =>
      rw [List.map_cons, List.map_cons] at hnames
      obtain ⟨hname, htail⟩ := List.cons.inj hnames
      rw [List.map_cons, List.nodup_cons] at hnodup
      refine .cons (h m.name m m' (by simp [named?]) (by simp [named?, hname])) (ih htail hnodup.2 ?_)
      intro n x x' hx hx'
      -- the first names do not occur again
      have hmem : n ∈ ms.map name := by
        rw [← name_of_named? hx]
        exact List.mem_map_of_mem (List.mem_of_find?_eq_some hx)
      have hne : m.name ≠ n := fun heq => hnodup.1 (heq ▸ hmem)
      refine h n x x' ?_ ?_
      · rw [named?, List.find?_cons, beq_eq_false_iff_ne.2 hne]
        exact hx
      · rw [named?, List.find?_cons, beq_eq_false_iff_ne.2 (hname ▸ hne)]
        exact hx'

/-- Related members of the same name are found under it. -/
theorem named?_of_forall₂ {R : Member → Member → Prop} {ms ms' : List Member} (h : List.Forall₂ R ms ms')
    (hname : ∀ m m', R m m' → m'.name = m.name) {n : String} {m m' : Member} (hm : named? ms n = some m)
    (hm' : named? ms' n = some m') : R m m' := by
  induction h with
  | nil => cases hm
  | @cons x x' ms ms' hx _ ih =>
    rw [named?, List.find?_cons] at hm hm'
    rw [hname x x' hx] at hm'
    cases hn : x.name == n with
    | true =>
      rw [hn] at hm hm'
      cases hm
      cases hm'
      exact hx
    | false =>
      rw [hn] at hm hm'
      exact ih hm hm'

section PutAll
variable {β γ : Type} (label : β → String) (label' : γ → String)
variable {f : β → List Member → Member} {g : γ → List Member → Member}

/-- The names after declarations depend on the names that are declared only. -/
theorem names_putAll_congr (hf : ∀ x known, (f x known).name = label x)
    (hg : ∀ y known, (g y known).name = label' y) {xs : List β} {ys : List γ} {known known' : List Member}
    (hlabels : xs.map label = ys.map label') (hknown : known.map name = known'.map name) :
    (putAll f xs known).map name = (putAll g ys known').map name := by
  induction xs generalizing ys known known' with
  | nil =>
    rw [List.map_nil, eq_comm, List.map_eq_nil_iff] at hlabels
    rw [hlabels]
    exact hknown
  | cons x xs ih =>
    cases ys with
    | nil => cases hlabels
    | cons y ys =>
      rw [List.map_cons, List.map_cons] at hlabels
      obtain ⟨hlabel, hrest⟩ := List.cons.inj hlabels
      have hput : (put (f x known) known).map name = (put (g y known') known').map name := by
        rw [names_put, names_put, hf, hg, hlabel, hknown]
      show (putAll f xs (put (f x known) known)).map name = (putAll g ys (put (g y known') known')).map name
      exact ih hrest hput

/-- Declarations of names that are there leave the names alone. -/
theorem names_putAll_of_subset (hf : ∀ x known, (f x known).name = label x) {xs : List β}
    {known : List Member} (h : ∀ x ∈ xs, label x ∈ known.map name) :
    (putAll f xs known).map name = known.map name := by
  induction xs generalizing known with
  | nil => rfl
  | cons x xs ih =>
    have hput : (put (f x known) known).map name = known.map name := by
      rw [names_put, hf, if_pos (h x (List.mem_cons_self ..))]
    refine (ih fun x' hx' => ?_).trans hput
    rw [hput]
    exact h x' (List.mem_cons_of_mem x hx')

end PutAll

/-- The member with a name after the hints of a class: that of the hint, if there is one. -/
theorem named?_putHints (c : Class) {hints : List (String × Hint)} (hnodup : (hints.map Prod.fst).Nodup)
    (known : List Member) (n : String) :
    named? (putAll (fun p _ => ofHint c p.1 p.2) hints known) n = match hints.lookup n with
      | some h => some (ofHint c n h)
      | none => named? known n := by
  induction hints generalizing known with
  | nil => rfl
  | cons p hints ih =>
    obtain ⟨k, h⟩ := p
    rw [List.map_cons, List.nodup_cons] at hnodup
    refine (ih hnodup.2 (put (ofHint c k h) known)).trans ?_
    rw [named?_put, List.lookup_cons]
    by_cases hk : n = k
    · subst hk
      have hnone : hints.lookup n = none := by
        rw [List.lookup_eq_none_iff]
        intro q hq
        rw [bne_iff_ne]
        intro heq
        apply hnodup.1
        exact List.mem_map.2 ⟨q, hq, heq.symm⟩
      simp [hnone, ofHint]
    · have hk' : ¬(ofHint c k h).name = n := fun heq => hk heq.symm
      rw [beq_eq_false_iff_ne.2 hk, if_neg hk']

/-- An entry looks at the member with its name only. -/
theorem ofRule_congr (c : Class) {r : FieldRule} {known known' : List Member}
    (h : named? known r.name = named? known' r.name) : ofRule c r known = ofRule c r known' := by
  unfold named? at h
  unfold ofRule
  rw [h]

/-- The member with a name after the entries for a class: that of the entry, if there is one. -/
theorem named?_putRules (c : Class) {rules : List FieldRule} (hnodup : (rules.map FieldRule.name).Nodup)
    (known : List Member) (n : String) :
    named? (putAll (ofRule c) rules known) n = match rules.find? fun r => r.name == n with
      | some r => some (ofRule c r known)
      | none => named? known n := by
  induction rules generalizing known with
  | nil => rfl
  | cons r rules ih =>
    -- an entry looks at its own field only, which the entries in front of it leave alone
    rw [List.map_cons, List.nodup_cons] at hnodup
    refine (ih hnodup.2 (put (ofRule c r known) known)).trans ?_
    have hput := fun n => named?_put (ofRule c r known) known n
    rw [List.find?_cons, hput]
    by_cases hn : r.name = n
    · have hnone : (rules.find? fun q => q.name == n) = none := by
        rw [List.find?_eq_none]
        intro q hq heq
        apply hnodup.1
        rw [hn, ← eq_of_beq heq]
        exact List.mem_map_of_mem hq
      simp [hnone, hn, ofRule]
    · have hn' : ¬(ofRule c r known).name = n := hn
      rw [beq_eq_false_iff_ne.2 hn, if_neg hn']
      cases hfind : rules.find? fun q => q.name == n with
      | none => rfl
      | some q =>
        have hq : q.name = n := by
          simpa using List.find?_some (p := fun q : FieldRule => q.name == n) hfind
        refine congrArg some (ofRule_congr c ?_)
        rw [hput, hq, if_neg hn']

/-! ## Fields that are alike -/

/-- A member that differs from another one in its tags only, and these say the same. -/
structure Alike (m m' : Member) : Prop where
  same : m' = { m with tags := m'.tags }
  tags : Tag.Alike m'.tags m.tags

theorem Alike.name_eq {m m' : Member} (h : Alike m m') : m'.name = m.name := by
  rw [h.same]

end Member

/-- A table that has the entries for the tagged fields of every class, in any order. -/
def RuleTable.Carries (table : RuleTable) (d : Declarations) : Prop :=
  ∀ type, (table.fields type).Perm (d.entries type)

namespace Member

variable {d : Declarations} {table : RuleTable}

theorem nodup_fieldHints (hd : d.WellFormed) (type : TypeName) :
    ((fieldHints d type).map Prod.fst).Nodup := by
  unfold fieldHints
  cases hresolved : resolvedHints d type with
  | error e => exact List.nodup_nil
  | ok hints =>
    have hkeys : (d.annotations type).map Prod.fst = hints.map Prod.fst := by
      rw [← List.forall₂_eq_eq_eq, List.forall₂_map_left_iff, List.forall₂_map_right_iff]
      exact (forall₂_resolvedHints hresolved).imp fun p q h => h.1.symm
    refine List.Nodup.sublist (List.filter_sublist.map Prod.fst) ?_
    rw [← hkeys]
    exact hd.nodup_annotations type

/-- The entries for a class are made from its fields, with the tags on their hints. -/
theorem entries_eq {type : TypeName} {hints : List (String × Hint)} (h : resolvedHints d type = .ok hints) :
    d.entries type = ((fieldHints d type).filter Declarations.isTagged).map Declarations.entry := by
  have hforall := forall₂_resolvedHints h
  unfold Declarations.entries fieldHints
  rw [h]
  dsimp only
  generalize d.annotations type = written at hforall
  clear h
  induction hforall with
  | nil => rfl
  | @cons p q ps qs hpq _ ih =>
    obtain ⟨hname, htags, hvar, hbare⟩ := hpq
    have htagged : Declarations.isTagged q = Declarations.isTagged p := by
      rw [Declarations.isTagged, Declarations.isTagged, hbare, htags]
    have hentry : Declarations.entry q = Declarations.entry p := by
      rw [Declarations.entry, Declarations.entry, hname, htags]
    rw [List.filter_cons, List.filter_cons, hvar]
    cases hp : p.2.isClassVar with
    | true =>
      -- An attribute of the class is no field, and its tags make no entry either.
      have hfalse : Declarations.isTagged p = false := by
        rw [Declarations.isTagged, Hint.isClassVar_bare hp]
        rfl
      rw [hfalse, if_neg Bool.false_ne_true, Bool.not_true, if_neg Bool.false_ne_true, ih]
    | false =>
      rw [Bool.not_false, if_pos rfl, List.filter_cons, htagged]
      cases Declarations.isTagged p with
      | true => rw [if_pos rfl, if_pos rfl, List.map_cons, List.map_cons, hentry, ih]
      | false => rw [if_neg Bool.false_ne_true, if_neg Bool.false_ne_true, ih]

/-- Looking up a plain field gives the hint that is there, made plain. -/
theorem lookup_plainField (hints : List (String × Hint)) (n : String) :
    (hints.map plainField).lookup n = (hints.lookup n).map Hint.plain := by
  induction hints with
  | nil => rfl
  | cons p hints ih =>
    rw [List.map_cons, plainField, List.lookup_cons, List.lookup_cons, ih]
    cases n == p.1 <;> rfl

section AddClass
variable {c : Class} {known known' : List Member} {hints : List (String × Hint)} {rules : List FieldRule}

/-- The entries are those for the fields with tags. -/
theorem mem_entries_iff (hrules : rules.Perm ((hints.filter Declarations.isTagged).map Declarations.entry))
    {r : FieldRule} : r ∈ rules ↔
      ∃ h, (r.name, h) ∈ hints ∧ Declarations.isTagged (r.name, h) = true ∧ .ofTags r.name h.tags = r := by
  rw [hrules.mem_iff, List.mem_map]
  constructor
  · rintro ⟨⟨k, h⟩, hp, rfl⟩
    obtain ⟨hp, htagged⟩ := List.mem_filter.1 hp
    exact ⟨h, hp, htagged, rfl⟩
  · rintro ⟨h, hp, htagged, hr⟩
    exact ⟨(r.name, h), List.mem_filter.2 ⟨hp, htagged⟩, hr⟩

/-- The entry for a field that has one is found under the name of the field. -/
theorem find?_entries (hnodup : (hints.map Prod.fst).Nodup)
    (hrules : rules.Perm ((hints.filter Declarations.isTagged).map Declarations.entry)) (n : String) :
    rules.find? (fun r => r.name == n) = match hints.lookup n with
      | some h => if Declarations.isTagged (n, h) then some (.ofTags n h.tags) else none
      | none => none := by
  cases hfind : rules.find? fun r => r.name == n with
  | some r =>
    have hname : r.name = n := by
      simpa using List.find?_some (p := fun r : FieldRule => r.name == n) hfind
    obtain ⟨h, hp, htagged, hr⟩ := (mem_entries_iff hrules).1 (List.mem_of_find?_eq_some hfind)
    rw [hname] at hp htagged hr
    rw [(lookup_eq_some_iff_mem hnodup).2 hp]
    dsimp only
    rw [if_pos htagged, hr]
  | none =>
    cases hlookup : hints.lookup n with
    | none => rfl
    | some h =>
      dsimp only
      split
      · next htagged =>
        have hr : FieldRule.ofTags n h.tags ∈ rules :=
          (mem_entries_iff hrules).2 ⟨h, (lookup_eq_some_iff_mem hnodup).1 hlookup, htagged, rfl⟩
        have hne := List.find?_eq_none.1 hfind _ hr
        simp [FieldRule.ofTags] at hne
      · rfl

/-- The field that an annotation declares is alike, whether tags stand on its hint or not, as long as the tags of
the other one say the same. -/
theorem alike_ofHint (c : Class) (n : String) (h : Hint) {tags : List Tag} (htags : Tag.Alike tags h.tags) :
    Alike (ofHint c n h) { ofHint c n h.plain with tags := tags } where
  same := by simp only [ofHint, Hint.unwrap_plain]
  tags := htags

/-- A field without tags of its own is alike when its hint is made plain. -/
theorem alike_plain (c : Class) (n : String) {h : Hint} (htagged : ¬Declarations.isTagged (n, h)) :
    Alike (ofHint c n h) (ofHint c n h.plain) := by
  cases hvar : h.bare.isClassVar with
  | true =>
    rw [Hint.plain_eq_self hvar]
    exact ⟨rfl, rfl, rfl, rfl, rfl, rfl⟩
  | false =>
    have hcounts : h.tags.any Tag.counts = false := by
      rw [Declarations.isTagged, hvar] at htagged
      simpa using htagged
    have halike := alike_ofHint c n h (Tag.alike_nil hcounts)
    rwa [← Hint.tags_bare h, ← Hint.plain_eq_bare hvar] at halike

/-- The entry for a hint keeps the type of the field that stands in its place. -/
theorem ofRule_ofTags {n : String} {h : Hint} (hthere : named? known n = some (ofHint c n h.plain)) :
    ofRule c (.ofTags n h.tags) known = { ofHint c n h.plain with tags := (FieldRule.ofTags n h.tags).tags } := by
  unfold named? at hthere
  simp only [ofRule, FieldRule.ofTags, hthere]
  rfl

/-- The plain hints name the fields, in the same order. -/
theorem nodup_plainField (hnodup : (hints.map Prod.fst).Nodup) : ((hints.map plainField).map Prod.fst).Nodup := by
  rw [List.map_map]
  exact hnodup

theorem nodup_names_entries (hnodup : (hints.map Prod.fst).Nodup)
    (hrules : rules.Perm ((hints.filter Declarations.isTagged).map Declarations.entry)) :
    (rules.map FieldRule.name).Nodup := by
  rw [(hrules.map FieldRule.name).nodup_iff, List.map_map]
  exact hnodup.sublist (List.filter_sublist.map Prod.fst)

theorem named?_putPlain (c : Class) (known : List Member) (hnodup : (hints.map Prod.fst).Nodup)
    (n : String) : named? (putAll (fun p _ => ofHint c p.1 p.2) (hints.map plainField) known) n
      = match (hints.lookup n).map Hint.plain with
        | some h => some (ofHint c n h)
        | none => named? known n := by
  rw [named?_putHints c (nodup_plainField hnodup), lookup_plainField]

/-- Every entry is for a field that a plain hint declares. -/
theorem name_mem_putPlain (c : Class) (hnodup : (hints.map Prod.fst).Nodup)
    (hrules : rules.Perm ((hints.filter Declarations.isTagged).map Declarations.entry)) {r : FieldRule}
    (hr : r ∈ rules) :
    r.name ∈ (putAll (fun p _ => ofHint c p.1 p.2) (hints.map plainField) known).map name := by
  obtain ⟨h, hp, -, -⟩ := (mem_entries_iff hrules).1 hr
  have hfound := named?_putPlain c known hnodup r.name
  rw [(lookup_eq_some_iff_mem hnodup).2 hp] at hfound
  exact List.mem_map.2 ⟨_, List.mem_of_find?_eq_some hfound, rfl⟩

/-- The fields that a class adds come out alike, whether the tags stand in its hints or in the entries for it. -/
theorem alike_putAll (hnodup : (hints.map Prod.fst).Nodup)
    (hrules : rules.Perm ((hints.filter Declarations.isTagged).map Declarations.entry))
    (hknown : (known.map name).Nodup) (halike : List.Forall₂ Alike known known') :
    List.Forall₂ Alike (putAll (fun p _ => ofHint c p.1 p.2) hints known)
      (putAll (ofRule c) rules (putAll (fun p _ => ofHint c p.1 p.2) (hints.map plainField) known')) := by
  have hknownNames : known.map name = known'.map name := by
    rw [← List.forall₂_eq_eq_eq, List.forall₂_map_left_iff, List.forall₂_map_right_iff]
    exact halike.imp fun m m' h => h.name_eq.symm
  have hhintNames : (putAll (fun p _ => ofHint c p.1 p.2) hints known).map name
      = (putAll (fun p _ => ofHint c p.1 p.2) (hints.map plainField) known').map name := by
    refine names_putAll_congr Prod.fst Prod.fst (fun _ _ => rfl) (fun _ _ => rfl) ?_ hknownNames
    rw [List.map_map]
    rfl
  -- the names stand in the same order, so that it is enough to compare the fields of one name
  refine forall₂_of_named? ?_ (nodup_putAll _ hknown _) fun n m m' hm hm' => ?_
  · rw [hhintNames]
    exact (names_putAll_of_subset FieldRule.name (fun _ _ => rfl) fun r => name_mem_putPlain c hnodup hrules).symm
  · rw [named?_putHints c hnodup] at hm
    rw [named?_putRules c (nodup_names_entries hnodup hrules), find?_entries hnodup hrules] at hm'
    have hplain := named?_putPlain c known' hnodup n
    cases hlookup : hints.lookup n with
    | none =>
      rw [hlookup] at hm hm' hplain
      exact named?_of_forall₂ halike (fun _ _ h => h.name_eq) hm (hplain.symm.trans hm')
    | some h =>
      rw [hlookup] at hm hm' hplain
      cases hm
      dsimp only [Option.map_some] at hm' hplain
      by_cases htagged : Declarations.isTagged (n, h)
      · rw [if_pos htagged] at hm'
        cases hm'
        rw [ofRule_ofTags hplain]
        exact alike_ofHint c n h (FieldRule.alike_ofTags n h.tags)
      · rw [if_neg htagged] at hm'
        rw [hplain] at hm'
        cases hm'
        exact alike_plain c n htagged

/-- Two ways to the fields of a class: both fail in the same way, or both give fields that are alike. -/
inductive Agree : Except SetupError (List Member) → Except SetupError (List Member) → Prop
  | error (e : SetupError) : Agree (.error e) (.error e)
  | ok {ms ms' : List Member} : (ms.map name).Nodup → List.Forall₂ Alike ms ms' → Agree (.ok ms) (.ok ms')

theorem agree_addClass (hd : d.WellFormed) (htable : table.Carries d) (hknown : (known.map name).Nodup)
    (halike : List.Forall₂ Alike known known') (c : Class) :
    Agree (addClass d [] known c) (addClass d.plain table known' c) := by
  have hplain := ownHints_plain d c
  cases hown : ownHints d c with
  | error e =>
    rw [hown] at hplain
    rw [addClass, addClass, hown, hplain]
    exact .error e
  | ok hints =>
    have hhints := ownHints_eq hown
    rw [hown] at hplain
    have hleft : addClass d [] known c = .ok (putAll (fun p _ => ofHint c p.1 p.2) hints known) := by
      rw [addClass, hown]
      rfl
    have hright : addClass d.plain table known' c = .ok (putAll (ofRule c) (table.fields c.name)
        (putAll (fun p _ => ofHint c p.1 p.2) (hints.map plainField) known')) := by
      rw [addClass, hplain]
      rfl
    rw [hleft, hright]
    refine .ok (nodup_putAll _ hknown _) (alike_putAll ?_ ?_ hknown halike)
    · rw [hhints]
      exact nodup_fieldHints hd c.name
    · refine (htable c.name).trans ?_
      -- a class without annotations has no entries, and its hints are not resolved
      by_cases hempty : d.annotations c.name = []
      · have hnone : hints = [] := by
          rw [ownHints, hempty] at hown
          cases hown
          rfl
        rw [Declarations.entries, hempty, hnone]
      · rw [ownHints, if_neg (by simpa using hempty)] at hown
        cases hresolved : resolveAnnotations d c with
        | error e =>
          rw [hresolved] at hown
          cases hown
        | ok resolved =>
          rw [entries_eq (resolvedHints_of_resolveAnnotations hresolved), hhints]

end AddClass

/-- **The fields of a class come out alike**, or cannot be found for the same reason, whether tags stand in
annotations or in the entries of a table beside plain annotations. -/
theorem fields_plain (hd : d.WellFormed) (htable : table.Carries d) (c : Class) :
    Agree (fields d [] c) (fields d.plain table c) := by
  unfold fields
  rw [show classAt d.plain c = classAt d c from funext (Declarations.classAt_plain d c)]
  generalize c.lineage.reverse.map (classAt d c) = classes
  suffices hall : ∀ known known', (known.map name).Nodup → List.Forall₂ Alike known known' →
      Agree (classes.foldlM (addClass d []) known) (classes.foldlM (addClass d.plain table) known') from
    hall [] [] List.nodup_nil .nil
  induction classes with
  | nil => exact fun known known' hknown halike => .ok hknown halike
  | cons c classes ih =>
    intro known known' hknown halike
    have hfirst := agree_addClass hd htable hknown halike c
    rw [List.foldlM_cons, List.foldlM_cons]
    generalize addClass d [] known c = r at hfirst
    generalize addClass d.plain table known' c = r' at hfirst
    cases hfirst with
    | error e => exact .error e
    | ok hnodup halike' => exact ih _ _ hnodup halike'

end Member

/-! ## Compiling fields that are alike -/

namespace Plans

open Cache

/-- Where nothing but the tags of a member differs and these say the same, compiling it is the same. -/
theorem compileField_alike {m m' : Member} (h : Member.Alike m m') (strict : Bool) (c : Class) :
    compileField strict c m' = compileField strict c m := by
  obtain ⟨hsame, hrules, hconstraints, hlabel, hnested, hgate⟩ := h
  rw [hsame]
  unfold compileField compileMember tagFragments elementOf labelOf
  simp only [hrules, hconstraints, hlabel, hnested, hgate]

variable {d : Declarations} {table : RuleTable} {strict : Bool}

/-- Compiling a class without the types nested in it is the same on both ways, whatever has been compiled. -/
theorem compilePlan_plain (hd : d.WellFormed) (htable : table.Carries d) (c : Class) :
    compilePlan ⟨strict, d.plain, table⟩ c = compilePlan ⟨strict, d, []⟩ c := by
  unfold compilePlan
  have hfields := Member.fields_plain hd htable c
  generalize Member.fields d [] c = r at hfields ⊢
  generalize Member.fields d.plain table c = r' at hfields ⊢
  cases hfields with
  | error e => rfl
  | @ok ms ms' hnodup halike =>
    have helements : ms'.mapM (compileField strict c) = ms.mapM (compileField strict c) := by
      clear hnodup
      induction halike with
      | nil => rfl
      | cons h _ ih => rw [List.mapM_cons, List.mapM_cons, compileField_alike h, ih]
    show (ms'.mapM (compileField strict c) >>= _) = (ms.mapM (compileField strict c) >>= _)
    rw [helements]

/-- A request for a plan is the same on both ways. -/
theorem planOf_plain (hd : d.WellFormed) (htable : table.Carries d) (c : Class) :
    planOf ⟨strict, d.plain, table⟩ c = planOf ⟨strict, d, []⟩ c := by
  unfold planOf
  rw [compilePlan_plain hd htable]

theorem compileTypeWithin_plain (hd : d.WellFormed) (htable : table.Carries d) (depth : Nat) (c : Class) :
    compileTypeWithin ⟨strict, d.plain, table⟩ depth c = compileTypeWithin ⟨strict, d, []⟩ depth c := by
  induction depth generalizing c with
  | zero => exact planOf_plain hd htable c
  | succ depth ih =>
    unfold compileTypeWithin
    simp only [planOf_plain hd htable, ih]

/-- Compiling a class is the same on both ways. How deep they go at most may not be the same, which changes
nothing. -/
theorem compileType_plain (hd : d.WellFormed) (htable : table.Carries d) {p : Plans}
    (hplain : Settled ⟨strict, d.plain, table⟩ p) (htagged : Settled ⟨strict, d, []⟩ p) (c : Class) :
    compileType ⟨strict, d.plain, table⟩ c p = compileType ⟨strict, d, []⟩ c p := by
  let depth := max (fieldCount ⟨strict, d.plain, table⟩) (fieldCount ⟨strict, d, []⟩)
  calc compileType ⟨strict, d.plain, table⟩ c p
      = compileTypeWithin ⟨strict, d.plain, table⟩ depth c p :=
        (compileTypeWithin_eq rfl (follows_empty_iff.2 hplain) (Nat.le_max_left ..) c).symm
    _ = compileTypeWithin ⟨strict, d, []⟩ depth c p := by rw [compileTypeWithin_plain hd htable]
    _ = compileType ⟨strict, d, []⟩ c p :=
        compileTypeWithin_eq rfl (follows_empty_iff.2 htagged) (Nat.le_max_right ..) c

/-- What has been compiled is the same on both ways, whatever was asked for. -/
theorem after_plain (hd : d.WellFormed) (htable : table.Carries d) (earlier : List Class) :
    after ⟨strict, d.plain, table⟩ earlier = after ⟨strict, d, []⟩ earlier := by
  induction earlier using List.reverseRecOn with
  | nil => rfl
  | append_singleton earlier c ih =>
    have hplain := settled_after ⟨strict, d.plain, table⟩ earlier
    rw [ih] at hplain
    rw [after_concat, after_concat, ih, compileType_plain hd htable hplain (settled_after _ _)]

end Plans

end FieldRules
