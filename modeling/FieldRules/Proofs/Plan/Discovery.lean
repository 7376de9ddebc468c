import FieldRules.Proofs.Plan.Members

/-!
# Where the fields of a class come from

The declarations of fields are met on a walk through the classes that a class is derived from, general classes
first: in each class its annotations, then its entries in the rule table (`walk`). `Member.fields_eq_ok_iff` says
what the fields of the class are, with a look at this walk only: every name once, where it is met first, and what
its last declaration makes of it (`Described`).
-/

namespace FieldRules

/-! ## Declarations -/

/-- What an annotation or an entry of the rule table says about a field. An entry need not say a type. -/
structure FieldDeclaration where
  owner : Class
  name : String
  hint? : Option Hint
  getter : String
  setter : String
  tags : List Tag

namespace FieldDeclaration

/-- What an annotation says. -/
def ofHint (owner : Class) (p : String × Hint) : FieldDeclaration :=
  ⟨owner, p.1, some p.2, p.1, p.1, p.2.tags⟩

/-- What an entry of the rule table says. -/
def ofRule (owner : Class) (r : FieldRule) : FieldDeclaration :=
  ⟨owner, r.name, r.hint?, r.getter?.getD r.name, r.setter?.getD r.name, r.tags⟩

/-- The type of a field by its declarations, the last one first. One that says no type keeps the type of the
declaration that it takes the place of; where there is none, it is that of everything. -/
def kindBy : List FieldDeclaration → Class
  | [] => .object
  | x :: earlier =>
    match x.hint? with
    | some h => h.unwrap
    | none => kindBy earlier

/-- The member that a declaration makes in the place of earlier ones of its name, the last of these first. -/
def describe (x : FieldDeclaration) (earlier : List FieldDeclaration) : Member where
  key := .field x.owner.name x.name
  owner := x.owner
  name := x.name
  kind := kindBy (x :: earlier)
  getter := x.getter
  setter := x.setter
  tags := x.tags

end FieldDeclaration

namespace Member

open FieldDeclaration

/-- The classes that a class is derived from and then the class itself, general classes first; that of
everything is none of them. -/
def walkedClasses (d : Declarations) (c : Class) : List Class :=
  c.lineage.reverse.map (classAt d c)

/-- The declarations of a class: its annotations, those of class attributes left out, then its entries in the
rule table. -/
def declarationsOf (d : Declarations) (table : RuleTable) (c : Class) : List FieldDeclaration :=
  (fieldHints d c.name).map (.ofHint c) ++ (table.fields c.name).map (.ofRule c)

/-- The declarations of fields in the order in which they are met. -/
def walk (d : Declarations) (table : RuleTable) (classes : List Class) : List FieldDeclaration :=
  classes.flatMap (declarationsOf d table)

/-- The declarations of a name that are met on a walk, the last one first. -/
def declarationsNamed (w : List FieldDeclaration) (name : String) : List FieldDeclaration :=
  (w.filter fun x => x.name == name).reverse

/-- A member is what the last declaration of its name makes of it. -/
def Described (w : List FieldDeclaration) (m : Member) : Prop :=
  ∃ last earlier, declarationsNamed w m.name = last :: earlier ∧ m = last.describe earlier

/-- The annotations of a class can be resolved: the class has none, or every one that it has, or a class that it
is derived from, names known classes only. -/
def Resolvable (d : Declarations) (c : Class) : Prop :=
  d.annotations c.name = [] ∨ ∀ name ∈ c.name :: c.ancestors, ∀ p ∈ d.annotations name,
    ∃ h, p.2.resolve (d.classNamed? name.home) = .ok h

/-! ## One declaration more -/

/-- What a declaration makes of the members before it. -/
def ofDeclaration (x : FieldDeclaration) (known : List Member) : Member where
  key := .field x.owner.name x.name
  owner := x.owner
  name := x.name
  kind := match x.hint? with
    | some h => h.unwrap
    | none => ((known.find? fun m => m.name == x.name).map Member.kind).getD .object
  getter := x.getter
  setter := x.setter
  tags := x.tags

theorem ofRule_eq (owner : Class) (r : FieldRule) (known : List Member) :
    ofRule owner r known = ofDeclaration (.ofRule owner r) known := by
  unfold ofRule ofDeclaration FieldDeclaration.ofRule
  cases r.hint? <;> rfl

theorem declarationsNamed_concat (w : List FieldDeclaration) (x : FieldDeclaration) (n : String) :
    declarationsNamed (w ++ [x]) n = if x.name = n then x :: declarationsNamed w n else declarationsNamed w n := by
  unfold declarationsNamed
  rw [List.filter_append, List.reverse_append]
  by_cases hx : x.name = n <;> simp [hx]

theorem eraseDups_concat (ns : List String) (n : String) :
    (ns ++ [n]).eraseDups = if n ∈ ns then ns.eraseDups else ns.eraseDups ++ [n] := by
  rw [List.eraseDups_append]
  by_cases hn : n ∈ ns <;> simp [List.removeAll, hn, List.eraseDups_cons]

/-- Members that are what their declarations on a walk make of them: every name once, in the order in which the
names are met. -/
structure Discovers (w : List FieldDeclaration) (ms : List Member) : Prop where
  once : (ms.map name).Nodup
  order : ms.map name = (w.map FieldDeclaration.name).eraseDups
  described : ∀ m ∈ ms, Described w m

theorem Discovers.nil : Discovers [] [] where
  once := List.nodup_nil
  order := rfl
  described _ hm := nomatch hm

section Discovers
variable {w : List FieldDeclaration} {ms : List Member}

/-- The type that a member has before a declaration is that by the declarations of its name so far. -/
theorem Discovers.kind_eq (h : Discovers w ms) (n : String) :
    ((ms.find? fun m => m.name == n).map kind).getD .object = kindBy (declarationsNamed w n) := by
  cases hfind : ms.find? fun m => m.name == n with
  | none =>
    have hnames : n ∉ w.map FieldDeclaration.name := by
      rw [← List.mem_eraseDups, ← h.order]
      intro hn
      obtain ⟨m, hm, hname⟩ := List.mem_map.1 hn
      exact List.find?_eq_none.1 hfind m hm (beq_iff_eq.2 hname)
    have hnone : declarationsNamed w n = [] := by
      rw [declarationsNamed, List.reverse_eq_nil_iff, List.filter_eq_nil_iff]
      intro x hx hname
      exact hnames (List.mem_map.2 ⟨x, hx, beq_iff_eq.1 hname⟩)
    rw [hnone]
    rfl
  | some m =>
    obtain ⟨last, earlier, hdeclared, hm⟩ := h.described m (List.mem_of_find?_eq_some hfind)
    have hname := List.find?_some hfind
    rw [beq_iff_eq] at hname
    rw [hname] at hdeclared
    rw [hdeclared, hm]
    rfl

theorem Discovers.ofDeclaration_eq (h : Discovers w ms) (x : FieldDeclaration) :
    ofDeclaration x ms = x.describe (declarationsNamed w x.name) := by
  unfold ofDeclaration describe kindBy
  rw [h.kind_eq]

/-- One declaration more is put in the place of the earlier ones of its name, else at the end. -/
theorem Discovers.concat (h : Discovers w ms) (x : FieldDeclaration) :
    Discovers (w ++ [x]) (put (ofDeclaration x ms) ms) where
  once := nodup_put h.once _
  order := by
    have hname : (ofDeclaration x ms).name = x.name := rfl
    rw [names_put, hname, h.order, List.map_append, List.map_singleton, eraseDups_concat]
    simp only [List.mem_eraseDups]
  described := by
    intro m hm
    rcases mem_put h.once hm with rfl | ⟨hm, hne⟩
    · refine ⟨x, declarationsNamed w x.name, ?_, h.ofDeclaration_eq x⟩
      exact (declarationsNamed_concat w x x.name).trans (if_pos rfl)
    · obtain ⟨last, earlier, hdeclared, hm⟩ := h.described m hm
      refine ⟨last, earlier, ?_, hm⟩
      rw [declarationsNamed_concat, if_neg (fun hname => hne hname.symm), hdeclared]

theorem Discovers.putAll (h : Discovers w ms) (xs : List FieldDeclaration) :
    Discovers (w ++ xs) (putAll ofDeclaration xs ms) := by
  induction xs generalizing w ms with
  | nil =>
    rw [List.append_nil]
    exact h
  | cons x xs ih =>
    have hrest := ih (h.concat x)
    rw [List.append_assoc] at hrest
    exact hrest

/-- The walk leaves no choice. -/
theorem Discovers.unique {ms' : List Member} (h : Discovers w ms) (h' : Discovers w ms') : ms = ms' := by
  have hsame : ∀ m ∈ ms, ∀ m' ∈ ms', m.name = m'.name → m = m' := by
    intro m hm m' hm' hname
    obtain ⟨last, earlier, hdeclared, rfl⟩ := h.described m hm
    obtain ⟨last', earlier', hdeclared', rfl⟩ := h'.described m' hm'
    rw [hname, hdeclared'] at hdeclared
    cases hdeclared
    rfl
  -- The names stand in one order, so that members at the same place have the same name.
  have hnames : ms.map name = ms'.map name := h.order.trans h'.order.symm
  have hlength : ms.length = ms'.length := by simpa using congrArg List.length hnames
  refine List.ext_getElem hlength fun i hi hi' => ?_
  refine hsame _ (List.getElem_mem hi) _ (List.getElem_mem hi') ?_
  have hi'' := congrArg (fun ns => ns[i]?) hnames
  simpa [hi, hi'] using hi''

end Discovers

/-! ## Annotations that can be resolved -/

section Resolvable
variable {d : Declarations} {c : Class}

theorem resolvedHints_isOk_iff {type : TypeName} : (∃ hints, resolvedHints d type = .ok hints) ↔
    ∀ p ∈ d.annotations type, ∃ h, p.2.resolve (d.classNamed? type.home) = .ok h := by
  constructor
  · rintro ⟨hints, hresolved⟩ p hp
    obtain ⟨q, -, hq⟩ := exists_of_forall₂_left (forall₂_of_mapM_eq_ok hresolved) hp
    obtain ⟨h, hresolve, -⟩ := exists_of_bind_pure hq
    exact ⟨h, hresolve⟩
  · intro hall
    cases hresolved : resolvedHints d type with
    | ok hints => exact ⟨hints, rfl⟩
    | error e =>
      obtain ⟨before, p, after, hsplit, -, hp⟩ := mapM_eq_error_iff.1 hresolved
      obtain ⟨h, hresolve⟩ := hall p (hsplit ▸ List.mem_append_cons_self)
      rw [hresolve] at hp
      cases hp

theorem forM_isOk_iff {α : Type} {f : α → Except Fault Unit} {xs : List α} :
    xs.forM f = .ok () ↔ ∀ x ∈ xs, f x = .ok () := by
  induction xs with
  | nil => exact ⟨fun _ _ hx => (nomatch hx), fun _ => rfl⟩
  | cons x xs ih =>
    rw [List.forM_eq_forM] at ih ⊢
    rw [List.forM_cons, List.forall_mem_cons, ← ih]
    cases f x with
    | error e => exact ⟨fun h => (nomatch h), fun h => (nomatch h.1)⟩
    | ok u => exact ⟨fun h => ⟨rfl, h⟩, fun h => h.2⟩

/-- Annotations are resolved together with those of the classes that the class is derived from. -/
theorem resolveAnnotations_isOk_iff : (∃ hints, resolveAnnotations d c = .ok hints) ↔
    ∀ name ∈ c.name :: c.ancestors, ∃ hints, resolvedHints d name = .ok hints := by
  have hdiscard : ∀ name, discard (resolvedHints d name) = .ok () ↔ ∃ hints, resolvedHints d name = .ok hints := by
    intro name
    cases resolvedHints d name with
    | error e => exact ⟨fun h => (nomatch h), fun ⟨_, h⟩ => (nomatch h)⟩
    | ok hints => exact ⟨fun _ => ⟨hints, rfl⟩, fun _ => rfl⟩
  have hall : (c.ancestors.reverse.forM fun name => discard (resolvedHints d name)) = .ok () ↔
      ∀ name ∈ c.ancestors, ∃ hints, resolvedHints d name = .ok hints := by
    rw [forM_isOk_iff]
    simp only [List.mem_reverse, hdiscard]
  rw [List.forall_mem_cons, ← hall]
  show (∃ hints, ((c.ancestors.reverse.forM fun name => discard (resolvedHints d name)) >>=
    fun _ => resolvedHints d c.name) = .ok hints) ↔ _
  cases (c.ancestors.reverse.forM fun name => discard (resolvedHints d name) : Except Fault Unit) with
  | error e => exact ⟨fun ⟨_, h⟩ => (nomatch h), fun h => (nomatch h.2)⟩
  | ok u => exact ⟨fun h => ⟨h, rfl⟩, fun h => h.1⟩

theorem ownHints_isOk_iff : (∃ hints, ownHints d c = .ok hints) ↔ Resolvable d c := by
  unfold Resolvable ownHints
  -- Without annotations of its own, a class does not ask for those of the classes above it.
  by_cases hempty : d.annotations c.name = []
  · rw [if_pos (List.isEmpty_iff.2 hempty)]
    exact ⟨fun _ => .inl hempty, fun _ => ⟨[], rfl⟩⟩
  · rw [if_neg (fun h => hempty (List.isEmpty_iff.1 h)), or_iff_right hempty]
    simp only [← resolvedHints_isOk_iff]
    rw [← resolveAnnotations_isOk_iff]
    cases resolveAnnotations d c with
    | error f => exact ⟨fun ⟨_, h⟩ => (nomatch h), fun ⟨_, h⟩ => (nomatch h)⟩
    | ok hints => exact ⟨fun _ => ⟨hints, rfl⟩, fun _ => ⟨_, rfl⟩⟩

end Resolvable

/-! ## The whole walk -/

section Walk
variable {d : Declarations} {table : RuleTable} {c : Class} {ms : List Member}

/-- A class with annotations that can be resolved adds its declarations one after the other. -/
theorem addClass_eq_ok_iff {known : List Member} : addClass d table known c = .ok ms ↔
    Resolvable d c ∧ putAll ofDeclaration (declarationsOf d table c) known = ms := by
  have hputs : putAll (ofRule c) (table.fields c.name)
      (putAll (fun p _ => ofHint c p.1 p.2) (fieldHints d c.name) known)
        = putAll ofDeclaration (declarationsOf d table c) known := by
    simp only [putAll, declarationsOf, List.foldl_append, List.foldl_map, ofRule_eq]
    rfl
  rw [← ownHints_isOk_iff, ← hputs]
  constructor
  · intro h
    exact ⟨(exists_of_bind_pure h).imp fun _ hown => hown.1, (addClass_eq h).symm⟩
  · rintro ⟨⟨hints, hown⟩, rfl⟩
    rw [← ownHints_eq hown, addClass, hown]
    rfl

theorem foldlM_addClass_eq_ok_iff {classes : List Class} {known : List Member} :
    classes.foldlM (addClass d table) known = .ok ms ↔
      (∀ k ∈ classes, Resolvable d k) ∧ putAll ofDeclaration (walk d table classes) known = ms := by
  induction classes generalizing known with
  | nil => simp [walk, putAll, pure, Except.pure]
  | cons k rest ih =>
    have hwalk : putAll ofDeclaration (walk d table (k :: rest)) known
        = putAll ofDeclaration (walk d table rest)
          (putAll ofDeclaration (declarationsOf d table k) known) := by
      simp only [walk, putAll, List.flatMap_cons, List.foldl_append]
    rw [List.foldlM_cons, hwalk, List.forall_mem_cons]
    constructor
    · intro h
      obtain ⟨next, hadd, h⟩ := bind_eq_ok h
      obtain ⟨hk, rfl⟩ := addClass_eq_ok_iff.1 hadd
      obtain ⟨hrest, hputs⟩ := ih.1 h
      exact ⟨⟨hk, hrest⟩, hputs⟩
    · rintro ⟨⟨hk, hrest⟩, hputs⟩
      rw [addClass_eq_ok_iff.2 ⟨hk, rfl⟩]
      exact ih.2 ⟨hrest, hputs⟩

/-- **Fields of a class.** They are found if and only if the annotations of the class and of all classes that it
is derived from can be resolved. They are then the names that are met on the walk through these classes, each
once and where it is met first, and each what its last declaration on the walk makes of it. -/
theorem fields_eq_ok_iff : fields d table c = .ok ms ↔
    (∀ k ∈ walkedClasses d c, Resolvable d k) ∧
      (ms.map name).Nodup ∧
      ms.map name = ((walk d table (walkedClasses d c)).map FieldDeclaration.name).eraseDups ∧
      ∀ m ∈ ms, Described (walk d table (walkedClasses d c)) m := by
  have hdiscovers : Discovers (walk d table (walkedClasses d c))
      (putAll ofDeclaration (walk d table (walkedClasses d c)) []) :=
    Discovers.nil.putAll _
  show (walkedClasses d c).foldlM (addClass d table) [] = .ok ms ↔ _
  rw [foldlM_addClass_eq_ok_iff]
  refine and_congr_right fun _ => ⟨?_, ?_⟩
  · rintro rfl
    exact ⟨hdiscovers.once, hdiscovers.order, hdiscovers.described⟩
  · rintro ⟨honce, horder, hdescribed⟩
    exact hdiscovers.unique ⟨honce, horder, hdescribed⟩

/-- A rule table with an entry for the class of everything. -/
def universalTable : RuleTable :=
  [(Class.object.name, [{ name := "note", rules? := some "required" }])]

/-- The class of everything ends every lineage, but entries of the rule table for it declare no fields: on a walk
that starts with this class the name `note` would be met. -/
theorem fields_universalTable :
    fields {} universalTable ⟨⟨"models", "Account"⟩, []⟩ = .ok [] ∧
      (walk {} universalTable [.object, ⟨⟨"models", "Account"⟩, []⟩]).map FieldDeclaration.name = ["note"] :=
  ⟨rfl, rfl⟩

end Walk

end Member

end FieldRules
