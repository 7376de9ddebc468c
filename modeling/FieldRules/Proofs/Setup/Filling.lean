import FieldRules.Proofs.Plan.Table
import FieldRules.Proofs.Run
import FieldRules.Proofs.Setup.Documents
import FieldRules.Setup.Loader

/-!
# Filling a rule table

Entries get into a rule table as they are registered, or with a document that is loaded. Either way the entries
that are said are added, in their order (`Filling.adds_all`). So it makes no difference to the plans of classes
whether the tags of fields stand in annotations, or entries for them are registered and loaded in any order
(`Plans.compileType_filled`).
-/

namespace FieldRules

open Cache Document

namespace Loader

/-! ## Types that are loaded -/

/-- The classes that have been found are those that their import paths name. -/
def FoundIn (k : Known) (l : Loader) : Prop :=
  ∀ path c, l.found.lookup path = some c → k.declarations.classAt path = .ok c

/-- A computation has a result, with the classes found that the paths name, and with some entries added. -/
structure Adds {α : Type} (k : Known) (m : Run α) (a : α) (es : List (TypeName × FieldRule)) (l : Loader) :
    Prop where
  result : (m l).1 = .ok a
  found : FoundIn k (m l).2
  table : (m l).2.table = RuleTable.addAll es l.table

variable {k : Known} {l : Loader} {α β : Type}

theorem Adds.eq {m : Run α} {a : α} {es : List (TypeName × FieldRule)} (h : Adds k m a es l) :
    m l = (.ok a, (m l).2) :=
  Prod.ext h.result rfl

theorem Adds.of_eq {m : Run α} {a : α} {es : List (TypeName × FieldRule)} {l' : Loader} (h : m l = (.ok a, l'))
    (hfound : FoundIn k l') (htable : l'.table = RuleTable.addAll es l.table) : Adds k m a es l := by
  constructor
  · rw [h]
  · rwa [h]
  · rwa [h]

theorem Adds.pure (h : FoundIn k l) (a : α) : Adds k (pure a) a [] l :=
  ⟨rfl, h, rfl⟩

/-- What is added one after the other. -/
theorem Adds.bind {m : Run α} {f : α → Run β} {a : α} {b : β} {es es' : List (TypeName × FieldRule)}
    (hm : Adds k m a es l) (hf : Adds k (f a) b es' (m l).2) : Adds k (m >>= f) b (es ++ es') l := by
  have hbind : (m >>= f) l = f a (m l).2 := Run.bind_of_ok hm.eq
  constructor
  · rw [hbind, hf.result]
  · rw [hbind]
    exact hf.found
  · rw [hbind, hf.table, hm.table, RuleTable.addAll_append]

theorem resolveClass_of_found {path : String} {c : Class} (h : l.found.lookup path = some c) :
    resolveClass k path l = (.ok c, l) := by
  unfold resolveClass
  rw [Run.bind_of_ok (Run.get_eq l), h]
  rfl

theorem resolveClass_of_unknown {path : String} {c : Class} (h : l.found.lookup path = none)
    (hc : k.declarations.classAt path = .ok c) :
    resolveClass k path l = (.ok c, { l with found := l.found ++ [(path, c)] }) := by
  unfold resolveClass
  rw [Run.bind_of_ok (Run.get_eq l), h, hc]
  rfl

theorem resolveClass_of_missing {path : String} {e : Error} (h : l.found.lookup path = none)
    (he : k.declarations.classAt path = .error e) : resolveClass k path l = (.error e, l) := by
  unfold resolveClass
  rw [Run.bind_of_ok (Run.get_eq l), h, he]
  rfl

theorem FoundIn.append (h : FoundIn k l) {path : String} {c : Class} (hc : k.declarations.classAt path = .ok c) :
    FoundIn k { l with found := l.found ++ [(path, c)] } := by
  intro path' c' hfound
  rw [List.lookup_append, Option.or_eq_some_iff] at hfound
  obtain hfound | ⟨-, hfound⟩ := hfound
  · exact h path' c' hfound
  · rw [List.lookup_cons] at hfound
    cases hpath : path' == path with
    | true =>
      rw [hpath] at hfound
      cases hfound
      rw [eq_of_beq hpath, hc]
    | false =>
      rw [hpath] at hfound
      cases hfound

theorem adds_resolveClass {path : String} {c : Class} (hl : FoundIn k l)
    (hc : k.declarations.classAt path = .ok c) : Adds k (resolveClass k path) c [] l := by
  cases hfound : l.found.lookup path with
  | some c' =>
    have hsame := hl path c' hfound
    rw [hc] at hsame
    cases hsame
    exact .of_eq (resolveClass_of_found hfound) hl rfl
  | none => exact .of_eq (resolveClass_of_unknown hfound hc) (hl.append hc) rfl

theorem adds_addFields (hl : FoundIn k l) (type : TypeName) (rules : List FieldRule) :
    Adds k (addFields type rules) () (rules.map (Prod.mk type)) l where
  result := rfl
  found := hl
  table := (RuleTable.addAll_map type rules l.table).symm

theorem adds_loadType {path : String} {c : Class} (hl : FoundIn k l) (hc : k.declarations.classAt path = .ok c)
    (rules : List FieldRule) : Adds k (loadType k path rules) c (rules.map (Prod.mk c.name)) l := by
  have hclass := adds_resolveClass hl hc
  have hfields := adds_addFields hclass.found c.name rules
  have hadds : Adds k (loadType k path rules) c ([] ++ (rules.map (Prod.mk c.name) ++ [])) l :=
    hclass.bind (hfields.bind (.pure hfields.found c))
  rwa [List.nil_append, List.append_nil] at hadds

/-- The entries for types that are named by import paths, each with the type that it is for. -/
inductive Names (k : Known) : List (String × List FieldRule) → List Class → List (TypeName × FieldRule) → Prop
  | nil : Names k [] [] []
  | cons {path : String} {rules : List FieldRule} {types : List (String × List FieldRule)} {c : Class}
      {cs : List Class} {es : List (TypeName × FieldRule)} : k.declarations.classAt path = .ok c →
      Names k types cs es → Names k ((path, rules) :: types) (c :: cs) (rules.map (Prod.mk c.name) ++ es)

theorem adds_loadTypes {types : List (String × List FieldRule)} {cs : List Class}
    {es : List (TypeName × FieldRule)} (h : Names k types cs es) (hl : FoundIn k l) :
    Adds k (types.mapM fun (path, rules) => loadType k path rules) cs es l := by
  induction h generalizing l with
  | nil => exact .pure hl []
  | @cons path rules types c cs es hc _ ih =>
    have htype := adds_loadType hl hc rules
    have hrest := ih htype.found
    rw [List.mapM_cons, ← List.append_nil es]
    exact htype.bind (hrest.bind (.pure hrest.found (c :: cs)))

/-- Loading a document adds what it says. -/
theorem adds_loadData {v : Value} {types : List (String × List FieldRule)} {cs : List Class}
    {es : List (TypeName × FieldRule)} (hv : TableDocument.SaysTable v types) (h : Names k types cs es)
    (hl : FoundIn k l) (source : String) : Adds k (loadData k source v) cs es l := by
  have hdoc : Adds k (liftM ((TableDocument.ofValue source v).mapError Error.setup)) ⟨types, []⟩ [] l := by
    rw [hv.ofValue]
    exact .pure hl _
  have htypes := adds_loadTypes h hdoc.found
  have hhandlers : Adds k (([] : List String).forM (loadHandler k source)) () [] _ := .pure htypes.found ()
  have hadds : Adds k (loadData k source v) cs ([] ++ (es ++ ([] ++ []))) l :=
    hdoc.bind (htypes.bind (hhandlers.bind (.pure hhandlers.found cs)))
  rwa [List.nil_append, List.append_nil, List.append_nil] at hadds

end Loader

/-! ## Ways to fill a table -/

/-- A way to get entries into the table: registering some for a type, or loading a document. -/
inductive Filling where
  | register (type : TypeName) (rules : List FieldRule)
  | load (source : String) (document : Value)

namespace Filling

open Loader

/-- Gets entries into the table. -/
def run (k : Known) : Filling → Loader.Run Unit
  | register type rules => addFields type rules
  | load source document => discard (loadData k source document)

/-- The entries that are said. -/
inductive Says (k : Known) : Filling → List (TypeName × FieldRule) → Prop
  | register (type : TypeName) (rules : List FieldRule) : Says k (register type rules) (rules.map (Prod.mk type))
  | load {document : Value} {types : List (String × List FieldRule)} {cs : List Class}
      {es : List (TypeName × FieldRule)} (source : String) : TableDocument.SaysTable document types →
      Names k types cs es → Says k (load source document) es

variable {k : Known} {l : Loader}

theorem Says.adds {f : Filling} {es : List (TypeName × FieldRule)} (h : Says k f es) (hl : FoundIn k l) :
    Adds k (f.run k) () es l := by
  cases h with
  | register type rules => exact adds_addFields hl type rules
  | load source hdocument hnames =>
    have hload := adds_loadData hdocument hnames hl source
    rw [← List.append_nil es]
    exact hload.bind (.pure hload.found ())

/-- **Filling a table.** Registering and loading, in any order, adds what is said, and does not fail. -/
theorem adds_all {fs : List Filling} {ess : List (List (TypeName × FieldRule))}
    (h : List.Forall₂ (Says k) fs ess) (hl : FoundIn k l) :
    Adds k (fs.forM (run k)) () ess.flatten l := by
  induction h generalizing l with
  | nil => exact .pure hl ()
  | cons hf _ ih =>
    rw [List.forM_eq_forM] at ih ⊢
    rw [List.forM_cons, List.flatten_cons]
    have hfirst := hf.adds hl
    exact hfirst.bind (ih hfirst.found)

end Filling

/-! ## Plans from a filled table -/

namespace Plans

variable {d : Declarations} {k : Known} {fs : List Filling} {ess : List (List (TypeName × FieldRule))} {l : Loader}

/-- **Tags and entries give the same plans.** Annotations are made plain, so that no field is tagged, and a table
is filled with an entry for every field that was, by registering and loading in any order; this does not fail. Then,
after the same classes have been compiled on either way, compiling a class gives the same plan or the same error, and
keeps the same. -/
theorem compileType_filled (hd : d.WellFormed) (hmeans : List.Forall₂ (Filling.Says k) fs ess)
    (hall : ess.flatten.Perm d.registrations) (htable : l.table = []) (hfound : Loader.FoundIn k l) :
    d.plain.registrations = [] ∧
    ∃ l', fs.forM (Filling.run k) l = (.ok (), l') ∧ ∀ strict earlier c,
      compileType ⟨strict, d.plain, l'.table⟩ c (after ⟨strict, d.plain, l'.table⟩ earlier)
        = compileType ⟨strict, d, []⟩ c (after ⟨strict, d, []⟩ earlier) := by
  have hadds := Filling.adds_all hmeans hfound
  refine ⟨Declarations.registrations_plain d, _, hadds.eq, fun strict earlier c => ?_⟩
  -- The order of the entries does not matter for a table that has one at most for every field.
  have hcarries : (fs.forM (Filling.run k) l).2.table.Carries d := by
    rw [hadds.table, htable]
    exact RuleTable.carries_addAll hd hall
  have hplain := settled_after ⟨strict, d.plain, (fs.forM (Filling.run k) l).2.table⟩ earlier
  rw [after_plain hd hcarries] at hplain ⊢
  exact compileType_plain hd hcarries hplain (settled_after _ _) c

/-! ## An order among documents -/

/-- Documents, which have titles, and orders among them, which say more of theirs. -/
def office : Declarations where
  homes := ["models"]
  classes := [
    { declared := ⟨⟨"models", "Document"⟩, []⟩
      annotations := [("title", .annotated (.classRef .string) [.rules "not-blank", .label "Title"])] },
    { declared := ⟨⟨"models", "Order"⟩, [⟨"models", "Document"⟩]⟩
      annotations := [
        ("amount", .annotated (.classRef .int)
          [.constraint (.make "min" [.int 1] [] none), .gate ⟨["title"], .passed⟩]),
        ("title", .annotated (.classRef .string) [.rules "required"]),
        ("count", .classVar (.classRef .int))] }]

/-- The class of orders. -/
def order : Class := ⟨⟨"models", "Order"⟩, [⟨"models", "Document"⟩]⟩

/-- The entry for the titles of orders. -/
def titleRule : FieldRule := .ofTags "title" [.rules "required"]

/-- The entry for the amounts of orders. -/
def amountRule : FieldRule :=
  .ofTags "amount" [.constraint (.make "min" [.int 1] [] none), .gate ⟨["title"], .passed⟩]

/-- A document with the entries for orders. -/
def orderDocument : Value :=
  mapping [("types", mapping [("models:Order", mapping [("fields", mapping [
    ("title", mapping [("rules", .string "required")]),
    ("amount", mapping [
      ("when", mapping [("fields", .list [.string "title"])]),
      ("constraints", .list [mapping [("name", .string "min"), ("arguments", .list [.int 1])]])])])])])]

theorem saysTable_orderDocument :
    TableDocument.SaysTable orderDocument [("models:Order", [titleRule, amountRule])] := by
  have htitle : TableDocument.SaysRule [("rules", .string "required")] titleRule :=
    ⟨by decide, rfl, rfl, .inr ⟨rfl, rfl⟩, .none, ⟨[], .inr ⟨rfl, rfl⟩, .nil⟩, rfl, rfl, rfl⟩
  have hmin : TableDocument.SaysConstraint [("name", .string "min"), ("arguments", .list [.int 1])]
      (.make "min" [.int 1] [] none) :=
    ⟨by decide, rfl, .inl rfl, ⟨[], rfl, .inr ⟨rfl, rfl⟩⟩, rfl⟩
  have hgate : TableDocument.SaysGate [("fields", .list [.string "title"])] ⟨["title"], .passed⟩ :=
    ⟨by decide, by decide, rfl, .inr ⟨rfl, rfl⟩⟩
  have hamount : TableDocument.SaysRule
      [("when", mapping [("fields", .list [.string "title"])]),
        ("constraints", .list [mapping [("name", .string "min"), ("arguments", .list [.int 1])]])] amountRule :=
    ⟨by decide, rfl, rfl, .inr ⟨rfl, rfl⟩, .some ⟨_, rfl, hgate⟩,
      ⟨_, .inl rfl, .cons ⟨_, rfl, hmin⟩ .nil⟩, rfl, rfl, rfl⟩
  have hfields := List.Forall₂.cons (R := fun (e : String × Value) (r : FieldRule) =>
      e.1 = r.name ∧ ∃ fs, e.2 = mapping fs ∧ TableDocument.SaysRule fs r)
    (a := ("title", _)) ⟨rfl, _, rfl, htitle⟩ (.cons (a := ("amount", _)) ⟨rfl, _, rfl, hamount⟩ .nil)
  exact ⟨_, _, rfl, by decide, .inl rfl, .inr ⟨rfl, trivial⟩,
    .cons ⟨rfl, by decide, _, _, rfl, rfl, hfields⟩ .nil⟩

/-- One entry is registered, and the others are loaded. -/
def officeFillings : List Filling :=
  [.register ⟨"models", "Document"⟩ [.ofTags "title" [.rules "not-blank", .label "Title"]],
    .load "orders.yaml" orderDocument]

/-- The entries for orders are loaded in another order than their fields are declared. -/
theorem order_filled : office.WellFormed ∧
    (∃ ess, List.Forall₂ (Filling.Says ⟨office.plain, []⟩) officeFillings ess ∧
      ess.flatten.Perm office.registrations) ∧
    ∃ l, officeFillings.forM (Filling.run ⟨office.plain, []⟩) {} = (.ok (), l) ∧
      compileType ⟨true, office.plain, l.table⟩ order {} = compileType ⟨true, office, []⟩ order {} ∧
      ((compileType ⟨true, office, []⟩ order {}).1.map (List.map Element.name)).toOption
        = some ["title", "amount"] := by
  have hoffice : office.WellFormed := ⟨by decide, by decide⟩
  have hnames : Loader.Names ⟨office.plain, []⟩ [("models:Order", [titleRule, amountRule])] [order] _ :=
    .cons rfl .nil
  have hmeans : List.Forall₂ (Filling.Says ⟨office.plain, []⟩) officeFillings _ :=
    .cons (.register _ _) (.cons (.load "orders.yaml" saysTable_orderDocument hnames) .nil)
  have hall := List.Perm.cons (⟨"models", "Document"⟩, .ofTags "title" [.rules "not-blank", .label "Title"])
    (.swap (order.name, amountRule) (order.name, titleRule) [])
  obtain ⟨-, l, hfilled, hsame⟩ :=
    compileType_filled (l := {}) hoffice hmeans hall rfl (fun _ _ hfound => nomatch hfound)
  exact ⟨hoffice, ⟨_, hmeans, hall⟩, l, hfilled, hsame true [] order, by decide +kernel⟩

end Plans

end FieldRules
