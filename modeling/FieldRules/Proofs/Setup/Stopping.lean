import FieldRules.Proofs.Setup.Filling

/-!
# Loading that stops

A document is loaded entry by entry, and nothing is taken back: when an entry fails, the table and the registry hold
what the entries before it say (`Loader.loadData_error_iff`). Types come first, then handlers.

* `Stops` says at which entry loading stops, with which error, and what has been loaded until then;
* `Holds` is a loader with a given table and registry, which finds classes in a given way.
-/

namespace FieldRules

open Cache

/-- Registers handlers under all of their names. -/
def Registry.withHandlers (r : Registry) (hs : List Handler) : Registry :=
  hs.foldl (fun r h => h.names.foldl (fun r name => r.put name h) r) r

theorem Registry.withHandlers_append (r : Registry) (hs hs' : List Handler) :
    r.withHandlers (hs ++ hs') = (r.withHandlers hs).withHandlers hs' :=
  List.foldl_append

namespace Loader

/-! ## What an entry comes to -/

/-- The class that an import path names, where some have been found before. -/
def classFor (k : Known) (found : List (String × Class)) (path : String) : Except Error Class :=
  (found.lookup path).elim (k.declarations.classAt path) .ok

/-- The entries for the fields of a type. -/
def entriesFor (find : String → Except Error Class) (type : String × List FieldRule) :
    Except Error (List (TypeName × FieldRule)) := do
  let c ← find type.1
  return type.2.map (Prod.mk c.name)

/-- The handler that the class with an import path makes. -/
def handlerAt (find : String → Except Error Class) (handlers : List Handler) (path : String) :
    Except Error Handler := do
  let c ← find path
  (handlerOf? handlers c).elim (throw (.setup (.notHandlerPath path))) pure

/-- The handler that the class with an import path makes, if it can be registered. -/
def handlerFor (find : String → Except Error Class) (handlers : List Handler) (source : String)
    (r? : Option Registry) (path : String) : Except Error Handler := do
  -- Whether there is a registry is asked when the handler has been made.
  let h ← handlerAt find handlers path
  if r?.isNone then throw (.setup (.tableWithoutRegistry source))
  else if h.names.isEmpty then throw (.setup (.nameless h.handlerClass.simpleName))
  else return h

/-- Where the loading of a document stops, with the error, the table and the registry. -/
inductive Stops (k : Known) (source : String) (v : Value) (l : Loader) :
    Error → RuleTable → Option Registry → Prop
  -- Nothing has been loaded.
  | document {p : SetupError} : TableDocument.ofValue source v = .error p →
      Stops k source v l (.setup p) l.table l.handlers?
  -- The types before this one have been loaded, and no handlers.
  | type {doc : TableDocument} {before after : List (String × List FieldRule)} {type : String × List FieldRule}
      {ess : List (List (TypeName × FieldRule))} {e : Error} : TableDocument.ofValue source v = .ok doc →
      doc.types = before ++ type :: after → before.mapM (entriesFor (classFor k l.found)) = .ok ess →
      entriesFor (classFor k l.found) type = .error e →
      Stops k source v l e (RuleTable.addAll ess.flatten l.table) l.handlers?
  -- All types have been loaded, and the handlers before this one.
  | handler {doc : TableDocument} {ess : List (List (TypeName × FieldRule))} {before after : List String}
      {path : String} {hs : List Handler} {e : Error} : TableDocument.ofValue source v = .ok doc →
      doc.types.mapM (entriesFor (classFor k l.found)) = .ok ess → doc.handlers = before ++ path :: after →
      before.mapM (handlerFor (classFor k l.found) k.handlers source l.handlers?) = .ok hs →
      handlerFor (classFor k l.found) k.handlers source l.handlers? path = .error e →
      Stops k source v l e (RuleTable.addAll ess.flatten l.table) (l.handlers?.map (·.withHandlers hs))

/-! ## One entry after the other -/

/-- The loader finds classes in this way, and holds this table and this registry. -/
structure Holds (k : Known) (find : String → Except Error Class) (t : RuleTable) (r? : Option Registry)
    (l : Loader) : Prop where
  finds : classFor k l.found = find
  table : l.table = t
  handlers : l.handlers? = r?

variable {k : Known} {find : String → Except Error Class} {t : RuleTable} {r? : Option Registry} {l : Loader}
  {source path : String} {v : Value} {e : Error}

/-- Classes that have been found are found again. -/
theorem classFor_append {found : List (String × Class)} {c : Class} (hc : k.declarations.classAt path = .ok c) :
    classFor k (found ++ [(path, c)]) = classFor k found := by
  funext path'
  rw [classFor, classFor, List.lookup_append]
  cases hfound : found.lookup path' with
  | some c' => rfl
  | none =>
    rw [Option.none_or, List.lookup_cons]
    cases hpath : path' == path with
    | false => rfl
    | true =>
      rw [eq_of_beq hpath, hc]
      rfl

theorem Holds.resolveClass (h : Holds k find t r? l) (path : String) :
    ∃ l', resolveClass k path l = (find path, l') ∧ Holds k find t r? l' := by
  have hfind := congrFun h.finds path
  rw [classFor] at hfind
  cases hfound : l.found.lookup path with
  | some c =>
    rw [hfound] at hfind
    rw [← hfind]
    exact ⟨l, resolveClass_of_found hfound, h⟩
  | none =>
    rw [hfound, Option.elim_none] at hfind
    rw [← hfind]
    cases hc : k.declarations.classAt path with
    | error e => exact ⟨l, resolveClass_of_missing hfound hc, h⟩
    | ok c =>
      exact ⟨_, resolveClass_of_unknown hfound hc, (classFor_append hc).trans h.finds, h.table, h.handlers⟩

/-- A type adds its entries to the table. -/
theorem tracks_loadType (k : Known) (find : String → Except Error Class) (t : RuleTable) (r? : Option Registry) :
    Run.Tracks (fun ess => Holds k find (RuleTable.addAll ess.flatten t) r?) (entriesFor find)
      fun (path, rules) => loadType k path rules where
  returns := by
    intro ess type es l h hes
    obtain ⟨l', hclass, h'⟩ := h.resolveClass type.1
    obtain ⟨c, hc, rfl⟩ := exists_of_bind_pure hes
    rw [hc] at hclass
    refine ⟨c, _, (Run.bind_of_ok hclass).trans rfl, h'.finds, ?_, h'.handlers⟩
    rw [List.flatten_append, List.flatten_singleton, RuleTable.addAll_append, ← h'.table, RuleTable.addAll_map]
  fails := by
    intro ess type e l h he
    obtain ⟨l', hclass, h'⟩ := h.resolveClass type.1
    rw [entriesFor] at he
    cases hc : find type.1 with
    | ok c =>
      rw [hc] at he
      cases he
    | error e' =>
      rw [hc] at he hclass
      cases he
      exact ⟨l', Run.bind_of_error hclass, h'⟩

theorem handlerFor_map (find : String → Except Error Class) (handlers : List Handler) (source : String)
    (f : Registry → Registry) (path : String) :
    handlerFor find handlers source (r?.map f) path = handlerFor find handlers source r? path := by
  rw [handlerFor, handlerFor, Option.isNone_map]

theorem handlerAt_of_ok {c : Class} {handlers : List Handler} (hc : find path = .ok c) :
    handlerAt find handlers path
      = (handlerOf? handlers c).elim (.error (.setup (.notHandlerPath path))) .ok := by
  rw [handlerAt, hc]
  rfl

theorem Holds.resolveHandler (h : Holds k find t r? l) (path : String) :
    ∃ l', resolveHandler k path l = (handlerAt find k.handlers path, l') ∧ Holds k find t r? l' := by
  obtain ⟨l', hclass, h'⟩ := h.resolveClass path
  refine ⟨l', ?_, h'⟩
  unfold Loader.resolveHandler
  cases hc : find path with
  | error e =>
    rw [hc] at hclass
    rw [Run.bind_of_error hclass, handlerAt, hc]
    rfl
  | ok c =>
    rw [hc] at hclass
    rw [Run.bind_of_ok hclass, handlerAt_of_ok hc]
    cases handlerOf? k.handlers c <;> rfl

/-- A handler is registered, or leaves things as they are. -/
theorem Holds.loadHandler (h : Holds k find t r? l) (source path : String) :
    (∃ handler l', handlerFor find k.handlers source r? path = .ok handler ∧
      loadHandler k source path l = (.ok (), l') ∧ Holds k find t (r?.map (·.withHandlers [handler])) l') ∨
    ∃ e l', handlerFor find k.handlers source r? path = .error e ∧
      loadHandler k source path l = (.error e, l') ∧ Holds k find t r? l' := by
  obtain ⟨l', hhandler, h'⟩ := h.resolveHandler path
  unfold handlerFor Loader.loadHandler
  cases hat : handlerAt find k.handlers path with
  | error e =>
    rw [hat] at hhandler
    exact .inr ⟨e, l', rfl, Run.bind_of_error hhandler, h'⟩
  | ok handler =>
    rw [hat] at hhandler
    rw [Run.bind_of_ok hhandler, Run.bind_of_ok (Run.get_eq l'), h'.handlers]
    cases r? with
    | none => exact .inr ⟨_, l', rfl, rfl, h'⟩
    | some r =>
      dsimp only [register, Registry.register]
      by_cases hnames : handler.names.isEmpty = true
      · refine .inr ⟨_, l', if_pos hnames, ?_, h'⟩
        rw [if_pos hnames]
        rfl
      · rw [if_neg hnames]
        exact .inl ⟨handler, _, if_neg hnames, rfl, h'.finds, h'.table, rfl⟩

/-- A handler is registered under its names. -/
theorem tracks_loadHandler (k : Known) (find : String → Except Error Class) (source : String) (t : RuleTable)
    (r? : Option Registry) :
    Run.Tracks (fun hs => Holds k find t (r?.map (·.withHandlers hs))) (handlerFor find k.handlers source r?)
      (loadHandler k source) where
  returns := by
    intro hs path handler l h hhandler
    -- What can be registered does not depend on what has been registered before.
    rw [← handlerFor_map find k.handlers source (·.withHandlers hs)] at hhandler
    obtain ⟨handler', l', hfor, hload, h'⟩ | ⟨e, l', hfor, -⟩ := h.loadHandler source path
    · rw [hhandler] at hfor
      cases hfor
      refine ⟨(), l', hload, ?_⟩
      rw [Option.map_map] at h'
      simpa only [Registry.withHandlers_append] using! h'
    · rw [hhandler] at hfor
      cases hfor
  fails := by
    intro hs path e l h he
    rw [← handlerFor_map find k.handlers source (·.withHandlers hs)] at he
    obtain ⟨handler', l', hfor, -⟩ | ⟨e', l', hfor, hload, h'⟩ := h.loadHandler source path
    · rw [he] at hfor
      cases hfor
    · rw [he] at hfor
      cases hfor
      exact ⟨l', hload, h'⟩

/-! ## The whole document -/

/-- What is done with a document that meets the schema. -/
def loadDocument (k : Known) (source : String) (doc : TableDocument) : Run (List Class) := do
  let classes ← doc.types.mapM fun (path, rules) => loadType k path rules
  doc.handlers.forM (loadHandler k source)
  return classes

theorem loadData_of_ok {doc : TableDocument} (h : TableDocument.ofValue source v = .ok doc) :
    loadData k source v l = loadDocument k source doc l := by
  unfold loadData
  rw [h]
  rfl

theorem loadData_of_error {p : SetupError} (h : TableDocument.ofValue source v = .error p) :
    loadData k source v l = (.error (.setup p), l) := by
  unfold loadData
  rw [h]
  rfl

theorem holds_self (k : Known) (l : Loader) : Holds k (classFor k l.found) l.table l.handlers? l :=
  ⟨rfl, rfl, rfl⟩

section Document
variable {doc : TableDocument} {ess : List (List (TypeName × FieldRule))} {hs : List Handler}

/-- All types of a document have been loaded, and its handlers come next. -/
theorem Holds.loadDocument (h : Holds k find t r? l) (hess : doc.types.mapM (entriesFor find) = .ok ess)
    (source : String) :
    ∃ cs l₁, Holds k find (RuleTable.addAll ess.flatten t) (r?.map (·.withHandlers [])) l₁ ∧
      loadDocument k source doc l
        = (do doc.handlers.forM (Loader.loadHandler k source); return cs : Run (List Class)) l₁ := by
  have hstart : Holds k find (RuleTable.addAll ([] : List (List _)).flatten t) r? l := h
  obtain ⟨cs, l₁, hload, h₁⟩ := (tracks_loadType k find t r?).mapM_ok hstart hess
  have hregistry : r?.map (·.withHandlers []) = r? := Option.map_id'
  rw [hregistry]
  exact ⟨cs, l₁, h₁, Run.bind_of_ok hload⟩

theorem Holds.loadDocument_type (h : Holds k find t r? l) {before after : List (String × List FieldRule)}
    {type : String × List FieldRule} (hsplit : doc.types = before ++ type :: after)
    (hbefore : before.mapM (entriesFor find) = .ok ess) (he : entriesFor find type = .error e) (source : String) :
    ∃ l', Loader.loadDocument k source doc l = (.error e, l') ∧
      Holds k find (RuleTable.addAll ess.flatten t) r? l' := by
  have hstart : Holds k find (RuleTable.addAll ([] : List (List _)).flatten t) r? l := h
  obtain ⟨l', hload, h'⟩ := (tracks_loadType k find t r?).mapM_error hstart hbefore he after
  refine ⟨l', ?_, h'⟩
  unfold Loader.loadDocument
  rw [hsplit]
  exact Run.bind_of_error hload

theorem Holds.loadDocument_handler (h : Holds k find t r? l) {before after : List String}
    (hess : doc.types.mapM (entriesFor find) = .ok ess) (hsplit : doc.handlers = before ++ path :: after)
    (hbefore : before.mapM (handlerFor find k.handlers source r?) = .ok hs)
    (he : handlerFor find k.handlers source r? path = .error e) :
    ∃ l', Loader.loadDocument k source doc l = (.error e, l') ∧
      Holds k find (RuleTable.addAll ess.flatten t) (r?.map (·.withHandlers hs)) l' := by
  obtain ⟨cs, l₁, h₁, hload⟩ := h.loadDocument hess source
  obtain ⟨l', hlast, h'⟩ := (tracks_loadHandler k find source _ r?).forM_error h₁ hbefore he after
  refine ⟨l', ?_, h'⟩
  rw [hload, hsplit]
  exact Run.bind_of_error hlast

theorem Holds.loadDocument_ok (h : Holds k find t r? l) (hess : doc.types.mapM (entriesFor find) = .ok ess)
    (hhs : doc.handlers.mapM (handlerFor find k.handlers source r?) = .ok hs) :
    ∃ cs l', Loader.loadDocument k source doc l = (.ok cs, l') := by
  obtain ⟨cs, l₁, h₁, hload⟩ := h.loadDocument hess source
  obtain ⟨l', hlast, -⟩ := (tracks_loadHandler k find source _ r?).forM_ok h₁ hhs
  exact ⟨cs, l', hload.trans (Run.bind_of_ok hlast)⟩

end Document

/-- Loading stops as it is said. -/
theorem Stops.loadData (h : Stops k source v l e t r?) :
    ∃ l', loadData k source v l = (.error e, l') ∧ l'.table = t ∧ l'.handlers? = r? := by
  cases h with
  | document hdoc => exact ⟨l, loadData_of_error hdoc, rfl, rfl⟩
  | type hdoc hsplit hbefore he =>
    obtain ⟨l', hload, h'⟩ := (holds_self k l).loadDocument_type hsplit hbefore he source
    exact ⟨l', (loadData_of_ok hdoc).trans hload, h'.table, h'.handlers⟩
  | handler hdoc hess hsplit hbefore he =>
    obtain ⟨l', hload, h'⟩ := (holds_self k l).loadDocument_handler hess hsplit hbefore he
    exact ⟨l', (loadData_of_ok hdoc).trans hload, h'.table, h'.handlers⟩

/-- Loading stops somewhere, or it comes to its end. -/
theorem stops_or_loads (k : Known) (source : String) (v : Value) (l : Loader) :
    (∃ e t r?, Stops k source v l e t r?) ∨ ∃ cs l', loadData k source v l = (.ok cs, l') := by
  cases hdoc : TableDocument.ofValue source v with
  | error p => exact .inl ⟨_, _, _, .document hdoc⟩
  | ok doc =>
    obtain ⟨ess, hess⟩ | ⟨before, type, after, ess, e, hsplit, hbefore, he⟩ :=
      mapM_ok_or_error (entriesFor (classFor k l.found)) doc.types
    · obtain ⟨hs, hhs⟩ | ⟨before, path, after, hs, e, hsplit, hbefore, he⟩ :=
        mapM_ok_or_error (handlerFor (classFor k l.found) k.handlers source l.handlers?) doc.handlers
      · obtain ⟨cs, l', hload⟩ := (holds_self k l).loadDocument_ok hess hhs
        exact .inr ⟨cs, l', (loadData_of_ok hdoc).trans hload⟩
      · exact .inl ⟨_, _, _, .handler hdoc hess hsplit hbefore he⟩
    · exact .inl ⟨_, _, _, .type hdoc hsplit hbefore he⟩

/-- **A document that cannot be loaded leaves what comes before the entry that fails.** If it does not meet the
schema, that is nothing. If a type cannot be found, it is what the types before it say. If a handler cannot be found,
made or registered, it is what all types say, with the handlers before it registered. -/
theorem loadData_error_iff : (∃ l', loadData k source v l = (.error e, l') ∧ l'.table = t ∧ l'.handlers? = r?) ↔
    Stops k source v l e t r? := by
  refine ⟨?_, Stops.loadData⟩
  rintro ⟨l', hload, rfl, rfl⟩
  -- It stops somewhere as it is said, and there is only one way for it to end.
  obtain ⟨e', t, r?, hstops⟩ | ⟨cs, l₁, hloads⟩ := stops_or_loads k source v l
  · obtain ⟨l₁, hsame, rfl, rfl⟩ := hstops.loadData
    rw [hload] at hsame
    cases hsame
    exact hstops
  · rw [hload] at hloads
    cases hloads

/-! ## A document that names a class that is not there -/

/-- Items, which have no fields that are tagged. -/
def shop : Declarations where
  homes := ["models"]
  classes := [{ declared := ⟨⟨"models", "Item"⟩, []⟩, annotations := [] }]

/-- Entries for items, and for a class that is missing. -/
def shopDocument : Value :=
  Document.mapping [("types", Document.mapping [
    ("models:Item", Document.mapping [("fields", Document.mapping [
      ("id", Document.mapping [("rules", .string "required")])])]),
    ("models:Missing", Document.mapping [("fields", Document.mapping [])])])]

/-- The entry for items stays in the table, though the document cannot be loaded. -/
theorem loadData_keeps_item :
    (loadData ⟨shop, []⟩ "<memory>" shopDocument {}).1.toOption = none ∧
      (loadData ⟨shop, []⟩ "<memory>" shopDocument {}).2.table.map (fun e => (e.1, e.2.map FieldRule.name))
        = [(⟨"models", "Item"⟩, ["id"])] := by
  decide +kernel

end Loader

end FieldRules
