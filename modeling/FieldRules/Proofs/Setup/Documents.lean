import FieldRules.Proofs.Entries
import FieldRules.Setup.TableDocument

/-!
# Documents for entries

Which documents say what entries of a rule table say, without a look at how they are read: `SaysConstraint`,
`SaysGate` and `SaysRule` go through the keys of a mapping, `SaysType` and `SaysTable` through the mappings around
these. What is meant anyways may be written or left out.

Such a document meets the schema, and reading it gives these entries (`TableDocument.SaysTable.ofValue`).
-/

namespace FieldRules

/-! ## Demands that are met -/

/-- A value does what is demanded of it. -/
def Demand.Met (d : Demand) (v : Value) : Prop :=
  ∀ rightKind, Schema.violationsOf rightKind v d = []

namespace Document

/-- A mapping with texts as keys. -/
def mapping (es : List (String × Value)) : Value :=
  .dict (es.map fun e => (.string e.1, e.2))

end Document

namespace Schema

open Document

/-- A value meets all demands of a schema. -/
def Met (s : Schema) (v : Value) : Prop :=
  ∀ rightKind, violations rightKind v s = []

theorem Met.nil {v : Value} : Met [] v := by
  intro rightKind
  rw [violations]

theorem Met.cons {d : Demand} {s : Schema} {v : Value} (hd : d.Met v) (hs : Met s v) : Met (d :: s) v := by
  intro rightKind
  rw [violations, hd, hs, List.append_nil]

theorem check?_of_met {s : Schema} {v : Value} (h : Met s v) : check? s v = none := by
  rw [check?, h, best?]

theorem textEntries_mapping (es : List (String × Value)) :
    textEntries (es.map fun e => (.string e.1, e.2)) = es := by
  unfold textEntries
  rw [List.map_map]
  exact List.map_id _

section Demands
variable {es : List (String × Value)} {names : List String}

theorem met_kinds {ks : List Kind} {v : Value} (h : (ks.any fun k => k.holds v) = true) :
    Demand.Met (.kinds ks) v := by
  intro rightKind
  rw [violationsOf_kinds, h, report, if_pos rfl]

theorem met_closed (h : ∀ e ∈ es, e.1 ∈ names) : Demand.Met (.closed names) (mapping es) := by
  intro rightKind
  have hnone : ((es.map Prod.fst).filter fun n => !names.contains n) = [] := by
    rw [List.filter_eq_nil_iff]
    intro n hn
    obtain ⟨e, he, rfl⟩ := List.mem_map.1 hn
    simpa using h e he
  rw [mapping, violationsOf, textEntries_mapping, hnone]
  rfl

theorem met_required (h : ∀ n ∈ names, (es.lookup n).isSome) : Demand.Met (.required names) (mapping es) := by
  intro rightKind
  rw [mapping, violationsOf, textEntries_mapping, List.flatMap_eq_nil_iff]
  intro n hn
  rw [h n hn]
  rfl

/-- The values under the keys of schemas meet these. -/
def PropertiesMet (es : List (String × Value)) (schemas : List (String × Schema)) : Prop :=
  propertyViolations es schemas = []

theorem PropertiesMet.nil : PropertiesMet es [] := by
  rw [PropertiesMet, propertyViolations]

theorem PropertiesMet.cons {name : String} {schema : Schema} {schemas : List (String × Schema)}
    (hname : ∀ w, es.lookup name = some w → Met schema w) (hrest : PropertiesMet es schemas) :
    PropertiesMet es ((name, schema) :: schemas) := by
  unfold PropertiesMet at hrest ⊢
  rw [propertyViolations, hrest, List.append_nil]
  cases hlookup : es.lookup name with
  | none => rfl
  | some w =>
    dsimp only
    rw [hname w hlookup, List.map_nil]

theorem met_properties {schemas : List (String × Schema)} (h : PropertiesMet es schemas) :
    Demand.Met (.properties schemas) (mapping es) := by
  intro rightKind
  rw [mapping, violationsOf, textEntries_mapping]
  exact h

theorem met_otherProperties {schema : List Demand} (h : ∀ e ∈ es, Met schema e.2) :
    Demand.Met (.otherProperties [] schema) (mapping es) := by
  intro rightKind
  rw [mapping, violationsOf, textEntries_mapping, List.flatMap_eq_nil_iff]
  rintro ⟨n, w⟩ he
  dsimp only
  rw [h _ (List.mem_of_mem_filter he), List.map_nil]

theorem met_propertyNames {schema : List Demand} (h : ∀ e ∈ es, Met schema (.string e.1)) :
    Demand.Met (.propertyNames schema) (mapping es) := by
  intro rightKind
  rw [mapping, violationsOf, textEntries_mapping, List.flatMap_eq_nil_iff]
  intro e he
  exact h e he _

theorem met_items {schema : List Demand} {items : List Value} (h : ∀ w ∈ items, Met schema w) :
    Demand.Met (.items schema) (.list items) := by
  intro rightKind
  rw [violationsOf, List.flatMap_eq_nil_iff]
  rintro ⟨w, i⟩ hw
  dsimp only
  rw [h w (List.fst_mem_of_mem_zipIdx hw), List.map_nil]

theorem met_form {source : String} {holds : List Char → Bool} {s : String} (h : holds s.toList = true) :
    Demand.Met (.form source holds) (.string s) := by
  intro rightKind
  rw [violationsOf, h]
  rfl

end Demands

end Schema

/-! ## What stands under a key -/

namespace Document

/-- Under a key stands a value, or nothing stands there as it is meant anyways. -/
def Stands (es : List (String × Value)) (key : String) (v : Value) (meant : Prop) : Prop :=
  es.lookup key = some v ∨ es.lookup key = none ∧ meant

section Reading
variable {es : List (String × Value)} {key : String}

theorem entriesOf_mapping (es : List (String × Value)) : entriesOf (mapping es) = es :=
  Schema.textEntries_mapping es

theorem at?_mapping (es : List (String × Value)) (key : String) : at? (mapping es) key = es.lookup key := by
  rw [at?, entriesOf_mapping]

theorem textAt?_mapping {t? : Option String} (h : es.lookup key = t?.map .string) :
    textAt? (mapping es) key = t? := by
  rw [textAt?, at?_mapping, h]
  cases t? <;> rfl

theorem flagAt_mapping {b : Bool} (h : Stands es key (.bool b) (b = false)) :
    flagAt (mapping es) key false = b := by
  unfold flagAt
  rw [at?_mapping]
  obtain h | ⟨h, rfl⟩ := h <;> rw [h]

theorem itemsAt_mapping {items : List Value} (h : Stands es key (.list items) (items = [])) :
    itemsAt (mapping es) key = items := by
  unfold itemsAt
  rw [at?_mapping]
  obtain h | ⟨h, rfl⟩ := h <;> rw [h]

theorem textsAt_mapping {names : List String} (h : Stands es key (.list (names.map .string)) (names = [])) :
    textsAt (mapping es) key = names := by
  have hitems := itemsAt_mapping (h.imp id fun hnone => hnone.imp id fun h => by rw [h, List.map_nil])
  rw [textsAt, hitems, List.filterMap_map]
  exact List.filterMap_some

theorem met_of_lookup {v : Value} (h : es.lookup key = some v) {schema : Schema} (hv : Schema.Met schema v) :
    ∀ w, es.lookup key = some w → Schema.Met schema w := by
  intro w hw
  rw [h] at hw
  cases hw
  exact hv

/-- What stands under a key meets the schema for it. -/
theorem Stands.met {v : Value} {meant : Prop} (h : Stands es key v meant) {schema : Schema}
    (hv : Schema.Met schema v) : ∀ w, es.lookup key = some w → Schema.Met schema w := by
  obtain h | ⟨h, -⟩ := h
  · exact met_of_lookup h hv
  · rw [h]
    exact fun w hw => nomatch hw

theorem met_text (s : String) : Schema.Met [.kinds [.string]] (.string s) :=
  .cons (Schema.met_kinds rfl) .nil

theorem met_texts (names : List String) : ∀ w ∈ names.map Value.string, Schema.Met [.kinds [.string]] w := by
  intro w hw
  obtain ⟨s, -, rfl⟩ := List.mem_map.1 hw
  exact met_text s

theorem met_textAt {t? : Option String} (h : es.lookup key = t?.map .string) :
    ∀ w, es.lookup key = some w → Schema.Met [.kinds [.string]] w := by
  intro w hw
  rw [h] at hw
  obtain ⟨s, -, rfl⟩ := Option.map_eq_some_iff.1 hw
  exact met_text s

end Reading

end Document

/-! ## Documents for entries -/

namespace TableDocument

open Document

/-- The entries of a mapping say a constraint. Empty names of groups say nothing. -/
structure SaysConstraint (es : List (String × Value)) (f : Fragment) : Prop where
  keys : ∀ e ∈ es, e.1 ∈ ["name", "arguments", "groups", "message"]
  name : es.lookup "name" = some (.string f.name)
  arguments : Stands es "arguments" (.list f.arguments) (f.arguments = [])
  groups : ∃ names : List String, f.groups = sortNames (names.filter fun g => !g.isEmpty) ∧
    Stands es "groups" (.list (names.map .string)) (names = [])
  message : es.lookup "message" = f.message.map .string

/-- The entries of a mapping say a gate. -/
structure SaysGate (es : List (String × Value)) (g : Gate) : Prop where
  keys : ∀ e ∈ es, e.1 ∈ ["fields", "is"]
  nonempty : g.fields ≠ []
  fields : es.lookup "fields" = some (.list (g.fields.map .string))
  outcome : Stands es "is" (.string g.outcome.text) (g.outcome = .passed)

/-- The entries of a mapping say what an entry for a field says. -/
structure SaysRule (es : List (String × Value)) (r : FieldRule) : Prop where
  keys : ∀ e ∈ es, e.1 ∈ ["rules", "label", "valid", "when", "constraints"]
  rules : es.lookup "rules" = r.rules?.map .string
  label : es.lookup "label" = r.label?.map .string
  nested : Stands es "valid" (.bool r.nested) (r.nested = false)
  gate : Option.Rel (fun w g => ∃ gs, w = mapping gs ∧ SaysGate gs g) (es.lookup "when") r.gate?
  constraints : ∃ items, Stands es "constraints" (.list items) (items = []) ∧
    List.Forall₂ (fun w f => ∃ fs, w = mapping fs ∧ SaysConstraint fs f) items r.constraints
  hint : r.hint? = none
  getter : r.getter? = none
  setter : r.setter? = none

/-- A value says what entries for the fields of a type say. -/
def SaysType (v : Value) (rules : List FieldRule) : Prop :=
  ∃ es fields, v = mapping es ∧ es.lookup "fields" = some (mapping fields) ∧
    List.Forall₂ (fun e r => e.1 = r.name ∧ ∃ fs, e.2 = mapping fs ∧ SaysRule fs r) fields rules

/-- A document says what entries for types say, these under import paths, and lists no handlers. -/
def SaysTable (v : Value) (types : List (String × List FieldRule)) : Prop :=
  ∃ es paths, v = mapping es ∧ (∀ e ∈ es, e.1 ∈ ["types", "handlers"]) ∧
    Stands es "types" (mapping paths) (paths = []) ∧ Stands es "handlers" (.list []) True ∧
    List.Forall₂ (fun e t => e.1 = t.1 ∧ Schema.isImportPath t.1.toList = true ∧ SaysType e.2 t.2) paths types

/-! ### They meet the schema -/

section Meets
variable {es : List (String × Value)}

theorem SaysConstraint.met {f : Fragment} (h : SaysConstraint es f) :
    Schema.Met constraintSchema (mapping es) := by
  obtain ⟨names, -, hgroups⟩ := h.groups
  have hname : ∀ n ∈ ["name"], (es.lookup n).isSome :=
    List.forall_mem_singleton.2 (by rw [h.name]; rfl)
  have hproperties : Schema.PropertiesMet es [
      ("name", [.kinds [.string]]),
      ("arguments", [.kinds [.array]]),
      ("groups", [.kinds [.array], .items [.kinds [.string]]]),
      ("message", [.kinds [.string]])] := by
    refine .cons ?name (.cons ?arguments (.cons ?groups (.cons ?message .nil)))
    case name => exact met_of_lookup h.name (met_text _)
    case arguments => exact h.arguments.met (.cons (Schema.met_kinds rfl) .nil)
    case groups =>
      exact hgroups.met (.cons (Schema.met_kinds rfl) (.cons (Schema.met_items (met_texts names)) .nil))
    case message => exact met_textAt h.message
  exact .cons (Schema.met_kinds rfl) (.cons (Schema.met_required hname) (.cons (Schema.met_closed h.keys)
    (.cons (Schema.met_properties hproperties) .nil)))

theorem SaysGate.met {g : Gate} (h : SaysGate es g) : Schema.Met gateSchema (mapping es) := by
  have hfields : ∀ n ∈ ["fields"], (es.lookup n).isSome :=
    List.forall_mem_singleton.2 (by rw [h.fields]; rfl)
  have hnonempty : Demand.Met .nonEmptyList (.list (g.fields.map .string)) := by
    intro rightKind
    have hlist : (g.fields.map Value.string).isEmpty = false := by
      rw [List.isEmpty_map]
      exact List.isEmpty_eq_false_iff.2 h.nonempty
    rw [Schema.violationsOf, hlist]
    rfl
  have houtcome : Demand.Met (.oneOf ["passed", "rejected"]) (.string g.outcome.text) := by
    intro rightKind
    cases g.outcome <;> rfl
  have hproperties : Schema.PropertiesMet es [
      ("fields", [.kinds [.array], .items [.kinds [.string]], .nonEmptyList]),
      ("is", [.oneOf ["passed", "rejected"]])] := by
    refine .cons ?fields (.cons ?outcome .nil)
    case fields =>
      exact met_of_lookup h.fields (.cons (Schema.met_kinds rfl)
        (.cons (Schema.met_items (met_texts g.fields)) (.cons hnonempty .nil)))
    case outcome => exact h.outcome.met (.cons houtcome .nil)
  exact .cons (Schema.met_kinds rfl) (.cons (Schema.met_required hfields) (.cons (Schema.met_closed h.keys)
    (.cons (Schema.met_properties hproperties) .nil)))

theorem SaysRule.met {r : FieldRule} (h : SaysRule es r) : Schema.Met fieldSchema (mapping es) := by
  obtain ⟨items, hitems, hconstraints⟩ := h.constraints
  have hproperties : Schema.PropertiesMet es [
      ("rules", [.kinds [.string]]),
      ("label", [.kinds [.string]]),
      ("valid", [.kinds [.boolean]]),
      ("when", gateSchema),
      ("constraints", [.kinds [.array], .items constraintSchema])] := by
    refine .cons ?rules (.cons ?label (.cons ?nested (.cons ?gate (.cons ?constraints .nil))))
    case rules => exact met_textAt h.rules
    case label => exact met_textAt h.label
    case nested => exact h.nested.met (.cons (Schema.met_kinds rfl) .nil)
    case gate =>
      intro w hw
      have hgate := h.gate
      rw [hw] at hgate
      -- There is a gate if there is a value that says it, which taking the relation apart shows.
      generalize r.gate? = gate? at hgate
      obtain ⟨gs, rfl, hmeans⟩ := hgate
      exact hmeans.met
    case constraints =>
      refine hitems.met (.cons (Schema.met_kinds rfl) (.cons (Schema.met_items fun w hw => ?_) .nil))
      obtain ⟨f, -, fs, rfl, hmeans⟩ := exists_of_forall₂_left hconstraints hw
      exact hmeans.met
  exact .cons (Schema.met_kinds rfl) (.cons (Schema.met_closed h.keys)
    (.cons (Schema.met_properties hproperties) .nil))

theorem SaysType.met {v : Value} {rules : List FieldRule} (h : SaysType v rules) : Schema.Met typeSchema v := by
  obtain ⟨es, fields, rfl, hfields, hrules⟩ := h
  have hsome : ∀ n ∈ ["fields"], (es.lookup n).isSome :=
    List.forall_mem_singleton.2 (by rw [hfields]; rfl)
  have hproperties : Schema.PropertiesMet es [("fields", [.kinds [.object], .otherProperties [] fieldSchema])] := by
    refine .cons (met_of_lookup hfields (.cons (Schema.met_kinds rfl)
      (.cons (Schema.met_otherProperties fun e he => ?_) .nil))) .nil
    obtain ⟨r, -, -, fs, hfs, hmeans⟩ := exists_of_forall₂_left hrules he
    rw [hfs]
    exact hmeans.met
  exact .cons (Schema.met_kinds rfl) (.cons (Schema.met_required hsome)
    (.cons (Schema.met_properties hproperties) .nil))

theorem SaysTable.met {v : Value} {types : List (String × List FieldRule)} (h : SaysTable v types) :
    Schema.Met schema v := by
  obtain ⟨es, paths, rfl, hkeys, hpaths, hhandlers, htypes⟩ := h
  have hproperties : Schema.PropertiesMet es [
      ("types", [.kinds [.object], .propertyNames [Schema.importPath], .otherProperties [] typeSchema]),
      ("handlers", [.kinds [.array], .items [.kinds [.string], Schema.importPath]])] := by
    refine .cons ?types (.cons ?handlers .nil)
    case types =>
      refine hpaths.met (.cons (Schema.met_kinds rfl) (.cons (Schema.met_propertyNames fun e he => ?_)
        (.cons (Schema.met_otherProperties fun e he => ?_) .nil)))
      · obtain ⟨t, -, hpath, hform, -⟩ := exists_of_forall₂_left htypes he
        exact .cons (Schema.met_form (hpath ▸ hform)) .nil
      · obtain ⟨t, -, -, -, hmeans⟩ := exists_of_forall₂_left htypes he
        exact hmeans.met
    case handlers =>
      exact hhandlers.met (.cons (Schema.met_kinds rfl)
        (.cons (Schema.met_items fun w hw => absurd hw List.not_mem_nil) .nil))
  exact .cons (Schema.met_kinds rfl) (.cons (Schema.met_closed hkeys)
    (.cons (Schema.met_properties hproperties) .nil))

end Meets

/-! ### They are read as what they say -/

section Reads
variable {es : List (String × Value)}

theorem SaysConstraint.read {f : Fragment} (h : SaysConstraint es f) : readConstraint (mapping es) = f := by
  obtain ⟨names, hnames, hgroups⟩ := h.groups
  have hname : textAt? (mapping es) "name" = some f.name := textAt?_mapping h.name
  rw [readConstraint, hname, itemsAt_mapping h.arguments, textsAt_mapping hgroups, textAt?_mapping h.message,
    Fragment.make, ← hnames]
  rfl

theorem SaysGate.read {g : Gate} (h : SaysGate es g) : readGate (mapping es) = g := by
  have hfields : Stands es "fields" (.list (g.fields.map .string)) (g.fields = []) := .inl h.fields
  have houtcome : (if textAt? (mapping es) "is" == some "rejected" then Outcome.rejected else .passed)
      = g.outcome := by
    rw [textAt?, at?_mapping]
    obtain hlookup | ⟨hlookup, houtcome⟩ := h.outcome <;> rw [hlookup]
    · cases g.outcome <;> rfl
    · rw [houtcome]
      rfl
  rw [readGate, textsAt_mapping hfields, houtcome]

theorem SaysRule.read {r : FieldRule} (h : SaysRule es r) : readField r.name (mapping es) = r := by
  obtain ⟨items, hitems, hconstraints⟩ := h.constraints
  have hread : items.map readConstraint = r.constraints := by
    rw [← List.forall₂_eq_eq_eq, List.forall₂_map_left_iff]
    refine hconstraints.imp fun w f hw => ?_
    obtain ⟨fs, rfl, hmeans⟩ := hw
    exact hmeans.read
  have hgate : (es.lookup "when").map readGate = r.gate? := by
    have hgate := h.gate
    generalize es.lookup "when" = w?, r.gate? = gate? at hgate ⊢
    cases hgate with
    | none => rfl
    | some hmeans =>
      obtain ⟨gs, rfl, hmeans⟩ := hmeans
      rw [Option.map_some, hmeans.read]
  rw [readField, textAt?_mapping h.rules, itemsAt_mapping hitems, hread, textAt?_mapping h.label,
    flagAt_mapping h.nested, at?_mapping, hgate]
  -- A document says no type, no getter and no setter, and the entry has none.
  obtain ⟨-, -, -, -, -, -, hhint, hgetter, hsetter⟩ := h
  cases r
  cases hhint
  cases hgetter
  cases hsetter
  rfl

theorem SaysType.read {v : Value} {rules : List FieldRule} (h : SaysType v rules) : readType v = rules := by
  obtain ⟨es, fields, rfl, hfields, hrules⟩ := h
  rw [readType, at?_mapping, hfields, Option.map_some, entriesOf_mapping, Option.getD_some,
    ← List.forall₂_eq_eq_eq, List.forall₂_map_left_iff]
  refine hrules.imp fun e r he => ?_
  obtain ⟨name, w⟩ := e
  obtain ⟨rfl, fs, rfl, hmeans⟩ := he
  exact hmeans.read

/-- **A document is read as what it says**, whatever source it comes from. -/
theorem SaysTable.ofValue {v : Value} {types : List (String × List FieldRule)} (h : SaysTable v types)
    (source : String) : ofValue source v = .ok ⟨types, []⟩ := by
  have hcheck := Schema.check?_of_met h.met
  obtain ⟨es, paths, rfl, -, hpaths, hhandlers, htypes⟩ := h
  have hentries : ((at? (mapping es) "types").map entriesOf).getD [] = paths := by
    rw [at?_mapping]
    obtain hlookup | ⟨hlookup, rfl⟩ := hpaths <;> rw [hlookup]
    · exact entriesOf_mapping paths
    · rfl
  have hread : paths.map (fun e => (e.1, readType e.2)) = types := by
    rw [← List.forall₂_eq_eq_eq, List.forall₂_map_left_iff]
    refine htypes.imp fun e t he => ?_
    obtain ⟨hpath, -, hmeans⟩ := he
    rw [hpath, hmeans.read]
  have hnone : textsAt (mapping es) "handlers" = [] :=
    textsAt_mapping (hhandlers.imp id fun hnone => ⟨hnone.1, rfl⟩)
  rw [TableDocument.ofValue, hcheck, ofValid, hentries, hnone]
  exact congrArg (fun types => Except.ok (⟨types, []⟩ : TableDocument)) hread

end Reads

end TableDocument

end FieldRules
