import FieldRules.Proofs.Run
import FieldRules.Proofs.Setup.Documents
import FieldRules.Proofs.Setup.Names
import FieldRules.Setup.Settings

/-!
# Settings in layers

A document is laid over the one with the defaults. Under every path to a setting then stands what the document has
there, else the default (`Layered.valueAt?_overlay`), and the layers together meet the schema if the document does
(`Layered.met_overlay_iff`): so the settings are those of the document, completed by the defaults
(`Settings.load_layers`).
-/

namespace FieldRules

open Document
open Value (keyText Named)

namespace Schema

/-! ## Demands that are met -/

section Met
variable {rightKind : Bool} {v : Value} {d : Demand} {s : Schema} {names : List String}
  {es : List (Value × Value)} {schemas : List (String × Schema)}

theorem report_eq_nil_iff {met : Bool} {message : String} : report rightKind met message = [] ↔ met = true := by
  unfold report
  cases met <;> simp

/-- Whether a demand is met does not depend on how its violations are reported. -/
theorem met_of_violationsOf (h : violationsOf rightKind v d = []) : d.Met v := by
  intro rightKind'
  unfold violationsOf at h ⊢
  cases d
  case required names =>
    dsimp only at h ⊢
    split
    · rw [List.flatMap_eq_nil_iff] at h ⊢
      exact fun n hn => report_eq_nil_iff.2 (report_eq_nil_iff.1 (h n hn))
    · rfl
  all_goals dsimp only at h ⊢
  all_goals first
    | exact report_eq_nil_iff.2 (report_eq_nil_iff.1 h)
    | split
  all_goals first
    | rfl
    | exact h
    | exact report_eq_nil_iff.2 (report_eq_nil_iff.1 h)

theorem met_of_violations (h : violations rightKind v s = []) : Met s v := by
  induction s with
  | nil => exact .nil
  | cons d s ih =>
    rw [violations, List.append_eq_nil_iff] at h
    exact .cons (met_of_violationsOf h.1) (ih h.2)

theorem check?_eq_none_iff : check? s v = none ↔ Met s v := by
  refine ⟨fun h => ?_, check?_of_met⟩
  unfold check? at h
  cases hviolations : violations (asksFor s v) v s with
  | nil => exact met_of_violations hviolations
  | cons violation rest =>
    rw [hviolations] at h
    cases h

theorem met_cons_iff : Met (d :: s) v ↔ d.Met v ∧ Met s v := by
  refine ⟨fun h => ?_, fun h => .cons h.1 h.2⟩
  have hall := h true
  rw [violations, List.append_eq_nil_iff] at hall
  exact ⟨met_of_violationsOf hall.1, met_of_violations hall.2⟩

theorem met_kinds_iff {ks : List Kind} : Demand.Met (.kinds ks) v ↔ (ks.any fun k => k.holds v) = true := by
  refine ⟨fun h => ?_, met_kinds⟩
  have hkinds := h true
  rw [violationsOf_kinds] at hkinds
  exact report_eq_nil_iff.1 hkinds

theorem met_closed_iff : Demand.Met (.closed names) (.dict es) ↔ Named names es := by
  have hreport (rightKind : Bool) : violationsOf rightKind (.dict es) (.closed names) = [] ↔ Named names es := by
    rw [violationsOf, report_eq_nil_iff, List.isEmpty_iff, List.filter_eq_nil_iff, List.forall_mem_map]
    unfold textEntries
    rw [List.forall_mem_map]
    simp only [Bool.not_eq_true', Bool.not_eq_false, List.contains_iff_mem]
    rfl
  exact ⟨fun h => (hreport true).1 (h true), fun h rightKind => (hreport rightKind).2 h⟩

theorem met_required_iff :
    Demand.Met (.required names) (.dict es) ↔ ∀ n ∈ names, ((textEntries es).lookup n).isSome := by
  have hreport (rightKind : Bool) : violationsOf rightKind (.dict es) (.required names) = [] ↔
      ∀ n ∈ names, ((textEntries es).lookup n).isSome := by
    rw [violationsOf, List.flatMap_eq_nil_iff]
    exact forall₂_congr fun n _ => report_eq_nil_iff
  exact ⟨fun h => (hreport true).1 (h true), fun h rightKind => (hreport rightKind).2 h⟩

/-- What stands under the names of schemas meets these. -/
def Fields (schemas : List (String × Schema)) (es : List (Value × Value)) : Prop :=
  ∀ p ∈ schemas, ∀ w, (textEntries es).lookup p.1 = some w → Met p.2 w

theorem propertyViolations_eq_nil_iff : propertyViolations (textEntries es) schemas = [] ↔ Fields schemas es := by
  induction schemas with
  | nil =>
    rw [propertyViolations]
    exact ⟨fun _ => List.forall_mem_nil _, fun _ => rfl⟩
  | cons p schemas ih =>
    obtain ⟨name, schema⟩ := p
    rw [propertyViolations, List.append_eq_nil_iff, ih]
    refine Iff.trans (and_congr_left fun _ => ?_) List.forall_mem_cons.symm
    cases (textEntries es).lookup name with
    | none => simp only [reduceCtorEq, false_implies, implies_true]
    | some w =>
      dsimp only
      rw [List.map_eq_nil_iff]
      exact ⟨fun h w' hw => Option.some.inj hw ▸ met_of_violations h, fun h => h w rfl _⟩

theorem met_properties_iff : Demand.Met (.properties schemas) (.dict es) ↔ Fields schemas es := by
  rw [← propertyViolations_eq_nil_iff]
  refine ⟨fun h => ?_, fun h rightKind => ?_⟩
  · have hall := h true
    rwa [violationsOf] at hall
  · rwa [violationsOf]

theorem met_items_iff {items : List Value} : Demand.Met (.items s) (.list items) ↔ ∀ w ∈ items, Met s w := by
  refine ⟨fun h w hw => ?_, met_items⟩
  have hall := h true
  rw [violationsOf, List.flatMap_eq_nil_iff] at hall
  obtain ⟨i, hi⟩ := List.mem_iff_getElem?.1 hw
  have hitem := hall (w, i) (List.mk_mem_zipIdx_iff_getElem?.2 hi)
  exact met_of_violations (List.map_eq_nil_iff.1 hitem)

theorem exists_dict_of_met (h : Demand.Met (.kinds [.object]) v) : ∃ es, v = .dict es := by
  rw [met_kinds_iff] at h
  cases v
  case dict es => exact ⟨es, rfl⟩
  all_goals cases h

theorem exists_dict_of_met_group (h : Met (Settings.groupSchema schemas) v) : ∃ es, v = .dict es :=
  exists_dict_of_met (met_cons_iff.1 h).1

theorem met_groupSchema_iff :
    Met (Settings.groupSchema schemas) (.dict es) ↔ Named (schemas.map Prod.fst) es ∧ Fields schemas es := by
  unfold Settings.groupSchema
  rw [met_cons_iff, met_cons_iff, met_cons_iff, met_closed_iff, met_properties_iff]
  exact ⟨fun h => ⟨h.2.1, h.2.2.1⟩, fun h => ⟨met_kinds rfl, h.1, h.2, .nil⟩⟩

end Met

end Schema

/-! ## Layers -/

/-- In every mapping that keys lead to, each key stands once. -/
inductive KeysOnce : Value → Prop
  | mapping {es : List (Value × Value)} (hkeys : es.Pairwise fun a b => Value.equal a.1 b.1 = false)
      (hvalues : ∀ e ∈ es, KeysOnce e.2) : KeysOnce (.dict es)
  | value {v : Value} (h : ∀ es, v ≠ .dict es) : KeysOnce v

/-- The value at a path. -/
def valueAt? : Value → List String → Option Value
  | v, [] => some v
  | v, key :: rest => (at? v key).bind fun w => valueAt? w rest

namespace Settings

section Overlay
variable {n : String} {v w d : Value} {es upper : List (Value × Value)}

theorem overlay_of_not_mapping (h : ∀ es, d ≠ .dict es) : overlay d v = v := by
  cases v
  case dict upper =>
    rw [overlay]
    exact h
  all_goals
    rw [overlay]
    exact fun _ hv => nomatch hv

theorem overlay_not_mapping (h : ∀ es, v ≠ .dict es) : overlay d v = v := by
  rw [overlay]
  exact h

theorem overlay_dict : overlay (.dict es) (.dict upper) = .dict (overlayEntries es upper) := by
  rw [overlay]

/-- No other entry is found under the name of a key that stands once. -/
theorem lookup_eq_none_of_pairwise {k : Value} (hn : Value.isSettingName (keyText k) = true)
    (h : ∀ e ∈ es, Value.equal k e.1 = false) : (Schema.textEntries es).lookup (keyText k) = none := by
  induction es with
  | nil => rfl
  | cons e es ih =>
    obtain ⟨hfirst, hrest⟩ := List.forall_mem_cons.1 h
    have hne : ¬ keyText e.1 = keyText k := fun hk => by
      rw [Value.equal_of_text? ((Value.keyText_eq_iff hn).1 rfl) ((Value.keyText_eq_iff hn).1 hk)] at hfirst
      cases hfirst
    rw [Value.lookup_textEntries_cons, if_neg hne, ih hrest]

/-- What stands under a name in entries that were laid over others. -/
theorem lookup_overlayEntries (hn : Value.isSettingName n = true)
    (honce : upper.Pairwise fun a b => Value.equal a.1 b.1 = false) :
    (Schema.textEntries (overlayEntries es upper)).lookup n =
      ((Schema.textEntries upper).lookup n).elim ((Schema.textEntries es).lookup n)
        fun w => some (overlay (((Schema.textEntries es).lookup n).getD .none) w) := by
  induction upper generalizing es with
  | nil =>
    rw [overlayEntries]
    rfl
  | cons e upper ih =>
    obtain ⟨k, v⟩ := e
    obtain ⟨hfirst, hrest⟩ := List.pairwise_cons.1 honce
    rw [overlayEntries, ih hrest, Value.lookup_insertEntry hn, Value.lookup_textEntries_cons]
    by_cases hk : keyText k = n
    · subst hk
      rw [lookup_eq_none_of_pairwise hn hfirst, if_pos rfl, if_pos rfl, Option.elim_none, Option.elim_some,
        Value.lookup?_eq hn]
    · rw [if_neg hk, if_neg hk]

theorem named_overlayEntries {names : List String} (hnames : ∀ n ∈ names, Value.isSettingName n = true) :
    Named names (overlayEntries es upper) ↔ Named names es ∧ Named names upper := by
  induction upper generalizing es with
  | nil =>
    rw [overlayEntries]
    exact (and_iff_left fun _ he => nomatch he).symm
  | cons e upper ih =>
    rw [overlayEntries, ih, Value.named_insertEntry hnames, Value.named_cons, and_assoc]

end Overlay

/-- A document with defaults for a schema: values which meet it, or a mapping in which there is one for every
name of a group. -/
inductive Layered : Schema → Value → Prop
  | value {s : Schema} {d : Value} (hvalue : d.entries? = none) (hmet : Schema.Met s d) : Layered s d
  | group {schemas : List (String × Schema)} {es : List (Value × Value)}
      (hnames : ∀ n ∈ schemas.map Prod.fst, Value.isSettingName n = true) (hnamed : Named (schemas.map Prod.fst) es)
      (hdefaults : ∀ p ∈ schemas, Layered p.2 (((Schema.textEntries es).lookup p.1).getD .none)) :
      Layered (groupSchema schemas) (.dict es)

section Layered
variable {s : Schema} {d v : Value}

theorem not_mapping (h : d.entries? = none) : ∀ es, d ≠ .dict es := by
  rintro es rfl
  cases h

theorem exists_mem_of_lookup {n : String} {w : Value} {es : List (Value × Value)}
    (h : (Schema.textEntries es).lookup n = some w) : ∃ e ∈ es, keyText e.1 = n ∧ e.2 = w := by
  obtain ⟨k, hmem, hk⟩ := mem_of_lookup h
  obtain ⟨e, he, heq⟩ := List.mem_map.1 hmem
  exact ⟨e, he, (congrArg Prod.fst heq).trans (eq_of_beq hk).symm, congrArg Prod.snd heq⟩

theorem Layered.met (h : Layered s d) : Schema.Met s d := by
  induction h with
  | value _ hmet => exact hmet
  | @group schemas es _ hnamed _ ih =>
    refine Schema.met_groupSchema_iff.2 ⟨hnamed, fun p hp w hw => ?_⟩
    have hdefault := ih p hp
    rwa [hw, Option.getD_some] at hdefault

/-- **Layers meet the schema** if the upper one does. -/
theorem Layered.met_overlay_iff (h : Layered s d) (hv : KeysOnce v) :
    Schema.Met s (overlay d v) ↔ Schema.Met s v := by
  induction h generalizing v with
  | value hvalue _ => rw [overlay_of_not_mapping (not_mapping hvalue)]
  | @group schemas es hnames hnamed hdefaults ih =>
    cases hv with
    | value hv => rw [overlay_not_mapping hv]
    | @mapping upper hkeys hvalues =>
      rw [overlay_dict, Schema.met_groupSchema_iff, Schema.met_groupSchema_iff, named_overlayEntries hnames,
        and_iff_right hnamed]
      refine and_congr_right fun _ => forall₂_congr fun p hp => ?_
      rw [lookup_overlayEntries (hnames p.1 (List.mem_map_of_mem hp)) hkeys]
      cases hlookup : (Schema.textEntries upper).lookup p.1 with
      | none =>
        -- Nothing is laid over the default, which meets its schema.
        refine iff_of_true (fun w hw => ?_) fun _ hw => nomatch hw
        have hdefault := (hdefaults p hp).met
        rw [Option.elim_none] at hw
        rwa [hw, Option.getD_some] at hdefault
      | some w =>
        obtain ⟨e, he, -, rfl⟩ := exists_mem_of_lookup hlookup
        rw [Option.elim_some]
        simp only [Option.some.injEq, forall_eq']
        exact ih p hp (hvalues e he)

/-- **What stands at a path** of layers is what the upper one has there, else what the lower one has. -/
theorem Layered.valueAt?_overlay (h : Layered s d) (hv : KeysOnce v) (hmet : Schema.Met s v) {path : List String}
    {x : Value} (hpath : valueAt? d path = some x) (hx : ∀ es, x ≠ .dict es) :
    valueAt? (overlay d v) path = (valueAt? v path).or (some x) := by
  -- one name of the path is used up in each group, so that the path changes with the document
  induction h generalizing v path with
  | @value _ d hvalue _ =>
    cases path with
    | nil =>
      rw [overlay_of_not_mapping (not_mapping hvalue)]
      rfl
    | cons key rest =>
      have hnone : at? d key = none := by
        rw [at?, entriesOf, hvalue]
        rfl
      rw [valueAt?, hnone] at hpath
      cases hpath
  | @group schemas es hnames hnamed hdefaults ih =>
    obtain ⟨upper, rfl⟩ := Schema.exists_dict_of_met_group hmet
    cases hv with
    | value hv => exact absurd rfl (hv upper)
    | mapping hkeys hvalues =>
      cases path with
      | nil =>
        cases hpath
        exact absurd rfl (hx es)
      | cons key rest =>
        obtain ⟨d, hd, hrest⟩ := Option.bind_eq_some_iff.1 hpath
        obtain ⟨e, he, hkey, -⟩ := exists_mem_of_lookup hd
        obtain ⟨p, hp, rfl⟩ := List.mem_map.1 (hkey ▸ hnamed e he)
        have hname := hnames p.1 (List.mem_map_of_mem hp)
        rw [overlay_dict]
        show ((Schema.textEntries (overlayEntries es upper)).lookup p.1).bind (fun w => valueAt? w rest)
          = (((Schema.textEntries upper).lookup p.1).bind fun w => valueAt? w rest).or (some x)
        rw [lookup_overlayEntries hname hkeys, show (Schema.textEntries es).lookup p.1 = some d from hd]
        cases hlookup : (Schema.textEntries upper).lookup p.1 with
        | none =>
          -- the upper document has nothing there, and the lower one is left as it is
          exact hrest
        | some w =>
          obtain ⟨e', he', -, rfl⟩ := exists_mem_of_lookup hlookup
          have hfield := (Schema.met_groupSchema_iff.1 hmet).2 p hp _ hlookup
          have hsame := @ih p hp e'.2 (hvalues e' he') hfield rest
          rw [show (Schema.textEntries es).lookup p.1 = some d from hd, Option.getD_some] at hsame
          exact hsame hrest

end Layered

/-! ## The defaults -/

instance (names : List String) (es : List (Value × Value)) : Decidable (Named names es) :=
  inferInstanceAs (Decidable (∀ e ∈ es, keyText e.1 ∈ names))

theorem layered_kinds {ks : List Kind} {rest : Schema} {d : Value} (hd : d.entries? = none)
    (hkinds : (ks.any fun k => k.holds d) = true) (hrest : Schema.Met rest d) : Layered (.kinds ks :: rest) d :=
  .value hd (.cons (Schema.met_kinds hkinds) hrest)

theorem layered_list (s : Schema) : Layered [.kinds [.array], .items s] (.list []) :=
  layered_kinds rfl rfl (.cons (Schema.met_items fun _ hw => nomatch hw) .nil)

/-- The document with the defaults has one for every setting, each as the schema wants it. -/
theorem layered_defaults : Layered schema defaults := by
  have hflag (b : Bool) : Layered [.kinds [.boolean]] (.bool b) := layered_kinds rfl rfl .nil
  have hmissing : Layered [.kinds [.string, .null]] .none := layered_kinds rfl rfl .nil
  have hnonempty : Demand.Met .nonEmptyText (.string Texts.keyPrefix) := by
    intro rightKind
    rw [Schema.violationsOf]
    rfl
  have hprefix : Layered [.kinds [.string], .nonEmptyText] (.string Texts.keyPrefix) :=
    layered_kinds rfl rfl (.cons hnonempty .nil)
  have hparser : Layered (groupSchema [("strict_mode", [.kinds [.boolean]])])
      (.dict [(.string "strict_mode", .bool true)]) :=
    .group (by decide) (by decide) (List.forall_iff_forall_mem.1 (hflag true))
  have hvalidation : Layered
      (groupSchema [("single_failure_mode", [.kinds [.boolean]]), ("strict_dispatch", [.kinds [.boolean]])])
      (.dict [(.string "single_failure_mode", .bool false), (.string "strict_dispatch", .bool false)]) :=
    .group (by decide) (by decide) (List.forall_iff_forall_mem.1 ⟨hflag false, hflag false⟩)
  have hmessages : Layered
      (groupSchema [("default_locale", [.kinds [.string, .null]]), ("warning_log", [.kinds [.boolean]]),
        ("key_prefix", [.kinds [.string], .nonEmptyText]), ("bundles", [.kinds [.array], .items bundleSchema])])
      (.dict [(.string "default_locale", .none), (.string "warning_log", .bool true),
        (.string "key_prefix", .string Texts.keyPrefix), (.string "bundles", .list [])]) :=
    .group (by decide) (by decide)
      (List.forall_iff_forall_mem.1 ⟨hmissing, hflag true, hprefix, layered_list _⟩)
  exact .group (by decide) (by decide) (List.forall_iff_forall_mem.1
    ⟨hparser, hvalidation, hmessages, layered_list _, layered_list _, hmissing⟩)

/-! ## Reading -/

/-- A text that may be missing, as a value. -/
def optionalText (text? : Option String) : Value :=
  (text?.map .string).getD .none

/-- A setting for a bundle says what a mapping says. -/
structure BundleOf (v : Value) (b : BundleSetting) : Prop where
  base : at? v "base_name" = some (.string b.base)
  preload : at? v "preload" = some (.list (b.preload.map .string)) ∨ at? v "preload" = none ∧ b.preload = []

/-- The settings are the values at their paths. -/
structure Of (value : List String → Option Value) (s : Settings) : Prop where
  strict : value ["parser", "strict_mode"] = some (.bool s.strict)
  stopsAtFirst : value ["validation", "single_failure_mode"] = some (.bool s.stopsAtFirst)
  strictDispatch : value ["validation", "strict_dispatch"] = some (.bool s.strictDispatch)
  defaultLocale : value ["messages", "default_locale"] = some (optionalText s.defaultLocale?)
  warns : value ["messages", "warning_log"] = some (.bool s.warns)
  keyPrefix : value ["messages", "key_prefix"] = some (.string s.keyPrefix)
  bundles : ∃ items, value ["messages", "bundles"] = some (.list items) ∧ List.Forall₂ BundleOf items s.bundles
  handlers : value ["handlers"] = some (.list (s.handlers.map .string))
  tables : value ["rule_tables"] = some (.list (s.tables.map .string))
  cache : value ["cache_dir"] = some (optionalText s.cache?)

section Reading
variable {v x : Value} {key name group : String} {schemas inner : List (String × Schema)} {s : Schema}

theorem at?_of_met (hmet : Schema.Met (groupSchema schemas) v) (hs : (name, s) ∈ schemas)
    (h : valueAt? v [name] = some x) : at? v name = some x ∧ Schema.Met s x := by
  obtain ⟨es, rfl⟩ := Schema.exists_dict_of_met_group hmet
  obtain ⟨w, hw, hx⟩ := Option.bind_eq_some_iff.1 h
  cases hx
  exact ⟨hw, (Schema.met_groupSchema_iff.1 hmet).2 _ hs _ hw⟩

/-- A setting of a document that meets the schema lies under its name, and meets its own schema. -/
theorem setting_of_met {value : List String → Option Value} (hmet : Schema.Met (groupSchema schemas) v)
    (hs : (name, s) ∈ schemas) (h : ∃ y, valueAt? v [name] = some y ∧ value [name] = some y) :
    ∃ y, value [name] = some y ∧ at? v name = some y ∧ Schema.Met s y := by
  obtain ⟨y, hv, hy⟩ := h
  exact ⟨y, hy, at?_of_met hmet hs hv⟩

/-- So does one in a group. -/
theorem grouped_of_met {value : List String → Option Value} (hmet : Schema.Met (groupSchema schemas) v)
    (hgroup : (group, groupSchema inner) ∈ schemas) (hs : (name, s) ∈ inner)
    (h : ∃ y, valueAt? v [group, name] = some y ∧ value [group, name] = some y) :
    ∃ y, value [group, name] = some y ∧ at? ((at? v group).getD .none) name = some y ∧ Schema.Met s y := by
  obtain ⟨y, hv, hy⟩ := h
  obtain ⟨w, hw, hname⟩ := Option.bind_eq_some_iff.1 hv
  have hthere : valueAt? v [group] = some w := by
    rw [valueAt?, hw]
    rfl
  rw [hw, Option.getD_some]
  exact ⟨y, hy, at?_of_met (at?_of_met hmet hgroup hthere).2 hs hname⟩

theorem eq_bool_of_met (h : at? v key = some x) (hx : Schema.Met [.kinds [.boolean]] x) (otherwise : Bool) :
    x = .bool (flagAt v key otherwise) := by
  have hkinds := Schema.met_kinds_iff.1 (Schema.met_cons_iff.1 hx).1
  unfold flagAt
  rw [h]
  cases x
  case bool b => rfl
  all_goals cases hkinds

theorem eq_string_of_met {rest : Schema} (h : at? v key = some x) (hx : Schema.Met (.kinds [.string] :: rest) x)
    (otherwise : String) : x = .string ((textAt? v key).getD otherwise) := by
  have hkinds := Schema.met_kinds_iff.1 (Schema.met_cons_iff.1 hx).1
  rw [textAt?, h]
  cases x
  case string s => rfl
  all_goals cases hkinds

theorem eq_optionalText_of_met (h : at? v key = some x) (hx : Schema.Met [.kinds [.string, .null]] x) :
    x = optionalText (textAt? v key) := by
  have hkinds := Schema.met_kinds_iff.1 (Schema.met_cons_iff.1 hx).1
  rw [textAt?, h]
  cases x
  case string s => rfl
  case none => rfl
  all_goals cases hkinds

theorem eq_list_of_met {rest : Schema} (h : at? v key = some x)
    (hx : Schema.Met (.kinds [.array] :: .items s :: rest) x) :
    x = .list (itemsAt v key) ∧ ∀ w ∈ itemsAt v key, Schema.Met s w := by
  obtain ⟨hkinds, hrest⟩ := Schema.met_cons_iff.1 hx
  have hitems := (Schema.met_cons_iff.1 hrest).1
  rw [Schema.met_kinds_iff] at hkinds
  unfold itemsAt
  rw [h]
  cases x
  case list items => exact ⟨rfl, Schema.met_items_iff.1 hitems⟩
  all_goals cases hkinds

theorem eq_texts_of_met {rest more : Schema} (h : at? v key = some x)
    (hx : Schema.Met (.kinds [.array] :: .items (.kinds [.string] :: more) :: rest) x) :
    x = .list ((textsAt v key).map .string) := by
  obtain ⟨hlist, hitems⟩ := eq_list_of_met h hx
  rw [hlist, textsAt]
  congr 1
  generalize itemsAt v key = items at hitems
  induction items with
  | nil => rfl
  | cons w items ih =>
    obtain ⟨hfirst, hrest⟩ := List.forall_mem_cons.1 hitems
    have hkinds := Schema.met_kinds_iff.1 (Schema.met_cons_iff.1 hfirst).1
    cases w
    case string t =>
      have htext : (Value.string t).text? = some t := rfl
      rw [List.filterMap_cons_some htext, List.map_cons, ← ih hrest]
    all_goals cases hkinds

theorem bundleOf_readBundle (h : Schema.Met bundleSchema v) : BundleOf v (readBundle v) := by
  unfold bundleSchema at h
  obtain ⟨hkinds, h⟩ := Schema.met_cons_iff.1 h
  obtain ⟨-, h⟩ := Schema.met_cons_iff.1 h
  obtain ⟨hrequired, h⟩ := Schema.met_cons_iff.1 h
  obtain ⟨es, rfl⟩ := Schema.exists_dict_of_met hkinds
  have hthere := Schema.met_required_iff.1 hrequired "base_name" (List.mem_singleton_self _)
  have hfields := Schema.met_properties_iff.1 (Schema.met_cons_iff.1 h).1
  obtain ⟨b, hb⟩ := Option.isSome_iff_exists.1 hthere
  constructor
  · have hbase : at? (.dict es) "base_name" = some b := hb
    rw [hbase, eq_string_of_met hbase (hfields _ (List.mem_cons_self ..) _ hb) ""]
    rfl
  · cases hpreload : at? (.dict es) "preload" with
    | none =>
      refine .inr ⟨rfl, ?_⟩
      show textsAt (.dict es) "preload" = []
      unfold textsAt itemsAt
      rw [hpreload]
      rfl
    | some x =>
      rw [eq_texts_of_met hpreload (hfields _ (List.mem_cons_of_mem _ (List.mem_cons_self ..)) _ hpreload)]
      exact .inl rfl

/-- The flag of a group is what is read from the document. -/
theorem flag_of_met {value : List String → Option Value} (hmet : Schema.Met (groupSchema schemas) v)
    (hgroup : (group, groupSchema inner) ∈ schemas) (hs : (name, [.kinds [.boolean]]) ∈ inner)
    (h : ∃ y, valueAt? v [group, name] = some y ∧ value [group, name] = some y) (otherwise : Bool) :
    value [group, name] = some (.bool (flagAt ((at? v group).getD .none) name otherwise)) := by
  obtain ⟨y, hy, hat, hy'⟩ := grouped_of_met hmet hgroup hs h
  rw [hy, eq_bool_of_met hat hy' otherwise]

/-- So are the texts of a list. -/
theorem texts_of_met {value : List String → Option Value} {more rest : Schema}
    (hmet : Schema.Met (groupSchema schemas) v)
    (hs : (name, .kinds [.array] :: .items (.kinds [.string] :: more) :: rest) ∈ schemas)
    (h : ∃ y, valueAt? v [name] = some y ∧ value [name] = some y) :
    value [name] = some (.list ((textsAt v name).map .string)) := by
  obtain ⟨y, hy, hat, hy'⟩ := setting_of_met hmet hs h
  rw [hy, eq_texts_of_met hat hy']

/-- The settings that are read from a document that meets the schema, in which there is one for every path. -/
theorem of_ofValid {value : List String → Option Value} {base? : Option Path} (hmet : Schema.Met schema v)
    (hvalue : ∀ path x, valueAt? defaults path = some x → (∀ es, x ≠ .dict es) →
      ∃ y, valueAt? v path = some y ∧ value path = some y) : Of value (ofValid base? v) := by
  -- each setting is found by its place in the schema, and is there since the defaults have one
  constructor
  case strict =>
    exact flag_of_met hmet (.head _) (.head _) (hvalue _ _ rfl fun _ h => nomatch h) true
  case stopsAtFirst =>
    exact flag_of_met hmet (.tail _ (.head _)) (.head _) (hvalue _ _ rfl fun _ h => nomatch h) false
  case strictDispatch =>
    exact flag_of_met hmet (.tail _ (.head _)) (.tail _ (.head _)) (hvalue _ _ rfl fun _ h => nomatch h) false
  case defaultLocale =>
    obtain ⟨y, hy, hat, hy'⟩ := grouped_of_met hmet (.tail _ (.tail _ (.head _))) (.head _)
      (hvalue _ _ rfl fun _ h => nomatch h)
    rw [hy, eq_optionalText_of_met hat hy']
    rfl
  case warns =>
    exact flag_of_met hmet (.tail _ (.tail _ (.head _))) (.tail _ (.head _))
      (hvalue _ _ rfl fun _ h => nomatch h) true
  case keyPrefix =>
    obtain ⟨y, hy, hat, hy'⟩ := grouped_of_met hmet (.tail _ (.tail _ (.head _))) (.tail _ (.tail _ (.head _)))
      (hvalue _ _ rfl fun _ h => nomatch h)
    rw [hy, eq_string_of_met hat hy' Texts.keyPrefix]
    rfl
  case bundles =>
    obtain ⟨y, hy, hat, hy'⟩ := grouped_of_met hmet (.tail _ (.tail _ (.head _)))
      (.tail _ (.tail _ (.tail _ (.head _)))) (hvalue _ _ rfl fun _ h => nomatch h)
    obtain ⟨hlist, hitems⟩ := eq_list_of_met hat hy'
    refine ⟨_, by rw [hy, hlist], ?_⟩
    show List.Forall₂ BundleOf _ ((itemsAt ((at? v "messages").getD .none) "bundles").map readBundle)
    rw [List.forall₂_map_right_iff, List.forall₂_same]
    exact fun item hitem => bundleOf_readBundle (hitems item hitem)
  case handlers =>
    exact texts_of_met hmet (.tail _ (.tail _ (.tail _ (.head _)))) (hvalue _ _ rfl fun _ h => nomatch h)
  case tables =>
    exact texts_of_met hmet (.tail _ (.tail _ (.tail _ (.tail _ (.head _)))))
      (hvalue _ _ rfl fun _ h => nomatch h)
  case cache =>
    obtain ⟨y, hy, hat, hy'⟩ := setting_of_met hmet (.tail _ (.tail _ (.tail _ (.tail _ (.tail _ (.head _))))))
      (hvalue _ _ rfl fun _ h => nomatch h)
    rw [hy, eq_optionalText_of_met hat hy']
    rfl

end Reading

/-! ## Loading -/

/-- The document that is laid over the defaults where settings are loaded. -/
def Overrides (uri : String) (s : Store) (override : Value) : Prop :=
  if uri.isEmpty then override = .dict [] else (fetchOverride uri s).1 = .ok override

/-- What is loaded if a document is laid over the defaults: the settings are the values of the document at their
paths, completed by the defaults, which are left as they were. -/
structure Layers (place : Path) (upper : Value) (l : Loaded) : Prop where
  settings : Of (fun path => (valueAt? upper path).or (valueAt? defaults path)) l.settings
  base : l.settings.base? = some place
  override : l.override = upper
  merged : l.merged = overlay defaults upper
  bundled : l.bundled = defaults

section Loading
variable {uri : String} {s : Store} {base : Path} {override : Value}

theorem ofOverride_of_met (h : Schema.Met schema (overlay defaults override)) :
    ofOverride base override = .ok ⟨ofValid (some base) (overlay defaults override), defaults, override,
      overlay defaults override⟩ := by
  unfold ofOverride
  dsimp only
  rw [Schema.check?_of_met h]
  rfl

theorem load_eq (hbase : baseOf s.place uri = .ok base) (hoverride : Overrides uri s override) :
    (load uri s).1 = (ofOverride base override).mapError Error.setup := by
  unfold Overrides at hoverride
  unfold load
  rw [Cache.Run.bind_of_ok (Cache.Run.get_eq s), hbase, Cache.Run.bind_of_ok (Cache.Run.lift_eq _ _)]
  by_cases huri : uri.isEmpty = true
  · rw [if_pos huri] at hoverride ⊢
    rw [Cache.Run.bind_of_ok (Cache.Run.pure_eq _ _), hoverride]
    exact congrArg Prod.fst (Cache.Run.lift_eq _ _)
  · rw [if_neg huri] at hoverride ⊢
    rw [Cache.Run.bind_of_ok (Prod.ext hoverride rfl)]
    exact congrArg Prod.fst (Cache.Run.lift_eq _ _)

/-- **Settings come in layers.** The layers meet the schema if the document that is laid over the defaults does. Then
every setting is that of the document if it has one, and that of the defaults otherwise; else the settings are
refused. The defaults are the same for whoever loads settings afterwards. -/
theorem load_layers (honce : KeysOnce override) (hbase : baseOf s.place uri = .ok base)
    (hoverride : Overrides uri s override) :
    (schema.check? (overlay defaults override) = none ↔ schema.check? override = none) ∧
    (schema.check? override = none → ∃ l, (load uri s).1 = .ok l ∧ Layers base override l) ∧
    (schema.check? override ≠ none →
      ∃ place reason, (load uri s).1 = .error (.setup (.invalidConfig place reason))) ∧
    ∃ l, (load "" (load uri s).2).1 = .ok l ∧ l.bundled = defaults ∧ l.merged = defaults := by
  have hiff : schema.check? (overlay defaults override) = none ↔ schema.check? override = none := by
    rw [Schema.check?_eq_none_iff, Schema.check?_eq_none_iff]
    exact layered_defaults.met_overlay_iff honce
  have hload := load_eq hbase hoverride
  refine ⟨hiff, fun hvalid => ?valid, fun hinvalid => ?invalid, ?again⟩
  case valid =>
    have hmerged := Schema.check?_eq_none_iff.1 (hiff.2 hvalid)
    rw [ofOverride_of_met hmerged] at hload
    refine ⟨_, hload, of_ofValid hmerged fun path x hpath hx => ?_, rfl, rfl, rfl, rfl⟩
    refine ⟨(valueAt? override path).getD x, ?_, ?_⟩
    · rw [layered_defaults.valueAt?_overlay honce (Schema.check?_eq_none_iff.1 hvalid) hpath hx]
      exact Option.or_some ..
    · rw [hpath]
      exact Option.or_some ..
  case invalid =>
    obtain ⟨violation, hviolation⟩ := Option.ne_none_iff_exists'.1 fun h => hinvalid (hiff.1 h)
    refine ⟨violation.place, violation.message, ?_⟩
    rw [hload, ofOverride, hviolation]
    rfl
  case again =>
    -- The defaults are no part of what is changed, so an empty document is laid over them as before.
    have hdefaults : overlay defaults (.dict []) = defaults := by
      unfold defaults
      rw [overlay_dict, overlayEntries]
    have hmet := layered_defaults.met
    rw [← hdefaults] at hmet
    have hagain : (load "" (load uri s).2).1 = (ofOverride (load uri s).2.place (.dict [])).mapError Error.setup :=
      load_eq rfl rfl
    rw [ofOverride_of_met hmet] at hagain
    exact ⟨_, hagain, rfl, hdefaults⟩

/-- A document with some settings. -/
def someSettings : Value :=
  mapping [("cache_dir", .string "kept"), ("messages", mapping [
    ("default_locale", .string "de"), ("bundles", .list [mapping [("base_name", .string "messages")]])])]

/-- A place with a file in which there are some settings. -/
def settingsFile : Store where
  files := [(["settings.yaml"], .document someSettings)]

/-- The settings in the file are loaded, and the others are the defaults. -/
theorem load_layers_file : ∃ l, (load "settings.yaml" settingsFile).1 = .ok l ∧
    Layers { start := "/" } someSettings l := by
  have hscalar (t : String) : KeysOnce (.string t) := .value fun _ h => nomatch h
  have hlist (items : List Value) : KeysOnce (.list items) := .value fun _ h => nomatch h
  have honce : KeysOnce someSettings := by
    refine .mapping (by simp [Value.equal, Value.text?]) (List.forall_mem_cons.2 ⟨hscalar _, ?_⟩)
    refine List.forall_mem_cons.2 ⟨?_, List.forall_mem_nil _⟩
    refine .mapping (by simp [Value.equal, Value.text?]) ?_
    exact List.forall_mem_cons.2 ⟨hscalar _, List.forall_mem_cons.2 ⟨hlist _, List.forall_mem_nil _⟩⟩
  have hbase : baseOf settingsFile.place "settings.yaml" = .ok { start := "/" } := by decide +kernel
  have hpath : Path.ofString "settings.yaml" = { parts := ["settings.yaml"] } := by decide +kernel
  have hfetch (f : Fetcher) :
      Store.fetch f "settings.yaml" = Store.readFile (f.base.join (Path.ofString "settings.yaml")) := rfl
  have hoverride : Overrides "settings.yaml" settingsFile someSettings := by
    show (fetchOverride "settings.yaml" settingsFile).1 = _
    unfold fetchOverride Store.fetchDocument
    rw [Cache.Run.bind_of_ok (Cache.Run.get_eq _), hfetch, hpath]
    rfl
  have hvalid : schema.check? someSettings = none := rfl
  exact (load_layers honce hbase hoverride).2.1 hvalid

end Loading

end Settings

end FieldRules
