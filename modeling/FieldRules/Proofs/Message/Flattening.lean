import FieldRules.Message.Catalog
import FieldRules.Proofs.Entries
import FieldRules.Proofs.Value.Writing

/-!
# Catalogs of nested mappings

The leaves of a mapping stand in the order of the document, each with the keys on the way to it (`Catalog.Leaves`). The
catalog of the mapping is made from them alone: under each name it has the text of the last leaf with this name
(`Catalog.flatten_keyed`). There is no catalog if a leaf has no text, which is so for an integer that is too long to be
written.
-/

namespace FieldRules

namespace Catalog

variable {entries entries' inner : List (Value × Value)} {leaves leaves' : List (List String × Value)}
variable {path name text : String} {v : Value}

/-! ## Leaves -/

/-- All keys of the mapping, and of those that are nested in it, have a text, which is not empty. -/
inductive Keyed : List (Value × Value) → Prop
  | nil : Keyed []
  | cons {k v : Value} {name : String} {rest : List (Value × Value)} (hk : k.text = .ok name) (hne : name ≠ "")
      (hv : ∀ inner, v.entries? = some inner → Keyed inner) (hrest : Keyed rest) : Keyed ((k, v) :: rest)

/-- The leaves of a mapping in the order of the document, each with the texts of the keys on the way to it. -/
inductive Leaves : List (Value × Value) → List (List String × Value) → Prop
  | nil : Leaves [] []
  /-- A missing value is no leaf. -/
  | missing {k : Value} {name : String} {rest : List (Value × Value)} {leaves : List (List String × Value)}
      (hk : k.text = .ok name) (hne : name ≠ "") (hrest : Leaves rest leaves) : Leaves ((k, .none) :: rest) leaves
  /-- A nested mapping has the leaves of its entries. -/
  | mapping {k v : Value} {name : String} {inner rest : List (Value × Value)}
      {leaves leaves' : List (List String × Value)} (hk : k.text = .ok name) (hne : name ≠ "")
      (hv : v.entries? = some inner) (hinner : Leaves inner leaves) (hrest : Leaves rest leaves') :
      Leaves ((k, v) :: rest) (leaves.map (fun l => (name :: l.1, l.2)) ++ leaves')
  /-- Any other value is a leaf. -/
  | leaf {k v : Value} {name : String} {rest : List (Value × Value)} {leaves : List (List String × Value)}
      (hk : k.text = .ok name) (hne : name ≠ "") (hv : v.entries? = none) (hpresent : v ≠ .none)
      (hrest : Leaves rest leaves) : Leaves ((k, v) :: rest) (([name], v) :: leaves)

theorem Keyed.exists_leaves (h : Keyed entries) : ∃ leaves, Leaves entries leaves := by
  induction h with
  | nil => exact ⟨[], .nil⟩
  | @cons k v name rest hk hne _ _ ihv ihrest =>
    obtain ⟨leaves, hrest⟩ := ihrest
    cases hv : v.entries? with
    | some inner =>
      obtain ⟨below, hinner⟩ := ihv inner hv
      exact ⟨_, .mapping hk hne hv hinner hrest⟩
    | none =>
      by_cases hnone : v = .none
      · rw [hnone]
        exact ⟨leaves, .missing hk hne hrest⟩
      · exact ⟨_, .leaf hk hne hv hnone hrest⟩

/-- There are keys on the way to a leaf. -/
theorem Leaves.keys_ne_nil (h : Leaves entries leaves) : ∀ l ∈ leaves, l.1 ≠ [] := by
  induction h with
  | nil => exact List.forall_mem_nil _
  | missing _ _ _ ih => exact ih
  | mapping _ _ _ _ _ _ ih =>
    rw [List.forall_mem_append, List.forall_mem_map]
    exact ⟨fun _ _ => List.cons_ne_nil _ _, ih⟩
  | leaf _ _ _ _ _ ih => exact List.forall_mem_cons.2 ⟨List.cons_ne_nil _ _, ih⟩

/-- The second mapping is the first one with a missing value more, at any depth. -/
inductive Inserts : List (Value × Value) → List (Value × Value) → Prop
  | here {k : Value} {name : String} (rest : List (Value × Value)) (hk : k.text = .ok name) (hne : name ≠ "") :
      Inserts rest ((k, .none) :: rest)
  | later {rest rest' : List (Value × Value)} (e : Value × Value) (h : Inserts rest rest') :
      Inserts (e :: rest) (e :: rest')
  | within {v v' : Value} {inner inner' : List (Value × Value)} (k : Value) (rest : List (Value × Value))
      (hv : v.entries? = some inner) (hv' : v'.entries? = some inner') (h : Inserts inner inner') :
      Inserts ((k, v) :: rest) ((k, v') :: rest)

/-- A missing value does not change the leaves. -/
theorem Inserts.keeps_leaves (h : Inserts entries entries') (hleaves : Leaves entries leaves) :
    Leaves entries' leaves := by
  induction h generalizing leaves with
  | here rest hk hne => exact .missing hk hne hleaves
  | later e _ ih =>
    cases hleaves with
    | missing hk hne hrest => exact .missing hk hne (ih hrest)
    | mapping hk hne hv hinner hrest => exact .mapping hk hne hv hinner (ih hrest)
    | leaf hk hne hv hpresent hrest => exact .leaf hk hne hv hpresent (ih hrest)
  | within k rest hv hv' _ ih =>
    cases hleaves with
    | missing => cases hv
    | mapping hk hne hv₁ hinner hrest =>
      cases hv.symm.trans hv₁
      exact .mapping hk hne hv' (ih hinner) hrest
    | leaf _ _ hv₁ => cases hv.symm.trans hv₁

/-! ## Names -/

/-- The name of what stands behind keys at a path: the path, if there is one, and the keys, with dots between them. -/
def nameAt (path : String) (keys : List String) : String :=
  ".".intercalate (if path.isEmpty then keys else path :: keys)

theorem nameAt_nil (hpath : path ≠ "") : nameAt path [] = path := by
  simp [nameAt, hpath]

/-- The name at a path is the name without one, with the path and a dot in front of it. -/
theorem nameAt_of_ne (hpath : path ≠ "") {keys : List String} (hkeys : keys ≠ []) :
    nameAt path keys = path ++ "." ++ nameAt "" keys := by
  obtain ⟨key, keys, rfl⟩ := List.exists_cons_of_ne_nil hkeys
  simp [nameAt, hpath, String.intercalate_cons_cons]

theorem extend_ne_empty (hne : name ≠ "") : extend path name ≠ "" := by
  unfold extend
  split
  · exact hne
  · simp

/-- What stands under a key stands at the path with that key. -/
theorem nameAt_extend (hne : name ≠ "") (keys : List String) :
    nameAt (extend path name) keys = nameAt path (name :: keys) := by
  by_cases hpath : path = ""
  · subst hpath
    have hextend : extend "" name = name := rfl
    rw [hextend]
    simp [nameAt, hne]
  · have hextend : extend path name = path ++ "." ++ name := by simp [extend, hpath]
    cases keys with
    | nil =>
      rw [nameAt_nil (extend_ne_empty hne), nameAt_of_ne hpath (List.cons_ne_nil _ _), hextend]
      simp [nameAt]
    | cons key keys =>
      rw [nameAt_of_ne (extend_ne_empty hne) (List.cons_ne_nil _ _), nameAt_of_ne hpath (List.cons_ne_nil _ _), hextend]
      simp [nameAt, String.intercalate_cons_cons, String.append_assoc]

/-! ## Texts -/

/-- The name and the text of a leaf. -/
def textAt (path : String) (leaf : List String × Value) : Except Fault (String × String) := do
  return (nameAt path leaf.1, ← leaf.2.text)

theorem leavesOfFields_eq (path : String) (own : List (String × Value)) :
    leavesOfFields path own = leavesOfEntries path (own.map fun f => (.string f.1, f.2)) := by
  induction own with
  | nil => simp [leavesOfFields, leavesOfEntries]
  | cons f own ih =>
    rw [leavesOfFields, ih, List.map_cons, leavesOfEntries]
    rfl

theorem leaves_of_entries? (h : v.entries? = some inner) (path : String) :
    Catalog.leaves path v = leavesOfEntries path inner := by
  cases v with
  | dict entries =>
    cases h
    rw [Catalog.leaves]
  | obj c shared own =>
    rw [Value.entries?] at h
    split at h
    · next hmapping =>
      cases h
      rw [Catalog.leaves, if_pos hmapping, leavesOfFields_eq]
    · cases h
  | _ => cases h

theorem leaves_of_leaf (h : v.entries? = none) (hpresent : v ≠ .none) (path : String) :
    Catalog.leaves path v = (do return [(path, ← v.text)]) := by
  cases v with
  | none => exact absurd rfl hpresent
  | dict entries => cases h
  | obj c shared own =>
    rw [Value.entries?] at h
    split at h
    · cases h
    · next hother => rw [Catalog.leaves, if_neg hother]
  | _ => rfl

theorem leavesOfEntries_cons {k : Value} (hk : k.text = .ok name) (path : String) (v : Value)
    (rest : List (Value × Value)) : leavesOfEntries path ((k, v) :: rest) = do
      let here ← Catalog.leaves (extend path name) v
      return here ++ (← leavesOfEntries path rest) := by
  rw [leavesOfEntries, hk]
  rfl

/-- The texts of a mapping are those of its leaves. -/
theorem Leaves.leavesOfEntries_eq (h : Leaves entries leaves) (path : String) :
    leavesOfEntries path entries = leaves.mapM (textAt path) := by
  induction h generalizing path with
  | nil => rw [leavesOfEntries, List.mapM_nil]
  | missing hk _ _ ih =>
    rw [leavesOfEntries_cons hk, ← ih]
    simp [Catalog.leaves]
  | @mapping k v name inner rest leaves leaves' hk hne hv _ _ ihinner ihrest =>
    have hbelow : (textAt path ∘ fun l => (name :: l.1, l.2)) = textAt (extend path name) := by
      funext l
      rw [Function.comp_apply, textAt, textAt, nameAt_extend hne]
    rw [leavesOfEntries_cons hk, List.mapM_append, List.mapM_map, hbelow, ← ihinner, ← ihrest]
    simp [leaves_of_entries? hv]
  | @leaf k v name rest leaves hk hne hv hpresent _ ih =>
    have hname : nameAt path [name] = extend path name := by
      rw [← nameAt_extend hne, nameAt_nil (extend_ne_empty hne)]
    rw [leavesOfEntries_cons hk, List.mapM_cons, ← ih, textAt, hname]
    simp [leaves_of_leaf hv hpresent]

/-- The catalog of a mapping is made from its leaves. -/
theorem Leaves.flatten_eq (h : Leaves entries leaves) (hv : v.entries? = some entries) (path : String) :
    flatten path v = do return ofLeaves (← leaves.mapM (textAt path)) := by
  rw [flatten, hv, ← h.leavesOfEntries_eq]

theorem textAt_eq_ok_iff {leaf : List String × Value} {e : String × String} :
    textAt path leaf = .ok e ↔ nameAt path leaf.1 = e.1 ∧ leaf.2.text = .ok e.2 := by
  obtain ⟨name, text⟩ := e
  unfold textAt
  cases leaf.2.text with
  | error f => exact ⟨nofun, fun h => nomatch h.2⟩
  | ok s =>
    show Except.ok (nameAt path leaf.1, s) = .ok (name, text) ↔ nameAt path leaf.1 = name ∧ Except.ok s = .ok text
    rw [Except.ok.injEq, Except.ok.injEq, Prod.mk.injEq]

theorem textAt_eq_error_iff {leaf : List String × Value} {f : Fault} :
    textAt path leaf = .error f ↔ leaf.2.text = .error f := by
  unfold textAt
  cases leaf.2.text with
  | error f' =>
    show Except.error f' = .error f ↔ Except.error f' = .error f
    rw [Except.error.injEq, Except.error.injEq]
  | ok s => exact ⟨nofun, nofun⟩

/-! ## Catalogs -/

variable {c : Catalog} {key : String} {texts : List (String × String)}

theorem get?_insert (name text key : String) (c : Catalog) :
    get? (insert name text c) key = if key = name then some text else get? c key := by
  unfold get?
  induction c with
  | nil => by_cases h : key = name <;> simp [insert, h]
  | cons e c ih =>
    obtain ⟨n, t⟩ := e
    by_cases hn : n = name
    · subst hn
      rw [insert, if_pos (beq_self_eq_true n), List.lookup_cons, List.lookup_cons]
      by_cases h : key = n
      · simp [h]
      · simp [h, beq_eq_false_iff_ne.2 h]
    · rw [insert, if_neg (by simpa using hn), List.lookup_cons, List.lookup_cons, ih]
      by_cases h : key = n
      · subst h
        simp [hn]
      · simp [beq_eq_false_iff_ne.2 h]

/-- Puts texts into a catalog, one after the other. -/
def insertAll (texts : List (String × String)) (c : Catalog) : Catalog :=
  texts.foldl (fun c e => insert e.1 e.2 c) c

theorem ofLeaves_eq (texts : List (String × String)) : ofLeaves texts = insertAll texts [] :=
  rfl

/-- Under each name there is the last one of the texts, or what was there before. -/
theorem get?_insertAll (texts : List (String × String)) (c : Catalog) (key : String) :
    get? (insertAll texts c) key = (texts.reverse.lookup key).or (get? c key) := by
  induction texts generalizing c with
  | nil => rfl
  | cons e texts ih =>
    obtain ⟨name, text⟩ := e
    have hnext : insertAll ((name, text) :: texts) c = insertAll texts (insert name text c) := rfl
    rw [hnext, ih, get?_insert, List.reverse_cons, List.lookup_append, Option.or_assoc]
    by_cases h : key = name
    · simp [h]
    · simp [List.lookup_cons, beq_eq_false_iff_ne.2 h, h]

theorem get?_ofLeaves (texts : List (String × String)) (key : String) :
    get? (ofLeaves texts) key = texts.reverse.lookup key := by
  have hempty : get? [] key = none := rfl
  rw [ofLeaves_eq, get?_insertAll, hempty, Option.or_none]

theorem get?_ofLeaves_eq_some_iff : get? (ofLeaves texts) key = some text ↔
    ∃ before after, texts = before ++ (key, text) :: after ∧ ∀ e ∈ after, e.1 ≠ key := by
  rw [get?_ofLeaves, List.lookup_eq_some_iff]
  constructor
  · rintro ⟨after, before, htexts, hafter⟩
    refine ⟨before.reverse, after.reverse, ?_, ?_⟩
    · rw [← List.reverse_reverse texts, htexts]
      simp
    · intro e he
      have hne := hafter e (List.mem_reverse.1 he)
      exact fun h => by simp [h] at hne
  · rintro ⟨before, after, rfl, hafter⟩
    refine ⟨after.reverse, before.reverse, by simp, ?_⟩
    intro e he
    have hne := hafter e (List.mem_reverse.1 he)
    exact bne_iff_ne.2 (Ne.symm hne)

section Renaming
variable {f : String → String}

theorem insert_map (hf : Function.Injective f) (name text : String) (c : Catalog) :
    insert (f name) text (c.map fun e => (f e.1, e.2)) = (insert name text c).map fun e => (f e.1, e.2) := by
  induction c with
  | nil => rfl
  | cons e c ih =>
    by_cases h : e.1 = name
    · simp [insert, h]
    · have hne : f e.1 ≠ f name := fun heq => h (hf heq)
      simp [insert, h, hne, ih]

/-- Other names, different for different names, give the same catalog under the other names. -/
theorem insertAll_map (hf : Function.Injective f) (texts : List (String × String)) (c : Catalog) :
    insertAll (texts.map fun e => (f e.1, e.2)) (c.map fun e => (f e.1, e.2)) =
      (insertAll texts c).map fun e => (f e.1, e.2) := by
  induction texts generalizing c with
  | nil => rfl
  | cons e texts ih =>
    have hnext : insertAll (e :: texts) c = insertAll texts (insert e.1 e.2 c) := rfl
    rw [hnext, ← ih, ← insert_map hf]
    rfl

theorem ofLeaves_map (hf : Function.Injective f) (texts : List (String × String)) :
    ofLeaves (texts.map fun e => (f e.1, e.2)) = (ofLeaves texts).map fun e => (f e.1, e.2) :=
  insertAll_map hf texts []

end Renaming

/-! ## Catalogs of mappings -/

/-- A mapping has no catalog exactly if a leaf has no text; the first one in the order of the document is reported. -/
theorem Leaves.flatten_eq_error_iff (h : Leaves entries leaves) (hv : v.entries? = some entries) (path : String)
    (f : Fault) : flatten path v = .error f ↔ ∃ before leaf after, leaves = before ++ leaf :: after ∧
      (∀ l ∈ before, ∃ t, l.2.text = .ok t) ∧ leaf.2.text = .error f := by
  have hcatalog : flatten path v = .error f ↔ leaves.mapM (textAt path) = .error f := by
    rw [h.flatten_eq hv]
    cases leaves.mapM (textAt path) with
    | ok texts => exact ⟨nofun, nofun⟩
    | error f' => exact Iff.rfl
  have htext : ∀ leaf : List String × Value, (∃ e, textAt path leaf = .ok e) ↔ ∃ t, leaf.2.text = .ok t := by
    intro leaf
    constructor
    · intro ⟨e, he⟩
      exact ⟨e.2, (textAt_eq_ok_iff.1 he).2⟩
    · intro ⟨t, ht⟩
      exact ⟨(nameAt path leaf.1, t), textAt_eq_ok_iff.2 ⟨rfl, ht⟩⟩
  simp only [hcatalog, mapM_eq_error_iff, htext, textAt_eq_error_iff]

/-- Under a name there is the text of the last leaf with this name. -/
theorem Leaves.get?_flatten_iff (h : Leaves entries leaves) (hv : v.entries? = some entries)
    (hc : flatten path v = .ok c) : get? c key = some text ↔
      ∃ before leaf after, leaves = before ++ leaf :: after ∧ nameAt path leaf.1 = key ∧ leaf.2.text = .ok text ∧
        ∀ l ∈ after, nameAt path l.1 ≠ key := by
  rw [h.flatten_eq hv] at hc
  obtain ⟨texts, htexts, rfl⟩ := exists_of_bind_pure hc
  have hall := forall₂_of_mapM_eq_ok htexts
  rw [get?_ofLeaves_eq_some_iff]
  constructor
  · intro ⟨before, after, hsplit, hafter⟩
    rw [hsplit] at hall
    obtain ⟨before', last, after', hleaves, hlast, hrest⟩ := exists_split_of_forall₂ hall
    obtain ⟨hname, htext⟩ := textAt_eq_ok_iff.1 hlast
    refine ⟨before', last, after', hleaves, hname, htext, ?_⟩
    intro l hl
    obtain ⟨e, he, hle⟩ := exists_of_forall₂_left hrest hl
    rw [(textAt_eq_ok_iff.1 hle).1]
    exact hafter e he
  · intro ⟨before, last, after, hleaves, hname, htext, hafter⟩
    rw [hleaves] at hall
    obtain ⟨before', e, after', hsplit, hleaf, hrest⟩ := exists_split_of_forall₂ hall.flip
    cases (textAt_eq_ok_iff.2 ⟨hname, htext⟩ : textAt path last = .ok (key, text)).symm.trans hleaf
    refine ⟨before', after', hsplit, ?_⟩
    intro e he
    obtain ⟨l, hl, hle⟩ := exists_of_forall₂_left hrest he
    rw [← (textAt_eq_ok_iff.1 hle).1]
    exact hafter l hl

/-- A path stands with a dot in front of every name of the catalog without one. -/
theorem Leaves.flatten_of_ne (h : Leaves entries leaves) (hv : v.entries? = some entries) (hpath : path ≠ "") :
    flatten path v = (flatten "" v).map (List.map fun e => (path ++ "." ++ e.1, e.2)) := by
  have htexts : leaves.mapM (textAt path) =
      (leaves.mapM (textAt "")).map (List.map fun e => (path ++ "." ++ e.1, e.2)) := by
    refine mapM_eq_map_of_mem ?_
    intro l hl
    rw [textAt, textAt, nameAt_of_ne hpath (h.keys_ne_nil l hl)]
    cases l.2.text <;> rfl
  have hinjective : Function.Injective fun name : String => path ++ "." ++ name := by
    intro name name' heq
    simpa using heq
  rw [h.flatten_eq hv, h.flatten_eq hv, htexts]
  cases leaves.mapM (textAt "") with
  | error f => rfl
  | ok texts => exact congrArg Except.ok (ofLeaves_map hinjective texts)

/-- Mappings whose leaves have the same names and values have the same catalogs, however their keys are nested. -/
theorem Leaves.flatten_congr (h : Leaves entries leaves) (hv : v.entries? = some entries) {w : Value}
    (h' : Leaves entries' leaves') (hw : w.entries? = some entries')
    (hnames : leaves'.map (fun l => (nameAt "" l.1, l.2)) = leaves.map fun l => (nameAt "" l.1, l.2)) (path : String) :
    flatten path w = flatten path v := by
  have hempty : flatten "" w = flatten "" v := by
    have htexts : ∀ ls : List (List String × Value), ls.mapM (textAt "") =
        (ls.map fun l => (nameAt "" l.1, l.2)).mapM fun n => do return (n.1, ← n.2.text) := by
      intro ls
      rw [List.mapM_map]
      rfl
    rw [h'.flatten_eq hw, h.flatten_eq hv, htexts, htexts, hnames]
  by_cases hpath : path = ""
  · rw [hpath, hempty]
  · rw [h'.flatten_of_ne hw hpath, h.flatten_of_ne hv hpath, hempty]

/-- **Catalogs of nested mappings.** A mapping whose keys have texts is made into a catalog at a path. This fails exactly
if a leaf has no text, and the first such leaf is reported. Otherwise the catalog gives under a name the text of the last
leaf with this name. Nothing but the names and the values of the leaves in their order matters: nested and dotted keys
say the same, a missing value neither gives a text nor takes one away, and a path goes in front of every name. -/
theorem flatten_keyed (hv : v.entries? = some entries) (hkeyed : Keyed entries) (path : String) :
    ∃ leaves, Leaves entries leaves ∧
      (∀ f, flatten path v = .error f ↔ ∃ before leaf after, leaves = before ++ leaf :: after ∧
        (∀ l ∈ before, ∃ t, l.2.text = .ok t) ∧ leaf.2.text = .error f) ∧
      (∀ c, flatten path v = .ok c → ∀ key text, get? c key = some text ↔
        ∃ before leaf after, leaves = before ++ leaf :: after ∧ nameAt path leaf.1 = key ∧ leaf.2.text = .ok text ∧
          ∀ l ∈ after, nameAt path l.1 ≠ key) ∧
      (∀ w entries' leaves', w.entries? = some entries' → Leaves entries' leaves' →
        leaves'.map (fun l => (nameAt "" l.1, l.2)) = leaves.map (fun l => (nameAt "" l.1, l.2)) →
        flatten path w = flatten path v) ∧
      (∀ w entries', w.entries? = some entries' → Inserts entries entries' → flatten path w = flatten path v) ∧
      (path ≠ "" → flatten path v = (flatten "" v).map (List.map fun e => (path ++ "." ++ e.1, e.2))) := by
  obtain ⟨leaves, h⟩ := hkeyed.exists_leaves
  refine ⟨leaves, h, h.flatten_eq_error_iff hv path, ?_, ?_, ?_, h.flatten_of_ne hv⟩
  · intro c hc key text
    exact h.get?_flatten_iff hv hc
  · intro w entries' leaves' hw h' hnames
    exact h.flatten_congr hv h' hw hnames path
  · intro w entries' hw hinserts
    exact h.flatten_congr hv (hinserts.keeps_leaves h) hw rfl path

/-- A dotted key that repeats a nested one comes later and counts. -/
theorem flatten_keyed_repeated : ∃ c,
    flatten "m" (.dict [(.string "a", .dict [(.string "b", .string "1"), (.string "c", .none)]),
      (.string "a.b", .int 2)]) = .ok c ∧ get? c "m.a.b" = some "2" := by
  have hkeyed :
      Keyed [(.string "a", .dict [(.string "b", .string "1"), (.string "c", .none)]), (.string "a.b", .int 2)] := by
    refine .cons rfl (by decide) ?_ (.cons rfl (by decide) nofun .nil)
    intro inner hinner
    cases hinner
    exact .cons rfl (by decide) nofun (.cons rfl (by decide) nofun .nil)
  obtain ⟨leaves, _, _, _, _, _, hpath⟩ := flatten_keyed (v := .dict _) rfl hkeyed "m"
  rw [hpath (by decide)]
  exact ⟨_, rfl, by decide⟩

/-- A number that is too long to be written leaves the other keys without texts, too. -/
theorem flatten_long_number : ∃ leaves,
    Leaves [(.string "a", .string "x"), (.string "b", .int (Nat.pow 16 3600))] leaves ∧
    (∃ before leaf after, leaves = before ++ leaf :: after ∧ nameAt "" leaf.1 = "a" ∧ leaf.2.text = .ok "x" ∧
      ∀ l ∈ after, nameAt "" l.1 ≠ "a") ∧
    ¬∃ c, flatten "" (.dict [(.string "a", .string "x"), (.string "b", .int (Nat.pow 16 3600))]) = .ok c ∧
      get? c "a" = some "x" := by
  have hdigits : Number.maxDigits < (Nat.toDigits 10 (Nat.pow 16 3600)).length := by
    rw [← Nat.not_le, Nat.length_toDigits_le_iff (by decide) (by decide)]
    decide +kernel
  -- Only the digits of the number matter, and nothing is to be computed with it.
  generalize Nat.pow 16 3600 = n at hdigits ⊢
  have hleaves : Leaves [(.string "a", .string "x"), (.string "b", .int n)] [(["a"], .string "x"), (["b"], .int n)] :=
    .leaf rfl (by decide) rfl nofun (.leaf rfl (by decide) rfl nofun .nil)
  have hafter : nameAt "" ["b"] ≠ "a" := by decide
  refine ⟨_, hleaves, ⟨[], _, _, rfl, by decide, rfl, List.forall_mem_singleton.2 hafter⟩, ?_⟩
  intro ⟨c, hc, _⟩
  have herror : flatten "" (.dict [(.string "a", .string "x"), (.string "b", .int n)]) =
      .error .integerTooLongToWrite :=
    (hleaves.flatten_eq_error_iff rfl "" _).2
      ⟨[_], _, [], rfl, List.forall_mem_singleton.2 ⟨"x", rfl⟩, Value.writeInt_of_long hdigits⟩
  cases hc.symm.trans herror

end Catalog

end FieldRules
