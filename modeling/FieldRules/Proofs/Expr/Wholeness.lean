import FieldRules.Expr.Operation
import FieldRules.Proofs.Entries
import FieldRules.Value.Convert

/-!
# Values without anything undefined

Nothing undefined stands in a whole value, at any depth (`isWhole`). What an expression computes with may be undefined
itself, but then nothing defined has anything undefined in it (`Unmixed`). The parts of such values are such values,
and so are the results of operators: these fail where one of their operands is undefined.
-/

namespace FieldRules

/-! ## Results -/

/-- All results of a computation have a property. -/
def Returns {α : Type} (P : α → Prop) (m : Except Fault α) : Prop :=
  ∀ a, m = .ok a → P a

section Results
variable {α β : Type} {P : α → Prop} {Q : β → Prop}

theorem Returns.pure {a : α} (h : P a) : Returns P (pure a) := by
  rintro _ ⟨⟩
  exact h

theorem Returns.throw (f : Fault) : Returns P (throw f) := nofun

theorem Returns.bind {m : Except Fault α} {f : α → Except Fault β} (hm : Returns P m)
    (hf : ∀ a, P a → Returns Q (f a)) : Returns Q (m >>= f) := by
  intro b hb
  obtain ⟨a, ha, hb⟩ := bind_eq_ok hb
  exact hf a (hm a ha) b hb

/-- What comes last decides what is returned. -/
theorem Returns.last {m : Except Fault α} {f : α → Except Fault β} (hf : ∀ a, Returns Q (f a)) :
    Returns Q (m >>= f) := by
  intro b hb
  obtain ⟨a, -, hb⟩ := bind_eq_ok hb
  exact hf a b hb

theorem Returns.ite {c : Prop} [Decidable c] {m m' : Except Fault α} (hm : Returns P m) (hm' : Returns P m') :
    Returns P (if c then m else m') := by
  split
  · exact hm
  · exact hm'

theorem Returns.imp {P' : α → Prop} {m : Except Fault α} (h : Returns P m) (hP : ∀ a, P a → P' a) : Returns P' m :=
  fun a ha => hP a (h a ha)

theorem Returns.mapM {f : α → Except Fault β} {xs : List α} (hf : ∀ x ∈ xs, Returns Q (f x)) :
    Returns (fun ys => ∀ y ∈ ys, Q y) (xs.mapM f) := by
  intro ys hys y hy
  obtain ⟨x, hx, hxy⟩ := exists_of_forall₂_right (forall₂_of_mapM_eq_ok hys) hy
  exact hf x hx y hxy

end Results

namespace Value

/-! ## Whole values -/

mutual

/-- Whether nothing undefined stands in a value, at any depth. -/
def isWhole : Value → Bool
  | .undefined _ => false
  | .list items => areWhole items
  | .tuple items => areWhole items
  | .set items => areWhole items
  | .dict entries => areWholeEntries entries
  | .view _ entries => areWholeEntries entries
  | .obj _ shared own => areWholeFields shared && areWholeFields own
  | .stream _ items _ => areWhole items
  | .method receiver _ => isWhole receiver
  | _ => true

/-- Whether nothing undefined stands in values. -/
def areWhole : List Value → Bool
  | [] => true
  | v :: rest => isWhole v && areWhole rest

/-- Whether nothing undefined stands in entries. -/
def areWholeEntries : List (Value × Value) → Bool
  | [] => true
  | (k, v) :: rest => isWhole k && isWhole v && areWholeEntries rest

/-- Whether nothing undefined stands in fields. -/
def areWholeFields : List (String × Value) → Bool
  | [] => true
  | (_, v) :: rest => isWhole v && areWholeFields rest

end

/-- Items in which nothing undefined stands. -/
def WholeItems (items : List Value) : Prop :=
  ∀ v ∈ items, v.isWhole = true

/-- Entries in which nothing undefined stands. -/
def WholeEntries (entries : List (Value × Value)) : Prop :=
  ∀ p ∈ entries, p.1.isWhole = true ∧ p.2.isWhole = true

/-- Fields in which nothing undefined stands. -/
def WholeFields (fields : List (String × Value)) : Prop :=
  ∀ p ∈ fields, p.2.isWhole = true

theorem areWhole_iff {items : List Value} : areWhole items = true ↔ WholeItems items := by
  induction items with
  | nil => exact iff_of_true rfl nofun
  | cons v rest ih => rw [areWhole, Bool.and_eq_true, ih, WholeItems, WholeItems, List.forall_mem_cons]

theorem areWholeEntries_iff {entries : List (Value × Value)} :
    areWholeEntries entries = true ↔ WholeEntries entries := by
  induction entries with
  | nil => exact iff_of_true rfl nofun
  | cons p rest ih =>
    rw [areWholeEntries, Bool.and_eq_true, Bool.and_eq_true, ih, WholeEntries, WholeEntries, List.forall_mem_cons]

theorem areWholeFields_iff {fields : List (String × Value)} :
    areWholeFields fields = true ↔ WholeFields fields := by
  induction fields with
  | nil => exact iff_of_true rfl nofun
  | cons p rest ih => rw [areWholeFields, Bool.and_eq_true, ih, WholeFields, WholeFields, List.forall_mem_cons]

section Containers
variable {items : List Value} {entries : List (Value × Value)}

@[simp] theorem isWhole_list : (list items).isWhole = true ↔ WholeItems items :=
  areWhole_iff

@[simp] theorem isWhole_tuple : (tuple items).isWhole = true ↔ WholeItems items :=
  areWhole_iff

@[simp] theorem isWhole_set : (set items).isWhole = true ↔ WholeItems items :=
  areWhole_iff

@[simp] theorem isWhole_dict : (dict entries).isWhole = true ↔ WholeEntries entries :=
  areWholeEntries_iff

@[simp] theorem isWhole_view (view : View) : (Value.view view entries).isWhole = true ↔ WholeEntries entries :=
  areWholeEntries_iff

@[simp] theorem isWhole_stream (kind : String) (fault? : Option Fault) :
    (stream kind items fault?).isWhole = true ↔ WholeItems items :=
  areWhole_iff

@[simp] theorem isWhole_obj (c : Class) (shared own : List (String × Value)) :
    (obj c shared own).isWhole = true ↔ WholeFields shared ∧ WholeFields own := by
  show (areWholeFields shared && areWholeFields own) = true ↔ _
  rw [Bool.and_eq_true, areWholeFields_iff, areWholeFields_iff]

end Containers

/-- A value in which nothing undefined stands, unless it is undefined itself. -/
def Unmixed (v : Value) : Prop :=
  v.isDefined = true → v.isWhole = true

theorem unmixed_of_isWhole {v : Value} (h : v.isWhole = true) : v.Unmixed :=
  fun _ => h

theorem returns_unmixed {m : Except Fault Value} (h : Returns (·.isWhole = true) m) : Returns Unmixed m :=
  h.imp fun _ => unmixed_of_isWhole

/-! ## Items -/

section Items
variable {v w : Value} {entries : List (Value × Value)}

theorem wholeItems_characters (s : String) : WholeItems (characters s) := by
  intro v hv
  obtain ⟨c, -, rfl⟩ := List.mem_map.1 hv
  rfl

theorem wholeItems_rangeItems (start stop step : Int) : WholeItems (rangeItems start stop step) := by
  intro v hv
  obtain ⟨i, -, rfl⟩ := List.mem_map.1 hv
  rfl

theorem wholeItems_keysOf (h : WholeEntries entries) : WholeItems (keysOf entries) := by
  intro v hv
  obtain ⟨p, hp, rfl⟩ := List.mem_map.1 hv
  exact (h p hp).1

theorem wholeItems_viewItems (view : View) (h : WholeEntries entries) : WholeItems (viewItems view entries) := by
  cases view with
  | keys => exact wholeItems_keysOf h
  | values =>
    intro v hv
    obtain ⟨p, hp, rfl⟩ := List.mem_map.1 hv
    exact (h p hp).2
  | items =>
    intro v hv
    obtain ⟨p, hp, rfl⟩ := List.mem_map.1 hv
    rw [isWhole_tuple]
    exact List.forall_mem_cons.2 ⟨(h p hp).1, List.forall_mem_cons.2 ⟨(h p hp).2, nofun⟩⟩

theorem Unmixed.entries? (h : v.Unmixed) (hv : v.entries? = some entries) : WholeEntries entries := by
  cases v with
  | dict es =>
    obtain rfl : es = entries := Option.some.inj hv
    exact isWhole_dict.1 (h rfl)
  | obj c shared own =>
    rw [Value.entries?] at hv
    split at hv
    · cases hv
      intro p hp
      obtain ⟨q, hq, rfl⟩ := List.mem_map.1 hp
      exact ⟨rfl, ((isWhole_obj c shared own).1 (h rfl)).2 q hq⟩
    · cases hv
  | _ => cases hv

/-- The items of a value have nothing undefined in them, if the value has not. -/
theorem Unmixed.items (h : v.Unmixed) : Returns WholeItems v.items := by
  cases v with
  | string s => exact .pure (wholeItems_characters s)
  | markup s => exact .pure (wholeItems_characters s)
  | bytes data =>
    refine .pure fun v hv => ?_
    obtain ⟨b, -, rfl⟩ := List.mem_map.1 hv
    rfl
  | list xs => exact .pure (isWhole_list.1 (h rfl))
  | tuple xs => exact .pure (isWhole_tuple.1 (h rfl))
  | set xs => exact .pure (isWhole_set.1 (h rfl))
  | range start stop step => exact .pure (wholeItems_rangeItems start stop step)
  | view view entries => exact .pure (wholeItems_viewItems view ((isWhole_view view).1 (h rfl)))
  | stream kind xs fault? =>
    cases fault? with
    | none => exact .pure ((isWhole_stream kind .none).1 (h rfl))
    | some f => exact .throw f
  | undefined u => exact .ite (.throw _) (.pure nofun)
  | dict entries => exact .pure (wholeItems_keysOf (isWhole_dict.1 (h rfl)))
  | obj c shared own =>
    unfold Value.items
    dsimp only
    split
    · next entries hentries => exact .pure (wholeItems_keysOf (h.entries? hentries))
    · exact .throw _
  | _ => exact .throw _

theorem wholeItems_reverse {xs : List Value} (h : WholeItems xs) : WholeItems xs.reverse :=
  fun v hv => h v (List.mem_reverse.1 hv)

theorem Unmixed.reversedItems (h : v.Unmixed) : Returns WholeItems v.reversedItems := by
  rw [Value.reversedItems.eq_def]
  split
  · exact .throw _
  · exact .throw _
  · exact .ite (.throw _) (.pure nofun)
  · split
    · next xs hxs => exact .pure (wholeItems_reverse (h.items _ hxs))
    · exact .throw _

/-! ## Entries -/

theorem wholeEntries_insertEntry (h : WholeEntries entries) (hv : v.isWhole = true) (hw : w.isWhole = true) :
    WholeEntries (insertEntry v w entries) := by
  induction entries with
  | nil => exact List.forall_mem_cons.2 ⟨⟨hv, hw⟩, nofun⟩
  | cons p rest ih =>
    obtain ⟨hp, hrest⟩ := List.forall_mem_cons.1 h
    rw [insertEntry]
    split
    · exact List.forall_mem_cons.2 ⟨⟨hp.1, hw⟩, hrest⟩
    · exact List.forall_mem_cons.2 ⟨hp, ih hrest⟩

theorem isWhole_of_lookup? (h : WholeEntries entries) (hw : lookup? v entries = some w) : w.isWhole = true := by
  rw [lookup?, Option.map_eq_some_iff] at hw
  obtain ⟨p, hp, rfl⟩ := hw
  exact (h p (List.mem_of_find?_eq_some hp)).2

theorem returns_entriesFrom {acc : List (Value × Value)} {index : Nat} {items : List Value}
    (hacc : WholeEntries acc) (hitems : WholeItems items) : Returns WholeEntries (entriesFrom acc index items) := by
  induction items generalizing acc index with
  | nil => exact .pure hacc
  | cons v rest ih =>
    obtain ⟨hv, hrest⟩ := List.forall_mem_cons.1 hitems
    rw [entriesFrom]
    split
    · next parts hparts =>
      refine Returns.bind (.pure ((unmixed_of_isWhole hv).items _ hparts)) fun parts hparts => ?_
      dsimp only
      split
      · next k w =>
        obtain ⟨hk, hw⟩ := List.forall_mem_cons.1 hparts
        exact .last fun _ => ih (wholeEntries_insertEntry hacc hk (hw w (List.mem_singleton_self w))) hrest
      · exact .throw _
    · exact .throw _

theorem Unmixed.toEntries (h : v.Unmixed) : Returns WholeEntries v.toEntries := by
  rw [Value.toEntries]
  split
  · next entries hentries => exact .pure (h.entries? hentries)
  · exact h.items.bind fun xs hxs => returns_entriesFrom (List.forall_mem_nil _) hxs

/-! ## Conversions -/

theorem mem_distinct {items : List Value} (h : v ∈ distinct items) : v ∈ items := by
  -- With what has been kept so far general, for the induction on the rest.
  have hfold : ∀ acc : List Value,
      v ∈ items.foldl (fun acc v => if isIn v acc then acc else acc ++ [v]) acc → v ∈ acc ∨ v ∈ items := by
    clear h
    induction items with
    | nil => exact fun acc hv => .inl hv
    | cons x rest ih =>
      intro acc hv
      rcases ih _ hv with hv | hv
      · dsimp only at hv
        split at hv
        · exact .inl hv
        · rcases List.mem_append.1 hv with hv | hv
          · exact .inl hv
          · exact .inr (List.mem_singleton.1 hv ▸ List.mem_cons_self ..)
      · exact .inr (List.mem_cons_of_mem x hv)
  exact (hfold [] h).resolve_left List.not_mem_nil

theorem isWhole_setOf {items : List Value} (h : WholeItems items) : (setOf items).isWhole = true := by
  unfold setOf
  dsimp only
  split
  · rw [isWhole_set]
    intro v hv
    obtain ⟨n, -, rfl⟩ := List.mem_map.1 hv
    rfl
  · exact isWhole_set.2 fun v hv => h v (mem_distinct hv)

theorem Unmixed.convertTo (h : v.Unmixed) (c : Class) : Returns (·.isWhole = true) (v.convertTo c) := by
  unfold Value.convertTo
  refine .ite (.last fun _ => .pure rfl) <| .ite (.last fun _ => .pure rfl) <| .ite (.last fun _ => .pure rfl) <|
    .ite (.last fun _ => .pure rfl) <| .ite ?list <| .ite ?tuple <| .ite ?set <| .ite ?dict <|
    .ite (.last fun _ => .pure rfl) <| .ite (.last fun _ => .pure rfl) <| .ite (.pure rfl) <| .ite ?obj (.throw _)
  case list => exact h.items.bind fun xs hxs => .pure (isWhole_list.2 hxs)
  case tuple => exact h.items.bind fun xs hxs => .pure (isWhole_tuple.2 hxs)
  case set => exact h.items.bind fun xs hxs => .last fun _ => .pure (isWhole_setOf hxs)
  case dict => exact h.toEntries.bind fun es hes => .pure (isWhole_dict.2 hes)
  case obj =>
    refine h.toEntries.bind fun es hes => .pure ((isWhole_obj ..).2 ⟨nofun, fun p hp => ?_⟩)
    obtain ⟨q, hq, heq⟩ := List.mem_filterMap.1 hp
    obtain ⟨s, -, rfl⟩ := Option.map_eq_some_iff.1 heq
    exact (hes q hq).2

/-! ## Attributes -/

theorem isWhole_of_lookup {fields : List (String × Value)} {name : String} (h : WholeFields fields)
    (hw : fields.lookup name = some w) : w.isWhole = true := by
  obtain ⟨k, hmem, -⟩ := mem_of_lookup hw
  exact h _ hmem

theorem isWhole_of_dataAttribute? {name : String} (h : v.isWhole = true) (hw : dataAttribute? v name = some w) :
    w.isWhole = true := by
  unfold dataAttribute? at hw
  split at hw
  -- Only objects have any values as attributes. Those of all others are numbers and texts.
  case h_17 name c shared own =>
    obtain ⟨hshared, hown⟩ := (isWhole_obj c shared own).1 h
    rw [field?, Option.orElse_eq_orElse, Option.orElse_eq_or, Option.or_eq_some_iff] at hw
    rcases hw with hw | ⟨-, hw⟩
    · refine isWhole_of_lookup ?_ hw
      split
      · exact nofun
      · exact hown
    · exact isWhole_of_lookup hshared hw
  case h_18 => cases hw
  all_goals
    cases hw
    rfl

theorem isWhole_of_attribute? {name : String} (h : v.isWhole = true) (hw : attribute? v name = some w) :
    w.isWhole = true := by
  rw [attribute?] at hw
  split at hw
  · next hdata =>
    cases hw
    exact isWhole_of_dataAttribute? h hdata
  · split at hw
    · cases hw
      exact h
    · split at hw
      · cases hw
        exact h
      · cases hw

/-! ## Operators -/

theorem wholeItems_append {xs ys : List Value} (hxs : WholeItems xs) (hys : WholeItems ys) : WholeItems (xs ++ ys) :=
  fun v hv => (List.mem_append.1 hv).elim (hxs v) (hys v)

theorem returns_powerFloats (a b : Float) : Returns (·.isWhole = true) (powerFloats a b) := by
  -- A root of a negative number is a complex one, which has no items.
  refine .ite (.throw _) ?_
  exact .ite (.throw _) (.ite (.pure ((isWhole_stream ..).2 nofun)) (.pure rfl))

theorem returns_floats (op : Operator) (a b : Float) : Returns (·.isWhole = true) (floats op a b) := by
  cases op with
  | add | subtract | multiply => exact .pure rfl
  | divide | floorDivide | modulo => exact .ite (.throw _) (.pure rfl)
  | power => exact returns_powerFloats a b

theorem returns_divideInts (a b : Int) : Returns (·.isWhole = true) (divideInts a b) := by
  refine .ite (.throw _) (.ite (.pure rfl) ?_)
  split
  · exact .pure rfl
  · exact .throw _

theorem returns_powerInts (a b : Int) : Returns (·.isWhole = true) (powerInts a b) := by
  refine .ite ?_ (.ite (.pure rfl) (.throw _))
  exact .last fun _ => .last fun _ => returns_powerFloats _ _

theorem returns_numbers (op : Operator) (x y : Numeric) : Returns (·.isWhole = true) (numbers op x y) := by
  unfold numbers
  split
  · cases op with
    | add | subtract | multiply => exact .pure rfl
    | divide => exact returns_divideInts _ _
    | floorDivide | modulo => exact .ite (.throw _) (.pure rfl)
    | power => exact returns_powerInts _ _
  · exact .last fun _ => .last fun _ => returns_floats op _ _

theorem Unmixed.join (h : v.Unmixed) (hw : w.Unmixed) : Returns (·.isWhole = true) (v.join w) := by
  unfold Value.join
  split
  case h_7 => exact .pure (isWhole_list.2 (wholeItems_append (isWhole_list.1 (h rfl)) (isWhole_list.1 (hw rfl))))
  case h_8 => exact .pure (isWhole_tuple.2 (wholeItems_append (isWhole_tuple.1 (h rfl)) (isWhole_tuple.1 (hw rfl))))
  all_goals first | exact .throw _ | exact .pure rfl

theorem returns_repeatList {α : Type} {P : α → Prop} {xs : List α} (h : ∀ x ∈ xs, P x) (tooLong : Fault) (n : Int) :
    Returns (fun ys => ∀ y ∈ ys, P y) (repeatList tooLong xs n) := by
  refine .ite (.throw _) (.ite (.throw _) (.ite (.throw _) (.pure fun y hy => ?_)))
  obtain ⟨row, hrow, hy⟩ := List.mem_flatten.1 hy
  rw [(List.mem_replicate.1 hrow).2] at hy
  exact h y hy

/-- A row that is repeated has its items only. -/
theorem Unmixed.repeatRow? (h : v.Unmixed) {n : Int} {r : Except Fault Value} (hr : v.repeatRow? n = some r) :
    Returns (·.isWhole = true) r := by
  cases v with
  | string | markup | bytes =>
    cases hr
    exact .last fun _ => .pure rfl
  | list xs =>
    cases hr
    exact (returns_repeatList (isWhole_list.1 (h rfl)) _ n).bind fun _ hys => .pure (isWhole_list.2 hys)
  | tuple xs =>
    cases hr
    exact (returns_repeatList (isWhole_tuple.1 (h rfl)) _ n).bind fun _ hys => .pure (isWhole_tuple.2 hys)
  | _ => cases hr

theorem Unmixed.repeatValue (h : v.Unmixed) (hw : w.Unmixed) : Returns (·.isWhole = true) (v.repeatValue w) := by
  unfold Value.repeatValue
  split
  · exact .throw _
  · exact .throw _
  · split
    · next hr =>
      obtain ⟨n, -, hr⟩ := Option.bind_eq_some_iff.1 hr
      exact h.repeatRow? hr
    · next hr _ =>
      obtain ⟨n, -, hr⟩ := Option.bind_eq_some_iff.1 hr
      exact hw.repeatRow? hr
    · exact .ite (.throw _) (.ite (.throw _) (.throw _))

/-- **Operators give whole values**, or fail where an operand is undefined. -/
theorem Unmixed.operate (op : Operator) (h : v.Unmixed) (hw : w.Unmixed) :
    Returns (·.isWhole = true) (Value.operate op v w) := by
  unfold Value.operate
  split
  · exact returns_numbers op _ _
  · split
    · exact h.join hw
    · exact h.repeatValue hw
    · next a b _ =>
      exact .pure (isWhole_set.2 fun x hx => isWhole_set.1 (h rfl) x (List.mem_filter.1 hx).1)
    · exact .throw _

end Items

end Value

namespace Expr

open Value hiding none

variable {v w key : Value} {strict : Bool}

/-! ## Operators of expressions -/

theorem returns_applySign (sign : Sign) (v : Value) : Returns (·.isWhole = true) (applySign sign v) := by
  cases sign with
  | negate =>
    show Returns _ v.negate
    unfold Value.negate
    split
    · exact .pure rfl
    · exact .throw _
    · split
      · exact .pure rfl
      · exact .throw _
  | affirm =>
    show Returns _ v.affirm
    unfold Value.affirm
    split
    · exact .pure rfl
    · exact .throw _
    · split
      · exact .pure rfl
      · exact .throw _
  | not => exact .last fun _ => .pure rfl

theorem returns_applyOperator (op : Operator) (h : v.Unmixed) (hw : w.Unmixed) :
    Returns (·.isWhole = true) (applyOperator op v w) := by
  unfold applyOperator
  split
  · exact .last fun _ => .pure rfl
  · exact .last fun _ => .pure rfl
  · exact h.operate op hw

theorem returns_dictOf {entries : List (Value × Value)} (h : WholeEntries entries) :
    Returns (·.isWhole = true) (dictOf entries) := by
  have hfold : ∀ acc, WholeEntries acc →
      WholeEntries (entries.foldl (fun acc p => insertEntry p.1 p.2 acc) acc) := by
    induction entries with
    | nil => exact fun _ hacc => hacc
    | cons p rest ih =>
      obtain ⟨hp, hrest⟩ := List.forall_mem_cons.1 h
      exact fun acc hacc => ih hrest _ (wholeEntries_insertEntry hacc hp.1 hp.2)
  exact .last fun _ => .pure (isWhole_dict.2 (hfold [] (List.forall_mem_nil _)))

/-! ## Parts of values -/

/-- No attribute of an undefined value may be used. -/
theorem eq_of_usableAttribute? {u : Undefined} {name : String}
    (hw : usableAttribute? strict (.undefined u) name = some w) :
    w = forbiddenAttribute strict (.undefined u) name := by
  -- Its names are the same whatever it stands for, so that one decision on them is enough.
  have hall : ∀ n ∈ ownHidden (.undefined u) ++ commonHidden, n.startsWith "_" = true := by
    show ∀ n ∈ ownHidden (.undefined ⟨true, .forbidden ""⟩) ++ commonHidden, n.startsWith "_" = true
    decide +kernel
  have hdata : dataAttribute? (.undefined u) name = none := by
    simp [dataAttribute?]
  obtain ⟨w, hattribute, rfl⟩ := Option.map_eq_some_iff.1 hw
  rw [attribute?, hdata] at hattribute
  have hmem : name ∈ ownHidden (.undefined u) ++ commonHidden := by
    by_contra hmem
    rw [List.mem_append, not_or] at hmem
    simp [methodNames, hmem] at hattribute
  rw [if_pos (hall name hmem)]

theorem unmixed_of_usableAttribute? {name : String} (h : v.Unmixed)
    (hw : usableAttribute? strict v name = some w) : w.Unmixed := by
  cases hdefined : v.isDefined with
  | false =>
    cases v with
    | undefined u =>
      rw [eq_of_usableAttribute? hw]
      exact nofun
    | _ => cases hdefined
  | true =>
    obtain ⟨w, hattribute, rfl⟩ := Option.map_eq_some_iff.1 hw
    split
    · exact nofun
    · exact unmixed_of_isWhole (isWhole_of_attribute? (h hdefined) hattribute)

theorem mem_of_itemAt? {α : Type} {xs : List α} {i : Int} {x : α} (h : itemAt? xs i = some x) : x ∈ xs := by
  unfold itemAt? at h
  split at h
  · exact List.mem_of_getElem? h
  · split at h
    · exact List.mem_of_getElem? h
    · cases h

theorem returns_nativeItem? (h : v.Unmixed) (key : Value) :
    Returns (fun w? => ∀ w ∈ w?, w.isWhole = true) (nativeItem? v key) := by
  unfold nativeItem?
  split
  · exact .throw _
  · split
    · next entries hentries =>
      split
      · exact .throw _
      · refine .pure fun w hw => ?_
        split at hw
        · cases hw
        · exact isWhole_of_lookup? (h.entries? hentries) hw
    · split
      · exact .pure fun w hw => absurd hw (Option.not_mem_none w)
      · split
        case h_3 xs _ _ _ => exact .pure fun w hw => isWhole_list.1 (h rfl) w (mem_of_itemAt? hw)
        case h_4 xs _ _ _ => exact .pure fun w hw => isWhole_tuple.1 (h rfl) w (mem_of_itemAt? hw)
        case h_7 => exact .pure fun w hw => absurd hw (Option.not_mem_none w)
        all_goals
          refine .pure fun w hw => ?_
          obtain ⟨_, -, rfl⟩ := Option.map_eq_some_iff.1 hw
          rfl

/-- An attribute of a value is undefined, or nothing undefined stands in it. -/
theorem returns_attributeOf (h : v.Unmixed) (name : String) : Returns Unmixed (attributeOf strict v name) := by
  unfold attributeOf
  split
  · next hw => exact .pure (unmixed_of_usableAttribute? h hw)
  · exact .throw _
  · refine (returns_nativeItem? h _).bind fun w? hw? => ?_
    split
    · exact .pure (unmixed_of_isWhole (hw? _ rfl))
    · exact .pure nofun

/-- An item of a value is undefined, or nothing undefined stands in it. -/
theorem returns_itemOf (h : v.Unmixed) (key : Value) : Returns Unmixed (itemOf strict v key) := by
  refine (returns_nativeItem? h key).bind fun w? hw? => ?_
  split
  · exact .pure (unmixed_of_isWhole (hw? _ rfl))
  · split
    · next hw =>
      obtain ⟨name, -, hw⟩ := Option.bind_eq_some_iff.1 hw
      exact .pure (unmixed_of_usableAttribute? h hw)
    · refine .pure ?_
      unfold undefinedItem
      split
      · exact nofun
      · exact nofun

theorem returns_sliceRow {α : Type} {P : α → Prop} {xs : List α} (h : ∀ x ∈ xs, P x) (start stop step : Value) :
    Returns (fun ys => ∀ y ∈ ys, P y) (sliceRow xs start stop step) := by
  have hpick : ∀ indices, ∀ y ∈ pick xs indices, P y := by
    intro indices y hy
    obtain ⟨i, -, hi⟩ := List.mem_filterMap.1 hy
    rw [List.getElem?_toArray] at hi
    exact h y (List.mem_of_getElem? hi)
  refine .last fun step => ?_
  dsimp only
  have hrest : Returns (fun ys => ∀ y ∈ ys, P y) (do
      let start ← sliceBound start
      let stop ← sliceBound stop
      return pick xs (sliceIndices xs.length start stop (step.getD 1))) :=
    .last fun _ => .last fun _ => .pure (hpick _)
  exact .ite (.last fun _ => hrest) hrest

theorem returns_sliceOf (h : v.Unmixed) (start stop step : Value) :
    Returns (·.isWhole = true) (sliceOf v start stop step) := by
  unfold sliceOf
  split
  · exact .last fun _ => .pure rfl
  · exact .last fun _ => .pure rfl
  · exact (returns_sliceRow (isWhole_list.1 (h rfl)) start stop step).bind fun _ hys => .pure (isWhole_list.2 hys)
  · exact (returns_sliceRow (isWhole_tuple.1 (h rfl)) start stop step).bind fun _ hys => .pure (isWhole_tuple.2 hys)
  · exact .last fun _ => .pure rfl
  · refine .last fun step => ?_
    dsimp only
    exact .ite (.last fun _ => .last fun _ => .last fun _ => .pure rfl) (.last fun _ => .last fun _ => .pure rfl)
  · exact .throw _
  · exact .ite (.throw _) (.throw _)

end Expr

end FieldRules
