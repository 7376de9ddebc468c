import FieldRules.Expr.Method
import FieldRules.Proofs.Expr.Wholeness

/-!
# Results of methods and filters

Methods and filters make nothing undefined: what a call returns has nothing undefined in it if its receiver and its
arguments have not (`returns_callValue`). A filter may return something undefined where there is nothing to return,
such as the first item of an empty row (`returns_run`). Only `map` puts what it gets for each item into a row, whatever
that is.
-/

namespace FieldRules.Expr

open Value hiding none

variable {args : List Value} {named : List (String × Value)}

/-! ## Methods -/

namespace Method

theorem wholeItems_singleton {v : Value} (h : v.isWhole = true) : WholeItems [v] :=
  List.forall_mem_cons.2 ⟨h, nofun⟩

theorem wholeItems_map {α : Type} {f : α → Value} (h : ∀ x, (f x).isWhole = true) (xs : List α) :
    WholeItems (xs.map f) := by
  intro v hv
  obtain ⟨x, -, rfl⟩ := List.mem_map.1 hv
  exact h x

theorem returns_callText {wrap : String → Value} (hwrap : ∀ s, (wrap s).isWhole = true) (s : List Char) (name : String)
    (args : List Value) (named : List (String × Value)) :
    Returns (·.isWhole = true) (callText wrap s name args named) := by
  unfold callText
  dsimp only
  refine .ite ?split ?rest
  case split =>
    exact .last fun _ => .last fun _ => .pure (isWhole_list.2 (wholeItems_map (fun _ => hwrap _) _))
  case rest =>
    refine .last fun _ => ?_
    split
    · exact .last fun _ => .pure (hwrap _)
    · exact .last fun _ => .pure rfl
    · have htuple : ∀ a b c : List Char, (Value.tuple [wrap (String.ofList a), wrap (String.ofList b),
          wrap (String.ofList c)]).isWhole = true := by
        intro a b c
        rw [isWhole_tuple]
        exact List.forall_mem_cons.2 ⟨hwrap _, List.forall_mem_cons.2 ⟨hwrap _, wholeItems_singleton (hwrap _)⟩⟩
      -- every method gives a text of the same kind, a truth value, a number or a row of such texts
      split
      all_goals
        repeat' first
          | exact .throw _
          | exact .pure (hwrap _)
          | exact .pure rfl
          | exact .pure (htuple _ _ _)
          | refine .last fun _ => ?_
          | refine .ite ?_ ?_
          | split

theorem isWhole_headD (h : WholeItems args) : (args.headD .none).isWhole = true := by
  cases args with
  | nil => rfl
  | cons v rest => exact h v (List.mem_cons_self ..)

theorem isWhole_getD_lookup? {entries : List (Value × Value)} (h : WholeEntries entries) (hargs : WholeItems args)
    (key : Value) : ((lookup? key entries).getD (args.headD .none)).isWhole = true := by
  cases hfound : lookup? key entries with
  | none => exact isWhole_headD hargs
  | some v => exact isWhole_of_lookup? h hfound

theorem returns_callDict {entries : List (Value × Value)} (h : WholeEntries entries) (hargs : WholeItems args)
    (name : String) : Returns (·.isWhole = true) (callDict entries name args named) := by
  unfold callDict
  refine .last fun _ => ?_
  split
  · -- get
    refine .last fun _ => ?_
    split
    · exact .last fun _ => .pure (isWhole_getD_lookup? h (List.forall_mem_cons.1 hargs).2 _)
    · exact .pure rfl
  · exact .last fun _ => .pure ((isWhole_view _).2 h)
  · exact .last fun _ => .pure ((isWhole_view _).2 h)
  · exact .last fun _ => .pure ((isWhole_view _).2 h)
  · exact .last fun _ => .pure (isWhole_dict.2 h)
  · -- pop
    refine .last fun _ => ?_
    split
    · next hfound => exact .pure (isWhole_of_lookup? h hfound)
    · exact .pure (hargs _ (by simp))
    · exact .throw _
  · exact .last fun _ => .pure (isWhole_getD_lookup? h (List.forall_mem_cons.1 hargs).2 _)
  · exact .pure rfl
  · exact .pure rfl
  · exact .throw _

theorem returns_callInt (n : Int) (name : String) : Returns (·.isWhole = true) (callInt n name args named) := by
  unfold callInt
  refine .last fun _ => .last fun _ => ?_
  split
  · exact .pure rfl
  · exact .pure rfl
  · exact .pure rfl
  · exact .pure rfl
  · exact .throw _

theorem returns_callFloat (x : Float) (name : String) : Returns (·.isWhole = true) (callFloat x name args named) := by
  unfold callFloat
  refine .last fun _ => .last fun _ => ?_
  split
  · exact .pure rfl
  · exact .pure rfl
  · exact .throw _

theorem returns_callRow {items : List Value} (h : WholeItems items) (kind name : String) :
    Returns (·.isWhole = true) (callRow kind items name args named) := by
  unfold callRow
  refine .last fun _ => ?_
  split
  · split
    · exact .pure rfl
    · exact .throw _
  · split
    · exact .pure rfl
    · exact .throw _
  · exact .pure (isWhole_list.2 h)
  · split
    · next hlast => exact .pure (h _ (List.mem_of_getLast? hlast))
    · exact .throw _
  all_goals first | exact .pure rfl | exact .throw _

theorem returns_call {receiver : Value} (h : receiver.isWhole = true) (hargs : WholeItems args) (name : String) :
    Returns (·.isWhole = true) (call receiver name args named) := by
  unfold call
  split
  · exact returns_callText (fun _ => rfl) _ name args named
  · exact returns_callText (fun _ => rfl) _ name args named
  · exact returns_callInt _ name
  · exact returns_callInt _ name
  · exact returns_callFloat _ name
  · exact returns_callRow (isWhole_list.1 h) "list" name
  · exact returns_callRow (isWhole_tuple.1 h) "tuple" name
  · split
    · next hentries => exact returns_callDict ((unmixed_of_isWhole h).entries? hentries) hargs name
    · exact .throw _

/-! ## Functions and classes -/

theorem returns_makeRange (args : List Value) : Returns (·.isWhole = true) (makeRange args) := by
  unfold makeRange
  repeat' first
    | exact .throw _
    | exact .pure rfl
    | refine .ite ?_ ?_
    | refine .last fun _ => ?_

theorem returns_makeDict (hargs : WholeItems args) (hnamed : WholeFields named) :
    Returns (·.isWhole = true) (makeDict args named) := by
  have hfold : ∀ entries, WholeEntries entries →
      WholeEntries (named.foldl (fun acc p => insertEntry (.string p.1) p.2 acc) entries) := by
    induction named with
    | nil => exact fun _ h => h
    | cons p rest ih =>
      obtain ⟨hp, hrest⟩ := List.forall_mem_cons.1 hnamed
      exact fun entries h => ih hrest _ (wholeEntries_insertEntry h rfl hp)
  unfold makeDict
  split
  · exact .pure (isWhole_dict.2 (hfold [] (List.forall_mem_nil _)))
  · have hv := unmixed_of_isWhole (hargs _ (List.mem_singleton_self _))
    exact hv.toEntries.bind fun entries h => .pure (isWhole_dict.2 (hfold entries h))
  · exact .throw _

theorem returns_emptyOf (c : Class) : Returns (·.isWhole = true) (emptyOf c) := by
  unfold emptyOf
  repeat' first | exact .pure rfl | refine .ite ?_ ?_

theorem returns_callClass (c : Class) (hargs : WholeItems args) (hnamed : WholeFields named) :
    Returns (·.isWhole = true) (callClass c args named) := by
  refine .ite (returns_makeDict hargs hnamed) ?_
  split
  · exact returns_emptyOf c
  · exact (unmixed_of_isWhole (hargs _ (List.mem_singleton_self _))).convertTo c
  · exact .throw _
  · exact .throw _

/-- **Calls return whole values**, if what is called and what it is called with have nothing undefined in them. -/
theorem returns_callValue {f : Value} (h : f.Unmixed) (hargs : WholeItems args) (hnamed : WholeFields named) :
    Returns (·.isWhole = true) (callValue f args named) := by
  unfold callValue
  split
  · exact .throw _
  · split
    · exact returns_makeRange args
    · exact .throw _
  · next receiver name =>
    have hreceiver : receiver.isWhole = true := h rfl
    exact returns_call hreceiver hargs name
  · exact returns_callClass _ hargs hnamed
  · exact .throw _

end Method

/-! ## Parameters -/

namespace Signature

/-- What a parameter gets was given by place or by name, or is its default. -/
theorem mem_fill {parameters : List Parameter} {w : Value} (hw : w ∈ (fill parameters args named).1) :
    w ∈ args ∨ (∃ name, named.lookup name = some w) ∨ ∃ p ∈ parameters, p.default? = some w := by
  -- A parameter takes what is given by place, else by name, else its default, else it is missing.
  fun_induction fill parameters args named with
  | case1 => cases hw
  | case2 p rest v vs named values names hfill ih =>
    rw [hfill] at ih
    rcases List.mem_cons.1 hw with rfl | hw
    · exact .inl (List.mem_cons_self ..)
    · rcases ih hw with hargs | hnamed | ⟨q, hq, hdefault⟩
      · exact .inl (List.mem_cons_of_mem v hargs)
      · exact .inr (.inl hnamed)
      · exact .inr (.inr ⟨q, List.mem_cons_of_mem p hq, hdefault⟩)
  | case3 p rest named values names hfill v hv ih =>
    rw [hfill] at ih
    rcases List.mem_cons.1 hw with rfl | hw
    · rw [Option.orElse_eq_orElse, Option.orElse_eq_or, Option.or_eq_some_iff] at hv
      rcases hv with hv | ⟨-, hv⟩
      · exact .inr (.inl ⟨p.name, hv⟩)
      · exact .inr (.inr ⟨p, List.mem_cons_self .., hv⟩)
    · rcases ih hw with hargs | hnamed | ⟨q, hq, hdefault⟩
      · exact .inl hargs
      · exact .inr (.inl hnamed)
      · exact .inr (.inr ⟨q, List.mem_cons_of_mem p hq, hdefault⟩)
  | case4 p rest named values names hfill hv ih =>
    rw [hfill] at ih
    rcases ih hw with hargs | hnamed | ⟨q, hq, hdefault⟩
    · exact .inl hargs
    · exact .inr (.inl hnamed)
    · exact .inr (.inr ⟨q, List.mem_cons_of_mem p hq, hdefault⟩)

/-- Whether nothing undefined stands in the defaults of parameters. -/
def haveWholeDefaults (parameters : List Parameter) : Bool :=
  parameters.all fun p => p.default?.all isWhole

/-- The first parameter gets the first value by place; nothing undefined stands in what the others get. -/
theorem returns_bind {s : Signature} (hparameters : s.parameters.isEmpty = false)
    (hdefaults : haveWholeDefaults s.parameters = true) (v : Value) (hargs : WholeItems args) (hnamed : WholeFields named) :
    Returns (fun vs => ∃ rest, vs = v :: rest ∧ WholeItems rest) (s.bind (v :: args) named) := by
  obtain ⟨p, parameters, heq⟩ := List.exists_cons_of_ne_nil (List.isEmpty_eq_false_iff.1 hparameters)
  have hvalues : ∀ values, fill s.parameters (v :: args) named = (values, []) →
      ∃ rest, values = v :: rest ∧ WholeItems rest := by
    intro values hfill
    rw [heq, fill] at hfill
    obtain ⟨rfl, -⟩ := Prod.mk.inj hfill
    refine ⟨_, rfl, fun w hw => ?_⟩
    rcases mem_fill hw with hw | ⟨name, hw⟩ | ⟨q, hq, hw⟩
    · exact hargs w hw
    · exact isWhole_of_lookup hnamed hw
    · have hall := List.all_eq_true.1 hdefaults q (heq ▸ List.mem_cons_of_mem p hq)
      rwa [hw] at hall
  unfold bind
  refine .last fun _ => ?_
  dsimp only
  refine .ite (.last fun _ => ?_) ?_
  all_goals
    split
    · next values hfill => exact .pure (hvalues values hfill)
    · exact .throw _

end Signature

/-! ## Rows -/

namespace Filter

variable {strict : Bool} {v w : Value} {items : List Value}

theorem returns_follow (h : v.Unmixed) (path : List Value) : Returns Unmixed (follow strict v path) := by
  induction path generalizing v with
  | nil => exact .pure h
  | cons part rest ih => exact (returns_itemOf h part).bind fun _ hw => ih hw

/-- Pairs of what items are compared by and the items, in which nothing undefined stands. -/
def WholeKeyed (row : List (Value × Value)) : Prop :=
  ∀ p ∈ row, p.2.isWhole = true

theorem wholeItems_snd {row : List (Value × Value)} (h : WholeKeyed row) : WholeItems (row.map Prod.snd) := by
  intro v hv
  obtain ⟨p, hp, rfl⟩ := List.mem_map.1 hv
  exact h p hp

theorem wholeKeyed_reverse {row : List (Value × Value)} (h : WholeKeyed row) : WholeKeyed row.reverse :=
  fun p hp => h p (List.mem_reverse.1 hp)

theorem returns_keyed (strict sensitive : Bool) (path : Value) (h : WholeItems items) :
    Returns WholeKeyed (keyed strict sensitive path items) :=
  .mapM fun v hv => .last fun _ => .pure (h v hv)

theorem returns_insertFromEnd {x : Value × Value} {row : List (Value × Value)} (hx : x.2.isWhole = true)
    (hrow : WholeKeyed row) : Returns WholeKeyed (insertFromEnd x row) := by
  induction row with
  | nil => exact .pure (List.forall_mem_cons.2 ⟨hx, nofun⟩)
  | cons y rest ih =>
    obtain ⟨hy, hrest⟩ := List.forall_mem_cons.1 hrow
    have hbehind : Returns WholeKeyed (pure (x :: y :: rest)) := .pure (List.forall_mem_cons.2 ⟨hx, hrow⟩)
    unfold insertFromEnd
    refine .last fun _ => .ite ?_ hbehind
    exact (ih hrest).bind fun _ hks => .pure (List.forall_mem_cons.2 ⟨hy, hks⟩)

theorem returns_sortKeyed {row : List (Value × Value)} (h : WholeKeyed row) :
    Returns WholeKeyed (sortKeyed row) := by
  have hfold : ∀ sorted, WholeKeyed sorted →
      Returns WholeKeyed (row.foldlM (fun sorted x => insertFromEnd x sorted) sorted) := by
    induction row with
    | nil => exact fun _ hsorted => .pure hsorted
    | cons x rest ih =>
      obtain ⟨hx, hrest⟩ := List.forall_mem_cons.1 h
      intro sorted hsorted
      rw [List.foldlM_cons]
      exact (returns_insertFromEnd hx hsorted).bind fun _ hks => ih hrest _ hks
  exact (hfold [] nofun).bind fun _ hks => .pure (wholeKeyed_reverse hks)

theorem returns_sort (h : v.Unmixed) (backwards sensitive path : Value) :
    Returns (·.isWhole = true) (sort strict v backwards sensitive path) := by
  refine .last fun _ => h.items.bind fun xs hxs => (returns_keyed strict _ path hxs).bind fun ks hks => ?_
  refine .last fun _ => .ite ?_ ?_
  · refine (returns_sortKeyed (wholeKeyed_reverse hks)).bind fun _ hsorted => ?_
    exact .pure (isWhole_list.2 (wholeItems_snd (wholeKeyed_reverse hsorted)))
  · exact (returns_sortKeyed hks).bind fun _ hsorted => .pure (isWhole_list.2 (wholeItems_snd hsorted))

theorem returns_best (c : Comparison) {x : Value × Value} {row : List (Value × Value)} (hx : x.2.isWhole = true)
    (hrow : WholeKeyed row) : Returns (·.isWhole = true) (best c x row) := by
  induction row generalizing x with
  | nil => exact .pure hx
  | cons y rest ih =>
    obtain ⟨hy, hrest⟩ := List.forall_mem_cons.1 hrow
    refine .last fun less => ih ?_ hrest
    split
    · exact hy
    · exact hx

theorem returns_extreme (c : Comparison) (h : v.Unmixed) (sensitive path : Value) :
    Returns Unmixed (extreme c strict v sensitive path) := by
  refine .last fun _ => h.items.bind fun xs hxs => (returns_keyed strict _ path hxs).bind fun ks hks => ?_
  split
  · exact .pure nofun
  · obtain ⟨hx, hrest⟩ := List.forall_mem_cons.1 hks
    exact returns_unmixed (returns_best c hx hrest)

theorem returns_sum (h : v.Unmixed) (path : Value) {start : Value} (hstart : start.isWhole = true) :
    Returns Unmixed (sum strict v path start) := by
  have hfold : ∀ xs : List Value, (∀ x ∈ xs, x.Unmixed) → ∀ acc : Value, acc.Unmixed →
      Returns Unmixed (xs.foldlM (Value.operate .add) acc) := by
    intro xs
    induction xs with
    | nil => exact fun _ acc hacc => .pure hacc
    | cons x rest ih =>
      intro hxs acc hacc
      obtain ⟨hx, hrest⟩ := List.forall_mem_cons.1 hxs
      rw [List.foldlM_cons]
      exact (hacc.operate .add hx).bind fun w hw => ih hrest w (unmixed_of_isWhole hw)
  have hitems : Returns Unmixed (do
      let items ← (← v.items).mapM fun x => follow strict x (pathParts path)
      items.foldlM (Value.operate .add) start) := by
    refine h.items.bind fun xs hxs => ?_
    have hfollow : Returns (fun ys => ∀ y ∈ ys, Unmixed y) (xs.mapM fun x => follow strict x (pathParts path)) :=
      .mapM fun x hx => returns_follow (unmixed_of_isWhole (hxs x hx)) _
    exact hfollow.bind fun ys hys => hfold ys hys start (unmixed_of_isWhole hstart)
  exact .ite (.last fun _ => hitems) hitems

theorem returns_first (h : v.Unmixed) : Returns Unmixed (first strict v) := by
  unfold first
  split
  · exact .pure (unmixed_of_isWhole ((isWhole_stream ..).1 (h rfl) _ (List.mem_cons_self ..)))
  · refine h.items.bind fun xs hxs => ?_
    split
    · exact .pure (unmixed_of_isWhole (hxs _ (List.mem_cons_self ..)))
    · exact .pure nofun

theorem returns_last (h : v.Unmixed) : Returns Unmixed (last strict v) := by
  refine h.reversedItems.bind fun xs hxs => ?_
  split
  · exact .pure (unmixed_of_isWhole (hxs _ (List.mem_cons_self ..)))
  · exact .pure nofun

theorem returns_reverse (h : v.Unmixed) : Returns (·.isWhole = true) (reverse v) := by
  unfold reverse
  split
  · exact .pure rfl
  · exact .pure rfl
  · split
    · next hitems => exact .pure ((isWhole_stream ..).2 (h.reversedItems _ hitems))
    · exact .throw _
    · split
      · next hitems => exact .pure (isWhole_list.2 (wholeItems_reverse (h.items _ hitems)))
      · exact .throw _

/-- A row that is gone through later has nothing undefined in it either. -/
theorem isWhole_later {m : Except Fault (List Value)} (h : Returns WholeItems m) : (later m).isWhole = true := by
  cases m with
  | ok xs => exact (isWhole_stream ..).2 (h xs rfl)
  | error f => exact (isWhole_stream ..).2 nofun

theorem returns_uniqueItems {seen : List Value} {row : List (Value × Value)} (h : WholeKeyed row) :
    Returns WholeItems (uniqueItems seen row) := by
  induction row generalizing seen with
  | nil => exact .pure nofun
  | cons p rest ih =>
    obtain ⟨hp, hrest⟩ := List.forall_mem_cons.1 h
    refine .last fun _ => .ite (ih hrest) ?_
    exact (ih hrest).bind fun _ hvs => .pure (List.forall_mem_cons.2 ⟨hp, hvs⟩)

theorem returns_unique (h : v.Unmixed) (sensitive path : Value) :
    Returns (·.isWhole = true) (unique strict v sensitive path) := by
  refine .pure (isWhole_later ?_)
  refine .last fun _ => h.items.bind fun xs hxs => (returns_keyed strict _ path hxs).bind fun ks hks => ?_
  exact returns_uniqueItems hks

theorem wholeItems_batches (size : Value) {open_ : List Value} (hopen : WholeItems open_) (h : WholeItems items) :
    ∀ row ∈ batches size open_ items, WholeItems row := by
  induction items generalizing open_ with
  | nil =>
    rw [batches]
    split
    · exact nofun
    · exact List.forall_mem_cons.2 ⟨wholeItems_reverse hopen, nofun⟩
  | cons x rest ih =>
    obtain ⟨hx, hrest⟩ := List.forall_mem_cons.1 h
    rw [batches]
    split
    · exact List.forall_mem_cons.2 ⟨wholeItems_reverse hopen, ih (List.forall_mem_cons.2 ⟨hx, nofun⟩) hrest⟩
    · exact ih (List.forall_mem_cons.2 ⟨hx, hopen⟩) hrest

theorem wholeItems_fillUp (size : Value) {filling : Value} (hfilling : filling.isWhole = true) {row : List Value}
    (h : WholeItems row) : WholeItems (fillUp size filling row) := by
  unfold fillUp
  split
  · exact h
  · exact wholeItems_append h fun v hv => (List.mem_replicate.1 hv).2 ▸ hfilling
  · exact h

theorem returns_batch (h : v.Unmixed) (size : Value) {filling : Value} (hfilling : filling.isWhole = true) :
    Returns (·.isWhole = true) (batch v size filling) := by
  refine .pure (isWhole_later (h.items.bind fun xs hxs => .pure fun w hw => ?_))
  obtain ⟨row, hrow, rfl⟩ := List.mem_map.1 hw
  have hrows := wholeItems_batches size (show WholeItems [] from nofun) hxs
  exact isWhole_list.2 (wholeItems_fillUp size hfilling (hrows row hrow))

/-! ## The table -/

/-- A filter with whole defaults. It returns something undefined, or a value in which nothing undefined stands, if
nothing undefined stands in its value and its other parameters. -/
structure Sound (f : Filter) : Prop where
  parameters : f.signature.parameters.isEmpty = false
  defaults : Signature.haveWholeDefaults f.signature.parameters = true
  apply : ∀ (strict : Bool) (v : Value) (rest : List Value), v.Unmixed → WholeItems rest →
    Returns Unmixed (f.apply strict (v :: rest))

theorem returns_mapText (f : List Char → List Char) (v : Value) : Returns (·.isWhole = true) (mapText f v) := by
  unfold mapText
  split
  · exact .pure rfl
  · exact .last fun _ => .pure rfl

theorem returns_string (v : Value) : Returns (·.isWhole = true) (string v) := by
  unfold string
  split
  · exact .pure rfl
  · exact .pure rfl
  · exact .last fun _ => .pure rfl

theorem returns_trim (v chars : Value) : Returns (·.isWhole = true) (trim v chars) := by
  unfold trim
  split
  · exact returns_mapText _ v
  · split
    · exact returns_mapText _ v
    · exact .throw _

theorem returns_replace (v old new count : Value) : Returns (·.isWhole = true) (replace v old new count) := by
  refine .last fun _ => .last fun _ => .last fun _ => ?_
  dsimp only
  split
  · exact .last fun _ => .pure rfl
  · split
    · exact .last fun _ => .pure rfl
    · exact .last fun _ => .pure rfl

theorem returns_toInt (v : Value) {d : Value} (hd : d.isWhole = true) (base : Value) :
    Returns (·.isWhole = true) (toInt v d base) := by
  unfold toInt
  split
  · exact .pure rfl
  · refine .ite (.throw _) ?_
    split
    · exact .pure rfl
    · exact .ite (.pure hd) (.throw _)

theorem returns_toFloat (v : Value) {d : Value} (hd : d.isWhole = true) :
    Returns (·.isWhole = true) (toFloat v d) := by
  unfold toFloat
  split
  · exact .pure rfl
  · exact .ite (.pure hd) (.throw _)

theorem returns_join (strict : Bool) (v separator path : Value) :
    Returns (·.isWhole = true) (join strict v separator path) :=
  .last fun _ => .last fun _ => .last fun _ => .pure rfl

theorem returns_magnitude (v : Value) : Returns (·.isWhole = true) (magnitude v) := by
  unfold magnitude
  split
  · exact .pure rfl
  · exact .pure rfl
  · exact .throw _

theorem returns_roundNearest (v places : Value) : Returns (·.isWhole = true) (roundNearest v places) := by
  unfold roundNearest
  split
  · exact .pure rfl
  · exact .pure rfl
  · split
    · exact .last fun _ => .pure rfl
    · exact .throw _
  · split
    · exact .pure rfl
    · exact .throw _
  · exact .throw _

theorem returns_roundToward (up : Bool) (v : Value) {places : Value} (hplaces : places.isWhole = true) :
    Returns (·.isWhole = true) (roundToward up v places) := by
  have hten : Returns (·.isWhole = true) (Value.operate .power (.int 10) places) :=
    (unmixed_of_isWhole rfl).operate .power (unmixed_of_isWhole hplaces)
  refine hten.bind fun scale hscale => .last fun scaled => ?_
  have hdivide : ∀ n, Returns (·.isWhole = true) (Value.operate .divide (.int n) scale) :=
    fun n => (unmixed_of_isWhole rfl).operate .divide (unmixed_of_isWhole hscale)
  dsimp only
  split
  · exact .last fun n => hdivide n
  · exact .last fun n => hdivide n
  · exact .last fun n => hdivide n

theorem returns_round (v : Value) {places : Value} (hplaces : places.isWhole = true) (method : Value) :
    Returns (·.isWhole = true) (round v places method) := by
  unfold round
  split
  · exact returns_roundNearest v places
  · exact returns_roundToward true v hplaces
  · exact returns_roundToward false v hplaces
  · exact .throw _

theorem sound_ofValue {callee parameter : String} {f : Value → Except Fault Value}
    (h : ∀ v : Value, v.Unmixed → Returns Unmixed (f v)) : Sound (ofValue callee parameter f) where
  parameters := rfl
  defaults := rfl
  apply strict v rest hv _ := by
    dsimp only [ofValue]
    split
    · next heq =>
      obtain ⟨rfl, -⟩ := List.cons.inj heq
      exact h _ hv
    · exact .pure (unmixed_of_isWhole rfl)

section Parameters
variable {signature : Signature} (hparameters : signature.parameters.isEmpty = false)
  (hdefaults : Signature.haveWholeDefaults signature.parameters = true)
include hparameters hdefaults

theorem sound_one {f : Bool → Value → Except Fault Value}
    (h : ∀ strict (v : Value), v.Unmixed → Returns Unmixed (f strict v)) :
    Sound ⟨signature, fun strict vs => match vs with
      | [v] => f strict v
      | _ => pure .none⟩ := by
  refine ⟨hparameters, hdefaults, fun strict v rest hv hrest => ?_⟩
  obtain _ | ⟨a, rest⟩ := rest
  · exact h strict v hv
  · exact .pure (unmixed_of_isWhole rfl)

theorem sound_two {f : Bool → Value → Value → Except Fault Value}
    (h : ∀ strict (v a : Value), v.Unmixed → a.isWhole = true → Returns Unmixed (f strict v a)) :
    Sound ⟨signature, fun strict vs => match vs with
      | [v, a] => f strict v a
      | _ => pure .none⟩ := by
  refine ⟨hparameters, hdefaults, fun strict v rest hv hrest => ?_⟩
  match rest, hrest with
  | [a], hrest => exact h strict v a hv (hrest a (List.mem_singleton_self a))
  | [], _ | _ :: _ :: _, _ => exact .pure (unmixed_of_isWhole rfl)

theorem sound_three {f : Bool → Value → Value → Value → Except Fault Value}
    (h : ∀ strict (v a b : Value), v.Unmixed → WholeItems [a, b] → Returns Unmixed (f strict v a b)) :
    Sound ⟨signature, fun strict vs => match vs with
      | [v, a, b] => f strict v a b
      | _ => pure .none⟩ := by
  refine ⟨hparameters, hdefaults, fun strict v rest hv hrest => ?_⟩
  match rest, hrest with
  | [a, b], hrest => exact h strict v a b hv hrest
  | [], _ | [_], _ | _ :: _ :: _ :: _, _ => exact .pure (unmixed_of_isWhole rfl)

theorem sound_four {f : Bool → Value → Value → Value → Value → Except Fault Value}
    (h : ∀ strict (v a b c : Value), v.Unmixed → WholeItems [a, b, c] → Returns Unmixed (f strict v a b c)) :
    Sound ⟨signature, fun strict vs => match vs with
      | [v, a, b, c] => f strict v a b c
      | _ => pure .none⟩ := by
  refine ⟨hparameters, hdefaults, fun strict v rest hv hrest => ?_⟩
  match rest, hrest with
  | [a, b, c], hrest => exact h strict v a b c hv hrest
  | [], _ | [_], _ | [_, _], _ | _ :: _ :: _ :: _ :: _, _ => exact .pure (unmixed_of_isWhole rfl)

end Parameters

theorem sound_default : Sound default := by
  refine sound_three rfl rfl fun strict v d boolean hv hrest => ?_
  have hd := unmixed_of_isWhole (hrest d (List.mem_cons_self ..))
  refine .ite (.pure hd) (.last fun _ => .ite (.last fun _ => .pure ?_) (.pure hv))
  split
  · exact hv
  · exact hd

theorem sound_length : Sound length :=
  sound_ofValue fun _ _ => .last fun _ => .pure (unmixed_of_isWhole rfl)

theorem sound_mapText {callee parameter : String} (f : List Char → List Char) :
    Sound (ofValue callee parameter (mapText f)) :=
  sound_ofValue fun v _ => returns_unmixed (returns_mapText f v)

theorem sound_escape : Sound (ofValue "escape" "s" escape) := by
  refine sound_ofValue fun v _ => ?_
  unfold escape
  split
  · exact .pure (unmixed_of_isWhole rfl)
  · exact .last fun _ => .pure (unmixed_of_isWhole rfl)

theorem sound_table : ∀ p ∈ table, Sound p.2 := by
  unfold table
  simp only [List.forall_mem_cons]
  -- one by one in the order of the table, the plainest of them at once
  refine ⟨sound_mapText _, sound_mapText _, sound_mapText _, ?title, sound_length, sound_length, sound_default,
    sound_default, ?abs, sound_escape, sound_escape, ?safe, ?string, ?list, ?reverse, ?trim, ?replace, ?int, ?float,
    ?round, ?first, ?last, ?join, ?sort, ?sum, ?min, ?max, ?unique, ?batch, nofun⟩
  case title => exact sound_ofValue fun v _ => .last fun _ => .pure (unmixed_of_isWhole rfl)
  case abs => exact sound_ofValue fun v _ => returns_unmixed (returns_magnitude v)
  case safe => exact sound_ofValue fun v _ => .last fun _ => .pure (unmixed_of_isWhole rfl)
  case string => exact sound_ofValue fun v _ => returns_unmixed (returns_string v)
  case list =>
    exact sound_ofValue fun v hv => hv.items.bind fun xs hxs => .pure (unmixed_of_isWhole (isWhole_list.2 hxs))
  case reverse => exact sound_ofValue fun v hv => returns_unmixed (returns_reverse hv)
  case trim => exact sound_two rfl rfl fun _ v chars _ _ => returns_unmixed (returns_trim v chars)
  case replace =>
    exact sound_four rfl rfl fun _ v old new count _ _ => returns_unmixed (returns_replace v old new count)
  case int => exact sound_three rfl rfl fun _ v d base _ h => returns_unmixed (returns_toInt v (h d (by simp)) base)
  case float => exact sound_two rfl rfl fun _ v d _ h => returns_unmixed (returns_toFloat v h)
  case round =>
    exact sound_three rfl rfl fun _ v places method _ h => returns_unmixed (returns_round v (h places (by simp)) method)
  case first => exact sound_one rfl rfl fun strict v hv => returns_first hv
  case last => exact sound_one rfl rfl fun strict v hv => returns_last hv
  case join => exact sound_three rfl rfl fun strict v d path _ _ => returns_unmixed (returns_join strict v d path)
  case sort =>
    exact sound_four rfl rfl fun strict v backwards sensitive path hv _ =>
      returns_unmixed (returns_sort hv backwards sensitive path)
  case sum =>
    exact sound_three rfl rfl fun strict v path start hv h => returns_sum hv path (h start (by simp))
  case min => exact sound_three rfl rfl fun strict v sensitive path hv _ => returns_extreme .less hv sensitive path
  case max =>
    exact sound_three rfl rfl fun strict v sensitive path hv _ => returns_extreme .greater hv sensitive path
  case unique =>
    exact sound_three rfl rfl fun strict v sensitive path hv _ => returns_unmixed (returns_unique hv sensitive path)
  case batch =>
    exact sound_three rfl rfl fun strict v size filling hv h =>
      returns_unmixed (returns_batch hv size (h filling (by simp)))

/-! ## Filters by their names -/

theorem keepItems_subset (p : Value → Except Fault Bool) (items : List Value) : (keepItems p items).1 ⊆ items := by
  induction items with
  | nil => exact List.Subset.refl []
  | cons x rest ih =>
    rw [keepItems]
    split
    · exact List.nil_subset _
    · dsimp only
      split
      · exact List.cons_subset_cons x ih
      · exact List.subset_cons_of_subset x ih

/-- The items that are kept have nothing undefined in them. -/
theorem isWhole_kept (h : v.Unmixed) (p : Value → Except Fault Bool) :
    (laterWith (itemsIfTrue v) (keepItems p)).isWhole = true := by
  have hitems : Returns WholeItems (itemsIfTrue v) := .last fun _ => .ite h.items (.pure nofun)
  unfold laterWith
  split
  · next xs hxs => exact (isWhole_stream ..).2 fun w hw => hitems xs hxs w (keepItems_subset p xs hw)
  · exact (isWhole_stream ..).2 nofun

/-- **Filters return whole values, or something undefined**, if nothing undefined stands in what they get. -/
theorem returns_run {name : String} (hmap : name ≠ "map") (h : v.Unmixed) (hargs : WholeItems args)
    (hnamed : WholeFields named) : Returns Unmixed (run strict name v args named) := by
  have hname : ¬(name == "map") = true := by simpa using hmap
  have hkept : ∀ p, Returns Unmixed (pure (laterWith (itemsIfTrue v) (keepItems p))) :=
    fun p => .pure (unmixed_of_isWhole (isWhole_kept h p))
  rw [run.eq_def]
  split
  · next f hf =>
    obtain ⟨k, hmem, -⟩ := mem_of_lookup hf
    have hsound := sound_table _ hmem
    refine (Signature.returns_bind hsound.parameters hsound.defaults v hargs hnamed).bind ?_
    rintro _ ⟨rest, rfl, hrest⟩
    exact hsound.apply strict v rest h hrest
  · rw [if_neg hname]
    exact .ite (hkept _) (.ite (hkept _) (.throw _))
  · rw [if_neg hname]
    exact .ite (hkept _) (.ite (hkept _) (.throw _))

end Filter

end FieldRules.Expr
