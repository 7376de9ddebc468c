import FieldRules.Proofs.Rule.Gathering
import FieldRules.Proofs.Rule.Passages

/-!
# Round trips of rules

A rule text that has been written for descriptors is read as one fragment for each, in their order
(`parse_print`). What has been written for a part is read as that part, whatever stands behind it (`Taken`), so the
parts of a descriptor are passed in any order in which they may have been written (`passes_printIn`); they go into
the draft of its fragment, and the delimiter behind them ends it.
-/

namespace FieldRules.Rule

variable {strict : Bool} {text : List Char}

/-! ## Names -/

theorem readName_print {name : String} (hname : ∀ c ∈ name.toList, isNameChar c = true)
    {rest : List Char} (hrest : endsName rest = true) :
    readName text (name.toList ++ rest) = .ok (name, rest) := by
  obtain _ | ⟨c, after⟩ := rest
  · cases hrest
  · have hstop : isNameChar c = false := by
      simp only [endsName, Bool.or_eq_true, beq_iff_eq] at hrest
      rcases hrest with (rfl | rfl) | rfl <;> rfl
    have htrim : Text.trim name.toList = name.toList :=
      Text.trim_of_forall fun c hc => isBlank_of_isNameChar (hname c hc)
    rw [readName, List.takeWhile_append_of_pos hname, List.dropWhile_append_of_pos hname,
      List.takeWhile_cons, List.dropWhile_cons, hstop, if_neg Bool.false_ne_true,
      if_neg Bool.false_ne_true, List.append_nil]
    dsimp only
    rw [hrest, Bool.true_or, if_pos rfl, htrim, String.ofList_toList]
    rfl

/-! ## Groups and messages -/

/-- The name of a group that can be written: it has no blanks, and nothing that would end it. -/
def IsGroup (g : String) : Prop :=
  ∀ c ∈ g.toList, c ≠ ',' ∧ c ≠ '>' ∧ Text.isBlank c = false

theorem trim_group {g : String} (hg : IsGroup g) : Text.trim g.toList = g.toList :=
  Text.trim_of_forall fun c hc => (hg c hc).2.2

theorem readGroups_name {s : List Char} (hs : ∀ c ∈ s, c ≠ ',' ∧ c ≠ '>' ∧ Text.isBlank c = false)
    (groups : List String) (current rest : List Char) :
    readGroups strict text groups current false (s ++ rest)
      = readGroups strict text groups (s.reverse ++ current) false rest := by
  induction s generalizing current with
  | nil => rfl
  | cons c s ih =>
    rw [List.forall_mem_cons] at hs
    obtain ⟨⟨hcomma, hclose, hblank⟩, hs⟩ := hs
    rw [List.cons_append, readGroups, if_neg (by simpa using hclose), if_neg (by simpa using hcomma),
      hblank, if_neg Bool.false_ne_true, Bool.false_and, if_neg Bool.false_ne_true, ih hs,
      List.reverse_cons, List.append_assoc]
    rfl

/-- Groups that have been written are read up to their bracket. -/
theorem readGroups_print {groups : List String} (hne : groups ≠ []) (hgroups : ∀ g ∈ groups, IsGroup g)
    (before : List String) (rest : List Char) :
    readGroups strict text before [] false ([','].intercalate (groups.map String.toList) ++ '>' :: rest)
      = .ok (before ++ groups, rest) := by
  induction groups generalizing before with
  | nil => exact absurd rfl hne
  | cons g groups ih =>
    rw [List.forall_mem_cons] at hgroups
    have hname := trim_group hgroups.1
    cases groups with
    | nil =>
      rw [List.map_singleton, List.intercalate_singleton, readGroups_name hgroups.1, List.append_nil,
        readGroups, List.reverse_reverse, hname, String.ofList_toList]
      rfl
    | cons h groups =>
      have hmore := ih (List.cons_ne_nil _ _) hgroups.2 (before ++ [g])
      rw [List.map_cons, List.append_assoc] at hmore
      rw [List.map_cons, List.map_cons, List.intercalate_cons_cons, List.append_assoc, List.append_assoc,
        readGroups_name hgroups.1, List.append_nil, List.singleton_append, readGroups,
        List.reverse_reverse, hname, String.ofList_toList]
      exact hmore

/-- A message ends at the first double bracket, which is the one behind it. -/
theorem cutAt?_message {s : List Char} (hinner : ¬['>', '>'] <:+: s) (hlast : s.getLast? ≠ some '>')
    (rest : List Char) : Text.cutAt? ">>".toList (s ++ '>' :: '>' :: rest) = some (s, rest) := by
  induction s with
  | nil => rfl
  | cons c s ih =>
    have hlast' := getLast?_tail_ne hlast
    have hinner' : ¬['>', '>'] <:+: s := fun h => hinner (h.trans (List.suffix_cons c s).isInfix)
    -- a double bracket that starts here is inside the message, or its first half ends it
    have hstart : (">>".toList.isPrefixOf (c :: (s ++ '>' :: '>' :: rest))) = false := by
      rw [← Bool.not_eq_true, List.isPrefixOf_iff_prefix]
      rintro ⟨after, heq⟩
      obtain ⟨hc, htail⟩ := List.cons.inj heq
      cases s with
      | nil => exact hlast (by rw [← hc]; rfl)
      | cons d s =>
        have hd : '>' = d := (List.cons.inj htail).1
        refine hinner ⟨[], s, ?_⟩
        rw [← hc, ← hd]
        rfl
    rw [List.cons_append, Text.cutAt?, hstart, if_neg Bool.false_ne_true, ih hinner' hlast']
    rfl

theorem readMessage_print {m : String} (hinner : ¬['>', '>'] <:+: m.toList)
    (hlast : m.toList.getLast? ≠ some '>') (rest : List Char) :
    readMessage text (m.toList ++ '>' :: '>' :: rest) = .ok (m, rest) := by
  rw [readMessage, cutAt?_message hinner hlast]
  dsimp only
  rw [String.ofList_toList]
  rfl

/-! ## Parts -/

/-- A draft with arguments, if there are any. -/
def Draft.withArguments (d : Draft) : List Literal → Draft
  | [] => d
  | arguments => { d with arguments := arguments.map Literal.value, seen := d.seen ++ [.arguments] }

/-- A draft with groups, if there are any. -/
def Draft.withGroups (d : Draft) : List String → Draft
  | [] => d
  | groups => { d with groups, seen := d.seen ++ [.groups] }

/-- A draft with a message, if there is one. -/
def Draft.withMessage (d : Draft) : Option String → Draft
  | none => d
  | some message => { d with message := some message, seen := d.seen ++ [.message] }

variable {s : List Char}

theorem toList_eq_cons {s : String} (hne : s ≠ "") : ∃ c cs, s.toList = c :: cs := by
  cases hlist : s.toList with
  | nil => exact absurd (String.toList_eq_nil_iff.1 hlist) hne
  | cons c cs => exact ⟨c, cs, rfl⟩

/-- What has been written for a part is read as that part, up to what stands behind it. -/
structure Taken (strict : Bool) (text : List Char) (part : Part) (written s : List Char) (d d' : Draft) :
    Prop where
  starts : partAt? (written ++ s) = some part
  delimits : (written ++ s).head? ≠ some delimiter
  nonempty : written ≠ []
  read : readPart strict text part (written ++ s) d = .ok (d', s)

/-- What has been written for a part is passed by reading it. -/
theorem Taken.passes {draft? : Option Draft} {part : Part} {written : List Char} {d : Draft}
    (h : Taken strict text part written s (draft?.getD {}) d) :
    Passes strict text ⟨draft?, written ++ s⟩ [] ⟨some d, s⟩ := by
  have hstarts := h.starts
  have hdelimits := h.delimits
  have hread := h.read
  obtain ⟨c, cs, rfl⟩ := List.exists_cons_of_ne_nil h.nonempty
  refine .part ?_ hstarts hread (.here _)
  rintro rfl
  exact hdelimits rfl

theorem taken_name {name : String} (hne : name ≠ "") (hname : ∀ c ∈ name.toList, isNameChar c = true)
    (hs : endsName s = true) (d : Draft) :
    Taken strict text .name name.toList s d { d with name? := some name, seen := d.seen ++ [.name] } := by
  have hread := @readName_print text _ hname _ hs
  obtain ⟨c, cs, hlist⟩ := toList_eq_cons hne
  have hc : isNameChar c = true := hname c (by rw [hlist]; exact List.mem_cons_self ..)
  constructor
  case starts =>
    rw [hlist, List.cons_append, partAt?, hc, if_pos rfl]
    · rintro r rfl
      cases hc
    · rintro rfl
      cases hc
    · rintro rfl
      cases hc
  case delimits =>
    rw [hlist]
    intro heq
    cases Option.some.inj heq
    cases hc
  case nonempty =>
    rw [hlist]
    exact List.cons_ne_nil c cs
  case read =>
    rw [readPart_eq_bind]
    dsimp only
    rw [hread]
    rfl

theorem taken_arguments {arguments : List Literal} (hne : arguments ≠ [])
    (hprintable : ∀ l ∈ arguments, l.Printable) (d : Draft) :
    Taken strict text .arguments (Descriptor.printArguments arguments) s d (d.withArguments arguments) := by
  obtain ⟨l, arguments, rfl⟩ := List.exists_cons_of_ne_nil hne
  have hread := readArguments_print text (List.cons_ne_nil l arguments) hprintable s
  have hprint : Descriptor.printArguments (l :: arguments) ++ s
      = '(' :: ([','].intercalate ((l :: arguments).map Literal.print) ++ ')' :: s) := by
    simp [Descriptor.printArguments]
  constructor
  case starts =>
    rw [hprint]
    rfl
  case delimits =>
    rw [hprint]
    exact fun heq => absurd (Option.some.inj heq) (by decide)
  case nonempty => exact List.cons_ne_nil _ _
  case read =>
    rw [hprint, readPart_eq_bind]
    dsimp only
    rw [List.drop_one, List.tail_cons, hread]
    rfl

theorem taken_groups {groups : List String} (hne : groups ≠ []) (hgroups : ∀ g ∈ groups, IsGroup g)
    (hfirst : ∀ g ∈ groups, g ≠ "" ∧ g.toList.head? ≠ some '<') (d : Draft) :
    Taken strict text .groups (Descriptor.printGroups groups) s d (d.withGroups groups) := by
  obtain ⟨g, groups, rfl⟩ := List.exists_cons_of_ne_nil hne
  have hread := @readGroups_print strict text _ (List.cons_ne_nil g groups) hgroups [] s
  have hprint : Descriptor.printGroups (g :: groups) ++ s
      = '<' :: ([','].intercalate ((g :: groups).map String.toList) ++ '>' :: s) := by
    simp [Descriptor.printGroups]
  constructor
  case starts =>
    -- The name of the first group keeps its bracket from being taken for that of a message.
    obtain ⟨hnamed, hhead⟩ := hfirst g (List.mem_cons_self ..)
    obtain ⟨c, cs, hlist⟩ := toList_eq_cons hnamed
    have hstart : ∃ rest, [','].intercalate ((g :: groups).map String.toList) = c :: rest := by
      cases groups with
      | nil => exact ⟨cs, by rw [List.map_singleton, List.intercalate_singleton, hlist]⟩
      | cons k groups =>
        rw [List.map_cons, List.map_cons, List.intercalate_cons_cons, hlist]
        exact ⟨_, rfl⟩
    obtain ⟨rest, hrest⟩ := hstart
    rw [hprint, hrest, List.cons_append, partAt?]
    rintro r heq
    rw [hlist, List.head?_cons, (List.cons.inj heq).1] at hhead
    exact hhead rfl
  case delimits =>
    rw [hprint]
    exact fun heq => absurd (Option.some.inj heq) (by decide)
  case nonempty => exact List.cons_ne_nil _ _
  case read =>
    rw [hprint, readPart_eq_bind]
    dsimp only
    rw [List.drop_one, List.tail_cons, hread]
    rfl

theorem taken_message {m : String} (hinner : ¬['>', '>'] <:+: m.toList) (hlast : m.toList.getLast? ≠ some '>')
    (d : Draft) :
    Taken strict text .message (Descriptor.printMessage (some m)) s d (d.withMessage (some m)) := by
  have hread := @readMessage_print text _ hinner hlast s
  have hprint : Descriptor.printMessage (some m) ++ s = '<' :: '<' :: (m.toList ++ '>' :: '>' :: s) := by
    simp [Descriptor.printMessage]
  constructor
  case starts =>
    rw [hprint]
    rfl
  case delimits =>
    rw [hprint]
    exact fun heq => absurd (Option.some.inj heq) (by decide)
  case nonempty => exact List.cons_ne_nil _ _
  case read =>
    rw [hprint, readPart_eq_bind]
    dsimp only
    rw [List.drop_succ_cons, List.drop_succ_cons, List.drop_zero, hread]
    rfl

/-! ## Descriptors -/

/-- The draft of a descriptor once all its parts have been read. -/
def Descriptor.draft (d : Descriptor) : Draft :=
  ((({ name? := some d.name, seen := [.name] } : Draft).withArguments d.arguments).withGroups d.groups)
    |>.withMessage d.message?

/-- The fragment that a descriptor is read as. -/
def Descriptor.fragment (d : Descriptor) : Fragment :=
  .make d.name (d.arguments.map Literal.value) d.groups d.message?

/-- The parts that a descriptor has. -/
def Descriptor.parts (d : Descriptor) : List Part :=
  .name :: ((if d.arguments.isEmpty then [] else [.arguments])
    ++ ((if d.groups.isEmpty then [] else [.groups]) ++ if d.message?.isNone then [] else [.message]))

theorem Descriptor.draft_eq (d : Descriptor) :
    d.draft = ⟨some d.name, d.arguments.map Literal.value, d.groups, d.message?, d.parts⟩ := by
  obtain ⟨name, arguments, groups, message⟩ := d
  cases arguments <;> cases groups <;> cases message <;> rfl

/-- The parts of a descriptor have been written in their order. -/
theorem Descriptor.inOrder_parts (d : Descriptor) : inOrder d.parts = d.parts := by
  have hall : ∀ a g m : Bool, (Part.name :: ((if a then [] else [.arguments])
      ++ ((if g then [] else [.groups]) ++ if m then [] else [.message]))).Pairwise
        fun p q => decide (p.rank ≤ q.rank) = true := by decide
  exact List.mergeSort_of_pairwise (hall _ _ _)

theorem Descriptor.nodup_parts (d : Descriptor) : d.parts.Nodup := by
  have hall : ∀ a g m : Bool, (Part.name :: ((if a then [] else [.arguments])
      ++ ((if g then [] else [.groups]) ++ if m then [] else [.message]))).Nodup := by decide
  exact hall _ _ _

section Parts
variable {d : Descriptor}

theorem Descriptor.arguments_mem_parts : Part.arguments ∈ d.parts ↔ d.arguments ≠ [] := by
  simp [parts]

theorem Descriptor.groups_mem_parts : Part.groups ∈ d.parts ↔ d.groups ≠ [] := by
  simp [parts]

theorem Descriptor.message_mem_parts : Part.message ∈ d.parts ↔ d.message? ≠ none := by
  simp [parts]

/-! ## Parts in any order -/

/-- A part of a descriptor as it is written. -/
def Descriptor.printPart (d : Descriptor) : Part → List Char
  | .name => d.name.toList
  | .arguments => printArguments d.arguments
  | .groups => printGroups d.groups
  | .message => printMessage d.message?

/-- The parts of a descriptor as they are written in an order. -/
def Descriptor.printIn (d : Descriptor) (order : List Part) : List Char :=
  order.flatMap d.printPart

/-- A draft with a part of a descriptor, if it has that part. -/
def Draft.fill (d : Descriptor) (draft : Draft) : Part → Draft
  | .name => { draft with name? := some d.name, seen := draft.seen ++ [.name] }
  | .arguments => draft.withArguments d.arguments
  | .groups => draft.withGroups d.groups
  | .message => draft.withMessage d.message?

theorem Descriptor.print_eq (d : Descriptor) : d.print = d.printIn d.parts := by
  obtain ⟨name, arguments, groups, message⟩ := d
  rw [print, List.append_assoc, List.append_assoc]
  cases arguments <;> cases groups <;> cases message <;>
    simp [printIn, parts, printPart, printArguments, printGroups, printMessage]

/-- A part of a descriptor that has been written is read into the draft. -/
theorem taken_part (hd : d.Printable) {part : Part} (hpart : part ∈ d.parts)
    (hends : part = .name → endsName s = true) (draft : Draft) :
    Taken strict text part (d.printPart part) s draft (draft.fill d part) := by
  cases part with
  | name => exact taken_name hd.named hd.name (hends rfl) draft
  | arguments => exact taken_arguments (Descriptor.arguments_mem_parts.1 hpart) hd.arguments draft
  | groups =>
    exact taken_groups (Descriptor.groups_mem_parts.1 hpart) (fun g hg => (hd.groups g hg).2.2)
      (fun g hg => ⟨(hd.groups g hg).1, (hd.groups g hg).2.1⟩) draft
  | message =>
    obtain ⟨m, hm⟩ := Option.ne_none_iff_exists'.1 (Descriptor.message_mem_parts.1 hpart)
    obtain ⟨hinner, hlast⟩ := hd.message m hm
    rw [Descriptor.printPart, Draft.fill, hm]
    exact taken_message hinner hlast draft

/-- A name may end where other parts stand behind it. -/
theorem endsName_printIn {order : List Part} (hparts : ∀ part ∈ order, part ∈ d.parts) (hname : .name ∉ order)
    (rest : List Char) : endsName (d.printIn order ++ delimiter :: rest) = true := by
  cases order with
  | nil => rfl
  | cons part order =>
    have hpart := hparts part (List.mem_cons_self ..)
    rw [Descriptor.printIn, List.flatMap_cons, List.append_assoc]
    cases part with
    | name => exact absurd (List.mem_cons_self ..) hname
    | arguments =>
      obtain ⟨l, arguments, h⟩ := List.exists_cons_of_ne_nil (Descriptor.arguments_mem_parts.1 hpart)
      simp only [Descriptor.printPart, h]
      rfl
    | groups =>
      obtain ⟨g, groups, h⟩ := List.exists_cons_of_ne_nil (Descriptor.groups_mem_parts.1 hpart)
      simp only [Descriptor.printPart, h]
      rfl
    | message =>
      obtain ⟨m, h⟩ := Option.ne_none_iff_exists'.1 (Descriptor.message_mem_parts.1 hpart)
      simp only [Descriptor.printPart, h]
      rfl

theorem passes_part (hd : d.Printable) {part : Part} (hpart : part ∈ d.parts)
    (hends : part = .name → endsName s = true) (draft? : Option Draft) :
    Passes strict text ⟨draft?, d.printPart part ++ s⟩ [] ⟨some ((draft?.getD {}).fill d part), s⟩ :=
  (taken_part hd hpart hends _).passes

/-- Parts that have been written one after the other, each of them once, are read into the draft. -/
theorem passes_parts (hd : d.Printable) {order : List Part} (hne : order ≠ [])
    (hparts : ∀ part ∈ order, part ∈ d.parts) (hnodup : order.Nodup) (draft? : Option Draft) (rest : List Char) :
    Passes strict text ⟨draft?, d.printIn order ++ delimiter :: rest⟩ []
      ⟨some (order.foldl (Draft.fill d) (draft?.getD {})), delimiter :: rest⟩ := by
  induction order generalizing draft? with
  | nil => exact absurd rfl hne
  | cons part order ih =>
    rw [List.forall_mem_cons] at hparts
    rw [List.nodup_cons] at hnodup
    have hends : part = .name → endsName (d.printIn order ++ delimiter :: rest) = true := by
      rintro rfl
      exact endsName_printIn hparts.2 hnodup.1 rest
    rw [Descriptor.printIn, List.flatMap_cons, List.append_assoc]
    apply (passes_part hd hparts.1 hends draft?).trans
    by_cases hlast : order = []
    · rw [hlast]
      exact .here _
    · exact ih hlast hparts.2 hnodup.2 (some _)

/-- What a draft holds after some parts of a descriptor. -/
theorem foldl_fill {order : List Part} (hparts : ∀ part ∈ order, part ∈ d.parts) (draft : Draft) :
    order.foldl (Draft.fill d) draft =
      { name? := if .name ∈ order then some d.name else draft.name?
        arguments := if .arguments ∈ order then d.arguments.map Literal.value else draft.arguments
        groups := if .groups ∈ order then d.groups else draft.groups
        message := if .message ∈ order then d.message? else draft.message
        seen := draft.seen ++ order } := by
  induction order generalizing draft with
  | nil => simp
  | cons part order ih =>
    rw [List.forall_mem_cons] at hparts
    rw [List.foldl_cons, ih hparts.2]
    cases part with
    | name => simp [Draft.fill]
    | arguments =>
      obtain ⟨l, arguments, h⟩ := List.exists_cons_of_ne_nil (Descriptor.arguments_mem_parts.1 hparts.1)
      simp [Draft.fill, h, Draft.withArguments]
    | groups =>
      obtain ⟨g, groups, h⟩ := List.exists_cons_of_ne_nil (Descriptor.groups_mem_parts.1 hparts.1)
      simp [Draft.fill, h, Draft.withGroups]
    | message =>
      obtain ⟨m, h⟩ := Option.ne_none_iff_exists'.1 (Descriptor.message_mem_parts.1 hparts.1)
      simp [Draft.fill, h, Draft.withMessage]

/-- All parts of a descriptor make its draft, up to the order in which they have been seen. -/
theorem foldl_fill_of_perm {order : List Part} (horder : order.Perm d.parts) :
    order.foldl (Draft.fill d) {} = { d.draft with seen := order } := by
  have hname : Part.name ∈ d.parts := List.mem_cons_self ..
  rw [foldl_fill fun part => horder.mem_iff.1, Descriptor.draft_eq]
  simp only [horder.mem_iff, Descriptor.arguments_mem_parts, Descriptor.groups_mem_parts,
    Descriptor.message_mem_parts, hname, List.nil_append, if_true]
  obtain ⟨name, arguments, groups, message⟩ := d
  cases arguments <;> cases groups <;> cases message <;> simp

theorem finish_draft (hne : d.name ≠ "") {order : List Part} (horder : strict = true → inOrder order = order) :
    finish strict text { d.draft with seen := order } = .ok d.fragment := by
  have hname : d.name.isEmpty = false := by
    rw [← Bool.not_eq_true, String.isEmpty_iff]
    exact hne
  have haccepted : (strict && order != inOrder order) = false := by
    cases strict with
    | false => rfl
    | true => rw [horder rfl, bne_self_eq_false, Bool.and_false]
  rw [Descriptor.draft_eq, finish]
  dsimp only
  rw [hname, if_neg Bool.false_ne_true, haccepted, if_neg Bool.false_ne_true]
  rfl

/-- The parts of a descriptor that have been written in an order, up to the delimiter behind them. -/
theorem passes_order (hd : d.Printable) {order : List Part} (horder : order.Perm d.parts) (rest : List Char) :
    Passes strict text ⟨none, d.printIn order ++ delimiter :: rest⟩ []
      ⟨some { d.draft with seen := order }, delimiter :: rest⟩ := by
  have hne : order ≠ [] := by
    rintro rfl
    exact List.cons_ne_nil _ _ horder.nil_eq.symm
  rw [← foldl_fill_of_perm horder]
  exact passes_parts hd hne (fun part => horder.mem_iff.1) (horder.nodup_iff.2 d.nodup_parts) none rest

end Parts

/-- Descriptors that have been written one after the other are read one after the other. -/
theorem passes_descriptors {ds : List Descriptor} (hds : ∀ d ∈ ds, d.Printable) :
    Passes strict text ⟨none, ds.flatMap fun d => d.print ++ [delimiter]⟩ (ds.map Descriptor.fragment)
      ⟨none, []⟩ := by
  induction ds with
  | nil => exact .here _
  | cons d ds ih =>
    rw [List.forall_mem_cons] at hds
    rw [List.flatMap_cons, d.print_eq, List.append_assoc, List.map_cons]
    refine (passes_order hds.1 (.refl _) _).trans (.finished ?_ (ih hds.2))
    exact finish_draft hds.1.named fun _ => d.inOrder_parts

/-! ## Rule texts -/

/-- A text that is not cleaned: no blanks stand around it, and no delimiter ends it. -/
def Closed (s : List Char) : Prop :=
  (∃ c, s.head? = some c ∧ Text.isBlank c = false) ∧
    ∃ c, s.getLast? = some c ∧ Text.isBlank c = false ∧ c ≠ delimiter

theorem Closed.join {s t : List Char} (hs : Closed s) (between : List Char) (ht : Closed t) :
    Closed (s ++ between ++ t) := by
  obtain ⟨⟨c, hc, hblank⟩, -⟩ := hs
  obtain ⟨-, ⟨e, he, hlast⟩⟩ := ht
  refine ⟨⟨c, ?_, hblank⟩, ⟨e, ?_, hlast⟩⟩
  · rw [List.append_assoc, List.head?_append, hc, Option.some_or]
  · rw [List.getLast?_append, he, Option.some_or]

theorem clean_of_closed {s : List Char} (hs : Closed s) :
    clean (some (String.ofList s)) = .ok (String.ofList (s ++ [delimiter])) := by
  obtain ⟨⟨c, hc, hfirst⟩, ⟨e, he, hlast, hne⟩⟩ := hs
  have htrim : Text.trim s = s := by
    refine Text.trim_eq_self (fun x hx => ?_) (fun x hx => ?_)
    · rw [hc] at hx
      rw [← Option.some.inj hx, hfirst]
    · rw [he] at hx
      rw [← Option.some.inj hx, hlast]
  have hempty : s.isEmpty = false := by
    rw [← Bool.not_eq_true, List.isEmpty_iff]
    rintro rfl
    cases hc
  have hend : (s.getLast? == some delimiter) = false := by
    rw [he, ← Bool.not_eq_true, beq_iff_eq]
    exact fun h => hne (Option.some.inj h)
  rw [clean, String.toList_ofList, htrim, hempty, if_neg Bool.false_ne_true, hend,
    if_neg Bool.false_ne_true]
  rfl

section Descriptors
variable {d : Descriptor}

theorem Descriptor.closed_printPart (hd : d.Printable) {part : Part} (hpart : part ∈ d.parts) :
    Closed (d.printPart part) := by
  have hbrackets : ∀ {first last : Char} (inner : List Char), Text.isBlank first = false →
      Text.isBlank last = false ∧ last ≠ delimiter → Closed (first :: inner ++ [last]) :=
    fun inner hfirst hlast => ⟨⟨_, rfl, hfirst⟩, ⟨_, List.getLast?_concat, hlast⟩⟩
  cases part with
  | name =>
    have hchar : ∀ c ∈ d.name.toList, Text.isBlank c = false ∧ c ≠ delimiter := by
      intro c hc
      refine ⟨isBlank_of_isNameChar (hd.name c hc), ?_⟩
      rintro rfl
      cases hd.name _ hc
    have hne : d.name.toList ≠ [] := fun h => hd.named (String.toList_eq_nil_iff.1 h)
    exact ⟨⟨_, List.head?_eq_some_head hne, (hchar _ (List.head_mem hne)).1⟩,
      ⟨_, List.getLast?_eq_some_getLast hne, hchar _ (List.getLast_mem hne)⟩⟩
  | arguments =>
    obtain ⟨l, arguments, h⟩ := List.exists_cons_of_ne_nil (arguments_mem_parts.1 hpart)
    simp only [printPart, h]
    exact hbrackets _ (by decide) (by decide)
  | groups =>
    obtain ⟨g, groups, h⟩ := List.exists_cons_of_ne_nil (groups_mem_parts.1 hpart)
    simp only [printPart, h]
    exact hbrackets _ (by decide) (by decide)
  | message =>
    obtain ⟨m, h⟩ := Option.ne_none_iff_exists'.1 (message_mem_parts.1 hpart)
    have hprint : d.printPart .message = '<' :: ('<' :: m.toList ++ ['>']) ++ ['>'] := by
      simp [printPart, printMessage, h]
    rw [hprint]
    exact hbrackets _ (by decide) (by decide)

theorem Descriptor.closed_printIn (hd : d.Printable) {order : List Part} (hne : order ≠ [])
    (hparts : ∀ part ∈ order, part ∈ d.parts) : Closed (d.printIn order) := by
  -- The first part gives the start of the text and the last part its end.
  induction order with
  | nil => exact absurd rfl hne
  | cons part order ih =>
    rw [List.forall_mem_cons] at hparts
    have hfirst := closed_printPart hd hparts.1
    rw [printIn, List.flatMap_cons]
    by_cases hlast : order = []
    · rw [hlast, List.flatMap_nil, List.append_nil]
      exact hfirst
    · have hjoin := hfirst.join [] (ih hlast hparts.2)
      rw [List.append_nil] at hjoin
      exact hjoin

theorem Descriptor.closed_print (hd : d.Printable) : Closed d.print := by
  rw [print_eq]
  exact closed_printIn hd (List.cons_ne_nil _ _) fun _ h => h

end Descriptors

/-- Delimiters between descriptors and one at the end make one behind each. -/
theorem flatMap_print {ds : List Descriptor} (hne : ds ≠ []) :
    [delimiter].intercalate (ds.map Descriptor.print) ++ [delimiter]
      = ds.flatMap fun d => d.print ++ [delimiter] := by
  induction ds with
  | nil => exact absurd rfl hne
  | cons d ds ih =>
    cases ds with
    | nil => rw [List.map_singleton, List.intercalate_singleton, List.flatMap_singleton]
    | cons e ds =>
      have hmore := ih (List.cons_ne_nil e ds)
      rw [List.map_cons] at hmore
      rw [List.map_cons, List.map_cons, List.intercalate_cons_cons, List.append_assoc, hmore]
      rfl

theorem closed_print {ds : List Descriptor} (hne : ds ≠ []) (hds : ∀ d ∈ ds, d.Printable) :
    Closed ([delimiter].intercalate (ds.map Descriptor.print)) := by
  induction ds with
  | nil => exact absurd rfl hne
  | cons d ds ih =>
    rw [List.forall_mem_cons] at hds
    cases ds with
    | nil =>
      rw [List.map_singleton, List.intercalate_singleton]
      exact Descriptor.closed_print hds.1
    | cons e ds =>
      rw [List.map_cons, List.map_cons, List.intercalate_cons_cons]
      exact (Descriptor.closed_print hds.1).join [delimiter] (ih (List.cons_ne_nil e ds) hds.2)

theorem parse_print_eq {ds : List Descriptor} (hne : ds ≠ []) (hds : ∀ d ∈ ds, d.Printable)
    (strict : Bool) : parse strict (some (print ds)) = .ok (ds.map Descriptor.fragment) := by
  rw [parse_eq_bind, print, clean_of_closed (closed_print hne hds)]
  dsimp only [Bind.bind, Except.bind]
  rw [String.toList_ofList, flatMap_print hne]
  exact (passes_descriptors hds).reads _ (Nat.lt_succ_self _)

/-! ## Round trips -/

theorem mem_eraseReps {a : String} {names : List String} : a ∈ names.eraseReps ↔ a ∈ names := by
  have hloop : ∀ (rest : List String) (first : String) (acc : List String),
      a ∈ List.eraseRepsBy.loop (· == ·) first rest acc ↔ a ∈ acc ∨ a = first ∨ a ∈ rest := by
    intro rest
    induction rest with
    | nil =>
      intro first acc
      rw [List.eraseRepsBy.loop, List.mem_reverse, List.mem_cons]
      simp [or_comm]
    | cons next rest ih =>
      intro first acc
      rw [List.eraseRepsBy.loop]
      cases heq : first == next with
      | true =>
        have hsame : first = next := eq_of_beq heq
        dsimp only
        rw [ih, List.mem_cons, hsame]
        simp
      | false =>
        dsimp only
        rw [ih, List.mem_cons, List.mem_cons]
        simp [or_left_comm, or_assoc]
  cases names with
  | nil => exact Iff.rfl
  | cons first rest =>
    rw [List.eraseReps, List.eraseRepsBy, hloop, List.mem_cons]
    simp

theorem mem_sortNames {a : String} {names : List String} : a ∈ sortNames names ↔ a ∈ names := by
  rw [sortNames, mem_eraseReps, List.mem_mergeSort]

/-- A descriptor that can be written describes the fragment that it is read as. -/
theorem Descriptor.describes_fragment {d : Descriptor} (hd : d.Printable) : d.Describes d.fragment where
  name := rfl
  arguments := by
    have hvalues : ∀ ls : List Literal, (∀ l ∈ ls, l.Printable) →
        List.Forall₂ Literal.Denotes ls (ls.map Literal.value) := by
      intro ls hls
      induction ls with
      | nil => exact .nil
      | cons l ls ih =>
        rw [List.forall_mem_cons] at hls
        exact .cons (Literal.denotes_value hls.1) (ih hls.2)
    exact hvalues d.arguments hd.arguments
  groups := by
    intro g
    show g ∈ sortNames (d.groups.filter fun g => !g.isEmpty) ↔ g ∈ d.groups
    rw [mem_sortNames, List.mem_filter]
    refine ⟨And.left, fun hg => ⟨hg, ?_⟩⟩
    have hne := (hd.groups g hg).1
    simpa using hne
  message := rfl
  template := by
    show (if (d.arguments.map Literal.value).isEmpty then d.name else d.name ++ "(...)") = _
    rw [List.isEmpty_map]

/-- **Round trip.** A rule text that is written for descriptors is read, by a strict reader and by any
other, as one fragment for each descriptor, in their order and with all that they say. -/
theorem parse_print {ds : List Descriptor} (hne : ds ≠ []) (hds : ∀ d ∈ ds, d.Printable)
    (strict : Bool) :
    ∃ fs, parse strict (some (print ds)) = .ok fs ∧ List.Forall₂ Descriptor.Describes ds fs := by
  refine ⟨_, parse_print_eq hne hds strict, ?_⟩
  clear hne
  induction ds with
  | nil => exact .nil
  | cons d ds ih =>
    rw [List.forall_mem_cons] at hds
    exact .cons (Descriptor.describes_fragment hds.1) (ih hds.2)

/-- Descriptors with delimiters of rules inside of texts, patterns, groups and a message. -/
def fenced : List Descriptor :=
  [{ name := "size", groups := ["A", "b;(c"], message? := some "a <b> (or; c)",
     arguments := [.text "it's; <a>)", .pattern "[)/;]+", .integer (-3), .truth true, .nothing] },
    { name := "matches", arguments := [.pattern "/"] }]

theorem printable_fenced : ∀ d ∈ fenced, d.Printable := by
  have hcompiles : ∀ source, (Regex.compile source).isOk = true → ∃ r, Regex.compile source = .ok r := by
    intro source h
    cases hr : Regex.compile source with
    | ok r => exact ⟨r, rfl⟩
    | error p =>
      rw [hr] at h
      cases h
  have hgroup : ∀ g : String, (g.toList.all fun c => c != ',' && c != '>' && !Text.isBlank c) = true →
      IsGroup g := by
    intro g hg c hc
    have hchar := List.all_eq_true.1 hg c hc
    simpa [and_assoc] using hchar
  have hdigits : 3 < 10 ^ Number.maxDigits :=
    Nat.lt_of_lt_of_le (show 3 < 10 ^ 1 by decide) (Nat.pow_le_pow_right (by decide) (by decide))
  intro d hd
  simp only [fenced, List.mem_cons, List.not_mem_nil, or_false] at hd
  rcases hd with rfl | rfl
  · refine ⟨by decide, List.all_eq_true.1 (by decide), ?_, ?_, ?_⟩
    · simp only [List.forall_mem_cons, List.not_mem_nil, Literal.Printable]
      exact ⟨trivial, ⟨hcompiles _ (by decide +kernel), by decide⟩, hdigits, trivial, trivial,
        fun _ h => h.elim⟩
    · simp only [List.forall_mem_cons, List.not_mem_nil]
      exact ⟨⟨by decide, by decide, hgroup "A" (by decide)⟩,
        ⟨by decide, by decide, hgroup "b;(c" (by decide)⟩, fun _ h => h.elim⟩
    · rintro m ⟨⟩
      exact ⟨fun h => absurd (h.sublist.count_le '>') (by decide), by decide⟩
  · refine ⟨by decide, List.all_eq_true.1 (by decide), ?_, (fun g hg => nomatch hg), ?_⟩
    · simp only [List.forall_mem_cons, List.not_mem_nil, Literal.Printable]
      exact ⟨⟨hcompiles _ (by decide +kernel), by decide⟩, fun _ h => h.elim⟩
    · rintro m ⟨⟩

theorem parse_print_fenced :
    ∃ fs, parse true (some (print fenced)) = .ok fs ∧ List.Forall₂ Descriptor.Describes fenced fs :=
  parse_print (by decide) printable_fenced true

end FieldRules.Rule
