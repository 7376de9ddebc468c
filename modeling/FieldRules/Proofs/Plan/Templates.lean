import FieldRules.Proofs.Plan.Purity
import FieldRules.Proofs.Rule.Joining
import Mathlib.Data.Finset.Card
import Mathlib.Data.Finset.Dedup

/-!
# Rule texts that are compiled one after the other

Compiling a rule text looks for the cleaned text in the cache of texts, and for the argument lists in it in the
cache of lists. Lists with different patterns in them may look the same there, since patterns go by their
numbers; but what is kept of a list is the expression, which is the same for all of them. So whatever has been
compiled before, a text is compiled to what a new reader reads from it, or fails as that reader does
(`compileTemplate_transparent`). Texts that are cleaned to the same share one entry (`clean_eq_clean_iff`), and
there are as many entries as cleaned texts that could be read.
-/

namespace FieldRules

open Cache

/-! ## The same text -/

namespace Rule

/-- Texts that are not blank and differ only in the blanks around them and in a delimiter that one of them lacks
at its end. A blank in front of that delimiter is part of the text. -/
def SameText (a b : String) : Prop :=
  Text.trim a.toList ≠ [] ∧ Text.trim b.toList ≠ [] ∧
    (Text.trim a.toList = Text.trim b.toList ∨ Lacks (Text.trim a.toList) (Text.trim b.toList) ∨
      Lacks (Text.trim b.toList) (Text.trim a.toList))
where
  /-- The first text is the second one without the delimiter at its end, and has none itself. -/
  Lacks (s t : List Char) : Prop := t = s ++ [delimiter] ∧ s.getLast? ≠ some delimiter

/-- Texts are cleaned to the same exactly if they are the same up to blanks around them and a last delimiter. -/
theorem clean_eq_clean_iff {a b : String} :
    (∃ key, clean (some a) = .ok key ∧ clean (some b) = .ok key) ↔ SameText a b := by
  constructor
  · rintro ⟨key, ha, hb⟩
    obtain ⟨hane, s, hs, hends⟩ := clean_eq_ok ha
    obtain ⟨hbne, t, ht, hendt⟩ := clean_eq_ok hb
    obtain rfl : s = t := by
      rw [hs] at ht
      exact List.append_cancel_right ht
    refine ⟨hane, hbne, ?_⟩
    rcases hends with has | ⟨has, hopen⟩ <;> rcases hendt with hbs | ⟨hbs, hopen'⟩
    · exact .inl (has.trans hbs.symm)
    · exact .inr (.inr ⟨by rw [has, hbs], by rwa [hbs]⟩)
    · exact .inr (.inl ⟨by rw [has, hbs], by rwa [has]⟩)
    · exact .inl (has.trans hbs.symm)
  · rintro ⟨hane, hbne, hsame⟩
    refine ⟨_, clean_eq rfl hane, ?_⟩
    rw [clean_eq rfl hbne]
    rcases hsame with heq | ⟨heq, hopen⟩ | ⟨heq, hopen⟩
    · rw [heq]
    · rw [heq, if_pos List.getLast?_concat, if_neg hopen]
    · rw [heq, if_pos List.getLast?_concat, if_neg hopen]

end Rule

/-! ## Keys that are kept -/

namespace Cache

variable {κ ε α : Type} [BEq κ] [LawfulBEq κ] {c : Cache κ α} {key : κ}

/-- Nothing is added by an outcome that has failed, or for a key that is there. -/
theorem entries_remember {r : Except ε α} (h : ∀ v, r = .ok v → key ∈ c.entries.map Prod.fst) :
    (c.remember key r).entries = c.entries := by
  unfold Cache.remember
  cases hfind : c.find? key with
  | some e => rfl
  | none =>
    cases r with
    | error e => rfl
    | ok v =>
      have hsome := find?_isSome.2 (h v rfl)
      rw [hfind] at hsome
      cases hsome

theorem nodup_keys_remember (h : (c.entries.map Prod.fst).Nodup) (r : Except ε α) :
    ((c.remember key r).entries.map Prod.fst).Nodup := by
  unfold Cache.remember
  cases hfind : c.find? key with
  | some e => exact h
  | none =>
    cases r with
    | error e => exact h
    | ok v =>
      have hmem : key ∉ c.entries.map Prod.fst := by
        rw [← find?_isSome, hfind]
        simp
      rw [List.map_append]
      exact h.append (List.nodup_singleton key) (List.disjoint_singleton.2 hmem)

/-- Something is kept under a key exactly if the key is among those of the entries, and it is right. -/
theorem Holds.kept?_eq_some_iff {good : κ → Except ε α} (h : Holds good c) {v : α} :
    c.kept? key = some v ↔ key ∈ c.entries.map Prod.fst ∧ good key = .ok v := by
  rw [← find?_isSome, h.find?_eq]
  constructor
  · intro hv
    exact ⟨by rw [hv]; rfl, h.kept? hv⟩
  · rintro ⟨hsome, hgood⟩
    cases hkept : c.kept? key with
    | none =>
      rw [hkept] at hsome
      cases hsome
    | some w =>
      have hw := h.kept? hkept
      rw [hgood] at hw
      cases hw
      rfl

end Cache

/-! ## Texts that are compiled -/

namespace Plans

variable {strict : Bool} {p : Plans}

/-- What a new reader, which has read no argument list yet, reads from a rule text. -/
def readAfresh (strict : Bool) (text? : Option String) : Except Error (List Fragment) :=
  (Rule.parseBy compileList strict text? ({} : Plans)).1

/-- What is kept after rule texts were compiled one after the other, whether they could be read or not. -/
def afterTexts (strict : Bool) (earlier : List (Option String)) : Plans :=
  earlier.foldl (fun p text? => (compileTemplate strict text? p).2) {}

/-- The cleaned text of a rule text that can be read. -/
def readableKey? (strict : Bool) (text? : Option String) : Option String :=
  match Rule.clean text?, readAfresh strict text? with
  | .ok key, .ok _ => some key
  | _, _ => none

theorem afterTexts_concat (strict : Bool) (earlier : List (Option String)) (text? : Option String) :
    afterTexts strict (earlier ++ [text?]) = (compileTemplate strict text? (afterTexts strict earlier)).2 := by
  rw [afterTexts, List.foldl_append]
  rfl

/-- A new reader reads what is in the text. -/
theorem readAfresh_eq (strict : Bool) (text? : Option String) :
    readAfresh strict text? = Rule.parse strict text? := by
  have hlists : ∀ list, Run.Yields (fun p => True ∧ Holds compileArguments p.arguments) (compileList list)
      (compileArguments list) := yields_compileList fun _ _ h => h
  exact (Rule.yields_parseBy hlists text? {} ⟨trivial, .empty _⟩).1

/-- A text is cleaned before it is looked for, and cleaned again when it is read. -/
theorem templateOf_eq (strict : Bool) (text? : Option String) :
    templateOf strict text? = Rule.parse strict text? := by
  cases text? with
  | none => rfl
  | some r =>
    unfold templateOf templateFor
    cases hkey : Rule.clean (some r) with
    | error e =>
      rw [Rule.parse_eq_bind, hkey]
      rfl
    | ok key =>
      show Rule.parse strict (some key) = _
      rw [Rule.parse_eq (Rule.clean_key hkey), Rule.parse_eq hkey]

/-- A cleaned text is read as the text that it comes from. -/
theorem templateFor_eq {text? : Option String} {key : String} (h : Rule.clean text? = .ok key) :
    templateFor strict key = Rule.parse strict text? := by
  rw [← templateOf_eq, templateOf, h]
  rfl

/-- The cache of texts after one more, which has been remembered unless it could not be cleaned. -/
theorem templates_compileTemplate (h : TextsHold strict p) (text? : Option String) :
    (compileTemplate strict text? p).2.templates = match Rule.clean text? with
      | .ok key => p.templates.remember key (templateFor strict key)
      | .error _ => p.templates := by
  unfold compileTemplate
  cases hkey : Rule.clean text? with
  | error e => rfl
  | ok key =>
    obtain ⟨p', hrun, -, htemplates⟩ := h.templates.getOrCompute templateSlot key
      (J := fun p => Holds compileArguments p.arguments) (fun _ _ => rfl) (fun _ _ h => h)
      (Rule.parseBy compileList strict (some key)) (fun _ c => by
        refine Rule.yields_parseBy (fun list => ?_) (some key)
        refine Run.Yields.congr (I := fun p : Plans =>
          p.templates = c ∧ Holds compileArguments p.arguments) (fun p => and_comm) ?_
        exact yields_compileList (fun _ _ h => h) list)
      h.arguments (.setup (.recursive (Text.quoteString key) "template-cache"))
      (.setup (.recursive (Text.quoteString key) "template-cache"))
    have hbind : (liftM (.ok key : Except Error String) >>= fun key =>
        Cache.getOrCompute templateSlot (.setup (.recursive (Text.quoteString key) "template-cache")) key
          (Rule.parseBy compileList strict (some key)) : Plans.Run (List Fragment)) p
        = (templateFor strict key, p') := hrun
    rw [hbind]
    exact htemplates

theorem textsHold_compileTemplate (h : TextsHold strict p) (text? : Option String) :
    (compileTemplate strict text? p).1 = Rule.parse strict text? ∧
      TextsHold strict (compileTemplate strict text? p).2 := by
  have hyields := yields_compileTemplate (J := fun _ => True) (fun _ _ h => h) (fun _ _ h => h) strict text?
  obtain ⟨houtcome, -, htexts⟩ := hyields p ⟨trivial, h⟩
  exact ⟨houtcome.trans (templateOf_eq strict text?), htexts⟩

theorem textsHold_afterTexts (strict : Bool) (earlier : List (Option String)) :
    TextsHold strict (afterTexts strict earlier) := by
  induction earlier using List.reverseRecOn with
  | nil => exact .empty strict
  | append_singleton earlier text? ih =>
    rw [afterTexts_concat]
    exact (textsHold_compileTemplate ih text?).2

theorem readableKey?_eq_some {text? : Option String} {key : String} :
    readableKey? strict text? = some key ↔
      Rule.clean text? = .ok key ∧ ∃ fs, Rule.parse strict text? = .ok fs := by
  unfold readableKey?
  rw [readAfresh_eq]
  cases Rule.clean text? with
  | error e => simp
  | ok key' =>
    cases Rule.parse strict text? with
    | error e => simp
    | ok fs => simp

/-- The entries of the cache are those of the cleaned texts that could be read, each of them one. -/
theorem keys_afterTexts (strict : Bool) (earlier : List (Option String)) :
    ((afterTexts strict earlier).templates.entries.map Prod.fst).Nodup ∧
      ∀ key, key ∈ (afterTexts strict earlier).templates.entries.map Prod.fst ↔
        key ∈ earlier.filterMap (readableKey? strict) := by
  induction earlier using List.reverseRecOn with
  | nil => exact ⟨List.nodup_nil, fun key => Iff.rfl⟩
  | append_singleton earlier text? ih =>
    obtain ⟨hnodup, hkeys⟩ := ih
    rw [afterTexts_concat, templates_compileTemplate (textsHold_afterTexts strict earlier)]
    cases hclean : Rule.clean text? with
    | error e =>
      have hnone : readableKey? strict text? = none := by
        rw [readableKey?, hclean]
      refine ⟨hnodup, fun key => ?_⟩
      rw [hkeys, List.filterMap_append, List.filterMap_cons, hnone, List.filterMap_nil, List.append_nil]
    | ok new =>
      refine ⟨nodup_keys_remember hnodup _, fun key => ?_⟩
      have hlast : key ∈ [text?].filterMap (readableKey? strict) ↔
          key = new ∧ ∃ fs, templateFor strict new = .ok fs := by
        rw [templateFor_eq hclean, List.mem_filterMap]
        simp only [List.mem_singleton, exists_eq_left, readableKey?_eq_some, hclean, Except.ok.injEq]
        rw [eq_comm]
      rw [mem_keys_remember, hkeys, List.filterMap_append, List.mem_append, hlast]

/-- **Compiling rule texts cannot be told from reading each of them anew.** After any texts were compiled, of
which some may be missing, blank or malformed:

* a text is compiled to what a new reader reads from it, or fails as that reader does;
* under a cleaned text lies what a new reader reads from the texts that are cleaned to it, if one of them was
  compiled and could be read, and nothing else;
* two texts have one and the same place in the cache exactly if they differ only in the blanks around them or a
  last delimiter; then a new reader reads the same from both, and the second one adds no entry after the first;
* there are as many entries as different cleaned texts that could be read. -/
theorem compileTemplate_transparent (strict : Bool) (earlier : List (Option String)) :
    (∀ text?, (compileTemplate strict text? (afterTexts strict earlier)).1 = readAfresh strict text?) ∧
    (∀ key fs, (afterTexts strict earlier).templates.kept? key = some fs ↔
      ∃ text? ∈ earlier, Rule.clean text? = .ok key ∧ readAfresh strict text? = .ok fs) ∧
    (∀ a b, ((∃ key, Rule.clean (some a) = .ok key ∧ Rule.clean (some b) = .ok key) ↔
        Rule.SameText a b) ∧
      (Rule.SameText a b → readAfresh strict (some a) = readAfresh strict (some b) ∧
        (afterTexts strict (earlier ++ [some a, some b])).templates.entries
          = (afterTexts strict (earlier ++ [some a])).templates.entries)) ∧
    (afterTexts strict earlier).templates.size
      = (earlier.filterMap (readableKey? strict)).toFinset.card := by
  have htexts := textsHold_afterTexts strict earlier
  obtain ⟨hnodup, hkeys⟩ := keys_afterTexts strict earlier
  refine ⟨fun text? => ?_, fun key fs => ?_, fun a b => ⟨Rule.clean_eq_clean_iff, fun hsame => ?_⟩, ?_⟩
  · rw [readAfresh_eq]
    exact (textsHold_compileTemplate htexts text?).1
  · rw [htexts.templates.kept?_eq_some_iff, hkeys, List.mem_filterMap]
    constructor
    · rintro ⟨⟨text?, hmem, hkey⟩, hfs⟩
      obtain ⟨hclean, -⟩ := readableKey?_eq_some.1 hkey
      exact ⟨text?, hmem, hclean, by rw [readAfresh_eq, ← templateFor_eq hclean, hfs]⟩
    · rintro ⟨text?, hmem, hclean, hfs⟩
      rw [readAfresh_eq] at hfs
      exact ⟨⟨text?, hmem, readableKey?_eq_some.2 ⟨hclean, fs, hfs⟩⟩, by rw [templateFor_eq hclean, hfs]⟩
  · obtain ⟨key, ha, hb⟩ := Rule.clean_eq_clean_iff.2 hsame
    refine ⟨by rw [readAfresh_eq, readAfresh_eq, ← templateFor_eq ha, ← templateFor_eq hb], ?_⟩
    have hafter := textsHold_afterTexts strict (earlier ++ [some a])
    rw [show earlier ++ [some a, some b] = (earlier ++ [some a]) ++ [some b] by simp, afterTexts_concat,
      templates_compileTemplate hafter, hb]
    -- if the second text can be read, so could the first one, and the key is there
    refine entries_remember fun fs hfs => ((keys_afterTexts strict _).2 key).2 ?_
    rw [templateFor_eq ha] at hfs
    exact List.mem_filterMap.2 ⟨some a, by simp, readableKey?_eq_some.2 ⟨ha, fs, hfs⟩⟩
  · rw [Cache.size, ← List.length_map (f := Prod.fst), ← List.toFinset_card_of_nodup hnodup]
    congr 1
    ext key
    rw [List.mem_toFinset, List.mem_toFinset, hkeys]

/-- A text with blanks around it and a delimiter at its end shares the entry of the one without; a text that
cannot be read has none. -/
theorem required_shared : Rule.SameText "required" "  required; " ∧
    readAfresh true (some "required") = readAfresh true (some "  required; ") ∧
    (afterTexts true [some "required", some "len@gth", none, some "  required; "]).templates.size = 1 := by
  have hsame : Rule.SameText "required" "  required; " :=
    ⟨by decide +kernel, by decide +kernel, .inr (.inl ⟨by decide +kernel, by decide +kernel⟩)⟩
  have hshared := ((compileTemplate_transparent true []).2.2.1 "required" "  required; ").2 hsame
  exact ⟨hsame, hshared.1, by decide +kernel⟩

end Plans

end FieldRules
