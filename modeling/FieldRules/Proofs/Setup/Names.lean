import FieldRules.Document.Schema
import FieldRules.Proofs.Entries
import FieldRules.Value.Equal

/-!
# Names of settings

The keys of a document may be any values, and a schema knows them by their texts. Where such a text is the name of a
setting, the key is that text (`text?_of_text`), so that entries that are laid over others get to where the schema
looks for them (`lookup_insertEntry`, `named_insertEntry`).
-/

namespace FieldRules

namespace Value

/-! ## Texts that are names -/

/-- Whether a text looks like the name of a setting: lower-case letters and underscores, more than three of them. -/
def isSettingName (s : String) : Bool :=
  3 < s.length && s.toList.all fun c => c.isLower || c == '_'

section Text
variable {n : String}

theorem not_isSettingName {c : Char} (hc : c ∈ n.toList) (hbad : (c.isLower || c == '_') = false) :
    isSettingName n = false := by
  unfold isSettingName
  rw [Bool.and_eq_false_iff, List.all_eq_false]
  exact .inr ⟨c, hc, by rw [hbad]; exact Bool.false_ne_true⟩

theorem isSettingName_writeInt {m : Int} (h : writeInt m = .ok n) : isSettingName n = false := by
  have htext : n = String.ofList (Number.intText m) := by
    unfold writeInt at h
    simp only at h
    by_cases hlong : Number.maxDigits < if m < 0 then (Number.intText m).length - 1 else (Number.intText m).length
    · rw [if_pos hlong] at h
      cases h
    · rw [if_neg hlong] at h
      exact (Except.ok.inj h).symm
  rw [htext, Number.intText]
  by_cases hm : m < 0
  · exact not_isSettingName (c := '-') (by simp [hm]) rfl
  · rw [if_neg hm]
    obtain ⟨c, hc⟩ := List.exists_mem_of_ne_nil _ (Nat.toDigits_ne_nil (b := 10) (n := m.natAbs))
    have hdigit := Nat.isDigit_of_mem_toDigits (by decide) (by decide) hc
    refine not_isSettingName (c := c) (by simpa using hc) ?_
    have hlower : c.isLower = false := by
      rw [Char.isDigit, Bool.and_eq_true, decide_eq_true_iff, decide_eq_true_iff] at hdigit
      refine Bool.and_eq_false_iff.2 (.inl (decide_eq_false fun h => ?_))
      exact absurd (UInt32.le_trans h hdigit.2) (by decide)
    have hne : c ≠ '_' := by
      rintro rfl
      cases hdigit
    rw [hlower, beq_eq_false_iff_ne.2 hne]
    rfl

theorem isSettingName_writeFloat (x : Float) : isSettingName (writeFloat x) = false := by
  have hdecimal (d : Number.Decimal) : ∃ c ∈ Number.decimalText d, (c.isLower || c == '_') = false := by
    unfold Number.decimalText
    split
    · refine ⟨'.', ?_, rfl⟩
      unfold Number.positional
      dsimp only
      split
      · simp
      · split <;> simp
    · unfold Number.scientific
      dsimp only
      by_cases he : d.point - 1 < 0
      · exact ⟨'-', by simp [he], rfl⟩
      · exact ⟨'+', by simp [he], rfl⟩
  unfold writeFloat Number.floatText
  cases Number.Binary.ofFloat x with
  | nan => rfl
  | infinite negative => cases negative <;> rfl
  | finite negative m e =>
    by_cases hm : m = 0
    · subst hm
      cases negative <;> exact not_isSettingName (c := '.') (by simp) rfl
    · obtain ⟨c, hc, hbad⟩ := hdecimal (Number.shortest m e)
      cases negative <;> exact not_isSettingName (c := c) (by simp [hm, hc]) hbad

theorem isSettingName_writeClass (c : Class) : isSettingName (writeClass c) = false := by
  unfold writeClass
  by_cases h : c = Class.any
  · rw [if_pos h, h]
    rfl
  · rw [if_neg h]
    exact not_isSettingName (c := '<') (by simp) rfl

theorem isSettingName_quoteBytes (data : List UInt8) : isSettingName (String.ofList (Text.quoteBytes data)) = false := by
  have hquote : ((Text.chooseQuote (data.map fun b => Char.ofNat b.toNat)).isLower
      || Text.chooseQuote (data.map fun b => Char.ofNat b.toNat) == '_') = false := by
    unfold Text.chooseQuote
    split <;> rfl
  exact not_isSettingName (by simp [Text.quoteBytes]) hquote

/-- An object is written in braces, where it is a dictionary, or else in angle brackets. -/
theorem isSettingName_written_obj (c : Class) (shared own : List (String × Value)) {s : String}
    (h : (obj c shared own).written = .ok s) : isSettingName s = false := by
  rw [written] at h
  by_cases hc : isDictionaryClass c = true
  · rw [if_pos hc] at h
    obtain ⟨xs, -, rfl⟩ := exists_of_bind_pure h
    exact not_isSettingName (c := '\x7b') (by simp) rfl
  · rw [if_neg hc] at h
    cases h
    exact not_isSettingName (c := '<') (by simp [ToString.toString]) rfl

/-- A range is written with a parenthesis behind its kind, with or without its step. -/
theorem isSettingName_written_range {a b c : Int} {s : String} (h : (range a b c).written = .ok s) :
    isSettingName s = false := by
  rw [written] at h
  by_cases hc : (c == 1) = true
  · rw [if_pos hc] at h
    obtain ⟨x, -, h⟩ := bind_eq_ok h
    obtain ⟨y, -, rfl⟩ := exists_of_bind_pure h
    exact not_isSettingName (c := '(') (by simp [ToString.toString]) rfl
  · rw [if_neg hc] at h
    obtain ⟨x, -, h⟩ := bind_eq_ok h
    obtain ⟨y, -, h⟩ := bind_eq_ok h
    obtain ⟨z, -, rfl⟩ := exists_of_bind_pure h
    exact not_isSettingName (c := '(') (by simp [ToString.toString]) rfl

/-- A key whose text is the name of a setting is that text. -/
theorem text?_of_text {k : Value} (hn : isSettingName n = true) (h : k.text = .ok n) : k.text? = some n := by
  have hbad (hno : isSettingName n = false) : k.text? = some n := by
    rw [hno] at hn
    cases hn
  -- every kind of value but a text is written with a character that no name has
  cases k with
  | string s => cases h; rfl
  | markup s => cases h; rfl
  | none => cases h; exact hbad rfl
  | bool b => cases b <;> cases h <;> exact hbad rfl
  | int m => exact hbad (isSettingName_writeInt h)
  | float x =>
    cases h
    exact hbad (isSettingName_writeFloat x)
  | bytes data =>
    cases h
    exact hbad (isSettingName_quoteBytes _)
  | pattern p =>
    cases h
    exact hbad (not_isSettingName (c := '(') (by simp [writePattern, ToString.toString]) rfl)
  | list items =>
    obtain ⟨xs, -, rfl⟩ := exists_of_bind_pure h
    exact hbad (not_isSettingName (c := '[') (by simp) rfl)
  | tuple items =>
    obtain ⟨xs, -, h⟩ := bind_eq_ok h
    split at h <;> cases h
    · exact hbad (not_isSettingName (c := '(') (by simp [ToString.toString]) rfl)
    · exact hbad (not_isSettingName (c := '(') (by simp) rfl)
  | set items =>
    obtain ⟨xs, -, h⟩ := bind_eq_ok h
    split at h <;> cases h
    · exact hbad rfl
    · exact hbad (not_isSettingName (c := '\x7b') (by simp) rfl)
  | dict es =>
    obtain ⟨xs, -, rfl⟩ := exists_of_bind_pure h
    exact hbad (not_isSettingName (c := '\x7b') (by simp) rfl)
  | classRef c => cases h; exact hbad (isSettingName_writeClass c)
  | obj c shared own => exact hbad (isSettingName_written_obj c shared own h)
  | bare => cases h; exact hbad (not_isSettingName (c := '<') (by simp [ToString.toString]) rfl)
  | outcome o => cases o <;> cases h <;> exact hbad rfl
  | range a b c => exact hbad (isSettingName_written_range h)
  | view v es =>
    cases v
    all_goals
      obtain ⟨xs, -, rfl⟩ := exists_of_bind_pure h
      exact hbad (not_isSettingName (c := '(') (by simp) rfl)
  | stream kind _ _ => cases h; exact hbad (not_isSettingName (c := '<') (by simp [ToString.toString]) rfl)
  | undefined u =>
    rw [text] at h
    by_cases hu : u.strict = true
    · rw [if_pos hu] at h
      cases h
    · rw [if_neg hu] at h
      cases h
      exact hbad rfl
  | method _ name => cases h; exact hbad (not_isSettingName (c := '<') (by simp [ToString.toString]) rfl)
  | function name => cases h; exact hbad (not_isSettingName (c := '<') (by simp [ToString.toString]) rfl)

end Text

/-! ## Keys -/

/-- The text that a schema knows a key by. -/
def keyText (k : Value) : String :=
  (k.text.toOption).getD ""

section Keys
variable {n : String} {k k' v : Value} {es : List (Value × Value)}

theorem keyText_eq_iff (hn : isSettingName n = true) : keyText k = n ↔ k.text? = some n := by
  constructor
  · intro h
    unfold keyText at h
    cases htext : k.text with
    | error e =>
      rw [htext] at h
      rw [← h] at hn
      cases hn
    | ok s =>
      rw [htext] at h
      cases h
      exact text?_of_text hn htext
  · intro h
    cases k <;> cases h <;> rfl

/-- A key that is equal to another one is text if that is. -/
theorem text?_eq_of_equal (h : equal k k' = true) : k.text? = k'.text? := by
  cases k
  case string s =>
    rw [equal, beq_iff_eq] at h
    rw [h]
    rfl
  case markup s =>
    rw [equal, beq_iff_eq] at h
    rw [h]
    rfl
  all_goals
    cases k'
    case string s => simp [equal, numeric?, integer?, entries?] at h
    case markup s => simp [equal, numeric?, integer?, entries?] at h
    all_goals rfl

theorem equal_of_text? (h : k.text? = some n) (h' : k'.text? = some n) : equal k k' = true := by
  cases k <;> cases h <;> rw [equal, h', beq_self_eq_true]

theorem keyText_eq_iff_of_equal (hn : isSettingName n = true) (h : equal k k' = true) :
    keyText k = n ↔ keyText k' = n := by
  rw [keyText_eq_iff hn, keyText_eq_iff hn, text?_eq_of_equal h]

/-! ## Entries -/

theorem textEntries_cons (k v : Value) (es : List (Value × Value)) :
    Schema.textEntries ((k, v) :: es) = (keyText k, v) :: Schema.textEntries es := rfl

theorem lookup_textEntries_cons : (Schema.textEntries ((k, v) :: es)).lookup n
    = if keyText k = n then some v else (Schema.textEntries es).lookup n := by
  rw [textEntries_cons, List.lookup_cons]
  by_cases h : keyText k = n
  · rw [if_pos h, beq_iff_eq.2 h.symm]
  · rw [if_neg h, beq_eq_false_iff_ne.2 (Ne.symm h)]

/-- What is found under a name after an entry was put in. -/
theorem lookup_insertEntry (hn : isSettingName n = true) :
    (Schema.textEntries (insertEntry k v es)).lookup n
      = if keyText k = n then some v else (Schema.textEntries es).lookup n := by
  induction es with
  | nil => exact lookup_textEntries_cons
  | cons e es ih =>
    obtain ⟨k', v'⟩ := e
    unfold insertEntry
    by_cases h : equal k' k = true
    · rw [if_pos h, lookup_textEntries_cons, lookup_textEntries_cons]
      by_cases hk : keyText k = n
      · rw [if_pos hk, if_pos ((keyText_eq_iff_of_equal hn h).2 hk)]
      · have hne : ¬ keyText k' = n := fun hk' => hk ((keyText_eq_iff_of_equal hn h).1 hk')
        rw [if_neg hne, if_neg hk, if_neg hne]
    · rw [if_neg h, lookup_textEntries_cons, lookup_textEntries_cons, ih]
      by_cases hk : keyText k' = n
      · have hne : ¬ keyText k = n := fun hk₂ =>
          h (equal_of_text? ((keyText_eq_iff hn).1 hk) ((keyText_eq_iff hn).1 hk₂))
        rw [if_pos hk, if_neg hne, if_pos hk]
      · rw [if_neg hk, if_neg hk]

/-- What is found under a key that is a name. -/
theorem lookup?_eq (hk : isSettingName (keyText k) = true) :
    lookup? k es = (Schema.textEntries es).lookup (keyText k) := by
  induction es with
  | nil => rfl
  | cons e es ih =>
    obtain ⟨k', v'⟩ := e
    rw [lookup_textEntries_cons, ← ih]
    unfold lookup?
    rw [List.find?_cons]
    by_cases h : equal k' k = true
    · rw [if_pos ((keyText_eq_iff_of_equal hk h).2 rfl)]
      simp only [h]
      rfl
    · have hne : ¬ keyText k' = keyText k := fun hk' =>
        h (equal_of_text? ((keyText_eq_iff hk).1 hk') ((keyText_eq_iff hk).1 rfl))
      rw [if_neg hne]
      simp only [h]

/-- The keys of entries are among some names. -/
def Named (names : List String) (es : List (Value × Value)) : Prop :=
  ∀ e ∈ es, keyText e.1 ∈ names

theorem named_cons {names : List String} {e : Value × Value} :
    Named names (e :: es) ↔ keyText e.1 ∈ names ∧ Named names es :=
  List.forall_mem_cons

theorem named_insertEntry {names : List String} (hnames : ∀ n ∈ names, isSettingName n = true) :
    Named names (insertEntry k v es) ↔ Named names es ∧ keyText k ∈ names := by
  induction es with
  | nil =>
    unfold insertEntry
    rw [named_cons]
    exact and_comm
  | cons e es ih =>
    obtain ⟨k', v'⟩ := e
    unfold insertEntry
    by_cases h : equal k' k = true
    · have hsame : keyText k' ∈ names ↔ keyText k ∈ names :=
        ⟨fun hk => (keyText_eq_iff_of_equal (hnames _ hk) h).1 rfl ▸ hk,
          fun hk => (keyText_eq_iff_of_equal (hnames _ hk) h).2 rfl ▸ hk⟩
      rw [if_pos h, named_cons, named_cons, hsame]
      exact ⟨fun hall => ⟨hall, hall.1⟩, fun hall => hall.1⟩
    · rw [if_neg h, named_cons, named_cons, ih, and_assoc]

end Keys

end Value

end FieldRules
