import FieldRules.Proofs.Value.Writing
import FieldRules.Rule.Fragment

/-!
# Arguments of a class

Handlers ask for an argument as an integer, as a floating-point number or as a text. What they get is the default, a
missing value, a value of that class, or the report that the argument cannot be made into one (`Fragment.Answers`).
There are four ways out of this (`Value.Escapes`): an infinite number has no integer part, an integer can be too large
for a floating-point number, an undefined value has a fault of its own, and the report itself fails if the argument
cannot be written into it. `Fragment.argument_answers` says that there are no others.
-/

namespace FieldRules

/-- The classes that handlers ask for. -/
def Class.IsArgumentKind (c : Class) : Prop :=
  c = .int ∨ c = .float ∨ c = .string

/-! ## Conversions -/

/-- A fault that says that a value cannot be made into one of a class; it is reported for the argument. -/
def Fault.IsReported (e : Fault) : Prop :=
  e.family = .wrongType ∨ e.family = .badValue

instance (e : Fault) : Decidable e.IsReported :=
  inferInstanceAs (Decidable (_ ∨ _))

namespace Value

/-- The faults that come out of making a value into one of a class without being reported for the argument. -/
inductive Escapes : Class → Value → Fault → Prop
  /-- The number has no integer part. -/
  | infinite {x : Float} {negative : Bool} :
      Number.Binary.ofFloat x = .infinite negative → Escapes .int (.float x) .integerOfInfinity
  /-- No floating-point number is near the integer. -/
  | tooLarge {n : Int} : Number.ofInt? n = Option.none → Escapes .float (.int n) .integerTooLargeForFloat
  /-- The value is undefined, for which there is a fault of another sort. -/
  | undefined {kind : Class} {u : Undefined} :
      (kind = .string → u.strict = true) → ¬ u.fault.IsReported → Escapes kind (.undefined u) u.fault
  /-- The value is none that could be converted, and there is an integer in it that is too long for the report. -/
  | unwritable {kind : Class} {v : Value} :
      v.isOf kind = false → kind = .string ∨ v.numeric? = Option.none →
      v.written = .error .integerTooLongToWrite → Escapes kind v .integerTooLongToWrite

section Conversions
variable {v w : Value} {kind : Class} {e : Fault}

theorem convertTo_eq_toInteger (v : Value) : v.convertTo .int = v.toInteger.map int := by
  unfold convertTo
  rw [if_pos rfl]
  cases v.toInteger <;> rfl

theorem convertTo_eq_toFloat (v : Value) : v.convertTo .float = v.toFloat.map float := by
  unfold convertTo
  rw [if_neg (by decide), if_pos rfl]
  cases v.toFloat <;> rfl

theorem convertTo_eq_text (v : Value) : v.convertTo .string = v.text.map string := by
  unfold convertTo
  rw [if_neg (by decide), if_neg (by decide), if_pos rfl]
  cases v.text <;> rfl

theorem exists_of_map_eq_ok {α : Type} {r : Except Fault α} {f : α → Value} (h : r.map f = .ok w) : ∃ a, f a = w := by
  cases r with
  | error e => cases h
  | ok a => exact ⟨a, Except.ok.inj h⟩

theorem eq_error_of_map {α : Type} {r : Except Fault α} {f : α → Value} (h : r.map f = .error e) : r = .error e := by
  cases r with
  | error e' => exact congrArg Except.error (Except.error.inj h)
  | ok a => cases h

/-- What a value is made into is of the class that was asked for. -/
theorem isOf_convertTo (hkind : kind.IsArgumentKind) (h : v.convertTo kind = .ok w) : w.isOf kind = true := by
  rcases hkind with rfl | rfl | rfl
  · rw [convertTo_eq_toInteger] at h
    obtain ⟨n, rfl⟩ := exists_of_map_eq_ok h
    rfl
  · rw [convertTo_eq_toFloat] at h
    obtain ⟨x, rfl⟩ := exists_of_map_eq_ok h
    rfl
  · rw [convertTo_eq_text] at h
    obtain ⟨s, rfl⟩ := exists_of_map_eq_ok h
    rfl

/-- The fault of an undefined value is reported, or comes out. -/
theorem undefined_fault (kind : Class) (u : Undefined) (h : kind = .string → u.strict = true) :
    u.fault.IsReported ∨ (undefined u).Escapes kind u.fault := by
  by_cases hreported : u.fault.IsReported
  · exact .inl hreported
  · exact .inr (.undefined h hreported)

theorem readInteger_error {s : List Char} {quoted : String} (h : readInteger s quoted = .error e) :
    e.IsReported := by
  unfold readInteger at h
  split at h
  · cases h
  · cases h
    exact .inr rfl
  · cases h
    exact .inr rfl

theorem toInteger_error (h : v.toInteger = .error e) : e.IsReported ∨ v.Escapes .int e := by
  unfold toInteger at h
  split at h
  · unfold truncate at h
    split at h
    · cases h
      exact .inl (.inr rfl)
    · next hx =>
      cases h
      exact .inr (.infinite hx)
    · cases h
  · exact .inl (readInteger_error h)
  · exact .inl (readInteger_error h)
  · exact .inl (readInteger_error h)
  · cases h
    exact undefined_fault .int _ nofun
  · split at h
    · cases h
    · cases h
      exact .inl (.inl rfl)

theorem floatOfInt_error {n : Int} (h : floatOfInt n = .error e) :
    e = .integerTooLargeForFloat ∧ Number.ofInt? n = Option.none := by
  unfold floatOfInt at h
  split at h
  · cases h
  · next hlarge =>
    cases h
    exact ⟨rfl, hlarge⟩

theorem toFloat_error (h : v.toFloat = .error e) : e.IsReported ∨ v.Escapes .float e := by
  have hread : ∀ s quoted, readDecimal s quoted = .error e → e.IsReported := by
    intro s quoted hs
    unfold readDecimal at hs
    split at hs
    · cases hs
    · cases hs
      exact .inr rfl
  cases v with
  | string s => exact .inl (hread _ _ h)
  | markup s => exact .inl (hread _ _ h)
  | bytes data => exact .inl (hread _ _ h)
  | undefined u =>
    cases h
    exact undefined_fault .float _ nofun
  | int n =>
    obtain ⟨rfl, hlarge⟩ := floatOfInt_error h
    exact .inr (.tooLarge hlarge)
  | bool b =>
    -- Zero and one are floating-point numbers.
    obtain ⟨-, hlarge⟩ := floatOfInt_error h
    have hsmall : ∀ b : Bool, (Number.ofInt? (if b then 1 else 0)).isSome = true := by decide +kernel
    have hsome := hsmall b
    rw [hlarge] at hsome
    cases hsome
  | _ =>
    cases h
    try exact .inl (.inl rfl)

theorem text_error (h : v.text = .error e) : e.IsReported ∨ v.Escapes .string e := by
  unfold text at h
  split at h
  · cases h
  · cases h
  · next u =>
    split at h
    · next hstrict =>
      cases h
      exact undefined_fault .string u fun _ => hstrict
    · cases h
  · cases h
  · cases h
  · rw [failsByLength_written v e h]
    exact .inl (.inr rfl)

/-- A value that cannot be made into one of the class has a fault that is reported or one that comes out. -/
theorem convertTo_error (hkind : kind.IsArgumentKind) (h : v.convertTo kind = .error e) :
    e.IsReported ∨ v.Escapes kind e := by
  rcases hkind with rfl | rfl | rfl
  · rw [convertTo_eq_toInteger] at h
    exact toInteger_error (eq_error_of_map h)
  · rw [convertTo_eq_toFloat] at h
    exact toFloat_error (eq_error_of_map h)
  · rw [convertTo_eq_text] at h
    exact text_error (eq_error_of_map h)

/-- Of the numbers only an integer can be too long. -/
theorem eq_int_of_written {a : Numeric} (hnumeric : v.numeric? = some a) (h : v.written = .error e) :
    ∃ n, v = int n := by
  cases v with
  | int n => exact ⟨n, rfl⟩
  | bool b => cases b <;> cases h
  | float x => cases h
  | _ => cases hnumeric

/-- A value that is neither made into one of the class nor written comes out of the report. -/
theorem escapes_of_written {e' : Fault} (hkind : kind.IsArgumentKind) (hof : v.isOf kind = false)
    (h : v.convertTo kind = .error e) (he : e.IsReported) (hwritten : v.written = .error e') : v.Escapes kind e' := by
  obtain rfl := failsByLength_written v e' hwritten
  refine .unwritable hof ?_ hwritten
  by_cases hstring : kind = .string
  · exact .inl hstring
  · right
    rw [Option.eq_none_iff_forall_ne_some]
    intro a hnumeric
    -- Such a number is an integer. It is of the class, or it is too large for that, which is not reported.
    obtain ⟨n, rfl⟩ := eq_int_of_written hnumeric hwritten
    rcases hkind with rfl | rfl | rfl
    · cases hof
    · rw [convertTo_eq_toFloat] at h
      obtain ⟨rfl, -⟩ := floatOfInt_error (eq_error_of_map h)
      revert he
      decide
    · exact hstring rfl

theorem text_of_written (h : v.written = .error e) : v.text = .error e := by
  unfold text
  split <;> first | exact h | cases h

theorem toInteger_of_written (hnumeric : v.numeric? = Option.none) (h : v.written = .error e) :
    v.toInteger = .error (.integerSource v.kindName) := by
  cases v with
  | bool _ | int _ => cases hnumeric
  | float _ | string _ | markup _ | bytes _ | undefined _ => cases h
  | _ => rfl

theorem toFloat_of_written (hnumeric : v.numeric? = Option.none) (h : v.written = .error e) :
    v.toFloat = .error (.floatSource v.kindName) := by
  cases v with
  | bool _ | int _ => cases hnumeric
  | float _ | string _ | markup _ | bytes _ | undefined _ => cases h
  | _ => rfl

/-- What comes out keeps the value from being made into one of the class: it is the fault of that, or the fault of
writing the value for the report. -/
theorem Escapes.convertTo (h : v.Escapes kind e) (hkind : kind.IsArgumentKind) :
    v.isPresent = true ∧ v.isOf kind = false ∧ ∃ e', v.convertTo kind = .error e' ∧
      (¬ e'.IsReported ∧ e' = e ∨ e'.IsReported ∧ v.written = .error e) := by
  cases h with
  | @infinite x _ hx =>
    have htruncate : truncate x = .error .integerOfInfinity := by
      unfold truncate
      rw [hx]
      rfl
    refine ⟨rfl, rfl, .integerOfInfinity, ?_, .inl ⟨by decide, rfl⟩⟩
    rw [convertTo_eq_toInteger, toInteger, htruncate]
    rfl
  | @tooLarge n hlarge =>
    have hfloat : floatOfInt n = .error .integerTooLargeForFloat := by
      unfold floatOfInt
      rw [hlarge]
      rfl
    refine ⟨rfl, rfl, .integerTooLargeForFloat, ?_, .inl ⟨by decide, rfl⟩⟩
    rw [convertTo_eq_toFloat, show (int n).toFloat = floatOfInt n from rfl, hfloat]
    rfl
  | @undefined _ u hstrict hreported =>
    have hof : (Value.undefined u).isOf kind = false := by
      obtain ⟨strict, fault⟩ := u
      rcases hkind with rfl | rfl | rfl <;> cases strict <;> rfl
    refine ⟨rfl, hof, u.fault, ?_, .inl ⟨hreported, rfl⟩⟩
    rcases hkind with rfl | rfl | rfl
    · rw [convertTo_eq_toInteger]
      rfl
    · rw [convertTo_eq_toFloat]
      rfl
    · have htext : (Value.undefined u).text = .error u.fault := if_pos (hstrict rfl)
      rw [convertTo_eq_text, htext]
      rfl
  | unwritable hof hnumeric hwritten =>
    -- The conversion has a fault that is reported, and the report writes the value.
    have hpresent : v.isPresent = true := by
      cases v <;> first | rfl | cases hwritten
    refine ⟨hpresent, hof, ?_⟩
    rcases hkind with rfl | rfl | rfl
    · rw [convertTo_eq_toInteger, toInteger_of_written (hnumeric.resolve_left (by decide)) hwritten]
      exact ⟨_, rfl, .inr ⟨.inl rfl, hwritten⟩⟩
    · rw [convertTo_eq_toFloat, toFloat_of_written (hnumeric.resolve_left (by decide)) hwritten]
      exact ⟨_, rfl, .inr ⟨.inl rfl, hwritten⟩⟩
    · rw [convertTo_eq_text, text_of_written hwritten]
      exact ⟨_, rfl, .inr ⟨.inr rfl, hwritten⟩⟩

end Conversions

end Value

/-! ## Arguments -/

namespace Fragment

/-- What asking for an argument of a class may come to: the default beyond the last argument, a missing value, a value
of the class, or the report that the argument cannot be made into one. -/
inductive Answers (f : Fragment) (index : Nat) (kind : Class) (default : Value) : Except Error Value → Prop
  | beyond : f.arguments.length ≤ index → Answers f index kind default (.ok default)
  | missing : f.arguments[index]? = some .none → Answers f index kind default (.ok .none)
  | given {v : Value} :
      f.arguments[index]? = some v → v.isOf kind = true → Answers f index kind default (.ok v)
  | converted {v w : Value} : f.arguments[index]? = some v → v.isPresent = true → v.isOf kind = false →
      v.convertTo kind = .ok w → w.isOf kind = true → Answers f index kind default (.ok w)
  | mismatch {v : Value} {e : Fault} {written : String} :
      f.arguments[index]? = some v → v.isPresent = true → v.isOf kind = false →
      v.convertTo kind = .error e → e.IsReported → v.written = .ok written →
      Answers f index kind default (.error (.argument index f.template kind.simpleName written))

section Arguments
variable {f : Fragment} {index : Nat} {kind : Class} {v w default : Value} {e e' : Fault} {written : String}

theorem argument_of_length_le (kind? : Option Class) (h : f.arguments.length ≤ index) :
    f.argument index kind? default = .ok default := by
  unfold argument
  exact if_pos (by omega)

theorem argument_eq_convertArgument (kind? : Option Class) (h : f.arguments[index]? = some v) :
    f.argument index kind? default = f.convertArgument index kind? v := by
  have hlength : index < f.arguments.length := (List.getElem?_eq_some_iff.1 h).1
  unfold argument
  rw [if_neg (by omega)]
  simp only [if_neg (show ¬(index : Int) < 0 by omega), Int.toNat_natCast, h]

theorem convertArgument_of_isOf (i : Int) (h : v.isOf kind = true) : f.convertArgument i (some kind) v = .ok v := by
  unfold convertArgument
  cases v with
  | none => rfl
  | _ => exact if_pos h

/-- An argument of another class is made into one of that class. A fault that is reported is reported with the argument
in its written form, so the report fails with an argument that cannot be written. -/
theorem convertArgument_of_not_isOf (i : Int) (hpresent : v.isPresent = true) (hof : v.isOf kind = false) :
    f.convertArgument i (some kind) v =
      match v.convertTo kind with
      | .ok w => .ok w
      | .error e =>
        if e.IsReported then
          match v.written with
          | .ok written => .error (.argument i f.template kind.simpleName written)
          | .error unwritable => .error (.fault unwritable)
        else .error (.fault e) := by
  have hreported : ∀ e : Fault, (e.family == .wrongType || e.family == .badValue) = true ↔ e.IsReported := by
    intro e
    rw [Bool.or_eq_true, beq_iff_eq, beq_iff_eq]
    rfl
  cases v with
  | none => cases hpresent
  | _ =>
    unfold convertArgument
    simp only [hof, hreported, Bool.false_eq_true, ↓reduceIte]
    rfl

/-- What comes out of the conversion, or of the report, is what asking for the argument fails with. -/
theorem convertArgument_of_escapes (i : Int) (hkind : kind.IsArgumentKind) (h : v.Escapes kind e) :
    f.convertArgument i (some kind) v = .error (.fault e) := by
  obtain ⟨hpresent, hof, e', hconvert, hcase⟩ := h.convertTo hkind
  rw [convertArgument_of_not_isOf i hpresent hof, hconvert]
  dsimp only
  rcases hcase with ⟨hreported, rfl⟩ | ⟨hreported, hwritten⟩
  · rw [if_neg hreported]
  · rw [if_pos hreported, hwritten]

/-- An argument from which nothing comes out is answered with. -/
theorem answers_convertArgument (hkind : kind.IsArgumentKind) (hget : f.arguments[index]? = some v)
    (hescapes : ∀ e, ¬ v.Escapes kind e) :
    f.Answers index kind default (f.convertArgument index (some kind) v) := by
  by_cases hpresent : v.isPresent = true
  case neg =>
    cases v with
    | none => exact .missing hget
    | _ => exact absurd rfl hpresent
  cases hof : v.isOf kind with
  | true =>
    rw [convertArgument_of_isOf index hof]
    exact .given hget hof
  | false =>
    rw [convertArgument_of_not_isOf index hpresent hof]
    cases hconvert : v.convertTo kind with
    | ok w => exact .converted hget hpresent hof hconvert (Value.isOf_convertTo hkind hconvert)
    | error e =>
      have hreported : e.IsReported := (Value.convertTo_error hkind hconvert).resolve_right (hescapes e)
      dsimp only
      rw [if_pos hreported]
      cases hwritten : v.written with
      | ok written => exact .mismatch hget hpresent hof hconvert hreported hwritten
      | error e' => exact absurd (Value.escapes_of_written hkind hof hconvert hreported hwritten) (hescapes e')

/-- Asking for an argument of a class comes to the default, a missing value, a value of the class or the report, unless
a fault comes out, which is then what it fails with. -/
theorem argument_answers (f : Fragment) (index : Nat) {kind : Class} (hkind : kind.IsArgumentKind) (default : Value) :
    (f.Answers index kind default (f.argument index (some kind) default) ↔
      ∀ v e, f.arguments[index]? = some v → ¬ v.Escapes kind e) ∧
    ∀ v e, f.arguments[index]? = some v → v.Escapes kind e →
      f.argument index (some kind) default = .error (.fault e) := by
  have hfails : ∀ v e, f.arguments[index]? = some v → v.Escapes kind e →
      f.argument index (some kind) default = .error (.fault e) := by
    intro v e hget hescapes
    rw [argument_eq_convertArgument _ hget]
    exact convertArgument_of_escapes index hkind hescapes
  refine ⟨⟨fun hanswers v e hget hescapes => ?_, fun hescapes => ?_⟩, hfails⟩
  · rw [hfails v e hget hescapes] at hanswers
    cases hanswers
  · cases hget : f.arguments[index]? with
    | none =>
      have hlength : f.arguments.length ≤ index := List.getElem?_eq_none_iff.1 hget
      rw [argument_of_length_le _ (by exact_mod_cast hlength)]
      exact .beyond hlength
    | some v =>
      rw [argument_eq_convertArgument _ hget]
      exact answers_convertArgument hkind hget fun e => hescapes v e hget

/-- A length that is a list is reported. -/
theorem argument_answers_length :
    Class.int.IsArgumentKind ∧
      Answers { name := "length", arguments := [.list []] } 0 .int .none
        (argument { name := "length", arguments := [.list []] } 0 (some .int) .none) := by
  refine ⟨.inl rfl, (argument_answers _ 0 (.inl rfl) .none).1.2 ?_⟩
  intro v e hget hescapes
  cases hget
  obtain ⟨-, -, e', hconvert, hcase⟩ := hescapes.convertTo (.inl rfl)
  cases hconvert
  rcases hcase with ⟨hreported, -⟩ | ⟨-, hwritten⟩
  · exact hreported (.inl rfl)
  · cases hwritten

/-- A length without end is not reported. -/
theorem argument_infinite_length :
    ∃ length : Fragment, length.arguments = [.float (Number.Binary.infinity false)] ∧
      length.argument 0 (some .int) = .error (.fault .integerOfInfinity) ∧
      ¬ length.Answers 0 .int .none (length.argument 0 (some .int)) := by
  let length : Fragment := { name := "length", arguments := [.float (Number.Binary.infinity false)] }
  have hinfinite : Value.Escapes .int (.float (Number.Binary.infinity false)) .integerOfInfinity :=
    .infinite (show Number.Binary.ofFloat (Number.Binary.infinity false) = .infinite false by decide +kernel)
  have hfails : length.argument 0 (some .int) = .error (.fault .integerOfInfinity) :=
    convertArgument_of_escapes (f := length) 0 (.inl rfl) hinfinite
  refine ⟨length, rfl, hfails, ?_⟩
  rw [hfails]
  nofun

-- Neither is a bound beyond the floating-point numbers.
example : Value.Escapes .float (.int ((2 ^ 256) ^ 4)) .integerTooLargeForFloat :=
  .tooLarge (by decide +kernel)

end Arguments

end Fragment

end FieldRules
