import FieldRules.Value.Render

/-!
# Written values

Writing a value goes through everything that is in it. Nothing fails on the way but writing an integer that is too long
(`Value.failsByLength_written`, `Value.failsByLength_rendered`).
-/

namespace FieldRules

namespace Value

variable {α β : Type}

/-- Nothing fails but writing an integer that is too long. -/
def FailsByLength (r : Except Fault α) : Prop :=
  ∀ f, r = .error f → f = .integerTooLongToWrite

theorem failsByLength_ok (a : α) : FailsByLength (.ok a) := nofun

theorem FailsByLength.bind {r : Except Fault α} {next : α → Except Fault β} (hr : FailsByLength r)
    (hnext : ∀ a, FailsByLength (next a)) : FailsByLength (r >>= next) := by
  intro f h
  cases r with
  | error f' => exact hr f (congrArg Except.error (Except.error.inj h))
  | ok a => exact hnext a f h

theorem failsByLength_writeInt (n : Int) : FailsByLength (writeInt n) := by
  intro f h
  rw [writeInt] at h
  by_cases hlong : Number.maxDigits < if n < 0 then (Number.intText n).length - 1 else (Number.intText n).length
  · rw [if_pos hlong] at h
    exact (Except.error.inj h).symm
  · rw [if_neg hlong] at h
    cases h

theorem writeInt_of_long {n : Nat} (h : Number.maxDigits < (Nat.toDigits 10 n).length) :
    writeInt n = .error .integerTooLongToWrite := by
  have hsign : ¬(n : Int) < 0 := by omega
  simp only [writeInt, Number.intText, if_neg hsign, Int.natAbs_natCast, if_pos h]
  rfl

mutual

theorem failsByLength_written : ∀ v : Value, FailsByLength v.written
  | .none | .bool _ | .float _ | .string _ | .markup _ | .bytes _ | .pattern _ | .classRef _ | .bare | .stream ..
  | .undefined _ | .method .. | .function _ | .outcome .passed | .outcome .rejected => by
    unfold written
    exact failsByLength_ok _
  | .int n => by
    unfold written
    exact failsByLength_writeInt n
  | .list items => by
    unfold written
    exact (failsByLength_writtenAll items).bind fun _ => failsByLength_ok _
  | .tuple items => by
    unfold written
    refine (failsByLength_writtenAll items).bind fun xs => ?_
    split <;> exact failsByLength_ok _
  | .set items => by
    unfold written
    refine (failsByLength_writtenAll items).bind fun xs => ?_
    split <;> exact failsByLength_ok _
  | .dict entries => by
    unfold written
    exact (failsByLength_writtenEntries entries).bind fun _ => failsByLength_ok _
  | .obj c _ own => by
    unfold written
    split
    · exact (failsByLength_writtenFields own).bind fun _ => failsByLength_ok _
    · exact failsByLength_ok _
  | .range start stop step => by
    unfold written
    split
    · exact (failsByLength_writeInt start).bind fun _ =>
        (failsByLength_writeInt stop).bind fun _ => failsByLength_ok _
    · exact (failsByLength_writeInt start).bind fun _ => (failsByLength_writeInt stop).bind fun _ =>
        (failsByLength_writeInt step).bind fun _ => failsByLength_ok _
  | .view .keys entries => by
    unfold written
    exact (failsByLength_writtenKeys entries).bind fun _ => failsByLength_ok _
  | .view .values entries => by
    unfold written
    exact (failsByLength_writtenValues entries).bind fun _ => failsByLength_ok _
  | .view .items entries => by
    unfold written
    exact (failsByLength_writtenPairs entries).bind fun _ => failsByLength_ok _

theorem failsByLength_writtenAll : ∀ vs : List Value, FailsByLength (writtenAll vs)
  | [] => failsByLength_ok _
  | v :: vs => (failsByLength_written v).bind fun _ => (failsByLength_writtenAll vs).bind fun _ => failsByLength_ok _

theorem failsByLength_writtenEntries : ∀ entries : List (Value × Value), FailsByLength (writtenEntries entries)
  | [] => failsByLength_ok _
  | (k, v) :: rest => (failsByLength_written k).bind fun _ => (failsByLength_written v).bind fun _ =>
      (failsByLength_writtenEntries rest).bind fun _ => failsByLength_ok _

theorem failsByLength_writtenKeys : ∀ entries : List (Value × Value), FailsByLength (writtenKeys entries)
  | [] => failsByLength_ok _
  | (k, _) :: rest =>
    (failsByLength_written k).bind fun _ => (failsByLength_writtenKeys rest).bind fun _ => failsByLength_ok _

theorem failsByLength_writtenValues : ∀ entries : List (Value × Value), FailsByLength (writtenValues entries)
  | [] => failsByLength_ok _
  | (_, v) :: rest =>
    (failsByLength_written v).bind fun _ => (failsByLength_writtenValues rest).bind fun _ => failsByLength_ok _

theorem failsByLength_writtenPairs : ∀ entries : List (Value × Value), FailsByLength (writtenPairs entries)
  | [] => failsByLength_ok _
  | (k, v) :: rest => (failsByLength_written k).bind fun _ => (failsByLength_written v).bind fun _ =>
      (failsByLength_writtenPairs rest).bind fun _ => failsByLength_ok _

theorem failsByLength_writtenFields : ∀ own : List (String × Value), FailsByLength (writtenFields own)
  | [] => failsByLength_ok _
  | (_, v) :: rest =>
    (failsByLength_written v).bind fun _ => (failsByLength_writtenFields rest).bind fun _ => failsByLength_ok _

end

/-- A value stands in a message unless an integer in it is too long. -/
theorem failsByLength_rendered (v : Value) : FailsByLength v.rendered := by
  unfold rendered
  split
  · exact failsByLength_ok _
  · exact failsByLength_ok _
  · exact failsByLength_ok _
  · next hundefined _ =>
    unfold text
    split
    · exact failsByLength_ok _
    · exact failsByLength_ok _
    · exact absurd rfl (hundefined _)
    · exact failsByLength_ok _
    · exact failsByLength_ok _
    · exact failsByLength_written _

end Value

end FieldRules
