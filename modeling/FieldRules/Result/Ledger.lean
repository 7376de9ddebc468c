import FieldRules.Result.Basic

/-!
# Ledgers

Results that are still being put together. A ledger numbers the results of fields and those of objects;
a field may hold the number of an object's result, and an object lists the numbers of its rejected
fields, so that what is entered later is seen wherever the number stands. The value and the content of a
field are entered once: the first entry counts.
-/

namespace FieldRules

/-- What is entered for a field: nothing, the fragments that rejected it, or the number of the result of
its value. -/
inductive Entry where
  | blank
  | rejections (rs : List Rejection)
  | nested (result : Nat)
  deriving Inhabited

/-- The result of a field that is being put together. -/
structure ElementDraft where
  field : String
  label : String
  value? : Option Value := none
  entry : Entry := .blank
  deriving Inhabited

/-- The result of an object that is being put together. -/
structure ResultDraft where
  tally : Tally := {}
  rejected : List Nat := []
  deriving Inhabited

/-- Results by their numbers. -/
structure Ledger where
  elements : List ElementDraft := []
  results : List ResultDraft := []
  deriving Inhabited

namespace ElementDraft

/-- Enters the value, unless there is one. -/
def setValue (e : ElementDraft) (v : Value) : ElementDraft :=
  { e with value? := e.value? <|> some v }

/-- Enters the content, unless there is one. -/
def setEntry (e : ElementDraft) (entry : Entry) : ElementDraft :=
  match e.entry with
  | .blank => { e with entry }
  | _ => e

/-- The fragments that rejected the field. -/
def rejections (e : ElementDraft) : List Rejection :=
  match e.entry with
  | .rejections rs => rs
  | _ => []

end ElementDraft

namespace Ledger

/-- Adds the result of a field; its number is that of the fields before. -/
def addElement (l : Ledger) (e : ElementDraft) : Ledger :=
  { l with elements := l.elements ++ [e] }

/-- Adds the result of an object; its number is that of the objects before. -/
def addResult (l : Ledger) (r : ResultDraft) : Ledger :=
  { l with results := l.results ++ [r] }

/-- Changes the result of a field. -/
def editElement (l : Ledger) (n : Nat) (f : ElementDraft → ElementDraft) : Ledger :=
  { l with elements := l.elements.modify n f }

/-- Changes the result of an object. -/
def editResult (l : Ledger) (n : Nat) (f : ResultDraft → ResultDraft) : Ledger :=
  { l with results := l.results.modify n f }

/-- Counts a field of an object as passed. -/
def pass (l : Ledger) (n : Nat) : Ledger :=
  l.editResult n fun r => { r with tally := r.tally.pass }

/-- Counts a field of an object as ignored. -/
def ignore (l : Ledger) (n : Nat) : Ledger :=
  l.editResult n fun r => { r with tally := r.tally.ignore }

/-- Lists a field of an object as rejected. -/
def reject (l : Ledger) (n element : Nat) : Ledger :=
  l.editResult n fun r => { tally := r.tally.reject, rejected := r.rejected ++ [element] }

/-- Adds the two results as one. -/
def merge (l : Ledger) (m n : Nat) : Ledger :=
  let r := l.results[m]?.getD {}
  let s := l.results[n]?.getD {}
  l.addResult { tally := r.tally.merge s.tally, rejected := r.rejected ++ s.rejected }

/-- The result of a field as it stands, with results inside of it down to a depth. -/
def elementWithin (l : Ledger) : Nat → Nat → ElementResult
  | 0, n =>
    let e := (l.elements[n]?).getD ⟨"", "", none, .blank⟩
    .own e.field e.label (e.value?.getD .none) e.rejections
  | depth + 1, n =>
    let e := (l.elements[n]?).getD ⟨"", "", none, .blank⟩
    match e.entry with
    | .nested m =>
      let r := (l.results[m]?).getD {}
      .nested e.field e.label (e.value?.getD .none) r.tally (r.rejected.map (elementWithin l depth))
    | _ => .own e.field e.label (e.value?.getD .none) e.rejections

/-- The result of a field as it stands. Results inside of each other are different ones, so their number
bounds the depth. -/
def element (l : Ledger) (n : Nat) : ElementResult :=
  l.elementWithin (l.results.length + 1) n

/-- The result of an object as it stands. -/
def result (l : Ledger) (n : Nat) : Result :=
  let r := (l.results[n]?).getD {}
  { tally := r.tally, rejected := r.rejected.map l.element }

end Ledger

end FieldRules
