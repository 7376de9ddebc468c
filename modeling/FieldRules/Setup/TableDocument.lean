import FieldRules.Document.Schema
import FieldRules.Plan.Table
import FieldRules.Resource.Store

/-!
# Rule table documents

A rule table can be written as a document: types by their import paths, each with entries for its fields,
and handlers by their import paths.
-/

namespace FieldRules

/-- What a rule table document says. -/
structure TableDocument where
  types : List (String × List FieldRule) := []
  handlers : List String := []
  deriving Inhabited

namespace Document

/-- The entries of a mapping under their keys as text. -/
def entriesOf (v : Value) : List (String × Value) :=
  Schema.textEntries (v.entries?.getD [])

/-- The value under a key of a mapping. -/
def at? (v : Value) (key : String) : Option Value :=
  (entriesOf v).lookup key

/-- The text under a key of a mapping. -/
def textAt? (v : Value) (key : String) : Option String :=
  (at? v key).bind Value.text?

/-- Whether there is a true truth value under a key of a mapping. -/
def flagAt (v : Value) (key : String) (otherwise : Bool) : Bool :=
  match at? v key with
  | some (.bool b) => b
  | _ => otherwise

/-- The items of the list under a key of a mapping. -/
def itemsAt (v : Value) (key : String) : List Value :=
  match at? v key with
  | some (.list items) => items
  | _ => []

/-- The texts in the list under a key of a mapping. -/
def textsAt (v : Value) (key : String) : List String :=
  (itemsAt v key).filterMap Value.text?

end Document

namespace TableDocument

open Document

/-- The schema of a constraint. -/
def constraintSchema : Schema :=
  [.kinds [.object], .required ["name"], .closed ["name", "arguments", "groups", "message"],
    .properties [
      ("name", [.kinds [.string]]),
      ("arguments", [.kinds [.array]]),
      ("groups", [.kinds [.array], .items [.kinds [.string]]]),
      ("message", [.kinds [.string]])]]

/-- The schema of a gate. -/
def gateSchema : Schema :=
  [.kinds [.object], .required ["fields"], .closed ["fields", "is"],
    .properties [
      ("fields", [.kinds [.array], .items [.kinds [.string]], .nonEmptyList]),
      ("is", [.oneOf ["passed", "rejected"]])]]

/-- The schema of the entry for a field. -/
def fieldSchema : Schema :=
  [.kinds [.object], .closed ["rules", "label", "valid", "when", "constraints"],
    .properties [
      ("rules", [.kinds [.string]]),
      ("label", [.kinds [.string]]),
      ("valid", [.kinds [.boolean]]),
      ("when", gateSchema),
      ("constraints", [.kinds [.array], .items constraintSchema])]]

/-- The schema of the entries for a type. -/
def typeSchema : Schema :=
  [.kinds [.object], .required ["fields"],
    .properties [("fields", [.kinds [.object], .otherProperties [] fieldSchema])]]

/-- The schema of a rule table document. -/
def schema : Schema :=
  [.kinds [.object], .closed ["types", "handlers"],
    .properties [
      ("types", [.kinds [.object], .propertyNames [Schema.importPath], .otherProperties [] typeSchema]),
      ("handlers", [.kinds [.array], .items [.kinds [.string], Schema.importPath]])]]

/-- Reads a constraint. -/
def readConstraint (v : Value) : Fragment :=
  .make ((textAt? v "name").getD "") (itemsAt v "arguments") (textsAt v "groups") (textAt? v "message")

/-- Reads a gate. -/
def readGate (v : Value) : Gate where
  fields := textsAt v "fields"
  outcome := if textAt? v "is" == some "rejected" then .rejected else .passed

/-- Reads the entry for a field. -/
def readField (name : String) (v : Value) : FieldRule where
  name := name
  rules? := textAt? v "rules"
  constraints := (itemsAt v "constraints").map readConstraint
  label? := textAt? v "label"
  nested := flagAt v "valid" false
  gate? := (at? v "when").map readGate

/-- Reads the entries for a type. -/
def readType (v : Value) : List FieldRule :=
  (((at? v "fields").map entriesOf).getD []).map fun (name, w) => readField name w

/-- Reads a document that meets the schema. -/
def ofValid (v : Value) : TableDocument where
  types := (((at? v "types").map entriesOf).getD []).map fun (path, w) => (path, readType w)
  handlers := textsAt v "handlers"

/-- Reads a document. It is reported under the name of its source if it does not meet the schema. -/
def ofValue (source : String) (v : Value) : Except SetupError TableDocument :=
  match schema.check? v with
  | some violation => throw (.invalidTable source violation.place violation.message)
  | none => pure (ofValid v)

/-- Fetches a document, which must be there. -/
def fetch (f : Fetcher) (uri : String) : Store.Run Value := do
  match ← Store.fetchDocument f uri fun _ => .setup (.unreadableTable uri) with
  | none => throw (.setup (.missingTable uri))
  -- A document with nothing in it is as good as none.
  | some .none => throw (.setup (.missingTable uri))
  | some v => return v

end TableDocument

end FieldRules
