import FieldRules.Rule.Tag
import FieldRules.Value.Attribute

/-!
# Elements

An element is a field of a type with all that is asked of it. Its fragments, its label and its gate are
set once: the first setting counts, later ones change nothing.
-/

namespace FieldRules

/-- A field with what is asked of it. -/
structure Element where
  owner : Class
  kind : Class
  name : String
  getter : String
  setter? : Option String
  nested : Bool := false
  fragments? : Option (List Fragment) := none
  label? : Option String := none
  gate? : Option Gate := none
  deriving Inhabited

/-- The elements of a type in their order. -/
abbrev Plan := List Element

namespace Element

/-- The fragments, none if they have not been set. -/
def fragments (e : Element) : List Fragment :=
  e.fragments?.getD []

/-- Sets the fragments, unless they have been set. -/
def setFragments (e : Element) (fragments : List Fragment) : Element :=
  { e with fragments? := e.fragments? <|> some fragments }

/-- The label, which is the name if none has been set. -/
def label (e : Element) : String :=
  e.label?.getD e.name

/-- Sets the label, unless it has been set or none is given. -/
def setLabel (e : Element) (label? : Option String) : Element :=
  { e with label? := e.label? <|> label? }

/-- Sets the gate, unless it has been set or none is given. -/
def setGate (e : Element) (gate? : Option Gate) : Element :=
  { e with gate? := e.gate? <|> gate? }

/-- Whether the element has no gate. -/
def isUnconditional (e : Element) : Bool :=
  e.gate?.isNone

/-- The value of the field in an object. -/
def get (e : Element) (v : Value) : Value :=
  v.read e.getter

/-- Puts a value into the field of an object. -/
def set (e : Element) (v w : Value) : Except Error Value :=
  match e.setter? with
  | some name => liftFault (v.write name w)
  | none => throw (.readOnlyField e.name e.owner.simpleName)

end Element

end FieldRules
