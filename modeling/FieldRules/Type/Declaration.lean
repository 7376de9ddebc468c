import FieldRules.Type.Hint
import FieldRules.Type.Lineage
import FieldRules.Value.Attribute

/-!
# Declarations

The classes and functions that are known by name: a class with its annotated fields and the attributes
that its objects share, a function with its annotated parameters.
-/

namespace FieldRules

/-- A class as it is declared. -/
structure ClassDeclaration where
  declared : Class
  annotations : List (String × Hint) := []
  attributes : List (String × Value) := []
  deriving Inhabited

/-- A function as it is declared; a parameter need not be annotated. -/
structure FunctionDeclaration where
  home : String
  name : String
  parameters : List (String × Option Hint) := []
  deriving Inhabited

/-- What is declared, and the modules that there are for it. -/
structure Declarations where
  homes : List String := []
  classes : List ClassDeclaration := []
  functions : List FunctionDeclaration := []
  deriving Inhabited

namespace Declarations

/-- The declaration of a class. -/
def find? (d : Declarations) (name : TypeName) : Option ClassDeclaration :=
  d.classes.find? fun c => c.declared.name == name

/-- The annotated fields of a class, those of the classes it is derived from not among them. -/
def annotations (d : Declarations) (name : TypeName) : List (String × Hint) :=
  ((d.find? name).map ClassDeclaration.annotations).getD []

/-- The names of further classes that are known everywhere. -/
def furtherClasses : List String :=
  ["bytearray", "classmethod", "complex", "enumerate", "filter", "frozenset", "map", "memoryview",
    "property", "reversed", "slice", "staticmethod", "super", "zip"]

/-- The class with a name that is known everywhere. -/
def builtin? (name : String) : Option Class :=
  ([Class.object, .bool, .int, .float, .string, .bytes, .list, .tuple, .set, .dict, .range, .type]
    ++ furtherClasses.map Class.builtin).find? fun c => c.simpleName == name

/-- The class that a name stands for inside a module. -/
def classNamed? (d : Declarations) (home name : String) : Option Class :=
  (d.find? ⟨home, name⟩).map ClassDeclaration.declared <|> builtin? name

/-- The attributes that the objects of a class share, those of special classes before general ones. -/
def sharedAttributes (d : Declarations) (c : Class) : List (String × Value) :=
  c.lineage.flatMap fun name => ((d.find? name).map ClassDeclaration.attributes).getD []

/-- An object of a class without fields of its own. -/
def blank (d : Declarations) (c : Class) : Value :=
  .obj c (d.sharedAttributes c) []

end Declarations

end FieldRules
