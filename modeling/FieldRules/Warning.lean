/-!
# Warnings

What is worth a warning and goes on all the same. A warning has a text that is always the same and
names what it is about in fields of its own.
-/

namespace FieldRules

/-- The causes for a warning. -/
inductive Warning where
  | noHandler (fragment : String)
  | unsupportedType (fragment valueType : String)
  | handlerReplaced (name handler : String)
  | notNested (type field fieldType : String)
  | noSuchSibling (type field missing : String)
  | referenceOutsideObject
  deriving DecidableEq, Repr

namespace Warning

/-- The text of a warning. -/
def message : Warning → String
  | noHandler .. => "Fragment did not find a suitable handler"
  | unsupportedType .. => "Handler cannot handle parameter type"
  | handlerReplaced .. => "Handler name already registered, replacing it"
  | notNested .. => "Skip nested validation, field type cannot be validated"
  | noSuchSibling .. => "Target condition judgment field does not exist"
  | referenceOutsideObject =>
    "Reference comparisons are only available for fields of composite objects"

/-- What a warning is about. -/
def fields : Warning → List (String × String)
  | noHandler fragment => [("fragment", fragment)]
  | unsupportedType fragment valueType => [("fragment", fragment), ("value_type", valueType)]
  | handlerReplaced name handler => [("handler_name", name), ("handler", handler)]
  | notNested type field fieldType =>
    [("type", type), ("field", field), ("field_type", fieldType)]
  | noSuchSibling type field missing =>
    [("type", type), ("field", field), ("missing_field", missing)]
  | referenceOutsideObject => []

end Warning

end FieldRules
