import FieldRules.Rule.Error
import FieldRules.Uri.Split
import FieldRules.Value.Class

/-!
# Errors

Everything that can go wrong outside of a validation that rejects something: malformed rules, a setup
that does not fit together, documents and resources that cannot be read, and faults of values.
-/

namespace FieldRules

/-- The causes for which a setup does not fit together. -/
inductive SetupError where
  -- plans
  | recursive (quotedKey cache : String)
  | nestedConditions (field type : String) (conditional : List String)
  | noParameter (function name : String)
  | unresolvable (owner reason : String)
  -- handlers
  | notHandler (quoted : String)
  | notHandlerClass (type : String)
  | notHandlerPath (path : String)
  | nameless (handler : String)
  | noHandler (fragment : String)
  | noParametersTaken (usage : String)
  | tooFewParameters (usage : String) (least : Nat)
  | tooManyParameters (usage : String) (most : Nat)
  | unknownLevel (level : String) (levels : List String)
  -- documents
  | missingConfig (uri : String)
  | unreadableConfig (uri : String)
  | configNotMapping (uri : String)
  | invalidConfig (place reason : String)
  | missingTable (uri : String)
  | unreadableTable (uri : String)
  | invalidTable (source place reason : String)
  | tableWithoutRegistry (source : String)
  | unreadableBundle (base : String)
  | invalidMessages (file : String)
  -- import paths
  | malformedPath (path : String)
  | noModule (module path missing : String)
  | noInnerModule (module path missing outer : String)
  | notInModule (name module : String)
  | notClass (path : String)
  deriving DecidableEq, Repr

/-- How a cause is reported. -/
def SetupError.message : SetupError → String
  | recursive quotedKey cache => s!"Recursive computation of {quotedKey} in {cache}"
  | nestedConditions field type conditional =>
    "Field '" ++ field ++ s!"' of {type} depends on conditional field(s) "
      ++ ", ".intercalate conditional ++ "; conditions cannot be nested"
  | noParameter function name => s!"{function} has no parameter '" ++ name ++ "'"
  | unresolvable owner reason => s!"Cannot resolve annotations of {owner}: {reason}"
  | notHandler quoted => s!"{quoted} is not a ConstraintHandler"
  | notHandlerClass type => s!"{type} is not a ConstraintHandler subclass"
  | notHandlerPath path => "'" ++ path ++ "' is not a ConstraintHandler subclass"
  | nameless handler => s!"{handler} does not declare any names"
  | noHandler fragment => s!"Fragment \"{fragment}\" did not find a suitable handler"
  | noParametersTaken usage => s!"Handler \"{usage}\" cannot accept any parameters"
  | tooFewParameters usage least =>
    s!"Handler \"{usage}\" requires at least {least} parameter" ++ (if least == 1 then "" else "s")
  | tooManyParameters usage most =>
    if most == 1 then s!"Handler \"{usage}\" can only process at most 1 parameter"
    else s!"Handler \"{usage}\" can only process up to {most} parameters"
  | unknownLevel level levels =>
    s!"Unknown password level \"{level}\", expected one of ["
      ++ ", ".intercalate (levels.map Text.quoteString) ++ "]"
  | missingConfig uri => s!"Config not found: {uri}"
  | unreadableConfig uri => s!"Invalid YAML in config {uri}: "
  | configNotMapping uri => s!"Config {uri} must be a mapping"
  | invalidConfig place reason => s!"Invalid configuration at {place}: {reason}"
  | missingTable uri => s!"Rule table not found: {uri}"
  | unreadableTable uri => s!"Invalid YAML in rule table {uri}: "
  | invalidTable source place reason => s!"Invalid rule table {source} at {place}: {reason}"
  | tableWithoutRegistry source =>
    s!"Rule table {source} lists handlers but no registry was given"
  | unreadableBundle base => "Message bundle '" ++ base ++ "' has no readable files"
  | invalidMessages file => s!"Invalid message file {file}: "
  | malformedPath path => "Import path must look like 'module:Class', got '" ++ path ++ "'"
  | noModule module path missing =>
    s!"Failed to import {module} for '" ++ path ++ "': No module named '" ++ missing ++ "'"
  | noInnerModule module path missing outer =>
    s!"Failed to import {module} for '" ++ path ++ "': No module named '" ++ missing ++ "'; '"
      ++ outer ++ "' is not a package"
  | notInModule name module => "'" ++ name ++ s!"' not found in module {module}"
  | notClass path => "'" ++ path ++ "' is not a class"

/-- The causes for which a resource cannot be fetched. -/
inductive ResourceError where
  | scheme (name uri : String)
  | unreachable (uri reason : String)
  | status (uri : String) (code : Int) (reason : String)
  deriving DecidableEq, Repr

/-- How a cause is reported. -/
def ResourceError.message : ResourceError → String
  | scheme name uri => s!"Unsupported URI scheme: {name} in {uri}"
  | unreachable uri reason => s!"Failed to fetch resource from {uri}: {reason}"
  | status uri code reason =>
    let side := if code < 500 then "Client" else "Server"
    s!"Failed to fetch resource from {uri}: {code} {side} Error: {reason} for url: {uri}"

/-- Why a text is no document: its tokens or their order. -/
inductive DocumentError where
  | tokens | grammar
  deriving DecidableEq, Repr

/-- Everything that can go wrong. -/
inductive Error where
  | rule (e : RuleError)
  | setup (e : SetupError)
  | argument (index : Int) (template kind quoted : String)
  | fault (f : Fault)
  | pattern (source : String) (p : Regex.Problem)
  | uri (p : Uri.Problem)
  | resource (e : ResourceError)
  | document (e : DocumentError)
  | readOnlyField (field type : String)
  | handlerFailure (text : String)
  | tooDeep
  deriving DecidableEq, Repr

/-- How an error is reported. -/
def Error.message : Error → String
  | rule e => e.message
  | setup e => e.message
  | argument index template kind quoted =>
    s!"Argument {index} of \"{template}\" cannot be converted to {kind}: {quoted}"
  | fault f => f.message
  | pattern source p => p.message source
  | uri p => p.message
  | resource e => e.message
  | document _ => ""
  | readOnlyField field type => "Field '" ++ field ++ s!"' of {type} is read-only"
  | handlerFailure text => text
  | tooDeep => "maximum recursion depth exceeded"

/-- A computation on values as a computation that may fail in any way. -/
def liftFault {α : Type} (r : Except Fault α) : Except Error α :=
  r.mapError .fault

end FieldRules
