import FieldRules.Text.Quoted

/-!
# Faults

What can go wrong while values are computed with. Every constructor is one cause and carries the names
it reports, which are names of kinds of values unless said otherwise. `Fault.message` is the one place
where the wording lives, and `Fault.family` says which family a fault belongs to: some callers answer
for a whole family.
-/

namespace FieldRules

/-- The families of faults. -/
inductive Fault.Family where
  | wrongType | badValue | zeroDivision | tooLarge | unboundName | noAttribute | missingKey
  | undefinedValue | forbidden | missingOperation | badFilterArgument | outOfRange | outOfMemory
  deriving DecidableEq, Repr

/-- A cause for which a computation has no result. -/
inductive Fault where
  -- operators
  | unsupportedOperands (op left right : String)
  | unsupportedOperand (op kind : String)
  | unordered (op left right : String)
  | cannotConcatenate (left right : String)
  | cannotExtendBytes (right : String)
  | repeatByNonInteger (kind : String)
  | repeatTooOften
  | repeatTooLong (kind : String)
  | outOfMemory
  | notContainer (kind : String)
  | memberNotText (kind : String)
  | memberNotBytes (kind : String)
  | byteOutOfRange
  -- uses of a value
  | notIterable (kind : String)
  | notReversible (kind : String)
  | notSubscriptable (kind : String)
  | notCallable (kind : String)
  | notSafelyCallable (quoted : String)
  | unhashable (kind : String)
  | noLength (kind : String)
  | noRounding (kind : String)
  | noMagnitude (kind : String)
  | notInteger (kind : String)
  | badSliceBound
  | zeroSliceStep
  | noAttribute (kind name : String)
  | readOnlyAttribute (kind name : String)
  | missingKey (quoted : String)
  | outOfRange
  -- numbers
  | divisionByZero
  | floatDivisionByZero
  | floorDivisionByZero
  | floatFloorDivisionByZero
  | moduloByZero
  | floatModuloByZero
  | zeroToNegativePower
  | powerTooLarge
  | integerTooLargeForFloat
  | quotientTooLarge
  | integerOfInfinity
  | integerOfNaN
  | integerTooLongToWrite
  | integerTooLongToRead (digits : Nat)
  | sizeTooLarge
  -- conversions
  | integerSource (kind : String)
  | floatSource (kind : String)
  | integerText (quoted : String)
  | floatText (quoted : String)
  | entrySource (index : Nat)
  | entryLength (index length : Nat)
  | bytesSource (kind : String)
  | textWithoutEncoding
  | negativeCount
  | bytesOutOfRange
  | noInstance (kind : String)
  | noOutcome (quoted : String)
  -- the format operator
  | formatTooMany
  | formatTooFew
  | formatIncomplete
  | formatIncompleteKey
  | formatUnknown (char : Char) (index : Nat)
  | formatNeedsMapping
  | formatNeedsNumber (directive : Char) (kind : String)
  | formatNeedsInteger (directive : Char) (kind : String)
  | formatNeedsReal (kind : String)
  | formatNeedsChar
  | formatCharOutOfRange
  | formatNeedsStar
  | formatWidthTooBig
  | formatPrecisionTooBig
  | formatPrecisionTooLarge
  -- calls
  | wrongArguments (text : String)
  | badArgument (text : String)
  | rangeTooBig
  | rangeZeroStep
  | badFilterArgument (text : String)
  | missingFilter (quoted : String)
  | missingTest (quoted : String)
  | unknownFilter (quoted : String)
  | unknownTest (quoted : String)
  -- names
  | unbound (name : String)
  | undefinedValue (text : String)
  | forbidden (text : String)
  deriving DecidableEq, Repr

namespace Fault

/-- The family of a fault. -/
def family : Fault → Family
  | unsupportedOperands .. | unsupportedOperand .. | unordered .. | cannotConcatenate ..
  | cannotExtendBytes .. | repeatByNonInteger .. | notContainer .. | memberNotText ..
  | memberNotBytes .. | notIterable .. | notReversible .. | notSubscriptable .. | notCallable ..
  | unhashable .. | noLength .. | noRounding .. | noMagnitude .. | notInteger .. | badSliceBound
  | integerSource .. | floatSource .. | entrySource .. | bytesSource .. | textWithoutEncoding
  | noInstance .. | formatTooMany | formatTooFew | formatNeedsMapping | formatNeedsNumber ..
  | formatNeedsInteger .. | formatNeedsReal .. | formatNeedsChar | formatNeedsStar
  | wrongArguments .. => .wrongType
  | byteOutOfRange | zeroSliceStep | integerOfNaN | integerTooLongToWrite | integerTooLongToRead ..
  | integerText .. | floatText .. | entryLength .. | negativeCount | bytesOutOfRange | noOutcome ..
  | formatIncomplete | formatIncompleteKey | formatUnknown .. | formatWidthTooBig
  | formatPrecisionTooBig | badArgument .. | rangeZeroStep =>
    .badValue
  | divisionByZero | floatDivisionByZero | floorDivisionByZero | floatFloorDivisionByZero
  | moduloByZero | floatModuloByZero | zeroToNegativePower => .zeroDivision
  | repeatTooOften | repeatTooLong .. | powerTooLarge | integerTooLargeForFloat | quotientTooLarge
  | integerOfInfinity
  | sizeTooLarge | formatPrecisionTooLarge | formatCharOutOfRange | rangeTooBig => .tooLarge
  | noAttribute .. | readOnlyAttribute .. => .noAttribute
  | missingKey .. => .missingKey
  | outOfRange => .outOfRange
  | outOfMemory => .outOfMemory
  | unbound .. => .unboundName
  | undefinedValue .. => .undefinedValue
  | forbidden .. | notSafelyCallable .. => .forbidden
  | missingFilter .. | missingTest .. | unknownFilter .. | unknownTest .. => .missingOperation
  | badFilterArgument .. => .badFilterArgument

/-- How a fault is reported. -/
def message : Fault → String
  | unsupportedOperands op left right =>
    s!"unsupported operand type(s) for {op}: '" ++ left ++ "' and '" ++ right ++ "'"
  | unsupportedOperand op kind => s!"bad operand type for unary {op}: '" ++ kind ++ "'"
  | unordered op left right =>
    "'" ++ op ++ "' not supported between instances of '" ++ left ++ "' and '" ++ right ++ "'"
  | cannotConcatenate left right =>
    s!"can only concatenate {left} (not \"{right}\") to {left}"
  | cannotExtendBytes right => s!"can't concat {right} to bytes"
  | repeatByNonInteger kind => "can't multiply sequence by non-int of type '" ++ kind ++ "'"
  | repeatTooOften => "cannot fit 'int' into an index-sized integer"
  | repeatTooLong kind => s!"repeated {kind} too long"
  | outOfMemory => ""
  | notContainer kind => "argument of type '" ++ kind ++ "' is not iterable"
  | memberNotText kind => s!"'in <string>' requires string as left operand, not {kind}"
  | memberNotBytes kind => "a bytes-like object is required, not '" ++ kind ++ "'"
  | byteOutOfRange => "byte must be in range(0, 256)"
  | notIterable kind => "'" ++ kind ++ "' object is not iterable"
  | notReversible kind => "'" ++ kind ++ "' object is not reversible"
  | notSubscriptable kind => "'" ++ kind ++ "' object is not subscriptable"
  | notCallable kind => "'" ++ kind ++ "' object is not callable"
  | notSafelyCallable quoted => s!"{quoted} is not safely callable"
  | unhashable kind => "unhashable type: '" ++ kind ++ "'"
  | noLength kind => "object of type '" ++ kind ++ "' has no len()"
  | noRounding kind => s!"type {kind} doesn't define __round__ method"
  | noMagnitude kind => "bad operand type for abs(): '" ++ kind ++ "'"
  | notInteger kind => "'" ++ kind ++ "' object cannot be interpreted as an integer"
  | badSliceBound => "slice indices must be integers or None or have an __index__ method"
  | zeroSliceStep => "slice step cannot be zero"
  | noAttribute kind name => "'" ++ kind ++ "' object has no attribute '" ++ name ++ "'"
  | readOnlyAttribute kind name =>
    "attribute '" ++ name ++ "' of '" ++ kind ++ "' objects is not writable"
  | missingKey quoted => quoted
  | outOfRange => "tuple index out of range"
  | divisionByZero => "division by zero"
  | floatDivisionByZero => "float division by zero"
  | floorDivisionByZero => "integer division or modulo by zero"
  | floatFloorDivisionByZero => "float floor division by zero"
  | moduloByZero => "integer modulo by zero"
  | floatModuloByZero => "float modulo"
  | zeroToNegativePower => "0.0 cannot be raised to a negative power"
  | powerTooLarge => "(34, 'Numerical result out of range')"
  | integerTooLargeForFloat => "int too large to convert to float"
  | quotientTooLarge => "integer division result too large for a float"
  | integerOfInfinity => "cannot convert float infinity to integer"
  | integerOfNaN => "cannot convert float NaN to integer"
  | integerTooLongToWrite =>
    "Exceeds the limit (4300 digits) for integer string conversion; "
      ++ "use sys.set_int_max_str_digits() to increase the limit"
  | integerTooLongToRead digits =>
    s!"Exceeds the limit (4300 digits) for integer string conversion: value has {digits} digits; "
      ++ "use sys.set_int_max_str_digits() to increase the limit"
  | sizeTooLarge => "Python int too large to convert to C ssize_t"
  | integerSource kind =>
    "int() argument must be a string, a bytes-like object or a real number, not '" ++ kind ++ "'"
  | floatSource kind => "float() argument must be a string or a real number, not '" ++ kind ++ "'"
  | integerText quoted => s!"invalid literal for int() with base 10: {quoted}"
  | floatText quoted => s!"could not convert string to float: {quoted}"
  | entrySource index => s!"cannot convert dictionary update sequence element #{index} to a sequence"
  | entryLength index length =>
    s!"dictionary update sequence element #{index} has length {length}; 2 is required"
  | bytesSource kind => "cannot convert '" ++ kind ++ "' object to bytes"
  | textWithoutEncoding => "string argument without an encoding"
  | negativeCount => "negative count"
  | bytesOutOfRange => "bytes must be in range(0, 256)"
  | noInstance kind => s!"{kind}() takes no arguments"
  | noOutcome quoted => s!"{quoted} is not a valid Outcome"
  | formatTooMany => "not all arguments converted during string formatting"
  | formatTooFew => "not enough arguments for format string"
  | formatIncomplete => "incomplete format"
  | formatIncompleteKey => "incomplete format key"
  | formatUnknown char index =>
    let shown := if 31 ≤ char.toNat && char.toNat ≤ 126 then char else '?'
    "unsupported format character '" ++ String.singleton shown ++ "' (0x"
      ++ String.ofList (Nat.toDigits 16 char.toNat) ++ s!") at index {index}"
  | formatNeedsMapping => "format requires a mapping"
  | formatNeedsNumber directive kind =>
    s!"%{directive} format: a real number is required, not {kind}"
  | formatNeedsInteger directive kind =>
    s!"%{directive} format: an integer is required, not {kind}"
  | formatNeedsReal kind => s!"must be real number, not {kind}"
  | formatNeedsChar => "%c requires int or char"
  | formatCharOutOfRange => "%c arg not in range(0x110000)"
  | formatNeedsStar => "* wants int"
  | formatWidthTooBig => "width too big"
  | formatPrecisionTooBig => "precision too big"
  | formatPrecisionTooLarge => "Python int too large to convert to C int"
  | wrongArguments text => text
  | badArgument text => text
  | rangeTooBig => "Range too big. The sandbox blocks ranges larger than MAX_RANGE (100000)."
  | rangeZeroStep => "range() arg 3 must not be zero"
  | badFilterArgument text => text
  | missingFilter quoted => s!"No filter named {quoted} found."
  | missingTest quoted => s!"No test named {quoted} found."
  | unknownFilter quoted => s!"No filter named {quoted}."
  | unknownTest quoted => s!"No test named {quoted}."
  | unbound name => "name '" ++ name ++ "' is not defined"
  | undefinedValue text => text
  | forbidden text => text

end Fault

end FieldRules
