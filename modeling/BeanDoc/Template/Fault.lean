/-! What can be wrong with a template: faults of its form, found before anything is rendered, and
faults of evaluation. Both are reported with the line of the template where they arose. -/

namespace BeanDoc.Template

/-- Faults of form. Tokens are given by their description. -/
inductive FormFault where
  | unexpected (token : String) (expected : Option String)
  | unexpectedEnd (expected : String)
  | unexpectedCharacter
  | endOfString
  | endOfComment
  | endOfRaw
  | underscoreAtEnd
  | badFloat
  | badInteger
  | badEscape
  | unknownStatement (name : String)
  | noStatement (token : String)
  | reservedName (name : String)
  | positionalAfterNamed
  | tooManyArguments
  | noFilter
  | blockInMacro
  | blockTwice (name : String)
  | blockMismatch (found expected : String)
  | noCall (found : String)
  | tooDeep
  deriving DecidableEq, Repr

namespace FormFault

def kind : FormFault → String
  | badEscape => "bad string escape"
  | _ => "syntax error"

def detail : FormFault → Option String
  | unexpected token none => some ("unexpected " ++ token)
  | unexpected token (some expected) => some ("unexpected " ++ token ++ ", expected " ++ expected)
  | unexpectedEnd expected => some ("unexpected end of input, expected " ++ expected)
  | unexpectedCharacter => some "unexpected character"
  | endOfString => some "unexpected end of string"
  | endOfComment => some "unexpected end of comment"
  | endOfRaw => some "unexpected end of raw block"
  | underscoreAtEnd => some "'_' may not occur at end of number"
  | badFloat => some "invalid float"
  | badInteger => some "invalid integer (too large)"
  | badEscape => none
  | unknownStatement name => some ("unknown statement " ++ name)
  | noStatement token => some ("unknown " ++ token ++ ", expected statement")
  | reservedName name => some ("cannot assign to reserved variable name " ++ name)
  | positionalAfterNamed => some "non-keyword arg after keyword arg"
  | tooManyArguments => some "Too many arguments in function call"
  | noFilter => some "expected a filter"
  | blockInMacro => some "block tags in macros are not allowed"
  | blockTwice name => some ("block '" ++ name ++ "' defined twice")
  | blockMismatch found expected =>
    some ("mismatching name on block. Got `" ++ found ++ "`, expected `" ++ expected ++ "`")
  | noCall found => some ("expected call expression in call block, got " ++ found)
  | tooDeep => some "template exceeds maximum recursion limits"

end FormFault

inductive Kind where
  | undefined
  | none
  | bool
  | number
  | string
  | sequence
  | map
  | iterator
  | object
  deriving DecidableEq, Repr

def Kind.name : Kind → String
  | undefined => "undefined"
  | none => "none"
  | bool => "bool"
  | number => "number"
  | string => "string"
  | sequence => "sequence"
  | map => "map"
  | iterator => "iterator"
  | object => "plain object"

def Kind.rank : Kind → Nat
  | undefined => 0
  | none => 1
  | bool => 2
  | number => 3
  | string => 4
  | sequence => 5
  | map => 6
  | iterator => 7
  | object => 8

inductive EvalFault where
  | unsupported (op : String) (left right : Kind)
  | incalculable (left op right : String)
  | overflow
  | absOverflow
  | noNegative
  | badTextFactor
  | textTooLong
  | badListFactor
  | noContainment
  | notIterable (k : Kind)
  | notSliceable (k : Kind)
  | zeroStep
  | zeroRangeStep
  | longRange
  | notCallable (k : Kind)
  | objectNotCallable
  | noLength (k : Kind)
  | noReverse (k : Kind)
  | noFirst
  | noLast
  | noPairs
  | noList
  | noJoin (k : Kind)
  | noSum (k : Kind)
  | noRound (k : Kind)
  | noAbs
  | noText
  | noInteger (k : Kind)
  | noFloat (k : Kind)
  | emptyFloat
  | badFloat
  | noConversion (k : Kind) (target : String)
  | namedAsText
  | nonTextOption
  | namedFrom (k : Kind)
  | noMap
  | namespaceFrom (k : Kind)
  | noNamespace (k : Kind)
  | loopArguments
  | plainLoop
  | noReentry
  | superArguments
  | superOutside
  | unknownBlock (name : String)
  | noParentBlock
  | recursionLimit
  | undefinedValue
  | unknownFilterName
  | unknownTestName
  | noFilterName
  | badFilterName
  | badSortKey (key : String)
  | noPairList
  | zeroCount
  | noZip (k : Kind)
  | missingOption (name : String)
  | badEscaping
  | badTemplateName
  | templateCycle (name : String)
  | noTemplate (name : String)
  | noIncluded (name : String)
  | noneIncluded (names : String)
  | notUnpackable
  | wrongLength (expected found : Nat)
  | unknownFilter (name : String)
  | unknownTest (name : String)
  | unknownFunction (name : String)
  | loopNotCallable
  | unknownMethod (k : Kind) (name : String)
  | missingArgument
  | tooManyArguments
  | duplicateArgument (name : String)
  | unknownNamed (name : String)
  | unknownOption (name : String)
  deriving DecidableEq, Repr

namespace EvalFault

def kind : EvalFault → String
  | notUnpackable | wrongLength .. => "cannot unpack"
  | unknownFilter _ | unknownFilterName => "unknown filter"
  | unknownTest _ | unknownTestName => "unknown test"
  | unknownFunction _ | loopNotCallable => "unknown function"
  | unknownMethod .. => "unknown method"
  | unknownBlock _ => "unknown block"
  | undefinedValue => "undefined value"
  | noTemplate _ | noIncluded _ | noneIncluded _ => "template not found"
  | missingArgument | missingOption _ => "missing argument"
  | tooManyArguments | duplicateArgument _ | unknownNamed _ | unknownOption _ =>
    "too many arguments"
  | _ => "invalid operation"

def detail : EvalFault → Option String
  | unsupported op left right =>
    some ("tried to use " ++ op ++ " operator on unsupported types " ++ left.name ++ " and " ++
      right.name)
  | incalculable left op right =>
    some ("unable to calculate " ++ left ++ " " ++ op ++ " " ++ right)
  | overflow => some "overflow"
  | absOverflow => some "overflow on abs"
  | noNegative => none
  | badTextFactor => some "strings can only be multiplied with integers"
  | textTooLong => some "repeated string is too large"
  | badListFactor => some "sequences and iterables can only be multiplied with integers"
  | noContainment => some "cannot perform a containment check on this value"
  | notIterable k => some (k.name ++ " is not iterable")
  | notSliceable k => some ("value of type " ++ k.name ++ " cannot be sliced")
  | zeroStep => some "cannot slice by step size of 0"
  | zeroRangeStep => some "cannot create range with step of 0"
  | longRange => some "range has too many elements"
  | notCallable k => some ("value of type " ++ k.name ++ " is not callable")
  | objectNotCallable => some "object is not callable"
  | noLength k => some ("cannot calculate length of value of type " ++ k.name)
  | noReverse k => some ("cannot reverse values of type " ++ k.name)
  | noFirst => some "cannot get first item from value"
  | noLast => some "cannot get last item from value"
  | noPairs => some "cannot convert value into pairs"
  | noList => some "cannot convert value to list"
  | noJoin k => some ("cannot join value of type " ++ k.name)
  | noSum k => some ("can only sum numbers, got " ++ k.name)
  | noRound k => some ("cannot round value (" ++ k.name ++ ")")
  | noAbs => some "cannot get absolute value"
  | noText => some "value is not a string"
  | noInteger k => some ("cannot convert " ++ k.name ++ " to integer")
  | noFloat k => some ("cannot convert " ++ k.name ++ " to float")
  | emptyFloat => some "cannot parse float from empty string"
  | badFloat => some "invalid float literal"
  | noConversion k target => some ("cannot convert " ++ k.name ++ " to " ++ target)
  | namedAsText => some "cannot convert kwargs to string"
  | nonTextOption => some "non string keys passed to kwargs"
  | namedFrom k =>
    some ("attempted to apply keyword arguments from non map (got " ++ k.name ++ ")")
  | noMap => none
  | namespaceFrom k => some ("expected object or keyword arguments, got " ++ k.name)
  | noNamespace k => some ("can only assign to namespaces, not " ++ k.name)
  | loopArguments => some "loop() takes one argument"
  | plainLoop => some "cannot recurse outside of recursive loop"
  | noReentry => some "cannot recurse because of non-iterable value"
  | superArguments => some "super() takes no arguments"
  | superOutside => some "cannot super outside of block"
  | unknownBlock name => some ("block '" ++ name ++ "' not found")
  | noParentBlock => some "no parent block exists"
  | recursionLimit => some "recursion limit exceeded"
  | undefinedValue => none
  | unknownFilterName => none
  | unknownTestName => none
  | noFilterName => some "filter name is required"
  | badFilterName => some "filter name must be a string"
  | badSortKey key => some ("invalid value '" ++ key ++ "' for 'by' parameter")
  | noPairList => some "cannot convert value into pair list"
  | zeroCount => some "count cannot be 0"
  | noZip k => some ("zip filter argument must be iterable, got " ++ k.name)
  | missingOption name => some ("missing keyword argument '" ++ name ++ "'")
  | badEscaping => some "invalid value to autoescape tag"
  | badTemplateName => some "template name was not a string"
  | templateCycle name =>
    some ("cycle in template inheritance. " ++ name ++ " was referenced more than once")
  | noTemplate name => some ("template " ++ name ++ " does not exist")
  | noIncluded name => some ("tried to include non-existing template " ++ name)
  | noneIncluded names =>
    some ("tried to include one of multiple templates, none of which existed " ++ names)
  | notUnpackable => some "value is not iterable"
  | wrongLength expected found =>
    some ("sequence of wrong length (expected " ++ toString expected ++ ", got " ++
      toString found ++ ")")
  | unknownFilter name => some ("filter " ++ name ++ " is unknown")
  | unknownTest name => some ("test " ++ name ++ " is unknown")
  | unknownFunction name => some (name ++ " is unknown")
  | loopNotCallable => some "loop cannot be called from here"
  | unknownMethod k name => some (k.name ++ " has no method named " ++ name)
  | missingArgument => none
  | tooManyArguments => none
  | duplicateArgument name => some ("duplicate argument `" ++ name ++ "`")
  | unknownNamed name => some ("unknown keyword argument `" ++ name ++ "`")
  | unknownOption name => some ("unknown keyword argument '" ++ name ++ "'")

end EvalFault

def describe (kind : String) (detail : Option String) (line : Nat) : String :=
  kind ++ (match detail with | none => "" | some d => ": " ++ d) ++
    " (in <string>:" ++ toString line ++ ")"

end BeanDoc.Template
