import BeanDoc.Json.Value
import BeanDoc.Settings.CommandOption
import BeanDoc.Text.Similarity
import BeanDoc.Text.Split

/-! The arguments of the command line. An option is given at most once. The value of an option
stands behind it or in the next argument, and is settled only when the next option comes or the
arguments end. -/

namespace BeanDoc

inductive ArgumentFault where
  | unexpected (argument : String) (similar : Option CommandOption) (used : List CommandOption)
  | valueRequired (option : CommandOption)
  | valueUnexpected (option : CommandOption) (value : String) (used : List CommandOption)
  | repeated (option : CommandOption)
  | helpRequested
  deriving DecidableEq, Repr

namespace ArgumentFault

def usageLine (used : List CommandOption) : String :=
  -- the option that the help does not list does not count
  let used := used.filter (· ≠ .configPath)
  "Usage: gendoc " ++
    if used.isEmpty then "[OPTIONS]" else String.intercalate " " (used.map CommandOption.usage)

def flagUsageLine (flag : CommandOption) (used : List CommandOption) : String :=
  if used.isEmpty then usageLine [flag]
  -- behind other options it is one choice among all
  else "Usage: gendoc " ++ (if flag = .help then flag.usage ++ " " else "") ++ CommandOption.choice

def paragraphs (ps : List String) : String :=
  String.intercalate "\n\n" ps ++ "\n\nFor more information, try '--help'.\n"

def message : ArgumentFault → String
  | unexpected argument similar used =>
    paragraphs (("error: unexpected argument '" ++ argument ++ "' found") ::
      (similar.map fun o => "  tip: a similar argument exists: '--" ++ o.name ++ "'").toList ++
      [usageLine used])
  | valueRequired o =>
    paragraphs ["error: a value is required for '" ++ o.usage ++ "' but none was supplied"]
  | valueUnexpected o value used =>
    paragraphs ["error: unexpected value '" ++ value ++ "' for '" ++ o.usage ++
      "' found; no more were expected", flagUsageLine o used]
  | repeated o =>
    paragraphs ["error: the argument '" ++ o.usage ++ "' cannot be used multiple times",
      usageLine []]
  | helpRequested => CommandOption.helpText

end ArgumentFault

structure CommandArguments where
  given : List (CommandOption × Option String) := []
  pending : Option (CommandOption × Option String) := none
  deriving DecidableEq, Repr

namespace CommandArguments

def options (a : CommandArguments) : List CommandOption :=
  a.given.map (·.1)

def take (a : CommandArguments) (o : CommandOption) (value : Option String) :
    Except ArgumentFault CommandArguments :=
  if a.options.contains o then .error (.repeated o)
  else .ok { a with given := a.given ++ [(o, value)] }

def settle (a : CommandArguments) : Except ArgumentFault CommandArguments :=
  match a.pending with
  | none => .ok a
  | some (o, none) => .error (.valueRequired o)
  | some (o, some value) => ({ a with pending := none }).take o (some value)

def optionsAfter (a : CommandArguments) : List CommandOption :=
  match a.pending with
  | some (o, some _) =>
    -- a repeated option counts no more
    if a.options.contains o then a.options.filter (· ≠ o) else a.options ++ [o]
  | _ => a.options

def give (a : CommandArguments) (o : CommandOption) (value : Option String) :
    Except ArgumentFault CommandArguments :=
  match a.settle with
  | .error f => .error f
  | .ok a => if o = .help then .error .helpRequested else a.take o value

def await (a : CommandArguments) (o : CommandOption) : Except ArgumentFault CommandArguments :=
  match a.settle with
  | .error f => .error f
  | .ok a => .ok { a with pending := some (o, none) }

def suggestionBound : Float :=
  0.7

def unknownName (a : CommandArguments) (name : List Char) : ArgumentFault :=
  let similar :=
    (Text.mostSimilar? suggestionBound name (CommandOption.all.map (·.name.toList))).bind
      CommandOption.ofName?
  let used := a.optionsAfter
  let used := match similar with
    | some o => if used.contains o then used else used ++ [o]
    | none => used
  .unexpected ("--" ++ String.ofList name) similar used

def readName (a : CommandArguments) (text : List Char) : Except ArgumentFault CommandArguments :=
  let (name, value) :=
    match Text.cut? ['='] text with
    | some (name, value) => (name, some (String.ofList value))
    | none => (text, none)
  match CommandOption.ofName? name, value with
  | none, _ => .error (a.unknownName name)
  | some o, none => if o.takesValue then a.await o else a.give o none
  | some o, some value =>
    if o.takesValue then a.give o (some value)
    else .error (.valueUnexpected o value a.options)

/-- Options by their letters. The rest behind an option that takes a value is its value. -/
def readLetters (a : CommandArguments) : List Char → Except ArgumentFault CommandArguments
  | [] => .ok a
  | c :: cs =>
    match CommandOption.ofLetter? c with
    | none => .error (.unexpected ("-" ++ c.toString) none [])
    | some o =>
      if o.takesValue then
        match cs with
        | [] => a.await o
        | '=' :: value => a.give o (some (String.ofList value))
        | value => a.give o (some (String.ofList value))
      else
        match a.give o none with
        | .error f => .error f
        | .ok a => a.readLetters cs

def readPlain (a : CommandArguments) (text : String) : Except ArgumentFault CommandArguments :=
  match a.pending with
  | some (o, none) => .ok { a with pending := some (o, some text) }
  | _ => .error (.unexpected text none [])

def readOne (a : CommandArguments) (text : String) : Except ArgumentFault CommandArguments :=
  match text.toList with
  | '-' :: '-' :: rest => a.readName rest
  | '-' :: c :: rest => a.readLetters (c :: rest)
  | _ => a.readPlain text

def readAll (a : CommandArguments) : List String → Except ArgumentFault CommandArguments
  | [] => a.settle
  -- behind two dashes there are no more options, and nothing else is expected
  | "--" :: [] => a.settle
  | "--" :: next :: _ => .error (.unexpected next none [])
  | text :: texts =>
    match a.readOne text with
    | .error f => .error f
    | .ok a => a.readAll texts

def parse (texts : List String) : Except ArgumentFault CommandArguments :=
  readAll {} texts

def configPath? (a : CommandArguments) : Option String :=
  (a.given.lookup .configPath).join

/-- Whether the arguments set a key. They set all flags. -/
def isGiven (a : CommandArguments) (key : String) : Bool :=
  CommandOption.setters.any fun o => o.key = key && (!o.takesValue || a.options.contains o)

open Json

def toJson (a : CommandArguments) : Value :=
  .object (sortMembers (CommandOption.setters.filterMap fun o =>
    if o.takesValue then
      match a.given.lookup o with
      | some (some value) => some (o.key, .string value)
      | _ => none
    else some (o.key, .bool (a.options.contains o))))

end CommandArguments

end BeanDoc
