/-
# Command-line options

`Options.parse` reads the arguments of the program.  A long option may be shortened as long as
only one begins that way, and its value is the next argument or stands after an equals sign.  Of
several values for one option the last counts.  An argument that begins with a dash is an option,
save for a dash alone, a negative number, and anything with a blank in it; two dashes end the
options.  Two dashes as the value of an option take its value away: `Given.nothing`.

The short option for help may be repeated behind one dash.  Whatever else is attached to it is a
value, which it does not take.
-/
import GreatCircle.Decimal.Numeral
import GreatCircle.Text.Quoted
import GreatCircle.Text.Split

namespace GreatCircle

/-- The options of the program. -/
inductive Flag where
  /-- Explain the program. -/
  | help
  /-- Where the route starts. -/
  | start
  /-- Where the route ends. -/
  | goal
  /-- How many steps the route is cut into. -/
  | points
  /-- Cut the route at its first crossing only. -/
  | firstOnly
  /-- The file with more cities. -/
  | cities
  /-- The colour of lines. -/
  | stroke
  /-- The width of lines. -/
  | strokeWidth
  /-- Write GeoJSON. -/
  | geojson
  /-- Mark both ends. -/
  | markers
  /-- Which messages are shown. -/
  | logLevel
deriving DecidableEq, Repr

namespace Flag

/-- All options in the order in which they are listed. -/
def all : List Flag :=
  [help, start, goal, points, firstOnly, cities, stroke, strokeWidth, geojson, markers, logLevel]

/-- The long name of an option. -/
def name : Flag → String
  | help => "--help"
  | start => "--from"
  | goal => "--to"
  | points => "--points"
  | firstOnly => "--first-only"
  | cities => "--cities"
  | stroke => "--stroke"
  | strokeWidth => "--stroke-width"
  | geojson => "--geojson"
  | markers => "--markers"
  | logLevel => "--log-level"

/-- The name of an option in messages. -/
def title : Flag → String
  | help => "-h/--help"
  | flag => flag.name

/-- The option takes a value. -/
def takesValue : Flag → Bool
  | help | firstOnly | geojson | markers => false
  | start | goal | points | cities | stroke | strokeWidth | logLevel => true

/-- The option of a long name that is written in full. -/
def ofName? (name : Text) : Option Flag := all.find? fun flag => name == flag.name

/-- The options whose long name begins with a text. -/
def beginning (text : Text) : List Flag :=
  all.filter fun flag => text.points.isPrefixOf (Text.ofString flag.name).points

/-- The short name for help. -/
def shortHelp : Text := "-h"

/-- What every long name begins with. -/
def longMark : Text := "--"

end Flag

/-- What is wrong with the arguments. -/
inductive UsageFault where
  /-- A shortened option could be several. -/
  | ambiguous (given : Text) (candidates : List Flag)
  /-- The value of an option is missing. -/
  | noValue (flag : Flag)
  /-- An option without a value was given one. -/
  | needlessValue (flag : Flag) (value : Text)
  /-- The value of an option is no whole number. -/
  | notInteger (flag : Flag) (value : Text)
  /-- The value of an option is no number. -/
  | notNumber (flag : Flag) (value : Text)
  /-- Options that have to be given are missing. -/
  | missing (flags : List Flag)
  /-- Arguments that mean nothing. -/
  | unrecognized (arguments : List Text)
deriving DecidableEq, Repr

/-- The wording of a fault. -/
def UsageFault.message : UsageFault → Text
  | ambiguous given candidates =>
    "ambiguous option: " ++ given ++ " could match " ++
      ", ".intercalate (candidates.map Flag.name)
  | noValue flag => "argument " ++ flag.title ++ ": expected one argument"
  | needlessValue flag value =>
    "argument " ++ flag.title ++ ": ignored explicit argument " ++ Text.quote value
  | notInteger flag value =>
    "argument " ++ flag.title ++ ": invalid int value: " ++ Text.quote value
  | notNumber flag value =>
    "argument " ++ flag.title ++ ": invalid float value: " ++ Text.quote value
  | missing flags =>
    "the following arguments are required: " ++ ", ".intercalate (flags.map Flag.title)
  | unrecognized arguments => "unrecognized arguments: " ++ Text.intercalate " " arguments

/-- An argument on its own. -/
inductive Word where
  /-- A value, or an argument that means nothing. -/
  | plain (text : Text)
  /-- Two dashes. -/
  | separator
  /-- A long option, with the value after its equals sign. -/
  | option (flag : Flag) (value : Option Text)
  /-- The short option for help, with what is attached to it. -/
  | shortHelp (attached : Option Text)
  /-- An option that does not exist. -/
  | unknown (text : Text)
deriving DecidableEq, Repr

namespace Word

/-- A minus sign and a decimal number, perhaps with a line end after it. -/
def isNegativeNumber (cs : List Char) : Bool :=
  let isDigit (c : Char) : Bool := (Text.digitValue? c).isSome
  match cs with
  | '-' :: rest =>
    let body := if rest.getLast? = some '\n' then rest.dropLast else rest
    let whole := body.takeWhile isDigit
    match body.dropWhile isDigit with
    | [] => !whole.isEmpty
    | '.' :: places => !places.isEmpty && places.all isDigit
    | _ => false
  | _ => false

/-- A name and the value after the first equals sign in an argument, if there is one. -/
def split (arg : Text) : Text × Option Text :=
  match Text.cutAt? ('=' : CodePoint) arg.points with
  | some (stem, value) => (⟨stem⟩, some ⟨value⟩)
  | none => (arg, none)

/-- The option of a name that is written in full. -/
def named? (name : Text) (value : Option Text) : Option Word :=
  if name = Flag.shortHelp then some (.shortHelp value)
  else (Flag.ofName? name).map fun flag => .option flag value

/-- What an argument that begins with two dashes and holds no full name is.  A long option may be
shortened as long as no other begins that way. -/
def ofShortened? (arg : Text) : Except UsageFault (Option Word) :=
  let (stem, value) := split arg
  match Flag.beginning stem with
  | [] => .ok none
  | [flag] => .ok (some (.option flag value))
  | several => .error (.ambiguous arg several)

/-- What an argument that begins with a dash is, if it is an option. -/
def ofDashed? (arg : Text) : Except UsageFault (Option Word) :=
  let (stem, value) := split arg
  match (named? arg none).or (named? stem value) with
  | some word => .ok (some word)
  | none =>
    if arg.points.take 2 = Flag.shortHelp.points then
      .ok (some (.shortHelp (some ⟨arg.points.drop 2⟩)))
    else if arg.points.take 2 = Flag.longMark.points then ofShortened? arg
    else .ok none

/-- What an argument before the two dashes is. -/
def ofArgument (arg : Text) : Except UsageFault Word := do
  if arg.points.head? ≠ some '-' ∨ arg = "-" then return .plain arg
  match ← ofDashed? arg with
  | some word => return word
  | none =>
    if arg.chars?.any isNegativeNumber || arg.points.contains ' ' then return .plain arg
    else return .unknown arg

/-- What the arguments are.  After two dashes all are plain. -/
def ofArguments : List Text → Except UsageFault (List Word)
  | [] => .ok []
  | arg :: rest =>
    if arg = "--" then .ok (.separator :: rest.map .plain)
    else do
      let word ← ofArgument arg
      return word :: (← ofArguments rest)

end Word

/-- What is given for an option that takes a value. -/
inductive Given (α : Type) where
  /-- A value. -/
  | value (a : α)
  /-- Two dashes in the place of a value. -/
  | nothing

/-- The value that is given, if one is. -/
def Given.value? {α : Type} : Given α → Option α
  | value a => some a
  | nothing => none

/-- What the arguments say. -/
structure Options where
  /-- Where the route starts. -/
  start : Option (Given Text) := none
  /-- Where the route ends. -/
  goal : Option (Given Text) := none
  /-- How many steps the route is cut into. -/
  points : Option (Given Int) := none
  /-- Cut the route at its first crossing only. -/
  firstOnly : Bool := false
  /-- The file with more cities. -/
  cities : Option (Given Text) := none
  /-- The colour of lines. -/
  stroke : Option (Given Text) := none
  /-- The width of lines. -/
  strokeWidth : Option (Given Float) := none
  /-- Write GeoJSON. -/
  geojson : Bool := false
  /-- Mark both ends. -/
  markers : Bool := false
  /-- Which messages are shown. -/
  logLevel : Option (Given Text) := none

namespace Options

/-- Where reading the arguments has led. -/
inductive Parsed where
  /-- To a request for help. -/
  | help
  /-- To options, and to arguments that mean nothing. -/
  | options (options : Options) (extras : List Text)

/-- What is given by a text that is read in some way; `fault` is for a text that cannot be read. -/
def given {α : Type} (read? : Text → Option α) (fault : UsageFault) (text : Text) :
    Except UsageFault (Given α) :=
  if text = "--" then .ok .nothing
  else match read? text with
    | some a => .ok (.value a)
    | none => .error fault

/-- The options after an option with its value. -/
def setValue (o : Options) (flag : Flag) (text : Text) : Except UsageFault Options := do
  let needless : UsageFault := .needlessValue flag text
  match flag with
  | .start => return { o with start := some (← given some needless text) }
  | .goal => return { o with goal := some (← given some needless text) }
  | .points =>
    return { o with points := some (← given Numeral.int? (.notInteger flag text) text) }
  | .cities => return { o with cities := some (← given some needless text) }
  | .stroke => return { o with stroke := some (← given some needless text) }
  | .strokeWidth =>
    return { o with strokeWidth := some (← given Numeral.float? (.notNumber flag text) text) }
  | .logLevel => return { o with logLevel := some (← given some needless text) }
  | .help | .firstOnly | .geojson | .markers => throw needless

/-- The options after an option without a value. -/
def setSwitch (o : Options) (flag : Flag) : Options :=
  match flag with
  | .firstOnly => { o with firstOnly := true }
  | .geojson => { o with geojson := true }
  | .markers => { o with markers := true }
  | _ => o

/-- A word that means nothing, as it was given. -/
def extra : Word → List Text
  | .plain text | .unknown text => [text]
  | .separator => ["--"]
  | .option .. | .shortHelp _ => []

/-- Where the short option for help leads with something attached to it: that may only be the
same option again. -/
def helpWith : List CodePoint → Except UsageFault Parsed
  | [] => .error (.needlessValue .help "")
  | c :: rest =>
    if c ≠ 'h' then .error (.needlessValue .help ⟨c :: rest⟩)
    else if rest.isEmpty then .ok .help
    else helpWith rest

/-- Takes the words one after the other. -/
def take (o : Options) (extras : List Text) : List Word → Except UsageFault Parsed
  | [] => .ok (.options o extras)
  | .option .help none :: _ | .shortHelp none :: _ => .ok .help
  | .shortHelp (some attached) :: _ => helpWith attached.points
  | .option flag (some value) :: rest => do (← o.setValue flag value).take extras rest
  | [.option flag none] =>
    if flag.takesValue then .error (.noValue flag) else .ok (.options (o.setSwitch flag) extras)
  | .option flag none :: next :: rest =>
    if flag.takesValue then
      match next with
      | .plain value => do (← o.setValue flag value).take extras rest
      | _ => .error (.noValue flag)
    else (o.setSwitch flag).take extras (next :: rest)
  | word :: rest => o.take (extras ++ extra word) rest

/-- The options that are needed and were not given. -/
def missing (o : Options) : List Flag :=
  (if o.start.isNone then [.start] else []) ++ (if o.goal.isNone then [.goal] else [])

/-- What the arguments ask for.  A missing option is reported before arguments that mean
nothing. -/
def parse (args : List Text) : Except UsageFault Parsed := do
  match ← ({} : Options).take [] (← Word.ofArguments args) with
  | .help => return .help
  | .options o extras =>
    if !o.missing.isEmpty then throw (.missing o.missing)
    if !extras.isEmpty then throw (.unrecognized extras)
    return .options o []

end Options

end GreatCircle
