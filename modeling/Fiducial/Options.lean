import Fiducial.Text.Digit
import Fiducial.Text.Quoted

/-!
# Options of the command line

Each argument is first looked at on its own: it is an option, with or without a value attached by
an equals sign, or a value.  Long options may be cut short as long as they stay unambiguous.
Everything after `--` is a value, and so are a lone dash, negative numbers and whatever has a
blank in it and is no option.  Then the arguments are used up from the left: each option but the
one for help takes the next argument.  What is left over is not recognized, and the last of
several values of an option counts.
-/

namespace Fiducial

/-- The options, which carry a value except for the first. -/
inductive Flag where
  | help
  | config
  | landmarks
  | events
  | out
  | logLevel
deriving DecidableEq, Repr

namespace Flag

/-- How options are written, in the order in which they are listed. -/
def spellings : List (String × Flag) :=
  [("-h", help), ("--help", help), ("--config", config), ("--landmarks", landmarks),
    ("--events", events), ("--out", out), ("--log-level", logLevel)]

/-- The name of an option in messages. -/
def title : Flag → String
  | help => "-h/--help"
  | config => "--config"
  | landmarks => "--landmarks"
  | events => "--events"
  | out => "--out"
  | logLevel => "--log-level"

def required : List Flag := [config, landmarks, events]

/-- The value of an option that is not given. -/
def default : Flag → String
  | logLevel => "INFO"
  | _ => ""

/-- The values that an option can have, if they are listed. -/
def choices : Flag → List String
  | logLevel => ["DEBUG", "INFO", "WARNING", "ERROR"]
  | _ => []

end Flag

structure Options where
  config : String
  landmarks : String
  events : String
  out : String
  logLevel : String
deriving DecidableEq, Repr

namespace Options

/-- What an argument is when it is looked at on its own. -/
inductive Word where
  | value
  | separator
  /-- An option with the value that follows an equals sign. -/
  | option (flag : Flag) (attached : Option String)
  /-- The letter for help with more letters behind it. -/
  | helpLetters (letters : List Char)
  | unknown
deriving DecidableEq, Repr

/-- What stands before and after the first equals sign. -/
def splitEquals (cs : List Char) : List Char × Option (List Char) :=
  match cs.dropWhile (· ≠ '=') with
  | _ :: r => (cs.takeWhile (· ≠ '='), some r)
  | [] => (cs, none)

/-- The long options that begin in the same way. -/
def matching (name : List Char) : List (String × Flag) :=
  Flag.spellings.filter fun s => name.isPrefixOf s.1.toList

def isDecimal (cs : List Char) : Bool := cs ≠ [] && cs.all fun c => (Text.digitValue? c).isSome

/-- A dash and digits, which may have a point in front of the last of them. -/
def isNegativeNumber (cs : List Char) : Bool :=
  match if cs.getLast? = some '\n' then cs.dropLast else cs with
  | '-' :: r =>
    isDecimal r ||
      match r.dropWhile fun c => (Text.digitValue? c).isSome with
      | '.' :: places => isDecimal places
      | _ => false
  | _ => false

def ambiguousText (arg : String) (found : List String) : String :=
  "ambiguous option: " ++ arg ++ " could match " ++ ", ".intercalate found

/-- An argument with two dashes that is no option in full. -/
def classifyLong (arg : String) (name : List Char) (attached : Option String) :
    Except String (Option Word) :=
  match matching name with
  | [] => .ok none
  | [s] => .ok (some (.option s.2 attached))
  | found => .error (ambiguousText arg (found.map (·.1)))

/-- An argument with a dash in front that is no option in full, but perhaps begins one. -/
def classifyPart (arg : String) (name : List Char) (attached : Option String) :
    Except String (Option Word) :=
  match arg.toList with
  | '-' :: '-' :: _ => classifyLong arg name attached
  | '-' :: 'h' :: letters => .ok (some (.helpLetters letters))
  | _ => .ok none

/-- What an argument before `--` is, or why that cannot be said. -/
def classify (arg : String) : Except String Word :=
  let cs := arg.toList
  let (name, attached) := splitEquals cs
  let attached := attached.map String.ofList
  if cs.head? ≠ some '-' || cs = ['-'] then .ok .value
  else match Flag.spellings.lookup arg, Flag.spellings.lookup (String.ofList name) with
    | some f, _ => .ok (.option f none)
    | none, some f => .ok (.option f attached)
    | none, none => do
      match ← classifyPart arg name attached with
      | some w => return w
      | none => return if isNegativeNumber cs || cs.contains ' ' then .value else .unknown

/-- The arguments with what they are. -/
def classifyAll : List String → Except String (List (String × Word))
  | [] => .ok []
  | arg :: args =>
    if arg = "--" then .ok ((arg, .separator) :: args.map (·, .value))
    else do return (arg, ← classify arg) :: (← classifyAll args)

/-- How reading the arguments ends. -/
inductive Parsed where
  | run (o : Options)
  | help
  | wrong (message : String)
deriving DecidableEq, Repr

/-- What is known after some of the arguments. -/
structure Reading where
  values : List (Flag × String)
  extras : List String

def Reading.add (r : Reading) (arg : String) : Reading := { r with extras := r.extras ++ [arg] }

/-- The last value of an option. -/
def Reading.value? (r : Reading) (f : Flag) : Option String := r.values.lookup f

def argumentText (f : Flag) (message : String) : String :=
  "argument " ++ f.title ++ ": " ++ message

def choiceText (f : Flag) (v : String) : String :=
  argumentText f ("invalid choice: " ++ Text.quoted v ++ " (choose from " ++
    ", ".intercalate (f.choices.map Text.quoted) ++ ")")

/-- The reading with one more value, which must be one of those listed. -/
def Reading.give (r : Reading) (f : Flag) (v : String) : Except Parsed Reading :=
  if f.choices ≠ [] && !f.choices.contains v then .error (.wrong (choiceText f v))
  else .ok { r with values := (f, v) :: r.values }

def ignoredText (v : String) : String :=
  argumentText .help ("ignored explicit argument " ++ Text.quoted v)

/-- Letters behind the one for help, which asks for help whatever they are; only a dash and what
is attached by an equals sign are refused. -/
def helpWith : List Char → Parsed
  | 'h' :: '=' :: r => .wrong (ignoredText (String.ofList r))
  | 'h' :: c :: r => helpWith (c :: r)
  | '-' :: r => .wrong (ignoredText (String.ofList ('-' :: r)))
  | _ => .help

/-- Uses up arguments from the left; help and mistakes end that. -/
def consume : Reading → List (String × Word) → Except Parsed Reading
  | r, [] => .ok r
  | _, (_, .helpLetters letters) :: _ => .error (helpWith letters)
  | _, (_, .option .help none) :: _ => .error .help
  | _, (_, .option .help (some v)) :: _ => .error (.wrong (ignoredText v))
  | r, (_, .option f (some v)) :: rest => do consume (← r.give f v) rest
  | r, (_, .option f none) :: (v, .value) :: rest => do consume (← r.give f v) rest
  | _, (_, .option f none) :: _ => .error (.wrong (argumentText f "expected one argument"))
  | r, (arg, _) :: rest => consume (r.add arg) rest

/-- The options of a complete reading. -/
def finish (r : Reading) : Parsed :=
  let missing := Flag.required.filter fun f => (r.value? f).isNone
  if missing ≠ [] then
    .wrong ("the following arguments are required: " ++ ", ".intercalate (missing.map Flag.title))
  else if r.extras ≠ [] then .wrong ("unrecognized arguments: " ++ " ".intercalate r.extras)
  else
    let value := fun f => (r.value? f).getD (Flag.default f)
    .run ⟨value .config, value .landmarks, value .events, value .out, value .logLevel⟩

def parse (args : List String) : Parsed :=
  match classifyAll args with
  | .error message => .wrong message
  | .ok words =>
    match consume ⟨[], []⟩ words with
    | .error p => p
    | .ok r => finish r

end Options
end Fiducial
