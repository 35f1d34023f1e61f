import FlowTesting.CommandLine.Setting
import FlowTesting.Text.Terminal

set_option autoImplicit false

/-!
# Arguments

Arguments are read from left to right. A value follows its flag after an equals sign or
as the next argument, unless that begins with a dash. A flag that waits for its value
is settled when the next known flag or the end is reached, and only then is a separate
value looked at. Afterwards the environment gives the settings that no flag has given.
-/

namespace FlowTesting

/-- Why arguments are not read to their end, or what they ask for instead. -/
inductive ArgumentFault where
  | help
  | version
  | unknown (argument : String)
  | missingValue (setting : Setting)
  | repeated (usage : String)
  | surplusValue (value flag : String)
  | invalidValue (setting : Setting) (value : String) (fault : ValueFault)
  deriving DecidableEq, Repr

namespace ArgumentFault

def badValue (text : String) : String := Text.styled "33" text

def literal (text : String) : String := Text.styled "1" text

/-- What is wrong; asking for help or for the version is nothing wrong. -/
def description? : ArgumentFault → Option String
  | .help => none
  | .version => none
  | .unknown argument => some s!"unexpected argument '{badValue argument}' found"
  | .missingValue setting =>
    some s!"a value is required for '{literal setting.usage}' but none was supplied"
  | .repeated usage => some s!"the argument '{badValue usage}' cannot be used multiple times"
  | .surplusValue value flag =>
    some s!"unexpected value '{badValue value}' for '{literal flag}' found; no more were expected"
  | .invalidValue setting value fault =>
    some s!"invalid value '{badValue value}' for '{literal setting.usage}': {fault.message}"

/-- The complaint as users see it: what is wrong and where to look further, without the
styles. Control sequences of the arguments go with the styles. -/
def complaint? (fault : ArgumentFault) : Option String :=
  fault.description?.map (fun description =>
    Text.plain (Text.styled "31" "error:" ++ " " ++ description ++
      "\n\nFor more information, try '" ++ literal "--help" ++ "'.\n"))

def exitCode : ArgumentFault → Nat
  | .help => 0
  | .version => 0
  | _ => 2

end ArgumentFault

structure Options where
  definitionOnly : Bool := false
  configuration : Configuration := {}
  deriving DecidableEq, Repr

/-- A flag that has been read and waits for its value or for being settled. -/
structure PendingFlag where
  setting : Setting
  value? : Option String
  deriving DecidableEq, Repr

structure ArgumentReader where
  options : Options := {}
  given : List Setting := []
  pending? : Option PendingFlag := none
  onlyPositional : Bool := false
  deriving DecidableEq, Repr

inductive ArgumentForm where
  | separator
  | long (name : String) (value? : Option String)
  | short (first : Char)
  | plain
  deriving DecidableEq, Repr

namespace ArgumentForm

def ofLong (characters : List Char) : ArgumentForm :=
  let name := characters.takeWhile (· != '=')
  match characters.drop name.length with
  | [] => .long (String.ofList name) none
  | _ :: value => .long (String.ofList name) (some (String.ofList value))

def ofArgument (argument : String) : ArgumentForm :=
  match argument.toList with
  | ['-', '-'] => .separator
  | '-' :: '-' :: rest => ofLong rest
  | '-' :: first :: _ => .short first
  | _ => .plain

end ArgumentForm

namespace ArgumentReader

/-- Gives a setting its value, which it may not have been given before. -/
def accept (reader : ArgumentReader) (setting : Setting) (value : String) :
    Except ArgumentFault ArgumentReader :=
  if reader.given.contains setting then .error (.repeated setting.usage)
  else
    match setting.apply value reader.options.configuration with
    | .error fault => .error (.invalidValue setting value fault)
    | .ok configuration => .ok
        { reader with
          options := { reader.options with configuration }
          given := setting :: reader.given }

/-- Settles the flag that waits, if one does. -/
def settle (reader : ArgumentReader) : Except ArgumentFault ArgumentReader :=
  match reader.pending? with
  | none => .ok reader
  | some ⟨setting, none⟩ => .error (.missingValue setting)
  | some ⟨setting, some value⟩ => { reader with pending? := none }.accept setting value

/-- Settles the flag that waits and ends with a request of its own. -/
def endWith (reader : ArgumentReader) (fault : ArgumentFault) :
    Except ArgumentFault ArgumentReader := do
  let _ ← reader.settle
  throw fault

def readSwitch (reader : ArgumentReader) (name : String) : Except ArgumentFault ArgumentReader :=
  if name = "crd" then do
    let settled ← reader.settle
    if settled.options.definitionOnly then throw (.repeated "--crd")
    return { settled with options := { settled.options with definitionOnly := true } }
  else if name = "help" then reader.endWith .help
  else reader.endWith .version

def switchNames : List String := ["crd", "help", "version"]

def readLong (reader : ArgumentReader) (name : String) (value? : Option String) :
    Except ArgumentFault ArgumentReader :=
  match Setting.ofFlagName? name with
  | some setting => do
    let settled ← reader.settle
    match value? with
    | some value => settled.accept setting value
    | none => return { settled with pending? := some ⟨setting, none⟩ }
  | none =>
    if switchNames.contains name then
      match value? with
      | some value => .error (.surplusValue value ("--" ++ name))
      | none => reader.readSwitch name
    else .error (.unknown ("--" ++ name))

def readShort (reader : ArgumentReader) (first : Char) : Except ArgumentFault ArgumentReader :=
  if first = 'h' then reader.endWith .help
  else if first = 'V' then reader.endWith .version
  else .error (.unknown (String.ofList ['-', first]))

def read (reader : ArgumentReader) (argument : String) : Except ArgumentFault ArgumentReader :=
  if reader.onlyPositional then .error (.unknown argument)
  else
    match ArgumentForm.ofArgument argument with
    | .separator => .ok { reader with onlyPositional := true }
    | .long name value? => reader.readLong name value?
    | .short first => reader.readShort first
    | .plain =>
      match reader.pending? with
      | some ⟨setting, none⟩ => .ok { reader with pending? := some ⟨setting, some argument⟩ }
      | _ => .error (.unknown argument)

/-- Gives a setting that no flag has given the value of its variable. -/
def readVariable (environment : String → Option String) (reader : ArgumentReader)
    (setting : Setting) : Except ArgumentFault ArgumentReader :=
  if reader.given.contains setting then .ok reader
  else
    match environment setting.variableName with
    | none => .ok reader
    | some value => reader.accept setting value

end ArgumentReader

/-- Reads the arguments, and the environment for what they leave out. -/
def Options.parse (arguments : List String) (environment : String → Option String) :
    Except ArgumentFault Options := do
  let reader ← arguments.foldlM ArgumentReader.read {}
  let settled ← reader.settle
  let completed ← Setting.all.foldlM (ArgumentReader.readVariable environment) settled
  return completed.options

end FlowTesting
