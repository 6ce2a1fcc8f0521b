import ChartLayer.Number.Reading

/-!
# Options of a replay

A command line names one file and sets options, in any order. An option takes its value from the
next argument or after an equals sign; a next argument that begins with a hyphen is not a value.
Each option may be given once. After `--` every argument is a file.
-/

namespace ChartLayer

/-- The options that take a value. -/
inductive OptionName where
  | width
  | height
  | viewTimeframe
  | zoneLimit
  | tickSize
  | table
  | logDirectory
  deriving DecidableEq, Repr

namespace OptionName

/-- The name on the command line, without hyphens. -/
def text : OptionName → String
  | width => "width"
  | height => "height"
  | viewTimeframe => "view-tf"
  | zoneLimit => "zone-limit"
  | tickSize => "tick-size"
  | table => "csv"
  | logDirectory => "log-dir"

def all : List OptionName :=
  [width, height, viewTimeframe, zoneLimit, tickSize, table, logDirectory]

/-- The option of a name. -/
def ofText? (s : String) : Option OptionName := all.find? fun o => o.text == s

end OptionName

/-- What is wrong with a command line. -/
inductive OptionFault where
  | unknown (argument : String)
  | missingValue (name : OptionName)
  | repeated (argument : String)
  | badNumber (name : OptionName) (value : String)
  | emptyPath
  | missingInput
  | extraInput (argument : String)
  deriving DecidableEq, Repr

namespace OptionFault

def message : OptionFault → String
  | unknown argument => "unexpected argument '" ++ argument ++ "'"
  | missingValue name => "a value is required for '--" ++ name.text ++ "'"
  | repeated argument => "the argument '" ++ argument ++ "' cannot be used multiple times"
  | badNumber name value => "invalid value '" ++ value ++ "' for '--" ++ name.text ++ "'"
  | emptyPath => "a path cannot be empty"
  | missingInput => "the snapshot file is missing"
  | extraInput argument => "unexpected argument '" ++ argument ++ "'"

end OptionFault

/-- How a snapshot is replayed.
mirrors `Args` -/
structure ReplayOptions where
  input : String
  width : Float := 1200.0
  height : Float := 600.0
  viewTimeframe : Option String := none
  zoneLimit : Option String := none
  tickSize : Float := 0.00001
  /-- The file for the table of clusters. -/
  table : Option String := none
  debug : Bool := false
  deriving DecidableEq, Repr

namespace ReplayOptions

/-- A command line read so far. -/
structure Progress where
  given : List (OptionName × String) := []
  debug : Bool := false
  inputs : List String := []
  /-- The option whose value comes next. -/
  waiting : Option OptionName := none
  /-- Whether `--` has been read. -/
  onlyInputs : Bool := false
  deriving DecidableEq, Repr

/-- Sets an option. -/
def Progress.set (name : OptionName) (value : String) (p : Progress) :
    Except OptionFault Progress :=
  if (p.given.lookup name).isSome then .error (.repeated ("--" ++ name.text))
  else .ok { p with given := (name, value) :: p.given, waiting := none }

/-- Reads what stands behind two hyphens. -/
def Progress.readLong (body : List Char) (p : Progress) : Except OptionFault Progress :=
  let name := String.ofList (body.takeWhile (· ≠ '='))
  match OptionName.ofText? name, body.dropWhile (· ≠ '=') with
  | some option, [] =>
    if (p.given.lookup option).isSome then .error (.repeated ("--" ++ name))
    else .ok { p with waiting := some option }
  | some option, _ :: value => p.set option (String.ofList value)
  | none, [] =>
    if name ≠ "debug" then .error (.unknown ("--" ++ name))
    else if p.debug then .error (.repeated "--debug")
    else .ok { p with debug := true }
  | none, _ :: _ => .error (.unknown ("--" ++ String.ofList body))

/-- Reads what stands behind one hyphen. -/
def Progress.readShort (body : List Char) (p : Progress) : Except OptionFault Progress :=
  if body ≠ ['d'] then .error (.unknown ("-" ++ String.ofList body))
  else if p.debug then .error (.repeated "--debug")
  else .ok { p with debug := true }

/-- Reads an argument that is neither an option nor the value of one. -/
def Progress.readInput (argument : String) (p : Progress) : Except OptionFault Progress :=
  if argument = "" then .error .emptyPath
  else if p.inputs.isEmpty then .ok { p with inputs := [argument] }
  else .error (.extraInput argument)

/-- Reads one argument. -/
def Progress.read (p : Progress) (argument : String) : Except OptionFault Progress :=
  if p.onlyInputs then p.readInput argument
  else
    match argument.toList, p.waiting with
    | '-' :: _ :: _, some name => .error (.missingValue name)
    | ['-', '-'], none => .ok { p with onlyInputs := true }
    | '-' :: '-' :: body, none => p.readLong body
    | '-' :: c :: body, none => p.readShort (c :: body)
    | _, some name => p.set name argument
    | _, none => p.readInput argument

/-- The number that an option is set to. -/
def Progress.number (name : OptionName) (usual : Float) (p : Progress) :
    Except OptionFault Float :=
  match p.given.lookup name with
  | none => .ok usual
  | some raw =>
    match readFloat? raw with
    | some x => .ok x
    | none => .error (.badNumber name raw)

/-- The path that an option is set to. -/
def Progress.path (name : OptionName) (p : Progress) : Except OptionFault (Option String) :=
  match p.given.lookup name with
  | some "" => .error .emptyPath
  | path => .ok path

/-- The options of a command line that has been read to its end. -/
def Progress.finish (p : Progress) : Except OptionFault ReplayOptions :=
  match p.waiting, p.inputs with
  | some name, _ => .error (.missingValue name)
  | none, [] => .error .missingInput
  | none, input :: _ => do
    return {
      input
      width := ← p.number .width 1200.0
      height := ← p.number .height 600.0
      viewTimeframe := p.given.lookup .viewTimeframe
      zoneLimit := p.given.lookup .zoneLimit
      tickSize := ← p.number .tickSize 0.00001
      table := ← p.path .table
      debug := p.debug }

/-- The options that a command line sets. -/
def ofArguments (arguments : List String) : Except OptionFault ReplayOptions := do
  (← arguments.foldlM Progress.read {}).finish

end ReplayOptions

end ChartLayer
