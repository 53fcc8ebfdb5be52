import SiteTech.Config
import SiteTech.Text.Basic

namespace SiteTech.CommandLine

/-- The options with values. -/
inductive Setting where
  | file
  | backend
  | userAgent
  | timeout
  | loadTimeout
  | depth
  | maxLinks
  | delay
deriving DecidableEq, Repr

/-- The name of an option. -/
def Setting.name : Setting → String
  | file => "file"
  | backend => "backend"
  | userAgent => "useragent"
  | timeout => "timeout"
  | loadTimeout => "loadtimeout"
  | depth => "depth"
  | maxLinks => "maxlinks"
  | delay => "delay"

/-- All options with values. -/
def Setting.all : List Setting :=
  [.file, .backend, .userAgent, .timeout, .loadTimeout, .depth, .maxLinks, .delay]

/-- The options without values. -/
inductive Switch where
  | noDns
  | pretty
deriving DecidableEq, Repr

/-- The name of a switch. -/
def Switch.name : Switch → String
  | noDns => "no-dns"
  | pretty => "pretty"

/-- All switches. -/
def Switch.all : List Switch := [.noDns, .pretty]

/-- What is wrong with arguments. -/
inductive UsageFault where
  | unknown (argument : String)
  | missingValue (name : String)
  | badValue (name value : String)
  | needlessValue (name value : String)
  | repeated (name : String)
  | unexpected (argument : String)
  | noAddress
deriving DecidableEq, Repr

/-- The fault in words. -/
def UsageFault.message : UsageFault → String
  | unknown argument => "unexpected argument '" ++ argument ++ "' found"
  | missingValue name => "a value is required for '--" ++ name ++ "' but none was supplied"
  | badValue name value => "invalid value '" ++ value ++ "' for '--" ++ name ++ "'"
  | needlessValue name value => "unexpected value '" ++ value ++ "' for '--" ++ name ++ "' found"
  | repeated name => "the argument '--" ++ name ++ "' cannot be used multiple times"
  | unexpected argument => "unexpected argument '" ++ argument ++ "' found"
  | noAddress => "the following required arguments were not provided: <URL>"

/-- What has been read of the arguments. -/
structure Draft where
  values : List (Setting × String)
  switches : List Switch
  address : Option String

/-- The draft before the first argument. -/
def Draft.empty : Draft := ⟨[], [], none⟩

/-- The settings of an analysis, the way in which the report is written, and the address. -/
structure Options where
  config : Config
  pretty : Bool
  address : String
deriving DecidableEq, Repr, Inhabited

/-- What the arguments ask for. -/
inductive Task where
  | analyze (options : Options)
  | showVersion
  | showHelp
deriving DecidableEq, Repr

/-- A number with a sign in front perhaps, in decimal digits. -/
def readSigned (s : List Char) : Option Int :=
  let natural (digits : List Char) : Option Nat :=
    if digits.isEmpty then none else Text.readDigits 0 digits
  match s with
  | '-' :: digits => (natural digits).map fun n => -(n : Int)
  | '+' :: digits => (natural digits).map Int.ofNat
  | digits => (natural digits).map Int.ofNat

/-- A number of 32 bits. It is read as a signed one, so that zero may have a sign. -/
def readWord (value : String) : Option UInt32 :=
  (readSigned value.toList).bind fun n =>
    if 0 ≤ n ∧ n < UInt32.size then some (UInt32.ofNat n.toNat) else none

/-- A number of 64 bits. -/
def readLongWord (value : String) : Option UInt64 :=
  (Text.readNatBelow UInt64.size value.toList).map UInt64.ofNat

/-- Whether a value may be given to an option. -/
def Setting.accepts (s : Setting) (value : String) : Bool :=
  match s with
  | file => !value.isEmpty
  | backend => true
  | userAgent => true
  | timeout => (readLongWord value).isSome
  | loadTimeout => (readLongWord value).isSome
  | depth => (readWord value).isSome
  | maxLinks => (readWord value).isSome
  | delay => (readLongWord value).isSome

namespace Draft

/-- The value of an option. -/
def value? (d : Draft) (s : Setting) : Option String := d.values.lookup s

/-- Gives a value to an option. -/
def set (d : Draft) (s : Setting) (value : String) : Except UsageFault Draft :=
  if (d.value? s).isSome then .error (.repeated s.name)
  else if s.accepts value then .ok { d with values := (s, value) :: d.values }
  else .error (.badValue s.name value)

/-- Turns a switch on. -/
def turnOn (d : Draft) (s : Switch) : Except UsageFault Draft :=
  if d.switches.contains s then .error (.repeated s.name)
  else .ok { d with switches := s :: d.switches }

/-- Takes the address. -/
def take (d : Draft) (argument : String) : Except UsageFault Draft :=
  match d.address with
  | none => .ok { d with address := some argument }
  | some _ => .error (.unexpected argument)

/-- The settings of a draft. Options that are not given have their usual values; the usual number of
pages is five. -/
def config (d : Draft) : Config :=
  let usual := Config.default
  let text (s : Setting) (old : String) : String := (d.value? s).getD old
  let word (s : Setting) (old : UInt32) : UInt32 := ((d.value? s).bind readWord).getD old
  let long (s : Setting) (old : UInt64) : UInt64 := ((d.value? s).bind readLongWord).getD old
  { rulesPath := text .file usual.rulesPath
    timeoutSeconds := long .timeout usual.timeoutSeconds
    loadTimeoutSeconds := long .loadTimeout usual.loadTimeoutSeconds
    maxDepth := word .depth usual.maxDepth
    maxPages := word .maxLinks 5
    delay := long .delay usual.delay
    backend := text .backend usual.backend
    userAgent := text .userAgent usual.userAgent
    resolvesDns := !d.switches.contains .noDns }

/-- What a draft asks for once all arguments have been read. -/
def finish (d : Draft) : Except UsageFault Task :=
  match d.address with
  | some address => .ok (.analyze ⟨d.config, d.switches.contains .pretty, address⟩)
  | none => .error .noAddress

end Draft

/-- An argument in its parts. -/
inductive Word where
  | rest
  | long (name : String) (value : Option String)
  | short (letter : Char)
  | plain

/-- Takes an argument apart. A single hyphen is no name. -/
def Word.ofArgument (argument : String) : Word :=
  match argument.toList with
  | ['-', '-'] => rest
  | '-' :: '-' :: name =>
    match Text.splitOnce '=' name with
    | some (name, value) => long (String.ofList name) (some (String.ofList value))
    | none => long (String.ofList name) none
  | '-' :: letter :: _ => short letter
  | _ => plain

/-- Whether an argument can be the value of the option in front of it. -/
def isValue (argument : String) : Bool :=
  match Word.ofArgument argument with
  | .plain => true
  | _ => false

/-- Takes the arguments after `--`. -/
def takeAll (d : Draft) (arguments : List String) : Except UsageFault Draft := arguments.foldlM Draft.take d

/-- What a name without a value of its own asks for, other than an option. -/
def Task.ofName? (name : String) : Option Task :=
  if name = "version" then some .showVersion
  else if name = "help" then some .showHelp
  else none

/-- What a letter asks for. -/
def Task.ofLetter? (letter : Char) : Option Task :=
  if letter = 'V' then some .showVersion
  else if letter = 'h' then some .showHelp
  else none

/-- Reads a name that is not that of an option with a value: either the reading goes on with a new
draft, or it is clear what is asked for. -/
def readName (d : Draft) (argument name : String) (value : Option String) :
    Except UsageFault (Draft ⊕ Task) :=
  match Switch.all.find? fun s => s.name == name, Task.ofName? name, value with
  | some s, _, none => (d.turnOn s).map .inl
  | none, some task, none => .ok (.inr task)
  | none, none, _ => .error (.unknown argument)
  | _, _, some v => .error (.needlessValue name v)

/-- Reads arguments after a draft. -/
def readArguments (d : Draft) : List String → Except UsageFault Task
  | [] => d.finish
  | argument :: rest =>
    match Word.ofArgument argument with
    | .rest => do (← takeAll d rest).finish
    | .plain => do readArguments (← d.take argument) rest
    | .short letter =>
      match Task.ofLetter? letter with
      | some task => .ok task
      | none => .error (.unknown argument)
    | .long name value =>
      match Setting.all.find? fun s => s.name == name, value, rest with
      | some s, some v, rest => do readArguments (← d.set s v) rest
      | some s, none, v :: rest =>
        if isValue v then do readArguments (← d.set s v) rest else .error (.missingValue s.name)
      | some s, none, [] => .error (.missingValue s.name)
      | none, value, rest =>
        match readName d argument name value with
        | .error fault => .error fault
        | .ok (.inr task) => .ok task
        | .ok (.inl d) => readArguments d rest

/-- Reads the arguments of the command line. An option is given as `--name value` or `--name=value`, a
switch as `--name`, each once at most. The one argument without a name is the address of the site. -/
def Task.ofArguments (arguments : List String) : Except UsageFault Task :=
  readArguments Draft.empty arguments

end SiteTech.CommandLine
