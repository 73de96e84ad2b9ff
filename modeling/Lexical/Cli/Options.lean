/-! The command line: one file, and options before or behind it. An option's value comes behind it
or behind an equality sign.
-/

namespace Lexical.Cli

/-- How much is logged, from failures alone to every step. -/
inductive Level where
  | error
  | warn
  | info
  | debug
  | trace
deriving DecidableEq, Repr

/-- The rank of a level. A level includes those of lower rank. -/
def Level.rank : Level → Nat
  | error => 1
  | warn => 2
  | info => 3
  | debug => 4
  | trace => 5

/-- Whether a line of a level is shown at this level. -/
def Level.shows (level line : Level) : Bool :=
  line.rank ≤ level.rank

/-- The names of the levels. -/
def Level.names : List (String × Level) :=
  [("error", .error), ("warn", .warn), ("info", .info), ("debug", .debug), ("trace", .trace)]

/-- The level with a name in any case, or with a rank. -/
def Level.ofText? (text : String) : Option Level :=
  let digits :=
    match text.toList with
    | '+' :: digits => digits
    | digits => digits
  if !digits.isEmpty && digits.all Char.isDigit then
    let rank := digits.foldl (fun value c => 10 * value + (c.toNat - '0'.toNat)) 0
    (names.find? (·.2.rank == rank)).map Prod.snd
  else names.lookup (String.ofList (text.toList.map Char.toLower))

/-- What to do, as far as the arguments have been read. -/
structure Options where
  file? : Option String := none
  config? : Option String := none
  keywords : List String := []
  logLevel? : Option Level := none
  lexerLogLevel? : Option Level := none
  traverserLogLevel? : Option Level := none
  logFormat? : Option String := none
deriving Repr

/-- The level for all that has no level of its own. -/
def Options.globalLevel (options : Options) : Level :=
  options.logLevel?.getD .warn

/-- The level for reading characters. -/
def Options.lexerLevel (options : Options) : Level :=
  options.lexerLogLevel?.getD options.globalLevel

/-- The level for taking tokens. -/
def Options.traverserLevel (options : Options) : Level :=
  options.traverserLogLevel?.getD options.globalLevel

/-- What the arguments ask for. -/
inductive Request where
  | version
  | help
  | tokenize (file : String) (options : Options)
  | misuse (message : String)

/-- Sets an option that may be given once, if its value has the right form. -/
def setOnce (name value : String) (old? : Option α) (new? : Option α) (set : α → Options)
    : Except String Options :=
  match old?, new? with
  | some _, _ => .error ("the argument '" ++ name ++ "' cannot be used multiple times")
  | none, none => .error ("invalid value '" ++ value ++ "' for '" ++ name ++ "'")
  | none, some new => .ok (set new)

/-- The value of an option that names a file. -/
def path? (value : String) : Option String :=
  if value.isEmpty then none else some value

/-- The value of the option for the form of the log. -/
def format? (value : String) : Option String :=
  if ["pretty", "compact", "json"].contains value then some value else none

/-- The options with one more value, if there is an option of that name. -/
def Options.set? (options : Options) (name value : String) : Option (Except String Options) :=
  match name with
  | "--config" =>
    some (setOnce name value options.config? (path? value) fun new =>
      { options with config? := some new })
  | "--keyword" => some (.ok { options with keywords := options.keywords ++ [value] })
  | "--log-level" =>
    some (setOnce name value options.logLevel? (Level.ofText? value) fun new =>
      { options with logLevel? := some new })
  | "--lexer-log-level" =>
    some (setOnce name value options.lexerLogLevel? (Level.ofText? value) fun new =>
      { options with lexerLogLevel? := some new })
  | "--traverser-log-level" =>
    some (setOnce name value options.traverserLogLevel? (Level.ofText? value) fun new =>
      { options with traverserLogLevel? := some new })
  | "--log-format" =>
    some (setOnce name value options.logFormat? (format? value) fun new =>
      { options with logFormat? := some new })
  | _ => none

/-- The options with the file to read. -/
def Options.setFile (options : Options) (file : String) : Except String Options :=
  match options.file?, path? file with
  | none, some file => .ok { options with file? := some file }
  | _, _ => .error ("unexpected argument '" ++ file ++ "' found")

/-- The name and the value of an argument that holds both. -/
def splitAssignment (argument : String) : String × Option String :=
  let chars := argument.toList
  let name := String.ofList (chars.takeWhile (· != '='))
  match chars.dropWhile (· != '=') with
  | _ :: value => (name, some (String.ofList value))
  | [] => (name, none)

/-- Whether the argument has the form of an option. -/
def looksLikeOption (argument : String) : Bool :=
  argument.startsWith "-" && argument != "-"

/-- Reads arguments that cannot be options. -/
def readFiles (options : Options) : List String → Except String Options
  | [] => .ok options
  | file :: others =>
    match options.setFile file with
    | .ok options => readFiles options others
    | .error message => .error message

/-- The request that the options make up. -/
def Options.request (options : Options) : Request :=
  match options.file? with
  | some file => .tokenize file options
  | none => .misuse "the following required arguments were not provided:\n  <FILE>"

/-- A request from options, or from what is wrong with them. -/
def requestOf : Except String Options → Request
  | .ok options => options.request
  | .error message => .misuse message

/-- Reads arguments from the left. -/
def readArguments (options : Options) : List String → Request
  | [] => options.request
  | "--" :: files => requestOf (readFiles options files)
  | argument :: others =>
    if argument = "--version" ∨ argument = "-V" then .version
    else if argument = "--help" ∨ argument = "-h" then .help
    else if !looksLikeOption argument then
      match options.setFile argument with
      | .ok options => readArguments options others
      | .error message => .misuse message
    else
      let unknown := Request.misuse ("unexpected argument '" ++ argument ++ "' found")
      match splitAssignment argument, others with
      | (name, some value), others =>
        match options.set? name value with
        | some (.ok options) => readArguments options others
        | some (.error message) => .misuse message
        | none => unknown
      | (name, none), value :: others =>
        match options.set? name value with
        | none => unknown
        | some result =>
          if looksLikeOption value then
            .misuse ("a value is required for '" ++ name ++ "' but none was supplied")
          else
            match result with
            | .ok options => readArguments options others
            | .error message => .misuse message
      | (name, none), [] =>
        if (options.set? name "").isSome then
          .misuse ("a value is required for '" ++ name ++ "' but none was supplied")
        else unknown

/-- What the arguments ask for. -/
def Request.ofArguments (arguments : List String) : Request :=
  readArguments {} arguments

end Lexical.Cli
