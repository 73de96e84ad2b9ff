import Lexical.Cli.Options
import Lexical.Diagnostic
import Lexical.Dialect.Build
import Lexical.TokenStream

/-! What the program does with a file: it lists the tokens, one on a line, or shows what is wrong
and lists nothing. What it logs is told from the session.
-/

namespace Lexical.Cli

/-- Why a file cannot be read. -/
inductive FileFault where
  | missing
  | directory
  | notUtf8
  | other (message : String)
deriving DecidableEq, Repr

/-- What is said of a file that cannot be read. -/
def FileFault.message : FileFault → String
  | missing => "No such file or directory (os error 2)"
  | directory => "Is a directory (os error 21)"
  | notUtf8 => "stream did not contain valid UTF-8"
  | other message => message

/-- What the program leaves behind. -/
structure Output where
  exitCode : Nat := 0
  stdout : String := ""
  stderr : String := ""
deriving DecidableEq, Repr

/-- A part of the name of a file that is a name itself. -/
def isName (component : String) : Bool :=
  component != "" && component != "."

/-- The last part of the name of a file, if that is a name. -/
def fileName? (path : String) : Option String :=
  match ((path.splitOn "/").filter isName).getLast? with
  | some ".." => none
  | last? => last?

/-- The name of a file in places: its last part, or else all of it. -/
def sourceName (path : String) : String :=
  (fileName? path).getD path

/-- A text with blanks behind it up to a width. -/
def padRight (width : Nat) (text : String) : String :=
  text ++ String.ofList (List.replicate (width - text.length) ' ')

/-- The row of a token in the listing: its line and column, its kind and its value. -/
def row (token : Token) : String :=
  let location :=
    match token.origin? with
    | some place => place.line.repr ++ ":" ++ place.column.repr
    | none => ""
  let value :=
    match token.value with
    | .absent => ""
    | .text content => "  " ++ Text.quoted content
    | value => "  " ++ value.display
  padRight 8 location ++ "  " ++ token.kind.name ++ value ++ "\n"

/-- The rows of all tokens. -/
def listing (tokens : List Token) : String :=
  String.join (tokens.map row)

/-- A line of the log. -/
def logLine (shown : Level) (level : Level) (message : String) (fields : List (String × String))
    : String :=
  if !shown.shows level then ""
  else
    let name :=
      match level with
      | .error => "ERROR"
      | .warn => " WARN"
      | .info => " INFO"
      | .debug => "DEBUG"
      | .trace => "TRACE"
    let fields := fields.map fun (key, value) => " " ++ key ++ "=" ++ value
    name ++ " " ++ message ++ String.join fields ++ "\n"

/-- The line on a lexeme. -/
def lexemeLine (shown : Level) (lexeme : Lexeme) : String :=
  let rule := ("rule", Text.quoted lexeme.rule)
  match lexeme.token? with
  | some token => logLine shown .trace "Produced token" [rule, ("token", token.display)]
  | none => logLine shown .trace "Suppressed input" [rule, ("at", lexeme.start.display)]

/-- The line on the end of a session. A breach is not logged. -/
def endingLine (shown : Level) (source : String) (session : Session) : String :=
  match session.ending with
  | .finished =>
    logLine shown .debug "Tokenized"
      [("source", Text.quoted source), ("tokens", session.tokens.length.repr)]
  | .unexpected character place =>
    let error : Error := ⟨.unexpectedCharacter character, some place⟩
    logLine shown .debug "Tokenizing failed" [("error", error.display)]
  | .failed rule error =>
    logLine shown .debug "Tokenizing failed"
      [("rule", Text.quoted rule), ("error", error.display)]
  | .breached _ => ""

/-- The lines on a session. -/
def sessionLog (shown : Level) (source : String) (rules : Nat) (session : Session) : String :=
  logLine shown .debug "Tokenizing" [("source", Text.quoted source), ("rules", rules.repr)]
    ++ String.join (session.lexemes.map (lexemeLine shown))
    ++ endingLine shown source session

/-- The lines on the tokens that are taken one by one. -/
def takenLog (shown : Level) (tokens : List Token) : String :=
  String.join (tokens.map fun token =>
    logLine shown .trace "Consumed token" [("token", token.display)])

/-- The dialect that the options ask for: that of the configuration, or else the standard one, with
the keywords added.
-/
def dialectOf (options : Options) (config? : Option (String × Except FileFault String))
    : Except Error Dialect := do
  let dialect ←
    match config? with
    | none => pure Dialect.standard
    | some (path, .error fault) =>
      throw (Dialect.invalid ("cannot read '" ++ path ++ "': " ++ fault.message))
    | some (_, .ok json) => Dialect.load json
  pure { dialect with keywords := dialect.keywords ++ options.keywords }

/-- What the program leaves behind when the text of the file is known: first the lines that have
been logged, then either the listing or the error.
-/
def tokenizeText (compile : Pattern.Compiler) (options : Options) (name text : String)
    (elapsed : String) (config? : Option (String × Except FileFault String))
    : Output :=
  let readLog :=
    match config? with
    | some (path, _) =>
      logLine options.globalLevel .debug "Reading tokenizer configuration" [("path", path)]
    | none => ""
  let failed (log : String) (error : Error) : Output :=
    { exitCode := 1, stderr := log ++ Diagnostic.render error text }
  match dialectOf options config? >>= (·.build compile) with
  | .error error => failed readLog error
  | .ok tokenizer =>
    let rules := tokenizer.rules.length
    let session := tokenizer.sessionOf name text
    let log := readLog
      ++ logLine options.lexerLevel .debug "Built tokenizer from configuration"
        [("rules", rules.repr)]
      ++ sessionLog options.lexerLevel name rules session
    match session.outcome with
    | .error (.error error) => failed log error
    | .error (.breach breach) => { exitCode := 101, stderr := log ++ breach.message ++ "\n" }
    | .ok tokens =>
      { stdout := listing tokens
        stderr := log
          ++ logLine options.globalLevel .info ("Tokenized in " ++ elapsed)
            [("count", tokens.length.repr)]
          ++ takenLog options.traverserLevel tokens }

/-- What the program leaves behind. The configuration is not looked at where the file cannot be
read.
-/
def tokenizeFile (compile : Pattern.Compiler) (file : String) (options : Options)
    (content : Except FileFault String) (elapsed : String)
    (config? : Option (String × Except FileFault String))
    : Output :=
  match content with
  | .error fault =>
    { exitCode := 1, stderr := "Error: cannot read '" ++ file ++ "': " ++ fault.message ++ "\n" }
  | .ok text => tokenizeText compile options (sourceName file) text elapsed config?

/-- The name of the program with its version. -/
def versionText : String := "ruletok 0.1.0\n"

/-- How the program is used. -/
def usageText : String :=
  "Tokenize a file and print its tokens\n\nUsage: ruletok [OPTIONS] <FILE>\n\nOptions:\n"
    ++ "  --config <FILE>                JSON tokenizer configuration "
    ++ "(default: the standard rule set)\n"
    ++ "  --keyword <WORD>               Extra keyword, lexed with its own kind (repeatable)\n"
    ++ "  --log-level <LEVEL>            Level of the log\n"
    ++ "  --lexer-log-level <LEVEL>      Level for the tokenizer's own logs, "
    ++ "overriding --log-level\n"
    ++ "  --traverser-log-level <LEVEL>  Level for the traverser's logs, "
    ++ "overriding --log-level\n"
    ++ "  --log-format <FORMAT>          pretty, compact or json\n"
    ++ "  -h, --help                     Print help\n"
    ++ "  -V, --version                  Print version\n"

/-- What the program leaves behind, given how files are read and what compiles patterns. -/
def run (read : String → Except FileFault String) (elapsed : String) (request : Request)
    (compile : Pattern.Compiler := Pattern.compile)
    : Output :=
  match request with
  | .version => { stdout := versionText }
  | .help => { stdout := usageText }
  | .misuse message => { exitCode := 2, stderr := "error: " ++ message ++ "\n\n" ++ usageText }
  | .tokenize file options =>
    tokenizeFile compile file options (read file) elapsed
      (options.config?.map fun path => (path, read path))

end Lexical.Cli
