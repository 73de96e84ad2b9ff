import Lexical.Proofs.Cli.Listing
import Lexical.Proofs.Diagnostic
import Lexical.Proofs.Tokenizer.Soundness

/-! Runs of the program on a file. The file is read, the configuration is read, the tokenizer is
built, and the text is taken apart. What goes wrong first is reported, and then nothing is listed;
where nothing goes wrong all tokens are listed, and nothing is reported.
-/

namespace Lexical.Cli

-----------------------------------------------------------------------------------------
-- Levels
-----------------------------------------------------------------------------------------

section Log

variable {shown : Level} (quiet : shown.shows .info = false)

include quiet

end Log

/-- The tokens of a text by the tokenizer that the options ask for, or what went wrong. -/
def answer (compile : Pattern.Compiler) (options : Options) (name text : String)
    (config? : Option (String × Except FileFault String))
    : Except Failure (List Token) :=
  match dialectOf options config? >>= (·.build compile) with
  | .error error => .error (.error error)
  | .ok tokenizer => tokenizer.tokenizeText name text

section Stages

variable (read : String → Except FileFault String) (file : String) (options : Options)

/-- The dialect that is asked for: the standard one, or that of a configuration that can be read
and makes sense, with the further keywords.
-/
inductive Configured : Dialect → Prop
  | standard (unset : options.config? = none)
    : Configured { Dialect.standard with keywords := options.keywords }
  | loaded {path json dialect} (set : options.config? = some path)
    (readable : read path = .ok json) (parses : Dialect.load json = .ok dialect)
    : Configured { dialect with keywords := dialect.keywords ++ options.keywords }

variable (compile : Pattern.Compiler)

/-- All goes well, and the tokens come of it: the file can be read, there is a dialect, it has a
tokenizer, and that takes the text of the file apart.
-/
inductive Tokenizes : List Token → Prop
  | success {text dialect tokenizer tokens} (readable : read file = .ok text)
    (configured : Configured read options dialect) (built : dialect.build compile = .ok tokenizer)
    (taken : tokenizer.tokenizeText (sourceName file) text = .ok tokens)
    : Tokenizes tokens

end Stages

variable {read : String → Except FileFault String} {file : String} {options : Options}
  {compile : Pattern.Compiler}

/-- Lines and columns are counted in 32 bits along the text of the file, if that can be read. -/
def Countable (read : String → Except FileFault String) (file : String) : Prop :=
  ∀ text, read file = .ok text → (Position.start (sourceName file)).CountsOver text.toList

/-- The tokens of a countable file are at places that their predecessors are counted to. -/
theorem Tokenizes.counted {tokens : List Token}
    (h : Tokenizes read file options compile tokens) (countable : Countable read file)
    : ∃ text,
        read file = .ok text
        ∧ ∀ token ∈ tokens,
          ∃ before,
            before <+: text.toList
            ∧ token.origin? = (Position.start (sourceName file)).advanceOver? before := by
  obtain ⟨readable, -, built, taken⟩ := h
  exact ⟨_, readable, fun _ => Dialect.counted_of_tokens built taken (countable _ readable)⟩

end Lexical.Cli
