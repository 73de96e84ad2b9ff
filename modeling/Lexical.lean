import Lexical.Cli.Run
import Lexical.Main
import Lexical.Proofs.Cli.Run
import Lexical.Proofs.Cursor.Operation
import Lexical.Proofs.Cursor.ReadCount
import Lexical.Proofs.Diagnostic
import Lexical.Proofs.Dialect.Arrangement
import Lexical.Proofs.Dialect.Defects
import Lexical.Proofs.Dialect.Keywords
import Lexical.Proofs.Dialect.LongestSymbol
import Lexical.Proofs.Dialect.Padding
import Lexical.Proofs.Pattern.Window
import Lexical.Proofs.Recognizer.Literal
import Lexical.Proofs.Recognizer.Number
import Lexical.Proofs.Recognizer.QuotedText
import Lexical.Proofs.Text.LineNumber
import Lexical.Proofs.TokenStream.Expectation
import Lexical.Proofs.Tokenizer.Extension
import Lexical.Proofs.Tokenizer.Unread
import Lexical.Proofs.Json.Grammar
import Lexical.Proofs.Json.StringText
import Lexical.Proofs.Json.Reading
import Lexical.Proofs.Json.NumberText
import Lexical.Proofs.Json.Passing
import Lexical.Proofs.Json.Taking
import Lexical.Proofs.Json.Record
import Lexical.Proofs.Json.Rendering
import Lexical.Proofs.Dialect.Description
