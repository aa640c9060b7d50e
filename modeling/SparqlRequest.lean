import SparqlRequest.Client
import SparqlRequest.CommandLine.Options
import SparqlRequest.CommandLine.Run
import SparqlRequest.Config
import SparqlRequest.ConfigFile
import SparqlRequest.Error
import SparqlRequest.Files
import SparqlRequest.Json.Basic
import SparqlRequest.Json.Numeral
import SparqlRequest.Json.Reader
import SparqlRequest.Json.Writer
import SparqlRequest.Lexical.BareType
import SparqlRequest.Lexical.Delimiter
import SparqlRequest.Lexical.Escape
import SparqlRequest.Lexical.Name
import SparqlRequest.Lexical.Safety
import SparqlRequest.Main
import SparqlRequest.NameMap
import SparqlRequest.Number.Binary64
import SparqlRequest.Number.Shortest
import SparqlRequest.Number.Written
import SparqlRequest.Pattern.Basic
import SparqlRequest.Proofs.CommandLine.DryRun
import SparqlRequest.Proofs.CommandLine.Precedence
import SparqlRequest.Proofs.Config.Declared
import SparqlRequest.Proofs.Lexical.BareForm
import SparqlRequest.Proofs.Lexical.BareType
import SparqlRequest.Proofs.Lexical.Delimiter
import SparqlRequest.Proofs.Lexical.Name
import SparqlRequest.Proofs.Lexical.StringLiteral
import SparqlRequest.Proofs.Number.Written
import SparqlRequest.Proofs.Outcome
import SparqlRequest.Proofs.Pattern.Capture
import SparqlRequest.Proofs.Pattern.Language
import SparqlRequest.Proofs.Protocol.FormDecode
import SparqlRequest.Proofs.Protocol.Network
import SparqlRequest.Proofs.Protocol.Round
import SparqlRequest.Proofs.Query.Execution
import SparqlRequest.Proofs.Query.Kind
import SparqlRequest.Proofs.Query.Occurrences
import SparqlRequest.Proofs.Query.Order
import SparqlRequest.Proofs.Query.Placeholder
import SparqlRequest.Proofs.Query.Replacement
import SparqlRequest.Proofs.Registry.Enumeration
import SparqlRequest.Proofs.Registry.Preamble
import SparqlRequest.Proofs.Registry.ReadBack
import SparqlRequest.Proofs.Registry.Transparent
import SparqlRequest.Proofs.Registry.WellKnown
import SparqlRequest.Proofs.Registry.Writes
import SparqlRequest.Proofs.Session.Callback
import SparqlRequest.Proofs.Session.Control
import SparqlRequest.Proofs.Session.Delivery
import SparqlRequest.Proofs.Session.History
import SparqlRequest.Proofs.Statement.Clauses
import SparqlRequest.Proofs.Statement.LetterCase
import SparqlRequest.Proofs.Statement.Prologue
import SparqlRequest.Proofs.Statement.Stable
import SparqlRequest.Proofs.Term.Admitted
import SparqlRequest.Proofs.Term.Control
import SparqlRequest.Proofs.Term.Grammar
import SparqlRequest.Proofs.Term.Native
import SparqlRequest.Proofs.Term.Reading
import SparqlRequest.Proofs.Term.Spelling
import SparqlRequest.Proofs.Text.Order
import SparqlRequest.Proofs.Text.Split
import SparqlRequest.Proofs.Text.Utf8
import SparqlRequest.Proofs.Text.Word
import SparqlRequest.Protocol.Address
import SparqlRequest.Protocol.Form
import SparqlRequest.Protocol.Http
import SparqlRequest.Protocol.Library
import SparqlRequest.Protocol.Message
import SparqlRequest.Protocol.Network
import SparqlRequest.Protocol.Round
import SparqlRequest.Query.Basic
import SparqlRequest.Query.Placeholder
import SparqlRequest.Registry.Basic
import SparqlRequest.Registry.Inspect
import SparqlRequest.Registry.Preamble
import SparqlRequest.Registry.Registration
import SparqlRequest.Runtime
import SparqlRequest.Session
import SparqlRequest.Statement.Basic
import SparqlRequest.Statement.Kind
import SparqlRequest.Statement.Reply
import SparqlRequest.Term.Basic
import SparqlRequest.Term.Iri
import SparqlRequest.Term.IriSource
import SparqlRequest.Term.Literal
import SparqlRequest.Text.Basic
import SparqlRequest.Text.Blank
import SparqlRequest.Text.LetterCase
import SparqlRequest.Text.Quoted
import SparqlRequest.Text.Ranges
import SparqlRequest.Text.Utf8
import SparqlRequest.Text.Visible
import SparqlRequest.Text.Word
import SparqlRequest.Toml.Basic
import SparqlRequest.Toml.Quotation
import SparqlRequest.Toml.Reader
import SparqlRequest.Toml.Scalar
import SparqlRequest.Toml.Tree
import SparqlRequest.Vocabulary
