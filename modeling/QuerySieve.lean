import QuerySieve.Attempt
import QuerySieve.Block
import QuerySieve.Command.Reading
import QuerySieve.Command.Run
import QuerySieve.Command.Session
import QuerySieve.Command.Switch
import QuerySieve.Document
import QuerySieve.Evaluation
import QuerySieve.Failure
import QuerySieve.Journal
import QuerySieve.Json
import QuerySieve.Layers
import QuerySieve.Level
import QuerySieve.Listing
import QuerySieve.Loading
import QuerySieve.Log
import QuerySieve.Main
import QuerySieve.Name
import QuerySieve.Path
import QuerySieve.Pattern
import QuerySieve.Pattern.Complaint
import QuerySieve.Pattern.Cursor
import QuerySieve.Pattern.Matcher
import QuerySieve.Pattern.Parser
import QuerySieve.Pattern.Syntax
import QuerySieve.Query
import QuerySieve.Registry
import QuerySieve.Rule
import QuerySieve.Settings
import QuerySieve.Text.Basic
import QuerySieve.Text.CaseTable
import QuerySieve.Text.Likeness
import QuerySieve.Text.Lowercase
import QuerySieve.Text.Printable
import QuerySieve.Text.Quoted
import QuerySieve.Text.Style
import QuerySieve.Text.Utf8
import QuerySieve.Value
import QuerySieve.Words
import QuerySieve.World
import QuerySieve.Yaml.Binary
import QuerySieve.Yaml.Complaint
import QuerySieve.Yaml.Feed
import QuerySieve.Yaml.Form
import QuerySieve.Yaml.Mark
import QuerySieve.Yaml.Node
import QuerySieve.Yaml.Node.Reader
import QuerySieve.Yaml.Number
import QuerySieve.Yaml.Plain
import QuerySieve.Yaml.Timestamp
import QuerySieve.Yaml.Token
import QuerySieve.Yaml.Token.Block
import QuerySieve.Yaml.Token.Cursor
import QuerySieve.Yaml.Token.Lexer
import QuerySieve.Yaml.Token.Plain
import QuerySieve.Yaml.Token.Quoted
import QuerySieve.Yaml.Token.Tag
import QuerySieve.Yaml.Typed
import QuerySieve.Proofs.Gives
import QuerySieve.Proofs.Names
import QuerySieve.Proofs.Segments
import QuerySieve.Proofs.Blocks
import QuerySieve.Proofs.Decision
import QuerySieve.Proofs.Drafts
import QuerySieve.Proofs.Runs
import QuerySieve.Proofs.Registries
import QuerySieve.Proofs.Meaning
import QuerySieve.Proofs.Tables
import QuerySieve.Proofs.Spellings
import QuerySieve.Proofs.Boundaries
import QuerySieve.Proofs.Readings
import QuerySieve.Proofs.Shapes
import QuerySieve.Proofs.Documents
import QuerySieve.Proofs.Dictionaries
import QuerySieve.Proofs.Trees
import QuerySieve.Proofs.Loads
import QuerySieve.Proofs.Blanks
import QuerySieve.Proofs.Empties
import QuerySieve.Proofs.Evaluations
import QuerySieve.Proofs.Lowercase
import QuerySieve.Proofs.Lookups
import QuerySieve.Proofs.Enumerations
import QuerySieve.Proofs.Filtering
import QuerySieve.Proofs.Escapes
import QuerySieve.Proofs.Octets
import QuerySieve.Proofs.Arguments
import QuerySieve.Proofs.Rereading
import QuerySieve.Proofs.Operations
import QuerySieve.Proofs.Records
import QuerySieve.Proofs.Levels
import QuerySieve.Proofs.Faults
import QuerySieve.Proofs.Sessions
import QuerySieve.Proofs.Unread
import QuerySieve.Proofs.Tags
import QuerySieve.Proofs.Accounts
import QuerySieve.Proofs.Trails
import QuerySieve.Proofs.Layers
import QuerySieve.Proofs.Merging
import QuerySieve.Proofs.Sources
import QuerySieve.Proofs.Precedence
import QuerySieve.Proofs.Styling
import QuerySieve.Proofs.Printing
import QuerySieve.Proofs.Gathering
import QuerySieve.Proofs.Outputs
import QuerySieve.Proofs.Characters
import QuerySieve.Proofs.Loggers
import QuerySieve.Proofs.Verdicts
import QuerySieve.Proofs.Caches
import QuerySieve.Proofs.Outlets
import QuerySieve.Proofs.Traces
import QuerySieve.Proofs.Listings
import QuerySieve.Proofs.Clarity
