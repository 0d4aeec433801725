import BotCanvas.Catalog.Reader
import BotCanvas.Main
import BotCanvas.Proofs.Advice.Agreement
import BotCanvas.Proofs.Advice.Warnings
import BotCanvas.Proofs.Archive.EntryNames
import BotCanvas.Proofs.Braced.Dispatch
import BotCanvas.Proofs.Braced.Redeclarations
import BotCanvas.Proofs.Braced.Simulation
import BotCanvas.Proofs.Canvas.Normal
import BotCanvas.Proofs.Cli.Endings
import BotCanvas.Proofs.Cli.Overrides
import BotCanvas.Proofs.Flow.Locality
import BotCanvas.Proofs.Flow.Ordering
import BotCanvas.Proofs.Flow.Paths
import BotCanvas.Proofs.Lint.Positions
import BotCanvas.Proofs.Name.Identifiers
import BotCanvas.Proofs.Offside.Declarations
import BotCanvas.Proofs.Offside.FunctionNames
import BotCanvas.Proofs.Offside.Handlers
import BotCanvas.Proofs.Offside.Program
import BotCanvas.Proofs.Offside.Registration
import BotCanvas.Proofs.Offside.Splices
import BotCanvas.Proofs.Offside.Tokens
import BotCanvas.Proofs.Program.Guards
import BotCanvas.Proofs.Program.Injection
import BotCanvas.Proofs.Program.Limits
import BotCanvas.Proofs.Program.LocalNames
import BotCanvas.Proofs.Program.Nesting
import BotCanvas.Proofs.Program.Plan
import BotCanvas.Proofs.Program.Quoting
import BotCanvas.Proofs.Program.Registries
import BotCanvas.Proofs.Program.Replies
import BotCanvas.Proofs.Program.Subcommands
import BotCanvas.Proofs.Program.Tally
import BotCanvas.Proofs.Program.Views
import BotCanvas.Proofs.Project.Checks
import BotCanvas.Proofs.Project.Credentials
import BotCanvas.Proofs.Project.Deliveries
import BotCanvas.Proofs.Project.Environment
import BotCanvas.Proofs.Project.Libraries
import BotCanvas.Proofs.Project.Packages
import BotCanvas.Proofs.Project.Renaming
import BotCanvas.Proofs.Project.Totality
