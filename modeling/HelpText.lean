import HelpText.Main
import HelpText.Proofs.Document.Positions
import HelpText.Proofs.CommandLine.Indifference
import HelpText.Proofs.Generation.Rerun
import HelpText.Proofs.Generation.Variables
import HelpText.Proofs.Generation.Reports
import HelpText.Proofs.GoSource.Reader
import HelpText.Proofs.Document.Modes
import HelpText.Proofs.Document.ControlLines
import HelpText.Proofs.Document.BlankLines
import HelpText.Proofs.Document.Name
import HelpText.Proofs.Toml.Keys
import HelpText.Proofs.Settings.Loading
import HelpText.Proofs.Settings.Precedence
import HelpText.Proofs.Settings.Interruption
import HelpText.Proofs.Settings.Overriding
import HelpText.Proofs.CommandLine.Refusal
import HelpText.Proofs.FileSystem.Relisting
import HelpText.Proofs.Generation.ListingOrder
import HelpText.Proofs.Json.Reader
import HelpText.Proofs.Json.RoundTrip
import HelpText.Proofs.Json.Ascii
import HelpText.Proofs.Log.Line
import HelpText.Proofs.Log.Session
import HelpText.Proofs.Log.Appending
import HelpText.Proofs.FileSystem.NormalPath
import HelpText.Proofs.FileSystem.Ways
import HelpText.Proofs.Log.Shelf
import HelpText.Proofs.Log.Shifts
import HelpText.Proofs.Log.Renewal
import HelpText.Proofs.Log.Suffix
import HelpText.Proofs.FileSystem.NewEntry
import HelpText.Proofs.Generation.Bystander
import HelpText.Proofs.Generation.Steps
import HelpText.Proofs.Log.Endurance
import HelpText.Proofs.CommandLine.Effects
import HelpText.Proofs.Settings.Remerging
import HelpText.Proofs.Settings.Reordering
import HelpText.Proofs.Generation.Discovery
import HelpText.Proofs.Generation.Nameless
import HelpText.Proofs.Settings.EitherWay
import HelpText.Proofs.Settings.OutputName
import HelpText.Proofs.GoSource.PackageName
import HelpText.Proofs.GoSource.Spelling
import HelpText.Proofs.Generation.Written
import HelpText.Proofs.Generation.Lossless
import HelpText.Proofs.Generation.Grouping
import HelpText.Proofs.Text.Terminators
import HelpText.Proofs.Json.Numbers
import HelpText.Proofs.Json.Refusal
import HelpText.Proofs.Log.Conformance
import HelpText.Proofs.CommandLine.Options
import HelpText.Proofs.Generation.Unfinished
