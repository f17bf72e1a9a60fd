import Intercept.Blocker
import Intercept.Classifier
import Intercept.Command.Help
import Intercept.Command.Line
import Intercept.Command.Option
import Intercept.Command.Run
import Intercept.Command.Scan
import Intercept.Fault
import Intercept.Files.Access
import Intercept.Files.Path
import Intercept.Files.Tree
import Intercept.Host.Address
import Intercept.Host.Domain
import Intercept.Host.Locator
import Intercept.Host.Punycode
import Intercept.Hostnames
import Intercept.Json.Basic
import Intercept.Json.Decode
import Intercept.Json.Reader
import Intercept.Keyed
import Intercept.Log.Directive
import Intercept.Log.Settings
import Intercept.Main
import Intercept.Mocker
import Intercept.Pattern
import Intercept.Pattern.CharSet
import Intercept.Pattern.Expr
import Intercept.Pattern.Reader
import Intercept.Preset
import Intercept.Proofs.Blocker
import Intercept.Proofs.Classifier
import Intercept.Proofs.Command.Agreement
import Intercept.Proofs.Command.Spelling
import Intercept.Proofs.Fault
import Intercept.Proofs.Files.Change
import Intercept.Proofs.Files.Locate
import Intercept.Proofs.Files.Passes
import Intercept.Proofs.Files.Removal
import Intercept.Proofs.Headers
import Intercept.Proofs.Host.Address
import Intercept.Proofs.Host.Domain
import Intercept.Proofs.Host.Locator
import Intercept.Proofs.Host.Written
import Intercept.Proofs.Hostnames
import Intercept.Proofs.Hostnames.Building
import Intercept.Proofs.Hostnames.Entries
import Intercept.Proofs.Hostnames.Exact
import Intercept.Proofs.Hostnames.Line
import Intercept.Proofs.Hostnames.Wildcard
import Intercept.Proofs.Json.Roundtrip
import Intercept.Proofs.Keyed
import Intercept.Proofs.Mocker
import Intercept.Proofs.Pattern.Escaped
import Intercept.Proofs.Pattern.Meaning
import Intercept.Proofs.Pattern.Openings
import Intercept.Proofs.Preset
import Intercept.Proofs.Preset.Envelopes
import Intercept.Proofs.Preset.Unlisted
import Intercept.Proofs.Request
import Intercept.Proofs.Route.Entries
import Intercept.Proofs.Route.Interception
import Intercept.Proofs.Route.Kept
import Intercept.Proofs.Route.Lines
import Intercept.Proofs.Route.Merge
import Intercept.Proofs.Route.Named
import Intercept.Proofs.Route.Roundtrip
import Intercept.Proofs.Route.Scripts
import Intercept.Proofs.Route.Snippet
import Intercept.Proofs.Section.DirectFirst
import Intercept.Proofs.Section.Entries
import Intercept.Proofs.Section.FilterOrder
import Intercept.Proofs.Section.HeaderOrder
import Intercept.Proofs.Section.MockBody
import Intercept.Proofs.Section.MockParameters
import Intercept.Proofs.Section.RejectWord
import Intercept.Proofs.Section.Rejects
import Intercept.Proofs.Section.Scripts
import Intercept.Proofs.Section.Tokens
import Intercept.Proofs.Server
import Intercept.Proofs.Sgmodule.AppDirectory
import Intercept.Proofs.Sgmodule.AppModules
import Intercept.Proofs.Sgmodule.Apps
import Intercept.Proofs.Sgmodule.Confinement
import Intercept.Proofs.Sgmodule.Disabled
import Intercept.Proofs.Sgmodule.Document
import Intercept.Proofs.Sgmodule.Failure
import Intercept.Proofs.Sgmodule.Framing
import Intercept.Proofs.Sgmodule.Generator
import Intercept.Proofs.Sgmodule.LineSets
import Intercept.Proofs.Sgmodule.Lookalikes
import Intercept.Proofs.Sgmodule.OnlyRules
import Intercept.Proofs.Sgmodule.Translated
import Intercept.Proofs.Text.Blanks
import Intercept.Proofs.Text.Case
import Intercept.Proofs.Text.Ends
import Intercept.Proofs.Text.Parts
import Intercept.Proofs.Text.Payload
import Intercept.Proofs.Text.Pieces
import Intercept.Proofs.Text.Readers
import Intercept.Proofs.Text.Returns
import Intercept.Proofs.Text.Sorted
import Intercept.Proofs.Text.Utf8
import Intercept.Proofs.Text.Words
import Intercept.Proofs.Unicode.CaseFolding
import Intercept.Proofs.Unicode.CaseMapping
import Intercept.Proofs.Unicode.LowerFolding
import Intercept.Proofs.Unicode.Normal
import Intercept.Proofs.Unicode.Table
import Intercept.Proofs.Verdict
import Intercept.Request
import Intercept.Route.Action
import Intercept.Route.Snippet
import Intercept.Route.Table
import Intercept.Section.Filter
import Intercept.Section.Interception
import Intercept.Section.Lines
import Intercept.Section.LocalBody
import Intercept.Section.MockParameters
import Intercept.Server
import Intercept.Settings
import Intercept.Sgmodule.Apps
import Intercept.Sgmodule.Document
import Intercept.Sgmodule.Generator
import Intercept.Sgmodule.Stamp
import Intercept.Text.Basic
import Intercept.Text.Quoted
import Intercept.Text.Scan
import Intercept.Text.Utf8
import Intercept.Unicode.Age
import Intercept.Unicode.CaseFolding
import Intercept.Unicode.CaseMapping
import Intercept.Unicode.Category
import Intercept.Unicode.Direction
import Intercept.Unicode.HostMapping
import Intercept.Unicode.Listed
import Intercept.Unicode.Normal
import Intercept.Unicode.Property
import Intercept.Unicode.Script
import Intercept.Unicode.Segmentation
import Intercept.Unicode.Table
import Intercept.Verdict
