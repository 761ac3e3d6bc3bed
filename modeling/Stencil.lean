import Stencil.Command.Arguments
import Stencil.Command.Check
import Stencil.Command.Environment
import Stencil.Command.LogFilter
import Stencil.Command.Run
import Stencil.Decimal.Shortest
import Stencil.Diagnostic.Excerpt
import Stencil.Diagnostic.Picture
import Stencil.Diagnostic.Render
import Stencil.Diagnostic.Window
import Stencil.Digest.NameHash
import Stencil.Digest.Sha256
import Stencil.Expr.Basic
import Stencil.Expr.Modifier
import Stencil.Expr.Quoting
import Stencil.Expr.Resolve
import Stencil.Expr.Subscript
import Stencil.Json.Basic
import Stencil.Json.Printer
import Stencil.Json.Reader
import Stencil.Log
import Stencil.Main
import Stencil.Pattern.Basic
import Stencil.Pattern.CharSet
import Stencil.Pattern.Matcher
import Stencil.Pattern.Reader
import Stencil.Pattern.Search
import Stencil.Php.Emit
import Stencil.Php.Inline
import Stencil.Php.Literal
import Stencil.Program.Artifact
import Stencil.Program.Compile
import Stencil.Program.Instruction
import Stencil.Program.Json
import Stencil.Project.Basic
import Stencil.Project.Build
import Stencil.Project.Clean
import Stencil.Proofs.ArrayLiterals
import Stencil.Proofs.ArtifactNames
import Stencil.Proofs.ArtifactPaths
import Stencil.Proofs.Assignments
import Stencil.Proofs.AutoEscaping
import Stencil.Proofs.BlockSeams
import Stencil.Proofs.Blocks
import Stencil.Proofs.CacheCoherence
import Stencil.Proofs.CandidateGrammar
import Stencil.Proofs.CandidateStrings
import Stencil.Proofs.Candidates
import Stencil.Proofs.ChainPieces
import Stencil.Proofs.Checking
import Stencil.Proofs.Cleaning
import Stencil.Proofs.CodeMarkers
import Stencil.Proofs.Comments
import Stencil.Proofs.CompileScan
import Stencil.Proofs.CustomTags
import Stencil.Proofs.EmitScan
import Stencil.Proofs.EndTags
import Stencil.Proofs.EscapeOverlay
import Stencil.Proofs.EscapePolicy
import Stencil.Proofs.FailedCompiles
import Stencil.Proofs.Frames
import Stencil.Proofs.Handouts
import Stencil.Proofs.HostReading
import Stencil.Proofs.HostStrings
import Stencil.Proofs.Includes
import Stencil.Proofs.InertText
import Stencil.Proofs.JsonPrograms
import Stencil.Proofs.JsonText
import Stencil.Proofs.LeadingThreads
import Stencil.Proofs.LineEndings
import Stencil.Proofs.Locations
import Stencil.Proofs.LoopPlaceholders
import Stencil.Proofs.LoopReferences
import Stencil.Proofs.LoopSources
import Stencil.Proofs.ModifierChains
import Stencil.Proofs.ModifierScan
import Stencil.Proofs.Names
import Stencil.Proofs.Nesting
import Stencil.Proofs.Occurrences
import Stencil.Proofs.Octets
import Stencil.Proofs.Origins
import Stencil.Proofs.OutputPatterns
import Stencil.Proofs.Outputs
import Stencil.Proofs.PathReduction
import Stencil.Proofs.PathScan
import Stencil.Proofs.PlainText
import Stencil.Proofs.Positions
import Stencil.Proofs.QuotedArguments
import Stencil.Proofs.QuotedStrings
import Stencil.Proofs.RawCode
import Stencil.Proofs.References
import Stencil.Proofs.Regions
import Stencil.Proofs.Registrations
import Stencil.Proofs.Replacement
import Stencil.Proofs.ResolveScan
import Stencil.Proofs.Seams
import Stencil.Proofs.SettingsDigest
import Stencil.Proofs.Shapes
import Stencil.Proofs.SharedArtifacts
import Stencil.Proofs.ShortForms
import Stencil.Proofs.SideBySide
import Stencil.Proofs.Steps
import Stencil.Proofs.StringTags
import Stencil.Proofs.StringTracking
import Stencil.Proofs.SubscriptChains
import Stencil.Proofs.SubscriptMoves
import Stencil.Proofs.SubscriptScan
import Stencil.Proofs.SubscriptsSettle
import Stencil.Proofs.SyntaxErrors
import Stencil.Proofs.TagExtent
import Stencil.Proofs.TagOpenings
import Stencil.Proofs.Tiling
import Stencil.Proofs.TokenScan
import Stencil.Proofs.WrittenStrings
import Stencil.Proofs.XmlDeclarations
import Stencil.Settings.Basic
import Stencil.Settings.Layers
import Stencil.Settings.Record
import Stencil.Source.Position
import Stencil.Source.Span
import Stencil.Store.Basic
import Stencil.Store.Path
import Stencil.Tag.Custom
import Stencil.Tag.Kind
import Stencil.Tag.Shape
import Stencil.Template.Error
import Stencil.Template.LineEnding
import Stencil.Template.Path
import Stencil.Template.Token
import Stencil.Text.Blank
import Stencil.Text.CaseFold
import Stencil.Text.Category
import Stencil.Text.Letter
import Stencil.Text.Mark
import Stencil.Text.Printable
import Stencil.Text.Property
import Stencil.Text.Script
import Stencil.Text.Search
import Stencil.Text.Symbol
import Stencil.Text.Utf8
import Stencil.Text.Width
import Stencil.Text.WordCharacter
import Stencil.Toml.Moment
import Stencil.Toml.Number
import Stencil.Toml.Quoted
import Stencil.Toml.Reader
import Stencil.Toml.Value
