import AppLint.Analysis
import AppLint.Catalog
import AppLint.Completeness
import AppLint.Completeness.Report
import AppLint.Configuration
import AppLint.DeclaredRule
import AppLint.Discovery
import AppLint.Document
import AppLint.Document.Component
import AppLint.Document.Line
import AppLint.Document.Schema
import AppLint.Engine
import AppLint.Engine.Report
import AppLint.FileType
import AppLint.Finding
import AppLint.Finding.Reader
import AppLint.Glob
import AppLint.GlobSet
import AppLint.Json.Commented
import AppLint.Json.Cursor
import AppLint.Json.Decode
import AppLint.Json.Error
import AppLint.Json.Leaf
import AppLint.Json.Numeral
import AppLint.Json.Printer
import AppLint.Json.Reader
import AppLint.Json.Value
import AppLint.Keyed
import AppLint.Log
import AppLint.Manifest
import AppLint.Numeric.Binary64
import AppLint.Numeric.Extended
import AppLint.Numeric.Shortest
import AppLint.Project
import AppLint.Project.Reference
import AppLint.Proofs.AcceptedSettings
import AppLint.Proofs.AllowList
import AppLint.Proofs.Bookkeeping
import AppLint.Proofs.Catalog
import AppLint.Proofs.Comments
import AppLint.Proofs.ComponentOrder
import AppLint.Proofs.ConfigurationReading
import AppLint.Proofs.Coverage
import AppLint.Proofs.DataBindings
import AppLint.Proofs.DeclaredFindings
import AppLint.Proofs.DocumentSchema
import AppLint.Proofs.DocumentShape
import AppLint.Proofs.EndpointHost
import AppLint.Proofs.Except
import AppLint.Proofs.ExpressionNormalForm
import AppLint.Proofs.ExpressionReading
import AppLint.Proofs.FailedFiles
import AppLint.Proofs.FaultIsolation
import AppLint.Proofs.FieldLookup
import AppLint.Proofs.FileOrder
import AppLint.Proofs.FileSuffixes
import AppLint.Proofs.FindingOrder
import AppLint.Proofs.FirstWins
import AppLint.Proofs.FragmentUse
import AppLint.Proofs.Governance
import AppLint.Proofs.Interleaving
import AppLint.Proofs.IpLiterals
import AppLint.Proofs.JsonEquality
import AppLint.Proofs.JsonPath
import AppLint.Proofs.JsonStrings
import AppLint.Proofs.Keyed
import AppLint.Proofs.LineLookup
import AppLint.Proofs.LoadStep
import AppLint.Proofs.ManifestEntries
import AppLint.Proofs.Mentions
import AppLint.Proofs.NavigationTargets
import AppLint.Proofs.PartialView
import AppLint.Proofs.Presence
import AppLint.Proofs.Quoting
import AppLint.Proofs.Representation
import AppLint.Proofs.Rerun
import AppLint.Proofs.RuleContract
import AppLint.Proofs.RuleDefinitions
import AppLint.Proofs.RuleInputs
import AppLint.Proofs.RuleSettings
import AppLint.Proofs.Schedule
import AppLint.Proofs.Selection
import AppLint.Proofs.SettingsMonotone
import AppLint.Proofs.SiteNavigation
import AppLint.Proofs.SkippedChecks
import AppLint.Proofs.SkippedGroups
import AppLint.Proofs.StoredShape
import AppLint.Proofs.TemplateParts
import AppLint.Proofs.TemplateVariables
import AppLint.Proofs.TextCut
import AppLint.Proofs.TextPieces
import AppLint.Proofs.WithoutText
import AppLint.Regex
import AppLint.Regex.CharSet
import AppLint.Regex.Error
import AppLint.Regex.Meaning
import AppLint.Regex.Pattern
import AppLint.Regex.Property
import AppLint.Regex.Room
import AppLint.Regex.Tree
import AppLint.Regex.Tree.Class
import AppLint.Regex.Tree.Cursor
import AppLint.Regex.Tree.Escape
import AppLint.Regex.Tree.Reader
import AppLint.Rule
import AppLint.Rules
import AppLint.Rules.ComponentLimit
import AppLint.Rules.DataBinding
import AppLint.Rules.DebugStatement
import AppLint.Rules.ForbiddenId
import AppLint.Rules.FragmentReference
import AppLint.Rules.FragmentUnused
import AppLint.Rules.HardcodedSecret
import AppLint.Rules.InsecureEndpoint
import AppLint.Rules.PageTitle
import AppLint.Rules.SiteNavigation
import AppLint.Rules.UnknownVariable
import AppLint.Schema.Mismatch
import AppLint.Script
import AppLint.Script.Expression
import AppLint.Script.Markup
import AppLint.Script.Source
import AppLint.Script.Statement
import AppLint.Script.Token
import AppLint.Settings
import AppLint.Storage
import AppLint.Storage.Walk
import AppLint.Template
import AppLint.Template.Expression
import AppLint.Template.Reader
import AppLint.Text.Age
import AppLint.Text.Blank
import AppLint.Text.Case
import AppLint.Text.Case.Property
import AppLint.Text.Case.Runs
import AppLint.Text.Category
import AppLint.Text.Division
import AppLint.Text.Fold
import AppLint.Text.Quoted
import AppLint.Text.Ranges
import AppLint.Text.Search
import AppLint.Text.Trait
import AppLint.Text.Unprintable
import AppLint.Text.Word
import AppLint.Text.WritingSystem
import AppLint.Yaml.Cursor
import AppLint.Yaml.Decode
import AppLint.Yaml.Document
import AppLint.Yaml.Mark
import AppLint.Yaml.Node
import AppLint.Yaml.Scalar
import AppLint.Yaml.Token
import AppLint.Yaml.Token.Property
import AppLint.Yaml.Token.Scalar
import AppLint.Yaml.Token.Stream
import AppLint.Yaml.Value
