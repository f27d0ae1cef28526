import FederationConfig.Check
import FederationConfig.Choice
import FederationConfig.CommandLine.Arguments
import FederationConfig.CommandLine.Run
import FederationConfig.Dns
import FederationConfig.Duration.Basic
import FederationConfig.Duration.Reading
import FederationConfig.Duration.Rendering
import FederationConfig.Feature
import FederationConfig.Field.Encoding
import FederationConfig.Field.Path
import FederationConfig.Field.Violation
import FederationConfig.File.Path
import FederationConfig.Jitter
import FederationConfig.Json.Basic
import FederationConfig.Json.Number
import FederationConfig.Json.Place
import FederationConfig.Json.Reading
import FederationConfig.Json.Rendering
import FederationConfig.Json.Token
import FederationConfig.Loading.Basic
import FederationConfig.Loading.Error
import FederationConfig.Main
import FederationConfig.Manifest.Basic
import FederationConfig.Manifest.Decoding
import FederationConfig.Manifest.Format
import FederationConfig.Manifest.Place
import FederationConfig.Manifest.Reading
import FederationConfig.Resource.Basic
import FederationConfig.Resource.Record
import FederationConfig.Number.Binary64
import FederationConfig.Number.Layout
import FederationConfig.Number.Reading
import FederationConfig.Number.Shortest
import FederationConfig.OperatorConfig.Basic
import FederationConfig.OperatorConfig.Record
import FederationConfig.OperatorConfig.Rules
import FederationConfig.Record.Basic
import FederationConfig.Record.Codec
import FederationConfig.Record.Fault
import FederationConfig.Report
import FederationConfig.Resource.Rules
import FederationConfig.Text.Basic
import FederationConfig.Text.Concealed
import FederationConfig.Text.Escape
import FederationConfig.Text.Lowercase
import FederationConfig.Text.Utf8
import FederationConfig.Toml.Excerpt
import FederationConfig.Toml.Reading
import FederationConfig.Toml.Scalar
import FederationConfig.Toml.Table
import FederationConfig.Toml.Text
import FederationConfig.Tree.Basic
import FederationConfig.Tree.Equality
import FederationConfig.Tree.Wording
import FederationConfig.TypeConfig.Basic
import FederationConfig.TypeConfig.Record
import FederationConfig.TypeConfig.Rules
import FederationConfig.Yaml.Block
import FederationConfig.Yaml.Node
import FederationConfig.Yaml.Plain
import FederationConfig.Yaml.Property
import FederationConfig.Yaml.Quoted
import FederationConfig.Yaml.Reading
import FederationConfig.Yaml.Scalar
import FederationConfig.Yaml.Scanner
import FederationConfig.Yaml.Source
import FederationConfig.Yaml.Token
import FederationConfig.Proofs.OperatorConfig.Table
import FederationConfig.Proofs.OperatorConfig.Acceptance
import FederationConfig.Proofs.Resource.Table
import FederationConfig.Proofs.TypeConfig.Acceptance
import FederationConfig.Proofs.Location.Basic
import FederationConfig.Proofs.Location.Checks
import FederationConfig.Proofs.Location.Manifest
import FederationConfig.Proofs.Duration.Digits
import FederationConfig.Proofs.Duration.RoundTrip
import FederationConfig.Proofs.Choice
import FederationConfig.Proofs.Record.Codec
import FederationConfig.Proofs.Record.RoundTrip
import FederationConfig.Proofs.Resource.RoundTrip
import FederationConfig.Proofs.OperatorConfig.RoundTrip
import FederationConfig.Proofs.TypeConfig.RoundTrip
import FederationConfig.Proofs.Manifest.RoundTrip
import FederationConfig.Proofs.Loading.Stages
import FederationConfig.Proofs.Report.Verdict
import FederationConfig.Proofs.Report.Agreement
import FederationConfig.Proofs.Jitter
import FederationConfig.Proofs.CommandLine.Validation
import FederationConfig.Proofs.Duration.Grammar
import FederationConfig.Proofs.Duration.Word
import FederationConfig.Proofs.Text.Delimiter
import FederationConfig.Proofs.Text.Escape
import FederationConfig.Proofs.Field.Path
import FederationConfig.Proofs.Field.Legibility
import FederationConfig.Proofs.Manifest.Legibility
import FederationConfig.Proofs.Text.Visible
import FederationConfig.Proofs.Field.Visible
import FederationConfig.Proofs.Report.Lines
import FederationConfig.Proofs.TypeConfig.Naming
import FederationConfig.Proofs.Feature.Overrides
import FederationConfig.Proofs.OperatorConfig.CountedGates
import FederationConfig.Proofs.Feature.Resolution
import FederationConfig.Proofs.OperatorConfig.Duplicates
import FederationConfig.Proofs.Text.Basic
import FederationConfig.Proofs.Text.Lowercase
import FederationConfig.Proofs.Dns.Label
import FederationConfig.Proofs.Dns.Pattern
import FederationConfig.Proofs.Dns.Problems
import FederationConfig.Proofs.Resource.Components
import FederationConfig.Proofs.Resource.Kind
import FederationConfig.Proofs.Duration.Numeral
import FederationConfig.Proofs.Duration.Canonical
import FederationConfig.Proofs.Manifest.Stream
import FederationConfig.Proofs.Number.Arithmetic
import FederationConfig.Proofs.OperatorConfig.Timing
import FederationConfig.Proofs.Report.Stream
import FederationConfig.Proofs.Text.Quoted
import FederationConfig.Proofs.Manifest.Visible
import FederationConfig.Proofs.Text.Ending
import FederationConfig.Proofs.Field.Ending
import FederationConfig.Proofs.Report.Marks
import FederationConfig.Proofs.Json.Edit
import FederationConfig.Proofs.Record.Known
import FederationConfig.Proofs.Record.Positional
import FederationConfig.Proofs.Record.Layout
import FederationConfig.Proofs.Record.Layouts
import FederationConfig.Proofs.Manifest.Tolerance
import FederationConfig.Proofs.Field.Repetition
import FederationConfig.Proofs.Manifest.Repetition
import FederationConfig.Proofs.Manifest.Kind
import FederationConfig.Proofs.Record.Schema
import FederationConfig.Proofs.Record.Schemas
import FederationConfig.Proofs.Manifest.Arrangement
import FederationConfig.Proofs.Duration.Problem
import FederationConfig.Proofs.Field.Setting
import FederationConfig.Proofs.Feature.Registration
import FederationConfig.Proofs.Duration.Fraction
import FederationConfig.Proofs.Text.Octets
import FederationConfig.Proofs.Duration.Octets
import FederationConfig.Proofs.Field.Building
