import ClusterLifecycle.ApiServer.Collection
import ClusterLifecycle.ApiServer.Diagnosis
import ClusterLifecycle.ApiServer.Endpoint
import ClusterLifecycle.ApiServer.Exchange
import ClusterLifecycle.ApiServer.Target
import ClusterLifecycle.Chart.Index
import ClusterLifecycle.Chart.Location
import ClusterLifecycle.Cluster.Access
import ClusterLifecycle.Cluster.Descriptor
import ClusterLifecycle.Cluster.Kubeconfig
import ClusterLifecycle.CommandLine.Execution
import ClusterLifecycle.CommandLine.Grammar
import ClusterLifecycle.CommandLine.Invocation
import ClusterLifecycle.CommandLine.Reading
import ClusterLifecycle.Config.Loading
import ClusterLifecycle.Config.Settings
import ClusterLifecycle.Decimal.Digits
import ClusterLifecycle.Decimal.Nearest
import ClusterLifecycle.Decimal.Shortest
import ClusterLifecycle.Definition.Published
import ClusterLifecycle.Definition.Schema
import ClusterLifecycle.Document
import ClusterLifecycle.Encoding.Armor
import ClusterLifecycle.Encoding.Base64
import ClusterLifecycle.Encoding.Deflate
import ClusterLifecycle.Encoding.Gzip
import ClusterLifecycle.Failure
import ClusterLifecycle.Installer.Command
import ClusterLifecycle.Json.Number
import ClusterLifecycle.Json.Printer
import ClusterLifecycle.Json.Source
import ClusterLifecycle.Json.Value
import ClusterLifecycle.Lifecycle
import ClusterLifecycle.Main
import ClusterLifecycle.Manifest
import ClusterLifecycle.Operator.Calls
import ClusterLifecycle.Operator.Effect
import ClusterLifecycle.Operator.Script
import ClusterLifecycle.Pass.Call
import ClusterLifecycle.Pass.Reconcile
import ClusterLifecycle.Pass.Stages
import ClusterLifecycle.Program
import ClusterLifecycle.Proofs.Chart.Resolution
import ClusterLifecycle.Proofs.Config.Agreement
import ClusterLifecycle.Proofs.Config.Layers
import ClusterLifecycle.Proofs.Config.Showing
import ClusterLifecycle.Proofs.Encoding.Base64
import ClusterLifecycle.Proofs.Encoding.Deflate
import ClusterLifecycle.Proofs.Encoding.Gzip
import ClusterLifecycle.Proofs.Encoding.PrefixCodes
import ClusterLifecycle.Proofs.Finalizers
import ClusterLifecycle.Proofs.Instants
import ClusterLifecycle.Proofs.Json.Grammar
import ClusterLifecycle.Proofs.Json.Numbers
import ClusterLifecycle.Proofs.Json.Reading
import ClusterLifecycle.Proofs.Json.Units
import ClusterLifecycle.Proofs.Manifest.Blanks
import ClusterLifecycle.Proofs.Manifest.Composition
import ClusterLifecycle.Proofs.Manifest.Rendering
import ClusterLifecycle.Proofs.Members
import ClusterLifecycle.Proofs.MergePatch
import ClusterLifecycle.Proofs.Numerals
import ClusterLifecycle.Proofs.Parts
import ClusterLifecycle.Proofs.Pass.Course
import ClusterLifecycle.Proofs.Pass.Credentials
import ClusterLifecycle.Proofs.Pass.Pace
import ClusterLifecycle.Proofs.Pass.Plan
import ClusterLifecycle.Proofs.Pass.Polling
import ClusterLifecycle.Proofs.Pass.Provision
import ClusterLifecycle.Proofs.Pass.Renewal
import ClusterLifecycle.Proofs.Pass.Stages
import ClusterLifecycle.Proofs.Pass.Succession
import ClusterLifecycle.Proofs.Pass.Trace
import ClusterLifecycle.Proofs.Pass.Unhindered
import ClusterLifecycle.Proofs.Pass.Verdict
import ClusterLifecycle.Proofs.Records
import ClusterLifecycle.Proofs.Release.Newest
import ClusterLifecycle.Proofs.Release.Storage
import ClusterLifecycle.Proofs.Resource.Expressible
import ClusterLifecycle.Proofs.Resource.Notations
import ClusterLifecycle.Proofs.Resource.Rewriting
import ClusterLifecycle.Proofs.Results
import ClusterLifecycle.Proofs.Setup.Attempts
import ClusterLifecycle.Proofs.Setup.Creation
import ClusterLifecycle.Proofs.Setup.Executions
import ClusterLifecycle.Proofs.Setup.Observation
import ClusterLifecycle.Proofs.Setup.Parameters
import ClusterLifecycle.Proofs.Setup.Report
import ClusterLifecycle.Proofs.Setup.Retries
import ClusterLifecycle.Proofs.Setup.Serving
import ClusterLifecycle.Proofs.Store.Address
import ClusterLifecycle.Proofs.Store.Contention
import ClusterLifecycle.Proofs.Store.Convergence
import ClusterLifecycle.Proofs.Store.Flags
import ClusterLifecycle.Proofs.Store.Releases
import ClusterLifecycle.Proofs.Store.Replacement
import ClusterLifecycle.Proofs.Store.Runs
import ClusterLifecycle.Proofs.Store.Serving
import ClusterLifecycle.Proofs.Store.Slot
import ClusterLifecycle.Proofs.Tables
import ClusterLifecycle.Proofs.Texts
import ClusterLifecycle.Proofs.Trace
import ClusterLifecycle.Proofs.Url.Hostnames
import ClusterLifecycle.Proofs.Url.Paths
import ClusterLifecycle.Proofs.Url.Reading
import ClusterLifecycle.Proofs.Utf8
import ClusterLifecycle.Proofs.Yaml.Meanings
import ClusterLifecycle.Proofs.Yaml.Places
import ClusterLifecycle.Proofs.Yaml.Printable
import ClusterLifecycle.Proofs.Yaml.QuotedScalars
import ClusterLifecycle.Proofs.Yaml.Scanning
import ClusterLifecycle.Proofs.Yaml.Sections
import ClusterLifecycle.Proofs.Yaml.Voids
import ClusterLifecycle.Release.Record
import ClusterLifecycle.Release.Revision
import ClusterLifecycle.Resource.Condition
import ClusterLifecycle.Resource.HostedCluster
import ClusterLifecycle.Resource.Instance
import ClusterLifecycle.Resource.Metadata
import ClusterLifecycle.Resource.PipelineRun
import ClusterLifecycle.Resource.Repository
import ClusterLifecycle.Resource.Secret
import ClusterLifecycle.Resource.Template
import ClusterLifecycle.Schedule
import ClusterLifecycle.Setup.Progress
import ClusterLifecycle.Setup.Task
import ClusterLifecycle.Surroundings
import ClusterLifecycle.Table
import ClusterLifecycle.Text.Blank
import ClusterLifecycle.Text.HexDigits
import ClusterLifecycle.Text.Lowercase
import ClusterLifecycle.Text.Quoted
import ClusterLifecycle.Text.Unprintable
import ClusterLifecycle.Text.Utf8
import ClusterLifecycle.Time.Instant
import ClusterLifecycle.Url.Domain
import ClusterLifecycle.Url.Escape
import ClusterLifecycle.Url.Form
import ClusterLifecycle.Url.Host
import ClusterLifecycle.Url.Path
import ClusterLifecycle.Url.Punycode
import ClusterLifecycle.Url.Reference
import ClusterLifecycle.World.Answer
import ClusterLifecycle.World.State
import ClusterLifecycle.Yaml.Node
import ClusterLifecycle.Yaml.Outline
import ClusterLifecycle.Yaml.Place
import ClusterLifecycle.Yaml.Printer
import ClusterLifecycle.Yaml.Reader
import ClusterLifecycle.Yaml.Scalar
import ClusterLifecycle.Yaml.ScalarText
import ClusterLifecycle.Yaml.Tag
import ClusterLifecycle.Yaml.Token
import ClusterLifecycle.Yaml.Tree
import ClusterLifecycle.Yaml.Value
