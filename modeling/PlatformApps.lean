import PlatformApps.Api.Collection
import PlatformApps.Api.Exchange
import PlatformApps.Api.Objects
import PlatformApps.Api.Sources
import PlatformApps.Api.Target
import PlatformApps.Artifacts
import PlatformApps.Backoff
import PlatformApps.Binary64
import PlatformApps.Binary64.Rough
import PlatformApps.Catalog.Charts
import PlatformApps.Catalog.Index
import PlatformApps.ClusterSpace
import PlatformApps.CommandLine
import PlatformApps.CommandLine.Argument
import PlatformApps.Controller
import PlatformApps.Convergence
import PlatformApps.Dialogue
import PlatformApps.Endpoints
import PlatformApps.Failure
import PlatformApps.Finalizer
import PlatformApps.Json.Basic
import PlatformApps.Json.MergePatch
import PlatformApps.Json.Numeral
import PlatformApps.Json.Reader
import PlatformApps.Json.Record
import PlatformApps.Json.Shape
import PlatformApps.Json.Text
import PlatformApps.Json.Written
import PlatformApps.Leadership
import PlatformApps.Main
import PlatformApps.Manifest
import PlatformApps.Metrics
import PlatformApps.Naming
import PlatformApps.Network
import PlatformApps.Operator
import PlatformApps.Outside
import PlatformApps.Proofs.Apply.Additions
import PlatformApps.Proofs.Apply.Repeat
import PlatformApps.Proofs.Apply.Settled
import PlatformApps.Proofs.Artifacts
import PlatformApps.Proofs.Artifacts.AllOrNothing
import PlatformApps.Proofs.Artifacts.Remake
import PlatformApps.Proofs.Backoff
import PlatformApps.Proofs.Cleanup.Finalizer
import PlatformApps.Proofs.Cleanup.Leftovers
import PlatformApps.Proofs.Cleanup.Stages
import PlatformApps.Proofs.Cleanup.Undo
import PlatformApps.Proofs.Convergence
import PlatformApps.Proofs.Convergence.Exact
import PlatformApps.Proofs.Dialogue
import PlatformApps.Proofs.Election
import PlatformApps.Proofs.Election.Orderly
import PlatformApps.Proofs.Election.Overlap
import PlatformApps.Proofs.Json.MergePatch
import PlatformApps.Proofs.Json.Record
import PlatformApps.Proofs.Json.Sameness
import PlatformApps.Proofs.Lease
import PlatformApps.Proofs.Manifest
import PlatformApps.Proofs.Manifest.Overrides
import PlatformApps.Proofs.Manifest.Partition
import PlatformApps.Proofs.Operator
import PlatformApps.Proofs.Resource.App
import PlatformApps.Proofs.Store.Apps
import PlatformApps.Proofs.Store.Calls
import PlatformApps.Proofs.Store.Patch
import PlatformApps.Proofs.Store.Removal
import PlatformApps.Proofs.Store.Writes
import PlatformApps.Proofs.Surroundings
import PlatformApps.Proofs.Table
import PlatformApps.Proofs.Teardown.Asked
import PlatformApps.Proofs.Teardown.Namesake
import PlatformApps.Proofs.Teardown.Ownership
import PlatformApps.Proofs.Teardown.Progress
import PlatformApps.Proofs.Teardown.Reentry
import PlatformApps.Proofs.Teardown.Requests
import PlatformApps.Proofs.Teardown.Run
import PlatformApps.Proofs.Teardown.Unheld
import PlatformApps.Proofs.Timestamp
import PlatformApps.Proofs.VersionLabels
import PlatformApps.Provider
import PlatformApps.Reconcile
import PlatformApps.ReleaseLookup
import PlatformApps.Resource.App
import PlatformApps.Resource.Catalog
import PlatformApps.Resource.Cluster
import PlatformApps.Resource.Core
import PlatformApps.Resource.Definition
import PlatformApps.Resource.Deployment
import PlatformApps.Resource.Metadata
import PlatformApps.Resource.Pod.Container
import PlatformApps.Resource.Pod.Template
import PlatformApps.Resource.Pod.Volume
import PlatformApps.Resource.Release
import PlatformApps.Resource.Schema
import PlatformApps.Selector
import PlatformApps.Settings
import PlatformApps.Store.Call
import PlatformApps.Store.Fault
import PlatformApps.Store.Memory
import PlatformApps.Sweep
import PlatformApps.Table
import PlatformApps.Teardown
import PlatformApps.Text.Base64
import PlatformApps.Text.Blank
import PlatformApps.Text.Extending
import PlatformApps.Text.FormEncoded
import PlatformApps.Text.Printable
import PlatformApps.Text.Quoted
import PlatformApps.Text.Utf8
import PlatformApps.Timestamp
import PlatformApps.Trial
import PlatformApps.Values.Agent
import PlatformApps.Values.Basic
import PlatformApps.Values.Cluster
import PlatformApps.Values.Secrets
import PlatformApps.VersionLabels
import PlatformApps.World
import PlatformApps.Yaml.Document
import PlatformApps.Yaml.Node
import PlatformApps.Yaml.Scalar
import PlatformApps.Yaml.Spot
import PlatformApps.Yaml.Style
import PlatformApps.Yaml.Token
import PlatformApps.Yaml.Tokens
import PlatformApps.Yaml.Word
import PlatformApps.Yaml.Writer
import PlatformApps.Proofs.Resource.Metadata
import PlatformApps.Proofs.Convergence.Framed
import PlatformApps.Proofs.Convergence.WriteBack
import PlatformApps.Proofs.Apply.Confined
import PlatformApps.Proofs.Apply.Unresolved
import PlatformApps.Proofs.Failures
import PlatformApps.Proofs.Teardown.SecondTier
import PlatformApps.Proofs.Apply.References
import PlatformApps.Proofs.Convergence.Repair
import PlatformApps.Proofs.Json.Difference
import PlatformApps.Proofs.Text
import PlatformApps.Proofs.Catalog.Index
import PlatformApps.Proofs.Network
import PlatformApps.Proofs.Sweep
import PlatformApps.Proofs.Catalog.Search
import PlatformApps.Proofs.Catalog.Session
import PlatformApps.Proofs.Controller
import PlatformApps.Proofs.Backoff.Course
import PlatformApps.Proofs.Backoff.Budget
import PlatformApps.Proofs.Apply.Versions
import PlatformApps.Proofs.Provider
import PlatformApps.Proofs.Cleanup.Gauges
import PlatformApps.Proofs.Json.Canonical
import PlatformApps.Proofs.Resource.Stated
import PlatformApps.Proofs.Api.Server
import PlatformApps.Proofs.Api.FinalizerRemoval
import PlatformApps.Proofs.Resource.Cluster
import PlatformApps.Proofs.Resource.Release
import PlatformApps.Proofs.Values
import PlatformApps.Proofs.Encoding
import PlatformApps.Proofs.Selector
import PlatformApps.Proofs.Api.Listing
