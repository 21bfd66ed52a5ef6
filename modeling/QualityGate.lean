import QualityGate.Command.Script
import QualityGate.Guard.Activate
import QualityGate.Guard.Raise
import QualityGate.Guard.Scope
import QualityGate.Imports.Finder
import QualityGate.Imports.GuardFinder
import QualityGate.Imports.SourceGate
import QualityGate.Main
import QualityGate.Sample.Checks
import QualityGate.Sample.Scripts
import QualityGate.Scaffold.Complete
import QualityGate.Scaffold.ConfigDir
import QualityGate.Scaffold.Distribution
import QualityGate.Scaffold.Install
import QualityGate.Scaffold.Integrate
import QualityGate.Scaffold.NewProject
import QualityGate.Scaffold.Startup
import QualityGate.Scaffold.Wrapper
import QualityGate.Watch.Watcher
import QualityGate.Proofs.FinderRuns
import QualityGate.Proofs.GuardLayers
import QualityGate.Proofs.SettingsRoundTrip
import QualityGate.Proofs.SourceChecks
import QualityGate.Proofs.PathsChecked
import QualityGate.Proofs.WatcherDelays
import QualityGate.Proofs.PathsPassed
import QualityGate.Proofs.FinderOrigins
import QualityGate.Proofs.FinderQuestions
import QualityGate.Proofs.StrictLoads
import QualityGate.Proofs.RelaxedLimits
import QualityGate.Proofs.GateExecution
import QualityGate.Proofs.WatcherStatus
import QualityGate.Proofs.SettingsLoading
import QualityGate.Proofs.SettingsSaved
import QualityGate.Proofs.ParameterRule
import QualityGate.Proofs.NestingRule
import QualityGate.Proofs.ComplexityRule
import QualityGate.Proofs.WatcherHeads
import QualityGate.Proofs.ScriptArguments
import QualityGate.Proofs.TestDrafts
import QualityGate.Proofs.FunctionTexts
import QualityGate.Proofs.Integration
import QualityGate.Proofs.ScriptVerdicts
import QualityGate.Proofs.StartupFile
import QualityGate.Proofs.ConfigDirectory
import QualityGate.Proofs.ProjectSetup
import QualityGate.Proofs.AssignedNames
import QualityGate.Proofs.GuardRequests
import QualityGate.Proofs.LogIndependence
import QualityGate.Proofs.GuardFiles
import QualityGate.Proofs.InteractiveChoice
