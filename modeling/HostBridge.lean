import HostBridge.Bridge.Call
import HostBridge.Bridge.Chat
import HostBridge.Bridge.Dispatch
import HostBridge.Bridge.Exec
import HostBridge.Bridge.Foreign
import HostBridge.Bridge.Isolate
import HostBridge.Bridge.Lifecycle
import HostBridge.Bridge.Members
import HostBridge.Bridge.Objects
import HostBridge.Bridge.Program
import HostBridge.Bridge.State
import HostBridge.Config
import HostBridge.Descriptor
import HostBridge.Diagnostic
import HostBridge.Error
import HostBridge.Event
import HostBridge.Export.CType
import HostBridge.Export.Calls
import HostBridge.Export.JavaEvents
import HostBridge.Export.JavaSession
import HostBridge.Export.Session
import HostBridge.FileSystem
import HostBridge.Guard
import HostBridge.Guard.Session
import HostBridge.HandleTable
import HostBridge.HostValue
import HostBridge.Image
import HostBridge.Json
import HostBridge.Kind
import HostBridge.MemberCache
import HostBridge.Memory
import HostBridge.Path
import HostBridge.Process.Basic
import HostBridge.Process.JavaHost
import HostBridge.Process.JavaThread
import HostBridge.Process.JavaVm
import HostBridge.Process.Library
import HostBridge.Process.LibraryVm
import HostBridge.Process.System
import HostBridge.Scenario.Behaviour
import HostBridge.Scenario.Heap
import HostBridge.Scenario.InMemory
import HostBridge.Scenario.InProcess
import HostBridge.Scenario.Run
import HostBridge.Scenario.Script
import HostBridge.Scenario.Setting
import HostBridge.Scenario.Steps
import HostBridge.Scenario.ValueText
import HostBridge.Sha256
import HostBridge.Text.Classes
import HostBridge.Text.Hex
import HostBridge.Text.Quoted
import HostBridge.Text.Utf8
import HostBridge.Word
import HostBridge.Proofs.HostContract
import HostBridge.Proofs.Programs
import HostBridge.Proofs.Stance
import HostBridge.Proofs.VmDiscipline
import HostBridge.Proofs.SessionBlind
import HostBridge.Proofs.HostCalls
import HostBridge.Proofs.CallOrigins
import HostBridge.Proofs.FailedLaunch
import HostBridge.Proofs.FieldWrites
import HostBridge.Proofs.MutualExclusion
import HostBridge.Proofs.Lasting
import HostBridge.Proofs.GateStates
import HostBridge.Proofs.Dormancy
import HostBridge.Proofs.FreshHandles
import HostBridge.Proofs.ShutdownReset
import HostBridge.Proofs.JavaTidy
import HostBridge.Proofs.Alike
import HostBridge.Proofs.Resolution
import HostBridge.Proofs.Permits
import HostBridge.Proofs.HiddenCache
import HostBridge.Proofs.TwinCalls
import HostBridge.Proofs.FoundOnce
import HostBridge.Proofs.HostAsked
import HostBridge.Proofs.CacheTransparency
import HostBridge.Proofs.HandleHistory
import HostBridge.Proofs.ChatCallback
import HostBridge.Proofs.FixedLifecycle
import HostBridge.Proofs.EventDelivery
import HostBridge.Proofs.DescriptorGrammar
import HostBridge.Proofs.FailsClosed
import HostBridge.Proofs.NoHiddenHandles
import HostBridge.Proofs.ReferencesConserved
import HostBridge.Proofs.EntryStack
import HostBridge.Proofs.OperationRuns
import HostBridge.Proofs.WireForms
import HostBridge.Proofs.WireEcho
import HostBridge.Proofs.Tandem
import HostBridge.Proofs.TandemCalls
import HostBridge.Proofs.TandemPrograms
import HostBridge.Proofs.ArgumentBuffers
import HostBridge.Proofs.HeapHistory
import HostBridge.Proofs.ScenarioGrowth
import HostBridge.Proofs.InMemoryGrowth
import HostBridge.Proofs.InMemoryLookups
import HostBridge.Proofs.FieldRoundTrip
import HostBridge.Proofs.CacheCalls
import HostBridge.Proofs.DescriptorErrors
import HostBridge.Proofs.PinnedClasses
import HostBridge.Proofs.PinnedReferences
import HostBridge.Proofs.ServiceAddress
import HostBridge.Proofs.EventRoutes
import HostBridge.Proofs.SettingsLayers
import HostBridge.Proofs.ChatSequences
import HostBridge.Proofs.UnknownHandles
import HostBridge.Proofs.StringCodec
import HostBridge.Proofs.DealingsContract
import HostBridge.Proofs.IsolateEntries
import HostBridge.Proofs.LibraryRecord
import HostBridge.Proofs.LibraryCalls
import HostBridge.Proofs.CallsCarriedOut
