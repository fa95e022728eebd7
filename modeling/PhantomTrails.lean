import PhantomTrails.Foundation.Run
import PhantomTrails.Foundation.Store
import PhantomTrails.Foundation.Sv39
import PhantomTrails.Foundation.Mappings
import PhantomTrails.Foundation.Hart
import PhantomTrails.Foundation.TrailingRun
import PhantomTrails.Foundation.UserMode
import PhantomTrails.Foundation.Numerals
import PhantomTrails.Foundation.Json
import PhantomTrails.Foundation.Interpolation
import PhantomTrails.Foundation.Loops
import PhantomTrails.Foundation.Tables
import PhantomTrails.SimMem.Model
import PhantomTrails.SimMem.Tick
import PhantomTrails.SimMem.ReadChannel
import PhantomTrails.SimMem.WriteResponse
import PhantomTrails.SimMem.WriteData
import PhantomTrails.SimMem.Reset
import PhantomTrails.SimMem.Delivery
import PhantomTrails.SimMem.Timing
import PhantomTrails.FakeDRAM.Handshakes
import PhantomTrails.FakeDRAM.Ports
import PhantomTrails.ArchSim.Filters
import PhantomTrails.ArchSim.JumpFilter
import PhantomTrails.ArchSim.DataFilter
import PhantomTrails.ArchSim.Mem
import PhantomTrails.ArchSim.Model
import PhantomTrails.ArchSim.Reset
import PhantomTrails.ArchSim.Trace
import PhantomTrails.ArchSim.Inspection
import PhantomTrails.ArchSim.Devices
import PhantomTrails.ArchSim.DefaultRegion
import PhantomTrails.ArchSim.StuckFetch
import PhantomTrails.ArchSim.AllowedDevice
import PhantomTrails.ArchSim.DeviceMemory
import PhantomTrails.Detection.Flushes
import PhantomTrails.Detection.CrashInfo
import PhantomTrails.Detection.Loop
import PhantomTrails.Detection.Execution
import PhantomTrails.Detection.Record
import PhantomTrails.Detection.TaintSearch
import PhantomTrails.Detection.Termination
import PhantomTrails.Detection.Sinks
import PhantomTrails.Detection.RobReport
import PhantomTrails.Detection.CrashReport
import PhantomTrails.Detection.Tracking
import PhantomTrails.Detection.FlushBlame
import PhantomTrails.Detection.Observed
import PhantomTrails.Detection.Stuck
import PhantomTrails.Simulator.Model
import PhantomTrails.Simulator.TaintSetup
import PhantomTrails.Simulator.Loader
import PhantomTrails.Simulator.Reported
import PhantomTrails.Simulator.InitRegions
import PhantomTrails.Simulator.ICache
import PhantomTrails.Simulator.Bus
import PhantomTrails.Main.Model
import PhantomTrails.Main.Reset
import PhantomTrails.Main.Images
import PhantomTrails.Main.Mds
import PhantomTrails.Main.RawInstr
import PhantomTrails.Main.CodeRegions
import PhantomTrails.Init.PageTables
import PhantomTrails.Init.NoDataflow
import PhantomTrails.Init.Boot
import PhantomTrails.Results.Model
import PhantomTrails.Results.Iterations
import PhantomTrails.Results.Loaders
import PhantomTrails.Init.UserRun
import PhantomTrails.Init.MdsInit
import PhantomTrails.Main.Outcome
import PhantomTrails.Simulator.Budget
import PhantomTrails.Foundation.Formats
import PhantomTrails.Foundation.ChangeText
import PhantomTrails.Logging.Predictors
import PhantomTrails.Logging.Snapshots
import PhantomTrails.Logging.Callback
import PhantomTrails.Foundation.Shell
import PhantomTrails.Launch.Model
import PhantomTrails.Launch.Command
import PhantomTrails.Launch.Run
import PhantomTrails.Launch.Campaign
