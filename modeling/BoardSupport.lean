import BoardSupport.Board.Exercise
import BoardSupport.Device.Bench
import BoardSupport.Startup.Rehearsal
import BoardSupport.Watchdog.Rehearsal
import BoardSupport.Proofs.Monitor.Lifecycle
import BoardSupport.Proofs.Monitor.Stopping
import BoardSupport.Proofs.Monitor.Restart
import BoardSupport.Proofs.Load.Window
import BoardSupport.Proofs.Board.Ticking
import BoardSupport.Proofs.Monitor.Publishing
import BoardSupport.Proofs.Board.RunTime
import BoardSupport.Proofs.Load.Tiling
import BoardSupport.Proofs.Monitor.Reading
import BoardSupport.Proofs.Monitor.Starting
import BoardSupport.Proofs.Monitor.Running
import BoardSupport.Proofs.Monitor.SamplingTask
import BoardSupport.Proofs.Device.Numbering
import BoardSupport.Proofs.Watchdog.Servicing
import BoardSupport.Proofs.Startup.Sequencing
import BoardSupport.Proofs.Monitor.Channel
import BoardSupport.Proofs.Monitor.SampleRequests
import BoardSupport.Proofs.Monitor.ValidLoads
import BoardSupport.Proofs.Watchdog.Requests
import BoardSupport.Proofs.Board.Occupancy
import BoardSupport.Proofs.Load.IdleShare
import BoardSupport.Proofs.Monitor.Commands
import BoardSupport.Proofs.Board.Booting
import BoardSupport.Proofs.Monitor.Finishing
import BoardSupport.Proofs.Monitor.FreshStart
import BoardSupport.Proofs.Board.Delaying
import BoardSupport.Proofs.Device.Resolving
import BoardSupport.Proofs.Watchdog.Carrying
import BoardSupport.Proofs.Board.SlotLedger
import BoardSupport.Proofs.Board.Handles
import BoardSupport.Proofs.Board.Timekeeping
import BoardSupport.Proofs.Load.Adjunction
