import Minimize.Benchmark.Evaluate
import Minimize.Checkpoint.Directory
import Minimize.Checkpoint.Memory
import Minimize.Journal
import Minimize.Notebook
import Minimize.Observer.Capture
import Minimize.Observer.Console
import Minimize.Observer.JsonLines
import Minimize.Observer.Logging
import Minimize.Proofs.Abort
import Minimize.Proofs.Accord
import Minimize.Proofs.Appended
import Minimize.Proofs.Best
import Minimize.Proofs.Bound
import Minimize.Proofs.Echo
import Minimize.Proofs.Ending
import Minimize.Proofs.Finality
import Minimize.Proofs.Halt
import Minimize.Proofs.Hearing
import Minimize.Proofs.Independence
import Minimize.Proofs.Keys
import Minimize.Proofs.Late
import Minimize.Proofs.Layers
import Minimize.Proofs.Lines
import Minimize.Proofs.Meddling
import Minimize.Proofs.Naming
import Minimize.Proofs.Orders
import Minimize.Proofs.Overlay
import Minimize.Proofs.Schedule
import Minimize.Proofs.Sight
import Minimize.Proofs.Slopes
import Minimize.Proofs.Stopping
import Minimize.Proofs.Tally
import Minimize.Proofs.Tightening
import Minimize.Proofs.Torn
import Minimize.Proofs.Twins
import Minimize.Proofs.Unplaced
import Minimize.Proofs.Valley
import Minimize.Sample.Function
import Minimize.Sample.Observer
import Minimize.Sample.Script
import Minimize.Session
import Minimize.Termination.Interrupt
import Minimize.Proofs.Amendments
import Minimize.Proofs.Arrangement
import Minimize.Proofs.Lossless
import Minimize.Proofs.Report
import Minimize.Proofs.Swarm
import Minimize.Proofs.Budget
