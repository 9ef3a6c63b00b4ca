import Vibeio.Theory.Slab
import Vibeio.Theory.Machine
import Vibeio.Theory.Streak
import Vibeio.Core
import Vibeio.Timer.Wheel
import Vibeio.Timer.Placement
import Vibeio.Timer.Advance
import Vibeio.Timer.Ledger
import Vibeio.Timer.Clock
import Vibeio.Driver.Basic
import Vibeio.Driver.Uring
import Vibeio.Driver.UringSteps
import Vibeio.Driver.UringPoll
import Vibeio.Driver.Exchange
import Vibeio.Driver.Clients
import Vibeio.Driver.UringOperations
import Vibeio.Driver.Mio
import Vibeio.Driver.Iocp
import Vibeio.Driver.IocpOperations
import Vibeio.Driver.PollWaiters
import Vibeio.Driver.Waiters
import Vibeio.Executor.Model
import Vibeio.Executor.ReadyQueue
import Vibeio.Executor.Wakeup
import Vibeio.Executor.Starvation
import Vibeio.Driver.StalePolls
import Vibeio.Handle.Inner
import Vibeio.Handle.Owners
import Vibeio.Op.Custody
import Vibeio.Op.Descriptors
import Vibeio.Io.Buf
import Vibeio.Io.Copy
import Vibeio.Io.Bidirectional
import Vibeio.Io.Splice
import Vibeio.Io.Sendfile
import Vibeio.Fs.File
import Vibeio.Signal.Unix
import Vibeio.Util.AsyncWrap
import Vibeio.Time.Sleep
import Vibeio.Time.Interval
import Vibeio.Net.Readiness
import Vibeio.Net.UdpPoller
import Vibeio.Process.WaitPid
import Vibeio.Theory.Bytes
import Vibeio.Signal.Pipe
import Vibeio.Net.SocketAddr
import Vibeio.Fs.Write
import Vibeio.Fs.Exact
import Vibeio.Fs.Paths
import Vibeio.Timer.Nearest
import Vibeio.Driver.PendingFlag
import Vibeio.Util.WriteAll
import Vibeio.Process.Reaper
import Vibeio.Executor.StoreBuffers
import Vibeio.Fs.Timestamp
import Vibeio.Op.Staging
import Vibeio.Op.Requests
import Vibeio.Executor.JoinHandle
import Vibeio.Process.Cancel
import Vibeio.Fs.CreateDir
import Vibeio.Executor.MainQueue
import Vibeio.Theory.Amortized
import Vibeio.Executor.Delivery
import Vibeio.Executor.Turn
import Vibeio.Executor.Timers
import Vibeio.Time.Timeout
import Vibeio.Blocking.Handover
import Vibeio.Net.Connect
import Vibeio.Handle.Modes
import Vibeio.Time.Skip
import Vibeio.Fs.Open
import Vibeio.Executor.Current
import Vibeio.Process.ReaperLoops
import Vibeio.Process.Reapers
import Vibeio.Process.ChildrenKept
import Vibeio.Executor.Wakes
import Vibeio.Executor.Driven
import Vibeio.Driver.Served
import Vibeio.Driver.UringWakes
import Vibeio.Driver.IocpWakes
import Vibeio.Driver.EdgeTriggered
import Vibeio.Executor.Completions
import Vibeio.Executor.Readiness
