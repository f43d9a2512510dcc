import ProjectZero.Cap.Revocation
import ProjectZero.Ipc.Typing
import ProjectZero.Ipc.Revoked
import ProjectZero.Ipc.Unmapped
import ProjectZero.Task.Teardown
import ProjectZero.Ipc.Fifo
import ProjectZero.Ipc.Wakeups
import ProjectZero.Fs.Locks
import ProjectZero.Fs.Recovery
import ProjectZero.Fs.Completion
import ProjectZero.Fs.Listing
import ProjectZero.Fs.Capacity
import ProjectZero.Fs.Blocks
import ProjectZero.Mm.Handout
import ProjectZero.Mm.PartialMap
import ProjectZero.Libzero.Conservation
import ProjectZero.Libzero.Expiry
import ProjectZero.Libzero.Execution
import ProjectZero.Libzero.Feasibility
import ProjectZero.Libzero.Persistence
import ProjectZero.Net.Bindings
import ProjectZero.Net.Loopback
import ProjectZero.Net.Locking
import ProjectZero.Net.Wakeups
import ProjectZero.Net.Mediation
import ProjectZero.Net.Routes
import ProjectZero.Task.Join
import ProjectZero.Elf.Safety
import ProjectZero.Dev.Release
import ProjectZero.Workloadd.Accounting
import ProjectZero.Workloadd.Terminal
import ProjectZero.Workloadd.Addressing
import ProjectZero.Mm.UserRange
