import PollDancer.Library.Machine
import PollDancer.Watcher
import PollDancer.Epoll.Kernel
import PollDancer.Epoll.Backend
import PollDancer.Epoll.World
import PollDancer.Epoll.Ownership
import PollDancer.Epoll.Teardown
import PollDancer.Epoll.Atomicity
import PollDancer.LoopTeardown
import PollDancer.Epoll.Timer
import PollDancer.Epoll.Agreement
import PollDancer.Kqueue.Backend
import PollDancer.Dispatch
import PollDancer.LoopRun
import PollDancer.StopWakeup
import PollDancer.Iocp.Backend
import PollDancer.Iocp.Loop
import PollDancer.Iocp.Lifetime
import PollDancer.Iocp.SingleRead
import PollDancer.Iocp.CrossThread
import PollDancer.Iocp.CrossTeardown
import PollDancer.Iocp.Granularity
import PollDancer.Kqueue.Ownership
import PollDancer.Kqueue.Update
import PollDancer.Iocp.Ownership
import PollDancer.Iocp.PendingFlag
import PollDancer.Iocp.ReadInterest
import PollDancer.Iocp.Teardown
import PollDancer.Iocp.ReadStream
import PollDancer.Iocp.CrossRegister
import PollDancer.Iocp.DrainSync
import PollDancer.Iocp.Timer
import PollDancer.Iocp.TimerTeardown
import PollDancer.Library.Alarm
import PollDancer.Kqueue.Timer
import PollDancer.TimerLoop
import PollDancer.Kqueue.TimerEvents
import PollDancer.Epoll.TimerEvents
import PollDancer.Iocp.TimerEvents
import PollDancer.TimerStop
import PollDancer.DefaultLoop
import PollDancer.Kqueue.Filters
import PollDancer.Kqueue.Refusal
import PollDancer.Kqueue.Leftover
import PollDancer.Epoll.Recycled
import PollDancer.UpdateFailure
import PollDancer.Iocp.Association
import PollDancer.Restart
import PollDancer.IdleWait
import PollDancer.Kqueue.TimerArmed
import PollDancer.Kqueue.TimerFilters
import PollDancer.Epoll.TimerArmed
import PollDancer.Iocp.TimerArmed
import PollDancer.TimerArmed
import PollDancer.Iocp.WriteDemux
import PollDancer.Iocp.Cancel
import PollDancer.Iocp.ReadMask
import PollDancer.Library.Block
import PollDancer.WatcherArray
import PollDancer.Iocp.DrainRead
import PollDancer.Iocp.TimerCalls
import PollDancer.Epoll.TimerFrame
import PollDancer.Epoll.Members
import PollDancer.TimerValues
import PollDancer.TimerFailure
import PollDancer.Kqueue.Schedule
import PollDancer.Iocp.Dangling
import PollDancer.Iocp.DrainCallback
import PollDancer.Library.Refinement
import PollDancer.Readiness
import PollDancer.BackendAgreement
import PollDancer.Delivery
import PollDancer.Epoll.Delivery
import PollDancer.Kqueue.Delivery
import PollDancer.Program
import PollDancer.Library.Mutex
import PollDancer.LoopCreate
import PollDancer.LoopReferences
import PollDancer.Library.Fairness
import PollDancer.Library.Waker
import PollDancer.LoopResources
import PollDancer.Epoll.Descriptors
import PollDancer.Iocp.TimerResources
