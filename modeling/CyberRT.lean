import CyberRT.Framework.System
import CyberRT.Framework.Ring
import CyberRT.Timer.TimingWheel
import CyberRT.Timer.FireTime
import CyberRT.Base.BoundedQueue
import CyberRT.Base.BoundedQueueFifo
import CyberRT.Base.BoundedQueueFailure
import CyberRT.Croutine.CRoutine
import CyberRT.Framework.Bytes
import CyberRT.Framework.Tally
import CyberRT.Scheduler.ClassicContext
import CyberRT.Scheduler.ProcessorWakeUp
import CyberRT.Task.TaskManager
import CyberRT.Task.WakeUp
import CyberRT.Transport.MessageInfo
import CyberRT.Transport.Shm.Block
import CyberRT.Transport.Shm.BlockExclusion
import CyberRT.Framework.Parallel
import CyberRT.Transport.Shm.ReadGrant
import CyberRT.Transport.Shm.WriteGrant
import CyberRT.Framework.FileImage
import CyberRT.Framework.Wire
import CyberRT.Record.File.RecordCounters
import CyberRT.Record.File.RecordFileReader
import CyberRT.Record.RecordOrder
import CyberRT.Transport.Delivery
import CyberRT.Transport.DeliveryBlocks
import CyberRT.Transport.DeliveryOrder
import CyberRT.Transport.Shm.NotifierOrder
import CyberRT.Transport.Shm.NotifierProgress
import CyberRT.Data.DataVisitor
import CyberRT.Data.Fusion.AllLatest
import CyberRT.Croutine.ReaderWakeUp
import CyberRT.Scheduler.ClassicExclusion
import CyberRT.Scheduler.ChoreographyPlacement
import CyberRT.Scheduler.PoolNotice
import CyberRT.Timer.Occurrences
import CyberRT.Timer.PeriodicTimer
import CyberRT.Timer.StopTimer
import CyberRT.Timer.TaskOwners
import CyberRT.Framework.Extrema
import CyberRT.Record.File.CloseProgress
import CyberRT.Record.File.IndexPosition
import CyberRT.Record.File.TimeBounds
import CyberRT.Record.RecordWindow
import CyberRT.Record.RecordViewer
import CyberRT.Record.RecordMerge
import CyberRT.Record.RecordWriter
import CyberRT.Record.RecordSegments
import CyberRT.Timer.AddTaskRace
import CyberRT.Transport.ListenerHandler
import CyberRT.Transport.Dispatcher
import CyberRT.Logger.AsyncLogger
import CyberRT.Logger.LoggerBuffers
import CyberRT.Logger.LoggerFlush
import CyberRT.Transport.Shm.SegmentCounts
import CyberRT.Transport.Shm.ReferenceCount
import CyberRT.Base.AtomicRwLock
import CyberRT.Base.ReentrantRwLock
import CyberRT.Base.BlockingQueue
import CyberRT.Base.BlockingQueueWakeUp
import CyberRT.Task.TaskFutures
import CyberRT.Task.TaskLoss
import CyberRT.Framework.Chain
import CyberRT.Base.ObjectPool
import CyberRT.Base.ObjectPoolHolders
import CyberRT.Base.AtomicHashMapValues
import CyberRT.Io.PollerEpoll
import CyberRT.Io.PollHandlerWakeUp
import CyberRT.Framework.Buffer
import CyberRT.Message.FramedMessages
import CyberRT.Transport.MessageInfoHash
import CyberRT.Transport.ListenerCalls
import CyberRT.Transport.Shm.ShmMessage
import CyberRT.Timer.RearmDuration
import CyberRT.Framework.Loop
import CyberRT.Record.SectionProgress
import CyberRT.Base.UnboundedQueue
import CyberRT.Framework.Counted
import CyberRT.Base.UnboundedQueueNodes
import CyberRT.Base.QueueSizes
import CyberRT.Transport.Shm.SegmentFailures
import CyberRT.Framework.Getline
import CyberRT.Scheduler.ParseCpuset
import CyberRT.Base.ConcurrentHashMap
import CyberRT.Common.GlobalData
import CyberRT.Transport.HybridTransmitter
import CyberRT.Base.Signal
import CyberRT.Scheduler.NextRoutine
import CyberRT.Io.PollerTimeouts
import CyberRT.Io.PollerResponses
import CyberRT.Croutine.CallbackYield
import CyberRT.Io.BlockResponses
import CyberRT.Base.AtomicRwLockGuards
import CyberRT.Transport.ListenerReentrancy
import CyberRT.Common.TimeConversion
import CyberRT.Transport.Shm.WritableBlock
import CyberRT.Data.CacheBufferWords
import CyberRT.Framework.AddressSpace
import CyberRT.Framework.StackSwitch
import CyberRT.Croutine.SwapX86
import CyberRT.Croutine.SwapAarch64
import CyberRT.Croutine.RoutineContext
import CyberRT.Croutine.ContextSwitches
import CyberRT.Transport.HybridReceiver
import CyberRT.Transport.HybridChannel
import CyberRT.Croutine.DataPlane
import CyberRT.Croutine.DataPlaneDelivery
import CyberRT.Croutine.DataPlaneWakeUp
import CyberRT.Scheduler.ChoreographyExclusion
import CyberRT.Logger.LogFileRotation
import CyberRT.Logger.LogFileSizes
import CyberRT.Logger.LogFileMessages
import CyberRT.Init.Lifecycle
import CyberRT.Transport.Shm.ReadableInfo
import CyberRT.Transport.Multicast
import CyberRT.Transport.MulticastHeard
import CyberRT.Time.Rate
import CyberRT.Timer.TickTimes
import CyberRT.Timer.TickInTime
