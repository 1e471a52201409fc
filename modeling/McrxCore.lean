import McrxCore.Platform.RawDelivery
import McrxCore.Lib.ParallelLoop
import McrxCore.Lib.SharedLoop
import McrxCore.Python.Receivers
import McrxCore.Python.RecvAsync
import McrxCore.Lib.Handles
import McrxCore.Ffi.Refinement
import McrxCore.Ffi.Calls
import McrxCore.Bindings.Views
import McrxCore.Bindings.Arguments
import McrxCore.Platform.FilterCorrect
import McrxCore.Raw.Shared.KernelLedger
import McrxCore.Raw.Shared.Delivery
import McrxCore.Raw.Shared.Queue
import McrxCore.Raw.Shared.PacketLedger
import McrxCore.Raw.Shared.Fairness
import McrxCore.Raw.Shared.Turns
import McrxCore.Ffi.Wakeup
import McrxCore.Ffi.Quiescence
import McrxCore.Ffi.Generations
import McrxCore.Ffi.Replacement
import McrxCore.Ffi.Poll
import McrxCore.Raw.Subscription
import McrxCore.Raw.Windows
import McrxCore.Platform.UdpReads
import McrxCore.Subscription
import McrxCore.Lib.Journal
import McrxCore.Lib.RoundRobin
import McrxCore.Lib.Utf8
import McrxCore.Lib.Vec
import McrxCore.Lib.Slice
import McrxCore.Lib.Align
import McrxCore.Platform.Trim
import McrxCore.Platform.Ethernet
import McrxCore.Platform.AppleFilter
import McrxCore.Platform.AppleBpf
import McrxCore.Platform.WindowsControl
import McrxCore.Roster
import McrxCore.Context
import McrxCore.Context.Refinement
import McrxCore.Roster.Fairness
import McrxCore.Roster.Invariant
import McrxCore.Context.Answers
import McrxCore.Context.Fairness
import McrxCore.Context.Blocking
import McrxCore.Context.Batches
import McrxCore.Context.Invariant
import McrxCore.Context.Deliveries
import McrxCore.TokioAdapter
import McrxCore.Jsonl
import McrxCore.Jsonl.Append
import McrxCore.Jsonl.SampleLog
import McrxCore.Lib.Lines
import McrxCore.Jsonl.Reader
import McrxCore.Jsonl.Writers
import McrxCore.Jsonl.WellFormed
import McrxCore.Jsonl.Format
import McrxCore.Roster.Blocking
import McrxCore.Lib.Sampler
import McrxCore.Jsonl.Table
import McrxCore.McrxRecv.Summaries
import McrxCore.AddrText
import McrxCore.Python.Asyncio
import McrxCore.Python.Reader
import McrxCore.Python.Reports
import McrxCore.RecvArgs
import McrxCore.Lib.ArgList
import McrxCore.Lib.ReadLoop
import McrxCore.Platform.Membership
import McrxCore.Platform.RawReceive
import McrxCore.AddrText.RoundTrip
import McrxCore.McrxRecv.Log
import McrxCore.Platform.LinuxCapture
import McrxCore.Platform.ControlMessages
import McrxCore.Platform.UdpWindows
import McrxCore.Lib.Words
import McrxCore.ProcSnapshot
