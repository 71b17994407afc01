import Sandbox2.Linux
import Sandbox2.Result
import Sandbox2.PidWaiter
import Sandbox2.Monitor.State
import Sandbox2.Monitor.Handlers
import Sandbox2.Monitor.Run
import Sandbox2.Monitor.Log
import Sandbox2.Monitor.HandlerProps
import Sandbox2.Monitor.Stops
import Sandbox2.Monitor.Sound
import Sandbox2.Monitor.RunInv
import Sandbox2.Monitor.Seccomp
import Sandbox2.Monitor.ExitPaths
import Sandbox2.Monitor.Attach
import Sandbox2.Monitor.Tracees
import Sandbox2.Monitor.Inspections
import Sandbox2.Monitor.Stuck
import Sandbox2.Monitor.Verdict
import Sandbox2.Monitor.RunVerdict
import Sandbox2.Monitor.Outcome
import Sandbox2.Monitor.Resumes
import Sandbox2.Unwind.Symbols
import Sandbox2.Unwind.Lookup
import Sandbox2.Unwind.Floor
import Sandbox2.Unwind.Frames
import Sandbox2.Unwind.Symbolize
import Sandbox2.Generator.IncludeGuard
import Sandbox2.Generator.Header
import Sandbox2.Generator.Function
import Sandbox2.Generator.Emitter
import Sandbox2.Generator.Output
