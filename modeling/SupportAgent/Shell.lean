import SupportAgent.Js

/-!
# The shell runner

After spawning the shell, `executeShellCommand` (`src/unnamed/part_002`, lines 160–227) arms a
timer and registers four handlers on the child: one for each output stream, one for `'close'` and
one for `'error'`. The handlers close over `stdout`, `stderr`, `outputSize` and the latch
`resolved`; whichever of the timer, `'close'` and `'error'` runs first settles the promise, and
the others find the latch set. Here the closure is a state, each handler a step, and a run the
events the child delivers, in any order.
-/

namespace SupportAgent

/-- A buffer of bytes. -/
abbrev Buffer := List UInt8

/-- An event the handlers of `executeShellCommand` receive. -/
inductive ProcEvent
  /-- A `'data'` event of `proc.stdout`. -/
  | stdout (data : Buffer)
  /-- A `'data'` event of `proc.stderr`. -/
  | stderr (data : Buffer)
  /-- The timer's callback. -/
  | timeout
  /-- `'close'`, with the exit code (`null` after a signal). -/
  | close (code : Option Int)
  /-- `'error'`, with the error's `code` and `message`. -/
  | error (code : Option String) (message : String)
  deriving DecidableEq, Repr

/-- The timer, `'close'` and `'error'` settle the promise; output does not. -/
def ProcEvent.settles : ProcEvent → Bool
  | .stdout _ | .stderr _ => false
  | _ => true

/-- What the handlers close over and never change. -/
structure ShellContext where
  /-- `MAX_OUTPUT_SIZE`. -/
  maxOutput : Nat
  /-- The timeout, as the timeout message prints it. -/
  timeoutText : String
  /-- `shellCmd`: `/bin/sh` or `cmd.exe`. -/
  shellCmd : String
  /-- `Buffer.prototype.toString()`. -/
  decode : Buffer → String

/-- The variables the handlers share, and the calls they made. -/
structure ShellState where
  resolved : Bool
  stdout : String
  stderr : String
  outputSize : Nat
  /-- `clearTimeout(timer)` was called. -/
  timerCleared : Bool
  /-- The values passed to `resolve`, in order. -/
  resolutions : List CommandResult
  /-- The signals sent with `proc.kill`, in order. -/
  kills : List String

namespace ShellState

/-- The state when the handlers are registered. -/
def init : ShellState := ⟨false, "", "", 0, false, [], []⟩

variable (c : ShellContext)

/-- The `'data'` handler of `proc.stdout`. -/
def onStdout (s : ShellState) (data : Buffer) : ShellState :=
  let outputSize := s.outputSize + data.length
  if outputSize ≤ c.maxOutput then { s with outputSize, stdout := s.stdout ++ c.decode data }
  else { s with outputSize }

/-- The `'data'` handler of `proc.stderr`. -/
def onStderr (s : ShellState) (data : Buffer) : ShellState :=
  let outputSize := s.outputSize + data.length
  if outputSize ≤ c.maxOutput then { s with outputSize, stderr := s.stderr ++ c.decode data }
  else { s with outputSize }

/-- The timer's callback. -/
def onTimeout (s : ShellState) : ShellState :=
  if !s.resolved then
    { s with resolved := true, kills := s.kills ++ ["SIGKILL"],
             resolutions := s.resolutions ++
               [.failure ("Command timed out after " ++ c.timeoutText ++ "ms")] }
  else s

/-- `${code}` of an exit code. -/
def codeText : Option Int → String
  | some n => toString n
  | none => "null"

/-- The value `'close'` settles the promise with, from the output captured and its size. -/
def closeResult (stdout stderr : String) (outputSize : Nat) (code : Option Int) : CommandResult :=
  let suffix := if c.maxOutput < outputSize then "\n... [output truncated]" else ""
  if code = some 0 then { success := true, data := some (.text (stdout ++ suffix)) }
  else
    { success := false, data := some (.text (stdout ++ suffix)),
      error := some (if stderr ≠ "" then stderr else "Process exited with code " ++ codeText code) }

/-- The `'close'` handler. -/
def onClose (s : ShellState) (code : Option Int) : ShellState :=
  let s := { s with timerCleared := true }
  if s.resolved then s
  else
    { s with resolved := true,
             resolutions := s.resolutions ++ [closeResult c s.stdout s.stderr s.outputSize code] }

/-- The message `'error'` settles the promise with. -/
def errorMessage (code : Option String) (message : String) : String :=
  if code = some "ENOENT" then "Command not found: " ++ c.shellCmd
  else if code = some "EACCES" then "Permission denied: " ++ c.shellCmd
  else message

/-- The `'error'` handler. -/
def onError (s : ShellState) (code : Option String) (message : String) : ShellState :=
  let s := { s with timerCleared := true }
  if s.resolved then s
  else
    { s with resolved := true,
             resolutions := s.resolutions ++ [.failure (errorMessage c code message)] }

/-- One event. The timer's callback is not delivered after `clearTimeout`. -/
def step (s : ShellState) : ProcEvent → ShellState
  | .stdout data => onStdout c s data
  | .stderr data => onStderr c s data
  | .timeout => if s.timerCleared then s else onTimeout c s
  | .close code => onClose c s code
  | .error code message => onError c s code message

/-- The events, in order. -/
def run (s : ShellState) (evs : List ProcEvent) : ShellState := evs.foldl (step c) s

@[simp] theorem run_nil (s : ShellState) : run c s [] = s := rfl

@[simp] theorem run_cons (s : ShellState) (e : ProcEvent) (evs : List ProcEvent) :
    run c s (e :: evs) = run c (step c s e) evs := rfl

theorem run_append (s : ShellState) (evs evs' : List ProcEvent) :
    run c s (evs ++ evs') = run c (run c s evs) evs' := List.foldl_append _ _ _ _

end ShellState

end SupportAgent
