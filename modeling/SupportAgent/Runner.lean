import SupportAgent.Js

/-!
# The agent runner

`startProjectAgent` (`src/src/i18n.ts`, lines 125–231) registers the agent, then runs two
intervals: one sends a heartbeat, the other starts a `pollCommands` cycle unless one is in
progress (the flag `processing`). Every call on the API, and `executeCommand`, is awaited, and
while one is pending the other callbacks run. JavaScript runs a callback up to its next `await`
without interruption, so the agent is a state machine whose inputs are the timers' ticks, the
calls of `stop`, and the settling, with a value or an error, of one pending await; each input
runs the code up to the next `await`.

The state holds the closure's variables (`heartbeatTimer`, `pollTimer`, `processing`), whether each
interval is still armed, the heartbeats awaited, and for each poll cycle past its check of
`processing` the `await` it stands at. The calls made on the API and to `executeCommand` are
recorded in order.
-/

namespace SupportAgent

namespace Runner

/-- An entry of `getPendingCommands`. -/
structure CommandSummary where
  commandId : String
  type : String
  deriving DecidableEq, Repr

/-- What `getCommand` returns. -/
structure CommandDetail where
  type : String
  payload : Payload

/-- A call on the API client, or of `executeCommand`. -/
inductive Call
  | register
  | heartbeat
  | getPendingCommands
  | getCommand (commandId : String)
  | executeCommand (type : String) (payload : Payload)
  | submitResult (commandId : String) (result : CommandResult)

/-- The `await` a poll cycle stands at, with the command the loop is at and those after it. -/
inductive PollFrame
  /-- `await client.getPendingCommands()`. -/
  | pending
  /-- `await client.getCommand(cmd.commandId)`. -/
  | command (cmd : CommandSummary) (rest : List CommandSummary)
  /-- `await executeCommand(detail.type, detail.payload)`. -/
  | execute (cmd : CommandSummary) (rest : List CommandSummary)
  /-- `await client.submitResult(cmd.commandId, result)`. -/
  | submit (cmd : CommandSummary) (rest : List CommandSummary)
  /-- `await client.submitResult(cmd.commandId, { success: false, error })`, in the handler of an
  error on the command. -/
  | errorSubmit (cmd : CommandSummary) (rest : List CommandSummary)
  deriving DecidableEq, Repr

/-- Where `registerAndStart` is. -/
inductive Registration
  /-- `await client.register(…)`. -/
  | registering
  | registered
  /-- Returned from the handler of a failed registration. -/
  | failed
  deriving DecidableEq, Repr

/-- The state of one agent. -/
structure Agent where
  registration : Registration
  /-- `heartbeatTimer !== null`. -/
  heartbeatTimer : Bool
  /-- `pollTimer !== null`. -/
  pollTimer : Bool
  /-- The heartbeat interval exists and was not cleared. -/
  heartbeatArmed : Bool
  /-- The poll interval exists and was not cleared. -/
  pollArmed : Bool
  processing : Bool
  /-- The heartbeats sent and not settled. -/
  heartbeats : Nat
  /-- The poll cycles past their check of `processing` and not finished. -/
  cycles : List PollFrame
  /-- The calls made, in order. -/
  calls : List Call

/-- What the agent receives. -/
inductive Input
  /-- `client.register(…)` settles, successfully or not. -/
  | registerSettled (ok : Bool)
  /-- A call of the returned `stop`. -/
  | stop
  /-- A tick of the heartbeat interval. -/
  | heartbeatTick
  /-- A tick of the poll interval. -/
  | pollTick
  /-- A heartbeat sent settles (`sendHeartbeat` ignores how). -/
  | heartbeatSettled
  /-- `getPendingCommands` settles for the poll cycle at index `i`. -/
  | pendingSettled (i : Nat) (r : Except String (List CommandSummary))
  /-- `getCommand` settles for the poll cycle at index `i`. -/
  | commandSettled (i : Nat) (r : Except String CommandDetail)
  /-- `executeCommand` settles for the poll cycle at index `i`. -/
  | executeSettled (i : Nat) (r : Except String CommandResult)
  /-- A `submitResult` settles for the poll cycle at index `i`. -/
  | submitSettled (i : Nat) (r : Except String Unit)

namespace Agent

/-- After `startProjectAgent` returns: `registerAndStart` waits on `register`. -/
def init : Agent := ⟨.registering, false, false, false, false, false, 0, [], [.register]⟩

/-- `sendHeartbeat()`, up to its `await`. -/
def sendHeartbeat (s : Agent) : Agent :=
  { s with heartbeats := s.heartbeats + 1, calls := s.calls ++ [.heartbeat] }

/-- `pollCommands()`, up to its first `await`: nothing while a cycle is in progress. -/
def pollCommands (s : Agent) : Agent :=
  if s.processing then s
  else { s with processing := true, cycles := s.cycles ++ [.pending],
                calls := s.calls ++ [.getPendingCommands] }

/-- The loop of a poll cycle goes to its next command: it calls `getCommand` for it and waits,
or it leaves the loop and the cycle ends. -/
def nextCommand : List CommandSummary → Option PollFrame × List Call
  | [] => (none, [])
  | cmd :: rest => (some (.command cmd rest), [.getCommand cmd.commandId])

/-- The handler of an error on a command: it submits the failure under the command's id. -/
def catchError (cmd : CommandSummary) (rest : List CommandSummary) (message : String) :
    Option PollFrame × List Call :=
  (some (.errorSubmit cmd rest), [.submitResult cmd.commandId (.failure message)])

/-- `getPendingCommands` settles: the loop starts, or the outer handler catches the error. -/
def onPending (r : Except String (List CommandSummary)) :
    PollFrame → Option (Option PollFrame × List Call)
  | .pending =>
    some (match r with
      | .ok pending => nextCommand pending
      | .error _ => (none, []))
  | _ => none

/-- `getCommand` settles: the command is executed, or its failure submitted. -/
def onCommand (r : Except String CommandDetail) :
    PollFrame → Option (Option PollFrame × List Call)
  | .command cmd rest =>
    some (match r with
      | .ok detail => (some (.execute cmd rest), [.executeCommand detail.type detail.payload])
      | .error message => catchError cmd rest message)
  | _ => none

/-- `executeCommand` settles: its result is submitted, or the failure. -/
def onExecute (r : Except String CommandResult) :
    PollFrame → Option (Option PollFrame × List Call)
  | .execute cmd rest =>
    some (match r with
      | .ok result => (some (.submit cmd rest), [.submitResult cmd.commandId result])
      | .error message => catchError cmd rest message)
  | _ => none

/-- A `submitResult` settles: the loop goes on, unless the first submission failed, whose
failure is then submitted. -/
def onSubmit (r : Except String Unit) : PollFrame → Option (Option PollFrame × List Call)
  | .submit cmd rest =>
    some (match r with
      | .ok () => nextCommand rest
      | .error message => catchError cmd rest message)
  | .errorSubmit _ rest => some (nextCommand rest)
  | _ => none

/-- The cycle at index `i` goes on from its `await`: `resume` gives the next `await` (`none` when
the cycle leaves through `finally`, which clears `processing`) and the calls made on the way. An
input for an `await` the cycle does not stand at changes nothing. -/
def settle (s : Agent) (i : Nat) (resume : PollFrame → Option (Option PollFrame × List Call)) :
    Agent :=
  match s.cycles[i]? with
  | none => s
  | some frame =>
    match resume frame with
    | none => s
    | some (some next, calls) => { s with cycles := s.cycles.set i next, calls := s.calls ++ calls }
    | some (none, calls) =>
      { s with cycles := s.cycles.eraseIdx i, processing := false, calls := s.calls ++ calls }

/-- One input. -/
def step (s : Agent) : Input → Agent
  | .registerSettled ok =>
    if s.registration = .registering then
      if ok then
        let s := sendHeartbeat { s with registration := .registered, heartbeatTimer := true,
                                        heartbeatArmed := true }
        { s with pollTimer := true, pollArmed := true }
      else { s with registration := .failed }
    else s
  | .stop =>
    { s with heartbeatArmed := s.heartbeatArmed && !s.heartbeatTimer,
             pollArmed := s.pollArmed && !s.pollTimer }
  | .heartbeatTick => if s.heartbeatArmed then sendHeartbeat s else s
  | .pollTick => if s.pollArmed then pollCommands s else s
  | .heartbeatSettled => { s with heartbeats := s.heartbeats - 1 }
  | .pendingSettled i r => settle s i (onPending r)
  | .commandSettled i r => settle s i (onCommand r)
  | .executeSettled i r => settle s i (onExecute r)
  | .submitSettled i r => settle s i (onSubmit r)

/-- The inputs, in order. -/
def run (s : Agent) (xs : List Input) : Agent := xs.foldl step s

@[simp] theorem run_nil (s : Agent) : run s [] = s := rfl

@[simp] theorem run_cons (s : Agent) (x : Input) (xs : List Input) :
    run s (x :: xs) = run (step s x) xs := rfl

theorem run_append (s : Agent) (xs ys : List Input) : run s (xs ++ ys) = run (run s xs) ys :=
  List.foldl_append _ _ _ _

end Agent

end Runner

end SupportAgent
