import SupportAgent.Runner
import SupportAgent.Proofs.Executor

/-!
# What the runner guarantees

Over every run of the agent, in every order of its inputs, at most one poll cycle is in progress
and `processing` is set exactly while one is (`single_flight`). A poll cycle makes, command after
command, the calls the per-command protocol prescribes, whatever fails on the way
(`poll_cycle_calls`). No work starts before `register` succeeds, and once it has, `stop` ends
new work (`registration_gates_work`); but `stop` clears the intervals only if they exist: called
while `register` is pending it clears nothing, and the intervals the registration then creates
run on (`stop_before_registration`). Heartbeats interleave with a cycle, but no second cycle does, so
each `submitResult` names the command the last `getCommand` before it fetched
(`submitResult_names_last_fetched`), every command fetched is answered once the cycle moves
past it (`getCommand_answered`), and each execution follows a fetch of its own
(`executeCommand_after_fetch`).
-/

namespace SupportAgent

namespace Runner

/-- A call that starts new work: a heartbeat, or the first call of a poll cycle. -/
def Call.startsWork : Call → Bool
  | .heartbeat | .getPendingCommands => true
  | _ => false

namespace Agent

/-! ## Single flight -/

/-- At most one poll cycle is past its check of `processing` and not finished, and `processing`
is set exactly while one is. -/
def SingleFlight (s : Agent) : Prop :=
  s.cycles.length ≤ 1 ∧ (s.processing = true ↔ s.cycles ≠ [])

theorem singleFlight_init : SingleFlight init := by
  simp [SingleFlight, init]

theorem cycles_eq_single {s : Agent} (hs : SingleFlight s) {i : Nat} {f : PollFrame}
    (h : s.cycles[i]? = some f) : i = 0 ∧ s.cycles = [f] := by
  obtain ⟨hi, hf⟩ := List.getElem?_eq_some_iff.mp h
  have hlen : s.cycles.length = 1 := by have := hs.1; omega
  obtain ⟨g, hg⟩ := List.length_eq_one.mp hlen
  have hi0 : i = 0 := by omega
  subst hi0
  simp_all

theorem settle_singleFlight {s : Agent} (hs : SingleFlight s) (i : Nat)
    (resume : PollFrame → Option (Option PollFrame × List Call)) :
    SingleFlight (settle s i resume) := by
  unfold settle
  split
  · exact hs
  · rename_i f hf
    obtain ⟨rfl, hc⟩ := cycles_eq_single hs hf
    split
    · exact hs
    · simpa [SingleFlight, hc] using hs
    · simp [SingleFlight, hc]

theorem step_singleFlight {s : Agent} (hs : SingleFlight s) : ∀ x, SingleFlight (step s x)
  | .registerSettled ok => by
    unfold step
    by_cases hr : s.registration = .registering <;> cases ok <;>
      simpa [hr, SingleFlight, sendHeartbeat] using hs
  | .stop => hs
  | .heartbeatTick => by
    show SingleFlight (if s.heartbeatArmed then sendHeartbeat s else s)
    split_ifs <;> simpa [SingleFlight, sendHeartbeat] using hs
  | .pollTick => by
    show SingleFlight (if s.pollArmed then pollCommands s else s)
    unfold pollCommands
    split_ifs with _ hp
    · exact hs
    · have hc : s.cycles = [] := by simpa [hp] using hs.2
      simp [SingleFlight, hc]
    · exact hs
  | .heartbeatSettled => hs
  | .pendingSettled i _ | .commandSettled i _ | .executeSettled i _ | .submitSettled i _ =>
    settle_singleFlight hs i _

/-- `stop` called while `register` is pending clears nothing, both timers being `null`; the
registration then arms both intervals, and heartbeats and poll cycles start after the `stop`. -/
theorem stop_before_registration :
    (run init [.stop]).calls = [.register] ∧
    (run init [.stop, .registerSettled true, .heartbeatTick, .pollTick]).calls =
      [.register, .heartbeat, .heartbeat, .getPendingCommands] :=
  ⟨rfl, rfl⟩

/-- Until `register` succeeds the agent has made no call but `register`, armed no interval and
started no poll cycle; once it has, both timers are set. -/
def Gated (s : Agent) : Prop :=
  (s.registration ≠ .registered →
    s.calls = [.register] ∧ s.heartbeatArmed = false ∧ s.pollArmed = false ∧ s.cycles = []) ∧
  (s.registration = .registered → s.heartbeatTimer = true ∧ s.pollTimer = true)

theorem gated_init : Gated init := by
  simp [Gated, init]

section Settle

variable (s : Agent) (i : Nat) (resume : PollFrame → Option (Option PollFrame × List Call))

theorem settle_of_cycles_nil (h : s.cycles = []) : settle s i resume = s := by
  simp [settle, h]

@[simp] theorem settle_registration : (settle s i resume).registration = s.registration := by
  unfold settle; split; rfl; split <;> rfl

@[simp] theorem settle_heartbeatTimer : (settle s i resume).heartbeatTimer = s.heartbeatTimer := by
  unfold settle; split; rfl; split <;> rfl

@[simp] theorem settle_pollTimer : (settle s i resume).pollTimer = s.pollTimer := by
  unfold settle; split; rfl; split <;> rfl

@[simp] theorem settle_heartbeatArmed : (settle s i resume).heartbeatArmed = s.heartbeatArmed := by
  unfold settle; split; rfl; split <;> rfl

@[simp] theorem settle_pollArmed : (settle s i resume).pollArmed = s.pollArmed := by
  unfold settle; split; rfl; split <;> rfl

end Settle

theorem registered_of_armed {s : Agent} (hs : Gated s)
    (h : s.heartbeatArmed = true ∨ s.pollArmed = true) : s.registration = .registered := by
  by_contra hr
  obtain ⟨-, hh, hp, -⟩ := hs.1 hr
  simp_all

/-- Before registration there is no cycle to settle; after it, settling keeps the timers. -/
theorem settle_gated {s : Agent} (hs : Gated s) (i : Nat)
    (resume : PollFrame → Option (Option PollFrame × List Call)) : Gated (settle s i resume) := by
  by_cases hr : s.registration = .registered
  · simp [Gated, hr, hs.2 hr]
  · rwa [settle_of_cycles_nil _ _ _ (hs.1 hr).2.2.2]

theorem step_gated {s : Agent} (hs : Gated s) : ∀ x, Gated (step s x)
  | .registerSettled ok => by
    by_cases hr : s.registration = .registering
    · cases ok
      · simpa [step, hr, Gated] using hs.1 (by simp [hr])
      · simp [step, hr, Gated, sendHeartbeat]
    · simpa [step, hr] using hs
  | .stop => by
    by_cases hr : s.registration = .registered
    · simpa [step, Gated, hr] using hs.2 hr
    · obtain ⟨hc, hh, hp, hn⟩ := hs.1 hr
      simp [step, Gated, hr, hc, hh, hp, hn]
  | .heartbeatTick => by
    show Gated (if s.heartbeatArmed then sendHeartbeat s else s)
    split_ifs with ha
    · have hr := registered_of_armed hs (.inl ha)
      simpa [Gated, sendHeartbeat, hr] using hs.2 hr
    · exact hs
  | .pollTick => by
    show Gated (if s.pollArmed then pollCommands s else s)
    split_ifs with ha
    · have hr := registered_of_armed hs (.inr ha)
      unfold pollCommands
      split_ifs <;> simpa [Gated, hr] using hs.2 hr
    · exact hs
  | .heartbeatSettled => by simpa [step, Gated] using hs
  | .pendingSettled i _ | .commandSettled i _ | .executeSettled i _ | .submitSettled i _ =>
    settle_gated hs i _

theorem run_gated {s : Agent} (hs : Gated s) (xs : List Input) : Gated (run s xs) := by
  induction xs generalizing s with
  | nil => exact hs
  | cons x xs ih => exact ih (step_gated hs x)

/-- A registered agent whose intervals were cleared. -/
def Quiet (s : Agent) : Prop :=
  s.registration = .registered ∧ s.heartbeatArmed = false ∧ s.pollArmed = false

/-- Where a poll cycle goes on, it starts no new work. -/
def Continues (resume : PollFrame → Option (Option PollFrame × List Call)) : Prop :=
  ∀ f p, resume f = some p → ∀ c ∈ p.2, c.startsWork = false

theorem nextCommand_continues (l : List CommandSummary) :
    ∀ c ∈ (nextCommand l).2, c.startsWork = false := by
  cases l <;> simp [nextCommand, Call.startsWork]

/-- A cycle going on from an `await` adds calls that start no new work. -/
theorem settle_continues {s : Agent} {i : Nat}
    {resume : PollFrame → Option (Option PollFrame × List Call)} (h : Continues resume) :
    ∃ new, (settle s i resume).calls = s.calls ++ new ∧ ∀ c ∈ new, c.startsWork = false := by
  unfold settle
  split
  · exact ⟨[], by simp, by simp⟩
  · split
    · exact ⟨[], by simp, by simp⟩
    · exact ⟨_, rfl, h _ _ ‹_›⟩
    · exact ⟨_, rfl, h _ _ ‹_›⟩

theorem onPending_continues (r : Except String (List CommandSummary)) :
    Continues (onPending r) := by
  intro f p h
  cases f <;> cases r <;> simp only [onPending, Option.some.injEq, reduceCtorEq] at h <;>
    subst h <;> first | exact nextCommand_continues _ | simp

theorem onCommand_continues (r : Except String CommandDetail) : Continues (onCommand r) := by
  intro f p h
  cases f <;> cases r <;>
    simp only [onCommand, catchError, Option.some.injEq, reduceCtorEq] at h <;> subst h <;>
    simp [Call.startsWork]

theorem onExecute_continues (r : Except String CommandResult) : Continues (onExecute r) := by
  intro f p h
  cases f <;> cases r <;>
    simp only [onExecute, catchError, Option.some.injEq, reduceCtorEq] at h <;> subst h <;>
    simp [Call.startsWork]

theorem onSubmit_continues (r : Except String Unit) : Continues (onSubmit r) := by
  intro f p h
  cases f <;> cases r <;> simp only [onSubmit, catchError, Option.some.injEq, reduceCtorEq] at h <;>
    subst h <;> first | exact nextCommand_continues _ | simp [Call.startsWork]

theorem step_quiet {s : Agent} (hs : Quiet s) (x : Input) :
    Quiet (step s x) ∧
      ∃ new, (step s x).calls = s.calls ++ new ∧ ∀ c ∈ new, c.startsWork = false := by
  obtain ⟨hr, hh, hp⟩ := hs
  cases x with
  | pendingSettled i r => exact ⟨by simp [Quiet, step, *], settle_continues (onPending_continues r)⟩
  | commandSettled i r => exact ⟨by simp [Quiet, step, *], settle_continues (onCommand_continues r)⟩
  | executeSettled i r => exact ⟨by simp [Quiet, step, *], settle_continues (onExecute_continues r)⟩
  | submitSettled i r => exact ⟨by simp [Quiet, step, *], settle_continues (onSubmit_continues r)⟩
  | _ => exact ⟨by simp [Quiet, step, *], [], by simp [step, *], by simp⟩

theorem run_quiet {s : Agent} (hs : Quiet s) (ys : List Input) :
    ∃ new, (run s ys).calls = s.calls ++ new ∧ ∀ c ∈ new, c.startsWork = false := by
  induction ys generalizing s with
  | nil => exact ⟨[], by simp, by simp⟩
  | cons y ys ih =>
    obtain ⟨hq, new, hnew, hw⟩ := step_quiet hs y
    obtain ⟨new', hnew', hw'⟩ := ih hq
    refine ⟨new ++ new', by rw [run_cons, hnew', hnew, List.append_assoc], fun c hc => ?_⟩
    rcases List.mem_append.mp hc with hc | hc
    · exact hw c hc
    · exact hw' c hc

/-- Work waits for the registration: until `register` succeeds the agent has made no call but
`register`. Once it has succeeded, `stop` ends new work: whatever comes after it, no heartbeat is
sent and no poll cycle starts (a cycle in flight may finish). -/
theorem registration_gates_work (xs : List Input) :
    ((run init xs).registration ≠ .registered → (run init xs).calls = [.register]) ∧
    ((run init xs).registration = .registered → ∀ ys, ∃ new,
      (run (step (run init xs) .stop) ys).calls = (run init xs).calls ++ new ∧
        ∀ c ∈ new, c.startsWork = false) := by
  have hg := run_gated gated_init xs
  refine ⟨fun h => (hg.1 h).1, fun h ys => ?_⟩
  have ht := hg.2 h
  exact run_quiet ⟨by simpa [step] using h, by simp [step, ht], by simp [step, ht]⟩ ys

/-! ## One poll cycle -/

/-- How the calls on one command settle: what `getCommand` gives, the result of
`executeCommand` (which never throws), and how the first `submitResult` and the one in the error
handler end. -/
structure Outcomes where
  detail : Except String CommandDetail
  result : CommandResult
  submit : Except String Unit
  errorSubmit : Except String Unit

/-- The settlements the calls on one command get, in the order the cycle awaits them. -/
def commandInputs (o : Outcomes) : List Input :=
  match o.detail with
  | .ok d =>
    .commandSettled 0 (.ok d) :: .executeSettled 0 (.ok o.result) :: .submitSettled 0 o.submit ::
      match o.submit with
      | .ok () => []
      | .error _ => [.submitSettled 0 o.errorSubmit]
  | .error message => [.commandSettled 0 (.error message), .submitSettled 0 o.errorSubmit]

/-- The calls on a command after `getCommand`: with a detail, one execution and the submission
of its result, then the submission of the failure if that one threw; without, the submission
of the failure alone. -/
def afterFetch (cmd : CommandSummary) (o : Outcomes) : List Call :=
  match o.detail with
  | .ok d =>
    .executeCommand d.type d.payload :: .submitResult cmd.commandId o.result ::
      match o.submit with
      | .ok () => []
      | .error message => [.submitResult cmd.commandId (.failure message)]
  | .error message => [.submitResult cmd.commandId (.failure message)]

/-- The calls on one command. -/
def commandCalls (cmd : CommandSummary) (o : Outcomes) : List Call :=
  .getCommand cmd.commandId :: afterFetch cmd o

/-- The only cycle moves on to the commands `rest`. -/
def loopTo (s : Agent) (rest : List CommandSummary) : Agent :=
  match nextCommand rest with
  | (some next, calls) => { s with cycles := [next], calls := s.calls ++ calls }
  | (none, calls) => { s with cycles := [], processing := false, calls := s.calls ++ calls }

/-- The calls on one command, from its `getCommand` to the next command. -/
theorem run_command {s : Agent} {cmd : CommandSummary} {rest : List CommandSummary}
    (hs : s.cycles = [.command cmd rest]) (o : Outcomes) :
    run s (commandInputs o) = loopTo { s with calls := s.calls ++ afterFetch cmd o } rest := by
  obtain ⟨detail, result, submit, errorSubmit⟩ := o
  cases detail with
  | error message =>
    rcases h : nextCommand rest with ⟨_ | next, calls⟩ <;>
      simp_all [commandInputs, afterFetch, loopTo, step, settle, onCommand, onSubmit, catchError]
  | ok d =>
    cases submit <;> rcases h : nextCommand rest with ⟨_ | next, calls⟩ <;>
      simp_all [commandInputs, afterFetch, loopTo, step, settle, onCommand, onExecute, onSubmit,
        catchError]

theorem run_loop (l : List (CommandSummary × Outcomes)) (s : Agent) :
    run (loopTo s (l.map Prod.fst)) (l.flatMap fun p => commandInputs p.2) =
      { s with cycles := [], processing := false,
               calls := s.calls ++ l.flatMap fun p => commandCalls p.1 p.2 } := by
  induction l generalizing s with
  | nil => simp [loopTo, nextCommand]
  | cons p l ih =>
    rw [List.flatMap_cons, run_append, List.map_cons,
      show loopTo s (p.1 :: l.map Prod.fst) =
        { s with cycles := [.command p.1 (l.map Prod.fst)],
                 calls := s.calls ++ [.getCommand p.1.commandId] } from rfl,
      run_command rfl, ih]
    simp [commandCalls]

/-- `executeCommand` never throws: `tryCatch` turns what a handler throws into a result. -/
theorem executeCommand_total (K : Constants) (rt : Runtime) (env : Env) (type : String)
    (payload : Payload) (w : World) :
    ∃ r, (SupportAgent.executeCommand K rt env type payload w).1 = .ok r := by
  unfold SupportAgent.executeCommand Exec.tryCatch
  split <;> simp

/-- A poll cycle that `getPendingCommands` answers with the commands `l` makes, command after
command, the calls `commandCalls` gives, whatever settles each call, and then leaves
`processing` cleared; the results it submits come from `executeCommand`, which never throws. -/
theorem poll_cycle_calls (s : Agent) (hs : s.cycles = [.pending])
    (l : List (CommandSummary × Outcomes)) :
    run s (.pendingSettled 0 (.ok (l.map Prod.fst)) :: l.flatMap fun p => commandInputs p.2) =
      { s with cycles := [], processing := false,
               calls := s.calls ++ l.flatMap fun p => commandCalls p.1 p.2 } ∧
    ∀ K rt env type payload w,
      ∃ r, (SupportAgent.executeCommand K rt env type payload w).1 = .ok r := by
  refine ⟨?_, executeCommand_total⟩
  have hstep : step s (.pendingSettled 0 (.ok (l.map Prod.fst))) = loopTo s (l.map Prod.fst) := by
    rcases h : nextCommand (l.map Prod.fst) with ⟨_ | next, calls⟩ <;>
      simp [step, settle, hs, onPending, loopTo, h]
  rw [run_cons, hstep, run_loop]

/-- Two commands: `getCommand` throws on the first, and the first `submitResult` of the second. -/
def failingCommands : List (CommandSummary × Outcomes) :=
  [(⟨"c1", "file_read"⟩, ⟨.error "not found", .failure "", .ok (), .ok ()⟩),
   (⟨"c2", "file_read"⟩, ⟨.ok ⟨"file_read", fun _ => .undefined⟩, .failure "x", .error "timeout",
     .ok ()⟩)]

/-- The first command gets its failure submitted and is not executed; the second is executed, and
its result and then the failure of that submission are submitted. -/
theorem poll_cycle_calls_with_errors :
    (run init [.registerSettled true, .pollTick]).cycles = [.pending] ∧
    failingCommands.flatMap (fun p => commandCalls p.1 p.2) =
      [.getCommand "c1", .submitResult "c1" (.failure "not found"), .getCommand "c2",
        .executeCommand "file_read" (fun _ => .undefined), .submitResult "c2" (.failure "x"),
        .submitResult "c2" (.failure "timeout")] ∧
    run (run init [.registerSettled true, .pollTick])
        (.pendingSettled 0 (.ok (failingCommands.map Prod.fst)) ::
          failingCommands.flatMap fun p => commandInputs p.2) =
      { (run init [.registerSettled true, .pollTick]) with
        cycles := [], processing := false,
        calls := (run init [.registerSettled true, .pollTick]).calls ++
          failingCommands.flatMap fun p => commandCalls p.1 p.2 } ∧
    ∀ K rt env type payload w,
      ∃ r, (SupportAgent.executeCommand K rt env type payload w).1 = .ok r :=
  have hs : (run init [.registerSettled true, .pollTick]).cycles = [.pending] := rfl
  ⟨hs, rfl, poll_cycle_calls _ hs failingCommands⟩

end Agent

/-! ## Each command is executed once and answered under its own id -/

/-- The command a call fetches: the id a `getCommand` names. -/
def Call.fetched : Call → Option String
  | .getCommand commandId => some commandId
  | _ => none

/-- The id of the command fetched last in `calls`. -/
def lastFetched (calls : List Call) : Option String :=
  calls.foldl (fun last c => c.fetched.or last) none

@[simp] theorem lastFetched_concat (calls : List Call) (c : Call) :
    lastFetched (calls ++ [c]) = c.fetched.or (lastFetched calls) := by
  simp [lastFetched]

/-- Whether the command fetched last was executed, after the call `c`; `none` until a command is
fetched. -/
def execAfter (s : Option Bool) : Call → Option Bool
  | .getCommand _ => some false
  | .executeCommand _ _ => s.map fun _ => true
  | _ => s

/-- Whether the command fetched last in `calls` was executed. -/
def execState (calls : List Call) : Option Bool := calls.foldl execAfter none

@[simp] theorem execState_concat (calls : List Call) (c : Call) :
    execState (calls ++ [c]) = execAfter (execState calls) c := by
  simp [execState]

/-- A command fetched and not executed after the calls `l` was so before them, or `l` fetched
one. -/
theorem foldl_execAfter_fresh {l : List Call} : ∀ {s : Option Bool},
    l.foldl execAfter s = some false →
      s = some false ∨ ∃ commandId, .getCommand commandId ∈ l := by
  induction l with
  | nil => exact fun h => .inl h
  | cons c l ih =>
    intro s h
    rcases ih h with hs | ⟨commandId, hm⟩
    · cases c with
      | getCommand commandId => exact .inr ⟨commandId, .head _⟩
      | executeCommand => cases s <;> simp [execAfter] at hs
      | _ => exact .inl hs
    · exact .inr ⟨commandId, .tail _ hm⟩

/-- What a call needs of the calls before it: a submission names the command fetched last, and
an execution runs a command fetched and not executed yet. -/
def Call.Fits (pre : List Call) : Call → Prop
  | .submitResult commandId _ => lastFetched pre = some commandId
  | .executeCommand _ _ => execState pre = some false
  | _ => True

/-- Every call fits the calls before it. -/
def AllFit (calls : List Call) : Prop :=
  ∀ pre c post, calls = pre ++ c :: post → c.Fits pre

theorem allFit_concat {calls : List Call} {c : Call} (h : AllFit calls) (hc : c.Fits calls) :
    AllFit (calls ++ [c]) := by
  intro pre c' post he
  rcases List.eq_nil_or_concat post with rfl | ⟨post, y, rfl⟩
  · obtain ⟨rfl, hlast⟩ := List.append_inj' he rfl
    obtain rfl := List.singleton_inj.mp hlast
    exact hc
  · rw [List.concat_eq_append, ← List.cons_append, ← List.append_assoc] at he
    exact h pre c' post (List.append_inj' he rfl).1

/-- The command a poll cycle is at, once it has fetched one. -/
def PollFrame.current : PollFrame → Option CommandSummary
  | .pending => none
  | .command cmd _ | .execute cmd _ | .submit cmd _ | .errorSubmit cmd _ => some cmd

/-- The cycle waits on `getCommand`. -/
def PollFrame.awaitsDetail : PollFrame → Bool
  | .command _ _ => true
  | _ => false

/-- The id of the command a cycle has fetched and not answered: it waits on `getCommand` or on
`executeCommand`. -/
def PollFrame.unanswered : PollFrame → Option String
  | .command cmd _ | .execute cmd _ => some cmd.commandId
  | _ => none

theorem PollFrame.unanswered_eq {f : PollFrame} {cmd : CommandSummary} (hf : f.current = some cmd)
    {commandId : String} (h : f.unanswered = some commandId) : commandId = cmd.commandId := by
  cases f <;> simp_all [current, unanswered]

/-- Every `getCommand` in `calls` is followed by a `submitResult` under its id, or one of
`cycles` waits on its command. -/
def Answered (cycles : List PollFrame) (calls : List Call) : Prop :=
  ∀ pre commandId post, calls = pre ++ .getCommand commandId :: post →
    (∃ result, .submitResult commandId result ∈ post) ∨
      ∃ f ∈ cycles, f.unanswered = some commandId

theorem answered_mono {cycles cycles' : List PollFrame} {calls : List Call}
    (h : Answered cycles calls)
    (hw : ∀ commandId, (∃ f ∈ cycles, f.unanswered = some commandId) →
      ∃ f ∈ cycles', f.unanswered = some commandId) : Answered cycles' calls :=
  fun pre commandId post he => (h pre commandId post he).imp_right (hw commandId)

/-- One more call: a command waited on is answered by it or still waited on, and a command it
fetches is waited on. -/
theorem answered_concat {cycles cycles' : List PollFrame} {calls : List Call} {c : Call}
    (h : Answered cycles calls)
    (hw : ∀ commandId, (∃ f ∈ cycles, f.unanswered = some commandId) →
      (∃ result, c = .submitResult commandId result) ∨
        ∃ f ∈ cycles', f.unanswered = some commandId)
    (hc : ∀ commandId, c = .getCommand commandId →
      ∃ f ∈ cycles', f.unanswered = some commandId) :
    Answered cycles' (calls ++ [c]) := by
  intro pre commandId post he
  rcases List.eq_nil_or_concat post with rfl | ⟨post, y, rfl⟩
  · exact .inr (hc commandId (List.singleton_inj.mp (List.append_inj' he rfl).2))
  rw [List.concat_eq_append] at he ⊢
  rw [← List.cons_append, ← List.append_assoc] at he
  obtain ⟨hcalls, hlast⟩ := List.append_inj' he rfl
  obtain rfl := List.singleton_inj.mp hlast
  rcases h pre commandId post hcalls with ⟨r, hr⟩ | hwait
  · exact .inl ⟨r, List.mem_append_left _ hr⟩
  rcases hw commandId hwait with ⟨r, rfl⟩ | hwait'
  · exact .inl ⟨r, List.mem_append_right _ (List.mem_singleton_self _)⟩
  · exact .inr hwait'

namespace Agent

/-- The cycle stands at the command fetched last, and has not executed it while it waits on
`getCommand`. -/
def AtFetched (calls : List Call) (f : PollFrame) : Prop :=
  (∀ cmd, f.current = some cmd → lastFetched calls = some cmd.commandId) ∧
    (f.awaitsDetail = true → execState calls = some false)

/-- The bookkeeping of the poll cycles: every cycle stands at the command fetched last, every
call fits the calls before it, and every command fetched was answered or is waited on. -/
structure Tracked (cycles : List PollFrame) (calls : List Call) : Prop where
  frames : ∀ f ∈ cycles, AtFetched calls f
  log : AllFit calls
  answered : Answered cycles calls

/-- A handler keeps the bookkeeping of the cycle it resumes. -/
def KeepsTrack (resume : PollFrame → Option (Option PollFrame × List Call)) : Prop :=
  ∀ calls f p, resume f = some p → Tracked [f] calls → Tracked p.1.toList (calls ++ p.2)

section Handlers

variable {calls : List Call}

theorem Tracked.concat_other {cycles : List PollFrame} (h : Tracked cycles calls) {c : Call}
    (hc : c = .heartbeat ∨ c = .getPendingCommands) : Tracked cycles (calls ++ [c]) := by
  refine ⟨fun f hf => ?_, allFit_concat h.log (by rcases hc with rfl | rfl <;> trivial),
    answered_concat h.answered (fun _ hw => .inr hw) fun _ he => by
      rcases hc with rfl | rfl <;> cases he⟩
  rcases hc with rfl | rfl <;> simpa [AtFetched, Call.fetched, execAfter] using h.frames f hf

/-- A new cycle, past its check of `processing`, waits on `getPendingCommands`. -/
theorem Tracked.start {cycles : List PollFrame} (h : Tracked cycles calls) :
    Tracked (cycles ++ [.pending]) (calls ++ [.getPendingCommands]) := by
  have h' := h.concat_other (.inr rfl)
  refine ⟨fun f hf => ?_, h'.log,
    answered_mono h'.answered fun _ ⟨f, hf, hw⟩ => ⟨f, List.mem_append_left _ hf, hw⟩⟩
  rcases List.mem_append.mp hf with hf | hf
  · exact h'.frames f hf
  · obtain rfl := List.mem_singleton.mp hf
    exact ⟨fun _ hc => (by cases hc), fun hd => (by cases hd)⟩

theorem Tracked.leave {f : PollFrame} (h : Tracked [f] calls) (hf : f.unanswered = none) :
    Tracked [] calls :=
  ⟨by simp, h.log, answered_mono h.answered fun _ ⟨g, hg, hw⟩ => by simp_all⟩

/-- The cycle stays at the command it stands at, past its `getCommand`: its call fetches nothing,
fits the calls before it, and answers the command unless the cycle still waits on it. -/
theorem Tracked.stay {f g : PollFrame} {cmd : CommandSummary} (h : Tracked [f] calls)
    (hf : f.current = some cmd) (hg : g.current = some cmd) (hd : g.awaitsDetail = false)
    {c : Call} (hc : c.fetched = none) (hfit : c.Fits calls)
    (hw : ∀ commandId, f.unanswered = some commandId →
      (∃ result, c = .submitResult commandId result) ∨ g.unanswered = some commandId) :
    Tracked [g] (calls ++ [c]) := by
  have hlast := (h.frames f (List.mem_singleton_self f)).1 cmd hf
  refine ⟨fun f' hf' => ?_, allFit_concat h.log hfit,
    answered_concat h.answered (fun commandId ⟨f', hf', hw'⟩ => ?_)
      fun _ he => by subst he; cases hc⟩
  · obtain rfl := List.mem_singleton.mp hf'
    refine ⟨fun cmd' hcmd => ?_, fun hd' => absurd hd' (by simp [hd])⟩
    obtain rfl := Option.some.inj (hg.symm.trans hcmd)
    simp [hc, hlast]
  · obtain rfl := List.mem_singleton.mp hf'
    exact (hw commandId hw').imp_right fun hg' => ⟨g, List.mem_singleton_self g, hg'⟩

theorem nextCommand_keeps (h : Tracked [] calls) (rest : List CommandSummary) :
    Tracked (nextCommand rest).1.toList (calls ++ (nextCommand rest).2) := by
  cases rest with
  | nil => simpa [nextCommand] using h
  | cons cmd rest =>
    show Tracked [.command cmd rest] (calls ++ [.getCommand cmd.commandId])
    refine ⟨?_, allFit_concat h.log trivial,
      answered_concat h.answered (by simp) fun _ he => ⟨_, List.mem_singleton_self _, ?_⟩⟩
    · simp [AtFetched, PollFrame.current, Call.fetched, execAfter]
    · cases he; rfl

theorem catchError_keeps {f : PollFrame} {cmd : CommandSummary} (h : Tracked [f] calls)
    (hf : f.current = some cmd) (rest : List CommandSummary) (message : String) :
    Tracked (catchError cmd rest message).1.toList (calls ++ (catchError cmd rest message).2) :=
  h.stay hf (by rfl) (by rfl) (by rfl) ((h.frames f (List.mem_singleton_self f)).1 cmd hf)
    fun _ hid => by
      obtain rfl := PollFrame.unanswered_eq hf hid
      exact .inl ⟨_, rfl⟩

theorem onPending_keeps (r : Except String (List CommandSummary)) : KeepsTrack (onPending r) := by
  intro calls f p hp h
  cases f <;> simp only [onPending, reduceCtorEq, Option.some.injEq] at hp
  subst hp
  cases r
  · simpa using h.leave rfl
  · exact nextCommand_keeps (h.leave rfl) _

theorem onCommand_keeps (r : Except String CommandDetail) : KeepsTrack (onCommand r) := by
  intro calls f p hp h
  cases f <;> simp only [onCommand, reduceCtorEq, Option.some.injEq] at hp
  subst hp
  cases r
  · exact catchError_keeps h rfl _ _
  · exact h.stay rfl (by rfl) (by rfl) (by rfl) ((h.frames _ (List.mem_singleton_self _)).2 rfl)
      fun _ hid => .inr hid

theorem onExecute_keeps (r : Except String CommandResult) : KeepsTrack (onExecute r) := by
  intro calls f p hp h
  cases f <;> simp only [onExecute, reduceCtorEq, Option.some.injEq] at hp
  subst hp
  cases r
  · exact catchError_keeps h rfl _ _
  · refine h.stay rfl (by rfl) (by rfl) (by rfl) ((h.frames _ (List.mem_singleton_self _)).1 _ rfl)
      fun _ hid => ?_
    obtain rfl := Option.some.inj hid
    exact .inl ⟨_, rfl⟩

theorem onSubmit_keeps (r : Except String Unit) : KeepsTrack (onSubmit r) := by
  intro calls f p hp h
  cases f <;> simp only [onSubmit, reduceCtorEq, Option.some.injEq] at hp <;> subst hp
  · cases r
    · exact catchError_keeps h rfl _ _
    · exact nextCommand_keeps (h.leave rfl) _
  · exact nextCommand_keeps (h.leave rfl) _

end Handlers

theorem tracked_init : Tracked init.cycles init.calls := by
  refine ⟨by simp [init], show AllFit ([] ++ [.register]) from
    allFit_concat (fun _ _ _ he => absurd he.symm (by simp)) trivial, ?_⟩
  intro pre commandId post he
  rcases pre with _ | ⟨_, _ | _⟩ <;> simp [init] at he

theorem settle_tracked {s : Agent} (hs : SingleFlight s) (ht : Tracked s.cycles s.calls)
    (i : Nat) {resume : PollFrame → Option (Option PollFrame × List Call)}
    (hk : KeepsTrack resume) :
    Tracked (settle s i resume).cycles (settle s i resume).calls := by
  unfold settle
  split
  · exact ht
  · rename_i f hf
    obtain ⟨rfl, hc⟩ := cycles_eq_single hs hf
    rw [hc] at ht
    split
    · rwa [hc]
    · simpa [hc] using hk _ _ _ ‹_› ht
    · simpa [hc] using hk _ _ _ ‹_› ht

theorem step_tracked {s : Agent} (hs : SingleFlight s) (ht : Tracked s.cycles s.calls) :
    ∀ x, Tracked (step s x).cycles (step s x).calls
  | .registerSettled ok => by
    by_cases hr : s.registration = .registering
    · cases ok
      · simpa [step, hr] using ht
      · simpa [step, hr, sendHeartbeat] using ht.concat_other (.inl rfl)
    · simpa [step, hr] using ht
  | .stop => ht
  | .heartbeatTick => by
    show Tracked (if s.heartbeatArmed then sendHeartbeat s else s).cycles
      (if s.heartbeatArmed then sendHeartbeat s else s).calls
    split_ifs
    · simpa [sendHeartbeat] using ht.concat_other (.inl rfl)
    · exact ht
  | .pollTick => by
    show Tracked (if s.pollArmed then pollCommands s else s).cycles
      (if s.pollArmed then pollCommands s else s).calls
    unfold pollCommands
    split_ifs
    · exact ht
    · exact ht.start
    · exact ht
  | .heartbeatSettled => ht
  | .pendingSettled i r => settle_tracked hs ht i (onPending_keeps r)
  | .commandSettled i r => settle_tracked hs ht i (onCommand_keeps r)
  | .executeSettled i r => settle_tracked hs ht i (onExecute_keeps r)
  | .submitSettled i r => settle_tracked hs ht i (onSubmit_keeps r)

theorem run_tracked {s : Agent} (hs : SingleFlight s) (ht : Tracked s.cycles s.calls)
    (xs : List Input) : Tracked (run s xs).cycles (run s xs).calls := by
  induction xs generalizing s with
  | nil => exact ht
  | cons x xs ih => exact ih (step_singleFlight hs x) (step_tracked hs ht x)

/-- In every run of the agent, whatever the order in which its
ticks, the calls of `stop` and the settling of its awaits come, each `submitResult` names the
command of the last `getCommand` made before it. Heartbeats interleave freely; a second poll cycle
cannot, since `processing` keeps it out. -/
theorem submitResult_names_last_fetched (xs : List Input) (pre : List Call) (commandId : String)
    (result : CommandResult) (post : List Call)
    (h : (run init xs).calls = pre ++ .submitResult commandId result :: post) :
    lastFetched pre = some commandId :=
  (run_tracked singleFlight_init tracked_init xs).log pre _ post h

/-- A command fetched and executed, with a heartbeat in between. -/
def oneCommandRun : List Input :=
  [.registerSettled true, .pollTick, .pendingSettled 0 (.ok [⟨"c1", "file_read"⟩]),
    .commandSettled 0 (.ok ⟨"file_read", fun _ => .undefined⟩), .heartbeatTick,
    .executeSettled 0 (.ok (.failure "x"))]

/-- The result of `c1` is submitted after a heartbeat; the last command fetched is `c1`. -/
theorem oneCommandRun_submits_c1 :
    (run init oneCommandRun).calls =
      [.register, .heartbeat, .getPendingCommands, .getCommand "c1",
        .executeCommand "file_read" (fun _ => .undefined), .heartbeat] ++
        .submitResult "c1" (.failure "x") :: [] ∧
    lastFetched [.register, .heartbeat, .getPendingCommands, .getCommand "c1",
        .executeCommand "file_read" (fun _ => .undefined), .heartbeat] = some "c1" :=
  have h : (run init oneCommandRun).calls =
      [.register, .heartbeat, .getPendingCommands, .getCommand "c1",
        .executeCommand "file_read" (fun _ => .undefined), .heartbeat] ++
        .submitResult "c1" (.failure "x") :: [] := rfl
  ⟨h, submitResult_names_last_fetched _ _ _ _ _ h⟩

/-- In every run of the agent, each `getCommand` is
followed by a `submitResult` under the same id, unless the poll cycle in progress still waits on
that command's `getCommand` or `executeCommand`. So whenever no cycle is in progress, every
command the agent fetched has had its result, or its failure, submitted. -/
theorem getCommand_answered (xs : List Input) (pre : List Call) (commandId : String)
    (post : List Call) (h : (run init xs).calls = pre ++ .getCommand commandId :: post) :
    (∃ result, .submitResult commandId result ∈ post) ∨
      ∃ f ∈ (run init xs).cycles, f.unanswered = some commandId :=
  (run_tracked singleFlight_init tracked_init xs).answered pre commandId post h

/-- The command `c1` is answered after a heartbeat. -/
theorem oneCommandRun_answers_c1 :
    (run init oneCommandRun).calls =
      [.register, .heartbeat, .getPendingCommands] ++ .getCommand "c1" ::
        [.executeCommand "file_read" (fun _ => .undefined), .heartbeat,
          .submitResult "c1" (.failure "x")] ∧
    ((∃ result, Call.submitResult "c1" result ∈
        [Call.executeCommand "file_read" (fun _ => .undefined), .heartbeat,
          .submitResult "c1" (.failure "x")]) ∨
      ∃ f ∈ (run init oneCommandRun).cycles, f.unanswered = some "c1") :=
  have h : (run init oneCommandRun).calls =
      [.register, .heartbeat, .getPendingCommands] ++ .getCommand "c1" ::
        [.executeCommand "file_read" (fun _ => .undefined), .heartbeat,
          .submitResult "c1" (.failure "x")] := rfl
  ⟨h, getCommand_answered _ _ _ _ h⟩

/-- In every run of the agent, each `executeCommand` runs the command of a `getCommand` made before
it and not executed since: there is a `getCommand` before it, and one between any earlier
`executeCommand` and it. So one fetch leads to at most one execution; a command the server hands
out again under the same id is fetched, and executed, again. -/
theorem executeCommand_after_fetch (xs : List Input) (pre : List Call) (type : String)
    (payload : Payload) (post : List Call)
    (h : (run init xs).calls = pre ++ .executeCommand type payload :: post) :
    (∃ commandId, .getCommand commandId ∈ pre) ∧
      ∀ pre' type' payload' mid, pre = pre' ++ .executeCommand type' payload' :: mid →
        ∃ commandId, .getCommand commandId ∈ mid := by
  have hfresh : execState pre = some false :=
    (run_tracked singleFlight_init tracked_init xs).log pre _ post h
  refine ⟨(foldl_execAfter_fresh hfresh).resolve_left (by simp),
    fun pre' type' payload' mid he => ?_⟩
  rw [he, execState, List.foldl_append, List.foldl_cons] at hfresh
  exact (foldl_execAfter_fresh hfresh).resolve_left fun hs => by
    cases hp : List.foldl execAfter none pre' <;> simp [execAfter, hp] at hs

/-- Two commands, each fetched before it runs. -/
def twoCommandRun : List Input :=
  [.registerSettled true, .pollTick,
    .pendingSettled 0 (.ok [⟨"c1", "file_read"⟩, ⟨"c2", "file_read"⟩]),
    .commandSettled 0 (.ok ⟨"file_read", fun _ => .undefined⟩),
    .executeSettled 0 (.ok (.failure "x")), .submitSettled 0 (.ok ()),
    .commandSettled 0 (.ok ⟨"file_read", fun _ => .undefined⟩)]

/-- The second execution follows the fetch of `c2`. -/
theorem twoCommandRun_fetches_c2 :
    (run init twoCommandRun).calls =
      [.register, .heartbeat, .getPendingCommands, .getCommand "c1",
        .executeCommand "file_read" (fun _ => .undefined), .submitResult "c1" (.failure "x"),
        .getCommand "c2"] ++ .executeCommand "file_read" (fun _ => .undefined) :: [] ∧
    (∃ commandId, Call.getCommand commandId ∈
      [Call.register, .heartbeat, .getPendingCommands, .getCommand "c1",
        .executeCommand "file_read" (fun _ => .undefined), .submitResult "c1" (.failure "x"),
        .getCommand "c2"]) ∧
    ∀ pre' type' payload' mid,
      [Call.register, .heartbeat, .getPendingCommands, .getCommand "c1",
        .executeCommand "file_read" (fun _ => .undefined), .submitResult "c1" (.failure "x"),
        .getCommand "c2"] = pre' ++ .executeCommand type' payload' :: mid →
      ∃ commandId, .getCommand commandId ∈ mid :=
  have h : (run init twoCommandRun).calls =
      [.register, .heartbeat, .getPendingCommands, .getCommand "c1",
        .executeCommand "file_read" (fun _ => .undefined), .submitResult "c1" (.failure "x"),
        .getCommand "c2"] ++ .executeCommand "file_read" (fun _ => .undefined) :: [] := rfl
  ⟨h, executeCommand_after_fetch _ _ _ _ _ h⟩

end Agent

end Runner

end SupportAgent
