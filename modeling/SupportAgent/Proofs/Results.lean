import SupportAgent.Proofs.Runner
import SupportAgent.Proofs.Shell
import SupportAgent.Proofs.Store

/-!
# What a command reports

A `CommandResult` carries an `error` exactly when it reports a failure. Every failure the executor
builds has one: the guards' rejections, a file too large to read, a shell that timed out, exited
with another code than `0` or could not start, and what the catch-all of `executeCommand` turns a
thrown error into. No success has one. So for every command type, every payload, every file
system and every order of the shell's events, `executeCommand` never throws, and a result it
settles with says by its `success` whether it has an `error` (`executeCommand_reports`).
-/

namespace SupportAgent

/-- A result has an `error` exactly when it fails. -/
def CommandResult.Consistent (r : CommandResult) : Prop := r.success = r.error.isNone

theorem CommandResult.failure_consistent (e : String) : (CommandResult.failure e).Consistent :=
  rfl

/-! ## The shell's handlers -/

namespace ShellState

variable (c : ShellContext)

theorem closeResult_consistent (stdout stderr : String) (outputSize : Nat) (code : Option Int) :
    (closeResult c stdout stderr outputSize code).Consistent := by
  unfold closeResult
  split_ifs <;> rfl

theorem settleValue_consistent {s : ShellState} {e : ProcEvent} {r : CommandResult}
    (h : settleValue c s e = some r) : r.Consistent := by
  cases e <;> simp only [settleValue, Option.some.injEq, reduceCtorEq] at h <;> subst h
  exacts [CommandResult.failure_consistent _, closeResult_consistent c _ _ _ _,
    CommandResult.failure_consistent _]

/-- A handler resolves, if it does, with the value its event settles with. -/
theorem mem_step_resolutions {s : ShellState} {e : ProcEvent} {r : CommandResult}
    (hr : r ∈ (step c s e).resolutions) : r ∈ s.resolutions ∨ settleValue c s e = some r := by
  cases e with
  | stdout data | stderr data => exact .inl (by simpa [step] using hr)
  | _ =>
    simp only [step, onTimeout, onClose, onError] at hr
    split_ifs at hr <;> first
      | exact .inl hr
      | simpa only [List.mem_append, List.mem_singleton, settleValue, Option.some.injEq, eq_comm]
          using hr

theorem step_consistent {s : ShellState} (hs : ∀ r ∈ s.resolutions, r.Consistent)
    (e : ProcEvent) : ∀ r ∈ (step c s e).resolutions, r.Consistent := fun r hr =>
  (mem_step_resolutions c hr).elim (hs r) (settleValue_consistent c)

theorem run_consistent {s : ShellState} (hs : ∀ r ∈ s.resolutions, r.Consistent)
    (evs : List ProcEvent) : ∀ r ∈ (run c s evs).resolutions, r.Consistent := by
  induction evs generalizing s with
  | nil => exact hs
  | cons e evs ih => exact ih (step_consistent c hs e)

end ShellState

/-! ## The values a computation returns -/

namespace Exec

/-- Every value `x` returns, from any world, satisfies `P`. -/
def Returns {α : Type} (P : α → Prop) (x : Exec α) : Prop := ∀ w a, (x w).1 = .ok a → P a

variable {α β : Type} {P : β → Prop}

theorem Returns.pure {b : β} (h : P b) : Returns P (pure b : Exec β) := by
  rintro w a ⟨⟩
  exact h

theorem Returns.bind {x : Exec α} {f : α → Exec β} (hf : ∀ a, Returns P (f a)) :
    Returns P (x >>= f) := by
  intro w b h
  rw [bind_apply] at h
  split at h
  · exact hf _ _ _ h
  · cases h

theorem Returns.getFs {f : FileSystem → Exec β} (h : ∀ fs, Returns P (f fs)) :
    Returns P (getFs >>= f) := fun w => h w.fs w

theorem Returns.tryCatch {x : Exec β} {h : String → Exec β} (hx : Returns P x)
    (hh : ∀ e, Returns P (h e)) : Returns P (tryCatch x h) := by
  intro w b hb
  unfold Exec.tryCatch at hb
  split at hb
  · next hxw =>
    cases hb
    exact hx w b (by rw [hxw])
  · exact hh _ _ _ hb

end Exec

open Exec

/-! ## The guards reject with failures -/

section Handlers

variable (K : Constants) (rt : Runtime) (env : Env)

theorem shellGuards_rejection {fs : FileSystem} {payload : Payload} {rej : CommandResult}
    (h : shellGuards K rt fs payload = .error rej) : ∃ e, rej = .failure e := by
  unfold shellGuards at h
  split at h
  · cases h; exact ⟨_, rfl⟩
  split at h
  · cases h; exact ⟨_, rfl⟩
  dsimp only at h
  split_ifs at h
  · cases h; exact ⟨_, rfl⟩
  split at h <;> cases h
  exact ⟨_, rfl⟩

theorem killGuards_rejection {payload : Payload} {rej : CommandResult}
    (h : killGuards payload = .error rej) : ∃ e, rej = .failure e := by
  unfold killGuards at h
  split at h
  · cases h; exact ⟨_, rfl⟩
  dsimp only at h
  split_ifs at h <;> cases h <;> exact ⟨_, rfl⟩

theorem Returns.rejection {rej : CommandResult} (h : ∃ e, rej = .failure e) :
    Returns CommandResult.Consistent (pure rej : Exec CommandResult) := by
  obtain ⟨e, rfl⟩ := h
  exact Returns.pure (CommandResult.failure_consistent e)

/-! ## The handlers -/

theorem spawnShell_reports (request : SpawnRequest) (timeout : JsNum) :
    Returns CommandResult.Consistent (Host.spawnShell rt K env request timeout) := by
  rintro w r ⟨⟩
  have hrun := ShellState.run_consistent (Host.shellContext rt K request timeout)
    (s := .init) (by simp [ShellState.init]) (Host.shellEvents rt env w.fs request timeout)
  cases hres : (ShellState.run _ .init _).resolutions with
  | nil => exact CommandResult.failure_consistent ""
  | cons r rs => exact hrun r (by rw [hres]; exact .head _)

theorem executeShellCommand_reports (payload : Payload) :
    Returns CommandResult.Consistent (executeShellCommand K rt env payload) := by
  refine Returns.getFs fun fs => ?_
  split
  · exact Returns.rejection (shellGuards_rejection K rt ‹_›)
  · exact spawnShell_reports K rt env _ _

theorem fileRead_reports (payload : Payload) :
    Returns CommandResult.Consistent (fileRead K rt payload) := by
  refine Returns.getFs fun fs => ?_
  split
  · exact Returns.rejection (resolveAndValidatePath_rejection ‹_›)
  · refine Returns.bind fun _ => ?_
    split
    · exact Returns.pure (CommandResult.failure_consistent _)
    · exact Returns.bind fun _ => Returns.pure rfl

theorem fileWrite_reports (payload : Payload) :
    Returns CommandResult.Consistent (fileWrite K rt payload) := by
  refine Returns.getFs fun fs => ?_
  split
  · exact Returns.rejection (writeGuards_rejection ‹_›)
  · dsimp only
    split <;> exact Returns.bind fun _ => Returns.bind fun _ => Returns.pure rfl

theorem fileList_reports (payload : Payload) :
    Returns CommandResult.Consistent (fileList K rt payload) := by
  refine Returns.getFs fun fs => ?_
  split
  · exact Returns.rejection (resolveAndValidatePath_rejection ‹_›)
  · exact Returns.bind fun _ => Returns.getFs fun _ => Returns.pure rfl

theorem processKill_reports (payload : Payload) :
    Returns CommandResult.Consistent (processKill rt payload) := by
  unfold processKill
  split
  · exact Returns.rejection (killGuards_rejection ‹_›)
  · refine Returns.bind fun r => ?_
    cases r
    · exact Returns.pure rfl
    · exact Returns.pure (CommandResult.failure_consistent _)

/-- For every command type, payload and world, `executeCommand` never throws: the catch-all turns
whatever its handler throws into a failure. Every result it settles with has an `error` exactly
when it is not a success. -/
theorem executeCommand_reports (type : String) (payload : Payload) (w : World) :
    (∀ m, (executeCommand K rt env type payload w).1 ≠ .error m) ∧
    ∀ r, (executeCommand K rt env type payload w).1 = .ok r → r.success = r.error.isNone := by
  have h : Returns CommandResult.Consistent (executeCommand K rt env type payload) := by
    refine Returns.tryCatch ?_ fun e => Returns.pure (CommandResult.failure_consistent e)
    split
    · exact executeShellCommand_reports K rt env payload
    · exact fileRead_reports K rt payload
    · exact fileWrite_reports K rt payload
    · exact fileList_reports K rt payload
    · exact executeShellCommand_reports K rt env _
    · exact processKill_reports rt payload
    · exact Returns.pure (CommandResult.failure_consistent _)
  obtain ⟨r, hr⟩ := Runner.Agent.executeCommand_total K rt env type payload w
  exact ⟨fun m he => (nomatch hr.symm.trans he), h w⟩

end Handlers

end SupportAgent
