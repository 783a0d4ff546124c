import SupportAgent.Shell

/-!
# The shell runner settles once

Whatever order the child's events come in, the handlers of `executeShellCommand` call `resolve`
at most once, and exactly once when a settling event (the timer, `'close'`, `'error'`) is
delivered; the value is the one the first settling event determines, and the child is killed
exactly when the timer runs first (`resolve_once`). The output kept is the longest prefix of the
chunks, both streams interleaved, that fits in `MAX_OUTPUT_SIZE` (`output_capture`).
-/

namespace SupportAgent

namespace ShellState

variable (c : ShellContext)

/-! ## The latch -/

/-- The promise is not settled: nothing resolved, the child not killed, the timer armed. -/
def Pending (s : ShellState) : Prop :=
  s.resolved = false ∧ s.timerCleared = false ∧ s.resolutions = [] ∧ s.kills = []

theorem init_pending : Pending init := ⟨rfl, rfl, rfl, rfl⟩

@[simp] theorem init_stdout : init.stdout = "" := rfl

@[simp] theorem init_stderr : init.stderr = "" := rfl

@[simp] theorem init_outputSize : init.outputSize = 0 := rfl

@[simp] theorem onStdout_latch (s : ShellState) (data : Buffer) :
    (onStdout c s data).resolved = s.resolved ∧ (onStdout c s data).timerCleared = s.timerCleared ∧
    (onStdout c s data).resolutions = s.resolutions ∧ (onStdout c s data).kills = s.kills := by
  dsimp only [onStdout]; split_ifs <;> exact ⟨rfl, rfl, rfl, rfl⟩

@[simp] theorem onStderr_latch (s : ShellState) (data : Buffer) :
    (onStderr c s data).resolved = s.resolved ∧ (onStderr c s data).timerCleared = s.timerCleared ∧
    (onStderr c s data).resolutions = s.resolutions ∧ (onStderr c s data).kills = s.kills := by
  dsimp only [onStderr]; split_ifs <;> exact ⟨rfl, rfl, rfl, rfl⟩

/-- The value a settling event gives when it comes first, the handlers' state being `s`; output
gives none. -/
def settleValue (s : ShellState) : ProcEvent → Option CommandResult
  | .timeout => some (.failure ("Command timed out after " ++ c.timeoutText ++ "ms"))
  | .close code => some (closeResult c s.stdout s.stderr s.outputSize code)
  | .error code message => some (.failure (errorMessage c code message))
  | .stdout _ | .stderr _ => none

/-- Once the latch is set, no handler resolves or kills again. -/
theorem step_of_resolved {s : ShellState} (h : s.resolved = true) (e : ProcEvent) :
    (step c s e).resolved = true ∧ (step c s e).resolutions = s.resolutions ∧
      (step c s e).kills = s.kills := by
  cases e <;> simp [step, onTimeout, onClose, onError, h]

theorem run_of_resolved {s : ShellState} (h : s.resolved = true) (evs : List ProcEvent) :
    (run c s evs).resolutions = s.resolutions ∧ (run c s evs).kills = s.kills := by
  induction evs generalizing s with
  | nil => simp
  | cons e evs ih =>
    obtain ⟨h1, h2, h3⟩ := step_of_resolved c h e
    obtain ⟨h4, h5⟩ := ih h1
    simp [h4, h5, h2, h3]

/-- One event on a pending promise: output keeps it pending; a settling event sets the latch,
resolves with its value, and kills the child if it is the timer. -/
theorem step_pending {s : ShellState} (hs : Pending s) (e : ProcEvent) :
    (step c s e).resolutions = (settleValue c s e).toList ∧
    (step c s e).kills = (if e = .timeout then ["SIGKILL"] else []) ∧
    (e.settles = false → Pending (step c s e)) ∧
    (e.settles = true → (step c s e).resolved = true) := by
  obtain ⟨h1, h2, h3, h4⟩ := hs
  cases e <;> simp [step, onTimeout, onClose, onError, settleValue, ProcEvent.settles, Pending,
    h1, h2, h3, h4]

theorem run_pending {s : ShellState} (hs : Pending s) {pre : List ProcEvent}
    (hpre : ∀ e ∈ pre, e.settles = false) : Pending (run c s pre) := by
  induction pre generalizing s with
  | nil => exact hs
  | cons e pre ih =>
    simp only [List.mem_cons, forall_eq_or_imp] at hpre
    exact ih ((step_pending c hs e).2.2.1 hpre.1) hpre.2

theorem exists_first_settle {evs : List ProcEvent} (h : ∃ e ∈ evs, e.settles = true) :
    ∃ pre t post, evs = pre ++ t :: post ∧ (∀ e ∈ pre, e.settles = false) ∧ t.settles = true := by
  induction evs with
  | nil => simp at h
  | cons e evs ih =>
    cases he : e.settles
    · obtain ⟨pre, t, post, rfl, hpre, ht⟩ := ih (by simpa [he] using h)
      refine ⟨e :: pre, t, post, rfl, fun x hx => ?_, ht⟩
      rcases List.mem_cons.mp hx with rfl | hx
      exacts [he, hpre x hx]
    · exact ⟨[], e, evs, rfl, by simp, he⟩

theorem first_settle_unique {pre pre' post post' : List ProcEvent} {t t' : ProcEvent}
    (he : pre ++ t :: post = pre' ++ t' :: post') (hpre : ∀ e ∈ pre, e.settles = false)
    (hpre' : ∀ e ∈ pre', e.settles = false) (ht : t.settles = true) (ht' : t'.settles = true) :
    pre = pre' ∧ t = t' := by
  induction pre generalizing pre' with
  | nil =>
    cases pre' with
    | nil => simp only [List.nil_append, List.cons.injEq] at he; exact ⟨rfl, he.1⟩
    | cons e pre' =>
      simp only [List.nil_append, List.cons_append, List.cons.injEq] at he
      simp [he.1, hpre' e (by simp)] at ht
  | cons e pre ih =>
    cases pre' with
    | nil =>
      simp only [List.nil_append, List.cons_append, List.cons.injEq] at he
      simp [← he.1, hpre e (by simp)] at ht'
    | cons e' pre' =>
      simp only [List.cons_append, List.cons.injEq] at he
      obtain ⟨rfl, rfl⟩ := ih he.2 (fun x hx => hpre x (by simp [hx]))
        (fun x hx => hpre' x (by simp [hx]))
      exact ⟨by rw [he.1], rfl⟩

/-- The run settled by the first settling event `t`, after the events `pre`. -/
theorem run_first_settle {pre post : List ProcEvent} {t : ProcEvent}
    (hpre : ∀ e ∈ pre, e.settles = false) (ht : t.settles = true) :
    (run c init (pre ++ t :: post)).resolutions = (settleValue c (run c init pre) t).toList ∧
    (run c init (pre ++ t :: post)).kills = (if t = .timeout then ["SIGKILL"] else []) := by
  have hp := run_pending c init_pending hpre
  obtain ⟨h1, h2, -, h4⟩ := step_pending c hp t
  rw [run_append, run_cons, (run_of_resolved c (h4 ht) post).1,
    (run_of_resolved c (h4 ht) post).2, h1, h2]
  exact ⟨rfl, rfl⟩

theorem settleValue_isSome {s : ShellState} {t : ProcEvent} (ht : t.settles = true) :
    ∃ v, settleValue c s t = some v := by
  cases t <;> simp_all [settleValue, ProcEvent.settles]

/-- `resolve` is called at most once, and once exactly when a settling event is delivered; the
child is killed only when the timer is the first settling event. -/
theorem resolve_count (evs : List ProcEvent) :
    (run c init evs).resolutions.length ≤ 1 ∧
    ((run c init evs).resolutions.length = 1 ↔ ∃ e ∈ evs, e.settles = true) ∧
    ((run c init evs).kills ≠ [] →
      ∃ pre post, evs = pre ++ .timeout :: post ∧ ∀ e ∈ pre, e.settles = false) := by
  by_cases hex : ∃ e ∈ evs, e.settles = true
  · obtain ⟨pre, t, post, rfl, hpre, ht⟩ := exists_first_settle hex
    obtain ⟨hr, hk⟩ : (run c init (pre ++ t :: post)).resolutions = _ ∧ _ :=
      run_first_settle c hpre ht
    obtain ⟨v, hv⟩ := settleValue_isSome c (s := run c init pre) ht
    rw [hv] at hr
    refine ⟨by simp [hr], ⟨fun _ => hex, fun _ => by simp [hr]⟩, fun hne => ?_⟩
    rw [hk] at hne
    split_ifs at hne with htime
    · exact ⟨pre, post, by rw [htime], hpre⟩
    · exact absurd rfl hne
  · have hp := run_pending c init_pending (show ∀ e ∈ evs, e.settles = false by simpa using hex)
    rw [hp.2.2.1, hp.2.2.2]
    exact ⟨by simp, ⟨by simp, fun h => absurd h hex⟩, fun h => absurd rfl h⟩

/-- For every order of the child's events: `resolve` is called at most once, and once exactly
when a settling event is delivered. Its value is the one the first settling event gives, from
the output captured before it: the timer's failure; for `'close'`, success exactly for exit code
`0`, the captured stdout (marked when output was dropped) as data, and, on failure, the captured
stderr or else the exit code as error; for `'error'`, its message, or the shell named for
`ENOENT` and `EACCES`. `proc.kill('SIGKILL')` is called exactly when the timer is that first
event. -/
theorem resolve_once (evs : List ProcEvent) :
    let s := run c init evs
    s.resolutions.length ≤ 1 ∧
    (s.resolutions.length = 1 ↔ ∃ e ∈ evs, e.settles = true) ∧
    (∀ pre post, (∀ e ∈ pre, e.settles = false) →
      let s₀ := run c init pre
      let suffix := if c.maxOutput < s₀.outputSize then "\n... [output truncated]" else ""
      (evs = pre ++ .timeout :: post →
        s.resolutions =
          [{ success := false, error := some ("Command timed out after " ++ c.timeoutText ++ "ms") }] ∧
        s.kills = ["SIGKILL"]) ∧
      (∀ code, evs = pre ++ .close code :: post →
        s.resolutions =
          [if code = some 0 then { success := true, data := some (.text (s₀.stdout ++ suffix)) }
           else { success := false, data := some (.text (s₀.stdout ++ suffix)),
                  error := some (if s₀.stderr ≠ "" then s₀.stderr
                    else "Process exited with code " ++ codeText code) }] ∧
        s.kills = []) ∧
      (∀ code message, evs = pre ++ .error code message :: post →
        s.resolutions =
          [{ success := false,
             error := some (if code = some "ENOENT" then "Command not found: " ++ c.shellCmd
               else if code = some "EACCES" then "Permission denied: " ++ c.shellCmd
               else message) }] ∧
        s.kills = [])) ∧
    (s.kills ≠ [] → ∃ pre post, evs = pre ++ .timeout :: post ∧ ∀ e ∈ pre, e.settles = false) := by
  intro s
  have hfirst : ∀ {pre t post}, (∀ e ∈ pre, e.settles = false) → t.settles = true →
      evs = pre ++ t :: post → s.resolutions = (settleValue c (run c init pre) t).toList ∧
        s.kills = if t = .timeout then ["SIGKILL"] else [] := by
    rintro pre t post hpre ht rfl
    exact run_first_settle c hpre ht
  refine ⟨(resolve_count c evs).1, (resolve_count c evs).2.1, fun pre post hpre =>
    ⟨fun he => ?_, fun code he => ?_, fun code message he => ?_⟩, (resolve_count c evs).2.2⟩
  · obtain ⟨hr, hk⟩ := hfirst (t := .timeout) hpre rfl he
    exact ⟨hr, by simpa using hk⟩
  · obtain ⟨hr, hk⟩ := hfirst (t := .close code) hpre rfl he
    refine ⟨hr.trans ?_, by simpa using hk⟩
    simp only [settleValue, closeResult, Option.toList]
  · obtain ⟨hr, hk⟩ := hfirst (t := .error code message) hpre rfl he
    refine ⟨hr.trans ?_, by simpa using hk⟩
    simp only [settleValue, errorMessage, Option.toList]
    split_ifs <;> rfl

/-! ## Output capture -/

/-- An output chunk, of stdout or of stderr. -/
inductive Output
  | out (data : Buffer)
  | err (data : Buffer)

/-- The event that delivers a chunk. -/
def Output.event : Output → ProcEvent
  | .out data => .stdout data
  | .err data => .stderr data

/-- The bytes of a chunk. -/
def Output.size : Output → Nat
  | .out data | .err data => data.length

/-- The bytes of chunks. -/
def totalBytes (os : List Output) : Nat := os.foldr (fun o n => o.size + n) 0

@[simp] theorem totalBytes_nil : totalBytes [] = 0 := rfl

@[simp] theorem totalBytes_cons (o : Output) (os : List Output) :
    totalBytes (o :: os) = o.size + totalBytes os := rfl

/-- The longest prefix of the chunks whose running total of bytes stays within `room`. -/
def keptPrefix : Nat → List Output → List Output
  | _, [] => []
  | room, o :: os => if o.size ≤ room then o :: keptPrefix (room - o.size) os else []

/-- The text of stdout's chunks. -/
def stdoutText : List Output → String
  | [] => ""
  | .out data :: os => c.decode data ++ stdoutText os
  | .err _ :: os => stdoutText os

/-- The text of stderr's chunks. -/
def stderrText : List Output → String
  | [] => ""
  | .out _ :: os => stderrText os
  | .err data :: os => c.decode data ++ stderrText os

theorem stdoutText_append (os os' : List Output) :
    stdoutText c (os ++ os') = stdoutText c os ++ stdoutText c os' := by
  induction os with
  | nil => simp [stdoutText]
  | cons o os ih => cases o <;> simp [stdoutText, ih, String.append_assoc]

theorem stderrText_append (os os' : List Output) :
    stderrText c (os ++ os') = stderrText c os ++ stderrText c os' := by
  induction os with
  | nil => simp [stderrText]
  | cons o os ih => cases o <;> simp [stderrText, ih, String.append_assoc]

theorem keptPrefix_isPrefix (room : Nat) (os : List Output) : keptPrefix room os <+: os := by
  induction os generalizing room with
  | nil => exact List.prefix_refl _
  | cons o os ih =>
    simp only [keptPrefix]
    split_ifs
    · exact (List.prefix_cons_inj o).mpr (ih _)
    · exact List.nil_prefix

theorem totalBytes_keptPrefix_le (room : Nat) (os : List Output) :
    totalBytes (keptPrefix room os) ≤ room := by
  induction os generalizing room with
  | nil => simp [keptPrefix, totalBytes]
  | cons o os ih =>
    simp only [keptPrefix]
    split_ifs with h
    · have := ih (room - o.size)
      simp only [totalBytes_cons] at this ⊢
      omega
    · simp [totalBytes]

theorem keptPrefix_of_le {room : Nat} {os : List Output} (h : totalBytes os ≤ room) :
    keptPrefix room os = os := by
  induction os generalizing room with
  | nil => rfl
  | cons o os ih =>
    simp only [totalBytes_cons] at h
    simp only [keptPrefix, show o.size ≤ room by omega, if_true, List.cons.injEq, true_and]
    exact ih (by omega)

theorem step_output_fit {s : ShellState} {o : Output} (h : s.outputSize + o.size ≤ c.maxOutput) :
    (step c s o.event).stdout = s.stdout ++ stdoutText c [o] ∧
    (step c s o.event).stderr = s.stderr ++ stderrText c [o] ∧
    (step c s o.event).outputSize = s.outputSize + o.size := by
  cases o <;> simp_all [step, Output.event, onStdout, onStderr, stdoutText, stderrText, Output.size]

theorem step_output_over {s : ShellState} {o : Output} (h : c.maxOutput < s.outputSize + o.size) :
    (step c s o.event).stdout = s.stdout ∧ (step c s o.event).stderr = s.stderr ∧
    (step c s o.event).outputSize = s.outputSize + o.size := by
  cases o <;> simp only [step, Output.event, onStdout, onStderr, Output.size] at h ⊢ <;>
    rw [if_neg (by omega)] <;> exact ⟨rfl, rfl, rfl⟩

/-- Once the total is past the cap, output is counted and dropped. -/
theorem run_output_over {s : ShellState} (hs : c.maxOutput < s.outputSize) (os : List Output) :
    (run c s (os.map Output.event)).stdout = s.stdout ∧
    (run c s (os.map Output.event)).stderr = s.stderr ∧
    (run c s (os.map Output.event)).outputSize = s.outputSize + totalBytes os := by
  induction os generalizing s with
  | nil => simp [totalBytes]
  | cons o os ih =>
    obtain ⟨h1, h2, h3⟩ := step_output_over c (s := s) (o := o) (by omega)
    obtain ⟨h4, h5, h6⟩ := ih (s := step c s o.event) (by omega)
    simp only [List.map_cons, run_cons]
    refine ⟨h4.trans h1, h5.trans h2, ?_⟩
    rw [h6, h3]
    simp only [totalBytes_cons]
    omega

/-- Output from a state within the cap: the chunks of the longest prefix that fits in the room
left are appended, and every byte is counted. -/
theorem run_output {s : ShellState} (hs : s.outputSize ≤ c.maxOutput) (os : List Output) :
    (run c s (os.map Output.event)).stdout =
      s.stdout ++ stdoutText c (keptPrefix (c.maxOutput - s.outputSize) os) ∧
    (run c s (os.map Output.event)).stderr =
      s.stderr ++ stderrText c (keptPrefix (c.maxOutput - s.outputSize) os) ∧
    (run c s (os.map Output.event)).outputSize = s.outputSize + totalBytes os := by
  induction os generalizing s with
  | nil => simp [keptPrefix, stdoutText, stderrText, totalBytes]
  | cons o os ih =>
    simp only [List.map_cons, run_cons]
    by_cases hfit : s.outputSize + o.size ≤ c.maxOutput
    · obtain ⟨h1, h2, h3⟩ := step_output_fit c hfit
      obtain ⟨h4, h5, h6⟩ := ih (s := step c s o.event) (by omega)
      have hk : keptPrefix (c.maxOutput - s.outputSize) (o :: os) =
          [o] ++ keptPrefix (c.maxOutput - (step c s o.event).outputSize) os := by
        simp only [keptPrefix, show o.size ≤ c.maxOutput - s.outputSize by omega, if_true, h3,
          Nat.sub_sub, List.singleton_append]
      rw [h4, h5, h6, hk, stdoutText_append, stderrText_append, h1, h2, h3]
      refine ⟨String.append_assoc _ _ _, String.append_assoc _ _ _, ?_⟩
      simp only [totalBytes_cons]
      omega
    · obtain ⟨h1, h2, h3⟩ := step_output_over c (s := s) (o := o) (by omega)
      obtain ⟨h4, h5, h6⟩ := run_output_over c (s := step c s o.event) (by omega) os
      have hk : keptPrefix (c.maxOutput - s.outputSize) (o :: os) = [] := by
        simp only [keptPrefix, show ¬ o.size ≤ c.maxOutput - s.outputSize by omega, if_false]
      rw [h4, h5, h6, hk, h1, h2, h3]
      refine ⟨by simp [stdoutText], by simp [stderrText], ?_⟩
      simp only [totalBytes_cons]
      omega

/-- For every interleaving of stdout and stderr chunks delivered before the
promise settles, the text captured is that of the longest prefix of the chunks whose running
total stays within `MAX_OUTPUT_SIZE`; so each stream keeps a prefix of itself and the kept bytes
never pass the cap. The truncation marker follows the output exactly when the total passes the
cap, which is exactly when some byte was not kept; within the cap everything is kept. -/
theorem output_capture (os : List Output) :
    let s := run c init (os.map Output.event)
    let kept := keptPrefix c.maxOutput os
    s.stdout = stdoutText c kept ∧ s.stderr = stderrText c kept ∧
    kept <+: os ∧
    (∃ rest, stdoutText c os = stdoutText c kept ++ stdoutText c rest ∧
      stderrText c os = stderrText c kept ++ stderrText c rest) ∧
    totalBytes kept ≤ c.maxOutput ∧
    (c.maxOutput < totalBytes os ↔ totalBytes kept < totalBytes os) ∧
    (totalBytes os ≤ c.maxOutput → kept = os) ∧
    ∀ code, (closeResult c s.stdout s.stderr s.outputSize code).data =
      some (.text (stdoutText c kept ++
        if c.maxOutput < totalBytes os then "\n... [output truncated]" else "")) := by
  intro s kept
  obtain ⟨h1, h2, h3⟩ := run_output c (s := init) (Nat.zero_le _) os
  simp only [init_stdout, init_stderr, init_outputSize, Nat.sub_zero, String.empty_append,
    Nat.zero_add] at h1 h2 h3
  have hs1 : s.stdout = stdoutText c kept := h1
  have hs2 : s.stderr = stderrText c kept := h2
  have hs3 : s.outputSize = totalBytes os := h3
  obtain ⟨rest, hrest⟩ := keptPrefix_isPrefix c.maxOutput os
  have hle : totalBytes kept ≤ c.maxOutput := totalBytes_keptPrefix_le c.maxOutput os
  refine ⟨hs1, hs2, keptPrefix_isPrefix _ _, ⟨rest, ?_, ?_⟩, hle, ⟨fun _ => by omega, fun h => ?_⟩,
    keptPrefix_of_le, fun code => ?_⟩
  · rw [← stdoutText_append]; exact congrArg _ hrest.symm
  · rw [← stderrText_append]; exact congrArg _ hrest.symm
  · by_contra hc
    have hk : kept = os := keptPrefix_of_le (by omega)
    rw [hk] at h
    omega
  · simp only [closeResult, hs1, hs3]
    split_ifs <;> rfl

end ShellState

end SupportAgent
