import SupportAgent.Executor
import SupportAgent.Proofs.Guards
import Mathlib.Algebra.Order.Ring.Cast
import Mathlib.Algebra.Order.Ring.Rat

/-!
# The calls a command makes

`Exec.Calls P x w` says that every call on the host `x` makes from the world `w` satisfies `P`.
It is built up along the handlers' code: one lemma per call on the host, one for sequencing, and
then one per handler, which says in its hypotheses which calls the handler can make, after which
guards, on which paths. `executeCommand_calls` puts them together: every call `executeCommand`
makes is one `CommandCall` describes, and the safety properties of the executor are read off that
description.
-/

namespace SupportAgent

namespace Exec

/-- Every call `x` makes from `w` satisfies `P`: the trace after it is the trace before, followed
by calls that satisfy `P`. -/
def Calls {α : Type} (P : Effect → Prop) (x : Exec α) (w : World) : Prop :=
  ∃ new, (x w).2.effects = w.effects ++ new ∧ ∀ e ∈ new, P e

variable {α β : Type} {P : Effect → Prop} {w : World}

theorem Calls.mono {Q : Effect → Prop} {x : Exec α} (h : Calls P x w) (hPQ : ∀ e, P e → Q e) :
    Calls Q x w :=
  let ⟨new, hnew, hP⟩ := h
  ⟨new, hnew, fun e he => hPQ e (hP e he)⟩

theorem Calls.pure (a : α) : Calls P (pure a) w := ⟨[], by simp, by simp⟩

theorem Calls.single {x : Exec α} {e : Effect} (hx : (x w).2.effects = w.effects ++ [e])
    (he : P e) : Calls P x w :=
  ⟨[e], hx, by simpa using he⟩

theorem Calls.bind {x : Exec α} {f : α → Exec β} (hx : Calls P x w)
    (hf : ∀ a w', x w = (.ok a, w') → Calls P (f a) w') : Calls P (x >>= f) w := by
  obtain ⟨new, hnew, hP⟩ := hx
  show ∃ new, ((x >>= f) w).2.effects = _ ∧ _
  rw [bind_apply]
  match hxw : x w, hnew with
  | (.ok a, w'), hnew =>
    obtain ⟨new', hnew', hP'⟩ := hf a w' hxw
    refine ⟨new ++ new', by rw [hnew', hnew, List.append_assoc], fun e he => ?_⟩
    rcases List.mem_append.mp he with he | he
    · exact hP e he
    · exact hP' e he
  | (.error _, _), hnew => exact ⟨new, hnew, hP⟩

theorem Calls.getFs {f : FileSystem → Exec α} (h : Calls P (f w.fs) w) :
    Calls P (getFs >>= f) w := h

theorem tryCatch_of_ok {x : Exec α} {h : String → Exec α} {a : α} (hx : (x w).1 = .ok a) :
    tryCatch x h w = x w := by
  unfold tryCatch
  rcases hxw : x w with ⟨_ | _, w'⟩ <;> simp_all

theorem Calls.tryCatch {x : Exec α} {h : String → Exec α} (hx : Calls P x w)
    (hh : ∀ e w', x w = (.error e, w') → Calls P (h e) w') : Calls P (tryCatch x h) w := by
  obtain ⟨new, hnew, hP⟩ := hx
  show ∃ new, (Exec.tryCatch x h w).2.effects = _ ∧ _
  unfold Exec.tryCatch
  match hxw : x w, hnew with
  | (.ok _, _), hnew => exact ⟨new, hnew, hP⟩
  | (.error e, w'), hnew =>
    obtain ⟨new', hnew', hP'⟩ := hh e w' hxw
    refine ⟨new ++ new', by rw [hnew', hnew, List.append_assoc], fun e he => ?_⟩
    rcases List.mem_append.mp he with he | he
    · exact hP e he
    · exact hP' e he

end Exec

open Exec

/-! ## Calls on the host -/

namespace Host

variable (rt : Runtime) {α : Type} {P : Effect → Prop} {w w' : World}

theorem calls_call {syscall path : String} {effect : Option AbsPath → Effect}
    {result : FileSystem → Except Errno (AbsPath × α)}
    (h : P (effect ((result w.fs).toOption.map Prod.fst))) :
    Calls P (call syscall path effect result) w := by
  refine Calls.single (e := effect ((result w.fs).toOption.map Prod.fst)) ?_ h
  unfold call
  split <;> simp [*, Except.toOption]

theorem call_ok {syscall path : String} {effect : Option AbsPath → Effect}
    {result : FileSystem → Except Errno (AbsPath × α)} {a : α}
    (h : call syscall path effect result w = (.ok a, w')) :
    (∃ r, result w.fs = .ok (r, a)) ∧ w'.fs = w.fs := by
  unfold call at h
  split at h <;> cases h
  exact ⟨⟨_, ‹_›⟩, rfl⟩

theorem calls_mkdir {p : RawPath} (h : P (.mkdir p (w.fs.mkdirRecursive rt.cwd rt.now p).2.1)) :
    Calls P (mkdir rt p) w := by
  refine Calls.single ?_ h
  unfold mkdir
  split
  split <;> simp_all

theorem mkdir_ok {p : RawPath} {u : Unit} (h : mkdir rt p w = (.ok u, w')) :
    w'.fs = (w.fs.mkdirRecursive rt.cwd rt.now p).1 := by
  unfold mkdir at h
  split at h
  split at h <;> cases h
  simp [*]

theorem readFile_world (path : String) :
    (readFile rt path w).2 =
      (call "open" path (.readFile path) (fun fs => fs.readFile rt.cwd (Path.fields path)) w).2 := by
  unfold readFile
  split <;> simp_all

theorem calls_readFile {path : String}
    (h : P (.readFile path ((w.fs.readFile rt.cwd (Path.fields path)).toOption.map Prod.fst))) :
    Calls P (readFile rt path) w := by
  have hc : Calls P (call "open" path (.readFile path) fun fs => fs.readFile rt.cwd
      (Path.fields path)) w := calls_call h
  obtain ⟨new, hnew, hP⟩ := hc
  exact ⟨new, by rw [readFile_world, hnew], hP⟩

theorem calls_writeFile {path content : String}
    (h : P (.writeFile path content (w.fs.writeTarget rt.cwd (Path.fields path)).toOption)) :
    Calls P (writeFile rt path content) w := by
  refine Calls.single ?_ h
  unfold writeFile
  split
  · split <;> simp [*, Except.toOption]
  · simp [*, Except.toOption]

theorem calls_kill {pid : JsNum} {signal : String} (h : P (.kill pid signal)) :
    Calls P (kill rt pid signal) w :=
  Calls.single rfl h

theorem calls_spawnShell {K : Constants} {env : Env} {request : SpawnRequest} {timeout : JsNum}
    (h : P (.spawn request timeout (spawnCwd rt w.fs request.cwd).toOption)) :
    Calls P (spawnShell rt K env request timeout) w :=
  Calls.single rfl h

end Host

/-! ## The handlers -/

section Handlers

variable (K : Constants) (rt : Runtime) {P : Effect → Prop} {w : World}

theorem executeShellCommand_calls (env : Env) (payload : Payload)
    (hspawn : ∀ command timeout cwd, shellGuards K rt w.fs payload = .ok (command, timeout, cwd) →
      P (.spawn ⟨shellCmd rt, shellArgs rt command, cwd, buildSafeEnv env⟩ timeout
        (Host.spawnCwd rt w.fs cwd).toOption)) :
    Calls P (executeShellCommand K rt env payload) w := by
  unfold executeShellCommand
  refine Calls.getFs ?_
  split
  · exact Calls.pure _
  · exact Host.calls_spawnShell rt (hspawn _ _ _ ‹_›)

theorem fileRead_calls (payload : Payload)
    (hstat : ∀ path, resolveAndValidatePath w.fs rt.cwd rt.homedir payload none = .ok path →
      P (.stat path ((w.fs.stat rt.cwd (Path.fields path)).toOption.map Prod.fst)))
    (hread : ∀ path r n, resolveAndValidatePath w.fs rt.cwd rt.homedir payload none = .ok path →
      w.fs.stat rt.cwd (Path.fields path) = .ok (r, n) → n.size ≤ K.MAX_FILE_READ_SIZE →
      P (.readFile path ((w.fs.readFile rt.cwd (Path.fields path)).toOption.map Prod.fst))) :
    Calls P (fileRead K rt payload) w := by
  unfold fileRead
  refine Calls.getFs ?_
  split
  · exact Calls.pure _
  · rename_i path hpath
    refine Calls.bind (Host.calls_call (hstat path hpath)) fun n w' hn => ?_
    obtain ⟨⟨r, hr⟩, hfs⟩ := Host.call_ok hn
    split
    · exact Calls.pure _
    · refine Calls.bind (Host.calls_readFile rt ?_) fun _ _ _ => Calls.pure _
      rw [hfs]
      exact hread path r n hpath hr (by omega)

/-- The file system `fileWrite` writes on: after the directories `mkdir` created, when it was
asked to create them. -/
def fsBeforeWrite (fs : FileSystem) (payload : Payload) (path : String) : FileSystem :=
  if (payload "createDirectories").truthy then
    (fs.mkdirRecursive rt.cwd rt.now (Path.dirname (Path.fields path))).1
  else fs

theorem fileWrite_calls (payload : Payload)
    (hmkdir : ∀ path content, writeGuards K rt w.fs payload = .ok (path, content) →
      (payload "createDirectories").truthy = true →
      P (.mkdir (Path.dirname (Path.fields path))
        (w.fs.mkdirRecursive rt.cwd rt.now (Path.dirname (Path.fields path))).2.1))
    (hwrite : ∀ path content, writeGuards K rt w.fs payload = .ok (path, content) →
      P (.writeFile path content
        ((fsBeforeWrite rt w.fs payload path).writeTarget rt.cwd (Path.fields path)).toOption)) :
    Calls P (fileWrite K rt payload) w := by
  unfold fileWrite
  refine Calls.getFs ?_
  split
  · exact Calls.pure _
  · rename_i path content hg
    have hw := hwrite path content hg
    split
    · rename_i hc
      refine Calls.bind (Host.calls_mkdir rt (hmkdir path content hg hc)) fun _ w' hw' => ?_
      refine Calls.bind (Host.calls_writeFile rt ?_) fun _ _ _ => Calls.pure _
      rw [Host.mkdir_ok rt hw']
      simpa [fsBeforeWrite, hc] using hw
    · rename_i hc
      refine Calls.bind (Calls.pure ()) fun _ w' hw' => ?_
      cases hw'
      refine Calls.bind (Host.calls_writeFile rt ?_) fun _ _ _ => Calls.pure _
      simpa [fsBeforeWrite, hc] using hw

theorem fileList_calls (payload : Payload)
    (hreaddir : ∀ path,
      resolveAndValidatePath w.fs rt.cwd rt.homedir payload (some ".") = .ok path →
      P (.readdir path ((w.fs.readdir rt.cwd (Path.fields path)).toOption.map Prod.fst))) :
    Calls P (fileList K rt payload) w := by
  unfold fileList
  refine Calls.getFs ?_
  split
  · exact Calls.pure _
  · exact Calls.bind (Host.calls_call (hreaddir _ ‹_›)) fun _ _ _ => Calls.getFs (Calls.pure _)

theorem processKill_calls (payload : Payload)
    (hkill : ∀ pid signal, killGuards payload = .ok (pid, signal) → P (.kill pid signal)) :
    Calls P (processKill rt payload) w := by
  unfold processKill
  split
  · exact Calls.pure _
  · refine Calls.bind (Host.calls_kill rt (hkill _ _ ‹_›)) fun r _ _ => ?_
    cases r <;> exact Calls.pure _

/-- The payload the shell handler of `type` reads: the command's, or the one `processList`
builds. -/
def shellPayload (type : String) (payload : Payload) : Payload :=
  if type = "process_list" then processListPayload K rt else payload

/-- The calls `executeCommand` can make for `type` and `payload` from the file system `fs`: each
is made by the handler of `type` after its guards passed, on what they approved. -/
def CommandCall (env : Env) (fs : FileSystem) (type : String) (payload : Payload) : Effect → Prop
  | .spawn request timeout o =>
    (type = "execute_command" ∨ type = "process_list") ∧
    ∃ command cwd,
      shellGuards K rt fs (shellPayload K rt type payload) = .ok (command, timeout, cwd) ∧
      request = ⟨shellCmd rt, shellArgs rt command, cwd, buildSafeEnv env⟩ ∧
      o = (Host.spawnCwd rt fs cwd).toOption
  | .stat path o =>
    type = "file_read" ∧ resolveAndValidatePath fs rt.cwd rt.homedir payload none = .ok path ∧
      o = (fs.stat rt.cwd (Path.fields path)).toOption.map Prod.fst
  | .readFile path o =>
    type = "file_read" ∧ resolveAndValidatePath fs rt.cwd rt.homedir payload none = .ok path ∧
      (∃ r n, fs.stat rt.cwd (Path.fields path) = .ok (r, n) ∧ n.size ≤ K.MAX_FILE_READ_SIZE) ∧
      o = (fs.readFile rt.cwd (Path.fields path)).toOption.map Prod.fst
  | .readdir path o =>
    type = "file_list" ∧
      resolveAndValidatePath fs rt.cwd rt.homedir payload (some ".") = .ok path ∧
      o = (fs.readdir rt.cwd (Path.fields path)).toOption.map Prod.fst
  | .mkdir p created =>
    type = "file_write" ∧ (payload "createDirectories").truthy ∧
    ∃ path content, writeGuards K rt fs payload = .ok (path, content) ∧
      p = Path.dirname (Path.fields path) ∧ created = (fs.mkdirRecursive rt.cwd rt.now p).2.1
  | .writeFile path content o =>
    type = "file_write" ∧ writeGuards K rt fs payload = .ok (path, content) ∧
      o = ((fsBeforeWrite rt fs payload path).writeTarget rt.cwd (Path.fields path)).toOption
  | .kill pid signal => type = "process_kill" ∧ killGuards payload = .ok (pid, signal)

/-- Every call `executeCommand` makes is one its handler makes after its guards passed. -/
theorem executeCommand_calls (env : Env) (type : String) (payload : Payload) (w : World) :
    Calls (CommandCall K rt env w.fs type payload) (executeCommand K rt env type payload) w := by
  unfold executeCommand
  refine Calls.tryCatch ?_ fun _ _ _ => Calls.pure _
  split
  · exact executeShellCommand_calls K rt env payload fun c t d h =>
      ⟨.inl rfl, c, d, by simpa [shellPayload] using h, rfl, rfl⟩
  · exact fileRead_calls K rt payload (fun p h => ⟨rfl, h, rfl⟩)
      fun p r n h hs hn => ⟨rfl, h, ⟨r, n, hs, hn⟩, rfl⟩
  · exact fileWrite_calls K rt payload (fun p c h hc => ⟨rfl, hc, p, c, h, rfl, rfl⟩)
      fun p c h => ⟨rfl, h, rfl⟩
  · exact fileList_calls K rt payload fun p h => ⟨rfl, h, rfl⟩
  · exact executeShellCommand_calls K rt env _ fun c t d h =>
      ⟨.inr rfl, c, d, by simpa [shellPayload] using h, rfl, rfl⟩
  · exact processKill_calls rt payload fun pid signal h => ⟨rfl, h⟩
  · exact Calls.pure _

theorem executeCommand_file_list (env : Env) (payload : Payload) :
    executeCommand K rt env "file_list" payload =
      (fileList K rt payload).tryCatch fun message => pure (.failure message) := rfl

theorem executeCommand_file_write (env : Env) (payload : Payload) :
    executeCommand K rt env "file_write" payload =
      (fileWrite K rt payload).tryCatch fun message => pure (.failure message) := rfl

/-! ## The guards -/

variable {K rt}

theorem JsNum.fin_of_in_range {x : JsNum} {m : ℚ} (hx : x ≠ .nan)
    (h : ¬ (x.lt (.fin 1) || (JsNum.fin m).lt x) = true) :
    ∃ t : ℚ, x = .fin t ∧ 1 ≤ t ∧ t ≤ m := by
  cases x with
  | fin q =>
    simp only [JsNum.lt, decide_eq_true_eq, Bool.or_eq_true, not_or, not_lt] at h
    exact ⟨q, rfl, h⟩
  | nan => exact absurd rfl hx
  | _ => simp [JsNum.lt] at h

/-- A command the shell guards pass is a non-empty string no blocked pattern matches, run with a
timeout between 1 and `MAX_CMD_TIMEOUT` and from a directory the path check accepts. -/
theorem shellGuards_ok {fs : FileSystem} {payload : Payload} {command cwd : String}
    {timeout : JsNum} (h : shellGuards K rt fs payload = .ok (command, timeout, cwd)) :
    command ≠ "" ∧ validateCommand rt.regexTest command = none ∧
      (∃ t : ℚ, timeout = .fin t ∧ 1 ≤ t ∧ t ≤ K.MAX_CMD_TIMEOUT) ∧
      validateFilePath fs rt.cwd rt.homedir cwd = none := by
  unfold shellGuards at h
  split at h
  · cases h
  · rename_i c hc
    split at h
    · cases h
    · rename_i hv
      dsimp only at h
      split at h
      · cases h
      · rename_i hrange
        split at h
        · cases h
        · cases h
          refine ⟨parseString_ne_empty hc, hv, JsNum.fin_of_in_range ?_ hrange, ‹_›⟩
          cases hx : parseNumber (payload "timeout") with
          | none => simp
          | some x => exact parseNumber_ne_nan hx

/-- A write the guards pass is of a path the path check accepts, with string content whose
length (in UTF-16 code units) is at most `MAX_FILE_WRITE_SIZE`. -/
theorem writeGuards_ok {fs : FileSystem} {payload : Payload} {path content : String}
    (h : writeGuards K rt fs payload = .ok (path, content)) :
    resolveAndValidatePath fs rt.cwd rt.homedir payload none = .ok path ∧
      payload "content" = .str content ∧ jsLength content ≤ K.MAX_FILE_WRITE_SIZE := by
  unfold writeGuards at h
  split at h
  · cases h
  · split at h
    · split at h
      · cases h
      · cases h
        exact ⟨‹_›, ‹_›, by omega⟩
    · cases h

theorem JsNum.nat_of_positive_integer {x : JsNum}
    (h : ¬ (!x.truthy || x.lt (.fin 1) || !x.isInteger) = true) :
    ∃ n : Nat, 1 ≤ n ∧ x = .fin n := by
  cases x with
  | fin q =>
    simp only [JsNum.truthy, JsNum.lt, JsNum.isInteger, Bool.or_eq_true, Bool.not_eq_true',
      decide_eq_true_eq, not_or, Bool.not_eq_false, beq_iff_eq, bne_iff_ne, ne_eq, not_lt] at h
    obtain ⟨⟨-, h1⟩, hden⟩ := h
    have hq : (q.num : ℚ) = q := Rat.coe_int_num_of_den_eq_one hden
    have hnum : 1 ≤ q.num := by rw [← hq] at h1; exact_mod_cast h1
    obtain ⟨n, hn⟩ := Int.eq_ofNat_of_zero_le (by omega : 0 ≤ q.num)
    refine ⟨n, by omega, ?_⟩
    rw [← hq, hn, Int.cast_natCast]
  | _ => simp [JsNum.truthy, JsNum.lt, JsNum.isInteger] at h

/-- A kill the guards pass sends an allowed signal to an integer pid of at least 1. -/
theorem killGuards_ok {payload : Payload} {pid : JsNum} {signal : String}
    (h : killGuards payload = .ok (pid, signal)) :
    (∃ n : Nat, 1 ≤ n ∧ pid = .fin n) ∧ signal ∈ ALLOWED_SIGNALS := by
  unfold killGuards at h
  split at h
  · cases h
  · split at h
    · cases h
    · rename_i hx
      dsimp only at h
      split at h
      · cases h
        exact ⟨JsNum.nat_of_positive_integer hx, ‹_›⟩
      · cases h

variable (K rt)

/-- The rejection a guard returned, if it did. -/
def rejectionOf {α : Type} : Except CommandResult α → Option CommandResult
  | .error r => some r
  | .ok _ => none

/-- The rejection by one of its guards that `executeCommand` returns for `type` and `payload` from
the file system `fs`, if it returns one: the guards of the handler of `type` in the order it runs
them (the size of the file `fileRead` reads is checked on what `stat` gives), or the unknown
type. -/
def guardRejection (fs : FileSystem) (type : String) (payload : Payload) : Option CommandResult :=
  match type with
  | "execute_command" => rejectionOf (shellGuards K rt fs payload)
  | "file_read" =>
    match resolveAndValidatePath fs rt.cwd rt.homedir payload none with
    | .error r => some r
    | .ok path =>
      match fs.stat rt.cwd (Path.fields path) with
      | .ok (_, n) => if K.MAX_FILE_READ_SIZE < n.size then some (fileTooLarge K n.size) else none
      | .error _ => none
  | "file_write" => rejectionOf (writeGuards K rt fs payload)
  | "file_list" => rejectionOf (resolveAndValidatePath fs rt.cwd rt.homedir payload (some "."))
  | "process_list" => rejectionOf (shellGuards K rt fs (processListPayload K rt))
  | "process_kill" => rejectionOf (killGuards payload)
  | _ => some (.failure ("Unknown command type: " ++ type))

/-- A shell is spawned with a command that is a non-empty string no blocked pattern matches, a
timeout `t` with `1 ≤ t ≤ MAX_CMD_TIMEOUT`, and a working directory `validateFilePath` accepts on
the file system `fs`. -/
def SpawnAllowed (fs : FileSystem) : Effect → Prop
  | .spawn request timeout _ =>
    ∃ command t, request.args = shellArgs rt command ∧ command ≠ "" ∧
      (∀ pattern ∈ BLOCKED_COMMAND_PATTERNS, rt.regexTest pattern command = false) ∧
      timeout = .fin t ∧ 1 ≤ t ∧ t ≤ K.MAX_CMD_TIMEOUT ∧
      validateFilePath fs rt.cwd rt.homedir request.cwd = none
  | _ => True

/-- `process.kill` is called with an integer pid of at least 1 and a signal of
`ALLOWED_SIGNALS`, which holds no `SIGKILL`. -/
def KillAllowed : Effect → Prop
  | .kill pid signal => ∃ n : Nat, 1 ≤ n ∧ pid = .fin n ∧ signal ∈ ALLOWED_SIGNALS
  | _ => True

variable {K rt} {env : Env} {fs : FileSystem} {type : String} {payload : Payload} {e : Effect}

theorem spawnAllowed_of_commandCall (hc : CommandCall K rt env fs type payload e) :
    SpawnAllowed K rt fs e := by
  cases e with
  | spawn request timeout o =>
    obtain ⟨-, command, cwd, hg, rfl, -⟩ := hc
    obtain ⟨hne, hv, ⟨t, rfl, ht⟩, hcwd⟩ := shellGuards_ok hg
    exact ⟨command, t, rfl, hne, validateCommand_eq_none.mp hv, rfl, ht.1, ht.2, hcwd⟩
  | _ => trivial

theorem killAllowed_of_commandCall (hc : CommandCall K rt env fs type payload e) :
    KillAllowed e := by
  cases e with
  | kill pid signal =>
    obtain ⟨⟨n, hn, rfl⟩, hs⟩ := killGuards_ok hc.2
    exact ⟨n, hn, rfl, hs⟩
  | _ => trivial

/-- A call made when a guard rejects is the `stat` before the size check of `fileRead`. -/
theorem stat_of_guardRejection {r : CommandResult}
    (h : guardRejection K rt fs type payload = some r)
    (hc : CommandCall K rt env fs type payload e) : ∃ path o, e = .stat path o := by
  cases e with
  | stat path o => exact ⟨path, o, rfl⟩
  | readFile path o =>
    obtain ⟨rfl, hp, ⟨r', n, hs, hn⟩, -⟩ := hc
    simp [guardRejection, hp, hs, Nat.not_lt.mpr hn] at h
  | readdir path o =>
    obtain ⟨rfl, hp, -⟩ := hc
    simp [guardRejection, rejectionOf, hp] at h
  | mkdir p created =>
    obtain ⟨rfl, -, path, content, hg, -⟩ := hc
    simp [guardRejection, rejectionOf, hg] at h
  | writeFile path content o =>
    obtain ⟨rfl, hg, -⟩ := hc
    simp [guardRejection, rejectionOf, hg] at h
  | spawn request timeout o =>
    obtain ⟨htype, command, cwd, hg, -⟩ := hc
    rcases htype with rfl | rfl <;> simp [shellPayload] at hg <;>
      simp [guardRejection, rejectionOf, hg] at h
  | kill pid signal =>
    obtain ⟨rfl, hg⟩ := hc
    simp [guardRejection, rejectionOf, hg] at h

variable {w : World} {r : CommandResult}

theorem executeShellCommand_rejected (h : shellGuards K rt w.fs payload = .error r) :
    executeShellCommand K rt env payload w = (.ok r, w) := by
  simp [executeShellCommand, h]

theorem executeCommand_of_guardRejection (h : guardRejection K rt w.fs type payload = some r) :
    (executeCommand K rt env type payload w).1 = .ok r := by
  unfold guardRejection at h
  split at h
  · cases hg : shellGuards K rt w.fs payload <;> simp [rejectionOf, hg] at h
    subst h
    simp [executeCommand, Exec.tryCatch, executeShellCommand_rejected hg]
  · cases hp : resolveAndValidatePath w.fs rt.cwd rt.homedir payload none with
    | error r' =>
      simp only [hp, Option.some.injEq] at h
      subst h
      simp [executeCommand, Exec.tryCatch, fileRead, hp]
    | ok path =>
      cases hs : w.fs.stat rt.cwd (Path.fields path) with
      | error _ => simp [hp, hs] at h
      | ok v =>
        obtain ⟨r', n⟩ := v
        by_cases hn : K.MAX_FILE_READ_SIZE < n.size
        · simp only [hp, hs, hn, if_true, Option.some.injEq] at h
          subst h
          simp only [executeCommand, Exec.tryCatch, fileRead, Exec.getFs_bind, hp]
          simp [Exec.bind_apply, Host.stat, Host.call, hs, hn]
        · simp [hp, hs, hn] at h
  · cases hg : writeGuards K rt w.fs payload <;> simp [rejectionOf, hg] at h
    subst h
    simp [executeCommand, Exec.tryCatch, fileWrite, hg]
  · cases hp : resolveAndValidatePath w.fs rt.cwd rt.homedir payload (some ".") <;>
      simp [rejectionOf, hp] at h
    subst h
    simp [executeCommand, Exec.tryCatch, fileList, hp]
  · cases hg : shellGuards K rt w.fs (processListPayload K rt) <;> simp [rejectionOf, hg] at h
    subst h
    simp [executeCommand, Exec.tryCatch, processList, executeShellCommand_rejected hg]
  · cases hg : killGuards payload <;> simp [rejectionOf, hg] at h
    subst h
    simp [executeCommand, Exec.tryCatch, processKill, hg]
  · cases h
    simp_all [executeCommand, Exec.tryCatch]

/-- Whatever the command type and the payload: a shell is spawned only with an allowed command,
timeout and working directory, `process.kill` only with an integer pid of at least 1 and an
allowed signal; and when a guard rejects, the rejection is the result and the only call made is
the `stat` before the size check of `fileRead`. -/
theorem executeCommand_guarded (type : String) (payload : Payload) (w : World) :
    ∃ new, (executeCommand K rt env type payload w).2.effects = w.effects ++ new ∧
      (∀ e ∈ new, SpawnAllowed K rt w.fs e ∧ KillAllowed e) ∧
      ∀ r, guardRejection K rt w.fs type payload = some r →
        (executeCommand K rt env type payload w).1 = .ok r ∧
          ∀ e ∈ new, ∃ path o, e = .stat path o := by
  obtain ⟨new, hnew, hcall⟩ := executeCommand_calls K rt env type payload w
  exact ⟨new, hnew,
    fun e he => ⟨spawnAllowed_of_commandCall (hcall e he), killAllowed_of_commandCall (hcall e he)⟩,
    fun r hr => ⟨executeCommand_of_guardRejection hr,
      fun e he => stat_of_guardRejection hr (hcall e he)⟩⟩

/-! ## The environment -/

theorem executeShellCommand_ok (env : Env) (payload : Payload) (w : World) :
    ∃ r, (executeShellCommand K rt env payload w).1 = .ok r := by
  simp only [executeShellCommand, Exec.getFs_bind]
  rcases shellGuards K rt w.fs payload with _ | ⟨_, _, _⟩ <;> exact ⟨_, rfl⟩

/-- The calls a shell command makes depend on the environment only through the safe one. -/
theorem executeShellCommand_effects {env₁ env₂ : Env} (h : buildSafeEnv env₁ = buildSafeEnv env₂)
    (payload : Payload) (w : World) :
    (executeShellCommand K rt env₁ payload w).2.effects =
      (executeShellCommand K rt env₂ payload w).2.effects := by
  simp only [executeShellCommand, Exec.getFs_bind, h]
  rcases shellGuards K rt w.fs payload with _ | ⟨_, _, _⟩ <;> rfl

/-- A spawned shell receives the host environment restricted to `SAFE_ENV_KEYS`, each name once.
So two environments that agree on `SAFE_ENV_KEYS` make a command call the host the same way,
every spawn request and the environment in it included. What the shell does with what it can
read besides that environment is another matter (`token_reaches_shell`). -/
theorem executeCommand_shell_env (env : Env) :
    (∀ k, (buildSafeEnv env).lookup k = if k ∈ SAFE_ENV_KEYS then env k else none) ∧
    List.Sublist ((buildSafeEnv env).map Prod.fst) SAFE_ENV_KEYS ∧
    (∀ type payload w, ∃ new, (executeCommand K rt env type payload w).2.effects = w.effects ++ new ∧
      ∀ e ∈ new, ∀ request timeout o, e = .spawn request timeout o →
        request.env = buildSafeEnv env) ∧
    ∀ env', (∀ k ∈ SAFE_ENV_KEYS, env k = env' k) → ∀ type payload w,
      (executeCommand K rt env type payload w).2.effects =
        (executeCommand K rt env' type payload w).2.effects := by
  refine ⟨lookup_buildSafeEnv env, buildSafeEnv_keys_sublist env, fun type payload w => ?_,
    fun env' h type payload w => ?_⟩
  · obtain ⟨new, hnew, hcall⟩ := executeCommand_calls K rt env type payload w
    refine ⟨new, hnew, fun e he request timeout o hs => ?_⟩
    have hc := hcall e he
    subst hs
    obtain ⟨-, command, cwd, -, rfl, -⟩ := hc
    rfl
  · have hshell : ∀ payload, (Exec.tryCatch (executeShellCommand K rt env payload)
        (fun message => pure (.failure message)) w).2.effects =
        (Exec.tryCatch (executeShellCommand K rt env' payload)
          (fun message => pure (.failure message)) w).2.effects := fun payload => by
      obtain ⟨_, h₁⟩ := executeShellCommand_ok env payload w
      obtain ⟨_, h₂⟩ := executeShellCommand_ok env' payload w
      rw [Exec.tryCatch_of_ok h₁, Exec.tryCatch_of_ok h₂]
      exact executeShellCommand_effects (buildSafeEnv_congr h) payload w
    unfold executeCommand processList
    split <;> first | exact hshell _ | rfl

end Handlers

/-! ## A host for the examples -/

/-- A Linux host whose working directory is the root and whose home directory is `/root`; what
else it does plays no part in the examples. -/
def rootRuntime : Runtime where
  cwd := []
  homedir := "/root"
  platform := "linux"
  now := 0
  regexTest _ _ := false
  numberToString _ := ""
  isoString _ := ""
  decode _ := ""
  shellEvents _ _ _ _ := []
  shellFs _ fs _ _ := fs
  writeFault _ _ := none
  killError _ _ := none

@[simp] theorem rootRuntime_writeFault (t : AbsPath) (content : String) :
    rootRuntime.writeFault t content = none := rfl

/-- Limits of one, for the examples that need values for them. -/
def unitConstants : Constants := ⟨1, 1, 1, 1, 1, 1, 1⟩

/-! ## The shell reads the agent's environment

The child runs as the agent's user, so it can read the agent's own environment from
`/proc/<ppid>/environ`, whatever `env` the spawn passed. -/

/-- A host whose shell, asked to run `cat /proc/$PPID/environ`, prints the agent's token, and
whose `Buffer.prototype.toString()` reads ASCII. -/
def environRuntime : Runtime :=
  { rootRuntime with
    decode := fun bytes => String.mk (bytes.map fun b => Char.ofNat b.toNat)
    shellEvents := fun env _ request _ =>
      if request.args = ["-c", "cat /proc/$PPID/environ"] then
        [.stdout ("AI_SUPPORT_AGENT_TOKEN=" ++ (env "AI_SUPPORT_AGENT_TOKEN").getD "").toUTF8.data.toList,
          .close (some 0)]
      else [] }

/-- A root directory holding the home directory `/root`. -/
def homeFs : FileSystem := .ofList [([], ⟨.dir ["root"], 0, 0⟩), (["root"], ⟨.dir [], 0, 0⟩)]

/-- A host environment that defines the agent's token alone. -/
def tokenEnv (token : String) : Env := fun key =>
  if key = "AI_SUPPORT_AGENT_TOKEN" then some token else none

/-- The payload of the shell command that prints the parent's environment. -/
def environPayload : Payload := fun key =>
  if key = "command" then .str "cat /proc/$PPID/environ" else .undefined

/-- Two environments that agree on `SAFE_ENV_KEYS` and differ in the token: the same shell
command reports each token. -/
theorem token_reaches_shell :
    (∀ k ∈ SAFE_ENV_KEYS, tokenEnv "a" k = tokenEnv "b" k) ∧
    (executeCommand { unitConstants with MAX_OUTPUT_SIZE := 64 } environRuntime (tokenEnv "a")
      "execute_command" environPayload ⟨homeFs, []⟩).1 =
      .ok { success := true, data := some (.text "AI_SUPPORT_AGENT_TOKEN=a") } ∧
    (executeCommand { unitConstants with MAX_OUTPUT_SIZE := 64 } environRuntime (tokenEnv "b")
      "execute_command" environPayload ⟨homeFs, []⟩).1 =
      .ok { success := true, data := some (.text "AI_SUPPORT_AGENT_TOKEN=b") } :=
  ⟨by decide, by decide, by decide⟩

end SupportAgent
