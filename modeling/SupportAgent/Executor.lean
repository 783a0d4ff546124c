import SupportAgent.Guards
import SupportAgent.Shell

/-!
# The command executor

`executeCommand` (`src/unnamed/part_002`, lines 107–327) sends a command to one of six handlers
and turns whatever they throw into a failed result. A handler runs in `Exec`: it reads and changes
the file system, records each call it makes on the host (`fs.promises`, `spawn`, `process.kill`)
in a trace, and returns a value or throws. What the host does that the executor cannot decide (the
events a spawned shell delivers and the files it changes, whether a `write` or `process.kill`
fails, how the runtime matches a regular expression or prints a number) comes from a `Runtime`;
the environment variables are an argument of their own, so that two runs can be compared.

A handler starts with its guards, which only read the file system. They are the pure functions
`shellGuards`, `resolveAndValidatePath`, `writeGuards` and `killGuards`, and a handler returns
their rejection before any call on the host; only `fileRead` checks the size `stat` gives after
calling it.
-/

namespace SupportAgent

/-- The arguments of `spawn(file, args, { cwd, env })`. -/
structure SpawnRequest where
  file : String
  args : List String
  cwd : String
  env : List (String × String)
  deriving DecidableEq, Repr

/-- A call on the host, with the object it reached once every link was followed (`none` when it
failed before reaching one). -/
inductive Effect
  /-- `fs.promises.stat(path)`. -/
  | stat (path : String) (object : Option AbsPath)
  /-- `fs.promises.readFile(path, 'utf-8')`. -/
  | readFile (path : String) (object : Option AbsPath)
  /-- `fs.promises.readdir(path, { withFileTypes: true })`. -/
  | readdir (path : String) (object : Option AbsPath)
  /-- `fs.promises.mkdir(path, { recursive: true })`, with the directories it created. -/
  | mkdir (path : RawPath) (created : List AbsPath)
  /-- `fs.promises.writeFile(path, content, 'utf-8')`. -/
  | writeFile (path content : String) (object : Option AbsPath)
  /-- `spawn`, the delay of the timer armed after it, and the directory the shell started in. -/
  | spawn (request : SpawnRequest) (timeout : JsNum) (cwdObject : Option AbsPath)
  /-- `process.kill(pid, signal)`. -/
  | kill (pid : JsNum) (signal : String)
  deriving DecidableEq, Repr

/-- The objects a call read, listed, created, wrote or started a shell in. -/
def Effect.objects : Effect → List AbsPath
  | .stat _ o | .readFile _ o | .readdir _ o | .writeFile _ _ o | .spawn _ _ o => o.toList
  | .mkdir _ created => created
  | .kill _ _ => []

/-- What the executor reads from the runtime and the host besides the file system and the
environment. It does not change while a command runs. -/
structure Runtime where
  /-- `process.cwd()`. -/
  cwd : AbsPath
  /-- `os.homedir()`. -/
  homedir : String
  /-- `os.platform()`. -/
  platform : String
  /-- The time a file or a directory made now gets. -/
  now : Int
  /-- `pattern.test(s)`, for a pattern of `BLOCKED_COMMAND_PATTERNS` as it prints. -/
  regexTest : String → String → Bool
  /-- A number in a template literal. -/
  numberToString : JsNum → String
  /-- `toISOString()` of a time in the range of `Date`. -/
  isoString : Int → String
  /-- `Buffer.prototype.toString()`. -/
  decode : Buffer → String
  /-- The events the handlers of a spawned shell receive, the timer's callback included, given
  the agent's own environment (which the child can read from `/proc/<ppid>/environ`), the file
  system the shell starts on, the request and the timer's delay. -/
  shellEvents : Env → FileSystem → SpawnRequest → JsNum → List ProcEvent
  /-- The file system the shell leaves, from the same data. -/
  shellFs : Env → FileSystem → SpawnRequest → JsNum → FileSystem
  /-- How `writeFile` of a content to a file it opened fails: the number of bytes its `write`s
  put in the file before one failed (a full disk, a quota, a size limit), and the message that
  `write` throws; `none` when every `write` succeeds. -/
  writeFault : AbsPath → String → Option (Nat × String)
  /-- The message `process.kill(pid, signal)` throws, or `none` when it succeeds. -/
  killError : JsNum → String → Option String

/-- The state a command runs on: the file system, and the calls made so far, oldest first. -/
structure World where
  fs : FileSystem
  effects : List Effect

/-- The executor's asynchronous code: from a world, a value or the message thrown, and the world
after. -/
def Exec (α : Type) : Type := World → Except String α × World

namespace Exec

/-- Sequencing: the second step runs on the world the first one left, unless it threw. -/
def bind {α β : Type} (x : Exec α) (f : α → Exec β) : Exec β := fun w =>
  match x w with
  | (.ok a, w') => f a w'
  | (.error e, w') => (.error e, w')

instance : Monad Exec where
  pure a := fun w => (.ok a, w)
  bind := bind

/-- `try { x } catch (error) { handler(message) }`. -/
def tryCatch {α : Type} (x : Exec α) (handler : String → Exec α) : Exec α := fun w =>
  match x w with
  | (.ok a, w') => (.ok a, w')
  | (.error e, w') => handler e w'

/-- The file system, read. -/
def getFs : Exec FileSystem := fun w => (.ok w.fs, w)

@[simp] theorem pure_apply {α : Type} (a : α) (w : World) : (pure a : Exec α) w = (.ok a, w) :=
  rfl

@[simp] theorem getFs_bind {α : Type} (f : FileSystem → Exec α) (w : World) :
    (getFs >>= f) w = f w.fs w := rfl

theorem bind_apply {α β : Type} (x : Exec α) (f : α → Exec β) (w : World) :
    (x >>= f) w = match x w with
      | (.ok a, w') => f a w'
      | (.error e, w') => (.error e, w') := rfl

end Exec

/-! ## Calls on the host -/

namespace Host

variable (rt : Runtime)

/-- A call of `fs.promises` that only reads: its effect, with the object reached when it
succeeds, and the message it throws when it fails. -/
def call {α : Type} (syscall path : String) (effect : Option AbsPath → Effect)
    (result : FileSystem → Except Errno (AbsPath × α)) : Exec α := fun w =>
  match result w.fs with
  | .ok (r, a) => (.ok a, ⟨w.fs, w.effects ++ [effect (some r)]⟩)
  | .error e => (.error (e.message syscall path), ⟨w.fs, w.effects ++ [effect none]⟩)

/-- `fs.promises.stat(path)`. -/
def stat (path : String) : Exec Node :=
  call "stat" path (.stat path) fun fs => fs.stat rt.cwd (Path.fields path)

/-- `fs.promises.readFile(path, 'utf-8')`: `open`, then `read`, whose error names no path. -/
def readFile (path : String) : Exec String := fun w =>
  match call "open" path (.readFile path) (fun fs => fs.readFile rt.cwd (Path.fields path)) w with
  | (.ok (.ok content), w') => (.ok content, w')
  | (.ok (.error e), w') => (.error e.readMessage, w')
  | (.error message, w') => (.error message, w')

/-- `fs.promises.readdir(path, { withFileTypes: true })`. -/
def readdir (path : String) : Exec (List FileSystem.Dirent) :=
  call "scandir" path (.readdir path) fun fs => fs.readdir rt.cwd (Path.fields path)

/-- `fs.promises.mkdir(path, { recursive: true })`, `path` given by its fields. -/
def mkdir (p : RawPath) : Exec Unit := fun w =>
  let (fs, created, err) := w.fs.mkdirRecursive rt.cwd rt.now p
  let w' : World := ⟨fs, w.effects ++ [.mkdir p created]⟩
  match err with
  | none => (.ok (), w')
  | some e => (.error (e.message "mkdir" (String.intercalate "/" p)), w')

/-- The file a write of `content` leaves: its UTF-8 bytes. -/
def fileNode (content : String) : Node := ⟨.file content, content.utf8ByteSize, rt.now⟩

/-- The file a write of `content` to `t` leaves: all its UTF-8 bytes, or those put before the
`write` that failed. -/
def writtenNode (t : AbsPath) (content : String) : Node :=
  match rt.writeFault t content with
  | none => fileNode rt content
  | some (k, _) =>
    let bytes := content.toUTF8.data.toList.take k
    ⟨.file (rt.decode bytes), bytes.length, rt.now⟩

/-- `fs.promises.writeFile(path, content, 'utf-8')`: `open` with `O_TRUNC` creates or empties the
target, then `write`s put the content's bytes in it; one that fails leaves the bytes put before
it. -/
def writeFile (path content : String) : Exec Unit := fun w =>
  match w.fs.writeTarget rt.cwd (Path.fields path) with
  | .ok t =>
    let w' : World :=
      ⟨w.fs.put t (writtenNode rt t content), w.effects ++ [.writeFile path content (some t)]⟩
    match rt.writeFault t content with
    | none => (.ok (), w')
    | some (_, message) => (.error message, w')
  | .error e => (.error (e.message "open" path), ⟨w.fs, w.effects ++ [.writeFile path content none]⟩)

/-- `process.kill(pid, signal)`: the message it throws, if any. -/
def kill (pid : JsNum) (signal : String) : Exec (Option String) := fun w =>
  (.ok (rt.killError pid signal), ⟨w.fs, w.effects ++ [.kill pid signal]⟩)

/-- The directory a shell spawned with working directory `cwd` starts in. -/
def spawnCwd (fs : FileSystem) (cwd : String) : Except Errno AbsPath :=
  match fs.locate rt.cwd (Path.fields cwd) with
  | .ok r => if fs.isDir r then .ok r else .error .ENOTDIR
  | .error e => .error e

/-- The events the handlers of a shell spawned by an agent with environment `env` from `fs`
receive: the shell's, or a single `'error'` when its working directory is no directory. The
timer's callback comes last unless it came before, since nothing but `'close'` and `'error'`
clears the timer. -/
def shellEvents (env : Env) (fs : FileSystem) (request : SpawnRequest) (timeout : JsNum) :
    List ProcEvent :=
  (match spawnCwd rt fs request.cwd with
    | .ok _ => rt.shellEvents env fs request timeout
    | .error e => [.error (some e.code) ("spawn " ++ request.file ++ " " ++ e.code)]) ++
  [.timeout]

/-- The file system a shell spawned from `fs` leaves: the shell's, or `fs` when it did not
start. -/
def shellFs (env : Env) (fs : FileSystem) (request : SpawnRequest) (timeout : JsNum) :
    FileSystem :=
  match spawnCwd rt fs request.cwd with
  | .ok _ => rt.shellFs env fs request timeout
  | .error _ => fs

/-- What the handlers of `executeShellCommand` close over. -/
def shellContext (K : Constants) (request : SpawnRequest) (timeout : JsNum) : ShellContext :=
  ⟨K.MAX_OUTPUT_SIZE, rt.numberToString timeout, request.file, rt.decode⟩

/-- `spawn` and the promise around it (lines 160–227), from an agent with environment `env`: the
value awaited is the first one passed to `resolve`. The timer's callback is among the events
unless `'close'` or `'error'` came, so there is such a value; the default is never taken. -/
def spawnShell (K : Constants) (env : Env) (request : SpawnRequest) (timeout : JsNum) :
    Exec CommandResult := fun w =>
  let s := ShellState.run (shellContext rt K request timeout) .init
    (shellEvents rt env w.fs request timeout)
  (.ok (s.resolutions.headD (.failure "")),
    ⟨shellFs rt env w.fs request timeout,
      w.effects ++ [.spawn request timeout (spawnCwd rt w.fs request.cwd).toOption]⟩)

end Host

/-! ## The handlers -/

section Handlers

variable (K : Constants) (rt : Runtime)

/-- `shellCmd`. -/
def shellCmd : String := if rt.platform = "win32" then "cmd.exe" else "/bin/sh"

/-- `shellArgs`. -/
def shellArgs (command : String) : List String :=
  if rt.platform = "win32" then ["/c", command] else ["-c", command]

/-- The guards of `executeShellCommand` (lines 138–158), in order: the command, the timeout and
the working directory it runs with, or the rejection it returns. -/
def shellGuards (fs : FileSystem) (payload : Payload) :
    Except CommandResult (String × JsNum × String) :=
  match parseString (payload "command") with
  | none => .error (.failure "No command specified")
  | some command =>
    match validateCommand rt.regexTest command with
    | some validationError => .error (.failure validationError)
    | none =>
      let rawTimeout := (parseNumber (payload "timeout")).getD (.fin K.CMD_DEFAULT_TIMEOUT)
      if rawTimeout.lt (.fin 1) || (JsNum.fin K.MAX_CMD_TIMEOUT).lt rawTimeout then
        .error (.failure ("Timeout must be between 1 and " ++ toString K.MAX_CMD_TIMEOUT ++ "ms"))
      else
        let cwd := (parseString (payload "cwd")).getD rt.homedir
        match validateFilePath fs rt.cwd rt.homedir cwd with
        | some cwdError => .error (.failure cwdError)
        | none => .ok (command, rawTimeout, cwd)

/-- `executeShellCommand`. -/
def executeShellCommand (env : Env) (payload : Payload) : Exec CommandResult := do
  let fs ← Exec.getFs
  match shellGuards K rt fs payload with
  | .error rejection => pure rejection
  | .ok (command, timeout, cwd) =>
    Host.spawnShell rt K env ⟨shellCmd rt, shellArgs rt command, cwd, buildSafeEnv env⟩ timeout

/-- The rejection of a file of `size` bytes by `fileRead`. -/
def fileTooLarge (size : Nat) : CommandResult :=
  .failure ("File too large: " ++ toString size ++ " bytes (limit: " ++
    toString K.MAX_FILE_READ_SIZE ++ " bytes)")

/-- `fileRead`. -/
def fileRead (payload : Payload) : Exec CommandResult := do
  let fs ← Exec.getFs
  match resolveAndValidatePath fs rt.cwd rt.homedir payload none with
  | .error rejection => pure rejection
  | .ok filePath =>
    let stat ← Host.stat rt filePath
    if K.MAX_FILE_READ_SIZE < stat.size then pure (fileTooLarge K stat.size)
    else
      let content ← Host.readFile rt filePath
      pure { success := true, data := some (.text content) }

/-- The guards of `fileWrite` (lines 252–262): the path and the content it writes, or the
rejection it returns. -/
def writeGuards (fs : FileSystem) (payload : Payload) : Except CommandResult (String × String) :=
  match resolveAndValidatePath fs rt.cwd rt.homedir payload none with
  | .error rejection => .error rejection
  | .ok filePath =>
    match payload "content" with
    | .str content =>
      if K.MAX_FILE_WRITE_SIZE < jsLength content then
        .error (.failure ("Content too large: " ++ toString (jsLength content) ++
          " bytes (limit: " ++ toString K.MAX_FILE_WRITE_SIZE ++ " bytes)"))
      else .ok (filePath, content)
    | _ => .error (.failure "No content specified")

/-- `fileWrite`. -/
def fileWrite (payload : Payload) : Exec CommandResult := do
  let fs ← Exec.getFs
  match writeGuards K rt fs payload with
  | .error rejection => pure rejection
  | .ok (filePath, content) =>
    if (payload "createDirectories").truthy then
      Host.mkdir rt (Path.dirname (Path.fields filePath))
    Host.writeFile rt filePath content
    pure { success := true, data := some (.text ("Written to " ++ filePath)) }

/-- `stat.mtime.toISOString()`: a `RangeError` past the range of `Date`, 8.64e15 ms either side
of the epoch. -/
def toISOString (ms : Int) : Except String String :=
  if 8640000000000000 < ms.natAbs then .error "Invalid time value" else .ok (rt.isoString ms)

/-- The item `fileList` reports for an entry of `dirPath` (lines 281–289): from `lstat` when it
and `toISOString` succeed, otherwise with size `0` and time `''`. -/
def listItem (fs : FileSystem) (dirPath : String) (entry : FileSystem.Dirent) : ListItem :=
  let fullPath := Path.join dirPath entry.name
  let type := if entry.isDirectory then "directory" else "file"
  let attempt : Except String ListItem := do
    let stat ← (fs.lstat rt.cwd (Path.fields fullPath)).mapError fun e => e.message "lstat" fullPath
    let modified ← toISOString rt stat.mtimeMs
    pure ⟨entry.name, type, stat.size, modified⟩
  match attempt with
  | .ok item => item
  | .error _ => ⟨entry.name, type, 0, ""⟩

/-- `fileList`. -/
def fileList (payload : Payload) : Exec CommandResult := do
  let fs ← Exec.getFs
  match resolveAndValidatePath fs rt.cwd rt.homedir payload (some ".") with
  | .error rejection => pure rejection
  | .ok dirPath =>
    let allEntries ← Host.readdir rt dirPath
    let fs ← Exec.getFs
    let truncated := decide (K.MAX_DIR_ENTRIES < allEntries.length)
    let entries := allEntries.take K.MAX_DIR_ENTRIES
    let items := entries.map (listItem rt fs dirPath)
    pure { success := true, data := some (.listing items truncated allEntries.length) }

/-- The payload `processList` passes to `executeShellCommand`. -/
def processListPayload : Payload := fun key =>
  if key = "command" then
    .str (if rt.platform = "win32" then "tasklist /fo csv /nh" else "ps aux")
  else if key = "timeout" then .num (.fin K.PROCESS_LIST_TIMEOUT)
  else .undefined

/-- `processList`. -/
def processList (env : Env) : Exec CommandResult :=
  executeShellCommand K rt env (processListPayload K rt)

/-- The guards of `processKill` (lines 312–320): the pid and the signal it sends, or the
rejection it returns. -/
def killGuards (payload : Payload) : Except CommandResult (JsNum × String) :=
  let invalidPid : CommandResult := .failure "Invalid PID: must be a positive integer"
  match parseNumber (payload "pid") with
  | none => .error invalidPid
  | some pid =>
    if !pid.truthy || pid.lt (.fin 1) || !pid.isInteger then .error invalidPid
    else
      let signal := (parseString (payload "signal")).getD "SIGTERM"
      if signal ∈ ALLOWED_SIGNALS then .ok (pid, signal)
      else .error (.failure ("Signal not allowed: " ++ signal ++ ". Allowed: " ++
        ", ".intercalate ALLOWED_SIGNALS))

/-- `processKill`. -/
def processKill (payload : Payload) : Exec CommandResult := do
  match killGuards payload with
  | .error rejection => pure rejection
  | .ok (pid, signal) =>
    match ← Host.kill rt pid signal with
    | none =>
      pure { success := true, data := some (.text ("Sent " ++ signal ++ " to PID " ++
        rt.numberToString pid)) }
    | some message => pure (.failure message)

/-- `executeCommand`: the handler of `type`, and what it throws as a failed result. -/
def executeCommand (env : Env) (type : String) (payload : Payload) : Exec CommandResult :=
  Exec.tryCatch
    (match type with
      | "execute_command" => executeShellCommand K rt env payload
      | "file_read" => fileRead K rt payload
      | "file_write" => fileWrite K rt payload
      | "file_list" => fileList K rt payload
      | "process_list" => processList K rt env
      | "process_kill" => processKill rt payload
      | _ => pure (.failure ("Unknown command type: " ++ type)))
    fun message => pure (.failure message)

end Handlers

end SupportAgent
