import SupportAgent.FileSystem

/-!
# The guards

The three checks `executeCommand` puts in front of its effects (`src/unnamed/part_002`):
`validateCommand` rejects shell commands that match a blocked pattern, `validateFilePath` rejects
paths whose canonical form lies under a blocked directory, and `buildSafeEnv` keeps only
allow-listed environment variables for a spawned shell. Regular expressions are matched by the
runtime: `validateCommand` takes `RegExp.prototype.test` as an argument.
-/

namespace SupportAgent

/-! ## Commands -/

/-- `BLOCKED_COMMAND_PATTERNS`, each as JavaScript prints it (`${pattern}`). -/
def BLOCKED_COMMAND_PATTERNS : List String :=
  ["/\\brm\\s+-rf\\s+\\/(?!\\w)/", "/\\bmkfs\\b/", "/\\bdd\\s+.*of=\\/dev\\//",
   "/>\\s*\\/dev\\/sd[a-z]/", "/:\\(\\)\\s*\\\x7b.*\\\x7d;\\s*:/"]

/-- `validateCommand`: the first pattern `command` matches, as a message, given the runtime's
`test` of a pattern on a string. -/
def validateCommand (test : String → String → Bool) (command : String) : Option String :=
  (BLOCKED_COMMAND_PATTERNS.find? fun pattern => test pattern command).map fun pattern =>
    "Blocked dangerous command pattern: " ++ pattern

theorem validateCommand_eq_none {test : String → String → Bool} {command : String} :
    validateCommand test command = none ↔ ∀ pattern ∈ BLOCKED_COMMAND_PATTERNS,
      test pattern command = false := by
  simp [validateCommand, List.find?_eq_none]

/-! ## Paths -/

/-- `BLOCKED_PATH_PREFIXES`. -/
def BLOCKED_PATH_PREFIXES : List String :=
  ["/etc/", "/proc/", "/sys/", "/dev/", "/private/etc/", "/private/var/db/"]

/-- The directories under the home directory that `getSensitiveHomePaths` blocks. -/
def SENSITIVE_HOME_DIRS : List String := [".ssh", ".aws", ".gnupg", ".config/gcloud"]

/-- `getSensitiveHomePaths`, for the home directory `home` (`os.homedir()`). -/
def getSensitiveHomePaths (home : String) : List String :=
  SENSITIVE_HOME_DIRS.map fun dir => Path.join home dir ++ "/"

/-- `prefix.replace(/\/$/, '')`: the prefix without one trailing separator. -/
def withoutTrailingSlash (s : String) : String :=
  if s.toList.getLast? = some '/' then String.mk s.toList.dropLast else s

/-- `resolved === prefixWithoutSlash || resolved.startsWith(prefix)`. -/
def blockedBy (resolved pfx : String) : Bool :=
  resolved == withoutTrailingSlash pfx || pfx.toList.isPrefixOf resolved.toList

/-- The canonical path `validateFilePath` checks for `filePath`: its `realpath`; when that fails,
the `realpath` of the parent of `path.resolve(filePath)` joined with the base name; when that
fails too, `path.resolve(filePath)`. -/
def resolvedPath (fs : FileSystem) (cwd : AbsPath) (filePath : String) : String :=
  let p := Path.fields filePath
  match fs.locate cwd p with
  | .ok r => Path.render r
  | .error _ =>
    let parentDir := Path.render (Path.resolve cwd p).dropLast
    match fs.locate cwd (Path.fields parentDir) with
    | .ok realParent => Path.join (Path.render realParent) (Path.basename p)
    | .error _ => Path.render (Path.resolve cwd p)

/-- `validateFilePath`: the first blocked prefix the resolved path falls under, as a message. -/
def validateFilePath (fs : FileSystem) (cwd : AbsPath) (home : String) (filePath : String) :
    Option String :=
  let resolved := resolvedPath fs cwd filePath
  ((BLOCKED_PATH_PREFIXES ++ getSensitiveHomePaths home).find? (blockedBy resolved)).map
    fun pfx => "Access denied: " ++ pfx ++ " paths are blocked"

/-- `resolveAndValidatePath`: the payload's `path` (or `defaultPath`) when it passes the check,
otherwise the rejection to return. -/
def resolveAndValidatePath (fs : FileSystem) (cwd : AbsPath) (home : String) (payload : Payload)
    (defaultPath : Option String) : Except CommandResult String :=
  match (parseString (payload "path")).or defaultPath with
  | none => .error (.failure "No file path specified")
  | some filePath =>
    if filePath = "" then .error (.failure "No file path specified")
    else match validateFilePath fs cwd home filePath with
      | some pathError => .error (.failure pathError)
      | none => .ok filePath

/-! ## Signals and the environment -/

/-- `ALLOWED_SIGNALS`, in the order the set was built. -/
def ALLOWED_SIGNALS : List String := ["SIGTERM", "SIGUSR1", "SIGUSR2", "SIGINT", "SIGHUP"]

/-- `SAFE_ENV_KEYS`. -/
def SAFE_ENV_KEYS : List String :=
  ["PATH", "HOME", "USER", "SHELL", "LANG", "LC_ALL", "LC_MESSAGES", "TERM", "TMPDIR", "TMP",
   "TEMP", "NODE_ENV", "SystemRoot", "USERPROFILE", "APPDATA", "PATHEXT", "COMSPEC"]

/-- The host environment (`process.env`): the value of each variable it defines. -/
abbrev Env := String → Option String

/-- `buildSafeEnv`: the allow-listed variables `env` defines, in the order of `SAFE_ENV_KEYS`. -/
def buildSafeEnv (env : Env) : List (String × String) :=
  SAFE_ENV_KEYS.filterMap fun key => (env key).map (key, ·)

end SupportAgent
