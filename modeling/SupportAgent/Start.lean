import SupportAgent.Guards

/-!
# Starting the agents

`startAgent` (`src/src/i18n.ts`, lines 269–368) picks the projects to run. There are three
sources, in this order:
- a token and an API URL on the command line;
- else the configuration file's projects;
- else, when there is no configuration file at all, `AI_SUPPORT_AGENT_TOKEN` and
  `AI_SUPPORT_AGENT_API_URL`.

A URL from the command line or the environment is checked by `validateApiUrl` (`src/src/utils.ts`,
lines 15–26) before it is used. The process exits when that check fails or no source gives a
project.

`new URL(url)` is the host's parser: the parameter `urlProtocol` gives the protocol of the URL it
parses, and none when it throws. `loadConfig`, `getProjectList` and the constants come from modules
that are not among the sources. The configuration is given with the projects `getProjectList`
returns for it, and the constants are a parameter. Logging, `saveConfig`'s time stamp and the
shutdown handlers are left out; whether `saveConfig` is called is kept.
-/

namespace SupportAgent

namespace Start

/-- `validateApiUrl(url)`: `null`, or the message of the rejection. -/
def validateApiUrl (urlProtocol : String → Option String) (url : String) : Option String :=
  match urlProtocol url with
  | none => some ("Invalid URL: " ++ url)
  | some protocol =>
    if protocol ∈ ["http:", "https:"] then none
    else some ("Invalid protocol: " ++ protocol ++ ". Only http: and https: are allowed")

/-- The constants `startAgent` imports from `./constants`. -/
structure StartConstants where
  DEFAULT_HEARTBEAT_INTERVAL : JsNum
  DEFAULT_POLL_INTERVAL : JsNum
  PROJECT_CODE_CLI_DIRECT : String
  PROJECT_CODE_ENV_DEFAULT : String

/-- `RunnerOptions`; `verbose` only sets the logger's level, which is left out. -/
structure RunnerOptions where
  token : Option String
  apiUrl : Option String
  pollInterval : Option JsNum
  heartbeatInterval : Option JsNum

/-- `ProjectRegistration`. -/
structure ProjectRegistration where
  projectCode : String
  token : String
  apiUrl : String
  deriving DecidableEq, Repr

/-- The configuration `loadConfig` returns, as `startAgent` reads it. -/
structure Config where
  agentId : Option String
  /-- `getProjectList(config)`. -/
  projects : List ProjectRegistration

/-- The intervals every agent gets. -/
structure Intervals where
  pollInterval : JsNum
  heartbeatInterval : JsNum
  deriving DecidableEq, Repr

/-- Why `startAgent` exits with status 1. -/
inductive ExitReason
  /-- The message of `validateApiUrl`. -/
  | invalidUrl (message : String)
  /-- `t('runner.noToken')`. -/
  | noToken
  /-- `t('runner.noProjects')`. -/
  | noProjects
  deriving DecidableEq, Repr

/-- What `startAgent` does. -/
inductive Outcome
  /-- `logger.error(…)`, then `process.exit(1)`. -/
  | exit (reason : ExitReason)
  /-- `startProjectAgent(project, agentId, intervals)` for each pair, in order; then
  `saveConfig({ lastConnected })` when `saves`. -/
  | start (agents : List (ProjectRegistration × String)) (intervals : Intervals) (saves : Bool)
  deriving DecidableEq, Repr

/-- The agents started, each with its agent id: none when `startAgent` exits. -/
def Outcome.agents : Outcome → List (ProjectRegistration × String)
  | .exit _ => []
  | .start agents _ _ => agents

variable (K : StartConstants)

/-- `resolveIntervals(options)`: `??` keeps a `0`. -/
def resolveIntervals (options : RunnerOptions) : Intervals :=
  ⟨options.pollInterval.getD K.DEFAULT_POLL_INTERVAL,
    options.heartbeatInterval.getD K.DEFAULT_HEARTBEAT_INTERVAL⟩

/-- `a && b` on two strings used as a condition: both, when both are non-empty. -/
def bothGiven : Option String → Option String → Option (String × String)
  | some a, some b => if a.isEmpty || b.isEmpty then none else some (a, b)
  | _, _ => none

/-- `startAgent(options)`, from the configuration `loadConfig()` returned, the environment and
`os.hostname()`. -/
def startAgent (urlProtocol : String → Option String) (hostname : String) (env : Env)
    (config : Option Config) (options : RunnerOptions) : Outcome :=
  match bothGiven options.token options.apiUrl with
  | some (token, apiUrl) =>
    match validateApiUrl urlProtocol apiUrl with
    | some urlError => .exit (.invalidUrl urlError)
    | none =>
      .start [(⟨K.PROJECT_CODE_CLI_DIRECT, token, apiUrl⟩,
          ((config.bind Config.agentId).getD hostname))] (resolveIntervals K options) true
  | none =>
    match config with
    | none =>
      match bothGiven (env "AI_SUPPORT_AGENT_TOKEN") (env "AI_SUPPORT_AGENT_API_URL") with
      | some (envToken, envApiUrl) =>
        match validateApiUrl urlProtocol envApiUrl with
        | some envUrlError => .exit (.invalidUrl envUrlError)
        | none =>
          .start [(⟨K.PROJECT_CODE_ENV_DEFAULT, envToken, envApiUrl⟩, hostname)]
            (resolveIntervals K options) false
      | none => .exit .noToken
    | some config =>
      match config.projects with
      | [] => .exit .noProjects
      | projects =>
        .start (projects.map fun project => (project, config.agentId.getD hostname))
          (resolveIntervals K options) true

end Start

end SupportAgent
