import SupportAgent.Js
import SupportAgent.Path
import SupportAgent.FileSystem
import SupportAgent.Guards
import SupportAgent.Shell
import SupportAgent.Executor
import SupportAgent.Runner
import SupportAgent.UpdateChecker
import SupportAgent.SemVer
import SupportAgent.I18n
import SupportAgent.Start
import SupportAgent.Proofs.FileSystem
import SupportAgent.Proofs.Guards
import SupportAgent.Proofs.Path
import SupportAgent.Proofs.Shell
import SupportAgent.Proofs.Executor
import SupportAgent.Proofs.PathCheck
import SupportAgent.Proofs.Files
import SupportAgent.Proofs.Runner
import SupportAgent.Proofs.UpdateChecker
import SupportAgent.Proofs.SemVer
import SupportAgent.Proofs.Store
import SupportAgent.Proofs.Trace
import SupportAgent.Proofs.Results
import SupportAgent.Proofs.I18n
