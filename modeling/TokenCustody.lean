import TokenCustody.Main
import TokenCustody.Authorization.Callback
import TokenCustody.Authorization.Flow
import TokenCustody.Store.Memory
import TokenCustody.Proofs.Coordination.Effects
import TokenCustody.Proofs.Coordination.Rotation
import TokenCustody.Proofs.Token.State
import TokenCustody.Proofs.Coordination.Usability
import TokenCustody.Proofs.Store.Calls
import TokenCustody.Proofs.Coordination.Agreement
import TokenCustody.Proofs.Coordination.Race
import TokenCustody.Proofs.Coordination.Evidence
import TokenCustody.Proofs.Store.Refinement
import TokenCustody.Proofs.Store.Naming
import TokenCustody.Proofs.Coordination.Spacing
import TokenCustody.Proofs.Program.Whole
import TokenCustody.Proofs.Retry.Attempts
import TokenCustody.Proofs.Coordination.Transcript
import TokenCustody.Proofs.Coordination.Bounds
import TokenCustody.Proofs.Coordination.Punctuality
import TokenCustody.Proofs.Authorization.Guards
import TokenCustody.Proofs.Authorization.Browser
import TokenCustody.Proofs.Coordination.Metered
import TokenCustody.Proofs.Token.Chain
import TokenCustody.Proofs.Config.Environment
import TokenCustody.Proofs.Coordination.Secrecy
import TokenCustody.Proofs.Retry.Executions
import TokenCustody.Proofs.Retry.Lateness
import TokenCustody.Proofs.Config.Evaluation
import TokenCustody.Proofs.Config.Wiring
import TokenCustody.Proofs.Token.Issuing
import TokenCustody.Proofs.Token.Progress
import TokenCustody.Proofs.Token.Descent
import TokenCustody.Proofs.Provider.Requests
import TokenCustody.Proofs.Retry.Limits
