import Simplenet.Spec.Client
import Simplenet.Spec.ClientStep
import Simplenet.Sanity.ClientRun
import Simplenet.Sanity.ClientWf
import Simplenet.Proofs.Tracker
import Simplenet.Proofs.Close
import Simplenet.Proofs.Reports
import Simplenet.Spec.Server
import Simplenet.Spec.ServerStep
import Simplenet.Proofs.Admission
import Simplenet.Proofs.Token
import Simplenet.Proofs.Outcomes
import Simplenet.Proofs.Sweep
import Simplenet.Proofs.FlagTests
import Simplenet.Proofs.CloseFrames
