import Thresholding.Config.Environment
import Thresholding.Config.Json
import Thresholding.Evaluation.Basic
import Thresholding.Evaluation.Kernel
import Thresholding.Proofs.Evaluation.Progress
import Thresholding.Proofs.Typing.Deferral
import Thresholding.Proofs.Typing.RepeatedPass
import Thresholding.Typing.Pass
import Thresholding.Proofs.Typing.OrderedPass
import Thresholding.Proofs.Graph.Adding
import Thresholding.Proofs.Session.Basic
import Thresholding.Proofs.Session.Interleaving
import Thresholding.Proofs.Session.Reported
import Thresholding.Proofs.Binary.Exactness
import Thresholding.Proofs.Domain.Range
import Thresholding.Proofs.Domain.Spelling
import Thresholding.Proofs.Evaluation.Quantised
import Thresholding.Proofs.Evaluation.Channels
import Thresholding.Proofs.Evaluation.Invocations
import Thresholding.Proofs.Typing.Accounting
import Thresholding.Proofs.Typing.Strictness
import Thresholding.Proofs.Evaluation.Cone
import Thresholding.Proofs.Session.Storage
import Thresholding.Proofs.Graph.DepthFirst
import Thresholding.Proofs.Evaluation.Cycles
import Thresholding.Proofs.Typing.FirstFailure
import Thresholding.Proofs.Typing.SharedThresholds
import Thresholding.Proofs.Evaluation.WordKernel
import Thresholding.Proofs.Typing.DataChain
import Thresholding.Proofs.Typing.Parametricity
import Thresholding.Proofs.Typing.Slots
import Thresholding.Proofs.Tensor.ExactCount
import Thresholding.Proofs.Evaluation.Counts
import Thresholding.Proofs.Evaluation.SharedRow
import Thresholding.Proofs.Evaluation.Batches
import Thresholding.Proofs.Domain.Refusal
import Thresholding.Proofs.Domain.RoundTrip
import Thresholding.Proofs.Graph.Outputs
import Thresholding.Proofs.Registry.History
import Thresholding.Proofs.Config.Environment
import Thresholding.Proofs.Typing.TypeText
import Thresholding.Proofs.Config.Json
