import Kuscia.GoMap
import Kuscia.GoHeap
import Kuscia.GoHeapOrder
import Kuscia.GoStrconv
import Kuscia.GoRuntime
import Kuscia.GoTime
import Kuscia.GoWindowLoop
import Kuscia.GoFloat
import Kuscia.K8sQuantity
import Kuscia.KusciaJobSpec
import Kuscia.KusciaJobValidate
import Kuscia.KusciaJobReadyTasks
import Kuscia.KusciaJobStatusPhase
import Kuscia.KusciaJobQuiescence
import Kuscia.KusciaJobParallelism
import Kuscia.ResourceSplit
import Kuscia.JobStageSync
import Kuscia.KusciaJobController
import Kuscia.KusciaJobLifecycle
import Kuscia.KusciaJobCompletion
import Kuscia.BfiaAdapter
import Kuscia.BfiaJobConversion
import Kuscia.BfiaJobRoundTrip
import Kuscia.PortChoose
import Kuscia.CyclicScan
import Kuscia.PortIteration
import Kuscia.PortProvider
import Kuscia.PortAllocation
import Kuscia.KusciaDeploymentStatus
import Kuscia.GangScheduling
import Kuscia.Desensitization
import Kuscia.MessageQueue
import Kuscia.MessageQueueAccounting
import Kuscia.MessageQueueSessionHeaps
import Kuscia.Fifo
import Kuscia.MessageQueueFifo
import Kuscia.MessageQueueManagerFifo
import Kuscia.DataMeshIO
import Kuscia.DataMeshUpload
import Kuscia.MySQLConversion
import Kuscia.ClusterDomainRoute
import Kuscia.KusciaTaskController
import Kuscia.KusciaTaskOutcomes
import Kuscia.OciStore
import Kuscia.CasStore
import Kuscia.DomainRegistration
import Kuscia.DomainRegistrationSpec
import Kuscia.DomainRegistrationSafety
import Kuscia.DomainRegistrationCertificate
import Kuscia.GatewayHandshake
import Kuscia.GatewayHandshakeAgreement
import Kuscia.DomainRouteRolling
import Kuscia.DomainRouteSync
import Kuscia.TlsCrypt
import Kuscia.TlsCryptRoundTrip
