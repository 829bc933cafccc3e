import Velero.Kube.Object
import Velero.Kube.Store
import Velero.Kube.Client
import Velero.Kube.Run
import Velero.Kube.Footprint
import Velero.Kube.Interleave
import Velero.Exposer.Build
import Velero.Exposer.CSISnapshot
import Velero.Exposer.Trace
import Velero.Exposer.Rollback
import Velero.Exposer.Safety
import Velero.Exposer.CleanUp
import Velero.Exposer.GetExposed
import Velero.Exposer.Provision
import Velero.Exposer.Independence
import Velero.Exposer.Errors
import Velero.Exposer.Sessions
import Velero.Labels.Selector
import Velero.Ark.DeleteBackupRequest
