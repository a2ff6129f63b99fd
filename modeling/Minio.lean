import Minio.NsLock.LockMap
import Minio.NsLock.RefCount
import Minio.NsLock.DebugLocks
import Minio.NsLock.DsyncNodes
import Minio.Multipart.PartFile
import Minio.Multipart.State
import Minio.Multipart.BackgroundAppend
import Minio.Multipart.Complete
import Minio.Multipart.Calls
import Minio.Multipart.CompleteFailure
import Minio.Multipart.UploadMeta
import Minio.Multipart.AppendRecord
import Minio.Multipart.Commit
import Minio.Multipart.CompletePair
import Minio.Multipart.Listing
import Minio.Multipart.ListParts
import Minio.Multipart.ListUploads
import Minio.Erasure.Heal
import Minio.Erasure.HealSpec
import Minio.Erasure.Storage
import Minio.Admin.ServerConfig
import Minio.Admin.Uptime
import Minio.Admin.AdminCmd
import Minio.Admin.Peers
import Minio.Web.Access
import Minio.Web.Buckets
import Minio.Web.Remove
import Minio.Web.Session
import Minio.Web.PolicySync
