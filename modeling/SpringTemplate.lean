import SpringTemplate.Library.OrderedMap
import SpringTemplate.Library.FirstOccurrence
import SpringTemplate.Library.Grouping
import SpringTemplate.Library.RowOrder
import SpringTemplate.Library.KeyedTable
import SpringTemplate.Library.LastWins
import SpringTemplate.Library.Program
import SpringTemplate.Library.Environment
import SpringTemplate.Library.Moments
import SpringTemplate.Library.Interleaving
import SpringTemplate.Library.CallBounds
import SpringTemplate.Library.Crashes
import SpringTemplate.Library.Serial
import SpringTemplate.Library.Footprints
import SpringTemplate.Library.Naming
import SpringTemplate.Library.JavaText
import SpringTemplate.Library.JavaSplit
import SpringTemplate.Library.Substitution
import SpringTemplate.Library.Hql
import SpringTemplate.Library.HqlMeaning
import SpringTemplate.Message.Redis
import SpringTemplate.Message.Service
import SpringTemplate.Message.Words
import SpringTemplate.Message.KeySpace
import SpringTemplate.Message.Stages
import SpringTemplate.Message.Reload
import SpringTemplate.Message.Served
import SpringTemplate.Message.TextMapper
import SpringTemplate.Message.Replays
import SpringTemplate.Message.ReloadFailure
import SpringTemplate.Message.ReloadReaders
import SpringTemplate.Message.ReloadRuns
import SpringTemplate.Message.Instances
import SpringTemplate.Message.LockContract
import SpringTemplate.Message.Exclusion
import SpringTemplate.Message.SerialReloads
import SpringTemplate.Message.SerialRuns
import SpringTemplate.Message.Abandoned
import SpringTemplate.Message.StaleLock
import SpringTemplate.Message.KeyUse
import SpringTemplate.Message.Clearing
import SpringTemplate.Message.Progress
import SpringTemplate.Message.WriteContract
import SpringTemplate.Message.Documents
import SpringTemplate.Message.Texts
import SpringTemplate.Message.Placeholders
import SpringTemplate.Message.Batches
import SpringTemplate.Message.Lookups
import SpringTemplate.Job.Database
import SpringTemplate.Job.Statements
import SpringTemplate.Job.QueryText
import SpringTemplate.Job.TriggerRows
import SpringTemplate.Job.Selection
import SpringTemplate.Job.Service
import SpringTemplate.Job.Folding
import SpringTemplate.Job.Merging
import SpringTemplate.Job.Calls
import SpringTemplate.Job.Configurations
import SpringTemplate.Job.Snapshots
import SpringTemplate.Job.GroupChoice
import SpringTemplate.Job.RunResults
import SpringTemplate.Job.PairedRows
import SpringTemplate.Job.Groups
import SpringTemplate.Job.TriggerMap
import SpringTemplate.Job.Reports
import SpringTemplate.Job.Threads
import SpringTemplate.Repo.SoftDelete
import SpringTemplate.Repo.LiveRows
import SpringTemplate.Repo.HardDelete
import SpringTemplate.Repo.StoredRows
import SpringTemplate.Repo.Requests
import SpringTemplate.Repo.EntityMap
import SpringTemplate.Repo.RequestOrder
import SpringTemplate.Repo.Sorting
import SpringTemplate.Repo.Paging
import SpringTemplate.Params.SysParams
import SpringTemplate.Startup.Application
import SpringTemplate.Startup.Ready
import SpringTemplate.Startup.Opening
