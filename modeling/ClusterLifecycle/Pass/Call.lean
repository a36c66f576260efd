import ClusterLifecycle.Chart.Index
import ClusterLifecycle.Cluster.Descriptor
import ClusterLifecycle.Manifest
import ClusterLifecycle.Program
import ClusterLifecycle.Release.Record
import ClusterLifecycle.Resource.Instance
import ClusterLifecycle.Resource.Repository
import ClusterLifecycle.Resource.Secret
import ClusterLifecycle.Setup.Task

/-!
# Calls of a pass

A pass reads and changes the cluster through its collaborators only: the store of resources, the
package installer, the source of chart indexes, the runner of setup tasks, and the extractor of
cluster descriptors. `Call` lists what it may ask of them, and `Call.Result` what it gets if the
call succeeds.
-/

namespace ClusterLifecycle

/-- A call of a pass. -/
inductive Call where
  /-- Looks an instance up. -/
  | getInstance (space name : String)
  /-- Replaces metadata and specification of an instance. -/
  | updateInstance (changed : Instance)
  /-- Replaces the status of an instance. -/
  | updateStatus (changed : Instance)
  /-- Looks a template up. -/
  | getTemplate (name : String)
  /-- Lists all chart repositories. -/
  | listRepositories
  /-- Looks a secret up. -/
  | getSecret (space name : String)
  /-- Fetches the index of a repository. -/
  | fetchIndex (url : String)
  /-- Installs a chart as a release. Installing it again in the same way changes nothing. -/
  | install (chart release space : String) (values : Table Json)
  /-- Looks the current state of a release up. -/
  | getRelease (release space : String)
  /-- Removes a release, which need not exist. -/
  | uninstall (release space : String)
  /-- Creates one task for each setup step of a template. Tasks that exist are left alone. -/
  | createTasks (template : Template) (owner : Identity) (kubeconfigSecret : String)
  /-- Lists the setup tasks that a selector matches. -/
  | listTasks (selector space : String)
  /-- Says which cluster a document of a manifest describes, if any. -/
  | extract (document : Manifest.Document) (defaultSpace : String)
deriving DecidableEq

namespace Call

/-- What a call gives if it succeeds. -/
abbrev Result : Call → Type
  | getInstance .. => Option Instance
  | updateInstance _ => Instance
  | updateStatus _ => Instance
  | getTemplate _ => Option Template
  | listRepositories => List Repository
  | getSecret .. => Option Secret
  | fetchIndex _ => ChartIndex
  | install .. => Unit
  | getRelease .. => Release
  | uninstall .. => Unit
  | createTasks .. => Unit
  | listTasks .. => List Setup.Task
  | extract .. => Option Descriptor

/-- The names of calls. -/
def name : Call → String
  | getInstance .. => "get_instance"
  | updateInstance _ => "update_instance"
  | updateStatus _ => "update_instance_status"
  | getTemplate _ => "get_template"
  | listRepositories => "list_repositories"
  | getSecret .. => "get_secret"
  | fetchIndex _ => "fetch"
  | install .. => "install"
  | getRelease .. => "get_release"
  | uninstall .. => "uninstall"
  | createTasks .. => "create_ordered_tasks"
  | listTasks .. => "list_tasks"
  | extract .. => "extract"

/-- Whether a call changes the cluster. -/
def isMutating : Call → Bool
  | updateInstance _ | updateStatus _ | install .. | uninstall .. | createTasks .. => true
  | _ => false

end Call

/-- What a pass may ask for; every call may fail. -/
abbrev collaborators : Interface where
  Request := Call
  Answer call := Except Failure call.Result

/-- A program over the calls of a pass that may fail. -/
abbrev Pass := ExceptT Failure (Program collaborators)

/-- Makes one call; if it fails, so does the pass. -/
def Pass.call (c : Call) : Pass c.Result :=
  ExceptT.mk (Program.request (ι := collaborators) c)

end ClusterLifecycle
