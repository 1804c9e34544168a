import ClusterManager.Db.Requests
import ClusterManager.Json

/-!
# The calls of the Kubernetes router

A handler of the router awaits calls into the `db` module, calls into the Kubernetes API and the
eviction of a cached client. `RouterCall.exec` runs one of them against the tables and a
Kubernetes API that answers as it likes.
-/

namespace ClusterManager.K8s

open Db

/-- The calls into `k8s_client`. -/
inductive KubeCall
  | listClusters (namespace_ : Option String) (limit : Option ℕ)
      (continueToken labelSelector : Option String)
  | getCluster (namespace_ name : String)
  | listTemplates
  | getTemplate (name : String)
  | createCluster (namespace_ : String) (body : Json)
  | deleteCluster (namespace_ name : String)
  | listNamespaces
  | listSecrets (namespace_ : String)
  | deleteTemplate (name : String)

/-- What each call returns. -/
abbrev KubeCall.Resp : KubeCall → Type
  | .listClusters _ _ _ _ => List Json × Option String
  | .getCluster _ _ => Json
  | .listTemplates => List Json
  | .getTemplate _ => Json
  | .createCluster _ _ => Json
  | .deleteCluster _ _ => Json
  | .listNamespaces => List String
  | .listSecrets _ => List String
  | .deleteTemplate _ => Unit

/-- The calls of a handler. -/
inductive RouterCall
  | db (op : DbOp)
  | kube (r : KubeCall)
  /-- `client_manager.close_client`, which swallows what the driver raises. -/
  | closeClient (connId : String)

/-- What each call returns. -/
abbrev RouterCall.Resp : RouterCall → Type
  | .db op => op.Resp
  | .kube r => r.Resp
  | .closeClient _ => Unit

/-- What the Kubernetes API answers to each call of one request. -/
abbrev KubeApi : Type := (r : KubeCall) → Except Exc r.Resp

/-- One call against the tables and the Kubernetes API. -/
def RouterCall.exec (rt : Runtime) (api : KubeApi) :
    (r : RouterCall) → Tables → Except Exc r.Resp × Tables
  | .db op, t => op.exec rt t
  | .kube r, t => (api r, t)
  | .closeClient _, t => (.ok (), t)

/-- The programs of the router. -/
abbrev RouterProgram (α : Type) : Type := Coroutine RouterCall RouterCall.Resp Exc α

/-- Await a call into the `db` module. -/
abbrev db (op : DbOp) : RouterProgram op.Resp := Coroutine.call (RouterCall.db op)

/-- Await a call into the Kubernetes API. -/
abbrev kube (r : KubeCall) : RouterProgram r.Resp := Coroutine.call (RouterCall.kube r)

end ClusterManager.K8s
