import Mathlib.Data.List.Nodup

/-!
# Cluster objects

The parts of the Kubernetes and OpenShift API objects that the modelled commands
read.  A pod and a pod listing come from the API server, so they carry the
uniqueness its validation guarantees: the volume names of a pod, and the pod names
of a namespace.
-/

namespace GoFabric8

/-- The source of a pod volume.  Of the sources the API knows only a claim
reference matters here; every other source is `other`. -/
inductive VolumeSource where
  | persistentVolumeClaim (claimName : String)
  | other
  deriving DecidableEq, Repr

/-- `api.Volume`: the pod-local name and the source behind it. -/
structure Volume where
  name : String
  source : VolumeSource
  deriving DecidableEq, Repr

/-- `api.Pod`.  Pod validation rejects two volumes of one name. -/
structure Pod where
  name : String
  volumes : List Volume
  volumes_nodup : (volumes.map Volume.name).Nodup
  deriving DecidableEq

/-- `api.PodList` of one namespace, where pod names are unique. -/
structure PodList where
  items : List Pod
  names_nodup : (items.map Pod.name).Nodup
  deriving DecidableEq

/-- `api.LoadBalancerIngress`. -/
structure LoadBalancerIngress where
  ip : String
  hostname : String
  deriving DecidableEq, Repr

/-- The fields of `api.Service` the commands read: the annotations and
`Status.LoadBalancer.Ingress`. -/
structure Service where
  annotations : List (String × String)
  ingress : List LoadBalancerIngress
  deriving DecidableEq, Repr

/-- `svc.ObjectMeta.Annotations[key]`, a map read that gives `""` for a missing
key, as it does on a nil map. -/
def Service.annotation (svc : Service) (key : String) : String :=
  (svc.annotations.lookup key).getD ""

/-- The `Service` a failed `Get` hands back beside its error: the generated
client fills a fresh empty object. -/
def Service.empty : Service := ⟨[], []⟩

/-- `api.EndpointSubset`: of its addresses only the number not ready is read. -/
structure EndpointSubset where
  notReadyAddresses : Nat
  deriving DecidableEq, Repr

/-- `api.Endpoints`. -/
structure Endpoints where
  subsets : List EndpointSubset
  deriving DecidableEq, Repr

/-- `util.TypeOfMaster`. -/
inductive MasterType where
  | kubernetes
  | openShift
  deriving DecidableEq, Repr

end GoFabric8
