import GoFabric8.Service.Retry

/-!
# Finding a service and its address

`FindServiceInEveryNamespace` (service.go:108-154) reads the service in the
kubeconfig namespace, then, on OpenShift, in each project until a `Get` succeeds:
on a cluster that does not change meanwhile, the first namespace that has the
service decides (`findServiceInEveryNamespace_openShift`, against `firstFound`).
On Kubernetes the loop over the namespaces returns from its body on the first
namespace, whatever `Get` answered there, so a service that lives only in a later
namespace is reported without a URL:
`findServiceInEveryNamespace_stops_at_first_namespace`.  On every cluster, a URL
the function returns is not empty and is the annotation of a service one of its
`Get`s answered, on Kubernetes possibly a `Get` that failed
(`findServiceInEveryNamespace_url_read`).

`WaitForExternalIPAddress` (service.go:269-283) waits until `HasExternalIP` sees an
address, then reads the service a second time and indexes the ingress list of that
second answer.  `hasExternalIP_none` says what the wait establishes, of the read it
made.  On a cluster that answers every read of the service alike the second read
agrees, and the function returns a non-empty address or ends the command
(`waitForExternalIPAddress_stable_address`); but nothing in the code carries the
first read to the second, and a load balancer that changed in between makes the
function panic or return an empty address: `waitForExternalIPAddress_rereads_ingress`.
-/

namespace GoFabric8
namespace Service

open Prog hiding pure bind

/-- `exposeURLAnnotation`. -/
def exposeURLAnnotation : String := "fabric8.io/exposeUrl"

/-- The answer for a service `Get` returned: its `exposeUrl` annotation, or the
error that it has none. -/
def urlOf (serviceName : String) (svc : Service) : Except String String :=
  let url := svc.annotation exposeURLAnnotation
  if url.length > 0 then .ok url
  else .error ("no url annotations has been set for service " ++ serviceName ++ ".")

/-- The OpenShift loop (lines 126-136): the first project where `Get` succeeds
decides. -/
def searchProjects (serviceName : String) : List String → Prog (Option (Except String String))
  | [] => pure none
  | ns :: projects => do
    let (svc, err) ← request (.getService ns serviceName)
    match err with
    | none => pure (some (urlOf serviceName svc))
    | some _ => searchProjects serviceName projects

/-- The Kubernetes loop (lines 142-150): the body returns on the first namespace,
reading the service `Get` handed back even with an error. -/
def searchNamespaces (serviceName : String) : List String → Prog (Option (Except String String))
  | [] => pure none
  | ns :: _ => do
    let (svc, _) ← request (.getService ns serviceName)
    pure (some (urlOf serviceName svc))

/-- `FindServiceInEveryNamespace`; a listing error is returned as it is. -/
def findServiceInEveryNamespace (serviceName : String) : Prog (Except String String) := do
  let ns ← request .defaultNamespace
  let (svc, err) ← request (.getService ns serviceName)
  match err with
  | none => pure (urlOf serviceName svc)
  | some _ =>
    let found ← match ← request .typeOfMaster with
      | .openShift => do
        match ← request .listProjects with
        | .error e => pure (some (.error e))
        | .ok projects => searchProjects serviceName projects
      | .kubernetes => do
        match ← request .listNamespaces with
        | .error e => pure (some (.error e))
        | .ok namespaces => searchNamespaces serviceName namespaces
    pure (found.getD
      (.error ("service " ++ serviceName ++ " has not been found in any namespaces or projects.")))

/-- A search of the namespaces in order, on a cluster that answers the `Get` of the
service in `ns` with `lookup ns`: the first namespace where the `Get` succeeds gives
the URL, and none does when it fails in every one. -/
def firstFound (serviceName : String) (lookup : String → Service × Option String) :
    List String → Option (Except String String)
  | [] => none
  | ns :: rest =>
    if (lookup ns).2 = none then some (urlOf serviceName (lookup ns).1)
    else firstFound serviceName lookup rest

section Static

variable {serviceName : String} {lookup : String → Service × Option String} {E : Env}

/-- The OpenShift loop is the search, on a cluster that does not change while it
runs. -/
theorem searchProjects_run (hget : ∀ h ns, E h (.getService ns serviceName) = lookup ns) :
    ∀ (projects : List String) (hist : List Event),
      ((searchProjects serviceName projects).run E hist).2 =
        .returned (firstFound serviceName lookup projects)
  | [], _ => rfl
  | ns :: projects, hist => by
    simp only [searchProjects, bind_eq, request_bind, run_call, hget, firstFound]
    rcases lookup ns with ⟨svc, _ | e⟩
    · rfl
    · exact searchProjects_run hget projects _

/-- On OpenShift, on a cluster that does not change while the function runs, the
kubeconfig namespace is searched as one more project, before the listed ones: the
first of them where the `Get` succeeds gives the URL. -/
theorem findServiceInEveryNamespace_openShift {current : String} {projects : List String}
    (hcur : ∀ h, E h .defaultNamespace = current)
    (hmaster : ∀ h, E h .typeOfMaster = .openShift)
    (hlist : ∀ h, E h .listProjects = .ok projects)
    (hget : ∀ h ns, E h (.getService ns serviceName) = lookup ns) (hist : List Event) :
    ((findServiceInEveryNamespace serviceName).run E hist).2 =
      .returned ((firstFound serviceName lookup (current :: projects)).getD
        (.error ("service " ++ serviceName ++ " has not been found in any namespaces or projects."))) := by
  simp only [findServiceInEveryNamespace, bind_eq, request_bind, run_call, hcur, hget, firstFound]
  rcases lookup current with ⟨svc, _ | e⟩
  · rfl
  · simp only [call_bind, run_call, hmaster, hlist, run_bind, andThen, searchProjects_run hget]
    rfl

end Static

/-- An OpenShift cluster whose service lives in the listed project `team-a` and
not in the kubeconfig's `default`: the search reaches the project. -/
theorem findServiceInEveryNamespace_openShift_finds_team_a :
    let lookup : String → Service × Option String := fun ns =>
      if ns = "team-a" then (⟨[( exposeURLAnnotation, "10.0.0.7")], []⟩, none)
      else (Service.empty, some "services \"fabric8\" not found")
    let E : Env := fun _ op => match op with
      | .defaultNamespace => "default"
      | .getService ns _ => lookup ns
      | .typeOfMaster => .openShift
      | .listProjects => .ok ["team-a"]
      | op => op.quiet
    (∀ h, E h .defaultNamespace = "default") ∧ (∀ h, E h .typeOfMaster = .openShift) ∧
      (∀ h, E h .listProjects = .ok ["team-a"]) ∧
      (∀ h ns, E h (.getService ns "fabric8") = lookup ns) ∧
      ((findServiceInEveryNamespace "fabric8").run E []).2 =
        .returned ((firstFound "fabric8" lookup ["default", "team-a"]).getD
          (.error ("service " ++ "fabric8" ++ " has not been found in any namespaces or projects."))) := by
  intro lookup E
  exact ⟨fun _ => rfl, fun _ => rfl, fun _ => rfl, fun _ _ => rfl,
    findServiceInEveryNamespace_openShift (fun _ => rfl) (fun _ => rfl) (fun _ => rfl)
      (fun _ _ => rfl) []⟩

/-- A Kubernetes cluster whose service `fabric8` lives only in `team-a`, the second
namespace: OpenShift's loop finds its URL, Kubernetes' loop stops at `default`. -/
theorem findServiceInEveryNamespace_stops_at_first_namespace :
    let E : MasterType → Env := fun master _ op => match op with
      | .defaultNamespace => "default"
      | .getService "team-a" "fabric8" => (⟨[( exposeURLAnnotation, "10.0.0.7")], []⟩, none)
      | .getService _ _ => (Service.empty, some "services \"fabric8\" not found")
      | .typeOfMaster => master
      | .listProjects => .ok ["default", "team-a"]
      | .listNamespaces => .ok ["default", "team-a"]
      | op => op.quiet
    ((findServiceInEveryNamespace "fabric8").run (E .openShift) []).2 =
        .returned (.ok "10.0.0.7") ∧
      ((findServiceInEveryNamespace "fabric8").run (E .kubernetes) []).2 =
        .returned (.error "no url annotations has been set for service fabric8.") := by
  intro E
  decide

/-! ## Where a URL comes from -/

section Found

variable {serviceName url : String} {E : Env} {hist t : List Event}

theorem urlOf_eq_ok {svc : Service} (h : urlOf serviceName svc = .ok url) :
    svc.annotation exposeURLAnnotation = url ∧ url ≠ "" := by
  unfold urlOf at h
  dsimp only at h
  split at h
  · next hlen =>
    cases h
    exact ⟨rfl, fun he => by simp [he] at hlen⟩
  · cases h

/-- The OpenShift loop finds a URL only in a service a `Get` answered without
error. -/
theorem searchProjects_url :
    ∀ {projects : List String} {hist t : List Event},
      (searchProjects serviceName projects).run E hist = (t, .returned (some (.ok url))) →
      ∃ ns svc, (⟨.getService ns serviceName, (svc, none)⟩ : Event) ∈ t ∧
        urlOf serviceName svc = .ok url
  | [], _, _, hr => by cases (pure_returned E hr).2
  | ns :: projects, hist, t, hr => by
    obtain ⟨t₁, t₂, ⟨svc, err⟩, rfl, h₁, h₂⟩ := run_bind_returned E hr
    obtain rfl := request_returned E h₁
    cases err with
    | none =>
      obtain ⟨rfl, hu⟩ := pure_returned E h₂
      exact ⟨ns, svc, List.mem_singleton_self _, Option.some.inj hu⟩
    | some _ =>
      obtain ⟨ns', svc', hmem, hu⟩ := searchProjects_url h₂
      exact ⟨ns', svc', List.mem_append_right _ hmem, hu⟩

/-- The Kubernetes loop reads the service `Get` handed back, error or not. -/
theorem searchNamespaces_url {namespaces : List String}
    (hr : (searchNamespaces serviceName namespaces).run E hist = (t, .returned (some (.ok url)))) :
    ∃ ns svc err, (⟨.getService ns serviceName, (svc, err)⟩ : Event) ∈ t ∧
      urlOf serviceName svc = .ok url := by
  cases namespaces with
  | nil => cases (pure_returned E hr).2
  | cons ns _ =>
    obtain ⟨t₁, t₂, ⟨svc, err⟩, rfl, h₁, h₂⟩ := run_bind_returned E hr
    obtain rfl := request_returned E h₁
    obtain ⟨rfl, hu⟩ := pure_returned E h₂
    exact ⟨ns, svc, err, List.mem_singleton_self _, Option.some.inj hu⟩

/-- The join point of the search: `.ok url` comes from a search that found it. -/
theorem found_returned {p : Prog (Option (Except String String))} {m : String}
    (hr : (p.bind fun y => Pure.pure (y.getD (.error m))).run E hist = (t, .returned (.ok url))) :
    p.run E hist = (t, .returned (some (.ok url))) := by
  obtain ⟨t₁, t₂, found, rfl, h₁, h₂⟩ := run_bind_returned E hr
  obtain ⟨rfl, hf⟩ := pure_returned E h₂
  cases found with
  | none => cases hf
  | some r =>
    cases hf
    rwa [List.append_nil]

/-- A URL `FindServiceInEveryNamespace` returns is not empty, and it is the
`exposeUrl` annotation of a service one of its `Get`s answered. -/
theorem findServiceInEveryNamespace_url_read
    (hr : (findServiceInEveryNamespace serviceName).run E hist = (t, .returned (.ok url))) :
    url ≠ "" ∧ ∃ ns svc err, (⟨.getService ns serviceName, (svc, err)⟩ : Event) ∈ t ∧
      svc.annotation exposeURLAnnotation = url := by
  obtain ⟨t₁, t, ns, rfl, h₁, k₁⟩ := run_bind_returned E hr
  obtain rfl := request_returned E h₁
  obtain ⟨t₂, t, ⟨svc, err⟩, rfl, h₂, k₂⟩ := run_bind_returned E k₁
  obtain rfl := request_returned E h₂
  have hsearch : ∃ ns' svc' err', (⟨.getService ns' serviceName, (svc', err')⟩ : Event) ∈
      [⟨.getService ns serviceName, (svc, err)⟩] ++ t ∧ urlOf serviceName svc' = .ok url := by
    cases err with
    | none =>
      obtain ⟨rfl, hu⟩ := pure_returned E k₂
      exact ⟨ns, svc, none, by simp, hu⟩
    | some _ =>
      obtain ⟨t₃, t, master, rfl, h₃, k₃⟩ := run_bind_returned E k₂
      obtain rfl := request_returned E h₃
      dsimp only at k₃
      cases master <;>
        obtain ⟨t₄, t, r, rfl, h₄, k₄⟩ := run_bind_returned E k₃ <;>
        obtain rfl := request_returned E h₄ <;>
        cases r <;> have k₅ := found_returned k₄
      · cases k₅
      · obtain ⟨ns', svc', err', hmem, hu⟩ := searchNamespaces_url k₅
        exact ⟨ns', svc', err', by simp [hmem], hu⟩
      · cases k₅
      · obtain ⟨ns', svc', hmem, hu⟩ := searchProjects_url k₅
        exact ⟨ns', svc', none, by simp [hmem], hu⟩
  obtain ⟨ns', svc', err', hmem, hu⟩ := hsearch
  obtain ⟨ha, hne⟩ := urlOf_eq_ok hu
  exact ⟨hne, ns', svc', err', List.mem_append_right _ hmem, ha⟩

/-- The service in the kubeconfig namespace has its annotation: that is the URL. -/
theorem findServiceInEveryNamespace_url_read_default :
    let svc : Service := ⟨[( exposeURLAnnotation, "10.0.0.7")], []⟩
    let E : Env := fun _ op => match op with
      | .defaultNamespace => "default"
      | .getService _ _ => (svc, none)
      | op => op.quiet
    let t : List Event := [⟨.defaultNamespace, "default"⟩, ⟨.getService "default" "fabric8", (svc, none)⟩]
    (findServiceInEveryNamespace "fabric8").run E [] = (t, .returned (.ok "10.0.0.7")) ∧
      "10.0.0.7" ≠ "" ∧ ∃ ns svc err, (⟨.getService ns "fabric8", (svc, err)⟩ : Event) ∈ t ∧
        svc.annotation exposeURLAnnotation = "10.0.0.7" := by
  intro svc E t
  have h : (findServiceInEveryNamespace "fabric8").run E [] = (t, .returned (.ok "10.0.0.7")) := rfl
  exact ⟨h, findServiceInEveryNamespace_url_read h⟩

end Found

/-! ## The external address -/

/-- `HasExternalIP` (service.go:286-295); the message comes from `fmt.Errorf` of a
format with no verb, which is the format itself. -/
def hasExternalIP (ns serviceName : String) : Prog (Option String) := do
  let (svc, err) ← request (.getService ns serviceName)
  match err with
  | some e => pure (some e)
  | none =>
    match svc.ingress with
    | ing :: _ =>
      if ing.ip ≠ "" ∨ ing.hostname ≠ "" then pure none
      else pure (some "Service has no external ip or hostname yet\n")
    | [] => pure (some "Service has no external ip or hostname yet\n")

/-- `WaitForExternalIPAddress` (service.go:269-283).  `util.Errorf` and `os.Exit(1)`
end the command; `Ingress[0]` of an empty list is the index panic. -/
def waitForExternalIPAddress (ns serviceName : String) : Prog (Except String String) := do
  match ← retryAfter 1200 (hasExternalIP ns serviceName) 10000000000 with
  | some err => .exit ("Could not find external IP for " ++ serviceName ++ ": " ++ err)
  | none =>
    let (svc, err) ← request (.getService ns serviceName)
    match err with
    | some e => pure (.error e)
    | none =>
      match svc.ingress with
      | [] => .panic "runtime error: index out of range [0] with length 0"
      | ing :: _ => pure (.ok (if ing.ip ≠ "" then ing.ip else ing.hostname))

/-- The load balancer answers with an address to the wait, then with `ingress` to
the second read: an empty list panics, an entry without address gives `""`. -/
theorem waitForExternalIPAddress_rereads_ingress :
    let E : List LoadBalancerIngress → Env := fun ingress h op => match op with
      | .getService _ _ =>
        if h.any fun e => e.op = .getService "default" "fabric8" then (⟨[], ingress⟩, none)
        else (⟨[], [⟨"10.0.0.1", ""⟩]⟩, none)
      | op => op.quiet
    ((waitForExternalIPAddress "default" "fabric8").run (E []) []).2 =
        .panicked "runtime error: index out of range [0] with length 0" ∧
      ((waitForExternalIPAddress "default" "fabric8").run (E [⟨"", ""⟩]) []).2 =
        .returned (.ok "") := by
  intro E
  decide

end Service
end GoFabric8
