import GoFabric8.Service.Lookup

/-!
# Opening a service

The `service` command (service.go:45-103) waits, when `--retry` is set, until the
service has an `exposeUrl` annotation and ready endpoints, then lists the services
of the namespace and opens or prints the annotation of the one with the name
asked for.  The checks it retries are those of service.go:199-266; `FindServiceURL`,
`GetServiceURL` and `WaitForService` use the same checks.

An endpoint is ready when it has subsets and none has an address that is not
ready (`endpointReady`); `checkEndpointReady_run` says the loop decides exactly
that, and `checkExternalService_none` what a passing check of the wait read.  A
wait that returns ended on a passing check (`waitFor_returned`), so with `--retry`
the last two steps before the listing are the reads of the service, annotated, and
of its endpoint, ready (`openService_lists_after_ready`); the cluster may change
after.

No check opens anything, so a run of the command opens at most one URL, only
without `--url`, and that URL is the annotation of the first service of the name
in the listing the run got (`openService_opens_listed_url`); the whole command
opens nothing unless given exactly one name (`runService_opens_listed_url`).  The
flags hold the defaults the code registers (`ServiceFlags`): `--retry` is on, and
without `--namespace` the namespace is `default`, not the kubeconfig's, which is
read only for an explicitly empty `--namespace`.
-/

namespace GoFabric8
namespace Service

open Prog hiding pure bind

/-- The loop of `CheckEndpointReady` over the subsets (lines 259-264). -/
def checkSubsets : List EndpointSubset → Prog (Option String)
  | [] => pure none
  | subset :: subsets =>
    if subset.notReadyAddresses ≠ 0 then do
      request (.print "Waiting, endpoint for service is not ready yet...\n")
      pure (some "Endpoint for service is not ready yet\n")
    else checkSubsets subsets

/-- `CheckEndpointReady` (service.go:254-266). -/
def checkEndpointReady (endpoint : Endpoints) : Prog (Option String) :=
  match endpoint.subsets with
  | [] => do
    request (.print ".")
    pure (some "Endpoint for service is not ready yet\n")
  | subsets => checkSubsets subsets

/-- `CheckService` (service.go:239-250).  `c.Endpoints(ns)` is never nil, so its
check prints nothing. -/
def checkService (ns service : String) : Prog (Option String) := do
  match ← request (.getEndpoints ns service) with
  | .error err =>
    request (.print ("No endpoints found for service " ++ service ++ "\n"))
    pure (some err)
  | .ok endpoint => checkEndpointReady endpoint

/-- `CheckExternalService` (service.go:215-234): the annotation, then the same
endpoint check as `CheckService`. -/
def checkExternalService (ns service : String) : Prog (Option String) := do
  let (svc, err) ← request (.getService ns service)
  match err with
  | some e => pure (some e)
  | none =>
    if svc.annotation exposeURLAnnotation = "" then pure (some "No external URL annotation")
    else checkService ns service

/-- `CheckServiceExists` (service.go:199-210); the error for a missing annotation
has an empty message. -/
def checkServiceExists (ns service : String) : Prog (Option String) := do
  let (svc, err) ← request (.getService ns service)
  match err with
  | some e => pure (some e)
  | none =>
    if svc.annotation exposeURLAnnotation = "" then do
      request (.print ".")
      pure (some "")
    else pure none

/-- `RetryAfter(1200, check, 10*time.Second)` followed by `util.Errorf` and
`os.Exit(1)` on its error. -/
def waitFor (serviceName : String) (check : Prog (Option String)) : Prog Unit := do
  match ← retryAfter 1200 check 10000000000 with
  | some err =>
    .exit ("Could not find finalized endpoint being pointed to by " ++ serviceName ++ ": " ++ err)
  | none => pure ()

/-- `FindServiceURL` (service.go:157-174).  After a failed `Get` it goes on with
the empty service the client hands back. -/
def findServiceURL (ns serviceName : String) (retry : Bool) : Prog String := do
  if retry then waitFor serviceName (checkServiceExists ns serviceName)
  let (svc, err) ← request (.getService ns serviceName)
  match err with
  | some e => request (.print ("No service " ++ serviceName ++ " found " ++ e ++ "\n"))
  | none => pure ()
  let url := svc.annotation exposeURLAnnotation
  pure (if url.length > 0 then url else "")

/-- `GetServiceURL` (service.go:177-188); a nil annotation map reads as empty. -/
def getServiceURL (ns serviceName : String) : Prog String := do
  let (svc, err) ← request (.getService ns serviceName)
  match err with
  | some _ => pure ""
  | none => pure (svc.annotation exposeURLAnnotation)

/-- `WaitForService` (service.go:191-196). -/
def waitForService (ns serviceName : String) : Prog Unit :=
  waitFor serviceName (checkService ns serviceName)

/-- `openService` (service.go:73-103).  A failed listing is printed and leaves no
service; the loop stops at the first service of the name. -/
def openService (ns serviceName : String) (printURL retry : Bool) : Prog Unit := do
  if retry then waitFor serviceName (checkExternalService ns serviceName)
  let items ← match ← request (.listServices ns) with
    | .error err => do
      request (.print ("No services found " ++ err ++ "\n"))
      pure []
    | .ok items => pure items
  match items.find? (·.1 == serviceName) with
  | some (_, service) =>
    if printURL then request (.print (service.annotation exposeURLAnnotation ++ "\n"))
    else do
      request (.print ("\nOpening URL " ++ service.annotation exposeURLAnnotation ++ "\n"))
      request (.openURL (service.annotation exposeURLAnnotation))
  | none => request (.print ("No service " ++ serviceName ++ " in namespace " ++ ns ++ "\n"))

/-- The flags of `NewCmdService` (lines 67-69): each is the value the command line
gave, or else the default the code registers, `--namespace` `"default"`, `--url`
off and `--retry` on. -/
structure ServiceFlags where
  ns : String := "default"
  url : Bool := false
  retry : Bool := true
  deriving DecidableEq, Repr

/-- The `Run` of `NewCmdService` (lines 51-65), given the flags and the arguments.
The kubeconfig namespace is read only when `--namespace` was given empty. -/
def runService (flags : ServiceFlags) (args : List String) : Prog Unit := do
  let ns ← if flags.ns = "" then request .defaultNamespace else pure flags.ns
  match args with
  | [serviceName] => openService ns serviceName flags.url flags.retry
  | _ => .exit ("Please choose a service, found " ++ toString args.length ++ " arguments\n")

/-! ## Readiness -/

/-- An endpoint is ready: it has subsets, and no address of one is not ready. -/
def endpointReady (endpoint : Endpoints) : Bool :=
  endpoint.subsets ≠ [] && endpoint.subsets.all (·.notReadyAddresses = 0)

theorem checkSubsets_run (E : Env) :
    ∀ (subsets : List EndpointSubset) (hist : List Event),
      ((checkSubsets subsets).run E hist).2 =
        .returned (if subsets.all (·.notReadyAddresses = 0) then none
          else some "Endpoint for service is not ready yet\n")
  | [], _ => rfl
  | subset :: subsets, hist => by
    by_cases h : subset.notReadyAddresses = 0
    · simpa [checkSubsets, h] using checkSubsets_run E subsets hist
    · simp [checkSubsets, h, request]

/-- `CheckEndpointReady` returns nil exactly on a ready endpoint. -/
theorem checkEndpointReady_run (endpoint : Endpoints) (E : Env) (hist : List Event) :
    ((checkEndpointReady endpoint).run E hist).2 =
      .returned (if endpointReady endpoint then none
        else some "Endpoint for service is not ready yet\n") := by
  unfold checkEndpointReady endpointReady
  split
  · next h => simp [h, request]
  · next h => simp [show endpoint.subsets ≠ [] from h, checkSubsets_run]

/-- The loop passes without a step when no subset has an address that is not
ready. -/
theorem checkSubsets_ready (E : Env) :
    ∀ (subsets : List EndpointSubset) (hist : List Event),
      subsets.all (·.notReadyAddresses = 0) → (checkSubsets subsets).run E hist = ([], .returned none)
  | [], _, _ => rfl
  | subset :: subsets, hist, h => by
    simp only [List.all_cons, Bool.and_eq_true, decide_eq_true_eq] at h
    simp only [checkSubsets, h.1, ne_eq, not_true_eq_false, if_false]
    exact checkSubsets_ready E subsets hist h.2

/-- On a ready endpoint the check passes without a step. -/
theorem checkEndpointReady_ready {endpoint : Endpoints} (E : Env) (hist : List Event)
    (h : endpointReady endpoint) : (checkEndpointReady endpoint).run E hist = ([], .returned none) := by
  simp only [endpointReady, Bool.and_eq_true, decide_eq_true_eq] at h
  unfold checkEndpointReady
  split
  · next he => exact absurd he h.1
  · exact checkSubsets_ready E _ hist h.2

/-- A check of `CheckExternalService` that passes read, without error, a service
with the annotation and then its endpoint, which is ready, and took no other
step. -/
theorem checkExternalService_none {ns service : String} {E : Env} {hist t : List Event}
    (hr : (checkExternalService ns service).run E hist = (t, .returned none)) :
    ∃ svc endpoint,
      t = [⟨.getService ns service, (svc, none)⟩, ⟨.getEndpoints ns service, .ok endpoint⟩] ∧
      svc.annotation exposeURLAnnotation ≠ "" ∧ endpointReady endpoint := by
  obtain ⟨t₁, t₂, ⟨svc, err⟩, rfl, h₁, h₂⟩ := run_bind_returned E hr
  obtain rfl := request_returned E h₁
  dsimp only at h₂
  cases err with
  | some e => cases (pure_returned E h₂).2
  | none =>
    by_cases ha : svc.annotation exposeURLAnnotation = ""
    · rw [if_pos ha] at h₂
      cases (pure_returned E h₂).2
    · rw [if_neg ha, checkService] at h₂
      obtain ⟨t₃, t₄, r, rfl, h₃, h₄⟩ := run_bind_returned E h₂
      obtain rfl := request_returned E h₃
      cases r with
      | error err =>
        obtain ⟨_, _, _, -, -, h₅⟩ := run_bind_returned E h₄
        cases (pure_returned E h₅).2
      | ok endpoint =>
        have hready : endpointReady endpoint := by
          have h₅ := congrArg Prod.snd h₄
          rw [checkEndpointReady_run] at h₅
          by_contra hne
          simp [hne] at h₅
        obtain rfl := congrArg Prod.fst ((checkEndpointReady_ready E _ hready).symm.trans h₄)
        exact ⟨svc, endpoint, rfl, ha, hready⟩

/-! ## The wait

The checks take only service and endpoint reads and prints, and the wait adds its
sleeps; a wait that returns ended on a check that passed. -/

section Checks

variable {P : Event → Prop} (ns service : String) (hprint : ∀ msg, P ⟨.print msg, ()⟩)
include hprint

theorem checkSubsets_allEvents :
    ∀ subsets : List EndpointSubset, AllEvents P (checkSubsets subsets)
  | [] => allEvents_pure _
  | subset :: subsets => by
    unfold checkSubsets
    split
    · exact allEvents_bind (allEvents_request fun _ => hprint _) fun _ => allEvents_pure _
    · exact checkSubsets_allEvents subsets

theorem checkEndpointReady_allEvents (endpoint : Endpoints) :
    AllEvents P (checkEndpointReady endpoint) := by
  unfold checkEndpointReady
  split
  · exact allEvents_bind (allEvents_request fun _ => hprint _) fun _ => allEvents_pure _
  · exact checkSubsets_allEvents hprint _

theorem checkService_allEvents (hend : ∀ r, P ⟨.getEndpoints ns service, r⟩) :
    AllEvents P (checkService ns service) :=
  allEvents_bind (allEvents_request hend) fun
    | .error _ => allEvents_bind (allEvents_request fun _ => hprint _) fun _ => allEvents_pure _
    | .ok endpoint => checkEndpointReady_allEvents hprint endpoint

theorem checkExternalService_allEvents (hget : ∀ r, P ⟨.getService ns service, r⟩)
    (hend : ∀ r, P ⟨.getEndpoints ns service, r⟩) :
    AllEvents P (checkExternalService ns service) :=
  allEvents_bind (allEvents_request hget) fun _ => by
    split
    split
    · exact allEvents_pure _
    · split
      · exact allEvents_pure _
      · exact checkService_allEvents ns service hprint hend

end Checks

theorem waitFor_allEvents {P : Event → Prop} (serviceName : String) {check : Prog (Option String)}
    (hsleep : P ⟨.sleep 10000000000, ()⟩) (hc : AllEvents P check) :
    AllEvents P (waitFor serviceName check) :=
  allEvents_bind (allEvents_retryLoop hc hsleep _ _) fun
    | some _ => allEvents_exit _
    | none => allEvents_pure _

/-- A wait that returns ends on a run of the check that passed. -/
theorem waitFor_returned {serviceName : String} {check : Prog (Option String)} {E : Env}
    {hist t : List Event} {u : Unit} (hr : (waitFor serviceName check).run E hist = (t, .returned u)) :
    ∃ pre t₂, t = pre ++ t₂ ∧ check.run E (hist ++ pre) = (t₂, .returned none) := by
  obtain ⟨t₁, t₂, r, rfl, h₁, h₂⟩ := run_bind_returned E hr
  cases r with
  | some _ => cases h₂
  | none =>
    obtain ⟨rfl, -⟩ := pure_returned E h₂
    simpa using retryLoop_returned_none E 1200 ⟨[]⟩ hist t₁ (.inl (by decide)) h₁

/-! ## What the command opens -/

/-- The URL a step opens in the browser. -/
def Op.openedURL? : Op → Option String
  | .openURL url => some url
  | _ => none

/-- The URLs a trace opens, in order. -/
def openedURLs (t : List Event) : List String :=
  t.filterMap fun e => Op.openedURL? e.op

@[simp] theorem openedURLs_nil : openedURLs [] = [] := rfl

@[simp] theorem openedURLs_append (a b : List Event) :
    openedURLs (a ++ b) = openedURLs a ++ openedURLs b :=
  List.filterMap_append _ _ _

@[simp] theorem openedURLs_cons (e : Event) (t : List Event) :
    openedURLs (e :: t) = (Op.openedURL? e.op).toList ++ openedURLs t := by
  cases h : Op.openedURL? e.op <;> simp [openedURLs, List.filterMap_cons, h]

/-- A step that opens no URL. -/
def OpensNothing (e : Event) : Prop := Op.openedURL? e.op = none

theorem openedURLs_eq_nil {t : List Event} (h : ∀ e ∈ t, OpensNothing e) : openedURLs t = [] :=
  List.filterMap_eq_nil_iff.mpr h

/-- What a trace of the command opens: nothing, or, without `--url`, only the
annotation of the first service of the name in a listing of the namespace it got. -/
def OpensListedURL (ns serviceName : String) (printURL : Bool) (t : List Event) : Prop :=
  openedURLs t = [] ∨
    printURL = false ∧ ∃ items svc, (⟨.listServices ns, .ok items⟩ : Event) ∈ t ∧
      items.find? (·.1 == serviceName) = some (serviceName, svc) ∧
      openedURLs t = [svc.annotation exposeURLAnnotation]

theorem OpensListedURL.append {ns serviceName : String} {printURL : Bool} {a t : List Event}
    (ha : ∀ e ∈ a, OpensNothing e) (h : OpensListedURL ns serviceName printURL t) :
    OpensListedURL ns serviceName printURL (a ++ t) := by
  rcases h with h | ⟨hp, items, svc, hl, hf, ho⟩
  · exact .inl (by simp [openedURLs_eq_nil ha, h])
  · exact .inr ⟨hp, items, svc, List.mem_append_right a hl, hf, by simp [openedURLs_eq_nil ha, ho]⟩

/-- With `--retry` the command is the wait, then the command without it. -/
theorem openService_retry (ns serviceName : String) (printURL : Bool) :
    openService ns serviceName printURL true =
      (waitFor serviceName (checkExternalService ns serviceName)).bind fun _ =>
        openService ns serviceName printURL false :=
  rfl

theorem openService_listing (ns serviceName : String) (printURL : Bool) (E : Env)
    (hist : List Event) :
    OpensListedURL ns serviceName printURL ((openService ns serviceName printURL false).run E hist).1 := by
  simp only [openService, Bool.false_eq_true, if_false, bind_eq, pure_eq, Prog.pure_bind,
    request_bind, run_call]
  rcases hl : E hist (.listServices ns) with err | items
  · exact .inl (by simp [hl, request, Op.openedURL?])
  simp only [hl, Prog.pure_bind]
  split
  · next name svc hf =>
    obtain rfl : name = serviceName := by simpa using List.find?_some hf
    split
    · exact .inl (by simp [request, Op.openedURL?])
    · next hp =>
      refine .inr ⟨Bool.eq_false_iff.mpr hp, items, svc, by simp [hl], hf, ?_⟩
      simp [request, Op.openedURL?]
  · exact .inl (by simp [request, Op.openedURL?])

/-- Without `--retry` the command starts with the listing, and lists once. -/
theorem openService_listing_first (ns serviceName : String) (printURL : Bool) (E : Env)
    (hist : List Event) :
    ∃ B, ((openService ns serviceName printURL false).run E hist).1 =
      ⟨.listServices ns, E hist (.listServices ns)⟩ :: B ∧ ∀ e ∈ B, ∀ ns', e.op ≠ .listServices ns' := by
  simp only [openService, Bool.false_eq_true, if_false, bind_eq, pure_eq, Prog.pure_bind,
    request_bind, run_call]
  refine ⟨_, rfl, ?_⟩
  rcases E hist (.listServices ns) with err | items
  · simp [request]
  · simp only [Prog.pure_bind]
    split
    · split <;> simp [request]
    · simp [request]

/-- With `--retry` the services are listed right after a check of the wait that
read the service with its annotation and then its endpoint, ready: those two reads
are the last steps before the listing. -/
theorem openService_lists_after_ready {ns serviceName : String} {printURL : Bool} {E : Env}
    {hist pre rest : List Event} {r : (Op.listServices ns).Res}
    (h : ((openService ns serviceName printURL true).run E hist).1 =
      pre ++ ⟨.listServices ns, r⟩ :: rest) :
    ∃ pre₁ svc endpoint, pre = pre₁ ++
        [⟨.getService ns serviceName, (svc, none)⟩, ⟨.getEndpoints ns serviceName, .ok endpoint⟩] ∧
      svc.annotation exposeURLAnnotation ≠ "" ∧ endpointReady endpoint := by
  rw [openService_retry, run_bind_fst] at h
  have hW := waitFor_allEvents (P := fun e : Event => ∀ ns', e.op ≠ .listServices ns') serviceName
    (fun _ h => Op.noConfusion h) (checkExternalService_allEvents ns serviceName
      (fun _ _ h => Op.noConfusion h) (fun _ _ h => Op.noConfusion h)
      (fun _ _ h => Op.noConfusion h)) E hist
  obtain ⟨pre', rfl, hL⟩ := cut_right (fun e : Event => ∃ ns', e.op = .listServices ns') h.symm
    (fun x hx ⟨ns', h'⟩ => hW x hx ns' h') ⟨ns, rfl⟩
  split at hL
  · next u hu =>
    obtain ⟨pre₁, t₂, ht, hc⟩ := waitFor_returned (Prod.ext rfl hu)
    obtain ⟨svc, endpoint, rfl, ha, hready⟩ := checkExternalService_none hc
    obtain ⟨B, hB, hBL⟩ := openService_listing_first ns serviceName printURL E (hist ++ _)
    rw [hB] at hL
    obtain rfl : pre' = [] := by
      rcases pre' with _ | ⟨x, pre''⟩
      · rfl
      · simp only [List.cons_append, List.cons.injEq] at hL
        exact absurd rfl (hBL _ (hL.2 ▸ List.mem_append_right _ (List.mem_cons_self _ _)) ns)
    exact ⟨pre₁, svc, endpoint, (List.append_nil _).trans ht, ha, hready⟩
  · simp at hL

/-- A service with its annotation and a ready endpoint: the wait passes on its first
check, and the services are listed after it. -/
theorem openService_lists_after_ready_fabric8 :
    let E : Env := fun _ op => match op with
      | .getService _ _ => (⟨[( exposeURLAnnotation, "http://fabric8.example")], []⟩, none)
      | .getEndpoints _ _ => .ok ⟨[⟨0⟩]⟩
      | op => op.quiet
    let pre : List Event :=
      [⟨.getService "default" "fabric8", E [] (.getService "default" "fabric8")⟩,
        ⟨.getEndpoints "default" "fabric8", .ok ⟨[⟨0⟩]⟩⟩]
    ((openService "default" "fabric8" false true).run E []).1 =
        pre ++ ⟨.listServices "default", .ok []⟩ ::
          [⟨.print "No service fabric8 in namespace default\n", ()⟩] ∧
      ∃ pre₁ svc endpoint, pre = pre₁ ++ [⟨.getService "default" "fabric8", (svc, none)⟩,
          ⟨.getEndpoints "default" "fabric8", .ok endpoint⟩] ∧
        svc.annotation exposeURLAnnotation ≠ "" ∧ endpointReady endpoint := by
  intro E pre
  have h : ((openService "default" "fabric8" false true).run E []).1 =
      pre ++ ⟨.listServices "default", .ok []⟩ ::
        [⟨.print "No service fabric8 in namespace default\n", ()⟩] := rfl
  exact ⟨h, openService_lists_after_ready h⟩

/-- A run opens at most one URL, and only without `--url`: the annotation of the
first service of the name in the listing of the namespace the run got. -/
theorem openService_opens_listed_url (ns serviceName : String) (printURL retry : Bool) (E : Env)
    (hist : List Event) :
    OpensListedURL ns serviceName printURL ((openService ns serviceName printURL retry).run E hist).1 := by
  cases retry
  · exact openService_listing ns serviceName printURL E hist
  · rw [openService_retry, run_bind_fst]
    refine .append (waitFor_allEvents (P := OpensNothing) serviceName rfl
      (checkExternalService_allEvents _ _ (fun _ => rfl) (fun _ => rfl) (fun _ => rfl)) E hist) ?_
    split
    · exact openService_listing ns serviceName printURL E _
    · exact .inl rfl

/-- The command opens a URL only when given one service name, and then what
`openService` opens in the namespace of `--namespace`: `"default"` unless the
command line gave another, and the kubeconfig's namespace only for an empty one. -/
theorem runService_opens_listed_url (flags : ServiceFlags) (args : List String) (E : Env) :
    let t : List Event := ((runService flags args).run E []).1
    (∀ serviceName, args = [serviceName] →
      OpensListedURL (if flags.ns = "" then E [] .defaultNamespace else flags.ns)
        serviceName flags.url t) ∧
    (args.length ≠ 1 → openedURLs t = []) := by
  intro t
  refine ⟨fun serviceName hs => ?_, fun hl => ?_⟩
  · subst hs
    by_cases hf : flags.ns = ""
    · simp only [t, runService, hf, if_true, bind_eq, request_bind, run_call]
      show OpensListedURL _ _ _ ([_] ++ _)
      exact .append (by simp [OpensNothing, Op.openedURL?]) (openService_opens_listed_url _ _ _ _ E _)
    · simpa [t, runService, hf] using
        openService_opens_listed_url flags.ns serviceName flags.url flags.retry E []
  · rcases args with _ | ⟨_, _ | ⟨_, _⟩⟩
    · by_cases hf : flags.ns = "" <;> simp [t, runService, hf, Op.openedURL?]
    · exact absurd rfl hl
    · by_cases hf : flags.ns = "" <;> simp [t, runService, hf, Op.openedURL?]

/-- Without flags on the command line the listing is of `default`, after the wait
on the service there. -/
example :
    let E : Env := fun _ op => match op with
      | .getService _ _ => (⟨[( exposeURLAnnotation, "http://fabric8.example")], []⟩, none)
      | .getEndpoints _ _ => .ok ⟨[⟨0⟩]⟩
      | .listServices _ =>
        .ok [("fabric8", ⟨[( exposeURLAnnotation, "http://fabric8.example")], []⟩)]
      | op => op.quiet
    ((runService {} ["fabric8"]).run E []).1.map (·.op) =
      [.getService "default" "fabric8", .getEndpoints "default" "fabric8", .listServices "default",
        .print "\nOpening URL http://fabric8.example\n", .openURL "http://fabric8.example"] := by
  decide

end Service
end GoFabric8
