import GoFabric8.ErasePvc.Workflow

/-!
# Which pods are deleted, and where they are looked up

The pod loop deletes the discovered pods in list order and stops at the first
failed deletion (`recreate_deletedPods`), and the list it runs over is the one
`expandAttachedPods` built by appending: the attached pods first, each service's
pods after them, with no check for a pod already on the list
(`expandAttachedPods_servicePods`).  A pod found both directly and through its own
service is deleted twice, and the second deletion fails on a healthy cluster:
`erasePVC_deletes_pod_twice`.

The label and service lookups take the namespace of the kubeconfig, not the
`userNS` the claim and its pods are in (`discover_lookups_in_default_namespace`);
with `--namespace` naming another namespace they look for the pods where they are
not: `erasePVC_looks_up_labels_in_default_namespace`.
-/

namespace GoFabric8
namespace ErasePvc

open Prog hiding pure bind

/-- The pods a trace deletes, in order. -/
def deletedPods (t : List Event) : List String :=
  t.filterMap fun e => Op.deletedPod? e.op

@[simp] theorem deletedPods_nil : deletedPods [] = [] := rfl

@[simp] theorem deletedPods_append (a b : List Event) :
    deletedPods (a ++ b) = deletedPods a ++ deletedPods b :=
  List.filterMap_append _ _ _

@[simp] theorem deletedPods_cons (e : Event) (t : List Event) :
    deletedPods (e :: t) = (Op.deletedPod? e.op).toList ++ deletedPods t := by
  cases h : Op.deletedPod? e.op <;> simp [deletedPods, List.filterMap_cons, h]

/-! ## The pod loop -/

section Loop

variable (volumeName userNS : String) (E : Env)

/-- One pass of the loop deletes its pod, whatever the answer. -/
theorem deletedPods_deletePod (pod : String) (hist : List Event) :
    deletedPods ((deletePod volumeName userNS pod).run E hist).1 = [pod] := by
  rw [deletePod, bind_eq, runKubectl_bind_fst]
  split <;> rfl

/-- The loop deletes a prefix of its list. -/
theorem forM_deletePod_prefix :
    ∀ (pods : List String) (hist : List Event),
      deletedPods ((pods.forM (deletePod volumeName userNS)).run E hist).1 <+: pods
  | [], _ => by simp
  | pod :: pods, hist => by
    rw [forM_cons, run_bind_fst, deletedPods_append, deletedPods_deletePod]
    refine List.prefix_cons_inj _ |>.mpr ?_
    split
    · exact forM_deletePod_prefix pods _
    all_goals exact List.nil_prefix

/-- `recreate` deletes the given pods in order, stopping at the first failure. -/
theorem recreate_deletedPods (pods : List String) (tmp : String) (hist : List Event) :
    deletedPods ((recreate volumeName userNS pods tmp).run E hist).1 <+: pods := by
  simp only [recreate, bind_eq]
  rw [runKubectl_bind_fst]
  split
  · exact List.nil_prefix
  rw [runKubectl_bind_fst]
  split
  · exact List.nil_prefix
  -- neither the claim's deletion and creation nor the steps after the loop delete a pod
  rw [run_bind_fst]
  show deletedPods (_ ++ _) <+: pods
  rw [deletedPods_append]
  split
  all_goals
    show deletedPods _ ++ [] <+: pods
    rw [List.append_nil]
    exact forM_deletePod_prefix volumeName userNS E pods _

end Loop

/-! ## The pass over the attached pods -/

/-- A claim mounted by `app-1`, which carries `service=app`, a service of pods
`app-1` and `app-2`, and a cluster where deleting a pod that is gone fails.  The
second deletion of `app-1` ends the command and `app-2` is never deleted. -/
theorem erasePVC_deletes_pod_twice :
    let E : Env := fun h op => match op with
      | .defaultNamespace => "ns1"
      | .detectCurrentUserNamespace _ => .ok "ns1"
      | .listPods _ => .ok ⟨[⟨"app-1", [⟨"data-pv-claim", .persistentVolumeClaim "data-pv-claim"⟩],
          by decide⟩, ⟨"app-2", [], by decide⟩], by decide⟩
      | .getLabelValueOfPod _ _ _ => .ok "app"
      | .getPodsDependOfService _ _ => .ok ["app-1", "app-2"]
      | .runCommandWithOutput "kubectl" ("get" :: _) =>
        ("apiVersion: v1\nkind: PersistentVolumeClaim\nmetadata:\n  name: data-pv-claim\n", none)
      | .runCommandWithOutput "kubectl" ["delete", "-n", ns, "pod", pod] =>
        if h.any fun e => e.op = .runCommandWithOutput "kubectl" ["delete", "-n", ns, "pod", pod] then
          ("Error from server (NotFound): pods \"" ++ pod ++ "\" not found", some "exit status 1")
        else ("pod \"" ++ pod ++ "\" deleted", none)
      | .tempFile _ _ => .ok "/tmp/gofabric8001"
      | op => op.quiet
    let r := (erasePVC ⟨"", "data-pv-claim"⟩).run E []
    deletedPods r.1 = ["app-1", "app-1"] ∧
      r.2 = .exited ("Error while running cmd: delete -n ns1 pod app-1 Error: exit status 1 " ++
        "Output: Error from server (NotFound): pods \"app-1\" not found\n") := by
  intro E r
  decide

/-! ## The namespace of the lookups -/

/-- The namespace a label or service lookup targets. -/
def Op.lookupNamespace? : Op → Option String
  | .getLabelValueOfPod ns _ _ => some ns
  | .getPodsDependOfService ns _ => some ns
  | _ => none

/-- The event is not a lookup, or a lookup in `ns`. -/
def LookupIn (ns : String) (e : Event) : Prop :=
  ∀ ns', Op.lookupNamespace? e.op = some ns' → ns' = ns

/-- Every label and service lookup of `discover` is made in the namespace the
kubeconfig answered, whatever `userNS` becomes. -/
theorem discover_lookups_in_default_namespace (p : ErasePVCFlags) (E : Env) (hist : List Event) :
    ∀ e ∈ ((discover p).run E hist).1, LookupIn (E hist .defaultNamespace) e := by
  intro e he
  rw [discover, bind_eq, request_bind, run_call, List.mem_cons] at he
  rcases he with rfl | he
  · simp [LookupIn, Op.lookupNamespace?]
  refine (show AllEvents (LookupIn (E hist .defaultNamespace)) _ from ?_) E _ e he
  exact allEvents_bind (allEvents_request fun _ => by simp [LookupIn, Op.lookupNamespace?]) fun r =>
    allEvents_bind (allEvents_checkedValue r) fun _ =>
      allEvents_bind (findPodsAttachedtoPVC_allEvents fun _ => by simp [LookupIn, Op.lookupNamespace?])
        fun r => allEvents_bind (allEvents_checkedValue r) fun pods =>
          allEvents_bind (expandAttachedPods_allEvents
            (fun _ _ => by simp [LookupIn, Op.lookupNamespace?])
            (fun _ _ => by simp [LookupIn, Op.lookupNamespace?]) pods) fun _ => allEvents_pure _

/-- Without `--namespace`, the user namespace `ns1` detected and `app-1` found
there: its label is looked up in `default`. -/
theorem discover_looks_up_label_in_default :
    let E : Env := fun _ op => match op with
      | .defaultNamespace => "default"
      | .detectCurrentUserNamespace _ => .ok "ns1"
      | .listPods _ =>
        .ok ⟨[⟨"app-1", [⟨"data-pv-claim", .persistentVolumeClaim "data-pv-claim"⟩], by decide⟩],
          by decide⟩
      | op => op.quiet
    let e : Event := ⟨.getLabelValueOfPod "default" "app-1" "service", .ok ""⟩
    e ∈ ((discover ⟨"", "data-pv-claim"⟩).run E []).1 ∧ LookupIn (E [] .defaultNamespace) e := by
  intro E e
  have ht : ((discover ⟨"", "data-pv-claim"⟩).run E []).1 =
      [⟨.defaultNamespace, "default"⟩, ⟨.detectCurrentUserNamespace "default", .ok "ns1"⟩,
        ⟨.listPods "ns1", E [] (.listPods "ns1")⟩, e] := rfl
  have he : e ∈ ((discover ⟨"", "data-pv-claim"⟩).run E []).1 := by
    rw [ht]
    exact .tail _ (.tail _ (.tail _ (.head _)))
  exact ⟨he, discover_lookups_in_default_namespace _ E [] e he⟩

/-- With `--namespace ns1` and a kubeconfig on `default`, the pods are listed in
`ns1` and their labels looked up in `default`, where there is no such pod: the
command ends before it exports the claim. -/
theorem erasePVC_looks_up_labels_in_default_namespace :
    let E : Env := fun _ op => match op with
      | .defaultNamespace => "default"
      | .detectCurrentUserNamespace _ => .ok "default"
      | .listPods "ns1" => .ok ⟨[⟨"app-1", [⟨"data-pv-claim",
          .persistentVolumeClaim "data-pv-claim"⟩], by decide⟩], by decide⟩
      | .getLabelValueOfPod "ns1" _ _ => .ok ""
      | .getLabelValueOfPod _ pod _ => .error ("pods \"" ++ pod ++ "\" not found")
      | op => op.quiet
    let r := (erasePVC ⟨"ns1", "data-pv-claim"⟩).run E []
    r.1.map (·.op) = [.defaultNamespace, .detectCurrentUserNamespace "default", .listPods "ns1",
        .getLabelValueOfPod "default" "app-1" "service"] ∧
      r.2 = .exited "error: pods \"app-1\" not found" := by
  intro E r
  decide

end ErasePvc
end GoFabric8
