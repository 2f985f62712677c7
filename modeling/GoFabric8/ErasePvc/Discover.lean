import GoFabric8.Cmdutil

/-!
# Finding the pods on a claim

The first half of `erasePVC` (erase_pvc.go:106-124): list the pods of the namespace
and keep those with a volume named after the claim (`findPodsAttachedtoPVC`), then
make one pass over them, appending the pods of each pod's `service` label.

`findPodsAttachedtoPVC` compares `volume.Name`, the name the pod gives the volume,
with the claim's name; which claim the volume mounts is never read.  The general
result is `podsWithVolume_eq_nodup`: in list order, once each, the pods with a
volume of that name, so no pod twice.  A pod that names its claim volume differently is not found:
`findPodsAttachedtoPVC_misses_claim_mount`.
-/

namespace GoFabric8
namespace ErasePvc

open Prog hiding pure bind

/-- The nested loop of lines 201-209: a pod's name once for each of its volumes
named `findVolume`. -/
def podsWithVolume (findVolume : String) (pods : PodList) : List String :=
  pods.items.foldl (fun ret item =>
    item.volumes.foldl (fun ret volume =>
      if volume.name = findVolume then ret ++ [item.name] else ret) ret) []

/-- `findPodsAttachedtoPVC` (erase_pvc.go:193-211). -/
def findPodsAttachedtoPVC (findVolume ns : String) : Prog (Except String (List String)) := do
  match ← request (.listPods ns) with
  | .error err => pure (.error err)
  | .ok pods => pure (.ok (podsWithVolume findVolume pods))

/-- Lines 114-124: one pass over the pods found, appending the pods of each
non-empty `service` label.  The range is over the slice as it was when the loop
began, so appended pods are not visited. -/
def expandAttachedPods (ns : String) (attachedpods : List String) : Prog (List String) :=
  attachedpods.foldlM (fun acc pod => do
    let serviceName ← checkedValue (← request (.getLabelValueOfPod ns pod "service"))
    if serviceName ≠ "" then
      let sp ← checkedValue (← request (.getPodsDependOfService ns serviceName))
      pure (acc ++ sp)
    else pure acc) attachedpods

/-! ## Runs of the steps -/

section Steps

variable {E : Env} {hist t : List Event} {P : Event → Prop}

theorem findPodsAttachedtoPVC_run (findVolume ns : String) (E : Env) (hist : List Event) :
    (findPodsAttachedtoPVC findVolume ns).run E hist =
      ([⟨.listPods ns, E hist (.listPods ns)⟩],
        .returned ((E hist (.listPods ns)).map (podsWithVolume findVolume))) := by
  simp only [findPodsAttachedtoPVC, bind_eq, request_bind, run_call]
  cases E hist (.listPods ns) <;> rfl

theorem findPodsAttachedtoPVC_allEvents {findVolume ns : String}
    (h : ∀ r, P ⟨.listPods ns, r⟩) : AllEvents P (findPodsAttachedtoPVC findVolume ns) := by
  refine allEvents_call h fun r => ?_
  cases r <;> exact allEvents_pure _

/-- The expansion takes only label and service lookups in `ns`. -/
theorem expandAttachedPods_allEvents {ns : String}
    (h₁ : ∀ pod r, P ⟨.getLabelValueOfPod ns pod "service", r⟩)
    (h₂ : ∀ service r, P ⟨.getPodsDependOfService ns service, r⟩) (pods : List String) :
    AllEvents P (expandAttachedPods ns pods) := by
  refine allEvents_foldlM (fun acc pod => ?_) _ _
  refine allEvents_bind (allEvents_request (h₁ pod)) fun r =>
    allEvents_bind (allEvents_checkedValue r) fun svc => ?_
  split
  · exact allEvents_bind (allEvents_request (h₂ svc)) fun r =>
      allEvents_bind (allEvents_checkedValue r) fun _ => allEvents_pure _
  · exact allEvents_pure _

/-- A failed lookup ends the command, so a returning expansion saw none. -/
theorem expandAttachedPods_returning (ns : String) (pods : List String) :
    Returning (·.failed = false) (expandAttachedPods ns pods) := by
  refine returning_foldlM (fun acc pod => ?_) _ _
  simp only [bind_eq, request_bind]
  refine returning_call (fun r => ?_) fun r => returning_bind (returning_checkedValue r) fun svc => ?_
  · cases r
    · exact .inr (halts_bind (halts_exit _) _)
    · exact .inl rfl
  split
  · refine returning_call (fun r => ?_) fun r =>
      returning_bind (returning_checkedValue r) fun _ => returning_pure _
    cases r
    · exact .inr (halts_bind (halts_exit _) _)
    · exact .inl rfl
  · exact returning_pure _

end Steps

/-! ## The pods with a volume of a given name -/

theorem volumes_foldl (findVolume name : String) (vs : List Volume) (ret : List String) :
    vs.foldl (fun ret volume => if volume.name = findVolume then ret ++ [name] else ret) ret =
      ret ++ (vs.filter (·.name == findVolume)).map fun _ => name := by
  induction vs generalizing ret with
  | nil => simp
  | cons v vs ih =>
    by_cases hv : v.name = findVolume <;> simp [hv, ih, List.filter_cons]

/-- With unique volume names, at most one volume has a given name. -/
theorem filter_name_eq (item : Pod) (findVolume : String) :
    ((item.volumes.filter (·.name == findVolume)).map fun _ => item.name) =
      if item.volumes.any (·.name == findVolume) then [item.name] else [] := by
  have hsub : ((item.volumes.filter (·.name == findVolume)).map Volume.name).Nodup :=
    item.volumes_nodup.sublist ((List.filter_sublist _).map _)
  have hrep : (item.volumes.filter (·.name == findVolume)).map Volume.name =
      List.replicate (item.volumes.filter (·.name == findVolume)).length findVolume := by
    rw [List.eq_replicate_iff]
    simp only [List.length_map, List.mem_map, List.mem_filter, beq_iff_eq, true_and]
    rintro _ ⟨v, ⟨-, rfl⟩, rfl⟩
    rfl
  have hle := List.nodup_replicate.mp (hrep ▸ hsub)
  have hcases : item.volumes.filter (·.name == findVolume) = [] ∨
      ∃ w, item.volumes.filter (·.name == findVolume) = [w] := by
    rcases h : item.volumes.filter (·.name == findVolume) with _ | ⟨w, _ | ⟨w', rest⟩⟩
    · exact .inl h
    · exact .inr ⟨w, h⟩
    · simp [h] at hle
  rcases hcases with hf | ⟨w, hf⟩
  · have hany : ¬item.volumes.any (·.name == findVolume) = true := by
      simpa using List.filter_eq_nil_iff.mp hf
    rw [hf, if_neg hany]
    rfl
  · have hany : item.volumes.any (·.name == findVolume) = true :=
      List.any_eq_true.mpr ⟨w, List.mem_filter.mp (hf ▸ List.mem_singleton_self w)⟩
    rw [hf, if_pos hany]
    rfl

/-- `findPodsAttachedtoPVC` keeps, in list order and once each, the pods with a
volume named `findVolume`. -/
theorem podsWithVolume_eq (findVolume : String) (pods : PodList) :
    podsWithVolume findVolume pods =
      (pods.items.filter fun item => item.volumes.any (·.name == findVolume)).map Pod.name := by
  have hgo : ∀ (items : List Pod) (ret : List String),
      items.foldl (fun ret item => item.volumes.foldl (fun ret volume =>
        if volume.name = findVolume then ret ++ [item.name] else ret) ret) ret =
      ret ++ (items.filter fun item => item.volumes.any (·.name == findVolume)).map Pod.name := by
    intro items
    induction items with
    | nil => simp
    | cons item items ih =>
      intro ret
      rw [List.foldl_cons, volumes_foldl, filter_name_eq, ih]
      by_cases h : item.volumes.any (·.name == findVolume) <;> simp [h, List.filter_cons]
  simpa using hgo pods.items []

/-- On pod names unique in the listing, `findPodsAttachedtoPVC` lists each pod with a
volume named `findVolume` once, in list order, and so no pod twice. -/
theorem podsWithVolume_eq_nodup (findVolume : String) (pods : PodList) :
    podsWithVolume findVolume pods =
        (pods.items.filter fun item => item.volumes.any (·.name == findVolume)).map Pod.name ∧
      (podsWithVolume findVolume pods).Nodup := by
  rw [podsWithVolume_eq]
  exact ⟨rfl, pods.names_nodup.sublist ((List.filter_sublist _).map _)⟩

/-- A pod that mounts the claim under another volume name: the claim names it, the
loop does not find it. -/
theorem findPodsAttachedtoPVC_misses_claim_mount :
    let pods : PodList :=
      ⟨[⟨"app-1", [⟨"data", .persistentVolumeClaim "data-pv-claim"⟩], by decide⟩], by decide⟩
    (pods.items.map Pod.name = ["app-1"] ∧
      pods.items.all fun item =>
        item.volumes.any (·.source == .persistentVolumeClaim "data-pv-claim")) ∧
    ((findPodsAttachedtoPVC "data-pv-claim" "ns1").run
        (fun _ op => match op with
          | .listPods _ => .ok pods
          | op => op.quiet) []).2 = .returned (.ok []) := by
  intro pods
  decide

end ErasePvc
end GoFabric8
