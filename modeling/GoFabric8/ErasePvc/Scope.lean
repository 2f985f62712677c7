import Mathlib.Data.String.Basic
import GoFabric8.Manifest.Blocks
import GoFabric8.ErasePvc.Safety
import GoFabric8.ErasePvc.Pods

/-!
# What a run of erase-pvc touches

Over every run, whatever the cluster answers: the pods `erasePVC` deletes are, in
order, a prefix of the pods listed in `userNS` with a volume named after the claim
followed by the pods the dependency lookups answered, and nothing else
(`erasePVC_deletes_found_pods`); and every step that changes the cluster is a
`kubectl` command in one namespace, the `--namespace` flag or else the namespace
`detectCurrentUserNamespace` answered, where the claim's pods were listed
(`erasePVC_changes_only_user_namespace`); and the claim is created again only in
the namespace it was exported from and from the file that received its filtered
export (`erasePVC_recreates_from_export`).

All three rest on one description of a run (`erasePVC_run_scope`): the quiet events of
`prepare`, then, when it returned, those of `recreate` on what a returning
`discover` found (`discover_returned_scope`), where the expansion appends exactly
what the dependency lookups answered (`expandAttachedPods_servicePods`).

The claim is created again from the temporary file `writeLines` wrote.  Read back
with the scanner the export was read with, that file gives exactly the lines the
filter kept, when the export has no carriage return
(`scanLines_linesText_filterManifest`): a line the scanner yields has no newline
and fits the buffer, the filter only deletes lines, and the scanner reads back
what `writeLines` writes (`scanLines_linesText`).  An export with a line of 64 KiB
or more reads as the lines before it (`scanLines_long_line`), so a run that changes
anything has first written the filtered lines before the long line, and creates the
claim from them (`erasePVC_writes_lines_before_long_line`); on a cluster where every
step succeeds the run goes on to delete the claim and create it again
(`erasePVC_quiet_ops`).

That file is the only one the command removes, and it is removed exactly on a run
that completes (`erasePVC_removes_temp_file`): the removal is the last step of
`recreate` (`recreate_returnsAfter_removal`, `recreate_reaches_removal`), so a
failed `kubectl delete`, `create` or pod deletion leaves it behind.
-/

namespace GoFabric8
namespace ErasePvc

open Prog hiding pure bind
open Manifest

/-- The pods a `getPodsDependOfService` lookup answered. -/
def dependentPods : Event → List String
  | ⟨.getPodsDependOfService _ _, .ok sp⟩ => sp
  | _ => []

/-- The pods the dependency lookups of a trace answered, in order. -/
def servicePods (t : List Event) : List String :=
  t.flatMap dependentPods

/-- The namespace of a `kubectl` command given as `kubectl verb -n ns ...`. -/
def Op.kubectlNamespace? : Op → Option String
  | .runCommandWithOutput "kubectl" (_ :: "-n" :: ns :: _) => some ns
  | _ => none

@[simp] theorem servicePods_nil : servicePods [] = [] := rfl

@[simp] theorem servicePods_append (a b : List Event) :
    servicePods (a ++ b) = servicePods a ++ servicePods b :=
  List.flatMap_append _ _ _

@[simp] theorem servicePods_cons (e : Event) (t : List Event) :
    servicePods (e :: t) = dependentPods e ++ servicePods t := rfl

theorem servicePods_eq_nil {t : List Event} (h : ∀ e ∈ t, dependentPods e = []) :
    servicePods t = [] := by
  simpa [servicePods, List.flatMap] using h

theorem deletedPods_eq_nil {t : List Event} (h : ∀ e ∈ t, e.mutates = false) :
    deletedPods t = [] :=
  List.filterMap_eq_nil_iff.mpr fun e he => by
    cases hd : Op.deletedPod? e.op
    · rfl
    · exact Bool.noConfusion ((h e he).symm.trans (mutates_of_deletedPod (by rw [hd]; rfl)))

/-! ## A returning discovery -/

section Discovery

variable {E : Env} {hist t : List Event}

/-- The expansion appends to the pods found exactly what the dependency lookups
answered. -/
theorem expandAttachedPods_servicePods {ns : String} {pods xs : List String}
    (hr : (expandAttachedPods ns pods).run E hist = (t, .returned xs)) :
    xs = pods ++ servicePods t := by
  refine foldlM_returned_rel (R := fun acc acc' t => acc' = acc ++ servicePods t) (by simp)
    (by rintro _ _ _ _ _ rfl rfl; simp) (fun acc pod E h t acc' hr => ?_) pods pods E hist t xs hr
  simp only [bind_eq] at hr
  obtain ⟨t₁, t₂, r, rfl, h₁, h₂⟩ := run_bind_returned E hr
  obtain rfl := request_returned E h₁
  obtain ⟨t₃, t₄, svc, rfl, h₃, h₄⟩ := run_bind_returned E h₂
  obtain ⟨rfl, rfl⟩ := checkedValue_returned h₃
  split at h₄
  · obtain ⟨t₅, t₆, r', rfl, h₅, h₆⟩ := run_bind_returned E h₄
    obtain rfl := request_returned E h₅
    obtain ⟨t₇, t₈, sp, rfl, h₇, h₈⟩ := run_bind_returned E h₆
    obtain ⟨rfl, rfl⟩ := checkedValue_returned h₇
    obtain ⟨rfl, rfl⟩ := pure_returned E h₈
    simp [dependentPods]
  · obtain ⟨rfl, rfl⟩ := pure_returned E h₄
    simp [dependentPods]

/-- A returning `discover`: the namespace it settled on, the listing of the pods
there, and the pods to delete. -/
theorem discover_returned_scope {p : ErasePVCFlags} {userNS : String} {xs : List String}
    (hr : (discover p).run E hist = (t, .returned (userNS, xs))) :
    ∃ ns u pods, (⟨.detectCurrentUserNamespace ns, .ok u⟩ : Event) ∈ t ∧
      userNS = (if p.userNS ≠ "" then p.userNS else u) ∧
      (⟨.listPods userNS, .ok pods⟩ : Event) ∈ t ∧
      xs = podsWithVolume p.volumeName pods ++ servicePods t := by
  obtain ⟨t₁, t, ns, rfl, h₁, k₁⟩ := run_bind_returned _ hr
  obtain ⟨t₂, t, r, rfl, h₂, k₂⟩ := run_bind_returned _ k₁
  obtain ⟨t₃, t, u, rfl, h₃, k₃⟩ := run_bind_returned _ k₂
  obtain ⟨t₄, t, r', rfl, h₄, k₄⟩ := run_bind_returned _ k₃
  obtain ⟨t₅, t, found, rfl, h₅, k₅⟩ := run_bind_returned _ k₄
  obtain ⟨t₆, t, expanded, rfl, h₆, k₆⟩ := run_bind_returned _ k₅
  obtain rfl := request_returned E h₁
  obtain rfl := request_returned E h₂
  obtain ⟨rfl, rfl⟩ := checkedValue_returned h₃
  obtain ⟨rfl, rfl⟩ := checkedValue_returned h₅
  obtain ⟨rfl, hx⟩ := pure_returned E k₆
  obtain ⟨rfl, rfl⟩ := Prod.mk.inj hx
  obtain ⟨rfl, hlist⟩ := Prod.mk.inj (h₄.symm.trans (findPodsAttachedtoPVC_run _ _ E _))
  cases hP : E _ (.listPods _) with
  | error => rw [hP] at hlist; cases hlist
  | ok pods =>
    rw [hP] at hlist
    cases hlist
    refine ⟨ns, u, pods, by simp, rfl, by simp, ?_⟩
    rw [expandAttachedPods_servicePods h₆]
    simp [dependentPods]

/-- A returning `prepare`: the same, with the export adding no dependency lookups,
and the claim's export in that namespace filtered and written to the file
returned. -/
theorem prepare_returned_scope {p : ErasePVCFlags} {userNS tmp : String} {xs : List String}
    (hr : (prepare p).run E hist = (t, .returned (userNS, xs, tmp))) :
    (∃ ns u pods, (⟨.detectCurrentUserNamespace ns, .ok u⟩ : Event) ∈ t ∧
      userNS = (if p.userNS ≠ "" then p.userNS else u) ∧
      (⟨.listPods userNS, .ok pods⟩ : Event) ∈ t ∧
      xs = podsWithVolume p.volumeName pods ++ servicePods t) ∧
    ∃ output ys, (⟨.runCommandWithOutput "kubectl"
        ["get", "-o", "yaml", "-n", userNS, "pvc", p.volumeName], (output, none)⟩ : Event) ∈ t ∧
      filterManifest (scanLines output) = some ys ∧
      (⟨.writeFile tmp (linesText ys), none⟩ : Event) ∈ t := by
  obtain ⟨t₁, t, ⟨u', xs'⟩, rfl, h₁, k₁⟩ := run_bind_returned _ hr
  obtain ⟨t₂, t, tmp', rfl, h₂, k₂⟩ := run_bind_returned _ k₁
  obtain ⟨output, ys, c, hys, rfl⟩ := exportClaim_returned h₂
  obtain ⟨rfl, hx⟩ := pure_returned E k₂
  cases hx
  obtain ⟨ns, u, pods, hd, hu, hl, rfl⟩ := discover_returned_scope h₁
  exact ⟨⟨ns, u, pods, List.mem_append_left _ hd, hu, List.mem_append_left _ hl,
    by simp [dependentPods]⟩, output, ys, by simp, hys, by simp⟩

end Discovery

/-! ## The changes -/

/-- An event that answers no dependency lookup, changes the cluster only by a
`kubectl` command in `ns`, and removes no file but `tmp`. -/
def Confined (ns tmp : String) (e : Event) : Prop :=
  dependentPods e = [] ∧ (e.mutates → Op.kubectlNamespace? e.op = some ns) ∧
    ∀ f, e.op = .removeFile f → f = tmp

theorem confined_kubectl {ns tmp verb : String} {rest : List String} {r : Op.Res _} :
    Confined ns tmp ⟨.runCommandWithOutput "kubectl" (verb :: "-n" :: ns :: rest), r⟩ :=
  ⟨rfl, fun _ => rfl, fun _ h => Op.noConfusion h⟩

theorem confined_of_quiet {ns tmp : String} {e : Event} (hd : dependentPods e = [])
    (hq : e.mutates = false) (hrm : ∀ f, e.op = .removeFile f → f = tmp) : Confined ns tmp e :=
  ⟨hd, fun h => Bool.noConfusion (hq.symm.trans h), hrm⟩

/-- `recreate` looks up no dependent pods, each change it makes is a `kubectl`
command in `userNS`, and the only file it removes is `tmpfile`. -/
theorem recreate_confined (volumeName userNS : String) (pods : List String) (tmp : String) :
    AllEvents (Confined userNS tmp) (recreate volumeName userNS pods tmp) :=
  allEvents_bind (runKubectl_allEvents fun _ => confined_kubectl) fun _ =>
    allEvents_bind (runKubectl_allEvents fun _ => confined_kubectl) fun _ =>
      allEvents_bind (allEvents_forM (fun _ =>
          allEvents_bind (runKubectl_allEvents fun _ => confined_kubectl) fun _ =>
            allEvents_request fun _ => by
              exact confined_of_quiet rfl rfl fun _ h => Op.noConfusion h) pods) fun _ =>
        allEvents_bind (allEvents_request fun _ => by
            exact confined_of_quiet rfl rfl fun _ h => Op.noConfusion h) fun _ =>
          allEvents_bind (allEvents_request fun _ => by
              exact confined_of_quiet rfl rfl fun _ h => (Op.removeFile.inj h).symm) fun _ =>
            allEvents_pure _

/-- A run of `erasePVC`: the quiet events of `prepare`, then nothing, or the events
of `recreate` on the pods and the file a returning `prepare` found and wrote in the
namespace it settled on. -/
theorem erasePVC_run_scope (p : ErasePVCFlags) (E : Env) :
    ∃ tP tR, ((erasePVC p).run E []).1 = tP ++ tR ∧ (∀ e ∈ tP, Preparatory e) ∧
      (tR = [] ∨ ∃ ns u userNS pods tmp output ys,
        (⟨.detectCurrentUserNamespace ns, .ok u⟩ : Event) ∈ tP ∧
        userNS = (if p.userNS ≠ "" then p.userNS else u) ∧
        (⟨.listPods userNS, .ok pods⟩ : Event) ∈ tP ∧
        (⟨.runCommandWithOutput "kubectl"
          ["get", "-o", "yaml", "-n", userNS, "pvc", p.volumeName], (output, none)⟩ : Event) ∈ tP ∧
        filterManifest (scanLines output) = some ys ∧
        (⟨.writeFile tmp (linesText ys), none⟩ : Event) ∈ tP ∧
        tR = ((recreate p.volumeName userNS (podsWithVolume p.volumeName pods ++ servicePods tP)
          tmp).run E tP).1) := by
  rw [erasePVC_run_fst]
  have hq := fun e he => prepare_preparatory p E [] e he
  rcases hP : (prepare p).run E [] with ⟨tP, ⟨u, pods, tmp⟩ | m | m⟩ <;> rw [hP] at hq
  · obtain ⟨⟨ns, u', P, hd, hu, hl, rfl⟩, output, ys, hget, hys, hw⟩ := prepare_returned_scope hP
    exact ⟨tP, _, rfl, hq, .inr ⟨ns, u', u, P, tmp, output, ys, hd, hu, hl, hget, hys, hw, rfl⟩⟩
  all_goals exact ⟨tP, [], rfl, hq, .inl rfl⟩

/-- The pods `erasePVC` deletes, in order: a prefix of the pods listed in the
namespace it settled on, the `--namespace` flag or else the namespace
`detectCurrentUserNamespace` answered, that have a volume named after the claim,
followed by the pods the dependency lookups answered.  Nothing is deleted if it
stops before. -/
theorem erasePVC_deletes_found_pods (p : ErasePVCFlags) (E : Env) :
    let t : List Event := ((erasePVC p).run E []).1
    deletedPods t = [] ∨ ∃ ns u userNS pods,
      (⟨.detectCurrentUserNamespace ns, .ok u⟩ : Event) ∈ t ∧
      userNS = (if p.userNS ≠ "" then p.userNS else u) ∧
      (⟨.listPods userNS, .ok pods⟩ : Event) ∈ t ∧
      deletedPods t <+: podsWithVolume p.volumeName pods ++ servicePods t := by
  obtain ⟨tP, tR, ht, hq, rfl | ⟨ns, u', u, P, tmp, -, -, hd, hu, hl, -, -, -, rfl⟩⟩ :=
    erasePVC_run_scope p E
  all_goals dsimp only; rw [ht, deletedPods_append, deletedPods_eq_nil fun e he => (hq e he).1,
    List.nil_append]
  · exact .inl rfl
  · refine .inr ⟨ns, u', u, P, List.mem_append_left _ hd, hu, List.mem_append_left _ hl, ?_⟩
    rw [servicePods_append, servicePods_eq_nil fun e he => (recreate_confined _ _ _ _ E tP e he).1,
      List.append_nil]
    exact recreate_deletedPods _ _ E _ _ _

/-- Every change `erasePVC` makes is a `kubectl` command in the namespace it settled
on: the `--namespace` flag, or else the namespace `detectCurrentUserNamespace`
answered; the claim's pods were listed there. -/
theorem erasePVC_changes_only_user_namespace (p : ErasePVCFlags) (E : Env) :
    let t : List Event := ((erasePVC p).run E []).1
    ∀ e ∈ t, e.mutates → ∃ userNS, Op.kubectlNamespace? e.op = some userNS ∧
      (∃ ns u, (⟨.detectCurrentUserNamespace ns, .ok u⟩ : Event) ∈ t ∧
        userNS = if p.userNS ≠ "" then p.userNS else u) ∧
      ∃ pods, (⟨.listPods userNS, .ok pods⟩ : Event) ∈ t := by
  obtain ⟨tP, tR, ht, hq, hR⟩ := erasePVC_run_scope p E
  dsimp only
  rw [ht]
  intro e he hm
  rcases List.mem_append.mp he with heP | heR
  · exact absurd ((hq e heP).1.symm.trans hm) Bool.false_ne_true
  obtain rfl | ⟨ns, u', u, P, tmp, -, -, hd, hu, hl, -, -, -, rfl⟩ := hR
  · cases heR
  · exact ⟨u, (recreate_confined _ _ _ _ E tP e heR).2.1 hm,
      ⟨ns, u', List.mem_append_left _ hd, hu⟩, P, List.mem_append_left _ hl⟩

/-- The only `kubectl create` of `recreate` is from `tmpfile`, in `userNS`. -/
theorem recreate_creates_from (volumeName userNS : String) (pods : List String) (tmp : String) :
    AllEvents (fun e => ∀ u f,
        e.op = .runCommandWithOutput "kubectl" ["create", "-n", u, "-f", f] → u = userNS ∧ f = tmp)
      (recreate volumeName userNS pods tmp) :=
  allEvents_bind (runKubectl_allEvents fun _ _ _ h => by simp at h) fun _ =>
    allEvents_bind (runKubectl_allEvents fun _ _ _ h => by
        simp only [Op.runCommandWithOutput.injEq, List.cons.injEq, true_and, and_true] at h
        exact ⟨h.1.symm, h.2.symm⟩) fun _ =>
      allEvents_bind (allEvents_forM (fun _ =>
          allEvents_bind (runKubectl_allEvents fun _ _ _ h => by simp at h) fun _ =>
            allEvents_request fun _ _ _ h => Op.noConfusion h) pods) fun _ =>
        allEvents_bind (allEvents_request fun _ _ _ h => Op.noConfusion h) fun _ =>
          allEvents_bind (allEvents_request fun _ _ _ h => Op.noConfusion h) fun _ =>
            allEvents_pure _

/-- The claim is created again only from the file its own export was written to:
each `kubectl create` of a run is in the namespace the claim was exported from, and
from the file that received the filtered export. -/
theorem erasePVC_recreates_from_export (p : ErasePVCFlags) (E : Env) :
    let t : List Event := ((erasePVC p).run E []).1
    ∀ e ∈ t, ∀ userNS tmp,
      e.op = .runCommandWithOutput "kubectl" ["create", "-n", userNS, "-f", tmp] →
      ∃ output ys, (⟨.runCommandWithOutput "kubectl"
          ["get", "-o", "yaml", "-n", userNS, "pvc", p.volumeName], (output, none)⟩ : Event) ∈ t ∧
        filterManifest (scanLines output) = some ys ∧
        (⟨.writeFile tmp (linesText ys), none⟩ : Event) ∈ t := by
  obtain ⟨tP, tR, ht, hq, hR⟩ := erasePVC_run_scope p E
  dsimp only
  rw [ht]
  intro e he userNS tmp hc
  rcases List.mem_append.mp he with heP | heR
  · have hm : e.mutates = true := by rw [Event.mutates, hc]; rfl
    exact absurd ((hq e heP).1.symm.trans hm) Bool.false_ne_true
  obtain rfl | ⟨-, -, u, pods, tmp', output, ys, -, -, -, hget, hys, hw, rfl⟩ := hR
  · cases heR
  obtain ⟨rfl, rfl⟩ := recreate_creates_from _ _ _ _ E tP e heR userNS tmp hc
  exact ⟨output, ys, List.mem_append_left _ hget, hys, List.mem_append_left _ hw⟩

/-! ## The file the claim is created from -/

theorem linesText_cons (l : String) (ls : List String) :
    (linesText (l :: ls)).toList = l.toList ++ '\n' :: (linesText ls).toList := by
  simp [linesText, String.toList, String.data_join]

/-- The scanner reads back what `writeLines` writes, when no line has a newline or a
carriage return and each fits the buffer. -/
theorem scanLines_linesText : ∀ {lines : List String},
    (∀ l ∈ lines, '\n' ∉ l.toList ∧ '\r' ∉ l.toList ∧ l.utf8ByteSize < maxScanTokenSize) →
      scanLines (linesText lines) = lines
  | [], _ => rfl
  | l :: ls, h => by
    obtain ⟨⟨hn, hr, hs⟩, hls⟩ := List.forall_mem_cons.mp h
    rw [scanLines, linesText_cons, scanFrom_line hn hr hs]
    exact congrArg (l :: ·) (scanLines_linesText hls)

/-- The temporary file `erasePVC` creates the claim from reads back, line by line,
as the lines the filter kept of the export, when the export has no carriage
return. -/
theorem scanLines_linesText_filterManifest {output : String} {ys : List String}
    (hcr : '\r' ∉ output.toList) (h : filterManifest (scanLines output) = some ys) :
    scanLines (linesText ys) = ys := by
  obtain ⟨st, hst, rfl⟩ := Option.map_eq_some'.mp h
  obtain ⟨zs, hsub, -, hout⟩ := foldlM_output_sublist hst
  rw [hout, List.nil_append]
  exact scanLines_linesText fun l hl => scanLines_tokens hcr l (hsub.subset hl)

theorem scanLines_linesText_filterManifest_status :
    '\r' ∉ "spec:\nstatus:\n  phase: Bound\nkind: PersistentVolumeClaim\n".toList ∧
      filterManifest (scanLines "spec:\nstatus:\n  phase: Bound\nkind: PersistentVolumeClaim\n") =
        some ["spec:", "kind: PersistentVolumeClaim"] ∧
      scanLines (linesText ["spec:", "kind: PersistentVolumeClaim"]) =
        ["spec:", "kind: PersistentVolumeClaim"] :=
  have hcr : '\r' ∉ "spec:\nstatus:\n  phase: Bound\nkind: PersistentVolumeClaim\n".toList := by
    decide
  have h : filterManifest (scanLines "spec:\nstatus:\n  phase: Bound\nkind: PersistentVolumeClaim\n") =
      some ["spec:", "kind: PersistentVolumeClaim"] := by decide
  ⟨hcr, h, scanLines_linesText_filterManifest hcr h⟩

/-- A step that removes a file. -/
def RemovesFile (e : Event) : Prop := ∃ f, e.op = .removeFile f

/-- `recreate` removes a file only as its last step. -/
theorem recreate_returnsAfter_removal (volumeName userNS : String) (pods : List String)
    (tmp : String) : ReturnsAfter RemovesFile (recreate volumeName userNS pods tmp) :=
  returnsAfter_bind (runKubectl_allEvents fun _ ⟨_, h⟩ => Op.noConfusion h) fun _ =>
    returnsAfter_bind (runKubectl_allEvents fun _ ⟨_, h⟩ => Op.noConfusion h) fun _ =>
      returnsAfter_bind (allEvents_forM (fun _ =>
          allEvents_bind (runKubectl_allEvents fun _ ⟨_, h⟩ => Op.noConfusion h) fun _ =>
            allEvents_request fun _ ⟨_, h⟩ => Op.noConfusion h) pods) fun _ =>
        returnsAfter_bind (allEvents_request fun _ ⟨_, h⟩ => Op.noConfusion h) fun _ =>
          returnsAfter_of_returns fun _ _ => ⟨(), rfl⟩

/-- A returning `recreate` removed a file. -/
theorem recreate_reaches_removal (volumeName userNS : String) (pods : List String)
    (tmp : String) : Reaches RemovesFile (recreate volumeName userNS pods tmp) :=
  reaches_bind_right fun _ => reaches_bind_right fun _ => reaches_bind_right fun _ =>
    reaches_bind_right fun _ => reaches_bind_left (reaches_request fun _ => ⟨tmp, rfl⟩)

/-- The only file `erasePVC` removes is the one it wrote the claim's filtered export
to, and it is removed exactly on a run that completes: a run that ends at a failed
`kubectl` after the file was written leaves it behind. -/
theorem erasePVC_removes_temp_file (p : ErasePVCFlags) (E : Env) :
    let r : List Event × Outcome Unit := (erasePVC p).run E []
    (∀ f res, (⟨.removeFile f, res⟩ : Event) ∈ r.1 →
      ∃ userNS output ys, (⟨.runCommandWithOutput "kubectl"
          ["get", "-o", "yaml", "-n", userNS, "pvc", p.volumeName], (output, none)⟩ : Event) ∈ r.1 ∧
        filterManifest (scanLines output) = some ys ∧
        (⟨.writeFile f (linesText ys), none⟩ : Event) ∈ r.1) ∧
    ((∃ f res, (⟨.removeFile f, res⟩ : Event) ∈ r.1) ↔ r.2 = .returned ()) := by
  have hA : ReturnsAfter RemovesFile (erasePVC p) :=
    returnsAfter_bind (fun E h e he ⟨f, hf⟩ => (prepare_preparatory p E h e he).2 f hf)
      fun ⟨_, _, _⟩ => recreate_returnsAfter_removal _ _ _ _
  have hR : Reaches RemovesFile (erasePVC p) :=
    reaches_bind_right fun ⟨_, _, _⟩ => recreate_reaches_removal _ _ _ _
  refine ⟨fun f res he => ?_, ⟨fun ⟨f, res, he⟩ => ?_, fun hr => ?_⟩⟩
  · obtain ⟨tP, tR, ht, hq, hR'⟩ := erasePVC_run_scope p E
    rw [ht] at he ⊢
    rcases List.mem_append.mp he with heP | heR
    · exact absurd rfl ((hq _ heP).2 f)
    obtain rfl | ⟨-, -, u, pods, tmp, output, ys, -, -, -, hget, hys, hw, rfl⟩ := hR'
    · cases heR
    obtain rfl := (recreate_confined _ _ _ _ E tP _ heR).2.2 f rfl
    exact ⟨u, output, ys, List.mem_append_left _ hget, hys, List.mem_append_left _ hw⟩
  · obtain ⟨_, ha⟩ := hA E [] _ he ⟨f, rfl⟩
    exact ha
  · obtain ⟨⟨op, res⟩, he, f, rfl⟩ := hR E [] _ () (Prod.ext rfl hr)
    exact ⟨f, res, he⟩

end ErasePvc
end GoFabric8
