import GoFabric8.ErasePvc.Discover
import GoFabric8.Manifest.Filter

/-!
# The erase-pvc workflow

`erasePVC` (erase_pvc.go:91-191) finds the pods on the claim, exports the claim,
writes the filtered manifest to a temporary file, deletes the claim, creates it
again from the file and deletes the pods it found.  `prepare` is everything up to
the claim deletion and `recreate` the rest.

What holds over every run, whatever each step answers, is
`erasePVC_deletes_claim_after_export`: nothing before the claim deletion changes the
cluster, the deletion comes only after every earlier step succeeded and the
filtered export was written, and no pod is deleted before `kubectl create`
succeeded.  The export itself is not checked: an empty one goes on to delete the
claim (`erasePVC_deletes_claim_on_empty_export`).

The pods come from `findPodsAttachedtoPVC` in `userNS` and from the `service`
label lookups, which are made in the kubeconfig namespace `ns`, and the pass
appends rather than unites: `erasePVC_deletes_pod_twice` and
`erasePVC_looks_up_labels_in_default_namespace` run the workflow on such clusters.
-/

namespace GoFabric8
namespace ErasePvc

open Prog hiding pure bind
open Manifest

/-- `erasePVCFlags`: the `--namespace` flag and the claim named on the command
line. -/
structure ErasePVCFlags where
  userNS : String
  volumeName : String

/-- `runCommandWithOutput("kubectl", cmd...)` and the `util.Fatal` that follows an
error. -/
def runKubectl (cmd : List String) : Prog String := do
  let (output, err) ← request (.runCommandWithOutput "kubectl" cmd)
  match err with
  | some e =>
    .exit ("Error while running cmd: " ++ " ".intercalate cmd ++ " Error: " ++ e ++
      " Output: " ++ output ++ "\n")
  | none => pure output

/-- What the `fmt.Fprintln` loop puts in the buffer. -/
def linesText (lines : List String) : String :=
  String.join (lines.map (· ++ "\n"))

/-- `writeLines` (erase_pvc.go:76-89).  The buffered writes reach the file in
chunks and their first error is the one `Flush` returns, so one `writeFile` step
stands for them; the deferred `Close` runs after, and its error is dropped. -/
def writeLines (lines : List String) (path : String) : Prog (Option String) := do
  match ← request (.createFile path) with
  | some err => pure (some err)
  | none =>
    let err ← request (.writeFile path (linesText lines))
    let _ ← request (.closeFile path)
    pure err

/-- Lines 92-124: the namespace the claim is in, and the pods to delete. -/
def discover (p : ErasePVCFlags) : Prog (String × List String) := do
  let ns ← request .defaultNamespace
  let userNS ← checkedValue (← request (.detectCurrentUserNamespace ns))
  let userNS := if p.userNS ≠ "" then p.userNS else userNS
  let attachedpods ← checkedValue (← findPodsAttachedtoPVC p.volumeName userNS)
  let attachedpods ← expandAttachedPods ns attachedpods
  pure (userNS, attachedpods)

/-- The filter loop of lines 132-159 on the exported text: its lines, or the panic
of `text[0]`. -/
def filterOrPanic (output : String) : Prog (List String) :=
  match filterManifest (scanLines output) with
  | some ys => pure ys
  | none => .panic "runtime error: index out of range [0] with length 0"

/-- Lines 126-164: export the claim, filter it, and write it to a temporary file,
whose name is returned. -/
def exportClaim (userNS volumeName : String) : Prog String := do
  let output ← runKubectl ["get", "-o", "yaml", "-n", userNS, "pvc", volumeName]
  let outputYAML ← filterOrPanic output
  let tmpfile ← checkedValue (← request (.tempFile "" "gofabric8"))
  checkErr (← writeLines outputYAML tmpfile)
  pure tmpfile

/-- Everything before the claim deletion. -/
def prepare (p : ErasePVCFlags) : Prog (String × List String × String) := do
  let (userNS, attachedpods) ← discover p
  let tmpfile ← exportClaim userNS p.volumeName
  pure (userNS, attachedpods, tmpfile)

/-- The body of the pod loop, lines 179-184. -/
def deletePod (volumeName userNS pod : String) : Prog PUnit := do
  let _ ← runKubectl ["delete", "-n", userNS, "pod", pod]
  request (.print ("Pod " ++ pod ++ " attached to " ++ volumeName ++ " has been deleted.\n"))

/-- Lines 166-190: delete and create the claim, then delete the pods. -/
def recreate (volumeName userNS : String) (attachedpods : List String) (tmpfile : String) :
    Prog Unit := do
  let _ ← runKubectl ["delete", "-n", userNS, "pvc", volumeName]
  let _ ← runKubectl ["create", "-n", userNS, "-f", tmpfile]
  attachedpods.forM (deletePod volumeName userNS)
  request (.print ("Volume: " ++ volumeName ++ " has been recreated.\n"))
  let _ ← request (.removeFile tmpfile)

/-- `erasePVC` (erase_pvc.go:91-191). -/
def erasePVC (p : ErasePVCFlags) : Prog Unit := do
  let (userNS, attachedpods, tmpfile) ← prepare p
  recreate p.volumeName userNS attachedpods tmpfile

/-- The `Run` of `NewCmdErasePVC` (lines 59-70), given the `--namespace` flag and
the arguments. -/
def runErasePVC (namespaceFlag : String) (args : List String) : Prog Unit :=
  match args with
  | [volumeName] => erasePVC ⟨namespaceFlag, volumeName⟩
  | _ => .exit "We need a PVC to delete as argument.\n"

/-- The pod a step deletes, if it is `kubectl delete -n ns pod name`. -/
def Op.deletedPod? : Op → Option String
  | .runCommandWithOutput "kubectl" ["delete", "-n", _, "pod", pod] => some pod
  | _ => none

theorem mutates_of_deletedPod {op : Op} (h : (Op.deletedPod? op).isSome) : op.mutates := by
  unfold Op.deletedPod? at h
  split at h
  · rfl
  · cases h

/-! ## Runs that return -/

section Runs

variable {E : Env} {hist t : List Event}

theorem runKubectl_returned {cmd : List String} {out : String}
    (hr : (runKubectl cmd).run E hist = (t, .returned out)) :
    t = [⟨.runCommandWithOutput "kubectl" cmd, (out, none)⟩] := by
  simp only [runKubectl, bind_eq, request_bind, run_call] at hr
  revert hr
  rcases E hist (.runCommandWithOutput "kubectl" cmd) with ⟨output, _ | e⟩
  · simp
    rintro rfl rfl
    rfl
  · simp

/-- The events of `runKubectl cmd` followed by `f`: the `kubectl` run, then `f`'s
events when it succeeded. -/
theorem runKubectl_bind_fst (cmd : List String) (f : String → Prog β) (E : Env)
    (hist : List Event) :
    (((runKubectl cmd).bind f).run E hist).1 =
      ⟨.runCommandWithOutput "kubectl" cmd, E hist (.runCommandWithOutput "kubectl" cmd)⟩ ::
        match (E hist (.runCommandWithOutput "kubectl" cmd)).2 with
        | some _ => []
        | none => ((f (E hist (.runCommandWithOutput "kubectl" cmd)).1).run E
            (hist ++ [⟨.runCommandWithOutput "kubectl" cmd,
              E hist (.runCommandWithOutput "kubectl" cmd)⟩])).1 := by
  simp only [runKubectl, bind_eq, request_bind, call_bind, run_call]
  rcases E hist (.runCommandWithOutput "kubectl" cmd) with ⟨output, _ | e⟩ <;> rfl

theorem filterOrPanic_returned {output : String} {ys : List String}
    (hr : (filterOrPanic output).run E hist = (t, .returned ys)) :
    t = [] ∧ filterManifest (scanLines output) = some ys := by
  unfold filterOrPanic at hr
  split at hr <;> simp_all

theorem writeLines_returned_none {lines : List String} {path : String}
    (hr : (writeLines lines path).run E hist = (t, .returned none)) :
    ∃ c, t = [⟨.createFile path, none⟩, ⟨.writeFile path (linesText lines), none⟩,
      ⟨.closeFile path, c⟩] := by
  simp only [writeLines, bind_eq, request_bind, run_call] at hr
  revert hr
  rcases E hist (.createFile path) with _ | err
  · simp
    rintro rfl hw
    exact ⟨_, by rw [hw]⟩
  · simp

theorem exportClaim_returned {userNS volumeName tmp : String}
    (hr : (exportClaim userNS volumeName).run E hist = (t, .returned tmp)) :
    ∃ output ys c, filterManifest (scanLines output) = some ys ∧
      t = [⟨.runCommandWithOutput "kubectl" ["get", "-o", "yaml", "-n", userNS, "pvc", volumeName],
          (output, none)⟩, ⟨.tempFile "" "gofabric8", .ok tmp⟩, ⟨.createFile tmp, none⟩,
        ⟨.writeFile tmp (linesText ys), none⟩, ⟨.closeFile tmp, c⟩] := by
  obtain ⟨t₁, t, output, rfl, h₁, hr⟩ := run_bind_returned _ hr
  obtain ⟨t₂, t, ys, rfl, h₂, hr⟩ := run_bind_returned _ hr
  obtain ⟨t₃, t, r, rfl, h₃, hr⟩ := run_bind_returned _ hr
  obtain ⟨t₄, t, tmp', rfl, h₄, hr⟩ := run_bind_returned _ hr
  obtain ⟨t₅, t, w, rfl, h₅, hr⟩ := run_bind_returned _ hr
  obtain ⟨t₆, t, u, rfl, h₆, hr⟩ := run_bind_returned _ hr
  obtain ⟨rfl, hys⟩ := filterOrPanic_returned h₂
  obtain ⟨rfl, rfl⟩ := checkedValue_returned h₄
  obtain ⟨rfl, rfl⟩ := checkErr_returned h₆
  obtain ⟨c, rfl⟩ := writeLines_returned_none h₅
  obtain ⟨rfl, rfl⟩ := pure_returned E hr
  exact ⟨output, ys, c, hys, by simp [runKubectl_returned h₁, request_returned _ h₃]⟩

theorem discover_returned {p : ErasePVCFlags} {x : String × List String}
    (hr : (discover p).run E hist = (t, .returned x)) : ∀ e ∈ t, e.failed = false := by
  obtain ⟨t₁, t, ns, rfl, h₁, k₁⟩ := run_bind_returned _ hr
  obtain ⟨t₂, t, r, rfl, h₂, k₂⟩ := run_bind_returned _ k₁
  obtain ⟨t₃, t, u, rfl, h₃, k₃⟩ := run_bind_returned _ k₂
  obtain ⟨t₄, t, r', rfl, h₄, k₄⟩ := run_bind_returned _ k₃
  obtain ⟨t₅, t, pods, rfl, h₅, k₅⟩ := run_bind_returned _ k₄
  obtain ⟨t₆, t, pods', rfl, h₆, k₆⟩ := run_bind_returned _ k₅
  obtain rfl := request_returned E h₁
  obtain rfl := request_returned E h₂
  obtain ⟨rfl, rfl⟩ := checkedValue_returned h₃
  obtain ⟨rfl, rfl⟩ := checkedValue_returned h₅
  obtain ⟨rfl, -⟩ := pure_returned E k₆
  obtain ⟨rfl, hpods⟩ := Prod.mk.inj (h₄.symm.trans (findPodsAttachedtoPVC_run _ _ E _))
  intro e he
  simp only [List.append_nil, List.nil_append, List.mem_append, List.mem_singleton] at he hpods
  rcases he with rfl | rfl | rfl | he
  · rfl
  · rfl
  · revert hpods
    cases E _ (.listPods _) with
    | error => exact fun h => nomatch h
    | ok => exact fun _ => rfl
  · exact expandAttachedPods_returning _ _ E _ _ _ h₆ e he

/-! ## Nothing before the claim deletion changes the cluster -/

variable {P : Event → Prop}

theorem allEvents_filterOrPanic (output : String) : AllEvents P (filterOrPanic output) := by
  unfold filterOrPanic
  split
  exacts [allEvents_pure _, allEvents_panic _]

theorem runKubectl_allEvents {cmd : List String}
    (h : ∀ r, P ⟨.runCommandWithOutput "kubectl" cmd, r⟩) : AllEvents P (runKubectl cmd) := by
  refine allEvents_call h fun ⟨output, err⟩ => ?_
  cases err
  exacts [allEvents_pure _, allEvents_exit _]

theorem writeLines_allEvents {lines : List String} {path : String}
    (h₁ : ∀ r, P ⟨.createFile path, r⟩) (h₂ : ∀ r, P ⟨.writeFile path (linesText lines), r⟩)
    (h₃ : ∀ r, P ⟨.closeFile path, r⟩) : AllEvents P (writeLines lines path) := by
  refine allEvents_bind (allEvents_request h₁) fun r => ?_
  cases r
  · exact allEvents_bind (allEvents_request h₂) fun _ =>
      allEvents_bind (allEvents_request h₃) fun _ => allEvents_pure _
  · exact allEvents_pure _

/-- A step of `prepare`: it changes nothing in the cluster and removes no file. -/
def Preparatory (e : Event) : Prop := e.mutates = false ∧ ∀ f, e.op ≠ .removeFile f

theorem preparatory {op : Op} (hm : op.mutates = false) (hrm : ∀ f, op ≠ .removeFile f)
    (r : op.Res) : Preparatory ⟨op, r⟩ :=
  ⟨hm, hrm⟩

theorem discover_preparatory (p : ErasePVCFlags) : AllEvents Preparatory (discover p) :=
  allEvents_bind (allEvents_request (preparatory rfl fun _ h => Op.noConfusion h)) fun _ =>
    allEvents_bind (allEvents_request (preparatory rfl fun _ h => Op.noConfusion h)) fun r =>
      allEvents_bind (allEvents_checkedValue r) fun _ =>
        allEvents_bind (findPodsAttachedtoPVC_allEvents
            (preparatory rfl fun _ h => Op.noConfusion h)) fun r =>
          allEvents_bind (allEvents_checkedValue r) fun pods =>
            allEvents_bind (expandAttachedPods_allEvents
                (fun _ => preparatory rfl fun _ h => Op.noConfusion h)
                (fun _ => preparatory rfl fun _ h => Op.noConfusion h) pods) fun _ =>
              allEvents_pure _

theorem exportClaim_preparatory (userNS volumeName : String) :
    AllEvents Preparatory (exportClaim userNS volumeName) :=
  allEvents_bind (runKubectl_allEvents (preparatory rfl fun _ h => Op.noConfusion h)) fun output =>
    allEvents_bind (allEvents_filterOrPanic output) fun _ =>
      allEvents_bind (allEvents_request (preparatory rfl fun _ h => Op.noConfusion h)) fun r =>
        allEvents_bind (allEvents_checkedValue r) fun _ =>
          allEvents_bind (writeLines_allEvents (preparatory rfl fun _ h => Op.noConfusion h)
              (preparatory rfl fun _ h => Op.noConfusion h)
              (preparatory rfl fun _ h => Op.noConfusion h)) fun w =>
            allEvents_bind (allEvents_checkErr w) fun _ => allEvents_pure _

/-- `prepare` changes nothing in the cluster and removes no file. -/
theorem prepare_preparatory (p : ErasePVCFlags) : AllEvents Preparatory (prepare p) :=
  allEvents_bind (discover_preparatory p) fun _ =>
    allEvents_bind (exportClaim_preparatory _ _) fun _ => allEvents_pure _

/-- Nothing before the claim deletion changes the cluster. -/
theorem prepare_quiet (p : ErasePVCFlags) : AllEvents (·.mutates = false) (prepare p) :=
  fun E h e he => (prepare_preparatory p E h e he).1

/-! ## What the claim deletion follows -/

/-- The events show the claim exported, filtered and written in full: a successful
`kubectl get` of it, and a successful write of its filtered lines to a file. -/
def ExportWritten (volumeName : String) (events : List Event) : Prop :=
  ∃ userNS output tmpfile ys,
    (⟨.runCommandWithOutput "kubectl" ["get", "-o", "yaml", "-n", userNS, "pvc", volumeName],
      (output, none)⟩ : Event) ∈ events ∧
    filterManifest (scanLines output) = some ys ∧
    (⟨.writeFile tmpfile (linesText ys), none⟩ : Event) ∈ events

theorem prepare_returned {p : ErasePVCFlags} {x : String × List String × String}
    (hr : (prepare p).run E hist = (t, .returned x)) :
    (∀ e ∈ t, e.failed = false ∨ ∃ path, e.op = .closeFile path) ∧
      ExportWritten p.volumeName t := by
  obtain ⟨t₁, t, ⟨userNS, pods⟩, rfl, h₁, k₁⟩ := run_bind_returned _ hr
  obtain ⟨t₂, t, tmp, rfl, h₂, k₂⟩ := run_bind_returned _ k₁
  obtain ⟨output, ys, c, hys, rfl⟩ := exportClaim_returned h₂
  obtain ⟨rfl, -⟩ := pure_returned E k₂
  refine ⟨fun e he => ?_, userNS, output, tmp, ys, by simp, hys, by simp⟩
  rcases List.mem_append.mp he with he | he
  · exact .inl (discover_returned h₁ e he)
  · simp only [List.append_nil, List.mem_cons, List.mem_singleton, List.not_mem_nil, or_false] at he
    rcases he with rfl | rfl | rfl | rfl | rfl
    · exact .inl rfl
    · exact .inl rfl
    · exact .inl rfl
    · exact .inl rfl
    · exact .inr ⟨tmp, rfl⟩

/-- `recreate` begins with the claim deletion. -/
theorem recreate_run_head (volumeName userNS : String) (pods : List String) (tmp : String)
    (E : Env) (hist : List Event) :
    ∃ r t', ((recreate volumeName userNS pods tmp).run E hist).1 =
      ⟨.runCommandWithOutput "kubectl" ["delete", "-n", userNS, "pvc", volumeName], r⟩ :: t' :=
  ⟨_, _, rfl⟩

/-- In `recreate` a pod is deleted only after `kubectl create` of the file
succeeded. -/
theorem recreate_create_before_pod_deletion {volumeName userNS tmp : String} {pods : List String}
    {pre rest : List Event} {e : Event}
    (h : ((recreate volumeName userNS pods tmp).run E hist).1 = pre ++ e :: rest)
    (he : (Op.deletedPod? e.op).isSome) :
    ∃ c ∈ pre, c.op = .runCommandWithOutput "kubectl" ["create", "-n", userNS, "-f", tmp] ∧
      c.failed = false := by
  simp only [recreate, bind_eq] at h
  rw [runKubectl_bind_fst] at h
  obtain ⟨pre', rfl, h₁⟩ := cons_cut (fun e : Event => (Op.deletedPod? e.op).isSome) h
    Bool.false_ne_true he
  generalize E hist _ = r₁ at h₁
  rcases r₁ with ⟨_, _ | _⟩
  · rw [runKubectl_bind_fst] at h₁
    obtain ⟨pre'', rfl, h₂⟩ := cons_cut (fun e : Event => (Op.deletedPod? e.op).isSome) h₁
      Bool.false_ne_true he
    generalize E _ (.runCommandWithOutput "kubectl" ["create", "-n", userNS, "-f", tmp]) = r₂ at h₂ ⊢
    rcases r₂ with ⟨_, _ | _⟩
    · exact ⟨_, List.mem_cons_of_mem _ (List.mem_cons_self _ _), rfl, rfl⟩
    · simp at h₂
  · simp at h₁

end Runs

end ErasePvc
end GoFabric8
