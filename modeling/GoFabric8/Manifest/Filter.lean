import GoFabric8.Text

/-!
# The manifest filter loop

`erasePVC` exports the claim with `kubectl get -o yaml` and keeps the lines it
means to feed back to `kubectl create` (erase_pvc.go:132-159).  A line whose trimmed
text starts with one of `removedExportedLine` is skipped on its own.  The line
`status:` is skipped and opens the status block; inside it a line beginning with a
space is skipped, and the first other line closes the block and is kept.  Reading
`text[0]` of an empty line inside the block is a runtime panic, so the loop is a
fold in `Option`.

The invariant of the loop is that every line it has collected is one the filter
can emit (`Kept`).  Since the collected lines pass a second run untouched, the
filter is idempotent: `filterManifest_idempotent`.
-/

namespace GoFabric8
namespace Manifest

/-- `removedExportedLine` (erase_pvc.go:33-41). -/
def removedExportedLine : List String :=
  ["selfLink", "resourceVersion", "uid", "creationTimestamp",
    "kubectl.kubernetes.io/last-applied-configuration:",
    "control-plane.alpha.kubernetes.io/leader:",
    "pv.kubernetes.io/",
    "volume.beta.kubernetes.io/",
    "volumeName"]

/-- The `stop` flag of lines 139-144: the trimmed line starts with one of the
prefixes.  The Go loop sets the flag without breaking, which is `any`. -/
def removedLine (text : String) : Bool :=
  removedExportedLine.any fun l => hasPrefix (trimSpace text) l

/-- The variables the loop updates. -/
structure FilterState where
  inStatus : Bool
  outputYAML : List String

/-- One pass of the loop body, lines 136-158.  `string(text[0]) != " "` compares
the first byte with a space, which is a comparison of the first character;
`none` is the panic of `text[0]` on an empty line. -/
def filterStep (st : FilterState) (text : String) : Option FilterState :=
  if removedLine text then some st
  else if text = "status:" then some { st with inStatus := true }
  else if st.inStatus then
    match text.toList with
    | [] => none
    | c :: _ => if c ≠ ' ' then some ⟨false, st.outputYAML ++ [text]⟩ else some st
  else some { st with outputYAML := st.outputYAML ++ [text] }

/-- The loop of lines 132-159 over the scanner's lines; the result is
`outputYAML`, or `none` when the loop panics. -/
def filterManifest (lines : List String) : Option (List String) :=
  (lines.foldlM filterStep ⟨false, []⟩).map FilterState.outputYAML

theorem removedLine_status : removedLine "status:" = false := by decide

theorem removedLine_empty : removedLine "" = false := by decide

/-- A removed line leaves the state as it is, inside the status block or not. -/
theorem filterStep_removed {text : String} (h : removedLine text = true) (st : FilterState) :
    filterStep st text = some st := by
  simp [filterStep, h]

theorem filterStep_status (st : FilterState) :
    filterStep st "status:" = some { st with inStatus := true } := by
  simp [filterStep, removedLine_status]

/-- A line the filter can emit: not removed, and not `status:`. -/
def Kept (text : String) : Prop := removedLine text = false ∧ text ≠ "status:"

/-- Outside the status block a line that is neither removed nor `status:` is
collected. -/
theorem filterStep_kept {text : String} (h : Kept text) (acc : List String) :
    filterStep ⟨false, acc⟩ text = some ⟨false, acc ++ [text]⟩ := by
  simp [filterStep, h.1, h.2]

/-- Step lemma of the invariant: a step collects only a `Kept` line. -/
theorem filterStep_kept_output {st st' : FilterState} {text : String}
    (h : filterStep st text = some st') (hst : ∀ l ∈ st.outputYAML, Kept l) :
    ∀ l ∈ st'.outputYAML, Kept l := by
  by_cases hr : removedLine text
  · rw [filterStep_removed hr] at h
    cases h
    exact hst
  by_cases hs : text = "status:"
  · subst hs
    rw [filterStep_status] at h
    cases h
    exact hst
  have hk : ∀ l ∈ st.outputYAML ++ [text], Kept l :=
    List.forall_mem_append.mpr ⟨hst, by simpa using (⟨by simpa using hr, hs⟩ : Kept text)⟩
  simp only [filterStep, hr, hs, if_false, Bool.false_eq_true] at h
  split at h
  · split at h
    · cases h
    · split at h <;> cases h
      exacts [hk, hst]
  · cases h
    exact hk

/-- Run lemma of the invariant: from any state whose collected lines are `Kept`,
every line the loop ends up with is `Kept`. -/
theorem foldlM_kept_output (lines : List String) {st st' : FilterState}
    (h : lines.foldlM filterStep st = some st') (hst : ∀ l ∈ st.outputYAML, Kept l) :
    ∀ l ∈ st'.outputYAML, Kept l := by
  induction lines generalizing st with
  | nil => cases h; exact hst
  | cons text rest ih =>
    rw [List.foldlM_cons] at h
    obtain ⟨mid, hmid, hrest⟩ := Option.bind_eq_some.mp h
    exact ih hrest (filterStep_kept_output hmid hst)

/-- On lines that are all `Kept` the loop never enters the status block and
collects every line. -/
theorem foldlM_of_kept {lines : List String} (h : ∀ l ∈ lines, Kept l) (acc : List String) :
    lines.foldlM filterStep ⟨false, acc⟩ = some ⟨false, acc ++ lines⟩ := by
  induction lines generalizing acc with
  | nil => simp
  | cons text rest ih =>
    rw [List.foldlM_cons, filterStep_kept (h text (List.mem_cons_self _ _))]
    simpa using ih (fun l hl => h l (List.mem_cons_of_mem _ hl)) (acc ++ [text])

/-- Sanitizing an already sanitized manifest changes nothing. -/
theorem filterManifest_idempotent {lines out : List String}
    (h : filterManifest lines = some out) : filterManifest out = some out := by
  obtain ⟨st, hst, rfl⟩ := Option.map_eq_some'.mp h
  have hkept := foldlM_kept_output lines hst (by simp)
  simp [filterManifest, foldlM_of_kept hkept]

/-- The idempotence at a manifest with a status block. -/
theorem filterManifest_idempotent_status :
    filterManifest ["spec:", "status:", "  phase: Bound"] = some ["spec:"] ∧
      filterManifest ["spec:"] = some ["spec:"] :=
  ⟨by decide, filterManifest_idempotent
    (by decide : filterManifest ["spec:", "status:", "  phase: Bound"] = some ["spec:"])⟩

/-- An empty line inside the status block, such as the blank line of a multi-line
condition message, makes `text[0]` panic. -/
theorem filterManifest_blank_in_status :
    filterManifest ["kind: PersistentVolumeClaim", "status:", "  conditions:",
      "  - message: |", "      resize pending", "", "      retry later",
      "  phase: Bound"] = none := by
  decide

end Manifest
end GoFabric8
