import GoFabric8.ErasePvc.Workflow

/-!
# The claim is deleted only after a complete export

Over every run of `erasePVC`, whatever each step answers: the first step that
changes the cluster is the claim deletion, every step before it succeeded (the
deferred `Close` apart, whose error is dropped) and the filtered export was
written; every pod deletion comes after a successful `kubectl create`; and a
failure before the claim deletion ends a run that changed nothing.  That is
`erasePVC_deletes_claim_after_export`, assembled from `prepare_quiet`,
`prepare_returned` and `recreate_create_before_pod_deletion`.

What was exported is not checked: an empty export is written and the claim
deleted (`erasePVC_deletes_claim_on_empty_export`), and an export with a line of
64 KiB or more is cut at that line, the lines before it written and the claim
deleted and created from them (`erasePVC_writes_lines_before_long_line` and its
run on a 65536-byte line, in `Scope`).
-/

namespace GoFabric8
namespace ErasePvc

open Prog hiding pure bind
open Manifest

/-- The events of `erasePVC`: those of `prepare`, then those of `recreate` when
`prepare` returned. -/
theorem erasePVC_run_fst (E : Env) (p : ErasePVCFlags) :
    ((erasePVC p).run E []).1 = ((prepare p).run E []).1 ++
      match ((prepare p).run E []).2 with
      | .returned (userNS, pods, tmpfile) =>
        ((recreate p.volumeName userNS pods tmpfile).run E ((prepare p).run E []).1).1
      | _ => [] := by
  rw [erasePVC, bind_eq, run_bind_fst]
  rcases ((prepare p).run E []).2 with ⟨u, pods, tmp⟩ | m | m <;> simp

theorem erasePVC_first_mutation {E : Env} {p : ErasePVCFlags} {pre rest : List Event} {e : Event}
    (h : ((erasePVC p).run E []).1 = pre ++ e :: rest) (he : e.mutates)
    (hpre : ∀ x ∈ pre, x.mutates = false) :
    (∃ userNS, e.op = .runCommandWithOutput "kubectl" ["delete", "-n", userNS, "pvc", p.volumeName]) ∧
      (∀ x ∈ pre, x.failed = false ∨ ∃ path, x.op = .closeFile path) ∧
      ExportWritten p.volumeName pre := by
  rw [erasePVC_run_fst] at h
  have hq := prepare_quiet p E []
  rcases hP : (prepare p).run E [] with ⟨tP, ⟨u, pods, tmp⟩ | m | m⟩ <;>
    simp only [hP, List.append_nil] at h hq
  · obtain ⟨r, tR, hR⟩ := recreate_run_head p.volumeName u pods tmp E tP
    rw [hR] at h
    rcases cut_cases h.symm with ⟨rfl, rfl, -⟩ | hmem | hmem
    · exact ⟨⟨u, rfl⟩, prepare_returned hP⟩
    · simp [hq e hmem] at he
    · exact absurd (hpre _ hmem) Bool.noConfusion
  all_goals simp [hq e (h ▸ List.mem_append_right _ (List.mem_cons_self _ _))] at he

theorem erasePVC_create_before_pod_deletion {E : Env} {p : ErasePVCFlags}
    {pre rest : List Event} {e : Event}
    (h : ((erasePVC p).run E []).1 = pre ++ e :: rest) (he : (Op.deletedPod? e.op).isSome) :
    ∃ c ∈ pre, (∃ userNS tmpfile,
      c.op = .runCommandWithOutput "kubectl" ["create", "-n", userNS, "-f", tmpfile]) ∧
      c.failed = false := by
  rw [erasePVC_run_fst] at h
  have hq := prepare_quiet p E []
  have hm : e.mutates := mutates_of_deletedPod he
  rcases hP : (prepare p).run E [] with ⟨tP, ⟨u, pods, tmp⟩ | m | m⟩ <;>
    simp only [hP, List.append_nil] at h hq
  · obtain ⟨pre', rfl, hR⟩ := cut_right (·.mutates) h.symm (fun x hx => by simp [hq x hx]) hm
    obtain ⟨c, hc, hop, hok⟩ := recreate_create_before_pod_deletion hR he
    exact ⟨c, List.mem_append_right _ hc, ⟨u, tmp, hop⟩, hok⟩
  all_goals simp [hq e (h ▸ List.mem_append_right _ (List.mem_cons_self _ _))] at hm

theorem erasePVC_deletes_claim_after_export (E : Env) (p : ErasePVCFlags) :
    let t := ((erasePVC p).run E []).1
    (∀ pre e rest, t = pre ++ e :: rest → e.mutates → (∀ x ∈ pre, x.mutates = false) →
      (∃ userNS,
        e.op = .runCommandWithOutput "kubectl" ["delete", "-n", userNS, "pvc", p.volumeName]) ∧
      (∀ x ∈ pre, x.failed = false ∨ ∃ path, x.op = .closeFile path) ∧
      ExportWritten p.volumeName pre) ∧
    (∀ pre e rest, t = pre ++ e :: rest → (Op.deletedPod? e.op).isSome →
      ∃ c ∈ pre, (∃ userNS tmpfile,
        c.op = .runCommandWithOutput "kubectl" ["create", "-n", userNS, "-f", tmpfile]) ∧
        c.failed = false) ∧
    (∀ pre e rest, t = pre ++ e :: rest → e.failed → (∀ path, e.op ≠ .closeFile path) →
      (∀ x ∈ pre ++ [e], x.mutates = false) → ∀ x ∈ t, x.mutates = false) := by
  intro t
  refine ⟨fun _ _ _ => erasePVC_first_mutation, fun _ _ _ => erasePVC_create_before_pod_deletion,
    fun pre e rest h hf hclose hq x hx => ?_⟩
  by_contra hm
  obtain ⟨A, b, B, hAB, hb, hA⟩ := exists_first_cut ⟨x, hx, by simpa using hm⟩
  obtain ⟨-, hok, -⟩ := erasePVC_first_mutation hAB hb hA
  rcases cut_cases (h.symm.trans hAB) with ⟨rfl, rfl, -⟩ | hmem | hmem
  · simp [hq e (by simp)] at hb
  · rcases hok e hmem with hok | ⟨path, hpath⟩
    · simp [hok] at hf
    · exact hclose path hpath
  · simp [hq b (by simp [hmem])] at hb

/-- An export with no lines is written to the file, and the claim is deleted. -/
theorem erasePVC_deletes_claim_on_empty_export :
    let E : Env := fun _ op => match op with
      | .tempFile _ _ => .ok "/tmp/gofabric8001"
      | op => op.quiet
    let ops := ((erasePVC ⟨"ns1", "data-pv-claim"⟩).run E []).1.map (·.op)
    @Eq (String × Option String) (E [] (.runCommandWithOutput "kubectl"
        ["get", "-o", "yaml", "-n", "ns1", "pvc", "data-pv-claim"])) ("", none) ∧
      Op.writeFile "/tmp/gofabric8001" "" ∈ ops ∧
      Op.runCommandWithOutput "kubectl" ["delete", "-n", "ns1", "pvc", "data-pv-claim"] ∈ ops := by
  intro E ops
  decide

end ErasePvc
end GoFabric8
