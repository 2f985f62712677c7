import GoFabric8.Manifest.Filter

/-!
# The filter as a deletion of blocks

The loop of `Filter` keeps state line by line.  Read as a document of blocks it does
two things: a removed line goes on its own, and a `status:` line goes together with
the run of lines after it that begin with a space (removed lines and further
`status:` lines do not end the run).  The line that ends the run is kept, and an
empty one there is the panic.  `sanitizeBlocks` says this by recursion on the
blocks, and `filterManifest_eq_sanitizeBlocks` is the refinement: the loop computes
it on every manifest.

The values nested under a removed key are not part of its block.  A removed key
whose value spans several lines, such as a
`kubectl.kubernetes.io/last-applied-configuration: |` block scalar, leaves its value
behind: `filterManifest_keeps_nested_value` compares the loop with
`deleteWithValues`, which deletes each removed key or `status:` line with every
line indented deeper than it.

Read as a state machine, one step of the loop keeps the line, drops it, opens the
block or panics (`filterStep_cases`), and by induction over the
lines: the output is a sublist of the manifest with no removed line and no
`status:` (`filterManifest_sublist`), and the loop panics exactly when a `status:`
line is followed, past the lines its block swallows, by an empty line
(`filterManifest_eq_none_iff`).
-/

namespace GoFabric8
namespace Manifest

/-- A line the status block swallows: a removed line, `status:` again, or a line
that begins with a space. -/
def inStatusBlock (text : String) : Bool :=
  removedLine text || text == "status:" || text.toList.head? == some ' '

/-- The manifest as blocks: a removed line goes alone; `status:` goes with the run
of lines its block swallows, and the line that ends the run stays, unless it is
empty; every other line stays. -/
def sanitizeBlocks : List String → Option (List String)
  | [] => some []
  | text :: rest =>
    if removedLine text then sanitizeBlocks rest
    else if text = "status:" then
      match h : rest.dropWhile inStatusBlock with
      | [] => some []
      | next :: rest' =>
        have : rest'.length < rest.length + 1 := by
          have := (List.dropWhile_suffix inStatusBlock (l := rest)).length_le
          simp only [h, List.length_cons] at this
          omega
        if next = "" then none else (next :: ·) <$> sanitizeBlocks rest'
    else (text :: ·) <$> sanitizeBlocks rest
termination_by lines => lines.length

/-- The status case of `sanitizeBlocks`, without the termination witness. -/
theorem sanitizeBlocks_status (rest : List String) :
    sanitizeBlocks ("status:" :: rest) =
      match rest.dropWhile inStatusBlock with
      | [] => some []
      | next :: rest' => if next = "" then none else (next :: ·) <$> sanitizeBlocks rest' := by
  rw [sanitizeBlocks, if_neg (by simp [removedLine_status]), if_pos rfl]
  split <;> rename_i h <;> simp [h]

/-- Inside the block a swallowed line leaves the state as it is. -/
theorem filterStep_inStatusBlock {text : String} (h : inStatusBlock text = true)
    (acc : List String) : filterStep ⟨true, acc⟩ text = some ⟨true, acc⟩ := by
  by_cases hr : removedLine text
  · exact filterStep_removed hr _
  by_cases hs : text = "status:"
  · subst hs
    exact filterStep_status _
  obtain ⟨_ | ⟨c, cs⟩⟩ := text
  · simp [inStatusBlock, hr, hs] at h
  · have hc : c = ' ' := by simpa [inStatusBlock, hr, hs] using h
    simp [filterStep, hr, hs, hc]

/-- The first line the block does not swallow closes it and is kept, unless it is
empty. -/
theorem filterStep_closes_block {text : String} (h : inStatusBlock text = false)
    (acc : List String) :
    filterStep ⟨true, acc⟩ text =
      if text = "" then none else some ⟨false, acc ++ [text]⟩ := by
  simp only [inStatusBlock, Bool.or_eq_false_iff, beq_eq_false_iff_ne, ne_eq] at h
  obtain ⟨⟨hr, hs⟩, hsp⟩ := h
  obtain ⟨_ | ⟨c, cs⟩⟩ := text
  · simp [filterStep, removedLine_empty]
  · have hc : c ≠ ' ' := by simpa using hsp
    have hne : String.mk (c :: cs) ≠ "" := fun e => by simpa using congrArg String.length e
    simp [filterStep, hr, hs, hc, hne]

/-- The loop inside the status block skips exactly the swallowed run. -/
theorem foldlM_in_status (lines acc : List String) :
    lines.foldlM filterStep ⟨true, acc⟩ =
      match lines.dropWhile inStatusBlock with
      | [] => some ⟨true, acc⟩
      | next :: rest =>
        if next = "" then none else rest.foldlM filterStep ⟨false, acc ++ [next]⟩ := by
  induction lines with
  | nil => rfl
  | cons text rest ih =>
    cases hb : inStatusBlock text
    · rw [List.dropWhile_cons_of_neg (by simp [hb]), List.foldlM_cons,
        filterStep_closes_block hb]
      by_cases he : text = "" <;> simp [he]
    · rw [List.dropWhile_cons_of_pos hb, List.foldlM_cons, filterStep_inStatusBlock hb]
      exact ih

/-- Refinement, with an accumulator: from outside the status block the loop
collects what `sanitizeBlocks` keeps. -/
theorem foldlM_eq_sanitizeBlocks (lines acc : List String) :
    (lines.foldlM filterStep ⟨false, acc⟩).map FilterState.outputYAML =
      (sanitizeBlocks lines).map (acc ++ ·) := by
  induction lines using sanitizeBlocks.induct generalizing acc with
  | case1 => simp [sanitizeBlocks]
  | case2 text rest hr ih =>
    rw [List.foldlM_cons, filterStep_removed hr, sanitizeBlocks, if_pos hr]
    exact ih acc
  | case3 rest hnil _ =>
    rw [List.foldlM_cons, filterStep_status, sanitizeBlocks_status]
    simp [foldlM_in_status, hnil]
  | case4 rest rest' _ _ hblank =>
    rw [List.foldlM_cons, filterStep_status, sanitizeBlocks_status]
    simp [foldlM_in_status, hblank]
  | case5 rest next rest' hcons _ hne _ ih =>
    rw [List.foldlM_cons, filterStep_status, sanitizeBlocks_status]
    simpa [foldlM_in_status, hcons, hne, List.append_assoc] using ih (acc ++ [next])
  | case6 text rest hr hs ih =>
    have hk : Kept text := ⟨by simpa using hr, hs⟩
    rw [List.foldlM_cons, filterStep_kept hk, sanitizeBlocks, if_neg hr, if_neg hs]
    simpa [List.append_assoc] using ih (acc ++ [text])

/-- The filter loop deletes a removed line on its own and a status block with the
run it swallows; on every manifest it computes `sanitizeBlocks`. -/
theorem filterManifest_eq_sanitizeBlocks (lines : List String) :
    filterManifest lines = sanitizeBlocks lines := by
  simpa using foldlM_eq_sanitizeBlocks lines []

/-! ## What the loop keeps, and when it panics -/

/-- Everything one step of the loop can do: leave the state as it is on a removed
line or a line the open block swallows, open the block on `status:`, collect a
`Kept` line and leave the block, or panic on an empty line inside it. -/
theorem filterStep_cases (st : FilterState) (text : String) :
    ((st.inStatus ∧ inStatusBlock text) ∨ removedLine text) ∧ filterStep st text = some st ∨
      text = "status:" ∧ filterStep st text = some { st with inStatus := true } ∨
      Kept text ∧ filterStep st text = some ⟨false, st.outputYAML ++ [text]⟩ ∨
      st.inStatus ∧ text = "" ∧ filterStep st text = none := by
  obtain ⟨inStatus, acc⟩ := st
  by_cases hr : removedLine text
  · exact .inl ⟨.inr hr, filterStep_removed hr _⟩
  by_cases hs : text = "status:"
  · subst hs
    exact .inr (.inl ⟨rfl, filterStep_status _⟩)
  have hk : Kept text := ⟨by simpa using hr, hs⟩
  cases inStatus
  · exact .inr (.inr (.inl ⟨hk, filterStep_kept hk acc⟩))
  cases hb : inStatusBlock text
  · rw [filterStep_closes_block hb]
    split
    · exact .inr (.inr (.inr ⟨rfl, ‹_›, rfl⟩))
    · exact .inr (.inr (.inl ⟨hk, rfl⟩))
  · exact .inl ⟨.inl ⟨rfl, rfl⟩, filterStep_inStatusBlock hb acc⟩

theorem filterStep_some {st st' : FilterState} {text : String}
    (h : filterStep st text = some st') :
    ((st.inStatus ∧ inStatusBlock text) ∨ removedLine text) ∧ st' = st ∨
      text = "status:" ∧ st' = { st with inStatus := true } ∨
      Kept text ∧ st' = ⟨false, st.outputYAML ++ [text]⟩ := by
  rcases filterStep_cases st text with ⟨hc, he⟩ | ⟨hc, he⟩ | ⟨hc, he⟩ | ⟨-, -, he⟩ <;>
    simp only [he, Option.some.injEq, reduceCtorEq] at h
  exacts [.inl ⟨hc, h.symm⟩, .inr (.inl ⟨hc, h.symm⟩), .inr (.inr ⟨hc, h.symm⟩)]

/-- A step panics only on an empty line inside the block. -/
theorem filterStep_eq_none {st : FilterState} {text : String} (h : filterStep st text = none) :
    st.inStatus ∧ text = "" := by
  rcases filterStep_cases st text with ⟨-, he⟩ | ⟨-, he⟩ | ⟨-, he⟩ | ⟨hin, ht, -⟩
  iterate 3 cases he ▸ h
  exact ⟨hin, ht⟩

/-- Run lemma of the output: the loop appends to what it had collected a sublist
of the lines it read, each of them `Kept`. -/
theorem foldlM_output_sublist :
    ∀ {lines : List String} {st st' : FilterState}, lines.foldlM filterStep st = some st' →
      ∃ ys, List.Sublist ys lines ∧ (∀ l ∈ ys, Kept l) ∧ st'.outputYAML = st.outputYAML ++ ys
  | [], st, st', h => by
    cases h
    exact ⟨[], List.nil_sublist _, by simp, by simp⟩
  | text :: rest, st, st', h => by
    rw [List.foldlM_cons] at h
    obtain ⟨mid, hmid, hrest⟩ := Option.bind_eq_some.mp h
    obtain ⟨ys, hsub, hk, hout⟩ := foldlM_output_sublist hrest
    rcases filterStep_some hmid with ⟨-, rfl⟩ | ⟨-, rfl⟩ | ⟨hkt, rfl⟩
    · exact ⟨ys, hsub.cons text, hk, hout⟩
    · exact ⟨ys, hsub.cons text, hk, hout⟩
    · refine ⟨text :: ys, hsub.cons₂ text, ?_, by simpa using hout⟩
      exact List.forall_mem_cons.mpr ⟨hkt, hk⟩

/-- The filter only deletes lines: its output is a sublist of the manifest, and
no line of it is a removed line or `status:`. -/
theorem filterManifest_sublist {lines out : List String} (h : filterManifest lines = some out) :
    List.Sublist out lines ∧ ∀ l ∈ out, Kept l := by
  obtain ⟨st, hst, rfl⟩ := Option.map_eq_some'.mp h
  obtain ⟨ys, hsub, hk, hout⟩ := foldlM_output_sublist hst
  simp only [List.nil_append] at hout
  exact hout ▸ ⟨hsub, hk⟩

theorem filterManifest_sublist_status :
    filterManifest ["spec:", "status:", "  phase: Bound", "kind: PersistentVolumeClaim"] =
        some ["spec:", "kind: PersistentVolumeClaim"] ∧
      List.Sublist ["spec:", "kind: PersistentVolumeClaim"]
        ["spec:", "status:", "  phase: Bound", "kind: PersistentVolumeClaim"] ∧
      ∀ l ∈ ["spec:", "kind: PersistentVolumeClaim"], Kept l :=
  have h : filterManifest ["spec:", "status:", "  phase: Bound", "kind: PersistentVolumeClaim"] =
      some ["spec:", "kind: PersistentVolumeClaim"] := by decide
  ⟨h, filterManifest_sublist h⟩

/-- Run lemma of the panic: a loop that panics met an empty line where a status
block ends, the block opened in the lines it read or before them. -/
theorem foldlM_eq_none :
    ∀ {lines : List String} {st : FilterState}, lines.foldlM filterStep st = none →
      (∃ pre rest, lines = pre ++ "status:" :: rest ∧
        (rest.dropWhile inStatusBlock).head? = some "") ∨
      (st.inStatus ∧ (lines.dropWhile inStatusBlock).head? = some "")
  | [], _, h => by cases h
  | text :: rest, st, h => by
    rw [List.foldlM_cons] at h
    cases hs : filterStep st text with
    | none =>
      obtain ⟨hin, rfl⟩ := filterStep_eq_none hs
      exact .inr ⟨hin, by simp [inStatusBlock, removedLine_empty]⟩
    | some mid =>
      rw [hs] at h
      rcases foldlM_eq_none h with ⟨pre, r, rfl, hr⟩ | ⟨hin, hd⟩
      · exact .inl ⟨text :: pre, r, rfl, hr⟩
      · rcases filterStep_some hs with ⟨hb, rfl⟩ | ⟨rfl, -⟩ | ⟨-, rfl⟩
        · have hsw : inStatusBlock text = true := hb.elim (·.2) fun hr => by simp [inStatusBlock, hr]
          exact .inr ⟨hin, by rwa [List.dropWhile_cons_of_pos hsw]⟩
        · exact .inl ⟨[], rest, rfl, hd⟩
        · cases hin

/-- Inside the block, an empty line where the swallowed run ends panics. -/
theorem foldlM_status_blank {rest : List String}
    (h : (rest.dropWhile inStatusBlock).head? = some "") (acc : List String) :
    rest.foldlM filterStep ⟨true, acc⟩ = none := by
  rw [foldlM_in_status]
  split
  · next hd => simp [hd] at h
  · next next rest' hd =>
    rw [hd, List.head?_cons, Option.some.injEq] at h
    simp [h]

/-- The filter panics exactly when some `status:` line is followed, past the lines
its block swallows, by an empty line. -/
theorem filterManifest_eq_none_iff (lines : List String) :
    filterManifest lines = none ↔
      ∃ pre rest, lines = pre ++ "status:" :: rest ∧
        (rest.dropWhile inStatusBlock).head? = some "" := by
  rw [filterManifest, Option.map_eq_none']
  constructor
  · intro h
    rcases foldlM_eq_none h with h | ⟨hin, -⟩
    exacts [h, absurd hin Bool.false_ne_true]
  · rintro ⟨pre, rest, rfl, h⟩
    rw [List.foldlM_append]
    cases hp : pre.foldlM filterStep ⟨false, []⟩ with
    | none => rfl
    | some st => exact foldlM_status_blank h st.outputYAML

/-! ## Deleting keys with their values -/

/-- Leading spaces of a line, its YAML indentation. -/
def indentOf (text : String) : Nat :=
  (text.toList.takeWhile (· = ' ')).length

/-- Delete each removed line and each `status:` line together with its nested
value, the run of following lines indented deeper than it.  `skip` is the
indentation of the deleted key whose value is being skipped. -/
def deleteWithValues : Option Nat → List String → List String
  | _, [] => []
  | skip, text :: rest =>
    if skip.any (· < indentOf text) then deleteWithValues skip rest
    else if removedLine text || text == "status:" then
      deleteWithValues (some (indentOf text)) rest
    else text :: deleteWithValues none rest

/-- A `last-applied-configuration` block scalar: the loop drops the key and keeps
its indented value, which deleting the key with its value removes. -/
theorem filterManifest_keeps_nested_value :
    filterManifest ["apiVersion: v1", "kind: PersistentVolumeClaim", "metadata:",
        "  annotations:", "    kubectl.kubernetes.io/last-applied-configuration: |",
        "      \x7b\"apiVersion\":\"v1\",\"kind\":\"PersistentVolumeClaim\"\x7d",
        "  name: data-pv-claim", "spec:", "  accessModes:", "  - ReadWriteOnce"] ≠
      some (deleteWithValues none ["apiVersion: v1", "kind: PersistentVolumeClaim",
        "metadata:", "  annotations:",
        "    kubectl.kubernetes.io/last-applied-configuration: |",
        "      \x7b\"apiVersion\":\"v1\",\"kind\":\"PersistentVolumeClaim\"\x7d",
        "  name: data-pv-claim", "spec:", "  accessModes:", "  - ReadWriteOnce"]) := by
  decide

end Manifest
end GoFabric8
