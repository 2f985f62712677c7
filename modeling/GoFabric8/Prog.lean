import GoFabric8.Cluster

/-!
# Commands as programs over external steps

Every modelled command is a `Prog`: a tree whose nodes are the external steps it
takes (a cluster request, a `kubectl` run, a file operation, a callback) and whose
branches are the answers those steps may give.  A leaf returns, exits through
`util.Fatal` or `cmdutil.CheckErr`, or panics.

`Prog.run E p h` runs `p` against an environment `E` that answers each step from
everything that happened before it (`h` and the events so far), so a cluster
that changes between two reads, or a pod that is gone the second time it is
deleted, are environments like any other.  A statement over every `E` is a
statement over every answer to every step.

`AllEvents` and `Returning` are the two trace properties the command proofs
compose: every event of every run, and every event of a run that returns.  Each
has one lemma per way of building a program.  `ReturnsAfter` and `Reaches` say
where in a program a step stands: only a run that returns takes it, and a run that
returns took it.
-/

namespace GoFabric8

/-- The external steps of the modelled commands. -/
inductive Op where
  | defaultNamespace
  | detectCurrentUserNamespace (ns : String)
  | listPods (ns : String)
  | getLabelValueOfPod (ns pod label : String)
  | getPodsDependOfService (ns service : String)
  | runCommandWithOutput (name : String) (args : List String)
  | tempFile (dir pattern : String)
  | createFile (path : String)
  | writeFile (path data : String)
  | closeFile (path : String)
  | removeFile (path : String)
  | getService (ns name : String)
  | typeOfMaster
  | listProjects
  | listNamespaces
  | callback
  | sleep (d : Int)
  | print (msg : String)
  | scanln
  | clientConfig
  | httpGet (url auth : String)
  | runCommand (name : String) (args : List String)
  | listServices (ns : String)
  | getEndpoints (ns name : String)
  | openURL (url : String)
  deriving DecidableEq, Repr

/-- What each step answers: the Go results the code reads, an error as its
message.  A `(value, err)` pair stays a pair where the code reads the value even
when `err` is set. -/
@[reducible] def Op.Res : Op → Type
  | .defaultNamespace => String
  | .detectCurrentUserNamespace _ => Except String String
  | .listPods _ => Except String PodList
  | .getLabelValueOfPod _ _ _ => Except String String
  | .getPodsDependOfService _ _ => Except String (List String)
  | .runCommandWithOutput _ _ => String × Option String
  | .tempFile _ _ => Except String String
  | .createFile _ => Option String
  | .writeFile _ _ => Option String
  | .closeFile _ => Option String
  | .removeFile _ => Option String
  | .getService _ _ => Service × Option String
  | .typeOfMaster => MasterType
  | .listProjects => Except String (List String)
  | .listNamespaces => Except String (List String)
  | .callback => Option String
  | .sleep _ => Unit
  | .print _ => Unit
  | .scanln => String
  | .clientConfig => Except String String
  | .httpGet _ _ => Except String (Nat × String)
  | .runCommand _ _ => Option String
  | .listServices _ => Except String (List (String × Service))
  | .getEndpoints _ _ => Except String Endpoints
  | .openURL _ => Unit

/-- Whether an answer reports an error. -/
def Op.failed : (op : Op) → op.Res → Bool
  | .defaultNamespace, _ => false
  | .detectCurrentUserNamespace _, r => !r.toBool
  | .listPods _, r => !r.toBool
  | .getLabelValueOfPod _ _ _, r => !r.toBool
  | .getPodsDependOfService _ _, r => !r.toBool
  | .runCommandWithOutput _ _, r => r.2.isSome
  | .tempFile _ _, r => !r.toBool
  | .createFile _, r => r.isSome
  | .writeFile _ _, r => r.isSome
  | .closeFile _, r => r.isSome
  | .removeFile _, r => r.isSome
  | .getService _ _, r => r.2.isSome
  | .typeOfMaster, _ => false
  | .listProjects, r => !r.toBool
  | .listNamespaces, r => !r.toBool
  | .callback, r => r.isSome
  | .sleep _, _ => false
  | .print _, _ => false
  | .scanln, _ => false
  | .clientConfig, r => !r.toBool
  | .httpGet _ _, r => !r.toBool
  | .runCommand _ _, r => r.isSome
  | .listServices _, r => !r.toBool
  | .getEndpoints _ _, r => !r.toBool
  | .openURL _, _ => false

/-- A step that changes the cluster: `kubectl delete` and `kubectl create`, and
`gofabric8 delete`. -/
def Op.mutates : Op → Bool
  | .runCommandWithOutput "kubectl" (verb :: _) => verb == "delete" || verb == "create"
  | .runCommand "gofabric8" ("delete" :: _) => true
  | _ => false

/-- The answer of a step that succeeds with empty data: the base of the concrete
environments below. -/
def Op.quiet : (op : Op) → op.Res
  | .defaultNamespace => ""
  | .detectCurrentUserNamespace _ => .ok ""
  | .listPods _ => .ok ⟨[], List.nodup_nil⟩
  | .getLabelValueOfPod _ _ _ => .ok ""
  | .getPodsDependOfService _ _ => .ok []
  | .runCommandWithOutput _ _ => ("", none)
  | .tempFile _ _ => .ok ""
  | .createFile _ => none
  | .writeFile _ _ => none
  | .closeFile _ => none
  | .removeFile _ => none
  | .getService _ _ => (Service.empty, none)
  | .typeOfMaster => .kubernetes
  | .listProjects => .ok []
  | .listNamespaces => .ok []
  | .callback => none
  | .sleep _ => ()
  | .print _ => ()
  | .scanln => ""
  | .clientConfig => .ok ""
  | .httpGet _ _ => .ok (200, "")
  | .runCommand _ _ => none
  | .listServices _ => .ok []
  | .getEndpoints _ _ => .ok ⟨[]⟩
  | .openURL _ => ()

/-- A step together with the answer it got. -/
structure Event where
  op : Op
  res : op.Res

def Event.failed (e : Event) : Bool := e.op.failed e.res

def Event.mutates (e : Event) : Bool := e.op.mutates

/-- An environment answers a step from the events before it. -/
abbrev Env := List Event → (op : Op) → op.Res

instance instDecidableEqExcept {ε α : Type} [DecidableEq ε] [DecidableEq α] :
    DecidableEq (Except ε α)
  | .ok a, .ok b => if h : a = b then isTrue (h ▸ rfl) else isFalse fun e => h (Except.ok.inj e)
  | .error a, .error b =>
    if h : a = b then isTrue (h ▸ rfl) else isFalse fun e => h (Except.error.inj e)
  | .ok _, .error _ => isFalse fun e => Except.noConfusion e
  | .error _, .ok _ => isFalse fun e => Except.noConfusion e

/-- How a run ends. -/
inductive Outcome (α : Type) where
  | returned (a : α)
  /-- `util.Fatal`, `cmdutil.CheckErr` or `os.Exit(1)` after printing the message. -/
  | exited (msg : String)
  /-- A Go runtime panic. -/
  | panicked (msg : String)
  deriving DecidableEq, Repr

inductive Prog (α : Type) where
  | pure (a : α)
  | exit (msg : String)
  | panic (msg : String)
  | call (op : Op) (k : op.Res → Prog α)

namespace Prog

def bind : Prog α → (α → Prog β) → Prog β
  | .pure a, f => f a
  | .exit m, _ => .exit m
  | .panic m, _ => .panic m
  | .call op k, f => .call op fun r => (k r).bind f

instance : Monad Prog where
  pure := Prog.pure
  bind := Prog.bind

/-- Take one external step and return its answer. -/
def request (op : Op) : Prog op.Res := .call op .pure

/-- The events of a run and how it ended.  `h` is the history before it. -/
def run (E : Env) : Prog α → List Event → List Event × Outcome α
  | .pure a, _ => ([], .returned a)
  | .exit m, _ => ([], .exited m)
  | .panic m, _ => ([], .panicked m)
  | .call op k, h =>
    let e : Event := ⟨op, E h op⟩
    let r := (k e.res).run E (h ++ [e])
    (e :: r.1, r.2)

@[simp] theorem pure_eq (a : α) : (Pure.pure a : Prog α) = .pure a := rfl

@[simp] theorem bind_eq (p : Prog α) (f : α → Prog β) : p >>= f = p.bind f := rfl

@[simp] theorem pure_bind (a : α) (f : α → Prog β) : (Prog.pure a).bind f = f a := rfl

@[simp] theorem exit_bind (m : String) (f : α → Prog β) : (Prog.exit m).bind f = .exit m := rfl

@[simp] theorem panic_bind (m : String) (f : α → Prog β) : (Prog.panic m).bind f = .panic m := rfl

variable (E : Env)

@[simp] theorem run_pure (a : α) (h : List Event) : (Prog.pure a).run E h = ([], .returned a) :=
  rfl

@[simp] theorem run_exit (m : String) (h : List Event) :
    (Prog.exit m : Prog α).run E h = ([], .exited m) := rfl

@[simp] theorem run_panic (m : String) (h : List Event) :
    (Prog.panic m : Prog α).run E h = ([], .panicked m) := rfl

@[simp] theorem run_call (op : Op) (k : op.Res → Prog α) (h : List Event) :
    (Prog.call op k).run E h =
      (⟨op, E h op⟩ :: ((k (E h op)).run E (h ++ [⟨op, E h op⟩])).1,
        ((k (E h op)).run E (h ++ [⟨op, E h op⟩])).2) := rfl

/-- The run of `p.bind f` once `p` ran as `r`: `f` continues on what `p` returned,
after `p`'s events; a halted `p` halts the whole. -/
def andThen (h : List Event) (r : List Event × Outcome α) (f : α → Prog β) :
    List Event × Outcome β :=
  match r.2 with
  | .returned a => (r.1 ++ ((f a).run E (h ++ r.1)).1, ((f a).run E (h ++ r.1)).2)
  | .exited m => (r.1, .exited m)
  | .panicked m => (r.1, .panicked m)

theorem run_bind (p : Prog α) (f : α → Prog β) (h : List Event) :
    (p.bind f).run E h = andThen E h (p.run E h) f := by
  induction p generalizing h with
  | pure a => simp [andThen, bind]
  | exit m => rfl
  | panic m => rfl
  | call op k ih =>
    simp only [bind, run_call, ih, andThen]
    split <;> simp_all

@[simp] theorem request_bind (op : Op) (k : op.Res → Prog α) :
    (request op).bind k = .call op k := rfl

@[simp] theorem forM_nil (f : γ → Prog PUnit) : ([] : List γ).forM f = .pure ⟨⟩ := rfl

@[simp] theorem forM_cons (f : γ → Prog PUnit) (c : γ) (l : List γ) :
    (c :: l).forM f = (f c).bind fun _ => l.forM f := rfl

@[simp] theorem call_bind (op : Op) (k : op.Res → Prog α) (f : α → Prog β) :
    (Prog.call op k).bind f = .call op fun r => (k r).bind f := rfl

theorem pure_returned {a b : α} {h t : List Event}
    (hr : (Pure.pure a : Prog α).run E h = (t, .returned b)) : t = [] ∧ a = b := by
  simp only [pure_eq, run_pure, Prod.mk.injEq, Outcome.returned.injEq] at hr
  exact ⟨hr.1.symm, hr.2⟩

theorem request_returned {op : Op} {h t : List Event} {r : op.Res}
    (hr : (request op).run E h = (t, .returned r)) : t = [⟨op, r⟩] := by
  simp only [request, run_call, run_pure, Prod.mk.injEq, Outcome.returned.injEq] at hr
  obtain ⟨rfl, rfl⟩ := hr
  rfl

/-- A run of `p.bind f` that returns is a returning run of `p` followed by one of
`f`. -/
theorem run_bind_returned {p : Prog α} {f : α → Prog β} {h t : List Event} {b : β}
    (hr : (p.bind f).run E h = (t, .returned b)) :
    ∃ t₁ t₂ a, t = t₁ ++ t₂ ∧ p.run E h = (t₁, .returned a) ∧
      (f a).run E (h ++ t₁) = (t₂, .returned b) := by
  rw [run_bind] at hr
  unfold andThen at hr
  split at hr
  · next a hpa =>
    simp only [Prod.mk.injEq] at hr
    exact ⟨_, _, a, hr.1.symm, Prod.ext rfl hpa, Prod.ext rfl hr.2⟩
  all_goals cases hr

/-- The events of a run of `p.bind f`: those of `p`, then those of `f a` when `p`
returned `a`. -/
theorem run_bind_fst (p : Prog α) (f : α → Prog β) (h : List Event) :
    ((p.bind f).run E h).1 = (p.run E h).1 ++
      match (p.run E h).2 with
      | .returned a => ((f a).run E (h ++ (p.run E h).1)).1
      | _ => [] := by
  rw [run_bind]
  unfold andThen
  split <;> simp_all

/-- Every event of every run of `p` satisfies `P`. -/
def AllEvents (P : Event → Prop) (p : Prog α) : Prop :=
  ∀ E h, ∀ e ∈ (p.run E h).1, P e

/-- Every event of a run of `p` that returns satisfies `P`. -/
def Returning (P : Event → Prop) (p : Prog α) : Prop :=
  ∀ E h t a, p.run E h = (t, .returned a) → ∀ e ∈ t, P e

variable {P : Event → Prop}

theorem allEvents_pure (a : α) : AllEvents P (Prog.pure a) := by
  simp [AllEvents]

theorem allEvents_exit (m : String) : AllEvents P (Prog.exit m : Prog α) := by
  simp [AllEvents]

theorem allEvents_panic (m : String) : AllEvents P (Prog.panic m : Prog α) := by
  simp [AllEvents]

theorem allEvents_call {op : Op} {k : op.Res → Prog α} (hop : ∀ r, P ⟨op, r⟩)
    (hk : ∀ r, AllEvents P (k r)) : AllEvents P (Prog.call op k) := by
  intro E h e he
  simp only [run_call, List.mem_cons] at he
  rcases he with rfl | he
  exacts [hop _, hk _ E _ e he]

theorem allEvents_request {op : Op} (hop : ∀ r, P ⟨op, r⟩) : AllEvents P (request op) :=
  allEvents_call hop fun r => allEvents_pure r

theorem allEvents_bind {p : Prog α} {f : α → Prog β} (hp : AllEvents P p)
    (hf : ∀ a, AllEvents P (f a)) : AllEvents P (p.bind f) := by
  intro E h e he
  rw [run_bind] at he
  unfold andThen at he
  split at he
  · rcases List.mem_append.mp he with he | he
    exacts [hp E h e he, hf _ E _ e he]
  all_goals exact hp E h e he

theorem allEvents_foldlM {f : β → γ → Prog β} (hf : ∀ b c, AllEvents P (f b c)) :
    ∀ (l : List γ) (init : β), AllEvents P (l.foldlM f init)
  | [], _ => allEvents_pure _
  | c :: l, init => by
    rw [List.foldlM_cons]
    exact allEvents_bind (hf init c) fun b => allEvents_foldlM hf l b

theorem allEvents_forM {f : γ → Prog PUnit} (hf : ∀ c, AllEvents P (f c)) :
    ∀ l : List γ, AllEvents P (l.forM f)
  | [] => allEvents_pure _
  | c :: l => allEvents_bind (hf c) fun _ => allEvents_forM hf l

theorem returning_of_allEvents {p : Prog α} (hp : AllEvents P p) : Returning P p :=
  fun E h t _ hr e he => hp E h e (by rw [hr]; exact he)

/-- No run of `p` returns. -/
def Halts (p : Prog α) : Prop := ∀ E h a, (p.run E h).2 ≠ .returned a

theorem halts_exit (m : String) : Halts (Prog.exit m : Prog α) := by
  simp [Halts]

theorem halts_bind {p : Prog α} (hp : Halts p) (f : α → Prog β) : Halts (p.bind f) := by
  intro E h b hb
  rw [run_bind] at hb
  unfold andThen at hb
  split at hb
  · exact hp E h _ ‹_›
  all_goals cases hb

theorem returning_pure (a : α) : Returning P (Prog.pure a) :=
  returning_of_allEvents (allEvents_pure a)

theorem returning_halts {p : Prog α} (hp : Halts p) : Returning P p :=
  fun E h _ _ hr => absurd (congrArg Prod.snd hr) (hp E h _)

/-- A step whose answer either satisfies `P` or leads to a halt. -/
theorem returning_call {op : Op} {k : op.Res → Prog α} (hop : ∀ r, P ⟨op, r⟩ ∨ Halts (k r))
    (hk : ∀ r, Returning P (k r)) : Returning P (Prog.call op k) := by
  intro E h t a hr e he
  simp only [run_call, Prod.mk.injEq] at hr
  obtain ⟨rfl, hret⟩ := hr
  rcases List.mem_cons.mp he with rfl | he
  · exact (hop _).resolve_right fun hh => hh E _ a hret
  · exact hk _ E _ _ a (Prod.ext rfl hret) e he

theorem returning_bind {p : Prog α} {f : α → Prog β} (hp : Returning P p)
    (hf : ∀ a, Returning P (f a)) : Returning P (p.bind f) := by
  intro E h t b hr e he
  rw [run_bind] at hr
  unfold andThen at hr
  split at hr
  · next a hpa =>
    simp only [Prod.mk.injEq] at hr
    obtain ⟨rfl, hfb⟩ := hr
    rcases List.mem_append.mp he with he | he
    · exact hp E h _ a (Prod.ext rfl hpa) e he
    · exact hf a E _ _ b (Prod.ext rfl hfb) e he
  all_goals cases hr

theorem returning_foldlM {f : β → γ → Prog β} (hf : ∀ b c, Returning P (f b c)) :
    ∀ (l : List γ) (init : β), Returning P (l.foldlM f init)
  | [], _ => returning_pure _
  | c :: l, init => by
    rw [List.foldlM_cons]
    exact returning_bind (hf init c) fun b => returning_foldlM hf l b

theorem returning_forM {f : γ → Prog PUnit} (hf : ∀ c, Returning P (f c)) :
    ∀ l : List γ, Returning P (l.forM f)
  | [] => returning_pure _
  | c :: l => returning_bind (hf c) fun _ => returning_forM hf l

/-- A relation between the accumulator before and after and the events between,
closed under composition, that every returning step establishes holds of every
returning loop. -/
theorem foldlM_returned_rel {f : β → γ → Prog β} {R : β → β → List Event → Prop}
    (hnil : ∀ b, R b b [])
    (hcomp : ∀ b₁ b₂ b₃ t₁ t₂, R b₁ b₂ t₁ → R b₂ b₃ t₂ → R b₁ b₃ (t₁ ++ t₂))
    (hf : ∀ b c E h t b', (f b c).run E h = (t, .returned b') → R b b' t) :
    ∀ (l : List γ) (init : β) E h t b,
      (l.foldlM f init).run E h = (t, .returned b) → R init b t
  | [], init, E, h, t, b, hr => by
    obtain ⟨rfl, rfl⟩ := pure_returned E hr
    exact hnil init
  | c :: l, init, E, h, t, b, hr => by
    rw [List.foldlM_cons, bind_eq] at hr
    obtain ⟨t₁, t₂, b₁, rfl, h₁, h₂⟩ := run_bind_returned E hr
    exact hcomp _ _ _ _ _ (hf init c E h t₁ b₁ h₁) (foldlM_returned_rel hnil hcomp hf l b₁ E _ t₂ b h₂)

/-! ## Steps only a returning run takes, and steps a returning run took -/

/-- A run of `p` that takes a step satisfying `P` returns. -/
def ReturnsAfter (P : Event → Prop) (p : Prog α) : Prop :=
  ∀ E h, ∀ e ∈ (p.run E h).1, P e → ∃ a, (p.run E h).2 = .returned a

/-- A run of `p` that returns took a step satisfying `P`. -/
def Reaches (P : Event → Prop) (p : Prog α) : Prop :=
  ∀ E h t a, p.run E h = (t, .returned a) → ∃ e ∈ t, P e

theorem returnsAfter_of_returns {p : Prog α} (hp : ∀ E h, ∃ a, (p.run E h).2 = .returned a) :
    ReturnsAfter P p :=
  fun E h _ _ _ => hp E h

/-- Steps that `p` never takes are left to `f`. -/
theorem returnsAfter_bind {p : Prog α} {f : α → Prog β} (hp : AllEvents (¬P ·) p)
    (hf : ∀ a, ReturnsAfter P (f a)) : ReturnsAfter P (p.bind f) := by
  intro E h e he hPe
  rw [run_bind] at he ⊢
  rcases hr : p.run E h with ⟨t, a | m | m⟩ <;> simp only [hr, andThen] at he ⊢
  · rcases List.mem_append.mp he with he | he
    · exact absurd hPe (hp E h e (by rw [hr]; exact he))
    · exact hf a E _ e he hPe
  all_goals exact absurd hPe (hp E h e (by rw [hr]; exact he))

theorem reaches_request {op : Op} (hop : ∀ r, P ⟨op, r⟩) : Reaches P (request op) := by
  intro E h t a hr
  obtain rfl := request_returned E hr
  exact ⟨_, List.mem_singleton_self _, hop a⟩

theorem reaches_bind_left {p : Prog α} {f : α → Prog β} (hp : Reaches P p) :
    Reaches P (p.bind f) := by
  intro E h t b hr
  obtain ⟨t₁, t₂, a, rfl, h₁, -⟩ := run_bind_returned E hr
  obtain ⟨e, he, hPe⟩ := hp E h t₁ a h₁
  exact ⟨e, List.mem_append_left _ he, hPe⟩

theorem reaches_bind_right {p : Prog α} {f : α → Prog β} (hf : ∀ a, Reaches P (f a)) :
    Reaches P (p.bind f) := by
  intro E h t b hr
  obtain ⟨t₁, t₂, a, rfl, -, h₂⟩ := run_bind_returned E hr
  obtain ⟨e, he, hPe⟩ := hf a E _ t₂ b h₂
  exact ⟨e, List.mem_append_right _ he, hPe⟩

end Prog

/-! ## Cutting a trace at an event -/

/-- Two cuts of one list at an element: the same cut, or each element lies left of
the other. -/
theorem cut_cases {α : Type} {pre rest A B : List α} {e b : α}
    (h : pre ++ e :: rest = A ++ b :: B) :
    (pre = A ∧ e = b ∧ rest = B) ∨ e ∈ A ∨ b ∈ pre := by
  rcases List.append_eq_append_iff.mp h with ⟨a', rfl, h'⟩ | ⟨c', rfl, h'⟩
  · rcases a' with _ | ⟨x, a'⟩
    · simp only [List.nil_append, List.cons.injEq] at h'
      exact .inl ⟨by simp, h'.1, h'.2⟩
    · simp only [List.cons_append, List.cons.injEq] at h'
      exact .inr (.inl (by simp [h'.1]))
  · rcases c' with _ | ⟨x, c'⟩
    · simp only [List.nil_append, List.cons.injEq] at h'
      exact .inl ⟨by simp, h'.1.symm, h'.2.symm⟩
    · simp only [List.cons_append, List.cons.injEq] at h'
      exact .inr (.inr (by simp [← h'.1]))

/-- A list with an element satisfying `p` is cut at the first such element. -/
theorem exists_first_cut {α : Type} {p : α → Bool} :
    ∀ {t : List α}, (∃ x ∈ t, p x) → ∃ A b B, t = A ++ b :: B ∧ p b ∧ ∀ x ∈ A, p x = false
  | [], ⟨_, hx, _⟩ => absurd hx (List.not_mem_nil _)
  | y :: t, ⟨x, hx, hpx⟩ => by
    cases hy : p y
    · obtain ⟨A, b, B, rfl, hb, hA⟩ :=
        exists_first_cut ⟨x, (List.mem_cons.mp hx).resolve_left (by rintro rfl; simp_all), hpx⟩
      exact ⟨y :: A, b, B, rfl, hb, by simpa [hy] using hA⟩
    · exact ⟨[], y, t, rfl, hy, by simp⟩

/-- A cut of `a :: X` at an element unlike `a` is a cut of `X`. -/
theorem cons_cut {α : Type} (p : α → Prop) {a e : α} {X pre rest : List α}
    (h : a :: X = pre ++ e :: rest) (ha : ¬p a) (he : p e) :
    ∃ pre', pre = a :: pre' ∧ X = pre' ++ e :: rest := by
  cases pre with
  | nil =>
    simp only [List.nil_append, List.cons.injEq] at h
    exact absurd (h.1 ▸ he) ha
  | cons b pre' =>
    simp only [List.cons_append, List.cons.injEq] at h
    exact ⟨pre', by rw [h.1], h.2⟩

/-- A cut of `A ++ B` at an element unlike every element of `A` is a cut of `B`. -/
theorem cut_right {α : Type} (p : α → Prop) {pre rest A B : List α} {e : α}
    (h : pre ++ e :: rest = A ++ B) (hA : ∀ x ∈ A, ¬p x) (he : p e) :
    ∃ pre', pre = A ++ pre' ∧ B = pre' ++ e :: rest := by
  rcases List.append_eq_append_iff.mp h with ⟨a', rfl, h'⟩ | ⟨c', rfl, h'⟩
  · rcases a' with _ | ⟨x, a'⟩
    · exact ⟨[], by simp, by simpa using h'.symm⟩
    · simp only [List.cons_append, List.cons.injEq] at h'
      exact absurd (h'.1 ▸ he) (hA x (by simp))
  · exact ⟨c', rfl, h'⟩

end GoFabric8
