import GoFabric8.Cmdutil

/-!
# Uninstalling every tenant

`uninstall` (the uninstall command's source) asks for confirmation unless `--yes`
was given, fetches the listing of all tenants from the tenant service, and runs
`gofabric8 delete tenant` for each namespace of type `user`, passing `-y` on when
the command was confirmed by the flag.  The error of `json.Unmarshal` is dropped:
the loop runs over whatever was decoded, which is the parameter `unmarshal`.

A tenant is deleted only with `--yes` or after the answer `y`
(`uninstall_deletes_after_confirmation`), and the tenants deleted are, in order,
the first user namespaces of a listing the service answered with a status below
300 (`uninstall_deletedTenants`).  The delete commands end with `-y` exactly when
`--yes` was given (`uninstall_passes_yes_only_with_flag`): the interactive answer
`y` is not passed on, so each `gofabric8 delete tenant` of such a run is run
without it.
-/

namespace GoFabric8
namespace Uninstall

open Prog hiding pure bind

/-- `Namespace` of the tenant listing. -/
structure Namespace where
  name : String
  type : String
  deriving DecidableEq, Repr

/-- `AllTenantJson`. -/
structure AllTenantJson where
  namespaces : List Namespace
  deriving DecidableEq, Repr

/-- The tenant service's listing. -/
def tenantsURL : String := "http://f8tenant-fabric8.openshift.chmouel.com/api/tenant/all"

/-- The arguments of `gofabric8 delete tenant` for one namespace. -/
def deleteTenantCommand (confirm : Bool) (name : String) : List String :=
  ["delete", "tenant", "-t", name, "--as=system:admin"] ++ if confirm then ["-y"] else []

/-- One pass of the loop over the listing. -/
def deleteTenant (confirm : Bool) (value : Namespace) : Prog PUnit :=
  if value.type = "user" then do
    checkErr (← request (.runCommand "gofabric8" (deleteTenantCommand confirm value.name)))
  else pure ⟨⟩

/-- `uninstall` once it goes ahead.  `http.NewRequest` of the constant URL cannot
fail; an error of `client.Do` or of reading the body is one failed `httpGet`. -/
def deleteAllTenants (unmarshal : String → AllTenantJson) (confirm : Bool) : Prog Unit := do
  let token ← checkedValue (← request .clientConfig)
  let (statusCode, body) ← checkedValue (← request (.httpGet tenantsURL ("Bearer " ++ token)))
  if statusCode ≥ 300 then
    checkErr (some ("Failed to GET all tenants from init-tenant service on " ++ tenantsURL ++
      " got status code to: " ++ toString statusCode ++ " output: " ++ body))
  (unmarshal body).namespaces.forM (deleteTenant confirm)

/-- `(*uninstallFlags).uninstall`; `confirm` is the `--yes` flag. -/
def uninstall (unmarshal : String → AllTenantJson) (confirm : Bool) : Prog Unit :=
  if confirm then deleteAllTenants unmarshal confirm
  else do
    request (.print "WARNING this command will delete all resources from *ALL TENANTS*\n")
    request (.print "\nContinue [y/N]: ")
    let answer ← request .scanln
    if answer ≠ "y" then request (.print "Aborted\n")
    else deleteAllTenants unmarshal confirm

/-- The tenant a step deletes, if it is `gofabric8 delete tenant -t name`. -/
def Op.deletedTenant? : Op → Option String
  | .runCommand "gofabric8" ("delete" :: "tenant" :: "-t" :: name :: _) => some name
  | _ => none

/-- The tenants a trace deletes, in order. -/
def deletedTenants (t : List Event) : List String :=
  t.filterMap fun e => Op.deletedTenant? e.op

/-- The names of the user namespaces of a listing, in order. -/
def userNames (namespaces : List Namespace) : List String :=
  (namespaces.filter (·.type = "user")).map Namespace.name

@[simp] theorem deletedTenants_nil : deletedTenants [] = [] := rfl

@[simp] theorem deletedTenants_append (a b : List Event) :
    deletedTenants (a ++ b) = deletedTenants a ++ deletedTenants b :=
  List.filterMap_append _ _ _

@[simp] theorem deletedTenants_cons (e : Event) (t : List Event) :
    deletedTenants (e :: t) = (Op.deletedTenant? e.op).toList ++ deletedTenants t := by
  cases h : Op.deletedTenant? e.op <;> simp [deletedTenants, List.filterMap_cons, h]

/-! ## The loop over the listing -/

section Loop

variable (confirm : Bool) (E : Env)

/-- One pass deletes its namespace when it is a user's, whatever the answer. -/
theorem deletedTenants_deleteTenant (value : Namespace) (hist : List Event) :
    deletedTenants ((deleteTenant confirm value).run E hist).1 =
      if value.type = "user" then [value.name] else [] := by
  unfold deleteTenant
  split
  · simp only [bind_eq, request_bind, run_call]
    cases E hist _ <;> rfl
  · rfl

theorem userNames_cons (v : Namespace) (vs : List Namespace) :
    userNames (v :: vs) = if v.type = "user" then v.name :: userNames vs else userNames vs := by
  by_cases h : v.type = "user" <;> simp [userNames, List.filter_cons, h]

/-- The loop deletes a prefix of the user namespaces. -/
theorem forM_deleteTenant_prefix :
    ∀ (vs : List Namespace) (hist : List Event),
      deletedTenants ((vs.forM (deleteTenant confirm)).run E hist).1 <+: userNames vs
  | [], _ => by simp [deletedTenants, userNames]
  | v :: vs, hist => by
    rw [forM_cons, run_bind_fst, deletedTenants_append, deletedTenants_deleteTenant, userNames_cons]
    have ih := forM_deleteTenant_prefix vs
    generalize (deleteTenant confirm v).run E hist = r
    rcases r with ⟨t₁, _ | _ | _⟩ <;> dsimp only <;> split <;> simp [ih]

end Loop

/-! ## What a run deletes -/

/-- What a trace of the command deletes: nothing, or, in order, the first user
namespaces of a listing the service answered with a status below 300. -/
def DeletesFromListing (unmarshal : String → AllTenantJson) (t : List Event) : Prop :=
  deletedTenants t = [] ∨
    ∃ auth statusCode body, (⟨.httpGet tenantsURL auth, .ok (statusCode, body)⟩ : Event) ∈ t ∧
      statusCode < 300 ∧ deletedTenants t <+: userNames (unmarshal body).namespaces

theorem deleteAllTenants_deletes (unmarshal : String → AllTenantJson) (confirm : Bool) (E : Env)
    (hist : List Event) :
    DeletesFromListing unmarshal ((deleteAllTenants unmarshal confirm).run E hist).1 := by
  simp only [deleteAllTenants, bind_eq, request_bind, run_call]
  generalize E hist .clientConfig = r₁
  rcases r₁ with e | token
  · exact .inl rfl
  simp only [checkedValue, pure_eq, Prog.pure_bind, call_bind, run_call]
  split
  · next v h =>
    obtain ⟨code, body⟩ := v
    rw [h]
    by_cases hc : 300 ≤ code
    · simp only [Prog.pure_bind, hc, if_true, checkErr, run_exit]
      exact .inl rfl
    · refine .inr ⟨"Bearer " ++ token, code, body, by simp, by omega, ?_⟩
      simp only [Prog.pure_bind, hc, if_false]
      exact forM_deleteTenant_prefix confirm E _ _
  · exact .inl rfl

theorem DeletesFromListing.cons {unmarshal : String → AllTenantJson} {e : Event}
    {t : List Event} (he : Op.deletedTenant? e.op = none) (h : DeletesFromListing unmarshal t) :
    DeletesFromListing unmarshal (e :: t) := by
  rcases h with h | ⟨auth, code, body, hget, hc, hp⟩
  · exact .inl (by simp [he, h])
  · exact .inr ⟨auth, code, body, List.mem_cons_of_mem _ hget, hc, by simpa [he] using hp⟩

/-- Every run deletes nothing, or, in order, the first user namespaces of a
listing the service answered with a status below 300. -/
theorem uninstall_deletedTenants (unmarshal : String → AllTenantJson) (confirm : Bool)
    (E : Env) : DeletesFromListing unmarshal ((uninstall unmarshal confirm).run E []).1 := by
  unfold uninstall
  split
  · exact deleteAllTenants_deletes unmarshal confirm E []
  simp only [bind_eq, request_bind, call_bind, run_call]
  refine .cons rfl (.cons rfl (.cons rfl ?_))
  split
  · exact .inl rfl
  · exact deleteAllTenants_deletes unmarshal confirm E _

/-- A tenant is deleted only with `--yes`, or after the answer `y`. -/
theorem uninstall_deletes_after_confirmation (unmarshal : String → AllTenantJson)
    (confirm : Bool) (E : Env) {pre rest : List Event} {e : Event}
    (h : ((uninstall unmarshal confirm).run E []).1 = pre ++ e :: rest)
    (he : (Op.deletedTenant? e.op).isSome) :
    confirm ∨ (⟨.scanln, "y"⟩ : Event) ∈ pre := by
  cases confirm
  · right
    simp only [uninstall, Bool.false_eq_true, if_false, bind_eq, request_bind, call_bind,
      run_call] at h
    obtain ⟨p₁, rfl, h₁⟩ := cons_cut (fun x : Event => (Op.deletedTenant? x.op).isSome) h
      Bool.false_ne_true he
    obtain ⟨p₂, rfl, h₂⟩ := cons_cut (fun x : Event => (Op.deletedTenant? x.op).isSome) h₁
      Bool.false_ne_true he
    obtain ⟨p₃, rfl, h₃⟩ := cons_cut (fun x : Event => (Op.deletedTenant? x.op).isSome) h₂
      Bool.false_ne_true he
    generalize E _ .scanln = answer at h₃ ⊢
    by_cases ha : answer = "y"
    · subst ha
      simp
    · simp only [ne_eq, ha, not_false_eq_true, if_true, request, run_call, run_pure] at h₃
      obtain ⟨_, -, h₄⟩ := cons_cut (fun x : Event => (Op.deletedTenant? x.op).isSome) h₃
        Bool.false_ne_true he
      simp at h₄
  · exact .inl rfl

/-- Without `--yes`, the answer `y` and a listing with one user namespace: the
deletion follows the answer. -/
theorem uninstall_deletes_after_answer_y :
    let E : Env := fun _ op => match op with
      | .scanln => "y"
      | .clientConfig => .ok "token"
      | op => op.quiet
    let pre : List Event :=
      [⟨.print "WARNING this command will delete all resources from *ALL TENANTS*\n", ()⟩,
        ⟨.print "\nContinue [y/N]: ", ()⟩, ⟨.scanln, "y"⟩, ⟨.clientConfig, .ok "token"⟩,
        ⟨.httpGet tenantsURL "Bearer token", .ok (200, "")⟩]
    let e : Event := ⟨.runCommand "gofabric8" (deleteTenantCommand false "alice"), none⟩
    ((uninstall (fun _ => ⟨[⟨"alice", "user"⟩]⟩) false).run E []).1 = pre ++ e :: [] ∧
      (Op.deletedTenant? e.op).isSome ∧ (false = true ∨ (⟨.scanln, "y"⟩ : Event) ∈ pre) := by
  intro E pre e
  have h : ((uninstall (fun _ => ⟨[⟨"alice", "user"⟩]⟩) false).run E []).1 = pre ++ e :: [] := rfl
  exact ⟨h, rfl, uninstall_deletes_after_confirmation _ false E h rfl⟩

/-! ## The confirmation the delete commands get -/

/-- A `gofabric8` command of the step ends with `-y` exactly when `confirm`. -/
def PassesYes (confirm : Bool) (e : Event) : Prop :=
  ∀ args, e.op = .runCommand "gofabric8" args → (args.getLast? = some "-y" ↔ confirm = true)

theorem deleteTenant_passesYes (confirm : Bool) (value : Namespace) :
    AllEvents (PassesYes confirm) (deleteTenant confirm value) := by
  unfold deleteTenant
  split
  · refine allEvents_bind (allEvents_request fun _ args h => ?_) fun r => allEvents_checkErr r
    obtain rfl := (Op.runCommand.inj h).2
    cases confirm <;> simp [deleteTenantCommand]
  · exact allEvents_pure _

/-- The delete commands get `-y` exactly when `--yes` was given: a run confirmed by
the answer `y` deletes each tenant with a command that asks again. -/
theorem uninstall_passes_yes_only_with_flag (unmarshal : String → AllTenantJson)
    (confirm : Bool) : AllEvents (PassesYes confirm) (uninstall unmarshal confirm) := by
  have hq : ∀ {op : Op}, (∀ args, op ≠ .runCommand "gofabric8" args) →
      ∀ r, PassesYes confirm ⟨op, r⟩ := fun hop _ args h => absurd h (hop args)
  have hall : AllEvents (PassesYes confirm) (deleteAllTenants unmarshal confirm) :=
    allEvents_bind (allEvents_request (hq fun _ => Op.noConfusion)) fun r =>
      allEvents_bind (allEvents_checkedValue r) fun _ =>
        allEvents_bind (allEvents_request (hq fun _ => Op.noConfusion)) fun r =>
          allEvents_bind (allEvents_checkedValue r) fun ⟨code, _⟩ => by
            dsimp only
            split
            · exact allEvents_bind (allEvents_checkErr _) fun _ =>
                allEvents_forM (deleteTenant_passesYes confirm) _
            · exact allEvents_bind (allEvents_pure _) fun _ =>
                allEvents_forM (deleteTenant_passesYes confirm) _
  unfold uninstall
  split
  · exact hall
  · refine allEvents_bind (allEvents_request (hq fun _ => Op.noConfusion)) fun _ =>
      allEvents_bind (allEvents_request (hq fun _ => Op.noConfusion)) fun _ =>
        allEvents_bind (allEvents_request (hq fun _ => Op.noConfusion)) fun _ => ?_
    split
    · exact allEvents_request (hq fun _ => Op.noConfusion)
    · exact hall

end Uninstall
end GoFabric8
