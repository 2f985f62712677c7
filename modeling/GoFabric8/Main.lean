import Mathlib.Data.List.Basic

/-!
# The root command's update check

`main` (main.go, src/unnamed/part_000:282-372; the line numbers below are that
file's) installs one `PersistentPreRun` hook on the root command.  The hook closes
over `updated`, so it is a state machine: its first call sets `updated` and, unless
batch mode is on, makes the update check (the folder under the home directory, the
local version, `update.MaybeUpdate`); every later call does nothing of its own.  `oldHandler` is read from the command before the
hook is assigned, and the command literal sets no hook, so it is nil.

A call reads the world through `PreRunEnv` and its effects are the `PreRunCall`s
it makes, with the arguments the code passes; `util.Fatalf` ends the process.
`preRunCalls` runs the hook over successive calls from a value of `updated`.

What is proved, over every sequence of calls and every answer:
* from `updated` set, a call makes only the old handler's call
  (`persistentPreRun_updated`), and a call that returns leaves `updated` set
  (`persistentPreRun_snd`);
* the update check is made at most once in a run, whatever the old handler and
  the state it starts from (`preRunCalls_maybeUpdate_le_one`);
* in `main`'s process the hook does the work of its first call and nothing on
  any later call (`mainPreRun_cons`).
-/

namespace GoFabric8
namespace Main

def batchFlag : String := "batch"
def githubOrg : String := "fabric8io"
def githubRepo : String := "gofabric8"
def binaryName : String := githubRepo
def lastUpdateCheck : String := "last_update_check"
def hiddenFolder : String := "/.fabric8/"

/-- What one call of the hook reads: the value of the root command's `batch` flag
(`none` when `Lookup` finds no flag), `FABRIC8_BATCH`, `homedir.HomeDir()`, the
error of `os.MkdirAll`, and `version.GetSemverVersion()`, whose version is used
even when it reports an error. -/
structure PreRunEnv where
  batchFlagValue : Option String
  fabric8Batch : String
  home : String
  mkdirAllErr : Option String
  localVersion : String × Option String
  deriving DecidableEq, Repr

/-- The calls the hook makes out of the closure, with the arguments the code
passes: `util.Fatalf`, `os.MkdirAll`, `util.Errorf`, the two `viper.SetDefault`
calls, `update.MaybeUpdate` and the old handler. -/
inductive PreRunCall where
  | fatalf (format : String) (args : List String)
  | mkdirAll (path : String) (perm : Nat)
  | errorf (format : String) (args : List String)
  | wantUpdateNotificationDefault (value : Bool)
  | reminderWaitPeriodInHoursDefault (hours : Nat)
  | maybeUpdate (githubOrg githubRepo binaryName lastUpdatePath localVersion : String)
  | oldHandler
  deriving DecidableEq, Repr

def PreRunCall.isMaybeUpdate : PreRunCall → Bool
  | .maybeUpdate .. => true
  | _ => false

/-- Lines 303-311: the flag, then the environment variable, which can only turn
batch mode on. -/
def isBatch (env : PreRunEnv) : Bool :=
  let batch := match env.batchFlagValue with
    | some value => value == "true"
    | none => false
  batch || env.fabric8Batch == "true"

/-- Lines 318-329: the update check once the home directory is known.  A failed
`MkdirAll` or version read is reported and the check goes on. -/
def updateCheck (home : String) (env : PreRunEnv) : List PreRunCall :=
  let writeFileLocation := home ++ hiddenFolder
  .mkdirAll writeFileLocation 0o700 ::
    ((match env.mkdirAllErr with
      | some err => [.errorf "Unable to create directory to store update file %s %v\n"
          [writeFileLocation, err]]
      | none => []) ++
    (match env.localVersion.2 with
      | some err => [.errorf "Unable to get local version %v" [err]]
      | none => []) ++
    [.wantUpdateNotificationDefault true, .reminderWaitPeriodInHoursDefault 24,
      .maybeUpdate githubOrg githubRepo binaryName (writeFileLocation ++ lastUpdateCheck)
        env.localVersion.1])

/-- One call of the hook (lines 300-336) from the closure's `updated`: the calls it
makes, and `updated` after it, or `none` when `util.Fatalf` ended the process. -/
def persistentPreRun (goos : String) (oldHandler updated : Bool) (env : PreRunEnv) :
    List PreRunCall × Option Bool :=
  let old := if oldHandler then [PreRunCall.oldHandler] else []
  if !updated then
    if !isBatch env then
      if env.home = "" then
        ([.fatalf "No user home environment variable found for OS %s" [goos]], none)
      else (updateCheck env.home env ++ old, some true)
    else (old, some true)
  else (old, some updated)

/-- The calls of the hook over successive calls in one process, from `updated`,
until `util.Fatalf` ends it. -/
def preRunCalls (goos : String) (oldHandler : Bool) : Bool → List PreRunEnv → List PreRunCall
  | _, [] => []
  | updated, env :: envs =>
    match persistentPreRun goos oldHandler updated env with
    | (calls, some updated') => calls ++ preRunCalls goos oldHandler updated' envs
    | (calls, none) => calls

/-- The hook as `main` installs it: no old handler, `updated` false. -/
def mainPreRun (goos : String) (envs : List PreRunEnv) : List PreRunCall :=
  preRunCalls goos false false envs

/-! ## One call -/

section Step

variable (goos : String) (oldHandler : Bool) (env : PreRunEnv)

theorem countP_updateCheck (home : String) :
    (updateCheck home env).countP PreRunCall.isMaybeUpdate = 1 := by
  unfold updateCheck
  cases env.mkdirAllErr <;> cases env.localVersion.2 <;> rfl

theorem countP_old :
    (if oldHandler then [PreRunCall.oldHandler] else []).countP PreRunCall.isMaybeUpdate = 0 := by
  cases oldHandler <;> rfl

/-- Once `updated` is set, a call makes only the old handler's call. -/
theorem persistentPreRun_updated :
    persistentPreRun goos oldHandler true env =
      (if oldHandler then [PreRunCall.oldHandler] else [], some true) := rfl

/-- The first call: batch mode only sets `updated`; otherwise the home directory
decides between `util.Fatalf` and the update check. -/
theorem persistentPreRun_first :
    persistentPreRun goos oldHandler false env =
      if isBatch env then (if oldHandler then [PreRunCall.oldHandler] else [], some true)
      else if env.home = "" then
        ([.fatalf "No user home environment variable found for OS %s" [goos]], none)
      else (updateCheck env.home env ++ if oldHandler then [PreRunCall.oldHandler] else [],
        some true) := by
  unfold persistentPreRun
  cases isBatch env <;> rfl

/-- A call that returns leaves `updated` set. -/
theorem persistentPreRun_snd {updated u : Bool}
    (h : (persistentPreRun goos oldHandler updated env).2 = some u) : u = true := by
  cases updated
  · rw [persistentPreRun_first] at h
    split_ifs at h <;> cases h <;> rfl
  · rw [persistentPreRun_updated] at h
    cases h
    rfl

/-- One call makes the update check at most once. -/
theorem countP_persistentPreRun_le_one (updated : Bool) :
    (persistentPreRun goos oldHandler updated env).1.countP PreRunCall.isMaybeUpdate ≤ 1 := by
  cases updated
  · rw [persistentPreRun_first]
    split_ifs <;> simp [List.countP_append, countP_updateCheck, PreRunCall.isMaybeUpdate]
  · simp [persistentPreRun_updated, countP_old]

end Step

/-! ## Runs -/

section Runs

variable (goos : String) (oldHandler : Bool)

/-- From `updated` set, a run makes only old-handler calls. -/
theorem preRunCalls_updated :
    ∀ envs, (preRunCalls goos oldHandler true envs).countP PreRunCall.isMaybeUpdate = 0
  | [] => rfl
  | env :: envs => by
    rw [preRunCalls, persistentPreRun_updated]
    simp only [List.countP_append, countP_old, preRunCalls_updated envs]

/-- The update check is made at most once in a run of the hook. -/
theorem preRunCalls_maybeUpdate_le_one (updated : Bool) (envs : List PreRunEnv) :
    (preRunCalls goos oldHandler updated envs).countP PreRunCall.isMaybeUpdate ≤ 1 := by
  cases envs with
  | nil => exact Nat.zero_le _
  | cons env envs =>
    have hstep := countP_persistentPreRun_le_one goos oldHandler env updated
    rw [preRunCalls]
    split
    · next calls u h =>
      obtain rfl := persistentPreRun_snd goos oldHandler env (congrArg Prod.snd h)
      rw [h] at hstep
      simpa only [List.countP_append, preRunCalls_updated] using hstep
    · next calls h => rwa [h] at hstep

/-- In `main`'s process the hook does the work of its first call, and nothing on any
later call. -/
theorem mainPreRun_cons (env : PreRunEnv) (envs : List PreRunEnv) :
    mainPreRun goos (env :: envs) = (persistentPreRun goos false false env).1 := by
  have hrest : ∀ envs, preRunCalls goos false true envs = [] := by
    intro envs
    induction envs with
    | nil => rfl
    | cons env envs ih => simpa [preRunCalls, persistentPreRun_updated] using ih
  rw [mainPreRun, preRunCalls, persistentPreRun_first]
  split_ifs <;> simp [hrest]

end Runs

end Main
end GoFabric8
