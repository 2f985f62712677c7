import GoFabric8.Prog
import GoFabric8.Text

/-!
# What the commands share

`cmdutil.CheckErr` ends a command on an error, printing its message.  Every
command below reads the value of a failing call only after it, so `checkedValue`
is the call's value on success and the exit otherwise.
-/

namespace GoFabric8

open Prog hiding pure bind

/-- The message `cmdutil.CheckErr` prints for a plain error before it exits.  The
messages it composes for API status errors are not modelled. -/
def checkErrMessage (err : String) : String :=
  if hasPrefix err "error: " then err else "error: " ++ err

/-- `cmdutil.CheckErr(err)`. -/
def checkErr : Option String → Prog Unit
  | some err => .exit (checkErrMessage err)
  | none => pure ()

/-- `v, err := f(); cmdutil.CheckErr(err)`: the value of a call that did not fail. -/
def checkedValue : Except String α → Prog α
  | .ok v => pure v
  | .error err => .exit (checkErrMessage err)

section Steps

variable {E : Env} {hist t : List Event} {P : Event → Prop}

theorem checkedValue_returned {r : Except String α} {a : α}
    (hr : (checkedValue r).run E hist = (t, .returned a)) : t = [] ∧ r = .ok a := by
  cases r <;> simp_all [checkedValue]

theorem checkErr_returned {r : Option String} {u : Unit}
    (hr : (checkErr r).run E hist = (t, .returned u)) : t = [] ∧ r = none := by
  cases r <;> simp_all [checkErr]

theorem allEvents_checkedValue (r : Except String α) : AllEvents P (checkedValue r) := by
  cases r
  exacts [allEvents_exit _, allEvents_pure _]

theorem allEvents_checkErr (r : Option String) : AllEvents P (checkErr r) := by
  cases r
  exacts [allEvents_pure _, allEvents_exit _]

theorem returning_checkedValue (r : Except String α) : Returning P (checkedValue r) := by
  cases r
  exacts [returning_halts (halts_exit _), returning_pure _]

end Steps

end GoFabric8
