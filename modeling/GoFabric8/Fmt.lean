import Mathlib.Data.List.Infix

/-!
# Formatting with no operands

`MultiError.ToError` hands its joined messages to `fmt.Errorf` as the format, with
no operands (service.go:333).  The message of that error is what `fmt`'s
`doPrintf` writes for the format: text is copied, `%%` is a percent sign, and every
other verb, having no operand, is replaced by an error text.  The verb is read
after its flags, an optional index `[n]`, a width and a precision, each of which
may leave its own error text.

`directive` reads one verb from after its `%`; `printfLoop` is the loop of
`doPrintf`, given as fuel the length of the format, which is always enough
(`printfLoop_fuel`).  `doPrintf_percent` and `doPrintf_text` are the loop's
equations without fuel; a format with no `%` is copied (`sprintf_of_not_mem`).
-/

namespace GoFabric8
namespace Fmt

/-- The flags loop of `doPrintf`: the flags change only how an operand prints. -/
def skipFlags : List Char → List Char
  | c :: cs => if c = '#' ∨ c = '0' ∨ c = '+' ∨ c = '-' ∨ c = ' ' then skipFlags cs else c :: cs
  | [] => []

/-- `parsenum`: whether digits were read, and the rest.  A number past a million
(`tooLarge`) is taken as garbage and ends the range. -/
def parsenum (num : Nat) (isnum : Bool) : List Char → Bool × List Char
  | c :: cs =>
    if c.isDigit then
      if num > 1000000 then (false, []) else parsenum (num * 10 + (c.toNat - '0'.toNat)) true cs
    else (isnum, c :: cs)
  | [] => (isnum, [])

/-- `parseArgNumber` on the format from a `[`: how many characters the index takes
and whether it is a number. -/
def parseArgNumber (s : List Char) : Nat × Bool :=
  if s.length < 3 then (1, false)
  else
    match (s.drop 1).findIdx? (· == ']') with
    | none => (1, false)
    | some j => (j + 2, parsenum 0 false ((s.drop 1).take j) == (true, []))

/-- What `doPrintf` keeps while it reads one verb: the unread format,
`goodArgNum`, `afterIndex`, and the error texts written so far. -/
structure Verb where
  rest : List Char
  good : Bool
  afterIndex : Bool
  out : List Char

/-- `argNumber` with no operands: an index names no operand, so it makes the
operand bad. -/
def Verb.argNumber (v : Verb) : Verb :=
  match v.rest with
  | '[' :: _ =>
    { v with rest := v.rest.drop (parseArgNumber v.rest).1, good := false,
             afterIndex := (parseArgNumber v.rest).2 }
  | _ => { v with afterIndex := false }

/-- The width: `*` takes an operand there is not. -/
def Verb.width (v : Verb) : Verb :=
  match v.rest with
  | '*' :: rest => { v with rest, afterIndex := false, out := v.out ++ "%!(BADWIDTH)".toList }
  | rest =>
    { v with rest := (parsenum 0 false rest).2,
             good := v.good && !(v.afterIndex && (parsenum 0 false rest).1) }

/-- The precision, when a `.` is followed by more of the format. -/
def Verb.precision (v : Verb) : Verb :=
  match v.rest with
  | '.' :: c :: rest =>
    let v := Verb.argNumber { v with rest := c :: rest, good := v.good && !v.afterIndex }
    match v.rest with
    | '*' :: rest => { v with rest, afterIndex := false, out := v.out ++ "%!(BADPREC)".toList }
    | rest => { v with rest := (parsenum 0 false rest).2 }
  | _ => v

/-- One verb, read from after its `%`: what `doPrintf` writes for it, and the rest
of the format. -/
def directive (cs : List Char) : List Char × List Char :=
  let v := (Verb.argNumber ⟨skipFlags cs, true, false, []⟩).width.precision
  let v := if v.afterIndex then v else v.argNumber
  match v.rest with
  | [] => (v.out ++ "%!(NOVERB)".toList, [])
  | c :: rest =>
    (v.out ++ if c = '%' then ['%']
      else if v.good then "%!".toList ++ c :: "(MISSING)".toList
      else "%!".toList ++ c :: "(BADINDEX)".toList, rest)

/-- The loop of `doPrintf` with no operands, for at most `fuel` rounds. -/
def printfLoop : Nat → List Char → List Char
  | 0, _ => []
  | _ + 1, [] => []
  | n + 1, c :: cs =>
    if c = '%' then (directive cs).1 ++ printfLoop n (directive cs).2
    else c :: printfLoop n cs

/-- `doPrintf(format, nil)` on the characters of the format. -/
def doPrintf (cs : List Char) : List Char := printfLoop cs.length cs

/-- `fmt.Sprintf(format)`, which is also the message of `fmt.Errorf(format)`. -/
def sprintf (format : String) : String := ⟨doPrintf format.toList⟩

/-! ## Every round reads part of the format -/

theorem skipFlags_suffix : ∀ cs : List Char, skipFlags cs <:+ cs
  | [] => List.suffix_refl _
  | c :: cs => by
    unfold skipFlags
    split
    · exact (skipFlags_suffix cs).trans (List.suffix_cons _ _)
    · exact List.suffix_refl _

theorem parsenum_suffix (num : Nat) (isnum : Bool) : ∀ cs : List Char, (parsenum num isnum cs).2 <:+ cs
  | [] => List.suffix_refl _
  | c :: cs => by
    unfold parsenum
    split
    · split
      · exact List.nil_suffix
      · exact (parsenum_suffix _ _ cs).trans (List.suffix_cons _ _)
    · exact List.suffix_refl _

theorem argNumber_suffix (v : Verb) : v.argNumber.rest <:+ v.rest := by
  unfold Verb.argNumber
  split
  · exact List.drop_suffix _ _
  · exact List.suffix_refl _

theorem width_suffix (v : Verb) : v.width.rest <:+ v.rest := by
  unfold Verb.width
  split
  · next rest h => exact h ▸ List.suffix_cons _ _
  · exact parsenum_suffix _ _ _

theorem precision_suffix (v : Verb) : v.precision.rest <:+ v.rest := by
  unfold Verb.precision
  split
  · next c rest h =>
    have hv := (argNumber_suffix { v with rest := c :: rest, good := v.good && !v.afterIndex }).trans
      (h ▸ List.suffix_cons '.' (c :: rest))
    dsimp only
    split
    · next r h' => exact (List.suffix_cons _ _).trans (h' ▸ hv)
    · exact (parsenum_suffix _ _ _).trans hv
  · exact List.suffix_refl _

theorem directive_suffix (cs : List Char) : (directive cs).2 <:+ cs := by
  let v := (Verb.argNumber ⟨skipFlags cs, true, false, []⟩).width.precision
  have hv : v.rest <:+ cs :=
    (precision_suffix _).trans ((width_suffix _).trans
      ((argNumber_suffix _).trans (skipFlags_suffix cs)))
  have hv' : (if v.afterIndex then v else v.argNumber).rest <:+ cs := by
    split
    · exact hv
    · exact (argNumber_suffix v).trans hv
  unfold directive
  dsimp only
  split
  · exact List.nil_suffix
  · next c rest h => exact (List.suffix_cons _ _).trans (h ▸ hv')

theorem directive_length_le (cs : List Char) : (directive cs).2.length ≤ cs.length :=
  (directive_suffix cs).length_le

/-- Any fuel of at least the format's length gives the same text. -/
theorem printfLoop_fuel :
    ∀ (n m : Nat) (cs : List Char), cs.length ≤ n → cs.length ≤ m →
      printfLoop n cs = printfLoop m cs
  | 0, m, [], _, _ => by cases m <;> rfl
  | n + 1, 0, [], _, _ => rfl
  | n + 1, m + 1, [], _, _ => rfl
  | n + 1, m + 1, c :: cs, hn, hm => by
    have hn' : cs.length ≤ n := by simpa using hn
    have hm' : cs.length ≤ m := by simpa using hm
    simp only [printfLoop]
    split
    · rw [printfLoop_fuel n m _ ((directive_length_le cs).trans hn')
        ((directive_length_le cs).trans hm')]
    · rw [printfLoop_fuel n m cs hn' hm']

@[simp] theorem doPrintf_nil : doPrintf [] = [] := rfl

theorem doPrintf_percent (cs : List Char) :
    doPrintf ('%' :: cs) = (directive cs).1 ++ doPrintf (directive cs).2 := by
  simp only [doPrintf, List.length_cons, printfLoop, if_true]
  rw [printfLoop_fuel cs.length _ _ (directive_length_le cs) le_rfl]

theorem doPrintf_text {c : Char} (hc : c ≠ '%') (cs : List Char) :
    doPrintf (c :: cs) = c :: doPrintf cs := by
  simp [doPrintf, printfLoop, hc]

/-- A format without `%` is its own message. -/
theorem doPrintf_of_not_mem : ∀ cs : List Char, '%' ∉ cs → doPrintf cs = cs
  | [], _ => rfl
  | c :: cs, h => by
    rw [List.mem_cons, not_or] at h
    rw [doPrintf_text (Ne.symm h.1), doPrintf_of_not_mem cs h.2]

theorem sprintf_of_not_mem {format : String} (h : '%' ∉ format.toList) :
    sprintf format = format :=
  congrArg String.mk (doPrintf_of_not_mem _ h)

end Fmt
end GoFabric8
