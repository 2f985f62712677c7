import Mathlib.Data.String.Basic

/-!
# Go text primitives

The standard-library string functions the commands call, over the characters of a
Lean `String`.  `trimSpace` and `hasPrefix` are `strings.TrimSpace` and
`strings.HasPrefix`; `scanLines` is the token sequence of a `bufio.Scanner` with
its default `ScanLines` split over a `strings.Reader`, which is how `erasePVC`
reads the exported manifest (erase_pvc.go:133-135).

The scanner keeps at most `bufio.MaxScanTokenSize` bytes of one line.  On a longer
line `Scan` reports `false` and records `ErrTooLong`, so the lines it yields are the
lines before the first long one (`scanFrom_of_le`).  Nothing in the repository
reads `scanner.Err()`, so the error itself is not modelled, only where the tokens
stop.
-/

namespace GoFabric8

/-- `unicode.IsSpace`: the Latin-1 spaces, then the `White_Space` property. -/
def isSpace (c : Char) : Bool :=
  if c.toNat ≤ 0xFF then
    c.toNat ∈ [0x09, 0x0A, 0x0B, 0x0C, 0x0D, 0x20, 0x85, 0xA0]
  else
    c.toNat ∈ [0x1680, 0x2028, 0x2029, 0x202F, 0x205F, 0x3000] ||
      (0x2000 ≤ c.toNat && c.toNat ≤ 0x200A)

/-- `strings.TrimSpace`: leading and trailing spaces go. -/
def trimSpace (s : String) : String :=
  ⟨((s.toList.dropWhile isSpace).reverse.dropWhile isSpace).reverse⟩

/-- `strings.HasPrefix`. -/
def hasPrefix (s pre : String) : Bool :=
  pre.toList.isPrefixOf s.toList

/-- `bufio.MaxScanTokenSize`. -/
def maxScanTokenSize : Nat := 64 * 1024

/-- `dropCR` of `bufio.ScanLines`: one trailing carriage return goes. -/
def dropCR (line : List Char) : List Char :=
  if line.getLast? = some '\r' then line.dropLast else line

/-- The tokens still to come when `cur` is the part of the current line read so
far and `rest` the unread text.  A line is a token when it fits the buffer with its
newline, that is when it has fewer than `max` bytes; the first line that does not
ends the scan.  A last line without a newline is a token unless it is empty. -/
def scanFrom (max : Nat) (cur : List Char) : List Char → List String
  | [] =>
    if cur = [] then []
    else if (String.mk cur).utf8ByteSize < max then [String.mk (dropCR cur)] else []
  | c :: rest =>
    if c = '\n' then
      if (String.mk cur).utf8ByteSize < max then String.mk (dropCR cur) :: scanFrom max [] rest
      else []
    else scanFrom max (cur ++ [c]) rest

/-- The lines `for scanner.Scan() { text := scanner.Text() ... }` visits. -/
def scanLines (s : String) : List String :=
  scanFrom maxScanTokenSize [] s.toList

/-- An empty export has no lines. -/
@[simp] theorem scanLines_empty : scanLines "" = [] := rfl

example : scanLines "a\r\n\nb" = ["a", "", "b"] := by decide

/-! ## The tokens of a text without carriage returns -/

theorem dropCR_of_not_mem {line : List Char} (h : '\r' ∉ line) : dropCR line = line :=
  if_neg fun hl => h (List.mem_of_getLast?_eq_some hl)

/-- Characters other than a newline only extend the current line. -/
theorem scanFrom_append (max : Nat) : ∀ {l : List Char} (cur rest : List Char), '\n' ∉ l →
    scanFrom max cur (l ++ rest) = scanFrom max (cur ++ l) rest
  | [], cur, rest, _ => by rw [List.nil_append, List.append_nil]
  | c :: l, cur, rest, h => by
    rw [List.cons_append, scanFrom, if_neg fun hc : c = '\n' => h (hc ▸ List.mem_cons_self _ _),
      scanFrom_append max (cur ++ [c]) rest fun hl => h (List.mem_cons_of_mem _ hl),
      List.append_assoc, List.singleton_append]

/-- A short line with its newline is one token. -/
theorem scanFrom_line {max : Nat} {l : List Char} (hn : '\n' ∉ l) (hr : '\r' ∉ l)
    (hs : (String.mk l).utf8ByteSize < max) (rest : List Char) :
    scanFrom max [] (l ++ '\n' :: rest) = String.mk l :: scanFrom max [] rest := by
  rw [scanFrom_append max [] _ hn, List.nil_append, scanFrom, if_pos rfl, if_pos hs,
    dropCR_of_not_mem hr]

/-- Run lemma of the scanner: with no carriage return in the text, every token has
neither a newline nor a carriage return and is shorter than the buffer. -/
theorem scanFrom_tokens {max : Nat} : ∀ {rest cur : List Char}, '\n' ∉ cur → '\r' ∉ cur →
    '\r' ∉ rest → ∀ l ∈ scanFrom max cur rest,
      '\n' ∉ l.toList ∧ '\r' ∉ l.toList ∧ l.utf8ByteSize < max
  | [], cur, hn, hr, _, l, hl => by
    rw [scanFrom] at hl
    split_ifs at hl with h₁ h₂
    · cases hl
    · rw [List.mem_singleton.mp hl, dropCR_of_not_mem hr]
      exact ⟨hn, hr, h₂⟩
    · cases hl
  | c :: rest, cur, hn, hr, hrest, l, hl => by
    simp only [List.mem_cons, not_or] at hrest
    rw [scanFrom] at hl
    split_ifs at hl with h₁ h₂
    · rcases List.mem_cons.mp hl with rfl | hl
      · rw [dropCR_of_not_mem hr]
        exact ⟨hn, hr, h₂⟩
      · exact scanFrom_tokens (List.not_mem_nil _) (List.not_mem_nil _) hrest.2 l hl
    · cases hl
    · exact scanFrom_tokens (by simp [hn, Ne.symm h₁]) (by simp [hr, hrest.1]) hrest.2 l hl

theorem scanLines_tokens {s : String} (h : '\r' ∉ s.toList) :
    ∀ l ∈ scanLines s, '\n' ∉ l.toList ∧ '\r' ∉ l.toList ∧ l.utf8ByteSize < maxScanTokenSize :=
  scanFrom_tokens (List.not_mem_nil _) (List.not_mem_nil _) h

end GoFabric8
