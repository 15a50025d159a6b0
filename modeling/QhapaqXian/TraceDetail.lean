import QhapaqXian.Basic
import QhapaqXian.Library.Occurrences

/-!
# Trace details

The rewriting of fragments and of a key's values in the detail of a trace, from `tracecmds.c`.
-/

namespace QhapaqXian

open Library

/-- The loop of `qx_replace_trace_fragment`. Each round takes a fragment out of the text, so the
length bounds the rounds. -/
def replaceFragments (needle replacement : CString) : Nat → CString → CString
  | 0, cursor => cursor
  | rounds + 1, cursor =>
    match strstr cursor needle with
    | none => cursor
    | some start =>
      cursor.take (cursor.length - start.length) ++ replacement ++
        replaceFragments needle replacement rounds (start.drop needle.length)

def qxReplaceTraceFragment (source needle replacement : CString) : CString :=
  if needle = [] then source else replaceFragments needle replacement source.length source

/-- The first value of a key, read as far as `inValue` holds, is replaced unless it is empty. -/
def replaceFirstValue (inValue : Char → Bool) (source key replacement : CString) : CString :=
  match strstr source key with
  | none => source
  | some start =>
    let valueStart := start.drop key.length
    let valueEnd := valueStart.dropWhile inValue
    if valueEnd.length = valueStart.length then source
    else source.take (source.length - start.length) ++ key ++ replacement ++ valueEnd

def qxReplaceTraceNumericValue (source key replacement : CString) : CString :=
  replaceFirstValue Char.isDigit source key replacement

def qxReplaceTraceDelimitedValue (source key replacement : CString) : CString :=
  replaceFirstValue (fun c => c != ';') source key replacement

/-- The loop of `qx_replace_trace_delimited_value_all`: the cursor, what is rewritten so far and
whether a value was changed. It ends at the end of the text, or at a text in which the key does not
occur, which it has appended by then; without fuel it is still running. -/
def replaceValues (key replacement : CString) :
    Nat → CString → CString → Bool → Option (CString × CString × Bool)
  | _, [], rewritten, changed => some ([], rewritten, changed)
  | 0, _ :: _, _, _ => none
  | fuel + 1, c :: text, rewritten, changed =>
    let cursor := c :: text
    match strstr cursor key with
    | none => some (cursor, rewritten ++ cursor, changed)
    | some start =>
      let rewritten := rewritten ++ cursor.take (cursor.length - start.length) ++ key
      let valueStart := start.drop key.length
      let value := upTo ';' valueStart
      let valueEnd := valueStart.drop value.length
      if value = [] ∨ value = replacement then
        replaceValues key replacement fuel valueEnd (rewritten ++ value) changed
      else
        replaceValues key replacement fuel valueEnd (rewritten ++ replacement) true

/-- The loop is followed by an append of what the cursor points to. -/
def qxReplaceTraceDelimitedValueAll (fuel : Nat) (source key replacement : CString) :
    Option CString :=
  (replaceValues key replacement fuel source [] false).map fun (cursor, rewritten, changed) =>
    if changed then rewritten ++ cursor else source

end QhapaqXian
