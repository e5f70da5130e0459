import SqlSelect.Text.CaseTable
import SqlSelect.Text.Cased
/-!
# Small and capital forms

A text is put into small or capital letters character by character, by the full mappings of
Unicode: one character may become several. The only character whose small form depends on its
neighbours is the capital sigma, which is written differently at the end of a word.
-/

namespace SqlSelect.Text

/-! ## 1. One character -/

/-- Where the runs of a case table send a code point. -/
def runImage? (runs : Array (Nat × Nat × Nat × Nat)) (n : Nat) : Option Nat :=
  (runs.find? fun (first, last, step, _) => first ≤ n && n ≤ last && (n - first) % step == 0).map
    fun (first, _, _, image) => image + (n - first)

/-- The sequence that a table of sequences lists for a code point. -/
def sequence? (sequences : Array (Nat × List Nat)) (n : Nat) : Option (List Nat) :=
  (sequences.find? fun (member, _) => member == n).map fun (_, image) => image

/-- The small form of a character, whatever stands around it. -/
def smallForm (c : Char) : List Char :=
  if c.toNat < 0x80 then [c.toLower]
  else match sequence? smallSequences c.toNat with
    | some image => image.map .ofNat
    | none => [((runImage? smallRuns c.toNat).map Char.ofNat).getD c]

/-- The capital form of a character. -/
def capitalForm (c : Char) : List Char :=
  if c.toNat < 0x80 then [c.toUpper]
  else match sequence? capitalSequences c.toNat with
    | some image => image.map .ofNat
    | none => [((runImage? capitalRuns c.toNat).map Char.ofNat).getD c]

/-! ## 2. A text -/

/-- Past the case-ignorable characters comes a cased one: here a word goes on. -/
def wordContinues (cs : List Char) : Bool :=
  match cs.dropWhile isCaseIgnorable with
  | [] => false
  | c :: _ => isCased c

/-- The small forms of a list of characters; `before` holds what precedes it, nearest first. -/
def smallForms (before : List Char) : List Char → List Char
  | [] => []
  | c :: rest =>
    (if c = 'Σ' then [if wordContinues before && !wordContinues rest then 'ς' else 'σ']
      else smallForm c) ++ smallForms (c :: before) rest

/-- The text in small letters. -/
def lowercase (s : String) : String := .ofList (smallForms [] s.toList)

/-- The text in capital letters. -/
def uppercase (s : String) : String := .ofList (s.toList.flatMap capitalForm)

end SqlSelect.Text
