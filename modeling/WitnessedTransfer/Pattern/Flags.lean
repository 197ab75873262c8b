import WitnessedTransfer.Text.Blank

/-! Flags of a pattern. They are letters between `(?` and `)` or `:`; those after a minus sign are
taken back. -/
namespace WitnessedTransfer.Pattern

/-- The flags in force that bear on which patterns are readable. -/
structure Flags where
  /-- Letters of either case are the same. -/
  anyCase : Bool
  /-- A pattern is about characters, not about bytes. -/
  unicode : Bool
  /-- Blanks and comments may stand between the parts. -/
  spaced : Bool
deriving DecidableEq

namespace Flags

def usual : Flags := ⟨false, true, false⟩

/-- All flags. Those of lines, of greed and of what a point matches make no pattern unreadable. -/
def letters : List Char := ['i', 'm', 's', 'U', 'u', 'R', 'x']

def set (on : Bool) (f : Flags) : Char → Flags
  | 'i' => { f with anyCase := on }
  | 'u' => { f with unicode := on }
  | 'x' => { f with spaced := on }
  | _ => f

/-- The flags after a change. A letter, and the minus sign, may stand in it once; something has to
follow the minus sign. -/
def changed? (change : List Char) (f : Flags) : Option Flags :=
  if change.all (· ∈ '-' :: letters) && change.Nodup && change.getLast? ≠ some '-' then
    let given := change.takeWhile (· ≠ '-')
    let taken := change.dropWhile (· ≠ '-')
    some (taken.foldl (set false) (given.foldl (set true) f))
  else none

/-- What follows blanks, and comments from `#` to the end of the line. -/
def afterSpace (inComment : Bool) : List Char → List Char
  | [] => []
  | c :: rest =>
    if inComment then afterSpace (c ≠ '\n') rest
    else if c = '#' then afterSpace true rest
    else if Text.isBlank c then afterSpace false rest
    else c :: rest

def skip (f : Flags) (cs : List Char) : List Char := if f.spaced then afterSpace false cs else cs

theorem afterSpace_length_le (inComment : Bool) (cs : List Char) :
    (afterSpace inComment cs).length ≤ cs.length := by
  fun_induction afterSpace inComment cs <;> grind

theorem skip_length_le (f : Flags) (cs : List Char) : (f.skip cs).length ≤ cs.length := by
  unfold skip
  split
  · exact afterSpace_length_le _ _
  · exact Nat.le_refl _

end Flags
end WitnessedTransfer.Pattern
