import WitnessedTransfer.Directory.Table

/-! What an agent knows of witnesses, and who wants to be told: the parties that have asked for
the table, in the order of their names. A table that comes in takes the place of the old one as
a whole. -/
namespace WitnessedTransfer

structure Directory where
  table : WitnessTable
  interested : List Did
deriving DecidableEq

namespace Directory

def empty : Directory := ⟨.empty, []⟩

instance : Inhabited Directory := ⟨empty⟩

def register (d : Directory) (info : WitnessInfo) : Directory :=
  { d with table := d.table.register info }

def replaceTable (d : Directory) (table : WitnessTable) : Directory := { d with table }

def insertDid (did : Did) : List Did → List Did
  | [] => [did]
  | d :: rest =>
    if did = d then d :: rest
    else if did.text < d.text then did :: d :: rest
    else d :: insertDid did rest

def remember (d : Directory) (did : Did) : Directory :=
  { d with interested := insertDid did d.interested }

def forget (d : Directory) (dids : List Did) : Directory :=
  { d with interested := d.interested.filter (· ∉ dids) }

end Directory
end WitnessedTransfer
