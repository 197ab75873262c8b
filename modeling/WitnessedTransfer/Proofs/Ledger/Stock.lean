import WitnessedTransfer.Proofs.Wallet.Moves

/-! What a witness does to the notes of its ledger. What it promises for a transfer stays there, what
it issues comes in, and when it closes a transfer the outputs come in the place of the inputs. A note
comes in only if no other is held by its name. -/
namespace WitnessedTransfer

namespace Step

variable {id : TransferId} {inputs outputs notes : List Note} {h h' : Holding} {e : Entry}

/-- What is promised stays in the ledger. -/
theorem promiseNotes_stock {giver : Did}
    (promised : (promiseNotes inputs outputs giver id).attempt h = .ok ((), h')) :
    h'.stock = h.stock := by
  obtain ⟨-, -, entries⟩ := promiseNotes_entries promised
  rw [Holding.stock, entries, List.map_map, Holding.stock]
  exact List.map_congr_left fun e _ => e.bare_reserve id _

theorem mem_issueNotes_stock (issued : (issueNotes notes).attempt h = .ok ((), h'))
    (distinct : (notes.map Note.id).Nodup) : e ∈ h'.stock ↔ e ∈ h.stock ∨ e ∈ notes.map Note.entry := by
  obtain ⟨unknown, entries⟩ := issueNotes_entries issued
  have all_new : Note.newTo h.ids notes = notes := by
    rw [Note.newTo_of_nodup distinct]
    exact List.filter_eq_self.mpr fun note mem => decide_eq_true (unknown note mem)
  rw [Holding.stock_of_added entries, all_new, List.mem_append]

theorem mem_moveNotes_stock {value : Decimal}
    (moved : (moveNotes id value inputs outputs).attempt h = .ok ((), h')) :
    e ∈ h'.stock ↔ e ∈ h.stock ∧ e.id ∉ inputs.map Note.id ∨ e ∈ h.brought (inputs.map Note.id) outputs :=
  Holding.mem_stock_of_exchanged (moveNotes_entries moved).2

/-- An output is held after the commit unless another note bears its name before. -/
theorem output_mem_moveNotes_stock {value : Decimal}
    (moved : (moveNotes id value inputs outputs).attempt h = .ok ((), h'))
    (distinct : (outputs.map Note.id).Nodup) {note : Note} (output : note ∈ outputs)
    (apart : note.id ∉ inputs.map Note.id) :
    note.entry ∈ h'.stock ↔ (note.id ∈ h.ids → note.entry ∈ h.stock) := by
  have kept : note.entry.id ∉ inputs.map Note.id := apart
  rw [mem_moveNotes_stock moved, Holding.mem_brought_iff distinct output apart, and_iff_left kept]
  exact or_comm.trans imp_iff_not_or.symm

end Step

end WitnessedTransfer
