/-! Names of the things a transfer speaks of: parties, transfers and notes. Each is a text,
and texts of different kinds are kept apart by type. -/
namespace WitnessedTransfer

/-- A decentralized identifier, by which a party is known on the network. -/
structure Did where
  text : String
deriving DecidableEq, Inhabited

/-- The name of one transfer; it is also the thread all its messages carry. -/
structure TransferId where
  text : String
deriving DecidableEq, Inhabited

/-- The serial name of one note. -/
structure NoteId where
  text : String
deriving DecidableEq, Inhabited

end WitnessedTransfer
