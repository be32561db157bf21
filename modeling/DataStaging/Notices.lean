/-!
# Notices

Lines for an operator: what programs print while they run, and every wait and retry of the agent.
-/

namespace DataStaging

/-- Lines in the order in which they were written. -/
abbrev Notices := List String

namespace Notices

/-- Whether `part` occurs in `text`. -/
def occursIn (part : List Char) : List Char → Bool
  | [] => part.isEmpty
  | c :: rest => part.isPrefixOf (c :: rest) || occursIn part rest

/-- Whether `part` occurs in `text`. -/
def contains (text part : String) : Bool := occursIn part.toList text.toList

/-- How many lines hold `part`. -/
def countContaining (notices : Notices) (part : String) : Nat :=
  notices.countP (fun line => contains line part)

/-- The lines as they are printed, each with its line feed. -/
def printed (notices : Notices) : String := String.join (notices.map (· ++ "\n"))

end Notices

end DataStaging
