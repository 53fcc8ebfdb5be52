import SiteTech.Table

namespace SiteTech

/-- How many signatures each channel has. -/
abbrev Tally := Table String Nat

namespace Tally

/-- Counts more signatures of a channel. -/
def add (t : Tally) (channel : String) (n : Nat) : Tally := t.alter channel fun old => old.getD 0 + n

/-- The count of a channel. -/
def count (t : Tally) (channel : String) : Nat := (t.get? channel).getD 0

end Tally

end SiteTech
