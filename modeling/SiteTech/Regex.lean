import SiteTech.Regex.Reader
import SiteTech.Regex.Search

namespace SiteTech

/-- A pattern that has been read: its source and its program. -/
structure Regex where
  source : String
  program : Regex.Program

namespace Regex

/-- Reads a pattern; `none` if the source is no pattern. -/
def ofSource? (ignoreCase : Bool) (source : String) : Option Regex :=
  (Node.ofPattern? ignoreCase source.toList).map fun n => ⟨source, Program.ofNode n⟩

/-- Whether the pattern matches somewhere in a text. -/
def isMatch (r : Regex) (text : String) : Bool :=
  (r.program.search text.toList.toArray true 0).isSome

/-- The groups of all matches in a text, the whole match first; `none` for a group that has no part
in its match. -/
def captures (r : Regex) (text : String) : List (List (Option String)) :=
  let hay := text.toList.toArray
  (r.program.matchesFrom hay (2 * hay.size + 3) 0 none).map fun m =>
    m.groups.map fun g => g.map fun (a, b) => String.ofList (hay.extract a b).toList

end Regex

end SiteTech
