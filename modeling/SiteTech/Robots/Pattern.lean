import SiteTech.Text.Basic

namespace SiteTech.Robots

/-- All ends of a list, from the longest to the shortest. -/
def suffixes {α : Type} : List α → List (List α)
  | [] => [[]]
  | c :: rest => (c :: rest) :: suffixes rest

/-- Matches a pattern against several rests of a path at once, of which the first is the longest. It
matches if it matches one of them. -/
def matchesSome : List Char → List (List Char) → Bool
  | _, [] => false
  | [], _ => true
  | '*' :: pattern, path :: _ => matchesSome pattern (suffixes path)
  | ['$'], paths => paths.any List.isEmpty
  | c :: pattern, paths =>
    matchesSome pattern <| paths.filterMap fun path =>
      match path with
      | d :: rest => if c = d then some rest else none
      | [] => none

/-- Whether a pattern matches a path. -/
def matchesPath (pattern path : List Char) : Bool := matchesSome pattern [path]

/-- Whether a character begins the path, the parameters or the query of an address. -/
def beginsPath (c : Char) : Bool := c == '/' || c == '?' || c == ';'

/-- Parts an address at the beginning of its path. The scheme and its slashes belong to what stands
before. -/
def partAddress (url : List Char) : List Char × List Char :=
  let (head, rest) := url.span fun c => !beginsPath c
  match head.getLast?, rest with
  | some ':', '/' :: '/' :: rest =>
    let (host, rest) := rest.span fun c => !beginsPath c
    (head ++ host, rest)
  | _, _ => (head, rest)

/-- The path of an address with its parameters and its query. Two slashes in front do not count, and
an address without a path has the path of the front page. -/
def pathOf (url : List Char) : List Char :=
  let url :=
    match url with
    | '/' :: '/' :: rest => rest
    | _ => url
  let (head, rest) := partAddress url
  if head.contains '#' then ['/']
  else
    match rest.takeWhile (· != '#') with
    | [] => ['/']
    | '/' :: path => '/' :: path
    | path => '/' :: path

end SiteTech.Robots
