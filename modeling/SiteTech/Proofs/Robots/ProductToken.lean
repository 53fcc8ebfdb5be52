import SiteTech.Fetch.Web
import SiteTech.Proofs.Robots.Groups
import SiteTech.Proofs.Text.Basic

namespace SiteTech.Robots

/-- Characters of a product token. -/
def isTokenChar (c : Char) : Bool := Text.isAsciiLetter c || c == '-' || c == '_'

theorem isTokenChar_toLower (c : Char) : isTokenChar c.toLower = isTokenChar c := by
  by_cases hascii : c.toNat < 128
  · exact Text.of_ascii (P := fun c => isTokenChar c.toLower = isTokenChar c) (by decide) hascii
  · rw [Text.toLower_eq_self (by omega)]

theorem isTokenChar_of_mem_productToken {name : List Char} {c : Char} (h : c ∈ productToken name) :
    isTokenChar c = true :=
  List.mem_takeWhile_imp h

/-- An agent with a character that is none of a product token is named by no group. -/
theorem namesAgent_eq_false {agent : List Char} {c : Char} (hc : c ∈ agent) (hother : isTokenChar c = false)
    (name : List Char) : namesAgent agent name = false := by
  rw [namesAgent, Bool.and_eq_false_iff]
  refine .inr (Bool.eq_false_iff.2 fun hsame => ?_)
  have hlower : c.toLower ∈ Text.asciiLower (productToken name) :=
    beq_iff_eq.1 hsame ▸ List.mem_map_of_mem hc
  obtain ⟨d, hd, heq⟩ := List.mem_map.1 hlower
  have htoken := isTokenChar_of_mem_productToken hd
  rw [← isTokenChar_toLower, heq, isTokenChar_toLower, hother] at htoken
  cases htoken

/-- Such an agent keeps to the groups for all agents. -/
theorem allows_of_mem {agent : String} {c : Char} (hc : c ∈ agent.toList) (hother : isTokenChar c = false)
    (body url : String) : allows body agent url = groupsAllow namesAll body url := by
  have hnone : isNamed body agent = false := by
    rw [isNamed, List.any_eq_false]
    intro line _
    cases line with
    | agent name => simp [Directive.names, namesAgent_eq_false hc hother]
    | _ => simp [Directive.names]
  rw [allows_eq, if_neg (by simp [hnone])]

/-- An agent that is given with more behind its product token keeps to the groups for all agents, whatever the file
says of the token. So it gets the decision for its token exactly if nothing is behind it, if no group names the
token, or if the groups that do say the same as those for all agents. The name under which pages are asked for
over a network is given as a whole. -/
theorem agent_beyond_token_is_not_named (body url token rest : String)
    (hrest : ∀ c ∈ rest.toList.head?, isTokenChar c = false) :
    (allows body (token ++ rest) url =
        if rest = "" then allows body token url else groupsAllow namesAll body url) ∧
      (allows body (token ++ rest) url = allows body token url ↔
        rest = "" ∨ isNamed body token = false ∨
          groupsAllow (namesAgent token.toList) body url = groupsAllow namesAll body url) ∧
      ∀ (m : Type → Type) [Monad m] (config : Config) (network : Http.Network m) (page : Url),
        let f : WebFetcher m := ⟨{ config with userAgent := token ++ rest }, network⟩
        f.isAllowed page = f.robotsText (String.ofList page.origin) >>= fun file =>
          pure (file.elim true fun body =>
            if rest = "" then allows body token page.text else groupsAllow namesAll body page.text) := by
  have hdecision (body url : String) : allows body (token ++ rest) url =
      if rest = "" then allows body token url else groupsAllow namesAll body url := by
    split
    · rename_i hnone
      rw [hnone, String.append_empty]
    · rename_i hsome
      obtain ⟨c, others, hcons⟩ :=
        List.exists_cons_of_ne_nil fun hnil => hsome (String.toList_eq_nil_iff.1 hnil)
      have hmem : c ∈ (token ++ rest).toList := by simp [String.toList_append, hcons]
      exact allows_of_mem hmem (hrest c (by simp [hcons])) body url
  refine ⟨hdecision body url, ?_, fun m _ config network page => ?_⟩
  · rw [hdecision, allows_eq body token]
    by_cases hnone : rest = ""
    · simp [hnone]
    · cases isNamed body token with
      | true => simp [hnone, eq_comm]
      | false => simp
  · intro f
    rw [WebFetcher.isAllowed]
    refine bind_congr fun file => ?_
    cases file with
    | none => rfl
    | some body =>
      dsimp only [Option.elim]
      rw [hdecision]

/-- A crawler with its version behind its token does not find its own group. -/
theorem crawler_with_version_keeps_to_general_groups :
    let body := "User-agent: *\nDisallow: /search\n\nUser-agent: rswapcrawl\nDisallow: /\n"
    (∀ c ∈ "/1.0".toList.head?, isTokenChar c = false) ∧
      allows body ("rswapcrawl" ++ "/1.0") "http://example.com/" =
        groupsAllow namesAll body "http://example.com/" ∧
      groupsAllow namesAll body "http://example.com/" = true := by
  intro body
  have hrest : ∀ c ∈ "/1.0".toList.head?, isTokenChar c = false := by
    intro c hc
    obtain rfl : '/' = c := by simpa using hc
    decide
  obtain ⟨hdecision, -⟩ := agent_beyond_token_is_not_named body "http://example.com/" "rswapcrawl" "/1.0" hrest
  rw [if_neg (by decide)] at hdecision
  exact ⟨hrest, hdecision, by decide⟩

/-- A file that bans a product by its token does not ban it once its version is given, and one that bans the token of
the agent that is used by default does not ban this agent. -/
theorem version_lifts_ban :
    allows "User-agent: rswapcrawl\nDisallow: /private\n" "rswapcrawl" "https://example.com/private/x" = false ∧
      allows "User-agent: rswapcrawl\nDisallow: /private\n" ("rswapcrawl" ++ "/1.0")
        "https://example.com/private/x" = true ∧
      allows "User-agent: Mozilla\nDisallow: /\n" "Mozilla" "https://example.com/" = false ∧
      allows "User-agent: Mozilla\nDisallow: /\n" Config.defaultUserAgent "https://example.com/" = true := by
  decide +kernel

end SiteTech.Robots
