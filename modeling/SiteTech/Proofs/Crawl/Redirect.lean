import SiteTech.Proofs.Crawl.Levels
import SiteTech.Proofs.Url.Basis
import SiteTech.Proofs.Url.Plain
import Mathlib.Data.List.Basic

namespace SiteTech

namespace Link

/-- The addresses that the anchors of a page name. -/
def hrefs (html : String) : List String :=
  let document := Html.Document.ofText html
  ((anchors.select document).filterMap document.element?).filterMap fun e => e.attribute? "href"

theorem ofPage_eq (html : String) (page : Url) :
    ofPage html page = ((hrefs html).filterMap fun href => resolve href page).foldl addNew [] := by
  simp only [ofPage, hrefs, List.filterMap_filterMap, Option.bind_assoc]

/-- The same links are followed from two addresses on the same host and port if each link takes the same
from both. -/
theorem ofPage_congr {html : String} {u v : Url} (hhost : u.hostText = v.hostText) (hport : u.port = v.port)
    (hbasis : ∀ href ∈ hrefs html,
      u.basis (Text.trimList href.toList) = v.basis (Text.trimList href.toList)) :
    ofPage html u = ofPage html v := by
  have hresolve : ∀ href ∈ hrefs html, resolve href u = resolve href v :=
    fun href hhref => resolve_congr hhost hport (hbasis href hhref)
  rw [ofPage_eq, ofPage_eq, List.filterMap_congr hresolve]

end Link

/-- Adds the address where a page was found to links, if it is another one than that which was asked
for. -/
def Evidence.addFoundAt (e : Evidence) (url : String) (page : Url) (links : List String) : List String :=
  if Address.normalize e.page.url = Address.normalize url then links
  else links ++ (Link.resolve (Address.normalize e.page.url) page).toList

/-- The links of a page are what its anchors lead to from the address that was asked for, each once, and
the address where the page was found adds itself and nothing else. If that is an address of the same
site, each link that takes the same from both addresses is followed as from there, and if all links of
the page do, they are those that the page has there. -/
theorem Evidence.linksFrom_of_found (e : Evidence) {url : String} {page : Url}
    (hpage : Url.ofText url = .ok page) :
    e.linksFrom url = e.addFoundAt url page
      ((Link.hrefs e.html).filterMap fun href => Link.resolve href page).eraseDups ∧
    ∀ found, Url.ofText e.page.url = .ok found → Link.sameSite found page = true →
      (∀ href : String, page.basis (Text.trimList href.toList) = found.basis (Text.trimList href.toList) →
        Link.resolve href page = Link.resolve href found) ∧
      ((∀ href ∈ Link.hrefs e.html,
          page.basis (Text.trimList href.toList) = found.basis (Text.trimList href.toList)) →
        e.linksFrom url = e.addFoundAt url page (Link.ofPage e.html found)) := by
  have hlinks : e.linksFrom url = e.addFoundAt url page (Link.ofPage e.html page) := by
    simp only [linksFrom, hpage, addFoundAt]
  refine ⟨?_, fun found _ hsite => ?_⟩
  · rw [hlinks, Link.ofPage_eq, Link.foldl_addNew]
  · simp only [Link.sameSite, Bool.and_eq_true, beq_iff_eq] at hsite
    obtain ⟨hhost, hport⟩ := hsite
    refine ⟨fun href => Link.resolve_congr hhost.symm hport.symm, fun hbasis => ?_⟩
    rw [hlinks, Link.ofPage_congr hhost.symm hport.symm hbasis]

private theorem resolve_examplePage {link : String} {segments target : List (List Char)}
    (htrim : Text.trimList link.toList = link.toList)
    (habsolute : Url.relativePart "http".toList link.toList = none)
    (hread : Url.ofText link = .ok (Url.examplePage target))
    (hsame : Link.canonical (Url.examplePage target) = link) :
    Link.resolve link (Url.examplePage segments) = some link := by
  have hne : link.toList ≠ [] := by
    intro hnil
    rw [hnil] at habsolute
    cases habsolute
  have hjoin : (Url.examplePage segments).join link.toList = .ok (Url.examplePage target) := by
    rw [Url.join_of_relativePart_eq_none habsolute]
    exact hread
  have hfollowed : ((Url.examplePage target).isWeb &&
      Link.sameSite (Url.examplePage target) (Url.examplePage segments)) = true := rfl
  simp only [Link.resolve, htrim, hjoin, List.isEmpty_iff, if_neg hne, hfollowed, if_true, hsame]

/-- The page `/a`, which is found at `/b` and has a link from the root and one from its directory. -/
def movedPage : Evidence :=
  Evidence.ofPage "http://example.com/b" "<body><a href=/x></a><a href=y></a></body>"

theorem movedPage_links :
    movedPage.linksFrom "http://example.com/a" =
      ["http://example.com/x", "http://example.com/y", "http://example.com/b"] := by
  have hpage : Url.ofText "http://example.com/a" = .ok (Url.examplePage ["a".toList]) :=
    Url.ofText_examplePage "a".toList [] (by decide)
  have hfound : Url.ofText "http://example.com/b" = .ok (Url.examplePage ["b".toList]) :=
    Url.ofText_examplePage "b".toList [] (by decide)
  have hnormal : Address.normalize movedPage.page.url = "http://example.com/b" := by decide
  have hasked : Address.normalize "http://example.com/a" = "http://example.com/a" := by decide
  have htarget : Link.resolve "http://example.com/b" (Url.examplePage ["a".toList]) =
      some "http://example.com/b" :=
    resolve_examplePage (by decide) (by decide) hfound (by decide +kernel)
  have hhrefs : Link.hrefs movedPage.html = ["/x", "y"] := by decide +kernel
  have hlinks : Link.ofPage movedPage.html (Url.examplePage ["b".toList]) =
      ["http://example.com/x", "http://example.com/y"] := by decide +kernel
  have hbasis : ∀ href ∈ Link.hrefs movedPage.html,
      (Url.examplePage ["a".toList]).basis (Text.trimList href.toList) =
        (Url.examplePage ["b".toList]).basis (Text.trimList href.toList) := by
    rw [hhrefs]
    decide
  have hthere := ((movedPage.linksFrom_of_found hpage).2 _ hfound (by decide)).2 hbasis
  rw [hthere, hlinks, Evidence.addFoundAt, hnormal, hasked, htarget]
  decide

/-- The start page, which is found in a directory and has a link from there. -/
def localizedPage : Evidence :=
  Evidence.ofPage "http://example.com/en/" "<body><a href=next></a></body>"

/-- The link leads to the directory of the address that was asked for. -/
theorem localizedPage_links :
    Url.ofText "http://example.com" = .ok (Url.examplePage [[]]) ∧
      Url.ofText localizedPage.page.url = .ok (Url.examplePage ["en".toList, []]) ∧
      Link.sameSite (Url.examplePage ["en".toList, []]) (Url.examplePage [[]]) = true ∧
      localizedPage.linksFrom "http://example.com" =
        ["http://example.com/next", "http://example.com/en"] ∧
      Link.ofPage localizedPage.html (Url.examplePage ["en".toList, []]) = ["http://example.com/en/next"] := by
  have hfound : Url.ofText "http://example.com/en/" = .ok (Url.examplePage ["en".toList, []]) :=
    Url.ofText_examplePage "en".toList [[]] (by decide)
  have hstripped : Url.ofText "http://example.com/en" = .ok (Url.examplePage ["en".toList]) :=
    Url.ofText_examplePage "en".toList [] (by decide)
  have htarget : Link.resolve "http://example.com/en" (Url.examplePage [[]]) = some "http://example.com/en" :=
    resolve_examplePage (by decide) (by decide) hstripped (by decide +kernel)
  have hnormal : Address.normalize localizedPage.page.url = "http://example.com/en" := by decide
  have hstart : Address.normalize "http://example.com" = "http://example.com" := by decide
  have hlinks : Link.ofPage localizedPage.html (Url.examplePage [[]]) = ["http://example.com/next"] := by
    decide +kernel
  refine ⟨Url.ofText_exampleHome, hfound, by decide, ?_, by decide +kernel⟩
  simp only [Evidence.linksFrom, Url.ofText_exampleHome, hnormal, hstart, hlinks, htarget]
  rfl

end SiteTech
