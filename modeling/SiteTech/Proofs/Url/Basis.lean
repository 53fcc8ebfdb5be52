import SiteTech.Crawl.Link
import SiteTech.Proofs.Url.Reading

namespace SiteTech.Url

/-- The part of a link that is read on a page with a scheme, unless the link is an address itself. -/
def relativePart (scheme link : List Char) : Option (List Char) :=
  match readScheme (significant link) with
  | none => some (significant link)
  | some (name, rest) =>
    if !isFileScheme name && isSpecial name && rest.length - (rest.dropWhile (isSlash true)).length < 2 &&
      scheme == name then some rest
    else none

/-- What a link without scheme takes from the path of its page: the whole path if it has none, nothing
of a path if its own begins with a slash, and the directory otherwise. -/
def takenPath (u : Url) (s : List Char) : Path :=
  match u.path with
  | .unstructured text => .unstructured text
  | .segments l =>
    match s with
    | [] => .segments l
    | c :: _ =>
      if c = '?' ∨ c = '#' then .segments l
      else if isSlash true c then .segments []
      else .segments l.dropLast

/-- What a link takes from the scheme and the path of its page. -/
def basis (u : Url) (link : List Char) : Option (List Char × Path) :=
  (relativePart u.scheme link).map fun s => (u.scheme, u.takenPath s)

/-- The parts of an address that tell the page. -/
def pageParts (u : Url) : List Char × Option (List Char) × Option Nat × Path :=
  (u.scheme, u.hostText, u.port, u.path)

variable {u v : Url}

theorem isBase_eq_of_takenPath {s : List Char} (h : u.takenPath s = v.takenPath s) :
    u.isBase = v.isBase := by
  unfold takenPath at h
  unfold isBase
  cases hu : u.path <;> cases hv : v.path <;> rw [hu, hv] at h <;> grind

private theorem path_eq_of_takenPath {s : List Char} (h : u.takenPath s = v.takenPath s)
    (hs : ∀ c ∈ s.head?, c = '?' ∨ c = '#') : u.path = v.path := by
  unfold takenPath at h
  cases s with
  | nil => cases hu : u.path <;> cases hv : v.path <;> rw [hu, hv] at h <;> exact h
  | cons c s =>
    have hc : c = '?' ∨ c = '#' := hs c rfl
    simp only [if_pos hc] at h
    cases hu : u.path <;> cases hv : v.path <;> rw [hu, hv] at h <;> exact h

private theorem directory_eq_of_takenPath {c : Char} {s : List Char}
    (h : u.takenPath (c :: s) = v.takenPath (c :: s)) (hc : ¬(c = '?' ∨ c = '#'))
    (hslash : isSlash true c ≠ true) : u.path.segmentList.dropLast = v.path.segmentList.dropLast := by
  simp only [takenPath, if_neg hc, if_neg hslash] at h
  cases hu : u.path <;> cases hv : v.path <;> rw [hu, hv] at h <;> grind [Path.segmentList]

theorem pageParts_congr (hscheme : u.scheme = v.scheme) (hhost : u.hostText = v.hostText)
    (hport : u.port = v.port) (hpath : u.path = v.path) : u.pageParts = v.pageParts := by
  rw [pageParts, hscheme, hhost, hport, hpath]
  rfl

/-- A link without scheme leads to the same page from two addresses that agree in what it takes. -/
theorem readRelative_congr {s : List Char} (hscheme : u.scheme = v.scheme)
    (hhost : u.hostText = v.hostText) (hport : u.port = v.port) (hpath : u.takenPath s = v.takenPath s) :
    (readRelative u s).map pageParts = (readRelative v s).map pageParts := by
  unfold readRelative
  rw [hscheme]
  split
  · have hwhole := path_eq_of_takenPath hpath (by simp)
    exact congrArg Except.ok (pageParts_congr rfl hhost hport hwhole)
  · have hwhole := path_eq_of_takenPath hpath (by simp)
    exact congrArg Except.ok (pageParts_congr rfl hhost hport hwhole)
  · have hwhole := path_eq_of_takenPath hpath (by simp)
    exact congrArg Except.ok (pageParts_congr rfl hhost hport hwhole)
  · rfl
  · rename_i c rest hquestion hhash _
    by_cases hslash : isSlash true c = true
    · rw [if_pos hslash, if_pos hslash]
      dsimp only
      split
      · rfl
      · exact congrArg Except.ok (pageParts_congr rfl hhost hport rfl)
    · rw [if_neg hslash, if_neg hslash]
      have hdirectory := directory_eq_of_takenPath hpath (by simpa using ⟨hquestion, hhash⟩) hslash
      rw [hdirectory]
      exact congrArg Except.ok (pageParts_congr rfl hhost hport rfl)

/-- A link that takes nothing is read as an address. -/
theorem join_of_relativePart_eq_none {link : List Char} (h : relativePart u.scheme link = none) :
    u.join link = read none link := by
  unfold relativePart at h
  unfold join read
  dsimp only
  split at h
  · cases h
  · rename_i name rest hname
    rw [hname]
    dsimp only
    unfold readWithScheme
    split
    · rfl
    · rename_i hfile
      split
      · rename_i hspecial
        have hother : ¬(rest.length - (rest.dropWhile (isSlash true)).length < 2 ∧ u.scheme = name) := by
          rintro ⟨hshort, hscheme⟩
          simp [hfile, hspecial, hshort, hscheme] at h
        have habsolute : ¬(decide (rest.length - (rest.dropWhile (isSlash true)).length < 2) &&
            Option.map (·.scheme) (some u) == some name) = true := by
          simpa using hother
        dsimp only
        rw [if_neg habsolute, if_neg (by simp)]
      · rfl

/-- A link with the scheme of its page and without two slashes is read without its scheme. -/
theorem join_of_relativePart_eq_some {link name rest s : List Char}
    (hname : readScheme (significant link) = some (name, rest)) (h : relativePart u.scheme link = some s) :
    u.join link = readRelative u s := by
  unfold relativePart at h
  rw [hname] at h
  dsimp only at h
  split at h
  · rename_i hcond
    cases h
    simp only [Bool.and_eq_true, Bool.not_eq_true', decide_eq_true_eq, beq_iff_eq] at hcond
    obtain ⟨⟨⟨hfile, hspecial⟩, hshort⟩, hscheme⟩ := hcond
    simp [join, read, hname, readWithScheme, hfile, hspecial, hshort, hscheme]
  · cases h

/-- A link leads to the same page from two addresses on the same host and port that agree in what it
takes. -/
theorem join_congr {link : List Char} (hhost : u.hostText = v.hostText) (hport : u.port = v.port)
    (hbasis : u.basis link = v.basis link) :
    (u.join link).map pageParts = (v.join link).map pageParts := by
  unfold basis at hbasis
  cases hu : relativePart u.scheme link with
  | none =>
    cases hv : relativePart v.scheme link with
    | none => rw [join_of_relativePart_eq_none hu, join_of_relativePart_eq_none hv]
    | some t =>
      rw [hu, hv] at hbasis
      cases hbasis
  | some s =>
    rw [hu] at hbasis
    obtain ⟨t, hv, hsame⟩ := Option.map_eq_some_iff.1 hbasis.symm
    rw [Prod.mk.injEq] at hsame
    obtain ⟨hscheme, hpath⟩ := hsame
    rw [hscheme, hu] at hv
    cases hv
    have hread := readRelative_congr hscheme.symm hhost hport hpath.symm
    cases hname : readScheme (significant link) with
    | some parts =>
      rw [join_of_relativePart_eq_some hname hu, join_of_relativePart_eq_some hname (hscheme ▸ hu), hread]
    | none =>
      have hbase := isBase_eq_of_takenPath hpath.symm
      have hs : significant link = s := by
        rw [relativePart, hname] at hu
        exact Option.some.inj hu
      rw [hs] at hname
      simp only [join, read, hname, hs, hbase]
      split
      · exact hread
      · split
        · exact hread
        · rfl

end SiteTech.Url

namespace SiteTech.Link

theorem canonical_congr {u v : Url} (h : u.pageParts = v.pageParts) : canonical u = canonical v := by
  simp only [Url.pageParts, Prod.mk.injEq] at h
  obtain ⟨hscheme, hhost, hport, hpath⟩ := h
  rw [canonical, canonical, Url.hostAndPort, Url.hostAndPort, hscheme, hhost, hport, hpath]

/-- A link is followed to the same page from two addresses on the same host and port that agree in what it
takes. -/
theorem resolve_congr {link : String} {u v : Url} (hhost : u.hostText = v.hostText) (hport : u.port = v.port)
    (hbasis : u.basis (Text.trimList link.toList) = v.basis (Text.trimList link.toList)) :
    resolve link u = resolve link v := by
  have hjoin := Url.join_congr hhost hport hbasis
  unfold resolve
  dsimp only
  split
  · rfl
  · generalize u.join (Text.trimList link.toList) = fromU at hjoin
    generalize v.join (Text.trimList link.toList) = fromV at hjoin
    cases fromU with
    | error e =>
      cases fromV with
      | error e' => rfl
      | ok target => cases hjoin
    | ok target =>
      cases fromV with
      | error e => cases hjoin
      | ok target' =>
        have hparts : target.pageParts = target'.pageParts := Except.ok.inj hjoin
        have hcanonical := canonical_congr hparts
        simp only [Url.pageParts, Prod.mk.injEq] at hparts
        obtain ⟨hscheme, hhost', hport', -⟩ := hparts
        have hfollow : (target.isWeb && sameSite target u) = (target'.isWeb && sameSite target' v) := by
          simp only [Url.isWeb, sameSite, hscheme, hhost', hport', hhost, hport]
        simp only [hfollow, hcanonical]

end SiteTech.Link
