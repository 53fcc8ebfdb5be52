import SiteTech.Html.TagEvidence
import SiteTech.Proofs.Html.Tags
import SiteTech.Proofs.Table

namespace SiteTech.Html

namespace TagEvidence

/-- The evidence of start tags. -/
def ofTags (tags : List Tag) : TagEvidence := tags.foldl (fun e tag => e.add (.startTag tag)) empty

/-- The contents of the meta tags with a name. -/
def contents (e : TagEvidence) (key : String) : List String := (e.metas.get? key).getD []

/-- What a tag says about the scripts of its page. -/
def script? (tag : Tag) : Option String := if tag.name = "script" then scriptSource? tag else none

/-- What a tag says about its page under a name. -/
def content? (key : String) (tag : Tag) : Option String :=
  if tag.name = "meta" then
    match metaEntry? tag with
    | some (name, content) => if name = key then some content else none
    | none => none
  else none

/-- Nothing but start tags is evidence. -/
theorem foldl_add (tokens : List Token) (e : TagEvidence) :
    tokens.foldl add e = (tokens.filterMap Token.startTag?).foldl (fun e tag => e.add (.startTag tag)) e := by
  induction tokens generalizing e with
  | nil => rfl
  | cons t tokens ih =>
    rw [List.foldl_cons, ih]
    cases t <;> rfl

theorem ofTags_concat (tags : List Tag) (tag : Tag) : ofTags (tags ++ [tag]) = (ofTags tags).add (.startTag tag) := by
  rw [ofTags, List.foldl_concat, ← ofTags]

theorem scripts_add (e : TagEvidence) (tag : Tag) :
    (e.add (.startTag tag)).scripts = e.scripts ++ (script? tag).toList := by
  unfold add script?
  by_cases hscript : tag.name = "script"
  · simp only [if_pos hscript]
    cases scriptSource? tag <;> simp
  · simp only [if_neg hscript]
    split
    · split <;> simp
    · simp

theorem get?_metas_add (e : TagEvidence) (tag : Tag) (key : String) :
    (e.add (.startTag tag)).metas.get? key =
      match content? key tag with
      | some content => some (e.contents key ++ [content])
      | none => e.metas.get? key := by
  unfold add content?
  by_cases hmeta : tag.name = "meta"
  · have hscript : tag.name ≠ "script" := by rw [hmeta]; decide
    simp only [if_pos hmeta, if_neg hscript]
    cases metaEntry? tag with
    | none => rfl
    | some entry =>
      obtain ⟨name, content⟩ := entry
      by_cases hname : name = key
      · subst hname
        simp [contents, Table.get?_alter_self]
      · simp [hname, Table.get?_alter_of_ne _ _ (Ne.symm hname)]
  · simp only [if_neg hmeta]
    split
    · split <;> rfl
    · rfl

theorem scripts_ofTags (tags : List Tag) : (ofTags tags).scripts = tags.filterMap script? := by
  induction tags using List.reverseRecOn with
  | nil => rfl
  | append_singleton tags tag ih =>
    rw [ofTags_concat, scripts_add, ih, List.filterMap_append, List.filterMap_cons]
    cases script? tag <;> rfl

theorem get?_metas_ofTags (tags : List Tag) (key : String) :
    (ofTags tags).metas.get? key =
      if (tags.filterMap (content? key)).isEmpty then none else some (tags.filterMap (content? key)) := by
  induction tags using List.reverseRecOn with
  | nil => rfl
  | append_singleton tags tag ih =>
    rw [ofTags_concat, get?_metas_add, List.filterMap_append, List.filterMap_cons, contents, ih]
    cases content? key tag with
    | none => simp
    | some content =>
      cases tags.filterMap (content? key) <;> simp

theorem contents_ofTags (tags : List Tag) (key : String) :
    (ofTags tags).contents key = tags.filterMap (content? key) := by
  rw [contents, get?_metas_ofTags]
  split
  · rename_i hempty
    rw [List.isEmpty_iff.1 hempty]
    rfl
  · rfl

/-- Start tags have the same evidence if they name the same scripts and have the same contents under each name. -/
theorem ofTags_eq_iff {tags tags' : List Tag} :
    ofTags tags = ofTags tags' ↔ (ofTags tags).scripts = (ofTags tags').scripts ∧
      ∀ key, (ofTags tags).contents key = (ofTags tags').contents key := by
  refine ⟨fun h => by simp [h], fun ⟨hscripts, hcontents⟩ => ?_⟩
  have hmetas : (ofTags tags).metas = (ofTags tags').metas := by
    refine Table.ext_get? fun key => ?_
    have hkey := hcontents key
    rw [contents_ofTags, contents_ofTags] at hkey
    rw [get?_metas_ofTags, get?_metas_ofTags, hkey]
  cases h : ofTags tags
  cases h' : ofTags tags'
  simp_all

/-- Tags in front of others change nothing exactly if they have no evidence. -/
theorem ofTags_append_eq_iff {tags rest : List Tag} :
    ofTags (tags ++ rest) = ofTags rest ↔ ofTags tags = empty := by
  have hempty : empty = ofTags [] := rfl
  rw [hempty, ofTags_eq_iff, ofTags_eq_iff]
  simp [scripts_ofTags, contents_ofTags]

end TagEvidence

/-- Every tag of a page is finished. -/
def FinishesTags (html : String) : Prop := (startTags (documentChars html)).2 = []

instance (html : String) : Decidable (FinishesTags html) := inferInstanceAs (Decidable (_ = _))

/-- A page that begins with a script without attributes. -/
def inlineScript (text rest : String) : String := "<script>" ++ text ++ "</script>" ++ rest

theorem TagEvidence.ofPage_eq (html : String) : ofPage html = ofTags (startTags (documentChars html)).1 := by
  rw [ofPage, Token.ofMarkup, foldl_add, filterMap_readMarkupTokens]
  rfl

/-- A byte order mark is no tag, so that it does not count. -/
theorem startTags_documentChars (html : String) :
    startTags (documentChars html) = startTags (unixLines html.toList) := by
  unfold documentChars
  dsimp only
  rw [replace_replace_eq_unixLines]
  split
  · rename_i c rest hchars
    rw [hchars]
    split
    · rename_i hmark
      have hreturn : c ≠ '\r' := by
        rintro rfl
        exact absurd hmark (by decide)
      have hbracket : c ≠ '<' := by
        rintro rfl
        exact absurd hmark (by decide)
      rw [unixLines_cons hreturn, startTags_cons hbracket]
    · rfl
  · rename_i hchars
    rw [hchars]

theorem prefix_of_prefix_append_cons {p s : List Char} {c : Char} (hc : c ∉ p) {rest : List Char}
    (h : p <+: s ++ c :: rest) : p <+: s := by
  induction p generalizing s with
  | nil => exact List.nil_prefix
  | cons d p ih =>
    obtain ⟨hd, hp⟩ := List.ne_and_not_mem_of_not_mem_cons hc
    cases s with
    | nil => exact absurd (List.cons_prefix_cons.1 h).1.symm hd
    | cons e s =>
      obtain ⟨rfl, htail⟩ := List.cons_prefix_cons.1 h
      exact List.cons_prefix_cons.2 ⟨rfl, ih hp htail⟩

/-- A text without comments in dashes has none with an end tag behind it. -/
theorem noComment_append {s : List Char} (h : ¬"<!--".toList <:+: s) :
    ¬"<!--".toList <:+: s ++ "</script>".toList := by
  induction s with
  | nil => decide
  | cons c s ih =>
    rw [List.infix_cons_iff, not_or] at h
    rw [List.cons_append, List.infix_cons_iff, not_or]
    refine ⟨fun hprefix => h.1 ?_, ih h.2⟩
    obtain ⟨rfl, htail⟩ := List.cons_prefix_cons.1 hprefix
    exact List.cons_prefix_cons.2 ⟨rfl, prefix_of_prefix_append_cons (by decide) htail⟩

theorem isClosed_scriptText {text : String} (h : ¬"<!--".toList <:+: text.toList) :
    IsClosed (unixLines (text ++ "</script>").toList) where
  last _ := by
    obtain ⟨front, hfront⟩ := exists_unixLines_append (text.toList ++ "</script".toList)
    have hwritten : (text ++ "</script>").toList = text.toList ++ "</script".toList ++ '>' :: [] := by
      rw [String.toList_append, List.append_assoc]
      rfl
    rw [hwritten, hfront, unixLines]
    simp
  noComment hcomment := by
    rw [String.toList_append] at hcomment
    exact noComment_append h (infix_of_infix_unixLines (by decide) hcomment)

theorem unixLines_inlineScript (text rest : String) :
    unixLines (inlineScript text rest).toList =
      "<script>".toList ++ (unixLines (text ++ "</script>").toList ++ unixLines rest.toList) := by
  have hopen (s : List Char) : unixLines ("<script>".toList ++ s) = "<script>".toList ++ unixLines s := rfl
  obtain ⟨front, hfront⟩ := exists_unixLines_append (text.toList ++ "</script".toList)
  have hclose (s : List Char) : text.toList ++ ("</script>".toList ++ s) =
      text.toList ++ "</script".toList ++ '>' :: s := by simp
  have hscript : (text ++ "</script>").toList = text.toList ++ ("</script>".toList ++ []) := by simp
  rw [inlineScript, String.toList_append, String.toList_append, String.toList_append, List.append_assoc,
    List.append_assoc, hopen, hscript, hclose, hclose, hfront, hfront, List.append_assoc]
  rfl

/-- The start tags of a page that begins with a script are that of the script and those of all text behind it. -/
theorem startTags_inlineScript (text rest : String) :
    (startTags (documentChars (inlineScript text rest))).1 =
      ⟨"script", [], false⟩ ::
        (startTags (unixLines (text ++ "</script>").toList ++ unixLines rest.toList)).1 := by
  have htag : readTag .name TagDraft.empty "script>".toList = some (⟨"script", [], false⟩, []) := by decide
  have hread (s : List Char) :
      readBracket false ("script>".toList ++ s) = some (.startTag ⟨"script", [], false⟩, s) := by
    have hcons : "script>".toList ++ s = 's' :: ("cript>".toList ++ s) := rfl
    rw [hcons, readBracket_cons (by decide), if_pos (by decide), ← hcons, readTag_append htag]
    rfl
  have hbracket (s : List Char) : "<script>".toList ++ s = '<' :: ("script>".toList ++ s) := rfl
  rw [startTags_documentChars, unixLines_inlineScript, hbracket, startTags_bracket (hread _)]
  rfl

namespace TagEvidence

variable {text : String}

theorem ofPage_inlineScript (text rest : String) : ofPage (inlineScript text rest) =
    ofTags (startTags (unixLines (text ++ "</script>").toList ++ unixLines rest.toList)).1 := by
  rw [ofPage_eq, startTags_inlineScript]
  rfl

/-- The evidence of a script's text comes before that of the page, if the text finishes its tags. -/
theorem ofPage_inlineScript_of_finishesTags (h : ¬"<!--".toList <:+: text.toList)
    (hdone : FinishesTags (text ++ "</script>")) (rest : String) :
    ofPage (inlineScript text rest) = ofTags ((startTags (documentChars (text ++ "</script>"))).1 ++
      (startTags (documentChars rest)).1) := by
  rw [FinishesTags, startTags_documentChars] at hdone
  rcases startTags_append (isClosed_scriptText h) with ⟨-, happend⟩ | ⟨hleft, -⟩
  · rw [ofPage_inlineScript, happend, startTags_documentChars, startTags_documentChars]
  · exact absurd hdone hleft

/-- If the text of a script does not finish its tags, then the page is lost up to a quote. -/
theorem exists_quote_of_not_finishesTags (h : ¬"<!--".toList <:+: text.toList)
    (hleft : ¬FinishesTags (text ++ "</script>")) :
    ∃ quote, IsQuote quote ∧ ∀ rest : String, quote ∉ rest.toList →
      ofPage (inlineScript text rest) = ofPage (text ++ "</script>") := by
  rw [FinishesTags, startTags_documentChars] at hleft
  rcases startTags_append (isClosed_scriptText h) with ⟨hdone, -⟩ | ⟨-, quote, hquote, hlost⟩
  · exact absurd hdone hleft
  · refine ⟨quote, hquote, fun rest hrest => ?_⟩
    have hfeed : quote ≠ '\n' := by rcases hquote with rfl | rfl <;> decide
    rw [ofPage_inlineScript, hlost _ fun hmem => hrest (mem_of_mem_unixLines hfeed hmem), ofPage_eq,
      startTags_documentChars]

/-- The text of a script that stands in front of a page does nothing to the evidence of the page, whatever the
page, exactly if the text with its end tag, read as markup, finishes its tags and has no evidence. If it finishes
its tags, then its evidence comes before that of the page; if it does not, then the page is lost up to a quote. -/
theorem inlineScript_evidence (h : ¬"<!--".toList <:+: text.toList) :
    ((∀ rest, ofPage (inlineScript text rest) = ofPage rest) ↔
        FinishesTags (text ++ "</script>") ∧ ofPage (text ++ "</script>") = empty) ∧
      (FinishesTags (text ++ "</script>") → ∀ rest,
        (ofPage (inlineScript text rest)).scripts =
            (ofPage (text ++ "</script>")).scripts ++ (ofPage rest).scripts ∧
          ∀ key, (ofPage (inlineScript text rest)).contents key =
            (ofPage (text ++ "</script>")).contents key ++ (ofPage rest).contents key) ∧
      (¬FinishesTags (text ++ "</script>") → ∃ quote, IsQuote quote ∧
        ∀ rest : String, quote ∉ rest.toList →
          ofPage (inlineScript text rest) = ofPage (text ++ "</script>")) := by
  refine ⟨?_, fun hdone rest => ?_, exists_quote_of_not_finishesTags h⟩
  · by_cases hdone : FinishesTags (text ++ "</script>")
    · simp only [ofPage_inlineScript_of_finishesTags h hdone, ofPage_eq, ofTags_append_eq_iff, hdone, true_and,
        forall_const]
    · refine ⟨fun hall => ?_, fun hboth => absurd hboth.1 hdone⟩
      -- A page without quotes is lost, and so is an empty one, although one of them has evidence.
      obtain ⟨quote, hquote, hlost⟩ := exists_quote_of_not_finishesTags h hdone
      have hempty : quote ∉ "".toList := by simp
      have hscript : quote ∉ "<script src=a>".toList := by rcases hquote with rfl | rfl <;> decide
      have hsame : ofPage "" = ofPage "<script src=a>" := by
        rw [← hall "", hlost _ hempty, ← hlost _ hscript, hall]
      have hscripts : (ofPage "").scripts ≠ (ofPage "<script src=a>").scripts := by decide
      exact absurd (congrArg scripts hsame) hscripts
  · simp only [ofPage_inlineScript_of_finishesTags h hdone, ofPage_eq, scripts_ofTags, contents_ofTags,
      List.filterMap_append, implies_true, and_self]

/-- A quoted value that a script begins goes on behind the script. -/
example : ¬FinishesTags ("document.write('<a title=\"' + name)" ++ "</script>") := by decide

/-- A script with a comparison and with tags that are no evidence. -/
def harmlessScript : String := "if (a < b) show('<br/>' + c + '</b>');"

theorem harmlessScript_adds_nothing :
    ofPage (inlineScript harmlessScript "<script src=/vue.js></script>") =
      ofPage "<script src=/vue.js></script>" := by
  have hcomment : ¬"<!--".toList <:+: harmlessScript.toList := by decide
  have hfinished : FinishesTags (harmlessScript ++ "</script>") := by decide
  have htags : (startTags (documentChars (harmlessScript ++ "</script>"))).1 = [⟨"br", [], true⟩] := by
    decide
  have hnothing : ofPage (harmlessScript ++ "</script>") = empty := by
    rw [ofPage_eq, htags]
    rfl
  exact (inlineScript_evidence hcomment).1.2 ⟨hfinished, hnothing⟩ _

/-- A script that writes a tag. -/
def writingScript : String := "document.write(\"<meta name=generator content=Ghost>\")"

/-- The tag that a script writes counts as one of the page. -/
theorem writingScript_adds_evidence :
    ¬"</script".toList <:+: Text.asciiLower writingScript.toList ∧ ¬"<!--".toList <:+: writingScript.toList ∧
      (ofPage (inlineScript writingScript "")).contents "generator" = ["Ghost"] ∧
      (ofPage "").contents "generator" = [] := by
  decide

end TagEvidence

end SiteTech.Html
