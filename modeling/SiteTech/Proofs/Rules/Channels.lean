import SiteTech.Proofs.Rules.Loading
import SiteTech.Proofs.Rules.Records

namespace SiteTech

open Json (Raw Value)

/-- The field of a rule that describes a channel. -/
def Channel.field : Channel → String
  | .url => "url"
  | .html => "html"
  | .scripts => "scripts"
  | .cookies => "cookies"
  | .headers => "headers"
  | .metas => "meta"
  | .js => "js"
  | .dns => "dns"
  | .excludes => "excludes"
  | .implies => "implies"

theorem Channel.field_injective {channel other : Channel} (h : channel.field = other.field) : channel = other := by
  cases channel <;> cases other <;> first | rfl | exact absurd h (by decide)

/-- A channel has a field of its own. -/
theorem Channel.field_notMem (channel : Channel) :
    channel.field ∉ ["cats", "website", "icon", "cpe", "dom", "certIssuer"] := by
  cases channel <;> decide

namespace Channels

variable {α β : Type}

/-- Puts something in a channel. -/
def put (c : Channels α) : Channel → α → Channels α
  | .url, a => { c with url := a }
  | .html, a => { c with html := a }
  | .scripts, a => { c with scripts := a }
  | .cookies, a => { c with cookies := a }
  | .headers, a => { c with headers := a }
  | .metas, a => { c with metas := a }
  | .js, a => { c with js := a }
  | .dns, a => { c with dns := a }
  | .excludes, a => { c with excludes := a }
  | .implies, a => { c with implies := a }

theorem get_put_self (c : Channels α) (channel : Channel) (a : α) : (c.put channel a).get channel = a := by
  cases channel <;> rfl

theorem get_put_of_ne (c : Channels α) {channel other : Channel} (a : α) (h : other ≠ channel) :
    (c.put channel a).get other = c.get other := by
  cases channel <;> cases other <;> first | rfl | exact absurd rfl h

theorem get_map (f : α → β) (c : Channels α) (channel : Channel) : (c.map f).get channel = f (c.get channel) := by
  cases channel <;> rfl

end Channels

namespace TechRule

/-- A rule is what the fields of a record say. -/
structure IsReadFrom (rule : TechRule) (fields : List (String × Raw)) : Prop where
  cats : readField fields "cats" [] readCats = some rule.cats
  website : readField fields "website" none (readNullable Raw.string?) = some rule.website
  icon : readField fields "icon" none (readNullable Raw.string?) = some rule.icon
  cpe : readField fields "cpe" none (readNullable Raw.string?) = some rule.cpe
  channels : ∀ channel : Channel,
    readField fields channel.field none (readNullable readSpec) = some (rule.channels.get channel)
  dom : readField fields "dom" none (readNullable (Raw.value? fieldDepth)) = some rule.dom
  certIssuer : readField fields "certIssuer" none (readNullable Raw.string?) = some rule.certIssuer

theorem ofRaw?_eq_some_iff {r : Raw} {fields : List (String × Raw)} (hfields : r.fields? fieldNames = some fields)
    {rule : TechRule} : ofRaw? r = some rule ↔ rule.IsReadFrom fields := by
  rw [ofRaw?, hfields, Option.bind_eq_bind, Option.bind_some]
  -- The fields are read one after the other, so each way takes them in this order.
  constructor
  · intro h
    obtain ⟨cats, hcats, h⟩ := Option.bind_eq_some_iff.1 h
    obtain ⟨website, hwebsite, h⟩ := Option.bind_eq_some_iff.1 h
    obtain ⟨icon, hicon, h⟩ := Option.bind_eq_some_iff.1 h
    obtain ⟨cpe, hcpe, h⟩ := Option.bind_eq_some_iff.1 h
    obtain ⟨url, hurl, h⟩ := Option.bind_eq_some_iff.1 h
    obtain ⟨html, hhtml, h⟩ := Option.bind_eq_some_iff.1 h
    obtain ⟨scripts, hscripts, h⟩ := Option.bind_eq_some_iff.1 h
    obtain ⟨cookies, hcookies, h⟩ := Option.bind_eq_some_iff.1 h
    obtain ⟨headers, hheaders, h⟩ := Option.bind_eq_some_iff.1 h
    obtain ⟨metas, hmetas, h⟩ := Option.bind_eq_some_iff.1 h
    obtain ⟨dom, hdom, h⟩ := Option.bind_eq_some_iff.1 h
    obtain ⟨js, hjs, h⟩ := Option.bind_eq_some_iff.1 h
    obtain ⟨dns, hdns, h⟩ := Option.bind_eq_some_iff.1 h
    obtain ⟨certIssuer, hcertIssuer, h⟩ := Option.bind_eq_some_iff.1 h
    obtain ⟨excludes, hexcludes, h⟩ := Option.bind_eq_some_iff.1 h
    obtain ⟨implies, himplies, h⟩ := Option.bind_eq_some_iff.1 h
    cases h
    exact ⟨hcats, hwebsite, hicon, hcpe, fun channel => by cases channel <;> assumption, hdom, hcertIssuer⟩
  · intro h
    refine Option.bind_eq_some_iff.2 ⟨_, h.cats, ?_⟩
    refine Option.bind_eq_some_iff.2 ⟨_, h.website, ?_⟩
    refine Option.bind_eq_some_iff.2 ⟨_, h.icon, ?_⟩
    refine Option.bind_eq_some_iff.2 ⟨_, h.cpe, ?_⟩
    refine Option.bind_eq_some_iff.2 ⟨_, h.channels .url, ?_⟩
    refine Option.bind_eq_some_iff.2 ⟨_, h.channels .html, ?_⟩
    refine Option.bind_eq_some_iff.2 ⟨_, h.channels .scripts, ?_⟩
    refine Option.bind_eq_some_iff.2 ⟨_, h.channels .cookies, ?_⟩
    refine Option.bind_eq_some_iff.2 ⟨_, h.channels .headers, ?_⟩
    refine Option.bind_eq_some_iff.2 ⟨_, h.channels .metas, ?_⟩
    refine Option.bind_eq_some_iff.2 ⟨_, h.dom, ?_⟩
    refine Option.bind_eq_some_iff.2 ⟨_, h.channels .js, ?_⟩
    refine Option.bind_eq_some_iff.2 ⟨_, h.channels .dns, ?_⟩
    refine Option.bind_eq_some_iff.2 ⟨_, h.certIssuer, ?_⟩
    refine Option.bind_eq_some_iff.2 ⟨_, h.channels .excludes, ?_⟩
    refine Option.bind_eq_some_iff.2 ⟨_, h.channels .implies, ?_⟩
    rfl

/-- A rule with another description of a channel. -/
def putSpec (rule : TechRule) (channel : Channel) (spec : Option Spec) : TechRule :=
  { rule with channels := rule.channels.put channel spec }

/-- A value that is put in the field of a channel is read there, and the rest of the rule stays. -/
theorem ofRaw?_put {r r' v : Raw} {channel : Channel} (hput : PutsField fieldNames channel.field v r r')
    {rule : TechRule} (hrule : ofRaw? r = some rule) :
    ofRaw? r' = (readNullable readSpec v).map (rule.putSpec channel) := by
  obtain ⟨fields, fields', hfields, hfields', hfield, hothers⟩ := hput
  have hread := (ofRaw?_eq_some_iff hfields).1 hrule
  cases hspec : readNullable readSpec v with
  | none =>
    rw [Option.map_none, Option.eq_none_iff_forall_ne_some]
    intro rule' hrule'
    have hchannel := ((ofRaw?_eq_some_iff hfields').1 hrule').channels channel
    rw [readField_of_fieldOf hfield, hspec] at hchannel
    cases hchannel
  | some spec =>
    have hcongr {α : Type} {name : String} {default : α} {read : Raw → Option α}
        (hname : name ∈ ["cats", "website", "icon", "cpe", "dom", "certIssuer"]) :
        readField fields' name default read = readField fields name default read :=
      readField_congr (hothers name fun heq => channel.field_notMem (heq ▸ hname))
    refine (ofRaw?_eq_some_iff hfields').2
      { cats := (hcongr (by simp)).trans hread.cats
        website := (hcongr (by simp)).trans hread.website
        icon := (hcongr (by simp)).trans hread.icon
        cpe := (hcongr (by simp)).trans hread.cpe
        dom := (hcongr (by simp)).trans hread.dom
        certIssuer := (hcongr (by simp)).trans hread.certIssuer
        channels := fun other => ?_ }
    by_cases hother : other = channel
    · rw [hother, readField_of_fieldOf hfield, hspec, putSpec, Channels.get_put_self]
    · have hne : other.field ≠ channel.field := fun heq => hother (Channel.field_injective heq)
      rw [readField_congr (hothers other.field hne), hread.channels, putSpec, Channels.get_put_of_ne _ _ hother]

end TechRule

namespace RuleLibrary

/-- A library is another one with a value put in a field of a technology. -/
def PutsInTechnology (name field : String) (v r r' : Raw) : Prop :=
  ∃ fields rules rules' rule rule', r.fields? fieldNames = some fields ∧ fieldOf fields "technologies" = some rules ∧
    PutsField fieldNames "technologies" rules' r r' ∧ PutsEntry name rule rule' rules rules' ∧
    PutsField TechRule.fieldNames field v rule rule'

/-- A library with another rule for a technology. -/
def putRule (library : RuleLibrary) (name : String) (rule : TechRule) : RuleLibrary :=
  { library with technologies := library.technologies.insert name rule }

theorem ofRaw?_eq {r : Raw} {fields : List (String × Raw)} (hfields : r.fields? fieldNames = some fields) :
    ofRaw? r =
      (readField fields "categories" Table.empty (readMap CategoryRule.ofRaw?)).bind fun categories =>
        (readField fields "technologies" Table.empty (readMap TechRule.ofRaw?)).map (RuleLibrary.mk categories) := by
  rw [ofRaw?, hfields]
  simp only [Option.map_eq_bind]
  rfl

/-- A value that is put in the field of a channel of a technology changes the rule of the technology alone. -/
theorem ofRaw?_put {name : String} {channel : Channel} {v r r' : Raw}
    (hput : PutsInTechnology name channel.field v r r') {library : RuleLibrary} (hlibrary : ofRaw? r = some library) :
    ∃ rule, library.technologies.get? name = some rule ∧
      ofRaw? r' = (readNullable readSpec v).map fun spec => library.putRule name (rule.putSpec channel spec) := by
  obtain ⟨fields, rules, rules', old, new, hfields, hrules, ⟨before, after, hbefore, hafter, hrules', hothers⟩, hentry,
    hfield⟩ := hput
  cases hfields.symm.trans hbefore
  rw [ofRaw?_eq hfields, readField_of_fieldOf hrules] at hlibrary
  obtain ⟨categories, hcategories, h⟩ := Option.bind_eq_some_iff.1 hlibrary
  obtain ⟨technologies, htechnologies, rfl⟩ := Option.map_eq_some_iff.1 h
  obtain ⟨rule, hrule, hget, hread⟩ := readMap_put hentry htechnologies
  refine ⟨rule, hget, ?_⟩
  rw [ofRaw?_eq hafter, readField_of_fieldOf hrules', hread, TechRule.ofRaw?_put hfield hrule,
    readField_congr (hothers "categories" (by decide)), hcategories, Option.bind_some, Option.map_map, Option.map_map]
  rfl

end RuleLibrary

end SiteTech
