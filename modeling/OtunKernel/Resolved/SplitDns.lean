import OtunKernel.Resolved.Link

namespace OtunKernel.Resolved

open Lib

-- The text ends with a dot that ends a label, not with an escaped one.
def endsLabel (text : List Char) : Bool :=
  match text.reverse with
  | '.' :: rest => (rest.takeWhile (fun char => char == '\\')).length % 2 == 0
  | _ => false

-- The domain is the name itself, a parent of it at a label boundary, or the root.
def covers (domain name : String) : Bool :=
  let before := name.toList.take (name.toList.length - domain.toList.length)
  hasSuffix name domain && (before.isEmpty || endsLabel before || domain == ".")

section
variable {L : Type} (acceptDefaultResolvers : Bool) (name : String) (domains : L → List LinkDomain)

structure Match (link : L) (domain : LinkDomain) : Prop where
  listed : domain ∈ domains link
  eligible : domain.eligible acceptDefaultResolvers = true
  covers : covers domain.domain name = true

def Responsible (links : List L) (link : L) : Prop :=
  ∃ domain, Match acceptDefaultResolvers name domains link domain ∧
    ∀ other ∈ links, ∀ rival, Match acceptDefaultResolvers name domains other rival →
      rival.domain.length ≤ domain.domain.length

def LongestMatch (link : L) (domain : LinkDomain) : Prop :=
  Match acceptDefaultResolvers name domains link domain ∧
    ∀ rival, Match acceptDefaultResolvers name domains link rival → rival.domain.length ≤ domain.domain.length

def EquallyLong (first second : L) : Prop :=
  ∃ domain rival, LongestMatch acceptDefaultResolvers name domains first domain ∧
    LongestMatch acceptDefaultResolvers name domains second rival ∧ domain.domain.length = rival.domain.length

-- What Exchange and PreferredDomain make of a table, whatever the order of the
-- range over it.
structure SplitDns (links : List L) : Prop where
  responsible : ∀ order : List L, order.Perm links → ∀ link,
    selectByDomain acceptDefaultResolvers name domains order = some link →
      Responsible acceptDefaultResolvers name domains links link
  stable : ∀ first second : List L, first.Perm links → second.Perm links → ∀ link,
    selectByDomain acceptDefaultResolvers name domains first = some link →
      ∃ other, selectByDomain acceptDefaultResolvers name domains second = some other ∧
        EquallyLong acceptDefaultResolvers name domains link other
  preferred : ∀ order : List L, order.Perm links → preferredDomain name domains order = true →
    ∃ link ∈ links, ∃ domain ∈ domains link, domain.domain ≠ "." ∧ covers domain.domain name = true

-- Wherever an eligible domain of a link ends the name, one of its domains, as
-- long as any in the table, does at a label boundary; and wherever any domain
-- but the root does, one does at a label boundary.
structure SuffixesAtLabels (links : List L) : Prop where
  longest : ∀ link ∈ links, ∀ domain ∈ domains link, domain.eligible acceptDefaultResolvers = true →
    hasSuffix name domain.domain = true → Responsible acceptDefaultResolvers name domains links link
  preferred : ∀ link ∈ links, ∀ domain ∈ domains link, domain.domain ≠ "." → hasSuffix name domain.domain = true →
    ∃ other ∈ links, ∃ rival ∈ domains other, rival.domain ≠ "." ∧ covers rival.domain name = true

end

section
variable {L : Type} {acceptDefaultResolvers : Bool} {name : String} {domains : L → List LinkDomain}
  {links order : List L} {link other : L}

theorem hits_iff : hits acceptDefaultResolvers name domains link = true ↔
    ∃ domain ∈ domains link, domain.eligible acceptDefaultResolvers = true ∧ hasSuffix name domain.domain = true := by
  simp only [hits, List.any_eq_true, Bool.and_eq_true]

theorem preferred_domain_iff : preferredDomain name domains order = true ↔
    ∃ link ∈ order, ∃ domain ∈ domains link, domain.domain ≠ "." ∧ hasSuffix name domain.domain = true := by
  simp only [preferredDomain, List.any_eq_true, Bool.and_eq_true, bne_iff_ne]

theorem selected_hits (perm : order.Perm links) (selected : selectByDomain acceptDefaultResolvers name domains order = some link) :
    link ∈ links ∧ hits acceptDefaultResolvers name domains link = true := by
  grind [select_by_domain_eq]

theorem select_of_hits (perm : order.Perm links) (member : link ∈ links)
    (hit : hits acceptDefaultResolvers name domains link = true) :
    ∃ other, selectByDomain acceptDefaultResolvers name domains order = some other := by
  rw [select_by_domain_eq, ← Option.isSome_iff_exists]
  grind

theorem exists_order_selecting (member : link ∈ links) (hit : hits acceptDefaultResolvers name domains link = true) :
    ∃ order : List L, order.Perm links ∧ selectByDomain acceptDefaultResolvers name domains order = some link := by
  obtain ⟨before, after, rfl⟩ := List.append_of_mem member
  refine ⟨before ++ after ++ [link], ?_, ?_⟩
  · simpa [List.append_assoc] using List.Perm.append_left before (List.perm_append_singleton link after)
  · rw [select_by_domain_eq, List.reverse_append, List.reverse_singleton, List.singleton_append, List.find?_cons, hit]

theorem longest_of_responsible {domain : LinkDomain} (member : link ∈ links)
    (matched : Match acceptDefaultResolvers name domains link domain)
    (longest : ∀ other ∈ links, ∀ rival, Match acceptDefaultResolvers name domains other rival →
      rival.domain.length ≤ domain.domain.length) : LongestMatch acceptDefaultResolvers name domains link domain :=
  ⟨matched, fun rival => longest link member rival⟩

theorem equally_long_of_responsible (atLink : link ∈ links) (atOther : other ∈ links)
    (first : Responsible acceptDefaultResolvers name domains links link)
    (second : Responsible acceptDefaultResolvers name domains links other) :
    EquallyLong acceptDefaultResolvers name domains link other := by
  obtain ⟨domain, matched, longest⟩ := first
  obtain ⟨rival, rivalMatched, rivalLongest⟩ := second
  refine ⟨domain, rival, longest_of_responsible atLink matched longest,
    longest_of_responsible atOther rivalMatched rivalLongest, ?_⟩
  grind

theorem split_dns_iff (acceptDefaultResolvers : Bool) (name : String) (domains : L → List LinkDomain) (links : List L) :
    SplitDns acceptDefaultResolvers name domains links ↔ SuffixesAtLabels acceptDefaultResolvers name domains links := by
  constructor
  · intro split
    constructor
    · intro link member domain listed eligible ends
      have hit : hits acceptDefaultResolvers name domains link = true := by grind [hits_iff]
      obtain ⟨order, perm, selected⟩ := exists_order_selecting member hit
      exact split.responsible order perm link selected
    intro link member domain listed notRoot ends
    exact split.preferred links (List.Perm.refl links)
      (preferred_domain_iff.mpr ⟨link, member, domain, listed, notRoot, ends⟩)
  intro labels
  have responsible : ∀ link ∈ links, hits acceptDefaultResolvers name domains link = true →
      Responsible acceptDefaultResolvers name domains links link := by
    intro link member hit
    obtain ⟨domain, listed, eligible, ends⟩ := hits_iff.mp hit
    grind [labels.longest]
  refine ⟨?_, ?_, ?_⟩
  · intro order perm link selected
    obtain ⟨member, hit⟩ := selected_hits perm selected
    grind
  · intro first second atFirst atSecond link selected
    obtain ⟨member, hit⟩ := selected_hits atFirst selected
    obtain ⟨other, selectedOther⟩ := select_of_hits atSecond member hit
    grind [selected_hits, equally_long_of_responsible]
  grind [preferred_domain_iff, labels.preferred]

end

def officeLinks : List TransportLink :=
  [{ domain := [⟨"corp.example.com.", false⟩] }, { domain := [⟨"example.com.", false⟩] }]

theorem suffix_scan_ignores_labels :
    (∃ link ∈ officeLinks, selectByDomain false "myexample.com." TransportLink.domain officeLinks = some link ∧
      (∀ domain ∈ link.domain, covers domain.domain "myexample.com." = false) ∧
      preferredDomain "myexample.com." TransportLink.domain officeLinks = true) ∧
    selectByDomain false "a.corp.example.com." TransportLink.domain officeLinks = some { domain := [⟨"example.com.", false⟩] } ∧
    covers "corp.example.com." "a.corp.example.com." = true := by
  decide

end OtunKernel.Resolved
