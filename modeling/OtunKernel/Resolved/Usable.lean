import OtunKernel.Resolved.Tables

namespace OtunKernel.Resolved

open Lib

structure Intact (tables : Tables) : Prop where
  calm : tables.panicked = false
  unlocked : tables.locked = false
  interfaces : ∀ ifIndex link, tables.links ifIndex = some link → (tables.heap link).iif ≠ none
  routes : ∀ ifIndex ∈ tables.defaultRouteSequence, tables.links ifIndex ≠ none

structure Usable (acceptDefaultResolvers : Bool) (tables : Tables) : Prop extends Intact tables where
  served : ∀ name order link, tables.Ranges order →
    tables.selectLink acceptDefaultResolvers name order = some (some link) → tables.linkServers link ≠ none

def noEligible (acceptDefaultResolvers : Bool) (domains : List LinkDomain) : Bool :=
  domains.all (fun domain => !domain.eligible acceptDefaultResolvers)

structure Dormant (acceptDefaultResolvers : Bool) (tables : Tables) (ifIndex : Int32) (link : Nat) : Prop where
  domains : noEligible acceptDefaultResolvers (tables.heap link).domain = true
  route : acceptDefaultResolvers = true → ifIndex ∉ tables.defaultRouteSequence

structure Sound (acceptDefaultResolvers : Bool) (tables : Tables) : Prop extends Intact tables where
  allocated : ∀ ifIndex link, tables.links ifIndex = some link → link < tables.next
  distinct : ∀ ifIndex other link, tables.links ifIndex = some link → tables.links other = some link → ifIndex = other
  dormant : ∀ ifIndex link, tables.links ifIndex = some link → tables.linkServers link = none →
    Dormant acceptDefaultResolvers tables ifIndex link

variable {acceptDefaultResolvers : Bool}

section
variable {tables : Tables} {sequence : List Int32} {link : Nat}

theorem default_link_mem {selectedLink : Option Nat} (selected : tables.defaultLink sequence selectedLink = some (some link)) :
    selectedLink = some link ∨ ∃ ifIndex ∈ sequence, tables.links ifIndex = some link := by
  induction sequence generalizing selectedLink with
  | nil => exact .inl (Option.some.inj selected)
  | cons ifIndex _ ih =>
    rw [Tables.defaultLink] at selected
    cases found : tables.links ifIndex with
    | none => simp [found] at selected
    | some => grind

theorem default_link_total (selectedLink : Option Nat)
    (known : ∀ ifIndex ∈ sequence, tables.links ifIndex ≠ none) : tables.defaultLink sequence selectedLink ≠ none := by
  induction sequence generalizing selectedLink with
  | nil => exact Option.some_ne_none selectedLink
  | cons ifIndex _ ih => grind [Tables.defaultLink]

theorem no_eligible_misses {name : String} (none : noEligible acceptDefaultResolvers (tables.heap link).domain = true) :
    hits acceptDefaultResolvers name (fun link => (tables.heap link).domain) link = false := by
  rw [hits, List.any_eq_false]
  intro domain member
  have passed := List.all_eq_true.mp none domain member
  rw [Bool.not_eq_true'] at passed
  simp [passed]

theorem Sound.usable (sound : Sound acceptDefaultResolvers tables) : Usable acceptDefaultResolvers tables := by
  refine ⟨sound.toIntact, ?_⟩
  intro name order link ranges selected unserved
  rw [Tables.selectLink] at selected
  split at selected
  · rename_i first hit
    cases selected
    rw [select_by_domain_eq] at hit
    obtain ⟨entry, member, rfl⟩ := List.mem_map.mp (List.mem_reverse.mp (List.mem_of_find?_eq_some hit))
    have dormant := sound.dormant entry.1 entry.2 ((ranges.all entry.1 entry.2).mp member) unserved
    have struck := List.find?_some hit
    simp [no_eligible_misses dormant.domains] at struck
  split at selected
  · rename_i accepts
    rcases default_link_mem selected with absent | ⟨ifIndex, member, known⟩
    · contradiction
    · exact (sound.dormant ifIndex link known unserved).route accepts (List.mem_reverse.mp member)
  · cases selected

theorem exchange_calm (sound : Sound acceptDefaultResolvers tables) (name : String) (order : List (Int32 × Nat))
    (ranges : tables.Ranges order) : tables.exchange acceptDefaultResolvers name order ≠ .panicked := by
  have total : tables.selectLink acceptDefaultResolvers name order ≠ none := by
    rw [Tables.selectLink]
    grind [default_link_total, sound.routes]
  rw [Tables.exchange]
  split
  · contradiction
  · grind
  rename_i link selected
  cases servers : tables.linkServers link with
  | none => exact absurd servers (sound.usable.served name order link ranges selected)
  | some => grind

end

def TransportLink.wellFormed (link : TransportLink) : Bool :=
  link.address.all (fun address => addrFromSlice address.address) &&
    link.addressEx.all (fun address => addrFromSlice address.address)

theorem transports_total {link : TransportLink} (wellFormed : link.wellFormed = true) (bindInterface : String) :
    link.transports bindInterface ≠ none := by
  rw [TransportLink.wellFormed, Bool.and_eq_true, List.all_eq_true, List.all_eq_true] at wellFormed
  have first : link.address.mapM (LinkDNS.server bindInterface link.dnsOverTLS) ≠ none :=
    mapM_total (fun address member => by simp [LinkDNS.server, wellFormed.1 address member])
  have second : link.addressEx.mapM (LinkDNSEx.server bindInterface link.dnsOverTLS) ≠ none :=
    mapM_total (fun address member => by simp [LinkDNSEx.server, wellFormed.2 address member])
  obtain ⟨_, first⟩ := Option.ne_none_iff_exists'.mp first
  obtain ⟨_, second⟩ := Option.ne_none_iff_exists'.mp second
  simp [TransportLink.transports, first, second]

namespace Tables

def known (tables : Tables) (byIndex : Finder) (ifIndex : Int32) : Bool :=
  (tables.links ifIndex).isSome || (byIndex ifIndex).isOk

def current (tables : Tables) (ifIndex : Int32) : TransportLink := ((tables.links ifIndex).map tables.heap).getD {}

def servable (tables : Tables) (ifIndex : Int32) : Bool :=
  (tables.current ifIndex).wellFormed || ((tables.links ifIndex).bind tables.linkServers).isSome

end Tables

def Call.Safe (acceptDefaultResolvers nilErrorPanics : Bool) (tables : Tables) (byIndex : Finder) : Call → Prop
  | .setLinkDNS ifIndex _ => tables.known byIndex ifIndex = true
  | .setLinkDNSEx ifIndex _ => tables.known byIndex ifIndex = true
  | .setLinkDomains ifIndex domains => tables.known byIndex ifIndex = true ∧
      (tables.servable ifIndex = true ∨ noEligible acceptDefaultResolvers domains = true)
  | .setLinkDefaultRoute ifIndex defaultRoute => tables.known byIndex ifIndex = true ∧
      (tables.servable ifIndex = true ∨ defaultRoute = false ∨ acceptDefaultResolvers = false)
  | .setLinkDNSOverTLS ifIndex _ => tables.known byIndex ifIndex = true
  | .revertLink ifIndex => tables.known byIndex ifIndex = true ∧ ifIndex ∉ tables.defaultRouteSequence
  | .resolveHostname ifIndex lookupErr => tables.known byIndex ifIndex = true ∧
      (lookupErr = none ∨ nilErrorPanics = false)
  | .networkUpdate order => ∀ entry ∈ order, tables.stale byIndex entry = false →
      noEligible acceptDefaultResolvers (tables.heap entry.2).domain = true
  | .exchange _ _ => True

section
variable {tables : Tables} {byIndex : Finder} {ifIndex : Int32} {link : Nat} {nilErrorPanics : Bool}
  {servers : Nat → Option (List Server)} {other : Int32} {order : List (Int32 × Nat)} {defaultRoute : Bool}

structure Found (acceptDefaultResolvers : Bool) (tables : Tables) (ifIndex : Int32) (after : Tables) (link : Nat) : Prop where
  sound : Sound acceptDefaultResolvers after
  linked : after.links ifIndex = some link
  sequence : after.defaultRouteSequence = tables.defaultRouteSequence
  servable : tables.servable ifIndex = true → (after.heap link).wellFormed = true ∨ after.linkServers link ≠ none

section
variable (sound : Sound acceptDefaultResolvers tables)
include sound

theorem alloc_sound (absent : tables.links ifIndex = none) {link : TransportLink} (iif : link.iif ≠ none)
    (bare : link.domain = []) : Sound acceptDefaultResolvers (tables.alloc ifIndex link) := by
  have older : ∀ other pointer, tables.links other = some pointer → pointer ≠ tables.next :=
    fun other pointer linked => Nat.ne_of_lt (sound.allocated other pointer linked)
  refine ⟨⟨sound.calm, sound.unlocked, ?_, ?_⟩, ?_, ?_, ?_⟩
  · intro other pointer linked
    rcases put_eq_some.mp linked with ⟨rfl, rfl⟩ | ⟨_, linked⟩
    · simpa [Tables.alloc] using iif
    · simpa [Tables.alloc, older other pointer linked] using sound.interfaces other pointer linked
  · intro other member
    by_cases same : other = ifIndex
    · simp [Tables.alloc, same]
    · simpa [Tables.alloc, same] using sound.routes other member
  · intro other pointer linked
    rcases put_eq_some.mp linked with ⟨rfl, rfl⟩ | ⟨_, linked⟩
    · exact Nat.lt_succ_self _
    · exact Nat.lt_succ_of_lt (sound.allocated other pointer linked)
  · intro first second pointer one two
    rcases put_eq_some.mp one with ⟨rfl, rfl⟩ | ⟨_, one'⟩
    · rcases put_eq_some.mp two with ⟨rfl, _⟩ | ⟨_, two'⟩
      · rfl
      · grind
    rcases put_eq_some.mp two with ⟨rfl, rfl⟩ | ⟨_, two'⟩
    · grind
    · grind [sound.distinct]
  intro other pointer linked unserved
  rcases put_eq_some.mp linked with ⟨rfl, rfl⟩ | ⟨_, linked⟩
  · refine ⟨by simp [Tables.alloc, bare, noEligible], fun _ member => ?_⟩
    exact sound.routes other member absent
  have dormant := sound.dormant other pointer linked unserved
  exact ⟨by simpa [Tables.alloc, older other pointer linked] using dormant.domains, dormant.route⟩

theorem get_link_known (known : tables.known byIndex ifIndex = true) :
    ∃ after link, tables.getLink byIndex ifIndex = (after, .ok link) ∧ Found acceptDefaultResolvers tables ifIndex after link := by
  cases stored : tables.links ifIndex with
  | some link =>
    refine ⟨tables, link, by simp [Tables.getLink, stored], sound, stored, rfl, ?_⟩
    intro servable
    simpa [Tables.servable, Tables.current, stored, Bool.or_eq_true, Option.isSome_iff_ne_none] using servable
  | none =>
    obtain ⟨iif, found⟩ : ∃ iif, byIndex ifIndex = .ok iif := by
      cases asked : byIndex ifIndex with
      | error => simp [Tables.known, stored, asked, Except.isOk, Except.toBool] at known
      | ok iif => exact ⟨iif, rfl⟩
    refine ⟨tables.alloc ifIndex { iif := some iif }, tables.next, by simp [Tables.getLink, stored, found], ?_⟩
    refine ⟨alloc_sound sound stored (Option.some_ne_none iif) rfl, put_same _ _ _, rfl, fun _ => .inl ?_⟩
    simp [Tables.alloc, TransportLink.wellFormed]

structure Survives (acceptDefaultResolvers : Bool) (done : Tables × Ending) : Prop where
  sound : Sound acceptDefaultResolvers done.1
  calm : done.2 ≠ .panicked

theorem Sound.change (linked : tables.links ifIndex = some link)
    {value : TransportLink} (iif : value.iif = (tables.heap link).iif) {sequence : List Int32}
    (within : ∀ other ∈ sequence, other = ifIndex ∨ other ∈ tables.defaultRouteSequence)
    (others : ∀ other, other ≠ link → servers other = tables.linkServers other)
    (quiet : servers link = none →
      noEligible acceptDefaultResolvers value.domain = true ∧ (acceptDefaultResolvers = true → ifIndex ∉ sequence)) :
    Sound acceptDefaultResolvers { tables with
      heap := Function.update tables.heap link value
      defaultRouteSequence := sequence
      linkServers := servers } := by
  refine ⟨⟨sound.calm, sound.unlocked, ?_, ?_⟩, sound.allocated, sound.distinct, ?_⟩
  · intro other pointer present
    by_cases same : pointer = link
    · subst same
      simpa [iif] using sound.interfaces other pointer present
    · simpa [same] using sound.interfaces other pointer present
  · grind [sound.routes]
  intro other pointer present unserved
  by_cases same : pointer = link
  · subst same
    cases sound.distinct other ifIndex pointer present linked
    exact ⟨by simpa using (quiet unserved).1, (quiet unserved).2⟩
  have dormant := sound.dormant other pointer present ((others pointer same).symm.trans unserved)
  refine ⟨by simpa [same] using dormant.domains, fun accepts member => ?_⟩
  grind [dormant.route]

theorem Sound.shrink {links : Int32 → Option Nat}
    (fewer : ∀ other link, links other = some link → tables.links other = some link)
    (routes : ∀ other ∈ tables.defaultRouteSequence, links other ≠ none)
    (more : ∀ link, servers link = none → tables.linkServers link = none) :
    Sound acceptDefaultResolvers { tables with links := links, linkServers := servers } := by
  refine ⟨⟨sound.calm, sound.unlocked, ?_, routes⟩, ?_, ?_, ?_⟩
  · grind [sound.interfaces]
  · exact fun other link present => sound.allocated other link (fewer other link present)
  · grind [sound.distinct]
  intro other link present unserved
  have dormant := sound.dormant other link (fewer other link present) (more link unserved)
  exact ⟨dormant.domains, dormant.route⟩

end

theorem log_and_update_cases (tables : Tables) (iif : (tables.heap link).iif ≠ none) :
    (∃ err, (tables.heap link).wellFormed = false ∧ tables.logAndUpdate link = (tables, .returned err)) ∨
      ∃ servers, tables.logAndUpdate link =
        ({ tables with linkServers := put tables.linkServers link servers }, .returned none) := by
  obtain ⟨interface, present⟩ := Option.ne_none_iff_exists'.mp iif
  simp only [Tables.logAndUpdate, Tables.updateTransports, present]
  cases built : (tables.heap link).transports interface.name with
  | none =>
    refine .inl ⟨_, ?_, rfl⟩
    apply eq_false_of_ne_true
    intro wellFormed
    exact transports_total wellFormed interface.name built
  | some servers => grind

theorem Found.served {after : Tables} (found : Found acceptDefaultResolvers tables ifIndex after link)
    (servable : tables.servable ifIndex = true) (unserved : after.linkServers link = none)
    (malformed : (after.heap link).wellFormed = false) : False := by
  grind [found.servable]

theorem mem_route_sequence {all : List Int32}
    (member : other ∈ Tables.routeSequence ifIndex defaultRoute all) : other = ifIndex ∨ other ∈ all := by
  cases defaultRoute with
  | false => exact .inr (List.mem_filter.mp member).1
  | true =>
    rcases List.mem_append.mp member with kept | added
    · grind
    · grind

section
variable (sound : Sound acceptDefaultResolvers tables) (known : tables.known byIndex ifIndex = true)
include sound known

theorem set_link_sound {sequence : List Int32 → List Int32} {change : TransportLink → TransportLink}
    (keeps : ∀ link, (change link).iif = link.iif) (within : ∀ all, ∀ other ∈ sequence all, other = ifIndex ∨ other ∈ all)
    (quiet : ∀ after link, Found acceptDefaultResolvers tables ifIndex after link → after.linkServers link = none →
      (change (after.heap link)).wellFormed = false → noEligible acceptDefaultResolvers (change (after.heap link)).domain = true ∧
        (acceptDefaultResolvers = true → ifIndex ∉ sequence after.defaultRouteSequence)) :
    Survives acceptDefaultResolvers (tables.setLink byIndex ifIndex sequence change) := by
  obtain ⟨after, link, got, found⟩ := get_link_known sound known
  simp only [Tables.setLink, got]
  let changed := { after with
    heap := Function.update after.heap link (change (after.heap link))
    defaultRouteSequence := sequence after.defaultRouteSequence }
  have here : changed.heap link = change (after.heap link) := Function.update_self _ _ _
  have iif : (changed.heap link).iif ≠ none := by
    simpa [here, keeps] using found.sound.interfaces ifIndex link found.linked
  rcases log_and_update_cases changed iif with ⟨err, malformed, ended⟩ | ⟨servers, ended⟩
  all_goals
    rw [ended]
    refine ⟨?_, Ending.noConfusion⟩
    apply found.sound.change found.linked (keeps _) (within _)
    · grind
    · grind

theorem set_server_sound (change : TransportLink → TransportLink) (keeps : ∀ link, (change link).iif = link.iif)
    (domains : ∀ link, (change link).domain = link.domain) :
    Survives acceptDefaultResolvers (tables.setLink byIndex ifIndex id change) := by
  apply set_link_sound sound known keeps (fun _ other member => .inr member)
  intro _ link found unserved _
  have dormant := found.sound.dormant ifIndex link found.linked unserved
  rw [domains]
  exact ⟨dormant.domains, dormant.route⟩

theorem set_link_domains_sound {domains : List LinkDomain}
    (safe : tables.servable ifIndex = true ∨ noEligible acceptDefaultResolvers domains = true) :
    Survives acceptDefaultResolvers (tables.setLinkDomains byIndex ifIndex domains) := by
  refine set_link_sound sound known (fun _ => rfl) (fun _ other member => .inr member) ?_
  intro _ link found unserved malformed
  rcases safe with servable | none
  · exact (found.served servable unserved malformed).elim
  · exact ⟨none, (found.sound.dormant ifIndex link found.linked unserved).route⟩

theorem set_link_default_route_sound
    (safe : tables.servable ifIndex = true ∨ defaultRoute = false ∨ acceptDefaultResolvers = false) :
    Survives acceptDefaultResolvers (tables.setLinkDefaultRoute byIndex ifIndex defaultRoute) := by
  refine set_link_sound sound known (fun _ => rfl) (fun _ other member => mem_route_sequence member) ?_
  intro _ link found unserved malformed
  rcases safe with servable | rfl | rfl
  · exact (found.served servable unserved malformed).elim
  · refine ⟨(found.sound.dormant ifIndex link found.linked unserved).domains, fun _ member => ?_⟩
    simp [Tables.routeSequence] at member
  · exact ⟨(found.sound.dormant ifIndex link found.linked unserved).domains, fun accepts => nomatch accepts⟩

theorem revert_link_sound (unrouted : ifIndex ∉ tables.defaultRouteSequence) :
    Survives acceptDefaultResolvers (tables.revertLink byIndex ifIndex) := by
  obtain ⟨after, link, got, found⟩ := get_link_known sound known
  simp only [Tables.revertLink, got]
  have fewer : ∀ other pointer, erase after.links ifIndex other = some pointer → after.links other = some pointer := by
    grind
  have routes : ∀ other ∈ after.defaultRouteSequence, erase after.links ifIndex other ≠ none := by
    intro other member
    have different : other ≠ ifIndex := by grind [found.sequence]
    simpa [erase_other _ _ _ different] using found.sound.routes other member
  have iif := found.sound.interfaces ifIndex link found.linked
  rcases log_and_update_cases { after with links := erase after.links ifIndex } iif with ⟨err, _, ended⟩ | ⟨servers, ended⟩
  · rw [ended]
    exact ⟨found.sound.shrink fewer routes (fun _ unserved => unserved), Ending.noConfusion⟩
  rw [ended]
  refine ⟨found.sound.shrink fewer routes (fun other unserved => ?_), Ending.noConfusion⟩
  grind

theorem resolve_hostname_sound {lookupErr : Option String} (safe : lookupErr = none ∨ nilErrorPanics = false) :
    Survives acceptDefaultResolvers (tables.resolveHostname nilErrorPanics byIndex ifIndex lookupErr) := by
  obtain ⟨_, link, got, found⟩ := get_link_known sound known
  obtain ⟨_, present⟩ := Option.ne_none_iff_exists'.mp (found.sound.interfaces ifIndex link found.linked)
  have calm : (lookupErr.isSome && nilErrorPanics) = false := by grind
  simp only [Tables.resolveHostname, got, present, calm]
  exact ⟨found.sound, Ending.noConfusion⟩

end

theorem mem_foldl_filter {sequence : List Int32}
    (member : other ∈ order.foldl (fun sequence entry => sequence.filter (· != entry.1)) sequence) :
    other ∈ sequence ∧ ∀ entry ∈ order, other ≠ entry.1 := by
  induction order generalizing sequence with
  | nil => exact ⟨member, by simp⟩
  | cons _ _ ih => grind

section
variable (sound : Sound acceptDefaultResolvers tables)
include sound

theorem network_update_sound (ranges : tables.Ranges order) (safe : ∀ entry ∈ order, tables.stale byIndex entry = false →
      noEligible acceptDefaultResolvers (tables.heap entry.2).domain = true) :
    Sound acceptDefaultResolvers (tables.onNetworkUpdate byIndex order) := by
  -- every index of the sequence is in the table, so the loop empties it
  have unrouted : ∀ other, other ∉ (tables.onNetworkUpdate byIndex order).defaultRouteSequence := by
    intro other member
    obtain ⟨there, gone⟩ := mem_foldl_filter member
    obtain ⟨link, linked⟩ := Option.ne_none_iff_exists'.mp (sound.routes other there)
    exact gone (other, link) ((ranges.all other link).mpr linked) rfl
  have kept : ∀ other link, (tables.onNetworkUpdate byIndex order).links other = some link →
      tables.links other = some link ∧ tables.stale byIndex (other, link) = false := by
    intro other link present
    obtain ⟨linked, fresh⟩ := foldl_erase_eq_some.mp present
    refine ⟨linked, eq_false_of_ne_true (fun stale => ?_)⟩
    exact fresh (other, link) (List.mem_filter.mpr ⟨(ranges.all other link).mpr linked, stale⟩) rfl
  refine ⟨⟨sound.calm, sound.unlocked, ?_, ?_⟩, ?_, ?_, ?_⟩
  · exact fun other link present => sound.interfaces other link (kept other link present).1
  · grind
  · exact fun other link present => sound.allocated other link (kept other link present).1
  · exact fun first second link one two => sound.distinct first second link (kept first link one).1 (kept second link two).1
  intro other link present _
  obtain ⟨linked, fresh⟩ := kept other link present
  exact ⟨safe (other, link) ((ranges.all other link).mpr linked) fresh, fun _ => unrouted other⟩

theorem call_sound (call : Call) (ranges : call.Ranges tables)
    (safe : call.Safe acceptDefaultResolvers nilErrorPanics tables byIndex) :
    Survives acceptDefaultResolvers (tables.call acceptDefaultResolvers nilErrorPanics byIndex call) := by
  cases call with
  | setLinkDNS _ addresses =>
    exact set_server_sound sound safe (fun link => { link with address := addresses }) (fun _ => rfl) (fun _ => rfl)
  | setLinkDNSEx _ addresses =>
    exact set_server_sound sound safe (fun link => { link with addressEx := addresses }) (fun _ => rfl) (fun _ => rfl)
  | setLinkDomains => exact set_link_domains_sound sound safe.1 safe.2
  | setLinkDefaultRoute => exact set_link_default_route_sound sound safe.1 safe.2
  | setLinkDNSOverTLS _ dotMode =>
    exact set_server_sound sound safe (fun link => { link with dnsOverTLS := Tables.overTLS dotMode link.dnsOverTLS })
      (fun _ => rfl) (fun _ => rfl)
  | revertLink => exact revert_link_sound sound safe.1 safe.2
  | resolveHostname => exact resolve_hostname_sound sound safe.1 safe.2
  | networkUpdate => exact ⟨network_update_sound sound ranges safe, Ending.noConfusion⟩
  | exchange name order =>
    refine ⟨sound, ?_⟩
    simpa only [Tables.call, if_neg (exchange_calm sound name order ranges)] using Ending.noConfusion

theorem step_sound {event : Finder × Call} {result : Tables}
    (ranges : event.2.Ranges tables) (safe : event.2.Safe acceptDefaultResolvers nilErrorPanics tables event.1)
    (taken : tablesStep acceptDefaultResolvers nilErrorPanics tables event = some result) :
    Sound acceptDefaultResolvers result := by
  simp only [tablesStep, sound.calm, sound.unlocked] at taken
  cases taken
  obtain ⟨after, ended⟩ := call_sound sound event.2 ranges safe
  have calm : ((tables.call acceptDefaultResolvers nilErrorPanics event.1 event.2).2 == .panicked) = false :=
    beq_false_of_ne ended
  rw [calm]
  refine ⟨⟨rfl, after.unlocked, after.interfaces, after.routes⟩, after.allocated, after.distinct, ?_⟩
  intro other link present unserved
  have dormant := after.dormant other link present unserved
  exact ⟨dormant.domains, dormant.route⟩

end
end

def Call.possible (tables : Tables) (event : Finder × Call) : Prop := event.2.Ranges tables

structure Call.Careful (acceptDefaultResolvers nilErrorPanics : Bool) (tables : Tables) (event : Finder × Call) : Prop where
  ranges : event.2.Ranges tables
  safe : event.2.Safe acceptDefaultResolvers nilErrorPanics tables event.1

theorem link_tables_usable (acceptDefaultResolvers nilErrorPanics : Bool) (tables : Tables)
    (run : Run (tablesStep acceptDefaultResolvers nilErrorPanics)
      (Call.Careful acceptDefaultResolvers nilErrorPanics) {} tables) :
    Usable acceptDefaultResolvers tables := by
  have sound := run.invariant (Sound acceptDefaultResolvers) (by refine ⟨⟨rfl, rfl, ?_, ?_⟩, ?_, ?_, ?_⟩ <;> simp)
    (fun tables event result sound careful taken => step_sound sound careful.ranges careful.safe taken)
  exact sound.usable

theorem link_tables_usable_routed : ∃ tables, Run (tablesStep true true) (Call.Careful true true) {} tables ∧
    tables.exchange true "host.lan." [(1, 0)] = .forwarded [⟨"eth0", [10, 0, 0, 1], 53, none⟩] ∧ Usable true tables := by
  let byIndex : Finder := fun _ => .ok ⟨7, "eth0"⟩
  have set : Run (tablesStep true true) (Call.Careful true true) {} _ :=
    Run.next (byIndex, Call.setLinkDNS 1 [⟨2, [10, 0, 0, 1]⟩]) Run.refl ⟨trivial, rfl⟩ rfl
  have named := Run.next (byIndex, Call.setLinkDomains 1 [⟨"lan.", false⟩]) set ⟨trivial, rfl, .inl rfl⟩ rfl
  have routed := Run.next (byIndex, Call.setLinkDefaultRoute 1 true) named ⟨trivial, rfl, .inl rfl⟩ rfl
  exact ⟨_, routed, rfl, link_tables_usable true true _ routed⟩

theorem reverted_link_still_routed : ∃ reverted exchanged,
    Run (tablesStep true false) Call.possible {} reverted ∧ Run (tablesStep true false) Call.possible reverted exchanged ∧
      1 ∈ reverted.defaultRouteSequence ∧ reverted.links 1 = none ∧ exchanged.panicked = true := by
  let byIndex : Finder := fun _ => .ok ⟨7, "eth0"⟩
  have routed : Run (tablesStep true false) Call.possible {} _ :=
    Run.next (byIndex, Call.setLinkDefaultRoute 1 true) Run.refl trivial rfl
  have reverted := Run.next (byIndex, Call.revertLink 1) routed trivial rfl
  refine ⟨_, _, reverted, Run.next (byIndex, Call.exchange "host.lan." []) Run.refl ?_ rfl, ?_, ?_, rfl⟩
  · refine ⟨List.nodup_nil, fun ifIndex link => ?_⟩
    refine iff_of_false List.not_mem_nil (fun present => ?_)
    obtain ⟨different, linked⟩ := erase_eq_some.mp present
    rcases put_eq_some.mp linked with ⟨same, _⟩ | ⟨_, absent⟩
    · exact different same
    · contradiction
  · exact List.mem_singleton_self 1
  · rfl

end OtunKernel.Resolved
