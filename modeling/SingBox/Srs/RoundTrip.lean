import SingBox.Lib.Guard
import SingBox.Srs.Binary

/-! # Rules are read as they were written

The round trip of one rule, for any way of storing matchers and address sets that reads
them back. A default rule is read item by item: each item sets one field that no earlier
item has touched. Logical rules follow by induction on the rule. Only an interface address
can be written and not be read.
-/

open List Option

namespace SingBox.Srs

open Lib.Bytes Lib.Codec Options

variable {texts : List Text} {numbers : List UInt16} {items : List Item}
variable {matchers : Matchers} {Blob : Type}

/-! ## Fields -/

theorem reads_text {text : Text} (fits : Fits text) : Reads readText (uvarint text.length ++ text) text :=
  .bind (reads_uvarint fits.uvarint) (reads_full rfl)

theorem reads_texts (fit : TextsFit texts) : Reads readRuleItemString (writeTexts texts) texts :=
  reads_counted fit.1.uvarint fun _ text isMember => reads_text (fit.2 text isMember)

theorem reads_uint16s (fits : Fits numbers) :
    Reads readUint16s (writeCounted (fun number => toBigEndian 2 number.toNat) numbers) numbers := by
  refine reads_counted fits.uvarint fun _ number _ => ?_
  have reads := (@reads_bigEndian 2 number.toNat number.toNat_lt).map UInt16.ofNat
  rwa [UInt16.ofNat_toNat] at reads

theorem reads_bool (value : Bool) : Reads readBool (writeBool value) value := by
  cases value <;> exact fun _ => rfl

theorem answers_address {network : Option Prefix}
    (fits : ∀ present, network = some present → ∃ addr bits, present = Prefix.ofAddr addr bits) :
    Answers (do return some (← readPrefix)) (writePrefix (buildPrefix network)) (ReadableAddress network) network where
  reads := by
    rintro ⟨network, rfl, readable⟩
    exact (reads_writePrefix readable).map some
  fails unreadable := by
    have isZero : (buildPrefix network).addr = none := by
      cases network with
      | none => rfl
      | some present =>
        obtain ⟨addr, bits, rfl⟩ := fits present rfl
        cases addr with
        | none => rfl
        | some ip => exact absurd ⟨_, rfl, ip, bits, rfl⟩ unreadable
    exact (fails_writePrefix isZero).bind _

theorem answers_prefixes {networks : List (Option Prefix)} (fits : AddressesFit networks) :
    Answers readPrefixes (writePrefixes networks) (∀ network ∈ networks, ReadableAddress network) networks := by
  have answers := answers_counted fits.1.uvarint fun (_ : Nat) network isMember =>
    answers_address fun present isPresent => fits.2 present (isPresent ▸ isMember)
  rwa [List.map_id'] at answers

theorem answers_addressMap {map : TypedMap UInt8 (List (Option Prefix))} (fits : Fits map.entries)
    (valuesFit : ∀ entry ∈ map.entries, AddressesFit entry.2) :
    Answers readAddressMap (writeAddressMap map) (∀ entry ∈ map.entries, ∀ network ∈ entry.2, ReadableAddress network)
      map := by
  have each (entry : UInt8 × List (Option Prefix)) (isEntry : entry ∈ map.entries) :
      Answers (do let key ← readByte; let value ← readPrefixes; return (key, value)) (entry.1 :: writePrefixes entry.2)
        (∀ network ∈ entry.2, ReadableAddress network) entry :=
    (reads_byte entry.1).bind_answers ((answers_prefixes (valuesFit entry isEntry)).map (Prod.mk entry.1))
  have mapped := (answers_counted fits.uvarint fun (_ : Nat) => each).map Lib.Table.ofEntries
  rwa [List.map_id', Lib.Table.ofEntries_entries] at mapped

/-! ## Storage -/

/-- What the sink writes, the source reads, once the blobs laid aside are all there. -/
structure ReadBy (sink : Sink matchers Blob) (source : Source matchers) (final : List Blob) :
    Prop where
  matcher : ∀ {matcher before bytes after}, sink.writeMatcher matcher before = .ok (bytes, after) →
    before <+: after ∧ (after <+: final → Reads source.readMatcher bytes matcher)
  adGuardMatcher : ∀ {matcher before bytes after}, sink.writeAdGuardMatcher matcher before = .ok (bytes, after) →
    before <+: after ∧ (after <+: final → Reads source.readAdGuardMatcher bytes matcher)
  ipSet : ∀ {set before bytes after}, sink.writeIPSet set before = .ok (bytes, after) →
    before <+: after ∧ (after <+: final → Fits (writtenRanges set) → Reads source.readIPSet bytes set)

/-! ## What is read back -/

section ReadBack

variable (packages : Packages matchers) (isMmap recover : Bool) (generateVersion : UInt8)

variable (rule : Options.DefaultHeadlessRule matchers)

/-- The matcher that is written for the domains of a rule. -/
def writtenMatcher : Option matchers.Domain :=
  if rule.domain ≠ [] ∨ rule.domainSuffix ≠ [] then
    some (packages.newMatcher rule.domain rule.domainSuffix (generateVersion == 1))
  else if isMmap then rule.domainMatcher else none

def writtenAdGuardMatcher : Option matchers.AdGuard :=
  if rule.adGuardDomain ≠ [] then some (packages.newAdGuardMatcher rule.adGuardDomain)
  else if isMmap then rule.adGuardDomainMatcher else none

def writtenSet (value : List (Option Prefix)) (rawSet : Option Ipset.Set) : Option Ipset.Set :=
  if value ≠ [] then (buildCIDR packages value).toOption else if isMmap then rawSet else none

/-- A list that is filled in only when the rule set is to be recovered. -/
def recovered {α β : Type} (dump : α → List β) (value : Option α) : List β :=
  match value with
  | some value => if recover then dump value else []
  | none => []

@[simp] theorem recovered_false {α β : Type} (dump : α → List β) (value : Option α) :
    recovered false dump value = [] := by
  cases value <;> rfl

/-- The default rule that is read where this one was written. -/
def readBack : Options.DefaultHeadlessRule matchers :=
  { rule with
    domain := recovered recover (fun matcher => (packages.dump matcher).1)
      (writtenMatcher packages isMmap generateVersion rule)
    domainSuffix := recovered recover (fun matcher => (packages.dump matcher).2)
      (writtenMatcher packages isMmap generateVersion rule)
    domainMatcher := writtenMatcher packages isMmap generateVersion rule
    sourceIPCIDR := recovered recover (fun set => (packages.prefixes set).map some)
      (writtenSet packages isMmap rule.sourceIPCIDR rule.sourceIPSet)
    sourceIPSet := writtenSet packages isMmap rule.sourceIPCIDR rule.sourceIPSet
    ipCIDR := recovered recover (fun set => (packages.prefixes set).map some)
      (writtenSet packages isMmap rule.ipCIDR rule.ipSet)
    ipSet := writtenSet packages isMmap rule.ipCIDR rule.ipSet
    adGuardDomain := recovered recover packages.dumpAdGuard (writtenAdGuardMatcher packages isMmap rule)
    adGuardDomainMatcher := writtenAdGuardMatcher packages isMmap rule
    domainMatchStrategy := .asIs
    hasEmptyList := false }

mutual
/-- The rule that is read where this one was written. -/
def readBackRule : Options.HeadlessRule matchers → Options.HeadlessRule matchers
  | .default options => .default (readBack packages isMmap recover generateVersion options)
  | .logical mode rules _ invert => .logical mode (readBackRules rules) .asIs invert
  | .unknown type => .unknown type
def readBackRules : List (Options.HeadlessRule matchers) → List (Options.HeadlessRule matchers)
  | [] => []
  | rule :: rules => readBackRule rule :: readBackRules rules
end

theorem readBackRules_eq_map (rules : List (Options.HeadlessRule matchers)) :
    readBackRules packages isMmap recover generateVersion rules =
      rules.map (readBackRule packages isMmap recover generateVersion) := by
  induction rules with
  | nil => rfl
  | cons rule rules ih => rw [readBackRules, ih, map_cons]

end ReadBack

/-! ## Items -/

variable (item : Item)

/-- The fields that an item sets, taken from one rule into another. -/
def copy (rule into : Options.DefaultHeadlessRule matchers) :
    Options.DefaultHeadlessRule matchers :=
  match item with
  | .queryType => { into with queryType := rule.queryType }
  | .network => { into with network := rule.network }
  | .domain => { into with domain := rule.domain, domainSuffix := rule.domainSuffix, domainMatcher := rule.domainMatcher }
  | .domainKeyword => { into with domainKeyword := rule.domainKeyword }
  | .domainRegex => { into with domainRegex := rule.domainRegex }
  | .sourceIPCIDR => { into with sourceIPCIDR := rule.sourceIPCIDR, sourceIPSet := rule.sourceIPSet }
  | .ipCIDR => { into with ipCIDR := rule.ipCIDR, ipSet := rule.ipSet }
  | .sourcePort => { into with sourcePort := rule.sourcePort }
  | .sourcePortRange => { into with sourcePortRange := rule.sourcePortRange }
  | .port => { into with port := rule.port }
  | .portRange => { into with portRange := rule.portRange }
  | .processName => { into with processName := rule.processName }
  | .processPath => { into with processPath := rule.processPath }
  | .processPathRegex => { into with processPathRegex := rule.processPathRegex }
  | .packageName => { into with packageName := rule.packageName }
  | .packageNameRegex => { into with packageNameRegex := rule.packageNameRegex }
  | .networkType => { into with networkType := rule.networkType }
  | .networkIsExpensive => { into with networkIsExpensive := rule.networkIsExpensive }
  | .networkIsConstrained => { into with networkIsConstrained := rule.networkIsConstrained }
  | .networkInterfaceAddress => { into with networkInterfaceAddress := rule.networkInterfaceAddress }
  | .defaultInterfaceAddress => { into with defaultInterfaceAddress := rule.defaultInterfaceAddress }
  | .wifiSSID => { into with wifiSSID := rule.wifiSSID }
  | .wifiBSSID => { into with wifiBSSID := rule.wifiBSSID }
  | .adGuardDomain =>
    { into with adGuardDomain := rule.adGuardDomain, adGuardDomainMatcher := rule.adGuardDomainMatcher }

variable (rule : Options.DefaultHeadlessRule matchers)

/-- The item's fields are not set yet. -/
def Blank : Prop :=
  match item with
  | .queryType => rule.queryType = []
  | .network => rule.network = []
  | .domain => rule.domain = [] ∧ rule.domainSuffix = [] ∧ rule.domainMatcher = none
  | .domainKeyword => rule.domainKeyword = []
  | .domainRegex => rule.domainRegex = []
  | .sourceIPCIDR => rule.sourceIPCIDR = [] ∧ rule.sourceIPSet = none
  | .ipCIDR => rule.ipCIDR = [] ∧ rule.ipSet = none
  | .sourcePort => rule.sourcePort = []
  | .sourcePortRange => rule.sourcePortRange = []
  | .port => rule.port = []
  | .portRange => rule.portRange = []
  | .processName => rule.processName = []
  | .processPath => rule.processPath = []
  | .processPathRegex => rule.processPathRegex = []
  | .packageName => rule.packageName = []
  | .packageNameRegex => rule.packageNameRegex = []
  | .networkType => rule.networkType = []
  | .networkIsExpensive => rule.networkIsExpensive = false
  | .networkIsConstrained => rule.networkIsConstrained = false
  | .networkInterfaceAddress => rule.networkInterfaceAddress = {}
  | .defaultInterfaceAddress => rule.defaultInterfaceAddress = []
  | .wifiSSID => rule.wifiSSID = []
  | .wifiBSSID => rule.wifiBSSID = []
  | .adGuardDomain => rule.adGuardDomain = [] ∧ rule.adGuardDomainMatcher = none

theorem blank_empty : Blank item ({} : Options.DefaultHeadlessRule matchers) := by
  cases item <;> first | exact rfl | exact ⟨rfl, rfl⟩ | exact ⟨rfl, rfl, rfl⟩

theorem Blank.copy {first second : Item} (differ : first ≠ second)
    {into : Options.DefaultHeadlessRule matchers} (blank : Blank second into)
    (rule : Options.DefaultHeadlessRule matchers) : Blank second (Srs.copy first rule into) := by
  cases second <;> cases first <;> first | exact blank | exact absurd rfl differ

theorem foldl_copy : { writeOrder.foldl (fun into item => copy item rule into) {} with invert := rule.invert } =
      { rule with domainMatchStrategy := .asIs, hasEmptyList := false } := by
  simp [writeOrder, foldl_cons, foldl_nil, copy]

theorem copy_of_blank {item : Item} {rule into : Options.DefaultHeadlessRule matchers}
    (ruleBlank : Blank item rule) (blank : Blank item into) : copy item rule into = into := by
  cases item
  case domain =>
    simp [copy, ruleBlank.1.trans blank.1.symm, ruleBlank.2.1.trans blank.2.1.symm, ruleBlank.2.2.trans blank.2.2.symm]
  case sourceIPCIDR => simp [copy, ruleBlank.1.trans blank.1.symm, ruleBlank.2.trans blank.2.symm]
  case ipCIDR => simp [copy, ruleBlank.1.trans blank.1.symm, ruleBlank.2.trans blank.2.symm]
  case adGuardDomain => simp [copy, ruleBlank.1.trans blank.1.symm, ruleBlank.2.trans blank.2.symm]
  all_goals simp [copy, Eq.trans ruleBlank (Eq.symm blank)]

/-! ## Items that are written -/

section Rule

variable {packages : Packages matchers} {sink : Sink matchers Blob}
  {source : Source matchers} {final before after : List Blob} {recover : Bool} {generateVersion : UInt8}
  {item : Item} {rule into : Options.DefaultHeadlessRule matchers} {payload bytes : Bytes}

/-- The reader accepts what is written of the item. -/
def Item.Readable (rule : Options.DefaultHeadlessRule matchers) : Item → Prop
  | .networkInterfaceAddress =>
    ∀ entry ∈ rule.networkInterfaceAddress.entries, ∀ network ∈ entry.2, ReadableAddress network
  | .defaultInterfaceAddress => ∀ network ∈ rule.defaultInterfaceAddress, ReadableAddress network
  | _ => True

theorem readableAddresses_iff : rule.ReadableAddresses ↔ ∀ item ∈ writeOrder, item.Readable rule := by
  constructor
  · intro readable item _
    cases item <;> first | exact trivial | exact readable.networkInterface | exact readable.defaultInterface
  · intro readable
    exact ⟨readable .networkInterfaceAddress (by decide), readable .defaultInterfaceAddress (by decide)⟩

theorem Blank.readable (blank : Blank item rule) : item.Readable rule := by
  cases item
  case networkInterfaceAddress => simp [Item.Readable, show rule.networkInterfaceAddress = {} from blank]
  case defaultInterfaceAddress => simp [Item.Readable, show rule.defaultInterfaceAddress = [] from blank]
  all_goals exact trivial

/-- An item has been written: nothing, or its tag and what reads as the rule's fields. -/
inductive Written (packages : Packages matchers) (source : Source matchers)
    (final : List Blob) (recover : Bool) (item : Item) (rule : Options.DefaultHeadlessRule matchers)
    (before : List Blob) : Bytes → List Blob → Prop where
  | absent : Blank item rule → Written packages source final recover item rule before [] before
  | present {payload : Bytes} {after : List Blob} : before <+: after →
      (after <+: final → ∀ into, Blank item into →
        Answers (readItem packages source recover item into) payload (item.Readable rule) (copy item rule into)) →
      Written packages source final recover item rule before (item.tag :: payload) after

section
variable (written : Written packages source final recover item rule before bytes after)
include written

theorem Written.grows : before <+: after := by
  cases written with
  | absent => exact prefix_rfl
  | present grows => exact grows

/-- The reader's loop takes the item's bytes and goes on with the item's fields set. -/
theorem Written.loops {more : Bytes} {accepted : Prop} {result : Options.DefaultHeadlessRule matchers}
    (kept : after <+: final) (blank : Blank item into)
    (goesOn : ∀ last, LoopAnswers (readNext packages source recover) (last, copy item rule into) more accepted result)
    (last : UInt8) :
    LoopAnswers (readNext packages source recover) (last, into) (bytes ++ more) (item.Readable rule ∧ accepted)
      result := by
  cases written with
  | absent ruleBlank =>
    rw [copy_of_blank ruleBlank blank] at goesOn
    rw [and_iff_right ruleBlank.readable]
    exact goesOn last
  | present _ answers =>
    refine .next ((reads_byte item.tag).bind_answers ?_) (by simp) (goesOn item.tag)
    rw [if_neg item.tag_ne_final, Item.ofTag_tag]
    exact (answers kept into blank).map fun rule => Sum.inl (item.tag, rule)

end

theorem written_always {present : Bool} (ok : always present (item.tag :: payload) before = .ok (bytes, after))
    (absent : present = false → Blank item rule) (answers : present → ∀ into,
      Answers (readItem packages source recover item into) payload (item.Readable rule) (copy item rule into)) :
    Written packages source final recover item rule before bytes after := by
  cases present with
  | true =>
    cases ok
    exact .present prefix_rfl fun _ into _ => answers rfl into
  | false =>
    cases ok
    exact .absent (absent rfl)

variable {name : String} {α : Type} {value : List (Option Prefix)} {rawSet : Option Ipset.Set}

theorem written_since {version : UInt8} {present : Bool}
    (ok : since generateVersion version name present (item.tag :: payload) before = .ok (bytes, after))
    (absent : present = false → Blank item rule) (answers : present → ∀ into,
      Answers (readItem packages source recover item into) payload (item.Readable rule) (copy item rule into)) :
    Written packages source final recover item rule before bytes after := by
  suffices sameAsAlways : always present (item.tag :: payload) before = .ok (bytes, after) from
    written_always sameAsAlways absent answers
  unfold since at ok
  cases present with
  | true =>
    rw [if_pos rfl] at ok
    split at ok
    · cases ok
    · exact ok
  | false => exact ok

/-- The families of items: a list of texts or of numbers, written when it is not empty. -/
theorem written_texts (ok : always (texts ≠ []) (writeRuleItemString item texts) before = .ok (bytes, after))
    (fit : TextsFit texts) (absent : texts = [] → Blank item rule) (readable : item.Readable rule)
    (reads : ∀ into, Reads readRuleItemString (writeTexts texts) texts →
      Reads (readItem packages source recover item into) (writeTexts texts) (copy item rule into)) :
    Written packages source final recover item rule before bytes after :=
  written_always ok (fun isEmpty => absent (by simpa using isEmpty)) fun _ into =>
    .of_reads (reads into (reads_texts fit)) readable

theorem written_uint16s (ok : always (numbers ≠ []) (writeRuleItemUint16 item numbers) before = .ok (bytes, after))
    (fits : Fits numbers) (absent : numbers = [] → Blank item rule) (readable : item.Readable rule)
    (reads : ∀ into payload, Reads readUint16s payload numbers →
      Reads (readItem packages source recover item into) payload (copy item rule into)) :
    Written packages source final recover item rule before bytes after :=
  written_always ok (fun isEmpty => absent (by simpa using isEmpty)) fun _ into =>
    .of_reads (reads into _ (reads_uint16s fits)) readable

/-- A list that only later versions have. -/
theorem written_sinceList {version : UInt8} {list : List α} [Decidable (list ≠ [])]
    (ok : since generateVersion version name (list ≠ []) (item.tag :: payload) before = .ok (bytes, after))
    (absent : list = [] → Blank item rule) (answers : ∀ into,
      Answers (readItem packages source recover item into) payload (item.Readable rule) (copy item rule into)) :
    Written packages source final recover item rule before bytes after :=
  written_since ok (fun isEmpty => absent (by simpa using isEmpty)) fun _ => answers

theorem bind_ok {β : Type} {put : Put Blob α} {next : α → Put Blob β} {result : β}
    (ok : (put >>= next) before = .ok (result, after)) :
    ∃ value middle, put before = .ok (value, middle) ∧ next value middle = .ok (result, after) := by
  obtain ⟨pair, first, rest⟩ := Lib.Guard.bind_eq_ok.mp ok
  exact ⟨pair.1, pair.2, first, rest⟩

/-- A matcher or a set is written under its tag, or there is none to write. -/
def Stores {α : Type} (write : α → Put Blob Bytes) (tag : UInt8) (value : Option α) (before : List Blob) (bytes : Bytes)
    (after : List Blob) : Prop :=
  match value with
  | none => bytes = [] ∧ after = before
  | some value => ∃ payload, write value before = .ok (payload, after) ∧ bytes = tag :: payload

variable {write : α → Put Blob Bytes}

theorem stores_of_ok {tag : UInt8} {value : α}
    (ok : (do return tag :: (← write value) : Put Blob Bytes) before = .ok (bytes, after)) :
    Stores write tag (some value) before bytes after := by
  obtain ⟨payload, middle, written, rest⟩ := bind_ok ok
  cases rest
  exact ⟨payload, written, rfl⟩

theorem writeDomain_stores (ok : writeDomain packages sink generateVersion rule before = .ok (bytes, after)) :
    ([] ∉ rule.domain ∧ [] ∉ rule.domainSuffix) ∧
      Stores sink.writeMatcher Item.domain.tag (writtenMatcher packages sink.isMmap generateVersion rule) before bytes
        after := by
  unfold writeDomain at ok
  unfold writtenMatcher
  by_cases nonempty : rule.domain ≠ [] ∨ rule.domainSuffix ≠ []
  · rw [if_pos nonempty] at ok ⊢
    split at ok
    case isTrue => cases ok
    case isFalse domainOk =>
      split at ok
      case isTrue => cases ok
      case isFalse suffixOk => exact ⟨⟨domainOk, suffixOk⟩, stores_of_ok ok⟩
  · rw [if_neg nonempty] at ok ⊢
    push Not at nonempty
    refine ⟨by simp [nonempty], ?_⟩
    cases isMmap : sink.isMmap <;> cases isMatcher : rule.domainMatcher <;> rw [isMmap, isMatcher] at ok
    case true.some matcher => exact stores_of_ok ok
    all_goals
      cases ok
      exact ⟨rfl, rfl⟩

theorem writeAdGuardDomain_stores
    (ok : writeAdGuardDomain packages sink generateVersion rule before = .ok (bytes, after)) :
    Stores sink.writeAdGuardMatcher Item.adGuardDomain.tag (writtenAdGuardMatcher packages sink.isMmap rule) before
      bytes after := by
  have write {matcher : matchers.AdGuard} (ok : (if generateVersion < 2 then
        fails "AdGuard rule items is only supported in version 2 or later"
      else do return Item.adGuardDomain.tag :: (← sink.writeAdGuardMatcher matcher) : Put Blob Bytes) before =
        .ok (bytes, after)) :
      Stores sink.writeAdGuardMatcher Item.adGuardDomain.tag (some matcher) before bytes after := by
    split at ok
    · cases ok
    · exact stores_of_ok ok
  unfold writeAdGuardDomain at ok
  unfold writtenAdGuardMatcher
  by_cases nonempty : rule.adGuardDomain ≠ []
  · rw [if_pos nonempty] at ok ⊢
    exact write ok
  · rw [if_neg nonempty] at ok ⊢
    cases isMmap : sink.isMmap <;> cases isMatcher : rule.adGuardDomainMatcher <;> rw [isMmap, isMatcher] at ok
    case true.some matcher => exact write ok
    all_goals
      cases ok
      exact ⟨rfl, rfl⟩

theorem writeCIDR_stores (ok : writeCIDR packages sink item name value rawSet before = .ok (bytes, after)) :
    (value ≠ [] → ∃ set, buildCIDR packages value = .ok set) ∧
      Stores sink.writeIPSet item.tag (writtenSet packages sink.isMmap value rawSet) before bytes after := by
  unfold writeCIDR at ok
  unfold writtenSet
  by_cases nonempty : value ≠ []
  · rw [if_pos (.inl nonempty)] at ok
    rw [if_pos nonempty]
    have ok := Lib.Guard.mapError_eq_ok.mp ok
    unfold writeRuleItemCIDR at ok
    rw [if_pos nonempty] at ok
    obtain ⟨set, middle, built, rest⟩ := bind_ok ok
    cases isSet : buildCIDR packages value with
    | error err =>
      rw [isSet] at built
      cases built
    | ok builtSet =>
      rw [isSet] at built
      cases built
      exact ⟨fun _ => ⟨set, rfl⟩, stores_of_ok rest⟩
  · refine ⟨fun isNonempty => absurd isNonempty nonempty, ?_⟩
    rw [if_neg nonempty]
    cases isMmap : sink.isMmap <;> cases rawSet
    case true.some set =>
      rw [if_pos (.inr ⟨isMmap, rfl⟩)] at ok
      have ok := Lib.Guard.mapError_eq_ok.mp ok
      unfold writeRuleItemCIDR at ok
      rw [if_neg nonempty] at ok
      exact stores_of_ok ok
    all_goals
      rw [if_neg (by simp_all)] at ok
      cases ok
      exact ⟨rfl, rfl⟩

theorem Stores.written {read : Reader α} {value : Option α}
    (stores : Stores write item.tag value before bytes after) (readable : item.Readable rule)
    (readBy : ∀ stored ∈ value, ∀ payload, write stored before = .ok (payload, after) →
      before <+: after ∧ (after <+: final → Reads read payload stored))
    (absent : value = none → Blank item rule)
    (reads : ∀ stored ∈ value, ∀ payload, Reads read payload stored → ∀ into, Blank item into →
      Reads (readItem packages source recover item into) payload (copy item rule into)) :
    Written packages source final recover item rule before bytes after := by
  cases value with
  | none =>
    obtain ⟨rfl, rfl⟩ := stores
    exact .absent (absent rfl)
  | some stored =>
    obtain ⟨payload, ok, rfl⟩ := stores
    obtain ⟨grows, readsStored⟩ := readBy stored rfl payload ok
    exact .present grows fun kept into blank =>
      .of_reads (reads stored rfl payload (readsStored kept) into blank) readable

theorem fits_fromIPSet (set : Netipx.IPSet) : Fits (writtenRanges (Ipset.fromIPSet set)) := by
  have length (ranges : List Netipx.IPRange) : (ranges.filterMap Netipx.IPRange.range4).length +
      (ranges.filterMap Netipx.IPRange.range6).length = ranges.length := by
    induction ranges with
    | nil => rfl
    | cons range ranges ih =>
      cases range <;>
        simp only [filterMap_cons, Netipx.IPRange.range4, Netipx.IPRange.range6, length_cons] <;> omega
  have fits := set.fits
  rw [← length set.ranges] at fits
  simpa [Fits, writtenRanges, Ipset.fromIPSet] using fits

theorem writtenSet_fits {isMmap : Bool} {set : Ipset.Set}
    (isSet : writtenSet packages isMmap value rawSet = some set) (rawFits : ∀ set ∈ rawSet, Fits (writtenRanges set)) :
    Fits (writtenRanges set) := by
  unfold writtenSet at isSet
  split at isSet
  · unfold buildCIDR at isSet
    split at isSet
    · cases isSet
    · cases built : packages.buildIPSet (value.filterMap id) with
      | error err =>
        rw [built] at isSet
        cases isSet
      | ok builtSet =>
        rw [built] at isSet
        cases isSet
        exact fits_fromIPSet builtSet
  · split at isSet
    · exact rawFits set isSet
    · cases isSet

theorem written_cidr (readBy : ReadBy sink source final)
    (ok : writeCIDR packages sink item name value rawSet before = .ok (bytes, after))
    (readable : item.Readable rule) (rawFits : ∀ set ∈ rawSet, Fits (writtenRanges set))
    (absent : writtenSet packages sink.isMmap value rawSet = none → Blank item rule)
    (reads : ∀ set ∈ writtenSet packages sink.isMmap value rawSet, ∀ payload, Reads source.readIPSet payload set →
      ∀ into, Blank item into → Reads (readItem packages source recover item into) payload (copy item rule into)) :
    Written packages source final recover item rule before bytes after := by
  refine (writeCIDR_stores ok).2.written readable (fun set isSet payload written => ?_) absent reads
  obtain ⟨grows, readsSet⟩ := readBy.ipSet written
  exact ⟨grows, fun kept => readsSet kept (writtenSet_fits isSet rawFits)⟩

/-- Every item is written so that it reads as the field of the rule that is read back. -/
theorem writeItem_written (recover : Bool) (readBy : ReadBy sink source final) (fits : rule.Representable)
    (ok : writeItem packages sink generateVersion rule item before = .ok (bytes, after)) :
    Written packages source final recover item (readBack packages sink.isMmap recover generateVersion rule) before bytes
      after := by
  cases item
  case queryType => exact written_uint16s ok fits.queryType id trivial fun _ _ reads => reads.map _
  case sourcePort => exact written_uint16s ok fits.sourcePort id trivial fun _ _ reads => reads.map _
  case port => exact written_uint16s ok fits.port id trivial fun _ _ reads => reads.map _
  case network => exact written_texts ok fits.network id trivial fun _ reads => reads.map _
  case domainKeyword => exact written_texts ok fits.domainKeyword id trivial fun _ reads => reads.map _
  case domainRegex => exact written_texts ok fits.domainRegex id trivial fun _ reads => reads.map _
  case sourcePortRange => exact written_texts ok fits.sourcePortRange id trivial fun _ reads => reads.map _
  case portRange => exact written_texts ok fits.portRange id trivial fun _ reads => reads.map _
  case processName => exact written_texts ok fits.processName id trivial fun _ reads => reads.map _
  case processPath => exact written_texts ok fits.processPath id trivial fun _ reads => reads.map _
  case processPathRegex => exact written_texts ok fits.processPathRegex id trivial fun _ reads => reads.map _
  case packageName => exact written_texts ok fits.packageName id trivial fun _ reads => reads.map _
  case wifiSSID => exact written_texts ok fits.wifiSSID id trivial fun _ reads => reads.map _
  case wifiBSSID => exact written_texts ok fits.wifiBSSID id trivial fun _ reads => reads.map _
  case packageNameRegex => exact written_sinceList ok id fun _ => .of_reads ((reads_texts fits.packageNameRegex).map _) trivial
  case networkType => exact written_sinceList ok id fun _ => .of_reads ((reads_text fits.networkType).map _) trivial
  case networkInterfaceAddress =>
    exact written_sinceList ok (fun isEmpty => Lib.Table.ext_entries isEmpty) fun _ =>
      (answers_addressMap fits.networkInterfaceAddress.1 fits.networkInterfaceAddress.2).map _
  case defaultInterfaceAddress =>
    exact written_sinceList ok id fun _ => (answers_prefixes fits.defaultInterfaceAddress).map _
  case networkIsExpensive =>
    refine written_since ok id fun present into => .of_reads ?_ trivial
    simpa [readItem, copy, readBack, present] using Reads.pure { into with networkIsExpensive := true }
  case networkIsConstrained =>
    refine written_since ok id fun present into => .of_reads ?_ trivial
    simpa [readItem, copy, readBack, present] using Reads.pure { into with networkIsConstrained := true }
  case domain =>
    refine (writeDomain_stores ok).2.written trivial (fun _ _ _ => readBy.matcher) (fun none => ?_) ?_
    · simp [Blank, readBack, none, recovered]
    · intro matcher isMatcher payload reads into blank
      have reads := reads.map fun matcher : matchers.Domain => { into with
        domainMatcher := some matcher
        domain := if recover then (packages.dump matcher).1 else into.domain
        domainSuffix := if recover then (packages.dump matcher).2 else into.domainSuffix }
      simpa [readItem, copy, readBack, mem_def.mp isMatcher, recovered, blank.1, blank.2.1] using reads
  case adGuardDomain =>
    refine (writeAdGuardDomain_stores ok).written trivial (fun _ _ _ => readBy.adGuardMatcher) (fun none => ?_) ?_
    · simp [Blank, readBack, none, recovered]
    · intro matcher isMatcher payload reads into blank
      have reads := reads.map fun matcher : matchers.AdGuard => { into with
        adGuardDomainMatcher := some matcher
        adGuardDomain := if recover then packages.dumpAdGuard matcher else into.adGuardDomain }
      simpa [readItem, copy, readBack, mem_def.mp isMatcher, recovered, blank.1] using reads
  case sourceIPCIDR =>
    refine written_cidr readBy ok trivial fits.sourceIPSet (fun none => ?_) ?_
    · simp [Blank, readBack, none, recovered]
    · intro set isSet payload reads into blank
      have reads := reads.map fun set => { into with
        sourceIPSet := some set
        sourceIPCIDR := if recover then (packages.prefixes set).map some else into.sourceIPCIDR }
      simpa [readItem, copy, readBack, mem_def.mp isSet, recovered, blank.1] using reads
  case ipCIDR =>
    refine written_cidr readBy ok trivial fits.ipSet (fun none => ?_) ?_
    · simp [Blank, readBack, none, recovered]
    · intro set isSet payload reads into blank
      have reads := reads.map fun set => { into with
        ipSet := some set
        ipCIDR := if recover then (packages.prefixes set).map some else into.ipCIDR }
      simpa [readItem, copy, readBack, mem_def.mp isSet, recovered, blank.1] using reads

theorem writeItems_loops (recover : Bool) (readBy : ReadBy sink source final) (fits : rule.Representable)
    (nodup : items.Nodup) (ok : writeItems packages sink generateVersion rule items before = .ok (bytes, after)) :
    before <+: after ∧ (after <+: final → ∀ {more accepted result}, ∀ into, (∀ item ∈ items, Blank item into) →
      (∀ last, LoopAnswers (readNext packages source recover) (last, items.foldl (fun into item =>
        copy item (readBack packages sink.isMmap recover generateVersion rule) into) into) more accepted result) →
      ∀ last, LoopAnswers (readNext packages source recover) (last, into) (bytes ++ more)
        ((∀ item ∈ items, item.Readable rule) ∧ accepted) result) := by
  induction items generalizing bytes before with
  | nil =>
    cases ok
    refine ⟨prefix_rfl, fun _ _ _ _ into _ goesOn last => ?_⟩
    simpa using goesOn last
  | cons item items ih =>
    obtain ⟨itemBytes, middle, itemOk, rest⟩ := bind_ok ok
    obtain ⟨moreBytes, _, moreOk, rest⟩ := bind_ok rest
    cases rest
    obtain ⟨notLater, nodup⟩ := nodup_cons.mp nodup
    have written := writeItem_written recover readBy fits itemOk
    obtain ⟨grows, loops⟩ := ih nodup moreOk
    refine ⟨written.grows.trans grows, fun kept more accepted result into blank goesOn last => ?_⟩
    -- the items that follow find their fields untouched by this one
    have later := loops kept (copy item (readBack packages sink.isMmap recover generateVersion rule) into)
      (fun later isLater => (blank later (by simp [isLater])).copy (by rintro rfl; exact notLater isLater) _) goesOn
    rw [append_assoc, forall_mem_cons, and_assoc]
    exact written.loops (grows.trans kept) (blank item (by simp)) later last

theorem writeItems_each
    (ok : writeItems packages sink generateVersion rule items before = .ok (bytes, after)) (isItem : item ∈ items) :
    ∃ before written after, writeItem packages sink generateVersion rule item before = .ok (written, after) := by
  induction items generalizing bytes before with
  | nil => cases isItem
  | cons first items ih =>
    obtain ⟨itemBytes, middle, itemOk, rest⟩ := bind_ok ok
    obtain ⟨moreBytes, last, moreOk, rest⟩ := bind_ok rest
    cases rest
    rcases mem_cons.mp isItem with rfl | isItem
    · exact ⟨before, _, _, itemOk⟩
    · exact ih moreOk isItem

/-! ## Rules -/

/-- The matcher and the address sets of a rule could be built. -/
structure Builds (packages : Packages matchers) (rule : Options.DefaultHeadlessRule matchers) :
    Prop where
  domain : [] ∉ rule.domain
  domainSuffix : [] ∉ rule.domainSuffix
  sourceIPCIDR : rule.sourceIPCIDR ≠ [] → ∃ set, buildCIDR packages rule.sourceIPCIDR = .ok set
  ipCIDR : rule.ipCIDR ≠ [] → ∃ set, buildCIDR packages rule.ipCIDR = .ok set

theorem writeDefaultRule_builds (ok : writeDefaultRule packages sink generateVersion rule before = .ok (bytes, after)) :
    Builds packages rule := by
  obtain ⟨itemBytes, middle, itemsOk, _⟩ := bind_ok ok
  obtain ⟨_, _, _, domainOk⟩ := writeItems_each itemsOk (show Item.domain ∈ writeOrder by decide)
  obtain ⟨_, _, _, sourceOk⟩ := writeItems_each itemsOk (show Item.sourceIPCIDR ∈ writeOrder by decide)
  obtain ⟨_, _, _, destinationOk⟩ := writeItems_each itemsOk (show Item.ipCIDR ∈ writeOrder by decide)
  obtain ⟨⟨domain, domainSuffix⟩, _⟩ := writeDomain_stores domainOk
  exact ⟨domain, domainSuffix, (writeCIDR_stores sourceOk).1, (writeCIDR_stores destinationOk).1⟩

theorem writeDefaultRule_answers (recover : Bool) (readBy : ReadBy sink source final) (fits : rule.Representable)
    (ok : writeDefaultRule packages sink generateVersion rule before = .ok (bytes, after)) :
    before <+: after ∧ (after <+: final → ∃ payload, bytes = [0] ++ payload ∧
      Answers (readDefaultRule packages source recover) payload rule.ReadableAddresses
        (readBack packages sink.isMmap recover generateVersion rule)) := by
  obtain ⟨itemBytes, middle, itemsOk, rest⟩ := bind_ok ok
  cases rest
  obtain ⟨grows, loops⟩ := writeItems_loops recover readBy fits (by decide) itemsOk
  refine ⟨grows, fun kept => ⟨_, rfl, ?_⟩⟩
  have assembled := foldl_copy (readBack packages sink.isMmap recover generateVersion rule)
  rw [readableAddresses_iff, ← and_true (∀ item ∈ writeOrder, item.Readable rule)]
  refine (loops kept {} (fun item _ => blank_empty item) (fun last => .done ?_ trivial) 0).answers
  refine .bind (reads_byte ruleItemFinal) ?_
  have reads := (reads_bool rule.invert).map fun invert => Sum.inr (α := Partial matchers)
    { writeOrder.foldl (fun into item => copy item (readBack packages sink.isMmap recover generateVersion rule) into) {} with
      invert := invert }
  rw [show (readBack packages sink.isMmap recover generateVersion rule).invert = rule.invert from rfl] at assembled
  rw [assembled] at reads
  exact reads

/-- Every address of the rule can be read. -/
abbrev ReadableRule (rule : Options.HeadlessRule matchers) : Prop :=
  rule.Everywhere DefaultHeadlessRule.ReadableAddresses fun _ => True

/-- What is known of a rule that has been written, when the reader may go down some levels. -/
structure RuleWritten (packages : Packages matchers) (source : Source matchers)
    (final : List Blob) (recover : Bool) (readBack : Options.HeadlessRule matchers) (levels : Nat)
    (rule : Options.HeadlessRule matchers) (before : List Blob) (bytes : Bytes) (after : List Blob) :
    Prop where
  grows : before <+: after
  builds : rule.Everywhere (Builds packages) fun _ => True
  answers : after <+: final → Answers (readRule packages source recover levels) bytes (ReadableRule rule) readBack

/-- The same of a list of rules, which has a part for each of them. -/
structure RulesWritten (packages : Packages matchers) (source : Source matchers)
    (final : List Blob) (recover isMmap : Bool) (generateVersion : UInt8) (levels : Nat)
    (rules : List (Options.HeadlessRule matchers)) (before : List Blob) (bytes : Bytes) (after : List Blob) :
    Prop where
  grows : before <+: after
  builds : ∀ rule ∈ rules, rule.Everywhere (Builds packages) fun _ => True
  parts : after <+: final → ∃ parts : List (Options.HeadlessRule matchers × Bytes),
    parts.map Prod.fst = rules ∧ bytes = parts.flatMap Prod.snd ∧ ∀ part ∈ parts,
      Answers (readRule packages source recover levels) part.2 (ReadableRule part.1)
        (readBackRule packages isMmap recover generateVersion part.1)

theorem RulesWritten.counted {isMmap : Bool} {levels : Nat} {rules : List (Options.HeadlessRule matchers)}
    (written : RulesWritten packages source final recover isMmap generateVersion levels rules before bytes after)
    (fits : Fits rules) (kept : after <+: final) (name : Nat → String) :
    Answers (readCounted fun index => named (name index) (readRule packages source recover levels))
      (uvarint rules.length ++ bytes) (∀ rule ∈ rules, ReadableRule rule)
      (readBackRules packages isMmap recover generateVersion rules) := by
  obtain ⟨parts, rfl, rfl, answers⟩ := written.parts kept
  rw [readBackRules_eq_map, List.map_map, List.forall_mem_map, List.length_map]
  exact answers_counted (by simpa using fits.uvarint) fun index part isPart => (answers part isPart).adaptError _

mutual
theorem writeRule_written (recover : Bool) (readBy : ReadBy sink source final) :
    ∀ (rule : Options.HeadlessRule matchers) {levels : Nat} {bytes : Bytes} {before after : List Blob},
      rule.Everywhere DefaultHeadlessRule.Representable Fits → rule.depth < levels →
      writeRule packages sink generateVersion rule before = .ok (bytes, after) →
      RuleWritten packages source final recover (readBackRule packages sink.isMmap recover generateVersion rule) levels
        rule before bytes after
  | .default options, levels + 1, bytes, before, after, .default fits, _, ok => by
    obtain ⟨grows, answers⟩ := writeDefaultRule_answers recover readBy fits ok
    refine ⟨grows, .default (writeDefaultRule_builds ok), fun kept => ?_⟩
    obtain ⟨payload, rfl, payloadAnswers⟩ := answers kept
    refine (reads_byte 0).bind_answers ?_
    rw [if_pos rfl, show ReadableRule (.default options) ↔ options.ReadableAddresses from
      ⟨fun | .default readable => readable, .default⟩]
    exact payloadAnswers.map _
  | .logical mode rules strategy invert, levels + 1, bytes, before, after, .logical fits rulesFit, depth, ok => by
    obtain ⟨modeByte, middle, modeOk, rest⟩ := bind_ok ok
    obtain ⟨ruleBytes, last, rulesOk, rest⟩ := bind_ok rest
    cases rest
    obtain ⟨rfl, readsMode⟩ : middle = before ∧ Reads readMode [modeByte] mode := by
      cases mode <;> cases modeOk <;> exact ⟨rfl, fun _ => rfl⟩
    have written := writeRules_written recover readBy rules rulesFit (Nat.lt_of_succ_lt_succ depth) rulesOk
    refine ⟨written.grows, .logical trivial written.builds, fun kept => ?_⟩
    rw [show 1 :: modeByte :: uvarint rules.length ++ ruleBytes ++ writeBool invert =
      [1] ++ ([modeByte] ++ (uvarint rules.length ++ ruleBytes ++ writeBool invert)) by simp,
      show ReadableRule (.logical mode rules strategy invert) ↔ (∀ rule ∈ rules, ReadableRule rule) ∧ True from
        ⟨fun | .logical _ readable => ⟨readable, trivial⟩, fun readable => .logical trivial readable.1⟩]
    refine (reads_byte 1).bind_answers ?_
    exact readsMode.bind_answers ((written.counted fits kept _).bind (.of_reads ((reads_bool invert).map _) trivial))
theorem writeRules_written (recover : Bool) (readBy : ReadBy sink source final) :
    ∀ (rules : List (Options.HeadlessRule matchers)) {levels : Nat} {bytes : Bytes}
      {before after : List Blob}, (∀ rule ∈ rules, rule.Everywhere DefaultHeadlessRule.Representable Fits) →
      Options.HeadlessRule.depths rules < levels →
      writeRules packages sink generateVersion rules before = .ok (bytes, after) →
      RulesWritten packages source final recover sink.isMmap generateVersion levels rules before bytes after
  | [], levels, bytes, before, after, _, _, ok => by
    cases ok
    exact ⟨prefix_rfl, by simp, fun _ => ⟨[], rfl, rfl, by simp⟩⟩
  | rule :: rules, levels, bytes, before, after, fit, depth, ok => by
    obtain ⟨ruleBytes, middle, ruleOk, rest⟩ := bind_ok ok
    obtain ⟨moreBytes, last, rulesOk, rest⟩ := bind_ok rest
    cases rest
    obtain ⟨ruleDepth, rulesDepth⟩ := Nat.max_lt.mp depth
    obtain ⟨ruleFits, rulesFit⟩ := forall_mem_cons.mp fit
    have first := writeRule_written recover readBy rule ruleFits ruleDepth ruleOk
    have others := writeRules_written recover readBy rules rulesFit rulesDepth rulesOk
    refine ⟨first.grows.trans others.grows, forall_mem_cons.mpr ⟨first.builds, others.builds⟩, fun kept => ?_⟩
    obtain ⟨parts, rfl, rfl, answers⟩ := others.parts kept
    exact ⟨(rule, ruleBytes) :: parts, rfl, rfl,
      forall_mem_cons.mpr ⟨first.answers (others.grows.trans kept), answers⟩⟩
end

end Rule

end SingBox.Srs
