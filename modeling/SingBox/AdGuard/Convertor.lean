import SingBox.Lib.Text
import SingBox.Srs.Options

/-! # AdGuard filter lists and headless rules

`common/convertor/adguard`: `ToOptions` reads the lines of a filter list, sorts them by
what they mean and nests them in up to three layers of logical rules.
-/

namespace SingBox.AdGuard

open Options (Text)
open Lib.Text

/-- The byte of a character of ASCII. -/
def byte (char : Char) : UInt8 := UInt8.ofNat char.toNat

abbrev ascii (chars : List Char) : Text := chars.map byte

/-- Letters, digits, `-`, `_` and `.`. -/
def isNameByte (code : UInt8) : Bool :=
  (byte 'a' ≤ code && code ≤ byte 'z') || (byte 'A' ≤ code && code ≤ byte 'Z') ||
    (byte '0' ≤ code && code ≤ byte '9') || code == byte '-' || code == byte '_' || code == byte '.'

/-- The functions of other packages that the convertor calls, most of them parsers of names and
addresses. A name is a name of the domain name system, of at most 254 bytes. -/
structure Parsers where
  isDomainName : Text → Bool
  /-- `netip.ParseAddr`, and whether the address is unspecified. -/
  parseAddr : Text → Option Bool
  /-- `M.ParseAddr(text).IsUnspecified()`. -/
  isUnspecified : Text → Bool
  /-- Whether `common.Map` makes an empty list of an empty list, and not nil. -/
  mapKeepsEmpty : Bool
  name_ne_nil : isDomainName [] = false
  name_bytes {text : Text} : isDomainName text → ∀ code ∈ text, isNameByte code
  name_length {text : Text} : isDomainName text → text.length ≤ 254
  /-- The only name that begins with a dot or a hyphen is the root, and `r.` is a name too. -/
  name_after_r {text : Text} : isDomainName text → text.head? = some (byte '.') ∨ text.head? = some (byte '-') →
    isDomainName (byte 'r' :: text)
  addr_start {text : Text} : parseAddr text ≠ none → text.head? ≠ some (byte '/') ∧ text.head? ≠ some (byte '@')

/-! ## Lines -/

/-- `agdguardRuleLine`. -/
structure RuleLine where
  ruleLine : Text
  isRawDomain : Bool := false
  isExclude : Bool := false
  isSuffix : Bool := false
  hasStart : Bool := false
  hasEnd : Bool := false
  isRegexp : Bool := false
  isImportant : Bool := false
deriving DecidableEq, Repr

/-- `mapDomain`: the pattern or the expression of a line. -/
def RuleLine.mapDomain (line : RuleLine) : Text :=
  let ruleLine := line.ruleLine
  let ruleLine :=
    if line.isSuffix then ascii ['|', '|'] ++ ruleLine
    else if line.hasStart then byte '|' :: ruleLine
    else ruleLine
  if line.hasEnd then ruleLine ++ [byte '^'] else ruleLine

/-- What the loop of `ToOptions` makes of one line. A line that is only a slash makes it
panic, in `ruleLine[1 : len(ruleLine)-1]`. -/
inductive Parsed where
  | skipped
  | ignored
  | rule (line : RuleLine)
  | panicked
deriving DecidableEq, Repr

variable (text : Text)

/-- `strings.TrimSuffix(text, "|")`. -/
def trimBar : Text := if text.getLast? = some (byte '|') then text.dropLast else text

/-! ### Expressions for addresses -/

def isDigit (code : UInt8) : Bool := byte '0' ≤ code && code ≤ byte '9'

/-- `strconv.ParseUint(text, 10, 8)` succeeds. -/
def isUint8 : Bool :=
  text ≠ [] && text.all isDigit &&
    text.foldl (fun value code => value * 10 + (code.toNat - 48)) 0 ≤ 255

/-- `(http?:\/\/)`. -/
def http : Text := ascii ['(', 'h', 't', 't', 'p', '?', ':', '\\', '/', '\\', '/', ')']

/-- `(https?:\/\/)`. -/
def https : Text := ascii ['(', 'h', 't', 't', 'p', 's', '?', ':', '\\', '/', '\\', '/', ')']

variable (ruleLine : Text)

/-- The expression without the beginning that an address may have. -/
def cutScheme : Text :=
  if http <+: ruleLine then ruleLine.drop 12
  else if https <+: ruleLine then ruleLine.drop 13
  else if ruleLine.head? = some (byte '^') then ruleLine.drop 1
  else ruleLine

def ignoreIPCIDRRegexp : Bool :=
  let ruleLine := cutScheme ruleLine
  isUint8 (before (ascii ['\\', '.']) ruleLine) || isUint8 (before (ascii ['.']) ruleLine)

/-! ### Words -/

def important : Text := ascii ['i', 'm', 'p', 'o', 'r', 't', 'a', 'n', 't']

def dnsrewrite : Text := ascii ['d', 'n', 's', 'r', 'e', 'w', 'r', 'i', 't', 'e']

section Parse

variable (parsers : Parsers)

/-! ### Host lines -/

variable (ruleLine : Text)

/-- `parseAdGuardHostLine`: `none` for an error, and no name for an address that is not
unspecified. -/
def parseAdGuardHostLine : Option Text := do
  let domain ← after? [byte ' '] ruleLine
  let unspecified ← parsers.parseAddr (before [byte ' '] ruleLine)
  if !unspecified then return []
  else if parsers.isDomainName domain then return domain
  else none

/-! ### Modifiers -/

/-- One modifier: whether it is `important`, or `none` for one that is not supported, such
as `app`, `network` and `dnstype`. -/
def parseModifier (param : Text) : Option Bool :=
  match param.splitOn (byte '=') with
  | [name] => if name = important then some true else none
  | [name, value] =>
    if name = important then some true
    else if name = dnsrewrite ∧ parsers.isUnspecified value then some false
    else none
  | _ => none

/-- The loop over the modifiers, which the first unsupported one ends. -/
def parseModifiers : List Text → Option Bool
  | [] => some false
  | param :: params => do
    let isImportant ← parseModifier parsers param
    let others ← parseModifiers params
    return isImportant || others

variable (line : RuleLine)

def cutModifiers : Option RuleLine :=
  if line.ruleLine.head? = some (byte '/') then some line
  else match after? [byte '$'] line.ruleLine with
    | none => some line
    | some params => do
      let isImportant ← parseModifiers parsers (params.splitOn (byte ','))
      return { line with ruleLine := before [byte '$'] line.ruleLine, isImportant }

/-! ### Marks -/

def cutExclude : RuleLine :=
  if ascii ['@', '@'] <+: line.ruleLine then { line with ruleLine := line.ruleLine.drop 2, isExclude := true }
  else line

def cutBar : RuleLine := { line with ruleLine := trimBar line.ruleLine }

def cutStart : RuleLine :=
  if ascii ['|', '|'] <+: line.ruleLine then { line with ruleLine := line.ruleLine.drop 2, isSuffix := true }
  else if line.ruleLine.head? = some (byte '|') then { line with ruleLine := line.ruleLine.drop 1, hasStart := true }
  else line

def cutEnd : RuleLine :=
  if line.ruleLine.getLast? = some (byte '^') then { line with ruleLine := line.ruleLine.dropLast, hasEnd := true }
  else line

/-! ### Patterns and expressions -/

/-- `domainCheck`: the pattern with its stars filled in. -/
def domainCheck : Text :=
  let start := if ruleLine.head? = some (byte '.') ∨ ruleLine.head? = some (byte '-') then byte 'r' :: ruleLine
    else ruleLine
  start.map fun code => if code = byte '*' then byte 'x' else code

/-- The signs of a path, of a query, of a cosmetic filter and of another modifier. -/
def unsupported : Text := ascii ['/', '?', '&', '[', ']', '(', ')', '!', '#', '~']

/-- What stands after `://` is a suffix. -/
def cutUrl : RuleLine :=
  match after? (ascii [':', '/', '/']) line.ruleLine with
  | some ruleLine => { line with ruleLine, isSuffix := true }
  | none => line

def checkPattern : Parsed :=
  if unsupported.any line.ruleLine.contains then .ignored
  else if line.ruleLine = [] then .ignored
  else if parsers.isDomainName (domainCheck line.ruleLine) then .rule line
  else .ignored

def checkExpression : Parsed :=
  if ignoreIPCIDRRegexp line.ruleLine then .ignored else .rule { line with isRegexp := true }

def parseBody : Parsed :=
  if line.ruleLine.head? = some (byte '/') ∧ line.ruleLine.getLast? = some (byte '/') then
    if line.ruleLine.length < 2 then .panicked
    else checkExpression { line with ruleLine := line.ruleLine.tail.dropLast }
  else checkPattern parsers (cutUrl line)

/-- The marks around a pattern or an expression, then itself. -/
def parseMarks : Parsed := parseBody parsers (cutEnd (cutStart (cutBar (cutExclude line))))

def parseRule : Parsed :=
  match cutModifiers parsers { ruleLine := trimBar ruleLine } with
  | none => .ignored
  | some line => parseMarks parsers line

/-- The body of the loop. -/
def parseLine : Parsed :=
  if ruleLine = [] then .skipped
  else if ruleLine.head? = some (byte '!') ∨ ruleLine.head? = some (byte '#') then .skipped
  else if parsers.isDomainName ruleLine then .rule { ruleLine, isRawDomain := true }
  else match parseAdGuardHostLine parsers ruleLine with
    | some [] => .skipped
    | some hostLine => .rule { ruleLine := hostLine, isRawDomain := true, hasStart := true, hasEnd := true }
    | none => parseRule parsers ruleLine

/-- The rules of the lines; `none` for a panic. -/
def parseLines : List Text → Option (List RuleLine)
  | [] => some []
  | line :: lines =>
    match parseLine parsers line with
    | .skipped | .ignored => parseLines lines
    | .rule rule => (parseLines lines).map (rule :: ·)
    | .panicked => none

end Parse

/-! ### The scanner -/

/-- `bufio.MaxScanTokenSize`: a line must be shorter. -/
def maxScanTokenSize : Nat := 65536

/-- What `bufio.ScanLines` drops of the end of a line. -/
def dropCR (line : Text) : Text := if line.getLast? = some (byte '\r') then line.dropLast else line

/-- The texts between the line feeds, without an empty one after the last of them. -/
def splitLines : List Text :=
  let lines := text.splitOn (byte '\n')
  if lines.getLast? = some [] then lines.dropLast else lines

/-- The lines that `bufio.Scanner` finds. It stops at one that is too long, and `ToOptions`
does not ask why. -/
def scanLines : List Text :=
  ((splitLines text).takeWhile fun line => line.length < maxScanTokenSize).map dropCR

def parseText (parsers : Parsers) (text : Text) : Option (List RuleLine) := parseLines parsers (scanLines text)

/-! ## Rules -/

/-- The patterns and the expressions of one kind of rule. -/
structure Part where
  domain : List Text := []
  domainRegex : List Text := []
deriving DecidableEq, Repr

variable (part : Part)

def Part.isEmpty : Bool := part.domain.isEmpty && part.domainRegex.isEmpty

/-- The eight lists. -/
structure Parts where
  important : Part := {}
  importantExclude : Part := {}
  plain : Part := {}
  exclude : Part := {}
deriving DecidableEq, Repr

variable (ruleLines : List RuleLine)

/-- The lines with these marks, as patterns or expressions. -/
def select (isImportant isExclude isRegexp : Bool) : List Text :=
  (ruleLines.filter fun it =>
    it.isImportant == isImportant && it.isRegexp == isRegexp && it.isExclude == isExclude).map RuleLine.mapDomain

theorem mem_select {ruleLines : List RuleLine} {isImportant isExclude isRegexp : Bool} {text : Text} :
    text ∈ select ruleLines isImportant isExclude isRegexp ↔
      ∃ line ∈ ruleLines, line.isImportant = isImportant ∧ line.isExclude = isExclude ∧
        line.isRegexp = isRegexp ∧ line.mapDomain = text := by
  simp only [select, List.mem_map, List.mem_filter, Bool.and_eq_true, beq_iff_eq]
  constructor
  · rintro ⟨line, ⟨mem, ⟨important, regexp⟩, excluded⟩, same⟩
    exact ⟨line, mem, important, excluded, regexp, same⟩
  · rintro ⟨line, mem, important, excluded, regexp, same⟩
    exact ⟨line, ⟨mem, ⟨important, regexp⟩, excluded⟩, same⟩

def Part.ofLines (isImportant isExclude : Bool) : Part where
  domain := select ruleLines isImportant isExclude false
  domainRegex := select ruleLines isImportant isExclude true

def Parts.ofLines : Parts where
  important := Part.ofLines ruleLines true false
  importantExclude := Part.ofLines ruleLines true true
  plain := Part.ofLines ruleLines false false
  exclude := Part.ofLines ruleLines false true

section Rules

variable {matchers : Options.Matchers} (parsers : Parsers)

/-- A default rule for a part, whose lists come from `common.Map`. -/
def Part.options (part : Part) (invert : Bool) : Options.DefaultHeadlessRule matchers :=
  { adGuardDomain := part.domain
    domainRegex := part.domainRegex
    invert
    hasEmptyList := parsers.mapKeepsEmpty && (part.domain.isEmpty || part.domainRegex.isEmpty) }

/-- A rule with a part in front of it, unless the part is empty. -/
def Part.layer (part : Part) (mode : Options.LogicalMode) (invert : Bool)
    (currentRule : Options.HeadlessRule matchers) : Options.HeadlessRule matchers :=
  if part.isEmpty then currentRule
  else .logical mode [.default (part.options parsers invert), currentRule] .asIs false

def Parts.rule (parts : Parts) : Options.HeadlessRule matchers :=
  parts.importantExclude.layer parsers .and true
    (parts.important.layer parsers .or false
      (parts.exclude.layer parsers .and true
        (.default (parts.plain.options parsers false))))

inductive ToOptionsError where
  /-- "AdGuard rule-set is empty or all rules are unsupported". -/
  | empty
  | panicked
deriving DecidableEq, Repr

def toOptions (text : Text) : Except ToOptionsError (List (Options.HeadlessRule matchers)) :=
  match parseText parsers text with
  | none => .error .panicked
  | some ruleLines =>
    if ruleLines = [] then .error .empty
    else if ruleLines.all RuleLine.isRawDomain then .ok [.default { domain := ruleLines.map RuleLine.ruleLine }]
    else .ok [(Parts.ofLines ruleLines).rule parsers]

end Rules

end SingBox.AdGuard
