import Mathlib.Data.List.Basic
import Mathlib.Data.Prod.Lex
import Mathlib.Data.Set.Basic

/-! # Versions

`common/badversion/version.go`: versions and their comparison.
-/

namespace SingBox

structure Version where
  major : Int := 0
  minor : Int := 0
  patch : Int := 0
  commit : List Char := []
  preReleaseIdentifier : List Char := []
  preReleaseVersion : Int := 0
deriving DecidableEq

namespace Version

variable (identifier : List Char)

def parsePreReleaseIdentifier : Nat :=
  if ['r', 'c'].isPrefixOf identifier then 1
  else if ['b', 'e', 't', 'a'].isPrefixOf identifier then 2
  else if ['a', 'l', 'p', 'h', 'a'].isPrefixOf identifier then 3
  else 0

variable (v another : Version)

/-- The end of `GreaterThan`, for equal numbers. -/
def preReleaseGreaterThan : Bool :=
  if v.preReleaseIdentifier = [] ∧ another.preReleaseIdentifier ≠ [] then true
  else if v.preReleaseIdentifier = [] ∨ another.preReleaseIdentifier = [] then false
  else if v.preReleaseIdentifier = another.preReleaseIdentifier ∧ v.preReleaseVersion > another.preReleaseVersion then
    true
  else if v.preReleaseIdentifier = another.preReleaseIdentifier ∧ v.preReleaseVersion < another.preReleaseVersion then
    false
  else parsePreReleaseIdentifier v.preReleaseIdentifier < parsePreReleaseIdentifier another.preReleaseIdentifier

def GreaterThan : Bool :=
  if v.major > another.major then true
  else if v.major < another.major then false
  else if v.minor > another.minor then true
  else if v.minor < another.minor then false
  else if v.patch > another.patch then true
  else if v.patch < another.patch then false
  else v.preReleaseGreaterThan another

def GreaterThanOrEqual : Bool := v = another || v.GreaterThan another

def LessThan : Bool := !v.GreaterThanOrEqual another

def LessThanOrEqual : Bool := v = another || another.GreaterThan v

/-- `strconv.Atoi` without its error: the nearest number in range, and zero for what is no
number, unless digits that no `uint64` can hold come first. -/
def Atoi (text : List Char) : Int :=
  let number (digits : List Char) : Int :=
    let value := Nat.ofDigitChars 10 (digits.takeWhile (·.isDigit)) 0
    if digits.all (·.isDigit) ∨ UInt64.size ≤ value then value else 0
  match text with
  | '-' :: digits => (Int64.ofIntClamp (-number digits)).toInt
  | '+' :: digits => (Int64.ofIntClamp (number digits)).toInt
  | digits => (Int64.ofIntClamp (number digits)).toInt

def preRelease : Version :=
  match identifier.splitOn '.' with
  | name :: number :: _ => { preReleaseIdentifier := name, preReleaseVersion := Atoi number }
  | _ =>
    let alpha := ['a', 'l', 'p', 'h', 'a']
    let beta := ['b', 'e', 't', 'a']
    if alpha.isPrefixOf identifier then { preReleaseIdentifier := alpha, preReleaseVersion := Atoi (identifier.drop 5) }
    else if beta.isPrefixOf identifier then { preReleaseIdentifier := beta, preReleaseVersion := Atoi (identifier.drop 4) }
    else { commit := identifier }

def Parse (versionName : List Char) : Version :=
  let parts := (if ['v'].isPrefixOf versionName then versionName.drop 1 else versionName).splitOn '-'
  let elements := (parts.getD 0 []).splitOn '.'
  { (parts[1]?.map preRelease).getD {} with
    major := Atoi (elements.getD 0 [])
    minor := Atoi (elements.getD 1 [])
    patch := Atoi (elements.getD 2 []) }

def numbers : ℤ ×ₗ ℤ ×ₗ ℤ := toLex (v.major, toLex (v.minor, v.patch))

/-- The two differ, but in nothing that the comparison looks at. -/
def Ties : Prop :=
  v ≠ another ∧ v.numbers = another.numbers ∧ (v.preReleaseIdentifier = [] ↔ another.preReleaseIdentifier = []) ∧
    (v.preReleaseIdentifier = another.preReleaseIdentifier → v.preReleaseIdentifier ≠ [] →
      v.preReleaseVersion = another.preReleaseVersion) ∧
    parsePreReleaseIdentifier v.preReleaseIdentifier = parsePreReleaseIdentifier another.preReleaseIdentifier

variable {v another} {third : Version}

theorem greaterThan_iff : v.GreaterThan another ↔
    another.numbers < v.numbers ∨ another.numbers = v.numbers ∧ v.preReleaseGreaterThan another := by
  unfold GreaterThan
  simp only [numbers, Prod.Lex.toLex_lt_toLex, toLex_inj, Prod.mk.injEq]
  grind

theorem preReleaseGreaterThan_iff : v.preReleaseGreaterThan another ↔ another.preReleaseIdentifier ≠ [] ∧
    (v.preReleaseIdentifier = [] ∨
      v.preReleaseIdentifier = another.preReleaseIdentifier ∧ another.preReleaseVersion < v.preReleaseVersion ∨
      v.preReleaseIdentifier ≠ [] ∧
        parsePreReleaseIdentifier v.preReleaseIdentifier < parsePreReleaseIdentifier another.preReleaseIdentifier) := by
  unfold preReleaseGreaterThan
  grind

/-- Of two versions one is greater, unless they are equal or tie. -/
theorem ties_iff : v.Ties another ↔ v ≠ another ∧ ¬v.GreaterThan another ∧ ¬another.GreaterThan v := by
  rw [greaterThan_iff, greaterThan_iff, preReleaseGreaterThan_iff, preReleaseGreaterThan_iff, Ties]
  grind

theorem greaterThan_asymm (greater : v.GreaterThan another) : ¬another.GreaterThan v := by
  rw [greaterThan_iff, preReleaseGreaterThan_iff] at *
  grind

theorem greaterThan_trans (greater : v.GreaterThan another) (next : another.GreaterThan third) :
    v.GreaterThan third := by
  rw [greaterThan_iff, preReleaseGreaterThan_iff] at *
  grind

theorem lessThan_iff : v.LessThan another ↔ v ≠ another ∧ ¬v.GreaterThan another := by
  simp [LessThan, GreaterThanOrEqual]

/-- The laws that three versions are expected to meet. -/
def Lawful (a b c : Version) : Prop :=
  ¬(a.LessThan b ∧ b.LessThan a) ∧
    (a.LessThan b → b.LessThan c → a.LessThan c) ∧
    (a.GreaterThan b ↔ b.LessThan a) ∧ (a.LessThanOrEqual b ↔ ¬a.GreaterThan b)

/-- The versions of some strings are ordered exactly if no two of them tie. -/
theorem lawful_iff_not_ties (names : Set (List Char)) :
    (∀ a ∈ names, ∀ b ∈ names, ∀ c ∈ names, Lawful (Parse a) (Parse b) (Parse c)) ↔
      ∀ a ∈ names, ∀ b ∈ names, ¬(Parse a).Ties (Parse b) := by
  simp only [ties_iff]
  constructor
  · rintro lawful a isA b isB ⟨distinct, notGreater, notLess⟩
    apply (lawful a isA b isB b isB).1
    exact ⟨lessThan_iff.mpr ⟨distinct, notGreater⟩, lessThan_iff.mpr ⟨distinct.symm, notLess⟩⟩
  · intro untied a isA b isB c isC
    have less_iff : ∀ v ∈ names, ∀ w ∈ names,
        (Parse v).LessThan (Parse w) ↔ (Parse w).GreaterThan (Parse v) := by
      intro v isV w isW
      have := untied v isV w isW
      rw [lessThan_iff]
      grind [greaterThan_asymm]
    rw [Lawful, less_iff a isA b isB, less_iff b isB a isA, less_iff b isB c isC, less_iff a isA c isC]
    have := untied a isA b isB
    refine ⟨fun both => greaterThan_asymm both.1 both.2, fun less next => greaterThan_trans next less, Iff.rfl, ?_⟩
    rw [LessThanOrEqual]
    grind [greaterThan_asymm]

theorem commits_tie : ¬Lawful (Parse ['1', '-', 'a']) (Parse ['1', '-', 'b']) (Parse ['1']) := by
  intro lawful
  exact lawful.1 (by decide +kernel)

end Version

end SingBox
