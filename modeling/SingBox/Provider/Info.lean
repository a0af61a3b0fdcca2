import Mathlib.Data.List.Basic
import Mathlib.Data.Int.Basic

/-! # The subscription info

`parseInfo` of `provider/remote/remote.go` searches a line for at most four assignments with a
regular expression, wherever they stand; `saveCacheFile` writes the info as such a line.

Texts are the strings of the source, that is sequences of bytes; a byte is written as the
character with its code.
-/

open List Nat

namespace SingBox.Provider

abbrev Text := List Char

/-! ## Numbers -/

/-- `fmt.Sprint` of an `int64`. -/
def formatInt64 (value : Int64) : Text :=
  if value.toInt < 0 then '-' :: Nat.toDigits 10 value.toInt.natAbs else Nat.toDigits 10 value.toInt.natAbs

/-- `StringToType[int64]` of an optional sign and digits: without digits the value is zero, and
a number out of range is the nearest in range. -/
def stringToInt64 : Text → Int64
  | '-' :: digits => .ofIntClamp (-Nat.ofDigitChars 10 digits 0)
  | digits => .ofIntClamp (Nat.ofDigitChars 10 digits 0)

variable {char : Char}

theorem isDigit_of_mem_toDigits {number : Nat} (isMember : char ∈ Nat.toDigits 10 number) : char.isDigit :=
  Nat.isDigit_of_mem_toDigits (by decide) (by decide) isMember

variable (value : Int64)

theorem stringToInt64_formatInt64 : stringToInt64 (formatInt64 value) = value := by
  unfold formatInt64
  split
  case isTrue negative =>
    have same : -((value.toInt.natAbs : Nat) : Int) = value.toInt := by omega
    rw [stringToInt64, ofDigitChars_ten_toDigits, same, Int64.ofIntClamp_toInt]
  case isFalse notNegative =>
    have same : ((value.toInt.natAbs : Nat) : Int) = value.toInt := by omega
    have noSign : ∀ digits, toDigits 10 value.toInt.natAbs ≠ '-' :: digits := by
      intro digits isDigits
      have isMember : '-' ∈ toDigits 10 value.toInt.natAbs := by rw [isDigits]; exact mem_cons_self
      exact absurd (isDigit_of_mem_toDigits isMember) (by decide)
    rw [stringToInt64, ofDigitChars_ten_toDigits, same, Int64.ofIntClamp_toInt]
    exact noSign

/-! ## The regular expression -/

inductive InfoKey where
  | upload
  | download
  | total
  | expire
deriving DecidableEq, Repr

def InfoKey.word : InfoKey → Text
  | .upload => ['u', 'p', 'l', 'o', 'a', 'd']
  | .download => ['d', 'o', 'w', 'n', 'l', 'o', 'a', 'd']
  | .total => ['t', 'o', 't', 'a', 'l']
  | .expire => ['e', 'x', 'p', 'i', 'r', 'e']

/-- The class `\\s`. -/
def isSpace (char : Char) : Bool :=
  char = ' ' ∨ char = '\t' ∨ char = '\n' ∨ char = '\x0c' ∨ char = '\r'

/-- A match: both groups, and the text after it. -/
structure Assignment where
  key : InfoKey
  value : Text
  rest : Text
deriving DecidableEq, Repr

/-- `(-?\\d*);?`. No part of the expression can match in two ways, so that it is read without
going back. -/
def matchValue (key : InfoKey) (text : Text) : Assignment :=
  let (sign, text) : Text × Text :=
    match text with
    | '-' :: text => (['-'], text)
    | text => ([], text)
  let digits := text.takeWhile Char.isDigit
  let text := text.dropWhile Char.isDigit
  let text :=
    match text with
    | ';' :: text => text
    | text => text
  { key, value := sign ++ digits, rest := text }

variable (text : Text)

def matchKey (key : InfoKey) : Option Assignment :=
  match key.word.isPrefixOf? text with
  | none => none
  | some text =>
    match text.dropWhile isSpace with
    | '=' :: text => some (matchValue key (text.dropWhile isSpace))
    | _ => none

/-- The match that starts with the text. -/
def matchAt : Option Assignment :=
  [InfoKey.upload, .download, .total, .expire].findSome? (matchKey text)

/-- `FindAllStringSubmatch`: every round consumes at least a character. -/
def findAllFrom : (rounds limit : Nat) → Text → List Assignment
  | rounds + 1, limit + 1, char :: text =>
    match matchAt (char :: text) with
    | some found => found :: findAllFrom rounds limit found.rest
    | none => findAllFrom rounds (limit + 1) text
  | _, _, _ => []

def findAll (limit : Nat) (text : Text) : List Assignment := findAllFrom text.length limit text

/-! ## The info -/

structure SubscriptionInfo where
  upload : Int64 := 0
  download : Int64 := 0
  total : Int64 := 0
  expire : Int64 := 0
deriving DecidableEq, Repr

variable (info : SubscriptionInfo)

def SubscriptionInfo.assign (found : Assignment) : SubscriptionInfo :=
  match found.key with
  | .upload => { info with upload := stringToInt64 found.value }
  | .download => { info with download := stringToInt64 found.value }
  | .total => { info with total := stringToInt64 found.value }
  | .expire => { info with expire := stringToInt64 found.value }

/-- The info is zero where the source returns `false`. -/
def parseInfo (infoStr : Text) : Option SubscriptionInfo :=
  match findAll 4 infoStr with
  | [] => none
  | found => some (found.foldl SubscriptionInfo.assign {})

def InfoKey.assign (key : InfoKey) (value : Int64) (rest : Text) : Text :=
  key.word ++ '=' :: (formatInt64 value ++ ';' :: rest)

/-- The line that `saveCacheFile` writes: `# upload=0; download=0; total=0; expire=0;`. -/
def SubscriptionInfo.line : Text :=
  '#' :: ' ' :: InfoKey.upload.assign info.upload (' ' :: InfoKey.download.assign info.download
    (' ' :: InfoKey.total.assign info.total (' ' :: InfoKey.expire.assign info.expire [])))

/-! ## The line is read back -/

theorem formatInt64_eq :
    formatInt64 value = '-' :: Nat.toDigits 10 value.toInt.natAbs ∨
      formatInt64 value = Nat.toDigits 10 value.toInt.natAbs := by
  unfold formatInt64
  split
  · exact .inl rfl
  · exact .inr rfl

theorem takeWhile_toDigits (number : Nat) (text : Text) :
    (Nat.toDigits 10 number ++ ';' :: text).takeWhile Char.isDigit = Nat.toDigits 10 number := by
  rw [takeWhile_append_of_pos fun char isMember => isDigit_of_mem_toDigits isMember,
    takeWhile_cons_of_neg (by decide), append_nil]

theorem dropWhile_toDigits (number : Nat) (text : Text) :
    (Nat.toDigits 10 number ++ ';' :: text).dropWhile Char.isDigit = ';' :: text := by
  rw [dropWhile_append_of_pos fun char isMember => isDigit_of_mem_toDigits isMember,
    dropWhile_cons_of_neg (by decide)]

variable (key : InfoKey)

theorem matchValue_formatInt64 (value : Int64) (text : Text) :
    matchValue key (formatInt64 value ++ ';' :: text) = ⟨key, formatInt64 value, text⟩ := by
  rcases formatInt64_eq value with isValue | isValue
  · rw [isValue, cons_append, matchValue]
    simp [takeWhile_toDigits, dropWhile_toDigits]
  · obtain ⟨digit, digits, isDigits⟩ := exists_cons_of_ne_nil (@Nat.toDigits_ne_nil value.toInt.natAbs 10)
    have noSign : digit ≠ '-' := by
      rintro rfl
      have isMember : '-' ∈ toDigits 10 value.toInt.natAbs := by rw [isDigits]; exact mem_cons_self
      exact absurd (isDigit_of_mem_toDigits isMember) (by decide)
    have taken := takeWhile_toDigits value.toInt.natAbs text
    have dropped := dropWhile_toDigits value.toInt.natAbs text
    rw [isDigits, cons_append] at taken dropped
    rw [isValue, isDigits, cons_append, matchValue]
    · simp [taken, dropped]
    · exact fun rest isCons => noSign (List.cons.inj isCons).1

/-- A number is no space: there is nothing to skip in front of it. -/
theorem dropWhile_formatInt64 : (formatInt64 value ++ text).dropWhile isSpace = formatInt64 value ++ text := by
  rcases formatInt64_eq value with isValue | isValue
  · rw [isValue, cons_append, dropWhile_cons_of_neg (by decide)]
  · obtain ⟨digit, digits, isDigits⟩ := exists_cons_of_ne_nil (@Nat.toDigits_ne_nil value.toInt.natAbs 10)
    have isDigit : digit.isDigit := isDigit_of_mem_toDigits (by rw [isDigits]; exact mem_cons_self)
    have noSpace : ¬isSpace digit := by
      intro space
      simp only [isSpace, decide_eq_true_eq] at space
      rcases space with rfl | rfl | rfl | rfl | rfl <;> exact absurd isDigit (by decide)
    rw [isValue, isDigits, cons_append, dropWhile_cons_of_neg noSpace]

theorem matchKey_eq_none {key : InfoKey} (other : key.word.head? ≠ some char) (text : Text) :
    matchKey (char :: text) key = none := by
  obtain ⟨first, rest, isWord⟩ : ∃ first rest, key.word = first :: rest := by
    cases key <;> exact ⟨_, _, rfl⟩
  have different : (first == char) = false := by
    rw [isWord] at other
    simpa using other
  rw [matchKey, isWord]
  simp [List.isPrefixOf?, different]

theorem matchKey_assignment (value : Int64) (text : Text) :
    matchKey (key.assign value text) key = some ⟨key, formatInt64 value, text⟩ := by
  have found : key.word.isPrefixOf? (key.assign value text) = some ('=' :: (formatInt64 value ++ ';' :: text)) := by
    rw [isPrefixOf?_eq_some_iff_append_eq, InfoKey.assign]
  rw [matchKey, found]
  simp [dropWhile_cons_of_neg (show ¬isSpace '=' = true by decide), dropWhile_formatInt64, matchValue_formatInt64]

theorem matchAt_assignment (value : Int64) (text : Text) :
    matchAt (key.assign value text) = some ⟨key, formatInt64 value, text⟩ := by
  have found := matchKey_assignment key value text
  have others : ∀ other, other.word.head? ≠ key.word.head? →
      matchKey (key.assign value text) other = none := by
    intro other different
    obtain ⟨first, rest, isWord⟩ : ∃ first rest, key.word = first :: rest := by
      cases key <;> exact ⟨_, _, rfl⟩
    rw [InfoKey.assign, isWord]
    rw [isWord] at different
    exact matchKey_eq_none different _
  -- the four words start with different letters
  cases key with
  | upload => simp [matchAt, found]
  | download => simp [matchAt, others .upload (by decide), found]
  | total => simp [matchAt, others .upload (by decide), others .download (by decide), found]
  | expire =>
    simp only [matchAt, findSome?_cons, others .upload (by decide), others .download (by decide),
      others .total (by decide), found]

theorem findAllFrom_skip (other : ∀ key : InfoKey, key.word.head? ≠ some char) (rounds limit : Nat)
    (text : Text) : findAllFrom (rounds + 1) (limit + 1) (char :: text) = findAllFrom rounds (limit + 1) text := by
  simp [findAllFrom, matchAt, findSome?_nil, matchKey_eq_none (other _)]

theorem findAllFrom_assignment (rounds limit : Nat) (key : InfoKey) (value : Int64) (text : Text) :
    findAllFrom (rounds + 1) (limit + 1) (key.assign value text) =
      ⟨key, formatInt64 value, text⟩ :: findAllFrom rounds limit text := by
  have found := matchAt_assignment key value text
  obtain ⟨first, rest, isWord⟩ : ∃ first rest, key.word = first :: rest := by
    cases key <;> exact ⟨_, _, rfl⟩
  rw [InfoKey.assign, isWord, cons_append] at found ⊢
  rw [findAllFrom, found]

variable (info : SubscriptionInfo)

theorem parseInfo_line : parseInfo info.line = some info := by
  have hash : ∀ key : InfoKey, key.word.head? ≠ some '#' := fun key => by cases key <;> decide
  have space : ∀ key : InfoKey, key.word.head? ≠ some ' ' := fun key => by cases key <;> decide
  -- nine rounds reach the last assignment, and the line has more characters
  obtain ⟨rounds, isLength⟩ : ∃ rounds, info.line.length = rounds + 9 := by
    refine ⟨info.line.length - 9, ?_⟩
    have long : 9 ≤ info.line.length := by
      simp only [SubscriptionInfo.line, InfoKey.assign, InfoKey.word, length_append, length_cons]
      omega
    omega
  rw [parseInfo, findAll, isLength, SubscriptionInfo.line]
  simp only [findAllFrom_skip hash, findAllFrom_skip space, findAllFrom_assignment]
  simp [findAllFrom, foldl_cons, foldl_nil, SubscriptionInfo.assign, stringToInt64_formatInt64]

theorem formatInt64_newline : '\n' ∉ formatInt64 value := by
  have digits : '\n' ∉ toDigits 10 value.toInt.natAbs :=
    fun isMember => absurd (isDigit_of_mem_toDigits isMember) (by decide)
  rcases formatInt64_eq value with isValue | isValue
  · simp [isValue, digits]
  · simp [isValue, digits]

theorem SubscriptionInfo.line_newline : '\n' ∉ info.line := by
  simp [SubscriptionInfo.line, InfoKey.assign, InfoKey.word, formatInt64_newline]

end SingBox.Provider
