import Mathlib.Data.List.Basic

/-! # Three-valued verdicts

Strong Kleene logic over `no`, `yes` and `unknown`. A verdict lies below another
when it is unknown or the same; the connectives are monotone in that order, so a
formula whose leaves become known never takes back a verdict it had reached.
-/

namespace Lib.Kleene

inductive Verdict where
  | no
  | yes
  | unknown
deriving DecidableEq, Repr

variable {second' verdict : Verdict} {verdicts : List Verdict}

namespace Verdict

def ofBool : Bool → Verdict
  | false => .no
  | true => .yes

/-- Everything but a definite `no`. -/
def possible : Verdict → Bool
  | .no => false
  | .yes | .unknown => true

def not : Verdict → Verdict
  | .no => .yes
  | .yes => .no
  | .unknown => .unknown

def and : Verdict → Verdict → Verdict
  | .no, _ => .no
  | .yes, other => other
  | .unknown, .no => .no
  | .unknown, _ => .unknown

def or : Verdict → Verdict → Verdict
  | .yes, _ => .yes
  | .no, other => other
  | .unknown, .yes => .yes
  | .unknown, _ => .unknown

def all (verdicts : List Verdict) : Verdict := verdicts.foldr and .yes

def any (verdicts : List Verdict) : Verdict := verdicts.foldr or .no

@[simp] theorem no_possible : no.possible = false := rfl

@[simp] theorem yes_possible : yes.possible := rfl

@[simp] theorem unknown_possible : unknown.possible := rfl

@[simp] theorem no_not : no.not = .yes := rfl

@[simp] theorem yes_not : yes.not = .no := rfl

@[simp] theorem unknown_not : unknown.not = .unknown := rfl

@[simp] theorem yes_and (verdict : Verdict) : yes.and verdict = verdict := rfl

@[simp] theorem no_or (verdict : Verdict) : no.or verdict = verdict := rfl

/-- The information order. -/
def Below (first second : Verdict) : Prop := first = .unknown ∨ first = second

instance (first second : Verdict) : Decidable (Below first second) := inferInstanceAs (Decidable (_ ∨ _))

/-! ## The information order -/

theorem Below.refl (verdict : Verdict) : Below verdict verdict := .inr rfl

variable {first second : Verdict}

theorem Below.of_eq (equal : first = second) : Below first second := .inr equal

theorem Below.of_known (no : first = .no → second = .no) (yes : first = .yes → second = .yes) : Below first second := by
  cases first with
  | no => exact .inr (no rfl).symm
  | yes => exact .inr (yes rfl).symm
  | unknown => exact .inl rfl

section
variable (below : Below first second)
include below

theorem Below.eq_of_no (known : first = .no) : second = .no := by
  rcases below with rfl | rfl
  · cases known
  · exact known

theorem Below.eq_of_yes (known : first = .yes) : second = .yes := by
  rcases below with rfl | rfl
  · cases known
  · exact known

theorem Below.possible (isPossible : second.possible) : first.possible := by
  rcases below with rfl | rfl
  · rfl
  · exact isPossible

theorem not_below : Below first.not second.not := by
  revert below
  cases first <;> cases second <;> decide

end

theorem and_below {first' : Verdict} (left : Below first first')
    (right : Below second second') : Below (first.and second) (first'.and second') := by
  revert left right
  cases first <;> cases first' <;> cases second <;> cases second' <;> decide

theorem or_below {first' : Verdict} (left : Below first first')
    (right : Below second second') : Below (first.or second) (first'.or second') := by
  revert left right
  cases first <;> cases first' <;> cases second <;> cases second' <;> decide

section Lists

variable {α : Type}

@[simp] theorem all_nil : all [] = .yes := rfl

@[simp] theorem any_nil : any [] = .no := rfl

@[simp] theorem all_cons (verdict : Verdict) (verdicts : List Verdict) :
    all (verdict :: verdicts) = verdict.and (all verdicts) := rfl

@[simp] theorem any_cons (verdict : Verdict) (verdicts : List Verdict) :
    any (verdict :: verdicts) = verdict.or (any verdicts) := rfl

variable (items : List α)

theorem all_map_below (first second : α → Verdict) (below : ∀ item ∈ items, Below (first item) (second item)) :
    Below (all (items.map first)) (all (items.map second)) := by
  induction items with
  | nil => exact .refl _
  | cons item items ih =>
    exact and_below (below item (by simp)) (ih fun other mem => below other (by simp [mem]))

theorem any_map_below (first second : α → Verdict) (below : ∀ item ∈ items, Below (first item) (second item)) :
    Below (any (items.map first)) (any (items.map second)) := by
  induction items with
  | nil => exact .refl _
  | cons item items ih =>
    exact or_below (below item (by simp)) (ih fun other mem => below other (by simp [mem]))

end Lists

/-! ## Verdicts that are known -/

@[simp] theorem ofBool_possible (value : Bool) : (ofBool value).possible = value := by cases value <;> rfl

theorem not_eq_unknown (known : verdict ≠ .unknown) : verdict.not ≠ .unknown := by
  revert known
  cases verdict <;> decide

theorem eq_no_iff (verdict : Verdict) : verdict = .no ↔ verdict.possible = false := by
  cases verdict <;> simp

section
variable (known : ∀ verdict ∈ verdicts, verdict ≠ .unknown)
include known

theorem all_ne_unknown : all verdicts ≠ .unknown := by
  induction verdicts with
  | nil => decide
  | cons verdict verdicts ih =>
    have head := known verdict (by simp)
    have tail := ih fun other mem => known other (by simp [mem])
    revert head tail
    rw [all_cons]
    cases verdict <;> cases all verdicts <;> decide

theorem any_ne_unknown : any verdicts ≠ .unknown := by
  induction verdicts with
  | nil => decide
  | cons verdict verdicts ih =>
    have head := known verdict (by simp)
    have tail := ih fun other mem => known other (by simp [mem])
    revert head tail
    rw [any_cons]
    cases verdict <;> cases any verdicts <;> decide

end

theorem not_possible (known : verdict ≠ .unknown) : verdict.not.possible = !verdict.possible := by
  revert known
  cases verdict <;> decide

theorem all_possible (verdicts : List Verdict) :
    (all verdicts).possible ↔ ∀ verdict ∈ verdicts, verdict.possible := by
  induction verdicts with
  | nil => simp
  | cons verdict verdicts ih =>
    rw [all_cons, List.forall_mem_cons, ← ih]
    cases verdict <;> cases all verdicts <;> decide

theorem any_possible (verdicts : List Verdict) :
    (any verdicts).possible ↔ ∃ verdict ∈ verdicts, verdict.possible := by
  induction verdicts with
  | nil => simp
  | cons verdict verdicts ih =>
    simp only [any_cons, List.mem_cons, exists_eq_or_imp, ← ih]
    cases verdict <;> cases any verdicts <;> decide

end Verdict

end Lib.Kleene
