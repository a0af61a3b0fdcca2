import Mathlib.Data.List.Induction
import Mathlib.Data.List.Nodup
import Mathlib.Data.PEquiv

/-! # Write-back layers over a partial bijection

A store keeps pairs, one index from left to right and one back. New pairs are gathered in a
layer above it: for a right end the layer knows its new left end, or that it has lost its
own. Readers ask the layer first. A `Sound` layer over a partial bijection reads as a
partial bijection again; adding a pair, writing the layer out and putting it back under a
newer one are all described by what readers see.
-/

open List Option Function

namespace Lib.Overlay

variable {α β : Type*}

/-- Pairs that are not in the store yet. `backward b = some none` is a tombstone. -/
structure Layer (α β : Type*) where
  forward : α → Option β
  backward : β → Option (Option α)

variable {a : α} {b : β}

namespace Layer

def empty : Layer α β := ⟨fun _ => none, fun _ => none⟩

variable (layer : Layer α β)

/-- Left to right, through the layer. -/
def load (below : α → Option β) (a : α) : Option β := (layer.forward a).or (below a)

/-- Right to left, through the layer. -/
def find (below : β → Option α) (b : β) : Option α := (layer.backward b).getD (below b)

/-- The layer pairs its own ends, and so does what is read through it. -/
structure Sound (layer : Layer α β) (below : α ≃. β) : Prop where
  paired : ∀ a b, layer.backward b = some (some a) ↔ layer.forward a = some b
  inverse : ∀ a b, layer.find below.symm b = some a ↔ layer.load below a = some b

theorem sound_empty (below : α ≃. β) : (empty : Layer α β).Sound below where
  paired := by simp [empty]
  inverse _ _ := below.mem_iff_mem

section Over

variable {layer : Layer α β} {below : α ≃. β} (sound : layer.Sound below)
include sound

theorem Sound.bot : layer.Sound ⊥ where
  paired := sound.paired
  inverse a b := by
    have found : layer.find (⊥ : α ≃. β).symm b = some a ↔ layer.backward b = some (some a) := by
      rw [find]
      cases layer.backward b <;> simp
    have loaded : layer.load (⊥ : α ≃. β) a = layer.forward a := or_none
    rw [found, sound.paired, loaded]

/-- It has an opinion on a right end of the store exactly when it has one on the left end. -/
theorem Sound.forward_eq_none_iff (stored : below.symm b = some a) :
    layer.forward a = none ↔ layer.backward b = none := by
  constructor
  · intro untouched
    have found : layer.find below.symm b = some a := by
      rw [sound.inverse, load, untouched, none_or]
      exact below.mem_iff_mem.mp stored
    by_contra known
    obtain ⟨own, isOwn⟩ := ne_none_iff_exists'.mp known
    rw [find, isOwn, getD_some] at found
    cases found
    cases untouched.symm.trans ((sound.paired a b).mp isOwn)
  · intro unknown
    have loaded : layer.load below a = some b := (sound.inverse a b).mp (by rw [find, unknown, getD_none, stored])
    by_contra touched
    obtain ⟨partner, known⟩ := ne_none_iff_exists'.mp touched
    rw [load, known, some_or] at loaded
    cases loaded
    cases unknown.symm.trans ((sound.paired a b).mpr known)

end Over

/-- What readers of a sound layer see. -/
def onto (layer : Layer α β) (below : α ≃. β) (sound : layer.Sound below) : α ≃. β where
  toFun := layer.load below
  invFun := layer.find below.symm
  inv := sound.inverse

/-! ## The pairs of a layer as a list -/

/-- A list of all pairs of the layer, each left end once. -/
structure Lists (entries : List (α × β)) (layer : Layer α β) : Prop where
  mem_iff : ∀ a b, (a, b) ∈ entries ↔ layer.forward a = some b
  lefts : (entries.map Prod.fst).Nodup

section Lists

variable {entries : List (α × β)} {layer : Layer α β} {below : α ≃. β}

theorem Lists.mem_lefts (lists : Lists entries layer) (a : α) : a ∈ entries.map Prod.fst ↔ layer.forward a ≠ none := by
  rw [ne_none_iff_exists']
  constructor
  · intro isLeft
    obtain ⟨⟨_, b⟩, isEntry, rfl⟩ := mem_map.mp isLeft
    exact ⟨b, (lists.mem_iff _ _).mp isEntry⟩
  · rintro ⟨b, known⟩
    exact mem_map_of_mem ((lists.mem_iff _ _).mpr known)

theorem Lists.rights (lists : Lists entries layer) (sound : layer.Sound below) : (entries.map Prod.snd).Nodup := by
  refine List.Nodup.map_on ?_ lists.lefts.of_map
  rintro ⟨a, b⟩ isFirst ⟨c, d⟩ isSecond same
  cases same
  have first := (sound.paired a b).mpr ((lists.mem_iff _ _).mp isFirst)
  have second := (sound.paired c b).mpr ((lists.mem_iff _ _).mp isSecond)
  cases first.symm.trans second
  rfl

end Lists

/-! ## Adding a pair -/

section Assign

variable [DecidableEq β] {layer : Layer α β} {below : α ≃. β}

/-- A right end loses its left end. -/
def evict (layer : Layer α β) (old : Option β) : Layer α β :=
  match old with
  | some b => { layer with backward := Function.update layer.backward b (some none) }
  | none => layer

@[simp] theorem evict_forward (layer : Layer α β) (old : Option β) : (layer.evict old).forward = layer.forward := by
  cases old <;> rfl

theorem evict_backward (layer : Layer α β) (old : Option β) (b : β) :
    (layer.evict old).backward b = if old = some b then some none else layer.backward b := by
  cases old with
  | none => simp [evict]
  | some other =>
    by_cases same : b = other
    · simp [evict, same]
    · simp [evict, same, Ne.symm same]

variable [DecidableEq α]

def pair (layer : Layer α β) (a : α) (b : β) : Layer α β where
  forward := Function.update layer.forward a (some b)
  backward := Function.update layer.backward b (some (some a))

/-- A pair whose right end is no one else's, after the left end's old partner has been
evicted. -/
theorem Sound.assign (sound : layer.Sound below) (free : ∀ c, layer.find below.symm b = some c → c = a) :
    ((layer.evict (layer.load below a)).pair a b).Sound below := by
  -- a left end that the layer knows is found through the layer
  have through {c : α} {d : β} (known : layer.forward c = some d) : layer.load below c = some d := by
    rw [load, known, some_or]
  have same {c : α} {d : β} (isOld : layer.load below a = some d) (loaded : layer.load below c = some d) : c = a :=
    some.inj (((sound.inverse c d).mpr loaded).symm.trans ((sound.inverse a d).mpr isOld))
  have owner {c : α} (loaded : layer.load below c = some b) : c = a := free c ((sound.inverse c b).mpr loaded)
  refine ⟨fun c d => ?_, fun c d => ?_⟩
  · simp only [pair, evict_forward, update_apply, evict_backward]
    by_cases isB : d = b
    · subst isB
      by_cases isA : c = a
      · simp [isA]
      · have unpaired : layer.forward c ≠ some d := fun known => isA (owner (through known))
        simp [isA, Ne.symm isA, unpaired]
    · rw [if_neg isB]
      by_cases isOld : layer.load below a = some d
      · have unpaired (other : c ≠ a) : layer.forward c ≠ some d := fun known => other (same isOld (through known))
        by_cases isA : c = a
        · simp [isOld, isA, Ne.symm isB]
        · simp [isOld, isA, unpaired isA]
      · by_cases isA : c = a
        · subst isA
          have unpaired : layer.forward c ≠ some d := fun known => isOld (through known)
          simp [isOld, Ne.symm isB, sound.paired, unpaired]
        · simp [isOld, isA, sound.paired]
  · have finds : ((layer.evict (layer.load below a)).pair a b).find below.symm d =
        if d = b then some a else if layer.load below a = some d then none else layer.find below.symm d := by
      simp only [find, pair, update_apply, evict_backward]
      split_ifs <;> rfl
    have loads : ((layer.evict (layer.load below a)).pair a b).load below c =
        if c = a then some b else layer.load below c := by
      simp only [load, pair, evict_forward, update_apply]
      split_ifs <;> rfl
    rw [finds, loads]
    by_cases isB : d = b
    · subst isB
      by_cases isA : c = a
      · simp [isA]
      · have unpaired : layer.load below c ≠ some d := fun loaded => isA (owner loaded)
        simp [isA, Ne.symm isA, unpaired]
    · by_cases isA : c = a
      · subst isA
        by_cases isOld : layer.load below c = some d <;> simp [isB, Ne.symm isB, isOld, sound.inverse]
      · rw [if_neg isB, if_neg isA]
        split
        next isOld => simpa using fun loaded => isA (same isOld loaded)
        next => exact sound.inverse c d

end Assign

end Layer

/-! ## Writing a layer out -/

/-- Both indexes of a store; nothing ties them together while they are being written. -/
structure Indexes (α β : Type*) where
  forward : α → Option β
  backward : β → Option α

section Write

variable [DecidableEq α] [DecidableEq β]

/-- The old partner's index entry is deleted, if it is still the left end's own. -/
def Indexes.put (indexes : Indexes α β) (entry : α × β) : Indexes α β where
  forward := Function.update indexes.forward entry.1 (some entry.2)
  backward := fun b =>
    if b = entry.2 then some entry.1
    else if indexes.forward entry.1 = some b ∧ indexes.backward b = some entry.1 then none
    else indexes.backward b

variable (indexes : Indexes α β)

theorem Indexes.put_forward (a c : α) (b : β) :
    (indexes.put (a, b)).forward c = if c = a then some b else indexes.forward c :=
  update_apply ..

theorem Indexes.put_backward (a : α) (b d : β) :
    (indexes.put (a, b)).backward d =
      if d = b then some a
      else if indexes.forward a = some d ∧ indexes.backward d = some a then none
      else indexes.backward d :=
  rfl

def Indexes.putAll (indexes : Indexes α β) (entries : List (α × β)) : Indexes α β := entries.foldl Indexes.put indexes

/-- What the indexes hold once some entries have been put: the entries' own pairs, and the
old pairs of the left ends that have not been put. -/
structure Written (below : α ≃. β) (entries : List (α × β)) (indexes : Indexes α β) : Prop where
  forward_entry : ∀ {a b}, (a, b) ∈ entries → indexes.forward a = some b
  forward_other : ∀ {a}, a ∉ entries.map Prod.fst → indexes.forward a = below a
  backward_entry : ∀ {a b}, (a, b) ∈ entries → indexes.backward b = some a
  backward_other : ∀ {a b}, b ∉ entries.map Prod.snd →
    (indexes.backward b = some a ↔ below.symm b = some a ∧ a ∉ entries.map Prod.fst)

theorem Written.put {below : α ≃. β} {entries : List (α × β)} {indexes : Indexes α β}
    (written : Written below entries indexes)
    (newLeft : a ∉ entries.map Prod.fst) (newRight : b ∉ entries.map Prod.snd) :
    Written below (entries ++ [(a, b)]) (indexes.put (a, b)) := by
  have left {c : α} {d : β} (isEntry : (c, d) ∈ entries) : c ≠ a :=
    fun same => newLeft (same ▸ mem_map_of_mem isEntry)
  have right {c : α} {d : β} (isEntry : (c, d) ∈ entries) : d ≠ b :=
    fun same => newRight (same ▸ mem_map_of_mem isEntry)
  refine ⟨?_, ?_, ?_, ?_⟩
  · intro c d isEntry
    rcases mem_append.mp isEntry with isOld | isNew
    · rw [Indexes.put_forward, if_neg (left isOld), written.forward_entry isOld]
    · cases mem_singleton.mp isNew
      rw [Indexes.put_forward, if_pos rfl]
  · intro c isOther
    rw [map_append, mem_append, not_or] at isOther
    rw [Indexes.put_forward, if_neg (by simpa using isOther.2), written.forward_other isOther.1]
  · intro c d isEntry
    rcases mem_append.mp isEntry with isOld | isNew
    · -- an entry that has been put keeps its index: it is not the new left end's
      have kept : indexes.backward d ≠ some a := by
        rw [written.backward_entry isOld]
        exact fun same => left isOld (some.inj same)
      rw [Indexes.put_backward, if_neg (right isOld), if_neg (fun deleted => kept deleted.2), written.backward_entry isOld]
    · cases mem_singleton.mp isNew
      rw [Indexes.put_backward, if_pos rfl]
  · intro c d isOther
    rw [map_append, mem_append, not_or] at isOther
    obtain ⟨notEntry, notNew⟩ := isOther
    have differs : d ≠ b := by simpa using notNew
    have own : indexes.forward a = some d ↔ below.symm d = some a := by
      rw [written.forward_other newLeft]
      exact below.mem_iff_mem.symm
    have keeps := @written.backward_other
    rw [Indexes.put_backward, if_neg differs, map_append, mem_append, not_or]
    by_cases isOwn : below.symm d = some a
    · have deleted : indexes.forward a = some d ∧ indexes.backward d = some a :=
        ⟨own.mpr isOwn, (keeps notEntry).mpr ⟨isOwn, newLeft⟩⟩
      rw [if_pos deleted, isOwn]
      simp +contextual
    · rw [if_neg (fun deleted => isOwn (own.mp deleted.1)), keeps notEntry]
      have other (stored : below.symm d = some c) : c ≠ a := fun same => isOwn (same ▸ stored)
      constructor
      · rintro ⟨stored, notLeft⟩
        exact ⟨stored, notLeft, by simpa using other stored⟩
      · rintro ⟨stored, notLeft, -⟩
        exact ⟨stored, notLeft⟩

theorem written_putAll (below : α ≃. β) (entries : List (α × β)) (lefts : (entries.map Prod.fst).Nodup)
    (rights : (entries.map Prod.snd).Nodup) : Written below entries (Indexes.putAll ⟨below, below.symm⟩ entries) := by
  induction entries using List.reverseRecOn with
  | nil => exact ⟨by simp, fun _ => rfl, by simp, fun _ => by simp [Indexes.putAll]⟩
  | append_singleton entries entry ih =>
    rw [map_append, nodup_append] at lefts rights
    rw [Indexes.putAll, foldl_append]
    refine (ih lefts.1 rights.1).put ?_ ?_
    · exact fun isOld => lefts.2.2 _ isOld _ (by simp) rfl
    · exact fun isOld => rights.2.2 _ isOld _ (by simp) rfl

namespace Layer

variable {entries : List (α × β)} {layer : Layer α β} {below : α ≃. β}

theorem putAll_eq (lists : Lists entries layer) (sound : layer.Sound below) :
    Indexes.putAll ⟨below, below.symm⟩ entries = ⟨layer.load below, layer.find below.symm⟩ := by
  have written := written_putAll below entries lists.lefts (lists.rights sound)
  have forward : (Indexes.putAll ⟨below, below.symm⟩ entries).forward = layer.load below := by
    funext a
    cases known : layer.forward a with
    | some b => rw [written.forward_entry ((lists.mem_iff a b).mpr known), load, known, some_or]
    | none => rw [written.forward_other (by simp [lists.mem_lefts, known]), load, known, none_or]
  have backward : (Indexes.putAll ⟨below, below.symm⟩ entries).backward = layer.find below.symm := by
    funext b
    by_cases isRight : b ∈ entries.map Prod.snd
    · obtain ⟨⟨a, _⟩, isEntry, rfl⟩ := mem_map.mp isRight
      rw [written.backward_entry isEntry, find, (sound.paired a _).mpr ((lists.mem_iff _ _).mp isEntry), getD_some]
    · refine ext fun a => ?_
      rw [written.backward_other isRight, lists.mem_lefts, not_not]
      unfold find
      rcases known : layer.backward b with _ | _ | c
      · exact and_iff_left_of_imp fun stored => (sound.forward_eq_none_iff stored).mpr known
      · -- a tombstone: its old left end is in the layer
        refine iff_of_false (fun kept => ?_) nofun
        cases known.symm.trans ((sound.forward_eq_none_iff kept.1).mp kept.2)
      · exact absurd (mem_map_of_mem ((lists.mem_iff _ _).mpr ((sound.paired c b).mp known))) isRight
  rw [← forward, ← backward]

/-! ## Putting a layer back under a newer one -/

variable (newer : Layer α β) (entry : α × β)

/-- A pair goes back unless the newer layer knows one of its ends. -/
def readd : Layer α β :=
  if newer.forward entry.1 = none ∧ newer.backward entry.2 = none then newer.pair entry.1 entry.2 else newer

def restore (entries : List (α × β)) : Layer α β := entries.foldl readd newer

/-- What restoring some entries makes of the newer layer. -/
structure Restored (newer : Layer α β) (entries : List (α × β)) (restored : Layer α β) : Prop where
  forward : ∀ a b, restored.forward a = some b ↔
    newer.forward a = some b ∨ newer.forward a = none ∧ (a, b) ∈ entries
  backward : ∀ b known, restored.backward b = some known ↔
    newer.backward b = some known ∨ newer.backward b = none ∧ ∃ a, known = some a ∧ (a, b) ∈ entries

/-- The newer layer knows both ends of an entry or neither. -/
def Agrees : Prop := newer.forward entry.1 = none ↔ newer.backward entry.2 = none

section Restore

variable {newer restored : Layer α β}

omit [DecidableEq α] [DecidableEq β]

theorem Restored.forward_eq_none (done : Restored newer entries restored) (notLeft : a ∉ entries.map Prod.fst) :
    restored.forward a = none ↔ newer.forward a = none := by
  have notEntry (b : β) : (a, b) ∉ entries := fun isEntry => notLeft (mem_map_of_mem isEntry)
  simp [eq_none_iff_forall_ne_some, done.forward, notEntry]

theorem Restored.backward_eq_none (done : Restored newer entries restored) (notRight : b ∉ entries.map Prod.snd) :
    restored.backward b = none ↔ newer.backward b = none := by
  have notEntry (a : α) : (a, b) ∉ entries := fun isEntry => notRight (mem_map_of_mem isEntry)
  simp [eq_none_iff_forall_ne_some, done.backward, notEntry]

variable [DecidableEq α] [DecidableEq β]

theorem Restored.readd (done : Restored newer entries restored) (newLeft : a ∉ entries.map Prod.fst)
    (newRight : b ∉ entries.map Prod.snd) (agrees : newer.Agrees (a, b)) :
    Restored newer (entries ++ [(a, b)]) (restored.readd (a, b)) := by
  unfold Layer.readd
  simp only [done.forward_eq_none newLeft, done.backward_eq_none newRight]
  by_cases unknown : newer.forward a = none
  · have unknownToo : newer.backward b = none := agrees.mp unknown
    rw [if_pos ⟨unknown, unknownToo⟩]
    refine ⟨fun c d => ?_, fun d known => ?_⟩
    · by_cases isNew : c = a
      · subst isNew
        have notEntry (d : β) : (c, d) ∉ entries := fun isEntry => newLeft (mem_map_of_mem isEntry)
        simp [pair, unknown, notEntry, eq_comm]
      · simp [pair, isNew, done.forward]
    · by_cases isNew : d = b
      · subst isNew
        have notEntry (c : α) : (c, d) ∉ entries := fun isEntry => newRight (mem_map_of_mem isEntry)
        simp [pair, unknownToo, notEntry, eq_comm]
      · simp [pair, isNew, done.backward]
  · -- both ends are known, so the entry is skipped and counts for nothing
    have known : newer.backward b ≠ none := fun unknownToo => unknown (agrees.mpr unknownToo)
    rw [if_neg (fun both => unknown both.1)]
    refine ⟨fun c d => ?_, fun d end' => ?_⟩
    · have notNew : newer.forward c = none → ¬(c = a ∧ d = b) := fun none same => unknown (same.1 ▸ none)
      rw [done.forward]
      refine or_congr_right (and_congr_right fun none => ?_)
      simp [notNew none]
    · have notNew : newer.backward d = none → d ≠ b := fun none same => known (same ▸ none)
      rw [done.backward]
      refine or_congr_right (and_congr_right fun none => ?_)
      simp [notNew none]

theorem restored_restore (newer : Layer α β) (entries : List (α × β)) (lefts : (entries.map Prod.fst).Nodup)
    (rights : (entries.map Prod.snd).Nodup) (agree : ∀ entry ∈ entries, newer.Agrees entry) :
    Restored newer entries (newer.restore entries) := by
  induction entries using List.reverseRecOn with
  | nil => exact ⟨by simp [restore], by simp [restore]⟩
  | append_singleton entries entry ih =>
    rw [map_append, nodup_append] at lefts rights
    rw [restore, foldl_append]
    refine (ih lefts.1 rights.1 fun entry isEntry => agree entry (by simp [isEntry])).readd ?_ ?_ ?_
    · exact fun isOld => lefts.2.2 _ isOld _ (by simp) rfl
    · exact fun isOld => rights.2.2 _ isOld _ (by simp) rfl
    · exact agree entry (by simp)

end Restore

section UnderNewer

variable {newer older : Layer α β} (sound : older.Sound below) (newerSound : newer.Sound (older.onto below sound))
  (lists : Lists entries older)
include newerSound

omit [DecidableEq α] [DecidableEq β] in
theorem agrees_of_forward (isPair : older.forward a = some b) : newer.Agrees (a, b) := by
  refine newerSound.forward_eq_none_iff ((sound.inverse a b).mpr ?_)
  rw [load, isPair, some_or]
include lists

theorem restored_of_sound : Restored newer entries (newer.restore entries) :=
  restored_restore newer entries lists.lefts (lists.rights sound) fun entry isEntry =>
    agrees_of_forward sound newerSound ((lists.mem_iff entry.1 entry.2).mp isEntry)

theorem restore_forward (a : α) : (newer.restore entries).forward a = (newer.forward a).or (older.forward a) := by
  refine ext fun b => ?_
  rw [(restored_of_sound sound newerSound lists).forward, lists.mem_iff]
  cases newer.forward a <;> simp

/-- Every opinion of the older layer comes back but its tombstones. -/
theorem restore_backward (b : β) :
    (newer.restore entries).backward b = (newer.backward b).or ((older.backward b).join.map some) := by
  refine ext fun known => ?_
  have pairs (a : α) : (a, b) ∈ entries ↔ older.backward b = some (some a) := by rw [lists.mem_iff, sound.paired]
  rw [(restored_of_sound sound newerSound lists).backward]
  simp only [pairs]
  rcases newer.backward b with _ | own
  · rcases older.backward b with _ | _ | a <;> simp [eq_comm]
  · simp

theorem restore_load : (newer.restore entries).load below = newer.load (older.load below) := by
  funext a
  rw [load, restore_forward sound newerSound lists, load, load, Option.or_assoc]

/-- No tombstone of the older layer is missed: the newer layer knows the right end too, or
the store does not. -/
def Harmless (newer older : Layer α β) (below : α ≃. β) : Prop :=
  ∀ b, older.backward b = some none → newer.backward b = none → below.symm b = none

theorem restore_find (harmless : newer.Harmless older below) :
    (newer.restore entries).find below.symm = newer.find (older.find below.symm) := by
  funext b
  rw [find, restore_backward sound newerSound lists, find, find]
  rcases own : newer.backward b with _ | own'
  · rcases known : older.backward b with _ | _ | a
    · rfl
    · simp [harmless b known own]
    · rfl
  · rfl

theorem restore_paired (a : α) (b : β) :
    (newer.restore entries).backward b = some (some a) ↔ (newer.restore entries).forward a = some b := by
  have done := restored_of_sound sound newerSound lists
  rw [done.forward, done.backward, newerSound.paired]
  refine or_congr_right ?_
  constructor
  · rintro ⟨unknown, _, same, isEntry⟩
    cases same
    exact ⟨(agrees_of_forward sound newerSound ((lists.mem_iff _ _).mp isEntry)).mpr unknown, isEntry⟩
  · rintro ⟨unknown, isEntry⟩
    exact ⟨(agrees_of_forward sound newerSound ((lists.mem_iff _ _).mp isEntry)).mp unknown, a, rfl, isEntry⟩

theorem Sound.restore (harmless : newer.Harmless older below) : (newer.restore entries).Sound below := by
  refine ⟨restore_paired sound newerSound lists, fun a b => ?_⟩
  rw [restore_find sound newerSound lists harmless, restore_load sound newerSound lists]
  exact newerSound.inverse a b

/-- With a tombstone missed, a right end finds its old left end again, which has another
partner by now. -/
theorem restore_broken (harmful : ¬newer.Harmless older below) :
    ∃ a b, below.symm b = some a ∧ (newer.restore entries).find below.symm b = some a ∧
      (newer.restore entries).load below a ≠ some b := by
  simp only [Harmless, not_forall] at harmful
  obtain ⟨b, tombstone, unknown, inStore⟩ := harmful
  obtain ⟨a, stored⟩ := ne_none_iff_exists'.mp inStore
  refine ⟨a, b, stored, ?_, ?_⟩
  · rw [find, restore_backward sound newerSound lists, unknown, tombstone]
    exact stored
  · intro loaded
    -- the old left end is in the older layer, so the answer is one of the two layers' own
    have touched : older.forward a ≠ none := by simp [sound.forward_eq_none_iff stored, tombstone]
    have known : (newer.restore entries).forward a = some b := by
      rw [load] at loaded
      cases isKnown : (newer.restore entries).forward a with
      | some partner => rwa [isKnown, some_or] at loaded
      | none =>
        rw [restore_forward sound newerSound lists, or_eq_none_iff] at isKnown
        exact absurd isKnown.2 touched
    have back := (restore_paired sound newerSound lists a b).mpr known
    rw [restore_backward sound newerSound lists, unknown, tombstone] at back
    cases back

end UnderNewer

end Layer

end Write

end Lib.Overlay
