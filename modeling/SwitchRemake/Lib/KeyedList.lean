import Mathlib.Data.List.Nodup

/-!
# Lists with one entry a key

An insertion-ordered map whose values carry their keys: an entry that is set again keeps its place,
a deleted key comes back at the end.
-/

namespace SwitchRemake.Lib

structure KeyedList {α κ : Type} (key : α → κ) where
  entries : List α
  distinct : (entries.map key).Nodup

namespace KeyedList
variable {α κ : Type} {key : α → κ} [DecidableEq κ] {xs : KeyedList key} {x y : α} {k k' : κ}

omit [DecidableEq κ] in
@[ext] theorem ext {ys : KeyedList key} (same : xs.entries = ys.entries) : xs = ys := by
  cases xs
  cases ys
  congr

def empty : KeyedList key := ⟨[], List.nodup_nil⟩

def get? (xs : KeyedList key) (k : κ) : Option α := xs.entries.find? fun x => key x = k

def has (xs : KeyedList key) (k : κ) : Bool := xs.entries.any fun x => key x = k

def size (xs : KeyedList key) : Nat := xs.entries.length

def delete (xs : KeyedList key) (k : κ) : KeyedList key where
  entries := xs.entries.filter fun x => key x ≠ k
  distinct := xs.distinct.sublist (List.filter_sublist.map key)

def filter (xs : KeyedList key) (keep : α → Bool) : KeyedList key where
  entries := xs.entries.filter keep
  distinct := xs.distinct.sublist (List.filter_sublist.map key)

/-- Every entry changes, and none its key. -/
def mapEntries (xs : KeyedList key) (f : α → α) (keeps : ∀ x, key (f x) = key x) :
    KeyedList key where
  entries := xs.entries.map f
  distinct := by
    have same : (xs.entries.map f).map key = xs.entries.map key := by
      rw [List.map_map]
      exact List.map_congr_left fun x _ => keeps x
    exact same ▸ xs.distinct

/-- The entry of one key changes. -/
def modify (xs : KeyedList key) (k : κ) (f : α → α) (keeps : ∀ x, key (f x) = key x) :
    KeyedList key :=
  xs.mapEntries (fun x => if key x = k then f x else x) fun x => by
    split
    · exact keeps x
    · rfl

theorem mem_of_get? (found : xs.get? k = some x) : x ∈ xs.entries ∧ key x = k :=
  ⟨List.mem_of_find?_eq_some found, by simpa using List.find?_some found⟩

theorem get?_of_mem (member : x ∈ xs.entries) : xs.get? (key x) = some x := by
  have present : (xs.get? (key x)).isSome := by
    rw [get?, List.find?_isSome]
    exact ⟨x, member, by simp⟩
  obtain ⟨y, found⟩ := Option.isSome_iff_exists.mp present
  obtain ⟨other, same⟩ := mem_of_get? found
  rw [found, List.inj_on_of_nodup_map xs.distinct other member same]

theorem get?_eq_some : xs.get? k = some x ↔ x ∈ xs.entries ∧ key x = k := by
  constructor
  · exact mem_of_get?
  · rintro ⟨member, rfl⟩
    exact get?_of_mem member

theorem get?_eq_none : xs.get? k = none ↔ ∀ x ∈ xs.entries, key x ≠ k := by
  simp [get?]

theorem has_iff : xs.has k = true ↔ ∃ x ∈ xs.entries, key x = k := by
  simp [has]

theorem has_eq_isSome (xs : KeyedList key) (k : κ) : xs.has k = (xs.get? k).isSome := by
  rw [Bool.eq_iff_iff, has_iff, get?, List.find?_isSome]
  simp

omit [DecidableEq κ] in
theorem eq_of_key (first : x ∈ xs.entries) (second : y ∈ xs.entries) (same : key x = key y) :
    x = y :=
  List.inj_on_of_nodup_map xs.distinct first second same

@[simp] theorem mem_delete : x ∈ (xs.delete k).entries ↔ x ∈ xs.entries ∧ key x ≠ k := by
  simp [delete]

omit [DecidableEq κ] in
@[simp] theorem mem_filter {keep : α → Bool} :
    x ∈ (xs.filter keep).entries ↔ x ∈ xs.entries ∧ keep x = true := by
  simp [filter]

omit [DecidableEq κ] in
@[simp] theorem mem_mapEntries {f : α → α} {keeps : ∀ x, key (f x) = key x} :
    x ∈ (xs.mapEntries f keeps).entries ↔ ∃ y ∈ xs.entries, f y = x := by
  simp [mapEntries]

theorem mem_modify {f : α → α} {keeps : ∀ x, key (f x) = key x} :
    x ∈ (xs.modify k f keeps).entries ↔
      ∃ y ∈ xs.entries, (key y = k ∧ x = f y) ∨ (key y ≠ k ∧ x = y) := by
  rw [modify, mem_mapEntries]
  constructor
  · rintro ⟨y, member, rfl⟩
    by_cases hit : key y = k
    · exact ⟨y, member, Or.inl ⟨hit, if_pos hit⟩⟩
    · exact ⟨y, member, Or.inr ⟨hit, if_neg hit⟩⟩
  · rintro ⟨y, member, ⟨hit, rfl⟩ | ⟨miss, rfl⟩⟩
    · exact ⟨y, member, if_pos hit⟩
    · exact ⟨x, member, if_neg miss⟩

/-- A new entry at the end; an entry under the same key is replaced in its place. -/
def set (xs : KeyedList key) (x : α) : KeyedList key :=
  if present : xs.has (key x) = true then
    xs.modify (key x) (fun y => if key y = key x then x else y) fun y => by
      split
      · rename_i same
        exact same.symm
      · rfl
  else
    { entries := xs.entries ++ [x]
      distinct := by
        rw [List.map_append, List.nodup_append]
        refine ⟨xs.distinct, List.nodup_singleton _, ?_⟩
        simp only [has, List.any_eq_true, decide_eq_true_eq, not_exists, not_and] at present
        intro first member second single same
        obtain ⟨y, old, rfl⟩ := List.mem_map.mp member
        rw [List.map_singleton, List.mem_singleton] at single
        exact present y old (same.trans single) }

theorem mem_set : y ∈ (xs.set x).entries ↔ y = x ∨ y ∈ xs.entries ∧ key y ≠ key x := by
  unfold set
  split
  · rename_i present
    obtain ⟨z, member, same⟩ := has_iff.mp present
    rw [mem_modify]
    constructor
    · rintro ⟨w, inside, ⟨hit, rfl⟩ | ⟨miss, rfl⟩⟩
      · exact Or.inl (if_pos hit)
      · exact Or.inr ⟨inside, miss⟩
    · rintro (rfl | ⟨inside, miss⟩)
      · exact ⟨z, member, Or.inl ⟨same, (if_pos same).symm⟩⟩
      · exact ⟨y, inside, Or.inr ⟨miss, rfl⟩⟩
  · rename_i absent
    rw [has_iff] at absent
    simp only [List.mem_append, List.mem_singleton]
    constructor
    · rintro (old | rfl)
      · exact Or.inr ⟨old, fun same => absent ⟨y, old, same⟩⟩
      · exact Or.inl rfl
    · rintro (rfl | ⟨old, _⟩)
      · exact Or.inr rfl
      · exact Or.inl old

omit [DecidableEq κ] in
theorem keys_mapEntries (xs : KeyedList key) {g : α → α}
    (keeps : ∀ x, key (g x) = key x) :
    (xs.mapEntries g keeps).entries.map key = xs.entries.map key := by
  simp only [mapEntries, List.map_map]
  exact List.map_congr_left fun x _ => keeps x

theorem entries_set (xs : KeyedList key) (x : α) :
    (xs.set x).entries = if xs.has (key x) then
      xs.entries.map fun y => if key y = key x then x else y
    else xs.entries ++ [x] := by
  unfold set
  split
  · simp only [modify, mapEntries]
    apply List.map_congr_left
    intro y _
    by_cases same : key y = key x <;> simp [same]
  · rfl

theorem filter_set {ys : KeyedList key} {p : κ → Bool}
    (same : ys.entries = xs.entries.filter fun y => p (key y)) (keep : p (key x) = true) :
    (ys.set x).entries = (xs.set x).entries.filter fun y => p (key y) := by
  have has : ys.has (key x) = xs.has (key x) := by
    rw [Bool.eq_iff_iff, has_iff, has_iff, same]
    constructor
    · rintro ⟨y, member, named⟩
      exact ⟨y, (List.mem_filter.mp member).1, named⟩
    · rintro ⟨y, member, named⟩
      exact ⟨y, List.mem_filter.mpr ⟨member, named ▸ keep⟩, named⟩
  rw [entries_set, entries_set, has, same]
  split
  · rw [List.filter_map]
    congr 1
    apply List.filter_congr
    intro y _
    simp only [Function.comp]
    split
    · rename_i named
      rw [named]
    · rfl
  · rw [List.filter_append]
    simp [keep]

theorem entries_set_of_absent (absent : xs.has (key x) = false) :
    (xs.set x).entries = xs.entries ++ [x] := by
  unfold set
  rw [dif_neg (Bool.eq_false_iff.mp absent)]

theorem get?_delete (xs : KeyedList key) (k k' : κ) :
    (xs.delete k).get? k' = if k' = k then none else xs.get? k' := by
  split
  · rename_i same
    rw [get?_eq_none]
    intro x member
    rw [same]
    exact (mem_delete.mp member).2
  · rename_i differs
    rw [get?, delete, List.find?_filter]
    congr 1
    funext x
    by_cases hit : key x = k'
    · simp [hit, differs]
    · simp [hit]

theorem get?_set (xs : KeyedList key) (x : α) (k : κ) :
    (xs.set x).get? k = if k = key x then some x else xs.get? k := by
  split
  · rename_i same
    exact get?_eq_some.mpr ⟨mem_set.mpr (.inl rfl), same.symm⟩
  · rename_i differs
    apply Option.ext
    intro y
    rw [get?_eq_some, get?_eq_some, mem_set]
    constructor
    · rintro ⟨rfl | ⟨old, _⟩, rfl⟩
      · exact absurd rfl differs
      · exact ⟨old, rfl⟩
    · rintro ⟨old, rfl⟩
      exact ⟨.inr ⟨old, differs⟩, rfl⟩

theorem get?_mapEntries (xs : KeyedList key) {f : α → α} {keeps : ∀ x, key (f x) = key x} (k : κ) :
    (xs.mapEntries f keeps).get? k = (xs.get? k).map f := by
  cases found : xs.get? k with
  | none =>
    rw [Option.map_none, get?_eq_none]
    intro x member
    obtain ⟨y, old, rfl⟩ := mem_mapEntries.mp member
    rw [keeps]
    exact get?_eq_none.mp found y old
  | some x =>
    obtain ⟨member, rfl⟩ := mem_of_get? found
    exact get?_eq_some.mpr ⟨mem_mapEntries.mpr ⟨x, member, rfl⟩, keeps x⟩

theorem get?_modify (xs : KeyedList key) {f : α → α} {keeps : ∀ x, key (f x) = key x}
    (k k' : κ) :
    (xs.modify k f keeps).get? k' = if k' = k then (xs.get? k').map f else xs.get? k' := by
  rw [modify, get?_mapEntries]
  cases found : xs.get? k' with
  | none => simp
  | some x =>
    obtain ⟨member, rfl⟩ := mem_of_get? found
    by_cases hit : key x = k
    · simp [hit]
    · simp [hit]

theorem get?_filter (xs : KeyedList key) (keep : α → Bool) (k : κ) :
    (xs.filter keep).get? k = (xs.get? k).filter keep := by
  apply Option.ext
  intro x
  rw [get?_eq_some, mem_filter, Option.filter_eq_some_iff, get?_eq_some]
  tauto

/-! ## As a table -/

/-- A row under a key that is taken is refused. -/
def insert? (xs : KeyedList key) (x : α) : Option (KeyedList key) :=
  if xs.has (key x) then none else some (xs.set x)

/-- All of the rows or none. -/
def insertAll? (xs : KeyedList key) : List α → Option (KeyedList key)
  | [] => some xs
  | x :: rest => (xs.insert? x).bind fun ys => ys.insertAll? rest

/-- `ON CONFLICT DO NOTHING`. -/
def insertNew (xs : KeyedList key) (x : α) : KeyedList key :=
  if xs.has (key x) then xs else xs.set x

theorem insert?_eq_some {ys : KeyedList key} :
    xs.insert? x = some ys ↔ xs.get? (key x) = none ∧ ys = xs.set x := by
  rw [insert?, has_eq_isSome]
  cases xs.get? (key x) <;> simp [eq_comm]

theorem get?_insert {ys : KeyedList key} (inserts : xs.insert? x = some ys) (k : κ) :
    ys.get? k = if k = key x then some x else xs.get? k := by
  obtain ⟨_, rfl⟩ := insert?_eq_some.mp inserts
  exact get?_set xs x k

theorem mem_insertAll {ys : KeyedList key} {news : List α} (inserts : xs.insertAll? news = some ys)
    (member : x ∈ ys.entries) : x ∈ xs.entries ∨ x ∈ news := by
  induction news generalizing xs with
  | nil =>
    cases inserts
    exact .inl member
  | cons y rest ih =>
    obtain ⟨middle, first, later⟩ := Option.bind_eq_some_iff.mp inserts
    obtain ⟨_, rfl⟩ := insert?_eq_some.mp first
    rcases ih later with old | new
    · rcases mem_set.mp old with rfl | ⟨old, _⟩
      · exact .inr List.mem_cons_self
      · exact .inl old
    · exact .inr (List.mem_cons_of_mem _ new)

/-- Inserted rows are there, and the rows that were there still are. -/
theorem get?_insertAll {ys : KeyedList key} {news : List α} (inserts : xs.insertAll? news = some ys)
    {k : κ} (here : xs.get? k = some x ∨ x ∈ news ∧ key x = k) : ys.get? k = some x := by
  induction news generalizing xs with
  | nil =>
    cases inserts
    rcases here with old | ⟨none, _⟩
    · exact old
    · cases none
  | cons y rest ih =>
    obtain ⟨middle, first, later⟩ := Option.bind_eq_some_iff.mp inserts
    apply ih later
    rw [get?_insert first]
    rcases here with old | ⟨member, same⟩
    · left
      rw [if_neg ?_]
      · exact old
      · rintro rfl
        rw [(insert?_eq_some.mp first).1] at old
        cases old
    · rcases List.mem_cons.mp member with rfl | rest
      · exact .inl (if_pos same.symm)
      · exact .inr ⟨rest, same⟩

theorem get?_insertNew (xs : KeyedList key) (x : α) (k : κ) :
    (xs.insertNew x).get? k = if k = key x then (xs.get? k).or (some x) else xs.get? k := by
  rw [insertNew, has_eq_isSome]
  cases found : xs.get? (key x) with
  | none =>
    rw [Option.isSome_none, if_neg Bool.false_ne_true, get?_set]
    split
    · rename_i same
      rw [same, found, Option.none_or]
    · rfl
  | some y =>
    rw [Option.isSome_some, if_pos rfl]
    split
    · rename_i same
      rw [same, found, Option.some_or]
    · rfl

end KeyedList
end SwitchRemake.Lib
