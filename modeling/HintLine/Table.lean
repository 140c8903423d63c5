/-!
A table from keys to values that remembers the order in which its keys came. Replacing a value keeps the
place of its key; a key that was erased and comes again is last. The laws below say what each operation does
to look-ups.
-/

set_option autoImplicit false

namespace HintLine

/-- Entries in the order of their keys' arrival, one for each key. -/
structure Table (κ α : Type) where
  entries : List (κ × α)
  nodup : (entries.map Prod.fst).Nodup

namespace Table

variable {κ α β : Type}

def empty : Table κ α := ⟨[], List.nodup_nil⟩

instance : Inhabited (Table κ α) := ⟨empty⟩

instance [Repr κ] [Repr α] : Repr (Table κ α) := ⟨fun t n => reprPrec t.entries n⟩

/-- The keys, first come first. -/
def keys (t : Table κ α) : List κ := t.entries.map Prod.fst

/-- The values, in the order of their keys. -/
def values (t : Table κ α) : List α := t.entries.map Prod.snd

/-- Every value changed by a function, keys and order kept. -/
def map (f : α → β) (t : Table κ α) : Table κ β where
  entries := t.entries.map fun e => (e.1, f e.2)
  nodup := by simpa [List.map_map, Function.comp_def] using t.nodup

variable [DecidableEq κ]

def find (k : κ) : List (κ × α) → Option α
  | [] => none
  | (j, a) :: l => if k = j then some a else find k l

def get? (t : Table κ α) (k : κ) : Option α := find k t.entries

def contains (t : Table κ α) (k : κ) : Bool := (t.get? k).isSome

theorem find_isSome_iff {l : List (κ × α)} {k : κ} :
    (find k l).isSome = true ↔ k ∈ l.map Prod.fst := by
  induction l with
  | nil => simp [find]
  | cons e l ih => by_cases h : k = e.1 <;> simp_all [find]

/-- Gives a key a value: in its place if it has one, at the end if it is new. -/
def insert (t : Table κ α) (k : κ) (a : α) : Table κ α :=
  if h : t.contains k = true then
    { entries := t.entries.map fun e => (e.1, if e.1 = k then a else e.2)
      nodup := by simpa [List.map_map, Function.comp_def] using t.nodup }
  else
    { entries := t.entries ++ [(k, a)]
      nodup := by
        have hk : k ∉ t.entries.map Prod.fst := fun hm => h (find_isSome_iff.2 hm)
        rw [List.map_append, List.nodup_append]
        refine ⟨t.nodup, by simp, ?_⟩
        rintro x hx y hy rfl
        simp only [List.map_cons, List.map_nil, List.mem_singleton] at hy
        exact hk (hy ▸ hx) }

def erase (t : Table κ α) (k : κ) : Table κ α where
  entries := t.entries.filter fun e => e.1 ≠ k
  nodup := (List.filter_sublist.map Prod.fst).nodup t.nodup

/-- The table of a list of entries; of two entries for one key the later value counts. -/
def ofList (l : List (κ × α)) : Table κ α := l.foldl (fun t e => t.insert e.1 e.2) empty

theorem contains_iff {t : Table κ α} {k : κ} : t.contains k = true ↔ k ∈ t.keys := find_isSome_iff

theorem find_map_set {l : List (κ × α)} {j k : κ} {a : α} :
    find j (l.map fun e => (e.1, if e.1 = k then a else e.2)) =
      (find j l).map fun b => if j = k then a else b := by
  induction l with
  | nil => rfl
  | cons e l ih => by_cases h : j = e.1 <;> simp_all [find]

theorem find_append_singleton {l : List (κ × α)} {j k : κ} {a : α} :
    find j (l ++ [(k, a)]) = (find j l).or (if j = k then some a else none) := by
  induction l with
  | nil => simp [find]
  | cons e l ih => by_cases h : j = e.1 <;> simp_all [find]

theorem find_filter {l : List (κ × α)} {j k : κ} :
    find j (l.filter fun e => e.1 ≠ k) = if j = k then none else find j l := by
  induction l with
  | nil => simp [find]
  | cons e l ih => by_cases hk : e.1 = k <;> by_cases hj : j = e.1 <;> simp_all [find]

theorem find_map {f : α → β} {l : List (κ × α)} {k : κ} :
    find k (l.map fun e => (e.1, f e.2)) = (find k l).map f := by
  induction l with
  | nil => rfl
  | cons e l ih => by_cases h : k = e.1 <;> simp_all [find]

theorem get?_insert (t : Table κ α) (j k : κ) (a : α) :
    (t.insert k a).get? j = if j = k then some a else t.get? j := by
  unfold insert
  split
  next h =>
    obtain ⟨b, hb⟩ := Option.isSome_iff_exists.1 h
    simp only [get?] at hb ⊢
    rw [find_map_set]
    split
    next hj => subst hj; simp [hb]
    · simp
  next h =>
    simp only [contains, get?, Bool.not_eq_true, Option.isSome_eq_false_iff, Option.isNone_iff_eq_none] at h
    simp only [get?]
    rw [find_append_singleton]
    split
    next hj => subst hj; simp [h]
    · simp

@[simp] theorem get?_insert_self (t : Table κ α) (k : κ) (a : α) : (t.insert k a).get? k = some a := by
  simp [get?_insert]

theorem get?_insert_of_ne (t : Table κ α) {j k : κ} (h : j ≠ k) (a : α) :
    (t.insert k a).get? j = t.get? j := by
  simp [get?_insert, h]

theorem get?_erase (t : Table κ α) (j k : κ) :
    (t.erase k).get? j = if j = k then none else t.get? j := find_filter

@[simp] theorem get?_erase_self (t : Table κ α) (k : κ) : (t.erase k).get? k = none := by
  simp [get?_erase]

theorem get?_erase_of_ne (t : Table κ α) {j k : κ} (h : j ≠ k) : (t.erase k).get? j = t.get? j := by
  simp [get?_erase, h]

@[simp] theorem get?_map (f : α → β) (t : Table κ α) (k : κ) : (t.map f).get? k = (t.get? k).map f :=
  find_map

end Table

end HintLine
