import Mathlib.Data.List.DropRight
import Mathlib.Data.List.Basic

/-!
# The Python builtins the webhook code relies on

A `dict` with string keys is its item list in insertion order, with distinct keys carried
as a field; `d[k] = v` overwrites an existing item in place and appends a new one, and
`d.pop(k, None)` drops the key. The code never reads a dict's order, only its items, so the
laws below are about `get?` alone.

Slices `xs[start:]` follow the CPython index normalisation, so that the `-0` corner of
`history[-n:]` is the code's, not an idealised one.
-/

namespace WebhookRelay.Python

/-- The value stored under `k` in an item list: the first item with that key. -/
def lookup {α : Type} : List (String × α) → String → Option α
  | [], _ => none
  | (k', v) :: d, k => if k' = k then some v else lookup d k

/-- Item-list form of `d[k] = v`. -/
def setItem {α : Type} : List (String × α) → String → α → List (String × α)
  | [], k, v => [(k, v)]
  | (k', v') :: d, k, v => if k' = k then (k, v) :: d else (k', v') :: setItem d k v

theorem lookup_eq_none {α : Type} (l : List (String × α)) (k : String) :
    lookup l k = none ↔ k ∉ l.map Prod.fst := by
  induction l with
  | nil => simp [lookup]
  | cons e l ih => obtain ⟨j, w⟩ := e; by_cases h : j = k <;> simp_all [lookup, eq_comm]

theorem lookup_eq_some_iff {α : Type} {l : List (String × α)} (h : (l.map Prod.fst).Nodup)
    (k : String) (v : α) : lookup l k = some v ↔ (k, v) ∈ l := by
  induction l with
  | nil => simp [lookup]
  | cons e l ih =>
    obtain ⟨j, w⟩ := e
    simp only [List.map_cons, List.nodup_cons] at h
    by_cases hj : j = k
    · subst hj
      have : (j, v) ∉ l := fun hm => h.1 (List.mem_map_of_mem Prod.fst hm)
      simp [lookup, this, eq_comm]
    · simp [lookup, hj, ih h.2, Ne.symm hj]

theorem mem_keys_setItem {α : Type} (l : List (String × α)) (k x : String) (v : α) :
    x ∈ (setItem l k v).map Prod.fst ↔ x ∈ l.map Prod.fst ∨ x = k := by
  induction l with
  | nil => simp [setItem]
  | cons e l ih =>
    obtain ⟨j, w⟩ := e
    by_cases h : j = k
    · subst h; simp [setItem, or_comm]
    · simp [setItem, h, ih, or_assoc]

theorem nodup_setItem {α : Type} (l : List (String × α)) (k : String) (v : α)
    (h : (l.map Prod.fst).Nodup) : ((setItem l k v).map Prod.fst).Nodup := by
  induction l with
  | nil => simp [setItem]
  | cons e l ih =>
    obtain ⟨j, w⟩ := e
    simp only [List.map_cons, List.nodup_cons] at h
    by_cases hj : j = k
    · subst hj; simpa [setItem] using h
    · simp only [setItem, hj, if_false, List.map_cons, List.nodup_cons, mem_keys_setItem, not_or]
      exact ⟨⟨h.1, not_false⟩, ih h.2⟩

/-- A Python `dict[str, α]`: its items in insertion order, keys distinct. -/
structure Dict (α : Type) where
  items : List (String × α)
  nodup : (items.map Prod.fst).Nodup

namespace Dict

variable {α : Type}

/-- `{}`. -/
def empty : Dict α := ⟨[], List.nodup_nil⟩

/-- `d.get(k)`. -/
def get? (d : Dict α) (k : String) : Option α := lookup d.items k

/-- `d[k] = v`. -/
def set (d : Dict α) (k : String) (v : α) : Dict α :=
  ⟨setItem d.items k v, nodup_setItem d.items k v d.nodup⟩

/-- `d.pop(k, None)`. -/
def pop (d : Dict α) (k : String) : Dict α :=
  ⟨d.items.filter fun e => e.1 ≠ k, by
    simpa [List.filter_map] using d.nodup.filter (fun j => decide (j ≠ k))⟩

/-- `{**d, **e}`: the items of `e`, in order, written over `d`. -/
def update (d e : Dict α) : Dict α := e.items.foldl (fun d kv => d.set kv.1 kv.2) d

theorem get?_eq_some_iff (d : Dict α) (k : String) (v : α) :
    d.get? k = some v ↔ (k, v) ∈ d.items := lookup_eq_some_iff d.nodup k v

@[simp] theorem get?_empty (k : String) : (empty : Dict α).get? k = none := rfl

@[simp] theorem get?_set_self (d : Dict α) (k : String) (v : α) : (d.set k v).get? k = some v := by
  obtain ⟨l, _⟩ := d
  simp only [get?, set]
  induction l with
  | nil => simp [setItem, lookup]
  | cons e l ih => obtain ⟨j, w⟩ := e; by_cases h : j = k <;> simp_all [setItem, lookup]

@[simp] theorem get?_set_ne (d : Dict α) {k k' : String} (v : α) (h : k ≠ k') :
    (d.set k v).get? k' = d.get? k' := by
  obtain ⟨l, _⟩ := d
  simp only [get?, set]
  induction l with
  | nil => simp [setItem, lookup, h]
  | cons e l ih =>
    obtain ⟨j, w⟩ := e
    by_cases hj : j = k
    · subst hj; simp [setItem, lookup, h]
    · by_cases hj' : j = k' <;> simp_all [setItem, lookup]

theorem get?_set (d : Dict α) (k k' : String) (v : α) :
    (d.set k v).get? k' = if k = k' then some v else d.get? k' := by
  split_ifs with h
  · subst h; exact get?_set_self d k v
  · exact get?_set_ne d v h

@[simp] theorem get?_pop_self (d : Dict α) (k : String) : (d.pop k).get? k = none := by
  obtain ⟨l, _⟩ := d
  simp only [get?, pop]
  induction l with
  | nil => rfl
  | cons e l ih => by_cases h : e.1 = k <;> simp_all [lookup, List.filter_cons]

@[simp] theorem get?_pop_ne (d : Dict α) {k k' : String} (h : k ≠ k') :
    (d.pop k).get? k' = d.get? k' := by
  obtain ⟨l, _⟩ := d
  simp only [get?, pop]
  induction l with
  | nil => rfl
  | cons e l ih =>
    obtain ⟨j, w⟩ := e
    by_cases hj : j = k
    · subst hj; simp_all [lookup, List.filter_cons]
    · by_cases hj' : j = k' <;> simp_all [lookup, List.filter_cons]

theorem get?_pop (d : Dict α) (k k' : String) :
    (d.pop k).get? k' = if k = k' then none else d.get? k' := by
  split_ifs with h
  · subst h; exact get?_pop_self d k
  · exact get?_pop_ne d h

/-- Unpacking `e` over `d`: `e`'s items win. -/
theorem get?_update (d e : Dict α) (k : String) :
    (d.update e).get? k = (e.get? k).or (d.get? k) := by
  obtain ⟨l, hl⟩ := e
  simp only [update, get?] at *
  induction l generalizing d with
  | nil => simp [lookup]
  | cons kv l ih =>
    obtain ⟨j, w⟩ := kv
    simp only [List.map_cons, List.nodup_cons] at hl
    simp only [List.foldl_cons, lookup]
    rw [ih (d.set j w) hl.2]
    by_cases hj : j = k
    · subst hj
      have h1 := get?_set_self d j w
      simp only [get?] at h1
      simp [(lookup_eq_none l j).2 hl.1, h1]
    · have h1 := get?_set_ne d w hj
      simp only [get?] at h1
      simp [hj, h1]

end Dict

/-! ## Slices and strings -/

/-- `xs[start:]`: a negative start counts from the end and is clamped at `0`. -/
def sliceFrom {α : Type} (xs : List α) (start : Int) : List α :=
  if start < 0 then xs.drop (start + xs.length).toNat else xs.drop start.toNat

@[simp] theorem sliceFrom_zero {α : Type} (xs : List α) : sliceFrom xs 0 = xs := by
  simp [sliceFrom]

/-- `xs[-n:]` for a positive `n` keeps the last `n` items. -/
theorem sliceFrom_neg {α : Type} (xs : List α) {n : Nat} (hn : 0 < n) :
    sliceFrom xs (-n) = xs.rtake n := by
  have h : (-(n : Int) + xs.length).toNat = xs.length - n := by omega
  have hneg : -(n : Int) < 0 := by omega
  simp [sliceFrom, hneg, h, List.rtake]

/-- `str.isspace` on one character: the Unicode whitespace CPython strips. -/
def isSpace (c : Char) : Bool :=
  let n := c.toNat
  (9 ≤ n && n ≤ 13) || (28 ≤ n && n ≤ 32) || n == 0x85 || n == 0xA0 || n == 0x1680 ||
    (0x2000 ≤ n && n ≤ 0x200A) || n == 0x2028 || n == 0x2029 || n == 0x202F ||
    n == 0x205F || n == 0x3000

/-- `s.strip()`. -/
def strip (s : String) : String := ⟨(s.toList.dropWhile isSpace).rdropWhile isSpace⟩

/-- `s.rstrip(c)` for a single character `c`. -/
def rstrip (s : String) (c : Char) : String := ⟨s.toList.rdropWhile (· == c)⟩

/-- The pieces of a character list between occurrences of `sep`. -/
def splitChars (sep : Char) : List Char → List (List Char)
  | [] => [[]]
  | c :: cs => if c = sep then [] :: splitChars sep cs else (splitChars sep cs).modifyHead (c :: ·)

/-- `s.split(sep)` for a one-character separator. -/
def split (s : String) (sep : Char) : List String := (splitChars sep s.toList).map String.mk

theorem splitChars_ne_nil (sep : Char) (cs : List Char) : splitChars sep cs ≠ [] := by
  cases cs with
  | nil => simp [splitChars]
  | cons c cs =>
    unfold splitChars
    split_ifs
    · simp
    · have := splitChars_ne_nil sep cs
      revert this; cases splitChars sep cs <;> simp

/-- A piece with no separator splits to itself. -/
theorem splitChars_of_not_mem {sep : Char} : ∀ {cs : List Char}, sep ∉ cs → splitChars sep cs = [cs]
  | [], _ => rfl
  | c :: cs, h => by
    simp only [List.mem_cons, not_or] at h
    rw [splitChars, if_neg (Ne.symm h.1), splitChars_of_not_mem h.2]
    rfl

/-- `(x + sep + y).split(sep)` is `x.split(sep) + y.split(sep)`. -/
theorem splitChars_append_sep (sep : Char) (x y : List Char) :
    splitChars sep (x ++ sep :: y) = splitChars sep x ++ splitChars sep y := by
  induction x with
  | nil => simp [splitChars]
  | cons c x ih =>
    rw [List.cons_append, splitChars, splitChars, ih]
    split_ifs
    · rfl
    · obtain ⟨p, ps, hp⟩ := List.exists_cons_of_ne_nil (splitChars_ne_nil sep x)
      rw [hp]
      rfl

end WebhookRelay.Python
