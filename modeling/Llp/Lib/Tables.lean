/-
  Tables: a write to a list, entries left out of a hash map, and one table whose values name
  the entries of another.

  * `List.getElem?_set_cases`, `List.getElem?_snoc_cases`: what is in a list after a write, and
    after an entry is added.
  * `List.sum_map_set`: what a write does to a sum over the list.
  * `AList.lookup_retain`, `AList.length_sub_retain`: what is left of a map, and how much is not.
  * `AList.Matches`: a map against a view of it, entry by entry: `insert`, `erase`, `retain`.
  * `Finmap.card_keys_le`: a table whose values name distinct entries of another has at most as
    many entries as that one.
-/
import Mathlib.Algebra.GroupWithZero.Nat
import Mathlib.Data.Finmap

namespace List

/-- What is at `j` after a write at `i`. -/
theorem getElem?_set_cases {α : Type} {xs : List α} {i j : ℕ} {x y : α}
    (h : (xs.set i x)[j]? = some y) : (j = i ∧ y = x) ∨ (j ≠ i ∧ xs[j]? = some y) := by
  rw [List.getElem?_set] at h
  split at h
  · next hij =>
      split at h
      · exact Or.inl ⟨hij.symm, (Option.some.inj h).symm⟩
      · cases h
  · next hij => exact Or.inr ⟨Ne.symm hij, h⟩

/-- What is in a list stays when entries are added. -/
theorem getElem?_append_some {α : Type} {xs : List α} {i : ℕ} {y : α} (h : xs[i]? = some y)
    (ys : List α) : (xs ++ ys)[i]? = some y :=
  (List.getElem?_append_left (List.getElem?_eq_some_iff.mp h).1).trans h

/-- What is at `i` after `x` is added at the end. -/
theorem getElem?_snoc_cases {α : Type} {xs : List α} {i : ℕ} {x y : α}
    (h : (xs ++ [x])[i]? = some y) : xs[i]? = some y ∨ y = x := by
  rw [List.getElem?_append] at h
  split at h
  · exact Or.inl h
  · exact Or.inr (List.mem_singleton.mp (List.mem_of_getElem? h))

/-- A write adds the weight of the new entry, and takes that of the old one away. -/
theorem sum_map_set {α : Type} (weight : α → ℕ) {xs : List α} {i : ℕ} {y : α}
    (h : xs[i]? = some y) (x : α) :
    ((xs.set i x).map weight).sum + weight y = (xs.map weight).sum + weight x := by
  induction xs generalizing i with
  | nil => simp at h
  | cons z zs ih =>
      cases i with
      | zero =>
          rw [List.getElem?_cons_zero, Option.some.injEq] at h
          simp only [List.set_cons_zero, List.map_cons, List.sum_cons, h]
          omega
      | succ i =>
          have hrest := ih (List.getElem?_cons_succ.symm.trans h)
          simp only [List.set_cons_succ, List.map_cons, List.sum_cons]
          omega

end List

/-- Related entries stay related where both filters agree on them. -/
theorem Option.Rel.filter {α β : Type} {R : α → β → Prop} {p : α → Bool} {q : β → Bool}
    (hfilter : ∀ a b, R a b → p a = q b) {x : Option α} {y : Option β} (h : Option.Rel R x y) :
    Option.Rel R (x.filter p) (y.filter q) := by
  cases h with
  | none => exact .none
  | some h =>
      simp only [Option.filter_some, hfilter _ _ h]
      split
      · exact .some h
      · exact .none

/-- What a related entry is related to. -/
theorem Option.Rel.of_some_right {α β : Type} {R : α → β → Prop} {x : Option α} {b : β}
    (h : Option.Rel R x (Option.some b)) : ∃ a, x = Option.some a ∧ R a b := by
  cases h with
  | some h => exact ⟨_, rfl, h⟩

theorem Option.Rel.of_some_left {α β : Type} {R : α → β → Prop} {a : α} {y : Option β}
    (h : Option.Rel R (Option.some a) y) : ∃ b, y = Option.some b ∧ R a b := by
  cases h with
  | some h => exact ⟨_, rfl, h⟩

theorem Option.Rel.imp {α β : Type} {R S : α → β → Prop} (hRS : ∀ a b, R a b → S a b)
    {x : Option α} {y : Option β} (h : Option.Rel R x y) : Option.Rel S x y := by
  cases h with
  | some h => exact .some (hRS _ _ h)
  | none => exact .none

theorem Option.Rel.toList {α β : Type} {R : α → β → Prop} {x : Option α} {y : Option β}
    (h : Option.Rel R x y) : List.Forall₂ R x.toList y.toList := by
  cases h with
  | some h => exact .cons h .nil
  | none => exact .nil

theorem Option.Rel.isSome_eq {α β : Type} {R : α → β → Prop} {x : Option α} {y : Option β}
    (h : Option.Rel R x y) : x.isSome = y.isSome := by
  cases h with
  | some h => rfl
  | none => rfl

namespace AList

variable {K V : Type}

/-- Leave out the entries that do not pass `keep`. -/
def retain (keep : K → V → Bool) (s : AList fun _ : K => V) : AList fun _ : K => V where
  entries := s.entries.filter fun entry => keep entry.1 entry.2
  nodupKeys := s.nodupKeys.sublist List.filter_sublist

theorem length_retain_le (keep : K → V → Bool) (s : AList fun _ : K => V) :
    (s.retain keep).entries.length ≤ s.entries.length :=
  List.length_filter_le _ _

theorem lookup_retain [DecidableEq K] {keep : K → V → Bool} {s : AList fun _ : K => V} {k : K}
    {v : V} : (s.retain keep).lookup k = some v ↔ s.lookup k = some v ∧ keep k v = true := by
  show v ∈ (s.retain keep).lookup k ↔ v ∈ s.lookup k ∧ keep k v = true
  rw [mem_lookup_iff, mem_lookup_iff]
  exact List.mem_filter

theorem lookup_retain_eq [DecidableEq K] (keep : K → V → Bool) (s : AList fun _ : K => V) (k : K) :
    (s.retain keep).lookup k = (s.lookup k).filter (keep k) := by
  ext v
  rw [lookup_retain, Option.filter_eq_some_iff]

theorem mem_retain [DecidableEq K] {keep : K → V → Bool} {s : AList fun _ : K => V} {k : K} :
    k ∈ s.retain keep ↔ ∃ v, s.lookup k = some v ∧ keep k v = true := by
  rw [← lookup_isSome, Option.isSome_iff_exists]
  exact exists_congr fun v => lookup_retain

/-- A new key adds one entry. -/
theorem length_insert_of_notMem [DecidableEq K] {s : AList fun _ : K => V} {k : K} (h : k ∉ s)
    (v : V) : (s.insert k v).entries.length = s.entries.length + 1 := by
  rw [entries_insert_of_notMem h, List.length_cons]

theorem length_keys (s : AList fun _ : K => V) : s.keys.length = s.entries.length :=
  List.length_map _

/-- A new value under an old key adds none. -/
theorem length_insert_of_mem [DecidableEq K] {s : AList fun _ : K => V} {k : K} (h : k ∈ s)
    (v : V) : (s.insert k v).entries.length = s.entries.length := by
  rw [← length_keys, ← length_keys, keys_insert, List.length_cons]
  exact List.length_erase_add_one (mem_keys.mp h)

theorem length_erase_le [DecidableEq K] (s : AList fun _ : K => V) (k : K) :
    (s.erase k).entries.length ≤ s.entries.length := by
  rw [← length_keys, ← length_keys, keys_erase]
  exact List.length_erase_le

/-- An entry less. -/
theorem length_erase_add_one [DecidableEq K] {s : AList fun _ : K => V} {k : K} (h : k ∈ s) :
    (s.erase k).entries.length + 1 = s.entries.length := by
  rw [← length_keys, ← length_keys, keys_erase]
  exact List.length_erase_add_one (mem_keys.mp h)

theorem erase_of_notMem [DecidableEq K] {s : AList fun _ : K => V} {k : K} (h : k ∉ s) :
    s.erase k = s :=
  AList.ext (List.kerase_of_notMem_keys h)

section Matches

variable [DecidableEq K] {W : Type} {R : K → W → V → Prop} {view : K → Option W}
  {s : AList fun _ : K => V}

/-- Each entry of a map is related to what the view has under its key, and the view has no other. -/
def Matches (R : K → W → V → Prop) (view : K → Option W) (s : AList fun _ : K => V) : Prop :=
  ∀ k, Option.Rel (R k) (view k) (s.lookup k)

theorem Matches.empty : Matches R (fun _ => none) (∅ : AList fun _ : K => V) := fun _ => .none

/-- An entry of the view and of the map change together. -/
theorem Matches.update (h : Matches R view s) {t : AList fun _ : K => V} {k : K} {w : Option W}
    (hentry : Option.Rel (R k) w (t.lookup k))
    (hother : ∀ k', k' ≠ k → t.lookup k' = s.lookup k') :
    Matches R (Function.update view k w) t := by
  intro k'
  by_cases hk : k' = k
  · subst hk
    rwa [Function.update_self]
  · rw [Function.update_of_ne hk, hother k' hk]
    exact h k'

theorem Matches.insert (h : Matches R view s) {k : K} {w : W} {v : V} (hentry : R k w v) :
    Matches R (Function.update view k (some w)) (s.insert k v) := by
  refine h.update ?_ fun k' hk => lookup_insert_ne hk
  rw [lookup_insert]
  exact .some hentry

theorem Matches.erase (h : Matches R view s) (k : K) :
    Matches R (Function.update view k none) (s.erase k) := by
  refine h.update ?_ fun k' hk => lookup_erase_ne hk
  rw [lookup_erase]
  exact .none

theorem Matches.retain (h : Matches R view s) {keepView : K → W → Bool} {keep : K → V → Bool}
    (hkeep : ∀ k w v, R k w v → keepView k w = keep k v) :
    Matches R (fun k => (view k).filter (keepView k)) (s.retain keep) := by
  intro k
  rw [lookup_retain_eq]
  exact (h k).filter (hkeep k)

end Matches

/-- A map that an insertion leaves as it is has the entry. -/
theorem insert_unchanged_iff [DecidableEq K] {s : AList fun _ : K => V} {k : K} {v v' : V}
    (h : s.lookup k = some v) :
    (∀ k', (s.insert k v').lookup k' = s.lookup k') ↔ v' = v := by
  constructor
  · intro hsame
    have hk := hsame k
    rw [lookup_insert, h] at hk
    exact Option.some.inj hk
  · rintro rfl k'
    by_cases hk : k' = k
    · rw [hk, lookup_insert, h]
    · exact lookup_insert_ne hk

/-- How many entries `retain` leaves out. -/
theorem length_sub_retain (keep : K → V → Bool) (s : AList fun _ : K => V) :
    s.entries.length - (s.retain keep).entries.length =
      s.entries.countP fun entry => !keep entry.1 entry.2 := by
  have hkept : (s.retain keep).entries.length =
      s.entries.countP fun entry => keep entry.1 entry.2 := List.countP_eq_length_filter.symm
  have hsplit := List.length_eq_countP_add_countP (fun entry : (_ : K) × V =>
    keep entry.1 entry.2) (l := s.entries)
  simp only [Bool.not_eq_true, Bool.decide_eq_false] at hsplit
  omega

end AList

theorem Finmap.card_keys_le {K L V W : Type} [DecidableEq K] [DecidableEq L] (f : V → L)
    {m : Finmap fun _ : K => V} {s : AList fun _ : L => W}
    (hmem : ∀ k v, m.lookup k = some v → f v ∈ s)
    (hinj : ∀ k k' v v', m.lookup k = some v → m.lookup k' = some v' → f v = f v' → k = k') :
    m.keys.card ≤ s.entries.length := by
  have hkey : ∀ {k}, k ∈ m.keys → ∃ v, m.lookup k = some v := fun hk =>
    Finmap.mem_iff.mp (Finmap.mem_keys.mp hk)
  have hnames : m.keys.card ≤ (s.keys.toFinset.map Function.Embedding.some).card := by
    refine Finset.card_le_card_of_injOn (fun k => (m.lookup k).map f) ?_ ?_
    · intro k hk
      obtain ⟨v, hv⟩ := hkey hk
      have hname : f v ∈ s.keys.toFinset := List.mem_toFinset.mpr (hmem k v hv)
      simpa [hv] using hname
    · intro k hk k' hk' heq
      obtain ⟨v, hv⟩ := hkey hk
      obtain ⟨v', hv'⟩ := hkey hk'
      simp only [hv, hv', Option.map_some, Option.some.injEq] at heq
      exact hinj k k' v v' hv hv' heq
  rwa [Finset.card_map, List.toFinset_card_of_nodup s.keys_nodup, AList.keys, List.keys,
    List.length_map] at hnames
