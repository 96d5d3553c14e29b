/-!
# Tables

A finite map from 32-bit words, kept in the order of its keys.

* `find?_insert`, `find?_erase`: what is found after a change.
* `isSome_find?_iff`: the keys are the words under which something is found.
* `size_insert`: an insertion adds an entry unless it replaces one.
-/

namespace OpcUa

structure Table (α : Type) where
  entries : List (UInt32 × α)
  ascending : entries.Pairwise (fun a b => a.1 < b.1)

namespace Table

variable {α : Type}

def empty : Table α := ⟨[], .nil⟩

instance : Inhabited (Table α) := ⟨empty⟩

/-- The first value under `j`. -/
def search (j : UInt32) : List (UInt32 × α) → Option α
  | [] => none
  | e :: rest => if j = e.1 then some e.2 else search j rest

def find? (t : Table α) (k : UInt32) : Option α := search k t.entries

def contains (t : Table α) (k : UInt32) : Bool := (t.find? k).isSome

def keys (t : Table α) : List UInt32 := t.entries.map (·.1)

def values (t : Table α) : List α := t.entries.map (·.2)

def size (t : Table α) : Nat := t.entries.length

/-- The entries with `a` under `k`, before all that have a greater key. -/
def place (k : UInt32) (a : α) : List (UInt32 × α) → List (UInt32 × α)
  | [] => [(k, a)]
  | e :: rest =>
    if k < e.1 then (k, a) :: e :: rest
    else if k = e.1 then (k, a) :: rest
    else e :: place k a rest

theorem mem_place {k : UInt32} {a : α} {x : UInt32 × α} {l : List (UInt32 × α)}
    (h : x ∈ place k a l) : x = (k, a) ∨ x ∈ l := by
  induction l with
  | nil => simp_all [place]
  | cons e rest ih =>
    unfold place at h
    split at h
    · simp_all
    · split at h
      · simp_all only [List.mem_cons]
        rcases h with h | h
        · exact .inl h
        · exact .inr (.inr h)
      · rcases List.mem_cons.1 h with rfl | h
        · simp
        · rcases ih h with h | h
          · exact .inl h
          · exact .inr (List.mem_cons_of_mem _ h)

theorem place_ascending (k : UInt32) (a : α) {l : List (UInt32 × α)}
    (h : l.Pairwise (fun a b => a.1 < b.1)) :
    (place k a l).Pairwise (fun a b => a.1 < b.1) := by
  induction l with
  | nil => simp [place]
  | cons e rest ih =>
    have ⟨he, hr⟩ := List.pairwise_cons.1 h
    unfold place
    split
    · rename_i hk
      exact List.pairwise_cons.2 ⟨fun x hx => by
        rcases List.mem_cons.1 hx with rfl | hx
        · exact hk
        · exact UInt32.lt_trans hk (he x hx), h⟩
    · split
      · rename_i hk
        exact List.pairwise_cons.2 ⟨fun x hx => hk ▸ he x hx, hr⟩
      · rename_i h1 h2
        refine List.pairwise_cons.2 ⟨fun x hx => ?_, ih hr⟩
        rcases mem_place hx with rfl | hx
        · exact UInt32.lt_of_le_of_ne (UInt32.not_lt.1 h1) (fun h => h2 h.symm)
        · exact he x hx

/-- Puts `a` under `k`, in place of what was there. -/
def insert (k : UInt32) (a : α) (t : Table α) : Table α :=
  ⟨place k a t.entries, place_ascending k a t.ascending⟩

def erase (k : UInt32) (t : Table α) : Table α :=
  ⟨t.entries.filter (·.1 != k), t.ascending.filter _⟩

/-! ## Views -/

theorem search_place (k j : UInt32) (a : α) (l : List (UInt32 × α)) :
    search j (place k a l) = if j = k then some a else search j l := by
  induction l with
  | nil => rfl
  | cons e rest ih =>
    unfold place
    split
    · rfl
    · split
      · rename_i hk
        simp only [search, hk]
        split <;> rfl
      · rename_i hk
        simp only [search, ih]
        split
        · rename_i hj
          rw [if_neg (fun h : j = k => hk (h ▸ hj))]
        · rfl

theorem search_filter_ne (k j : UInt32) (l : List (UInt32 × α)) :
    search j (l.filter (·.1 != k)) = if j = k then none else search j l := by
  induction l with
  | nil => simp [search]
  | cons e rest ih =>
    by_cases hk : e.1 = k
    · rw [List.filter_cons_of_neg (by simpa using hk), ih]
      simp only [search, hk]
      split <;> rfl
    · rw [List.filter_cons_of_pos (by simpa using hk)]
      simp only [search, ih]
      by_cases hj : j = e.1
      · rw [if_pos hj, if_pos hj, if_neg (fun h => hk (hj ▸ h))]
      · rw [if_neg hj, if_neg hj]

@[simp] theorem find?_empty (k : UInt32) : (empty : Table α).find? k = none := rfl

@[simp] theorem find?_insert (t : Table α) (k j : UInt32) (a : α) :
    (t.insert k a).find? j = if j = k then some a else t.find? j :=
  search_place k j a t.entries

@[simp] theorem find?_erase (t : Table α) (k j : UInt32) :
    (t.erase k).find? j = if j = k then none else t.find? j :=
  search_filter_ne k j t.entries

theorem isSome_search_iff {k : UInt32} {l : List (UInt32 × α)} :
    (search k l).isSome ↔ ∃ a, (k, a) ∈ l := by
  induction l with
  | nil => simp [search]
  | cons e rest ih =>
    unfold search
    split
    · rename_i h
      subst h
      exact ⟨fun _ => ⟨e.2, List.mem_cons_self⟩, fun _ => rfl⟩
    · rename_i h
      rw [ih]
      refine ⟨fun ⟨a, ha⟩ => ⟨a, List.mem_cons_of_mem _ ha⟩, fun ⟨a, ha⟩ => ⟨a, ?_⟩⟩
      rcases List.mem_cons.1 ha with rfl | ha
      · exact absurd rfl h
      · exact ha

theorem isSome_find?_iff (t : Table α) (k : UInt32) : (t.find? k).isSome ↔ k ∈ t.keys := by
  rw [find?, isSome_search_iff, keys]
  simp

theorem length_place (k : UInt32) (a : α) {l : List (UInt32 × α)}
    (h : l.Pairwise (fun a b => a.1 < b.1)) :
    (place k a l).length = if (search k l).isSome then l.length else l.length + 1 := by
  induction l with
  | nil => rfl
  | cons e rest ih =>
    have ⟨he, hr⟩ := List.pairwise_cons.1 h
    unfold place
    split
    · rename_i hk
      have hmiss : ¬ (search k (e :: rest)).isSome := by
        rw [isSome_search_iff]
        rintro ⟨b, hb⟩
        rcases List.mem_cons.1 hb with rfl | hb
        · exact UInt32.lt_irrefl _ hk
        · exact UInt32.lt_irrefl _ (UInt32.lt_trans hk (he _ hb))
      rw [if_neg hmiss]
      rfl
    · split
      · rename_i hk
        simp [search, hk]
      · rename_i hk
        simp only [List.length_cons, ih hr, search, if_neg hk]
        split <;> rfl

theorem size_insert (t : Table α) (k : UInt32) (a : α) :
    (t.insert k a).size = if t.contains k then t.size else t.size + 1 :=
  length_place k a t.ascending

end Table

end OpcUa
