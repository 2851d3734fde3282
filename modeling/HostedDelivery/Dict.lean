/-!
# Entries under text keys

A `Dict` lists its entries in increasing order of key, which is the order every object, label set and data map
is printed in. The operations are read through `find?`: `find?_insert` and `find?_erase` say what each does to it,
and `Ordered` is the order that `insert` and `erase` keep (`ordered_insert`, `ordered_erase`).
-/

namespace HostedDelivery

/-- Entries under text keys, listed in increasing order of key. -/
abbrev Dict (α : Type) := List (String × α)

namespace Dict
variable {α β : Type}

/-- The entry under a key. -/
def find? : Dict α → String → Option α
  | [], _ => none
  | (k, v) :: rest, key => if k = key then some v else find? rest key

/-- The dictionary with `value` under `key`, in place of what was there. -/
def insert : Dict α → String → α → Dict α
  | [], key, value => [(key, value)]
  | (k, v) :: rest, key, value =>
    if key < k then (key, value) :: (k, v) :: rest
    else if key = k then (key, value) :: rest
    else (k, v) :: insert rest key value

/-- The dictionary without its entry under `key`. -/
def erase (d : Dict α) (key : String) : Dict α :=
  d.filter fun entry => entry.1 ≠ key

/-- The dictionary of a list of entries, of which a later one replaces an earlier one of the same key. -/
def ofEntries (entries : List (String × α)) : Dict α :=
  entries.foldl (fun d entry => Dict.insert d entry.1 entry.2) []

/-- Keys strictly increase from entry to entry. -/
def Ordered (d : Dict α) : Prop :=
  d.Pairwise fun a b => a.1 < b.1

@[simp] theorem find?_nil (key : String) : find? ([] : Dict α) key = none := rfl

theorem find?_cons (k : String) (v : α) (rest : Dict α) (key : String) :
    find? ((k, v) :: rest) key = if k = key then some v else find? rest key := rfl

theorem find?_insert (d : Dict α) (key : String) (value : α) (key' : String) :
    find? (Dict.insert d key value) key' = if key = key' then some value else find? d key' := by
  induction d with
  | nil => rfl
  | cons entry rest ih =>
    obtain ⟨k, v⟩ := entry
    simp only [Dict.insert]
    split
    · rfl
    · split
      · subst key; simp only [find?_cons]; split <;> rfl
      · simp only [find?_cons, ih]; grind

theorem find?_erase (d : Dict α) (key key' : String) :
    find? (Dict.erase d key) key' = if key = key' then none else find? d key' := by
  induction d with
  | nil => simp [Dict.erase]
  | cons entry rest ih =>
    obtain ⟨k, v⟩ := entry
    simp only [Dict.erase, List.filter_cons] at ih ⊢
    by_cases same : k = key
    · simp only [same, ne_eq, not_true_eq_false, decide_false, Bool.false_eq_true, ↓reduceIte, ih, find?_cons]
      grind
    · simp only [ne_eq, same, not_false_eq_true, decide_true, ↓reduceIte, find?_cons, ih]
      grind

/-- Every entry after an insertion is the new one or was there before. -/
theorem mem_insert {d : Dict α} {key : String} {value : α} {entry : String × α}
    (member : entry ∈ Dict.insert d key value) : entry = (key, value) ∨ entry ∈ d := by
  induction d with
  | nil => exact .inl (by simpa [Dict.insert] using member)
  | cons first rest ih =>
    obtain ⟨k, v⟩ := first
    simp only [Dict.insert] at member
    split at member
    · exact (List.mem_cons.mp member).imp_right id
    · split at member
      · exact (List.mem_cons.mp member).imp_right (List.mem_cons_of_mem _)
      · rcases List.mem_cons.mp member with same | later
        · exact .inr (same ▸ List.mem_cons_self)
        · exact (ih later).imp_right (List.mem_cons_of_mem _)

theorem ordered_insert {d : Dict α} (ordered : d.Ordered) (key : String) (value : α) :
    (Dict.insert d key value).Ordered := by
  induction d with
  | nil => exact List.pairwise_singleton _ _
  | cons first rest ih =>
    obtain ⟨k, v⟩ := first
    obtain ⟨least, tail⟩ := List.pairwise_cons.mp ordered
    simp only [Dict.insert]
    split
    · rename_i before
      refine List.pairwise_cons.mpr ⟨fun entry member => ?_, ordered⟩
      rcases List.mem_cons.mp member with rfl | later
      · exact before
      · exact String.lt_trans before (least entry later)
    · split
      · rename_i same
        exact List.pairwise_cons.mpr ⟨same ▸ least, tail⟩
      · rename_i notBefore different
        refine List.pairwise_cons.mpr ⟨fun entry member => ?_, ih tail⟩
        rcases mem_insert member with rfl | later
        · exact String.not_le.mp fun le => different (String.le_antisymm le (String.not_lt.mp notBefore))
        · exact least entry later

theorem ordered_erase {d : Dict α} (ordered : d.Ordered) (key : String) : (Dict.erase d key).Ordered :=
  List.Pairwise.filter _ ordered

end Dict
end HostedDelivery
