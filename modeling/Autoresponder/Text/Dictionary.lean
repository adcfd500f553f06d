/-!
# Dictionaries

Entries sorted by key, each key once. Putting an entry keeps both properties, and a sorted list of
entries is rebuilt by putting its entries one after the other.
-/

namespace Autoresponder.Text

/-- Puts an entry in its place, over an equal key. -/
def put {β : Type} (key : String) (value : β) : List (String × β) → List (String × β)
  | [] => [(key, value)]
  | (k, v) :: rest =>
    if key = k then (key, value) :: rest
    else if key < k then (key, value) :: (k, v) :: rest
    else (k, v) :: put key value rest

/-- Puts entries one after the other. -/
def putAll {β : Type} (start : List (String × β)) (entries : List (String × β)) :
    List (String × β) :=
  entries.foldl (fun sorted (k, v) => put k v sorted) start

/-- Keys strictly increase. -/
def Sorted {β : Type} (entries : List (String × β)) : Prop :=
  entries.Pairwise fun a b => a.1 < b.1

theorem lt_of_not_le {a b : String} (h : ¬ a = b) (h' : ¬ a < b) : b < a := by
  rcases Std.lt_trichotomy a b with h'' | h'' | h''
  · exact absurd h'' h'
  · exact absurd h'' h
  · exact h''

theorem mem_put {β : Type} {key : String} {value : β} {entries : List (String × β)}
    {x : String × β} (h : x ∈ put key value entries) : x = (key, value) ∨ x ∈ entries := by
  fun_induction put key value entries with
  | case1 => simp_all
  | case2 v rest =>
    rcases List.mem_cons.1 h with rfl | h
    · exact .inl rfl
    · exact .inr (List.mem_cons_of_mem _ h)
  | case3 k v rest _ _ =>
    rcases List.mem_cons.1 h with rfl | h
    · exact .inl rfl
    · exact .inr h
  | case4 k v rest _ _ ih =>
    rcases List.mem_cons.1 h with rfl | h
    · exact .inr List.mem_cons_self
    · exact (ih h).imp id (List.mem_cons_of_mem _)

theorem Sorted.put {β : Type} {entries : List (String × β)} (h : Sorted entries) (key : String)
    (value : β) : Sorted (put key value entries) := by
  fun_induction Text.put key value entries with
  | case1 => simp [Sorted]
  | case2 v rest => simpa [Sorted] using h
  | case3 k v rest _ lt =>
    simp only [Sorted, List.pairwise_cons] at h ⊢
    refine ⟨?_, h⟩
    intro x hx
    rcases List.mem_cons.1 hx with rfl | hx
    · exact lt
    · exact Std.lt_trans lt (h.1 x hx)
  | case4 k v rest ne nlt ih =>
    simp only [Sorted, List.pairwise_cons] at h ih ⊢
    refine ⟨?_, ih h.2⟩
    intro x hx
    rcases mem_put hx with rfl | hx
    · exact lt_of_not_le ne nlt
    · exact h.1 x hx

theorem Sorted.putAll {β : Type} {start entries : List (String × β)} (h : Sorted start) :
    Sorted (putAll start entries) := by
  induction entries generalizing start with
  | nil => exact h
  | cons e r ih => exact ih (h.put e.1 e.2)

/-- A key beyond all others goes to the end. -/
theorem put_of_forall_lt {β : Type} {key : String} {value : β} {entries : List (String × β)}
    (h : ∀ x ∈ entries, x.1 < key) : put key value entries = entries ++ [(key, value)] := by
  induction entries with
  | nil => rfl
  | cons e r ih =>
    obtain ⟨k, v⟩ := e
    have lt : k < key := h (k, v) List.mem_cons_self
    have ne : key ≠ k := fun e => absurd (e ▸ lt) (Std.lt_irrefl)
    have nlt : ¬ key < k := fun l => absurd (Std.lt_trans lt l) (Std.lt_irrefl)
    simp [put, ne, nlt, ih fun x hx => h x (List.mem_cons_of_mem _ hx)]

theorem putAll_of_sorted_append {β : Type} {start entries : List (String × β)}
    (h : Sorted (start ++ entries)) : putAll start entries = start ++ entries := by
  induction entries generalizing start with
  | nil => simp [putAll]
  | cons e r ih =>
    have split := List.pairwise_append.1 h
    have last : put e.1 e.2 start = start ++ [e] :=
      put_of_forall_lt fun x hx => split.2.2 x hx e List.mem_cons_self
    have step : putAll start (e :: r) = putAll (start ++ [e]) r := by
      simp only [putAll, List.foldl_cons, last]
    rw [step, ih (by simpa [Sorted] using h)]
    simp

/-- Sorted entries are rebuilt by putting them one after the other. -/
theorem putAll_of_sorted {β : Type} {entries : List (String × β)} (h : Sorted entries) :
    putAll [] entries = entries :=
  putAll_of_sorted_append h

-- A key has one value, the one that was put last.
theorem put_put {β : Type} (key : String) (value value' : β) (entries : List (String × β)) :
    put key value (put key value' entries) = put key value entries := by
  fun_induction put key value' entries with
  | case1 => simp [put]
  | case2 v rest => simp [put]
  | case3 k v rest ne lt => simp [put, ne, lt]
  | case4 k v rest ne nlt ih => simp [put, ne, nlt, ih]

theorem put_comm {β : Type} {key key' : String} (h : key ≠ key') (value value' : β)
    (entries : List (String × β)) :
    put key value (put key' value' entries) = put key' value' (put key value entries) := by
  induction entries with
  | nil => grind [put, String.lt_irrefl, String.lt_trans, lt_of_not_le]
  | cons e rest ih => grind [put, String.lt_irrefl, String.lt_trans, lt_of_not_le]

theorem putAll_cons {β : Type} (start : List (String × β)) (e : String × β)
    (entries : List (String × β)) :
    putAll start (e :: entries) = putAll (put e.1 e.2 start) entries := rfl

-- An entry that is put before others is put over, or might as well have been put after them.
theorem putAll_put {β : Type} (start : List (String × β)) (key : String) (value : β)
    (entries : List (String × β)) :
    putAll (put key value start) entries =
      if key ∈ entries.map (·.1) then putAll start entries
      else put key value (putAll start entries) := by
  induction entries generalizing start with
  | nil => rfl
  | cons e rest ih =>
    rw [putAll_cons, putAll_cons, List.map_cons]
    by_cases h : key = e.1
    · rw [h, put_put, if_pos List.mem_cons_self]
    · rw [put_comm (Ne.symm h), ih]
      simp only [List.mem_cons, h, false_or]

/-- Putting the same entries once more changes nothing. -/
theorem putAll_putAll {β : Type} (start entries : List (String × β)) :
    putAll (putAll start entries) entries = putAll start entries := by
  induction entries generalizing start with
  | nil => rfl
  | cons e rest ih =>
    rw [putAll_cons, putAll_cons, putAll_put, ih]
    split
    · rfl
    · rw [putAll_put, if_neg ‹_›, put_put]

end Autoresponder.Text
