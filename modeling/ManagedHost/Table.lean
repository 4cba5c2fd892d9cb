/-!
Tables: a value for every number, the default one except where another was put. Reading a row after
putting it gives the value that was put, and no other row changes.
-/

namespace ManagedHost

/-- A filter that keeps every entry of a key does not change what the key leads to. -/
theorem lookup_filter_of_kept {κ α : Type} [BEq κ] [LawfulBEq κ] {keep : κ × α → Bool} {key : κ}
    (kept : ∀ value, keep (key, value) = true) (entries : List (κ × α)) :
    (entries.filter keep).lookup key = entries.lookup key := by
  induction entries with
  | nil => rfl
  | cons entry rest ih =>
    obtain ⟨k, v⟩ := entry
    by_cases same : key = k
    · subst same
      simp [kept]
    · rw [List.filter_cons, List.lookup_cons, beq_false_of_ne same, ← ih]
      split
      · rw [List.lookup_cons, beq_false_of_ne same]
      · rfl

/-- A value for every number, the default one for all but finitely many. -/
structure Table (α : Type) where
  rows : List (Nat × α) := []

namespace Table

variable {α : Type} [Inhabited α]

instance : Inhabited (Table α) := ⟨{}⟩

def row (table : Table α) (n : Nat) : α := (table.rows.lookup n).getD default

def put (table : Table α) (n : Nat) (value : α) : Table α :=
  ⟨(n, value) :: table.rows.filter (·.1 ≠ n)⟩

@[simp] theorem row_empty (n : Nat) : ({} : Table α).row n = default := rfl

@[simp] theorem row_put_self (table : Table α) (n : Nat) (value : α) :
    (table.put n value).row n = value := by
  simp [row, put]

theorem row_put_of_ne (table : Table α) {n m : Nat} (h : m ≠ n) (value : α) :
    (table.put n value).row m = table.row m := by
  rw [row, row, put, List.lookup_cons, beq_false_of_ne h,
    lookup_filter_of_kept fun _ => decide_eq_true h]

end Table

end ManagedHost
