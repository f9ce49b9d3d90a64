import StoryPress.Json.Value

namespace StoryPress.Story

open StoryPress.Json (Value Fields)

structure Store where
  values : Fields
  writes : List (String × Value)

namespace Store

/-- A store with these values, to which nothing was written yet. -/
def ofFields (values : Fields) : Store := ⟨values, []⟩

def get? (store : Store) (name : String) : Option Value := store.values.get? name

def set (store : Store) (name : String) (value : Value) : Store :=
  ⟨store.values.put name value, store.writes ++ [(name, value)]⟩

def setAll (store : Store) (writes : List (String × Value)) : Store :=
  writes.foldl (fun store (name, value) => store.set name value) store

@[simp] theorem writes_set (store : Store) (name : String) (value : Value) :
    (store.set name value).writes = store.writes ++ [(name, value)] := rfl

theorem get?_set (store : Store) (name other : String) (value : Value) :
    (store.set name value).get? other = if other = name then some value else store.get? other :=
  Json.Fields.get?_put store.values name other value

@[simp] theorem writes_setAll (store : Store) (writes : List (String × Value)) :
    (store.setAll writes).writes = store.writes ++ writes := by
  induction writes generalizing store with
  | nil => simp [setAll]
  | cons write rest ih =>
    have := ih (store.set write.1 write.2)
    simpa [setAll] using this

theorem setAll_append (store : Store) (xs ys : List (String × Value)) :
    store.setAll (xs ++ ys) = (store.setAll xs).setAll ys := List.foldl_append

/-- The last write to a name wins. -/
theorem get?_setAll (store : Store) (writes : List (String × Value)) (name : String) :
    (store.setAll writes).get? name = (writes.reverse.lookup name).or (store.get? name) := by
  induction writes generalizing store with
  | nil => rfl
  | cons write rest ih =>
    obtain ⟨key, value⟩ := write
    have h : store.setAll ((key, value) :: rest) = (store.set key value).setAll rest := rfl
    rw [h, ih, get?_set, List.reverse_cons, List.lookup_append]
    by_cases hn : name = key
    · subst hn
      simp
    · simp [List.lookup_cons, beq_false_of_ne hn, hn]

end Store

end StoryPress.Story
