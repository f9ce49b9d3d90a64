import StoryPress.Proofs.Story.Placeholders
import StoryPress.Story.Store

/-! Names are looked up in the explicit inserts first and then among the variables, but each name on
its own: a variable with a dotted name comes before a field of an insert. Apart from that an insert
hides the variables, and a name that the inserts do not know at all is left to the variables. -/
namespace StoryPress.Story.Insert

open StoryPress.Json (Fields Lookup Value)
open StoryPress.Text (AllBlank)

/-- The part of a dotted name before its first dot. -/
def rootOf (name : String) : String := (Text.split '.' name).headD ""

def keysOf (name : String) : List String := (Text.split '.' name).tail

theorem split_eq (name : String) : Text.split '.' name = rootOf name :: keysOf name := by
  unfold rootOf keysOf
  cases h : Text.split '.' name with
  | nil => exact absurd (List.map_eq_nil_iff.mp h) (Text.splitChars_ne_nil '.' name.toList)
  | cons root keys => rfl

theorem resolve_eq (lookup : Lookup) (name : String) :
    Value.resolve lookup name =
      (lookup name).or ((lookup (rootOf name)).bind fun value =>
        (keysOf name).foldlM Value.field? value) := by
  rw [Value.resolve, split_eq]
  cases lookup name <;> rfl

theorem layered_eq (inserts : Fields) (lookup : Lookup) (name : String) :
    layered inserts lookup name = (inserts.get? name).or (lookup name) := by
  unfold layered
  cases inserts.get? name <;> rfl

variable {inserts : Fields} {lookup : Lookup} {name : String} {value : Value}

theorem resolve_of_whole (h : lookup name = some value) :
    Value.resolve lookup name = some value := by
  rw [resolve_eq, h]
  rfl

theorem resolve_layered_of_insert (h : inserts.get? name = some value) :
    Value.resolve (layered inserts lookup) name = some value :=
  resolve_of_whole (by rw [layered_eq, h, Option.some_or])

theorem resolve_layered_of_variable (hinsert : inserts.get? name = none)
    (h : lookup name = some value) : Value.resolve (layered inserts lookup) name = some value :=
  resolve_of_whole (by rw [layered_eq, hinsert, Option.none_or, h])

/-- Where only the root is known, the root of the inserts hides the one of the variables. -/
theorem resolve_layered_of_field (hinsert : inserts.get? name = none)
    (hvariable : lookup name = none) (h : Value.resolve inserts.get? name = some value) :
    Value.resolve (layered inserts lookup) name = some value := by
  rw [resolve_eq, hinsert, Option.none_or, Option.bind_eq_some_iff] at h
  obtain ⟨root, hroot, hwalk⟩ := h
  rw [resolve_eq, layered_eq, hinsert, hvariable, layered_eq, hroot]
  exact hwalk

theorem resolve_layered_of_unknown (hinsert : inserts.get? name = none)
    (hroot : inserts.get? (rootOf name) = none) :
    Value.resolve (layered inserts lookup) name = Value.resolve lookup name := by
  rw [resolve_eq, resolve_eq, layered_eq, layered_eq, hinsert, hroot, Option.none_or,
    Option.none_or]

/-- The plain placeholder of a name. -/
def braced (name : String) : String := "\x7b" ++ name ++ "\x7d"

/-- What it becomes. -/
def shown (lookup : Lookup) (name : String) : String :=
  match Value.resolve lookup name with
  | some value => valueText value
  | none => braced name

theorem shown_of_some (h : Value.resolve lookup name = some value) :
    shown lookup name = valueText value := by
  rw [shown, h]

theorem shown_congr {other : Lookup}
    (h : Value.resolve lookup name = Value.resolve other name) :
    shown lookup name = shown other name := by
  rw [shown, h, shown]

theorem write_placeholder (lookup : Lookup) (name : String) :
    write lookup ⟨'{' :: inside [] name.toList [], name.toList⟩ = (shown lookup name).toList := by
  unfold write shown
  rw [String.ofList_toList]
  cases Value.resolve lookup name with
  | some value => rfl
  | none => simp [inside, braced]

theorem substitute_placeholder (lookup : Lookup) (hname : IsName name.toList)
    (before after : String) :
    substitute lookup (before ++ braced name ++ after) =
      substitute lookup before ++ shown lookup name ++ substitute lookup after := by
  have htext : (before ++ braced name ++ after).toList =
      before.toList ++ '{' :: (inside [] name.toList [] ++ after.toList) := by
    simp [inside, braced]
  have hblank : AllBlank [] := fun _ h => absurd h List.not_mem_nil
  rw [← String.toList_inj, String.toList_append, String.toList_append]
  simp only [substitute, String.toList_ofList]
  rw [htext, substituteChars_placeholder lookup hblank hname hblank, write_placeholder]

theorem substitute_empty (lookup : Lookup) : substitute lookup "" = "" := by
  simp [substitute, substituteChars, Text.replaceSpans, Text.pieces]

theorem shown_layered_iff (h : Value.resolve inserts.get? name = some value) :
    shown (layered inserts lookup) name = valueText value ↔
      (inserts.get? name).isSome ∨
        ∀ other, lookup name = some other → valueText other = valueText value := by
  cases hinsert : inserts.get? name with
  | some whole =>
    obtain rfl := Option.some.inj ((resolve_of_whole hinsert).symm.trans h)
    simp [shown_of_some (resolve_layered_of_insert hinsert)]
  | none =>
    cases hvariable : lookup name with
    | some other => simp [shown_of_some (resolve_layered_of_variable hinsert hvariable)]
    | none => simp [shown_of_some (resolve_layered_of_field hinsert hvariable h)]

/-- A value of the inserts is shown whatever the variables are if it stands there under the whole
name; the field of an insert is shown unless a variable of the whole name shows something else. -/
theorem explicit_insert_wins_iff (inserts : Fields) (store : Store) (name : String)
    (hname : IsName name.toList) (before after : String) :
    let layers := layered inserts store.get?
    let written := fun text => substitute layers before ++ text ++ substitute layers after
    let filled := substitute layers (before ++ braced name ++ after)
    (∀ value, Value.resolve inserts.get? name = some value →
      (filled = written (valueText value) ↔
        (inserts.get? name).isSome ∨
          ∀ other, store.get? name = some other → valueText other = valueText value)) ∧
    (∀ other, inserts.get? name = none → store.get? name = some other →
      filled = written (valueText other)) ∧
    (inserts.get? name = none → inserts.get? (rootOf name) = none →
      filled = written (substitute store.get? (braced name))) := by
  intro layers written filled
  have hfilled : filled = written (shown layers name) :=
    substitute_placeholder layers hname before after
  have hwritten : ∀ x y, written x = written y ↔ x = y := by
    intro x y
    simp only [written, String.append_left_inj, String.append_right_inj]
  refine ⟨?_, ?_, ?_⟩
  · intro value hvalue
    rw [hfilled, hwritten]
    exact shown_layered_iff hvalue
  · intro other hinsert hstore
    rw [hfilled, shown_of_some (resolve_layered_of_variable hinsert hstore)]
  · intro hinsert hroot
    have hshown : shown layers name = shown store.get? name :=
      shown_congr (resolve_layered_of_unknown hinsert hroot)
    have halone := substitute_placeholder store.get? hname "" ""
    rw [hfilled, hwritten, hshown]
    simpa [substitute_empty] using halone.symm

/-- Under its whole name an insert comes before a variable. -/
theorem insert_of_dotted_name_shown :
    let inserts : Fields := [("hero.name", .text "Ada")]
    let store := Store.ofFields [("hero.name", .text "Bob")]
    substitute (layered inserts store.get?) "Dear {hero.name}," = "Dear Ada," := by
  intro inserts store
  have hname : IsName "hero.name".toList := by decide +kernel
  have hvalue : Value.resolve inserts.get? "hero.name" = some (.text "Ada") := rfl
  have hbefore : substitute (layered inserts store.get?) "Dear " = "Dear " := by decide +kernel
  have hafter : substitute (layered inserts store.get?) "," = "," := by decide +kernel
  have hshown := ((explicit_insert_wins_iff inserts store "hero.name" hname "Dear " ",").1
    _ hvalue).mpr (.inl rfl)
  simp only [hbefore, hafter] at hshown
  exact hshown

/-- The variable of the whole dotted name is found before the field of the insert. -/
theorem dotted_variable_hides_insert :
    let inserts : Fields := [("hero", .object [("name", .text "Ada")])]
    let store := Store.ofFields [("hero.name", .text "Bob")]
    Value.resolve inserts.get? "hero.name" = some (.text "Ada") ∧
      substitute (layered inserts store.get?) "{hero.name}" = "Bob" := by
  intro inserts store
  refine ⟨rfl, ?_⟩
  decide +kernel

end StoryPress.Story.Insert
