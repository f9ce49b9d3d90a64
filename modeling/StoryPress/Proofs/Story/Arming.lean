import StoryPress.Proofs.Modifier.Builtins
import StoryPress.Proofs.Story.Turns

namespace StoryPress.Story.Piece

open StoryPress.Json (Lookup)
open StoryPress.Modifier (Armed)
open StoryPress.Modifier.Builtin (Name enabled ofName)

variable {lookup : Lookup} {disabled : List String} {invocation : String} {a : Armed}

/-- A built-in modifier as an invocation arms it. -/
def builtin (lookup : Lookup) (disabled : List String) (name : Name) (invocation : String) :
    Armed :=
  ⟨(enabled disabled).idxOf name, ofName lookup name, invocation⟩

theorem nodup_enabled (disabled : List String) : (enabled disabled).Nodup :=
  List.Nodup.filter _ (by decide)

theorem mem_candidates_builtin :
    a ∈ candidates (Modifier.Builtin.registry lookup disabled) invocation ↔
      ∃ name ∈ enabled disabled, (ofName lookup name).accepts invocation = true ∧
        a = builtin lookup disabled name invocation := by
  rw [mem_candidates, Modifier.Builtin.registry, List.getElem?_map]
  constructor
  · rintro ⟨hget, haccepts, rfl⟩
    obtain ⟨name, hname, hmod⟩ := Option.map_eq_some_iff.mp hget
    obtain ⟨hlt, rfl⟩ := List.getElem?_eq_some_iff.mp hname
    refine ⟨_, List.getElem_mem hlt, hmod ▸ haccepts, ?_⟩
    rw [builtin, hmod, (nodup_enabled disabled).idxOf_getElem]
  · rintro ⟨name, hmem, haccepts, rfl⟩
    refine ⟨?_, haccepts, rfl⟩
    simp only [builtin]
    rw [List.getElem?_idxOf hmem]
    rfl

/-- An invocation arms exactly the built-in modifier that accepts it. -/
theorem arming_builtin_iff :
    arming (Modifier.Builtin.registry lookup disabled) invocation = some a ↔
      ∃ name ∈ enabled disabled, (ofName lookup name).accepts invocation = true ∧
        a = builtin lookup disabled name invocation := by
  constructor
  · intro h
    exact mem_candidates_builtin.mp (mem_candidates_of_arming _ h)
  · rintro ⟨name, hmem, haccepts, rfl⟩
    refine arming_of_unique _ (mem_candidates_builtin.mpr ⟨name, hmem, haccepts, rfl⟩) ?_
    intro b hb
    obtain ⟨other, -, hother, rfl⟩ := mem_candidates_builtin.mp hb
    rw [Modifier.Builtin.eq_of_accepts hother haccepts]

/-- Two candidates would be the same modifier, but they stand at different places. -/
theorem length_accepting_builtin_le_one (lookup : Lookup) (disabled : List String)
    (invocation : String) :
    ((Modifier.Builtin.registry lookup disabled).accepting invocation).length ≤ 1 := by
  have hnodup := nodup_candidates (Modifier.Builtin.registry lookup disabled) invocation
  rw [accepting_eq, List.length_map]
  rcases hc : candidates (Modifier.Builtin.registry lookup disabled) invocation with
    _ | ⟨a, _ | ⟨b, more⟩⟩
  · exact Nat.zero_le 1
  · exact Nat.le_refl 1
  · have ha : a ∈ candidates (Modifier.Builtin.registry lookup disabled) invocation := by simp [hc]
    have hb : b ∈ candidates (Modifier.Builtin.registry lookup disabled) invocation := by simp [hc]
    obtain ⟨m, -, hm, rfl⟩ := mem_candidates_builtin.mp ha
    obtain ⟨n, -, hn, rfl⟩ := mem_candidates_builtin.mp hb
    rw [hc, Modifier.Builtin.eq_of_accepts hm hn] at hnodup
    simp at hnodup

end StoryPress.Story.Piece
