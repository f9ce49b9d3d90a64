import StoryPress.Modifier.Builtin

namespace StoryPress.Modifier.Builtin

open StoryPress.Json (Lookup)

/-- The folded letters that the invocations of a modifier start with. -/
def Name.starts : Name → List String
  | align => ["al"]
  | append => ["ap"]
  | .continue => ["co"]
  | note => ["no", "n.", "fi", "to"]
  | conditional => ["if", "un", "el"]
  | css => ["cs"]

theorem mem_all (n : Name) : n ∈ Name.all := by
  cases n <;> decide

theorem starts_disjoint {m n : Name} {s : String} (hm : s ∈ m.starts) (hn : s ∈ n.starts) :
    m = n := by
  have h : ∀ m ∈ Name.all, ∀ n ∈ Name.all, ∀ s ∈ m.starts, s ∈ n.starts → m = n := by decide
  exact h m (mem_all m) n (mem_all n) s hm hn

/-- The folded start of an invocation. -/
def start (invocation : String) : List Char := (fold (words invocation)).take 2

theorem fold_take (n : Nat) (cs : List Char) : fold (cs.take n) = (fold cs).take n := List.map_take

theorem start_of_keyword {keyword : String} {invocation : String} {rest : List Char}
    (h : afterKeyword? keyword (words invocation) = some rest) (hlen : 2 ≤ keyword.toList.length) :
    start invocation = keyword.toList.take 2 := by
  unfold afterKeyword? at h
  dsimp only at h
  split at h
  · next hk =>
    simp only [Bool.and_eq_true, beq_iff_eq] at hk
    rw [start, ← hk.1, fold_take, List.take_take, Nat.min_eq_left hlen]
  · cases h

/-- An invocation of `conditional` is `else`, or a keyword with an expression on one line. -/
theorem branch?_cases {invocation : String} {b : Branch} (h : branch? invocation = some b) :
    (fold (words invocation) = "else".toList ∧ b = .otherwise) ∨
      ∃ keyword ∈ ["if", "unless"], ∃ expr,
        afterKeyword? keyword (words invocation) = some expr ∧ expr ≠ [] ∧ '\n' ∉ expr ∧
          b = .test ((words invocation).take keyword.toList.length) expr := by
  have htest : ∀ keyword,
      ((afterKeyword? keyword (words invocation)).bind fun expr =>
        if !expr.isEmpty && expr.all (· != '\n') then
          some (Branch.test ((words invocation).take keyword.toList.length) expr)
        else none) = some b →
      ∃ expr, afterKeyword? keyword (words invocation) = some expr ∧ expr ≠ [] ∧ '\n' ∉ expr ∧
        b = .test ((words invocation).take keyword.toList.length) expr := by
    intro keyword h
    obtain ⟨expr, hexpr, h⟩ := Option.bind_eq_some_iff.mp h
    split at h
    · next hline =>
      cases h
      refine ⟨expr, hexpr, ?_, ?_, rfl⟩
      · rintro rfl
        simp at hline
      · intro hmem
        simp only [Bool.and_eq_true, List.all_eq_true] at hline
        simpa using hline.2 _ hmem
    · cases h
  unfold branch? at h
  dsimp only at h
  split at h
  · next helse =>
    exact .inl ⟨beq_iff_eq.mp helse, (Option.some.inj h).symm⟩
  · rcases Option.or_eq_some_iff.mp h with h | ⟨-, h⟩
    · exact .inr ⟨"if", by simp, htest "if" h⟩
    · exact .inr ⟨"unless", by simp, htest "unless" h⟩

theorem start_of_branch {invocation : String} (h : (branch? invocation).isSome = true) :
    ∃ s ∈ Name.conditional.starts, start invocation = s.toList := by
  obtain ⟨b, hb⟩ := Option.isSome_iff_exists.mp h
  rcases branch?_cases hb with ⟨helse, -⟩ | ⟨keyword, hmem, expr, hafter, -⟩
  · exact ⟨"el", by simp [Name.starts], by rw [start, helse]; rfl⟩
  · have hstart := start_of_keyword hafter
    simp only [List.mem_cons, List.not_mem_nil, or_false] at hmem
    rcases hmem with rfl | rfl
    · exact ⟨"if", by simp [Name.starts], hstart (by decide)⟩
    · exact ⟨"un", by simp [Name.starts], hstart (by decide)⟩

/-- A list of phrases that all start in a way that is listed. -/
theorem start_of_phrases {phrases starts : List String} {invocation : String}
    (hall : ∀ phrase ∈ phrases, ∃ s ∈ starts, phrase.toList.take 2 = s.toList)
    (h : isPhrase phrases invocation = true) : ∃ s ∈ starts, start invocation = s.toList := by
  obtain ⟨phrase, hmem, hfold⟩ := List.any_eq_true.mp h
  obtain ⟨s, hs, htake⟩ := hall phrase hmem
  refine ⟨s, hs, ?_⟩
  rw [start, beq_iff_eq.mp hfold, htake]

theorem start_of_accepts {lookup : Lookup} {name : Name} {invocation : String}
    (h : (ofName lookup name).accepts invocation = true) :
    ∃ s ∈ name.starts, start invocation = s.toList := by
  cases name with
  | align =>
    obtain ⟨direction, hd⟩ := Option.isSome_iff_exists.mp h
    obtain ⟨rest, hrest, -⟩ := Option.bind_eq_some_iff.mp hd
    exact ⟨"al", by simp [Name.starts], start_of_keyword hrest (by decide)⟩
  | append => exact start_of_phrases (by decide) h
  | «continue» => exact start_of_phrases (by decide) h
  | note => exact start_of_phrases (by decide) h
  | conditional => exact start_of_branch h
  | css => exact start_of_phrases (by decide) h

theorem eq_of_accepts {lookup : Lookup} {m n : Name} {invocation : String}
    (hm : (ofName lookup m).accepts invocation = true)
    (hn : (ofName lookup n).accepts invocation = true) : m = n := by
  obtain ⟨s, hs, hstart⟩ := start_of_accepts hm
  obtain ⟨t, ht, hstart'⟩ := start_of_accepts hn
  obtain rfl := String.toList_inj.mp (hstart.symm.trans hstart')
  exact starts_disjoint hs ht

end StoryPress.Modifier.Builtin
