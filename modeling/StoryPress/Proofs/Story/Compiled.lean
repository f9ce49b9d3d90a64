import StoryPress.Story.File
import Mathlib.Data.List.Forall2

namespace StoryPress.Story

open StoryPress.Json (Lookup)

section Checks

variable {α β ε δ : Type}

theorem ok_of_bind_ok {first : Except ε α} {next : α → Except ε β} {b : β}
    (h : first >>= next = .ok b) : ∃ a, first = .ok a ∧ next a = .ok b := by
  cases first with
  | error e => cases h
  | ok a => exact ⟨a, rfl, h⟩

theorem ok_of_mapError_ok {first : Except ε α} {change : ε → δ} {a : α}
    (h : first.mapError change = .ok a) : first = .ok a := by
  cases first with
  | error e => cases h
  | ok a => exact congrArg Except.ok (Except.ok.inj h)

theorem ok_of_toOption {first : Except ε α} {a : α} (h : first.toOption = some a) :
    first = .ok a := by
  cases first with
  | error e => cases h
  | ok found => exact congrArg Except.ok (Option.some.inj h)

theorem mapM_cons_ok_iff {check : α → Except ε β} {x : α} {xs : List α} {ys : List β} :
    (x :: xs).mapM check = .ok ys ↔
      ∃ first later, check x = .ok first ∧ xs.mapM check = .ok later ∧ ys = first :: later := by
  rw [List.mapM_cons]
  constructor
  · intro h
    obtain ⟨first, hfirst, h⟩ := ok_of_bind_ok h
    obtain ⟨later, hlater, h⟩ := ok_of_bind_ok h
    exact ⟨first, later, hfirst, hlater, (Except.ok.inj h).symm⟩
  · rintro ⟨first, later, hfirst, hlater, rfl⟩
    rw [hfirst, hlater]
    rfl

theorem mapM_append_ok_iff {check : α → Except ε β} {xs ys : List α} {zs : List β} :
    (xs ++ ys).mapM check = .ok zs ↔
      ∃ us vs, xs.mapM check = .ok us ∧ ys.mapM check = .ok vs ∧ zs = us ++ vs := by
  rw [List.mapM_append]
  constructor
  · intro h
    obtain ⟨us, hus, h⟩ := ok_of_bind_ok h
    obtain ⟨vs, hvs, h⟩ := ok_of_bind_ok h
    exact ⟨us, vs, hus, hvs, (Except.ok.inj h).symm⟩
  · rintro ⟨us, vs, hus, hvs, rfl⟩
    rw [hus, hvs]
    rfl

theorem mapM_ok_iff {check : α → Except ε β} {xs : List α} {ys : List β} :
    xs.mapM check = .ok ys ↔ List.Forall₂ (fun x y => check x = .ok y) xs ys := by
  induction xs generalizing ys with
  | nil =>
    rw [List.mapM_nil, List.forall₂_nil_left_iff]
    exact ⟨fun h => (Except.ok.inj h).symm, fun h => congrArg Except.ok h.symm⟩
  | cons x rest ih =>
    rw [mapM_cons_ok_iff, List.forall₂_cons_left_iff]
    simp only [ih]

/-- What a list of checks gives, each of them gave. -/
theorem exists_of_mem_mapM {check : α → Except ε β} {xs : List α} {ys : List β}
    (h : xs.mapM check = .ok ys) {y : β} (hy : y ∈ ys) : ∃ x ∈ xs, check x = .ok y := by
  induction xs generalizing ys with
  | nil =>
    obtain rfl : [] = ys := Except.ok.inj h
    cases hy
  | cons x rest ih =>
    obtain ⟨first, later, hfirst, hlater, rfl⟩ := mapM_cons_ok_iff.mp h
    rcases List.mem_cons.mp hy with rfl | hy
    · exact ⟨x, List.mem_cons_self, hfirst⟩
    · obtain ⟨source, hmem, hsource⟩ := ih hlater hy
      exact ⟨source, List.mem_cons_of_mem x hmem, hsource⟩

/-- What is wrong, if a check fails. -/
def failure? : Except ε α → Option ε
  | .error e => some e
  | .ok _ => none

theorem failure?_eq_some_iff {result : Except ε α} {e : ε} :
    failure? result = some e ↔ result = .error e := by
  cases result <;> simp [failure?]

theorem failure?_eq_none_iff {result : Except ε α} :
    failure? result = none ↔ ∃ a, result = .ok a := by
  cases result <;> simp [failure?]

theorem failure?_mapError (result : Except ε α) (change : ε → δ) :
    failure? (result.mapError change) = (failure? result).map change := by
  cases result <;> rfl

/-- A list of checks fails with the first of them that does. -/
theorem failure?_mapM (check : α → Except ε β) (xs : List α) :
    failure? (xs.mapM check) = (xs.filterMap fun x => failure? (check x)).head? := by
  induction xs with
  | nil => rfl
  | cons x rest ih =>
    rw [List.mapM_cons]
    cases hx : check x with
    | error e => simp [failure?, hx, bind, Except.bind]
    | ok first =>
      have hrest : failure? (rest.mapM check >>= fun later => pure (first :: later)) =
          failure? (rest.mapM check) := by
        cases rest.mapM check <;> rfl
      rw [List.filterMap_cons_none (by simp [hx, failure?]), ← ih, ← hrest]
      rfl

end Checks

/-- A directive writes the constant of its entry, if the condition that the entry has holds. -/
structure DirectiveEntry.Gives (entry : DirectiveEntry) (d : Directive) : Prop where
  name : d.name = entry.name
  value : d.value = fun _ => .ok entry.value
  isConditional : d.isConditional = entry.condition.isSome
  condition : ∀ source, entry.condition = some source →
    ∃ e, Condition.parse source = .ok e ∧ d.condition = some fun lookup => .ok (e.isTrue lookup)

theorem DirectiveEntry.gives_of_compile {entry : DirectiveEntry} {d : Directive}
    (h : entry.compile = .ok d) : entry.Gives d := by
  unfold compile at h
  cases hcondition : entry.condition with
  | none =>
    obtain rfl : Directive.constant entry.name entry.value = d := by simpa [hcondition] using h
    exact ⟨rfl, rfl, by rw [hcondition]; rfl, by simp [hcondition]⟩
  | some source =>
    cases hparse : Condition.parse source with
    | error e => simp [hcondition, hparse] at h
    | ok e =>
      obtain rfl : (Directive.constant entry.name entry.value).given e = d := by
        simpa [hcondition, hparse] using h
      refine ⟨rfl, rfl, by rw [hcondition]; rfl, ?_⟩
      intro other hother
      obtain rfl : source = other := Option.some.inj (hcondition.symm.trans hother)
      exact ⟨e, hparse, rfl⟩

theorem Document.ofParts_ok_iff {directives : Option (List Directive)}
    {blocks : Option (List Block)} {document : Document} :
    ofParts directives blocks = .ok document ↔
      directives = some document.directives ∧ blocks = some document.blocks := by
  constructor
  · intro h
    cases directives with
    | none => cases h
    | some directives =>
      cases blocks with
      | none => cases h
      | some blocks =>
        obtain rfl : ⟨directives, blocks⟩ = document := Except.ok.inj h
        exact ⟨rfl, rfl⟩
  · rintro ⟨rfl, rfl⟩
    rfl

namespace DocumentFile

section Parts

variable {α β ε : Type} {check : α → Except ε β} {part : Option α} {checked : Option β}

theorem checkPart_ok (h : checkPart check part = .ok checked) :
    (part = none ∧ checked = none) ∨ ∃ a b, part = some a ∧ check a = .ok b ∧ checked = some b := by
  cases part with
  | none => exact .inl ⟨rfl, (Except.ok.inj h).symm⟩
  | some a =>
    rw [checkPart] at h
    cases ha : check a with
    | error e =>
      rw [ha] at h
      cases h
    | ok b =>
      rw [ha] at h
      exact .inr ⟨a, b, rfl, ha, (Except.ok.inj h).symm⟩

theorem exists_of_checkPart {b : β} (h : checkPart check part = .ok (some b)) :
    ∃ a, part = some a ∧ check a = .ok b := by
  rcases checkPart_ok h with ⟨-, hnone⟩ | ⟨a, _, ha, hb, hsome⟩
  · cases hnone
  · exact ⟨a, ha, Option.some.inj hsome ▸ hb⟩

theorem isNone_of_checkPart (h : checkPart check part = .ok checked) :
    checked.isNone = part.isNone := by
  rcases checkPart_ok h with ⟨rfl, rfl⟩ | ⟨a, b, rfl, -, rfl⟩ <;> rfl

end Parts

/-- A file gives a document if both parts are there and every entry passes its check. -/
theorem compile_ok_iff {file : DocumentFile} {document : Document} :
    file.compile = .ok document ↔
      ∃ entries blockEntries, file.directives = some entries ∧ file.blocks = some blockEntries ∧
        entries.mapM DirectiveEntry.compile = .ok document.directives ∧
        Block.ofEntries blockEntries = .ok document.blocks := by
  constructor
  · intro h
    obtain ⟨blocks, hblocks, h⟩ := ok_of_bind_ok h
    obtain ⟨directives, hdirectives, h⟩ := ok_of_bind_ok h
    obtain ⟨rfl, rfl⟩ := Document.ofParts_ok_iff.mp (ok_of_mapError_ok h)
    obtain ⟨blockEntries, hblockEntries, hofEntries⟩ :=
      exists_of_checkPart (ok_of_mapError_ok hblocks)
    obtain ⟨entries, hentries, hcompile⟩ := exists_of_checkPart hdirectives
    exact ⟨entries, blockEntries, hentries, hblockEntries, hcompile, hofEntries⟩
  · rintro ⟨entries, blockEntries, hentries, hblockEntries, hcompile, hofEntries⟩
    rw [compile, hentries, hblockEntries, checkPart, checkPart, hcompile, hofEntries]
    rfl

end DocumentFile

namespace Directive

/-- A directive that cannot fail. -/
def IsSafe (d : Directive) : Prop := ∀ lookup, ∃ written, (d.run lookup).2 = .ok written

end Directive

theorem DirectiveEntry.Gives.isSafe {entry : DirectiveEntry} {d : Directive} (h : entry.Gives d) :
    d.IsSafe := by
  intro lookup
  cases hcondition : d.condition with
  | none => exact ⟨some entry.value, by simp [Directive.run, hcondition, h.value]⟩
  | some condition =>
    have hsome : entry.condition.isSome = true := by
      rw [← h.isConditional, Directive.isConditional, hcondition]
      rfl
    obtain ⟨source, hsource⟩ := Option.isSome_iff_exists.mp hsome
    obtain ⟨e, -, he⟩ := h.condition source hsource
    cases htruth : e.isTrue lookup with
    | false => exact ⟨none, by simp [Directive.run, he, htruth]⟩
    | true => exact ⟨some entry.value, by simp [Directive.run, he, h.value, htruth]⟩

theorem DocumentFile.isSafe_of_compile {file : DocumentFile} {document : Document}
    (h : file.compile = .ok document) : ∀ d ∈ document.directives, d.IsSafe := by
  intro d hd
  obtain ⟨entries, -, -, -, hcompile, -⟩ := compile_ok_iff.mp h
  obtain ⟨entry, -, hentry⟩ := exists_of_mem_mapM hcompile hd
  exact (DirectiveEntry.gives_of_compile hentry).isSafe

theorem isSafe_of_read {json : String} {document : Document}
    (h : Document.read json = .ok document) : ∀ d ∈ document.directives, d.IsSafe := by
  unfold Document.read at h
  cases hfile : DocumentFile.read? json with
  | none => simp [hfile] at h
  | some file =>
    rw [hfile] at h
    exact DocumentFile.isSafe_of_compile h

theorem error_dispatch {directives : List Directive} (h : ∀ d ∈ directives, d.IsSafe)
    (store : Store) : (dispatch directives store).error = none := by
  induction directives generalizing store with
  | nil => rfl
  | cons d rest ih =>
    obtain ⟨written, hwritten⟩ := h d List.mem_cons_self store.get?
    have hrest := ih fun later hlater => h later (List.mem_cons_of_mem d hlater)
    have hrun : d.run store.get? = ((d.run store.get?).1, .ok written) := Prod.ext rfl hwritten
    rw [dispatch, hrun]
    exact hrest _

theorem error_dispatchUnless {directives : List Directive} (h : ∀ d ∈ directives, d.IsSafe)
    (suppress : Bool) (store : Store) :
    (dispatchUnless suppress directives store).error = none := by
  cases suppress with
  | true => rfl
  | false => exact error_dispatch h store

end StoryPress.Story
