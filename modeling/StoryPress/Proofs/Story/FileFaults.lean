import StoryPress.Command.Press
import StoryPress.Proofs.Story.Compiled

namespace StoryPress.Story

open StoryPress.Command (press press_of_read_error)

/-- An entry of a type that no block has. -/
def BlockEntry.fault? (entry : BlockEntry) : Option FileError :=
  if entry.kind = "text" ∨ entry.kind = "modifier" then none
  else some (.render (.unknownBlockType entry.kind))

/-- An entry whose condition does not parse. -/
def DirectiveEntry.fault? (entry : DirectiveEntry) : Option FileError :=
  entry.condition.bind fun source =>
    (failure? (Condition.parse source)).map (.condition entry.name)

/-- The entry that a block is written as. -/
def Block.entry (block : Block) : BlockEntry := ⟨block.kind, block.content⟩

theorem Block.failure?_ofEntry (entry : BlockEntry) :
    (failure? (ofEntry entry)).map .render = entry.fault? := by
  unfold ofEntry BlockEntry.fault?
  by_cases htext : entry.kind = "text"
  · rw [if_pos htext, if_pos (.inl htext)]
    rfl
  · by_cases hmodifier : entry.kind = "modifier"
    · rw [if_neg htext, if_pos hmodifier, if_pos (.inr hmodifier)]
      rfl
    · rw [if_neg htext, if_neg hmodifier, if_neg (not_or.mpr ⟨htext, hmodifier⟩)]
      rfl

theorem Block.entry_of_ofEntry {entry : BlockEntry} {block : Block}
    (h : ofEntry entry = .ok block) : block.entry = entry := by
  obtain ⟨kind, content⟩ := entry
  unfold ofEntry at h
  split at h
  · next hkind =>
    obtain rfl : kind = "text" := hkind
    obtain rfl : text content = block := Except.ok.inj h
    rfl
  · split at h
    · next hkind =>
      obtain rfl : kind = "modifier" := hkind
      obtain rfl : modifier content = block := Except.ok.inj h
      rfl
    · cases h

theorem Block.map_entry_of_ofEntries {entries : List BlockEntry} {blocks : List Block}
    (h : ofEntries entries = .ok blocks) : blocks.map Block.entry = entries := by
  have hall : List.Forall₂ (fun entry block => ofEntry entry = .ok block) entries blocks :=
    mapM_ok_iff.mp h
  induction hall with
  | nil => rfl
  | cons hentry hrest ih =>
    rw [List.map_cons, entry_of_ofEntry hentry, ih (mapM_ok_iff.mpr hrest)]

theorem DirectiveEntry.failure?_compile (entry : DirectiveEntry) :
    failure? entry.compile = entry.fault? := by
  unfold compile fault?
  cases entry.condition with
  | none => rfl
  | some source => cases hparse : Condition.parse source <;> simp [failure?, hparse]

theorem DirectiveEntry.map_isConditional {entries : List DirectiveEntry}
    {directives : List Directive} (h : List.Forall₂ Gives entries directives) :
    directives.map Directive.isConditional = entries.map fun entry => entry.condition.isSome := by
  induction h with
  | nil => rfl
  | cons hentry hrest ih => rw [List.map_cons, List.map_cons, hentry.isConditional, ih]

namespace DocumentFile

variable (file : DocumentFile)

def blockFaults : List FileError := (file.blocks.getD []).filterMap BlockEntry.fault?

def directiveFaults : List FileError := (file.directives.getD []).filterMap DirectiveEntry.fault?

def missingParts : List FileError :=
  (if file.directives.isNone then [.render (.missingField "vars")] else []) ++
    (if file.blocks.isNone then [.render (.missingField "blocks")] else [])

/-- All that is wrong with a file, in the order in which it is looked for. -/
def faults : List FileError := file.blockFaults ++ file.directiveFaults ++ file.missingParts

theorem failure?_blocks :
    failure? ((checkPart Block.ofEntries file.blocks).mapError FileError.render) =
      file.blockFaults.head? := by
  have hentry : (fun entry => (failure? (Block.ofEntry entry)).map FileError.render) =
      BlockEntry.fault? := funext Block.failure?_ofEntry
  rw [failure?_mapError, blockFaults]
  cases file.blocks with
  | none => rfl
  | some entries =>
    have hpart : failure? (checkPart Block.ofEntries (some entries)) =
        failure? (entries.mapM Block.ofEntry) := by
      rw [checkPart, Block.ofEntries]
      cases entries.mapM Block.ofEntry <;> rfl
    rw [hpart, failure?_mapM, ← List.head?_map, List.map_filterMap, hentry, Option.getD_some]

theorem failure?_directives :
    failure? (checkPart (fun entries => entries.mapM DirectiveEntry.compile) file.directives) =
      file.directiveFaults.head? := by
  have hentry : (fun entry => failure? (DirectiveEntry.compile entry)) = DirectiveEntry.fault? :=
    funext DirectiveEntry.failure?_compile
  rw [directiveFaults]
  cases file.directives with
  | none => rfl
  | some entries =>
    rw [Option.getD_some, ← hentry, ← failure?_mapM, checkPart]
    cases entries.mapM DirectiveEntry.compile <;> rfl

theorem failure?_ofParts (directives : Option (List Directive)) (blocks : Option (List Block)) :
    failure? ((Document.ofParts directives blocks).mapError FileError.render) =
      ((if directives.isNone then [FileError.render (.missingField "vars")] else []) ++
        (if blocks.isNone then [FileError.render (.missingField "blocks")] else [])).head? := by
  cases directives <;> cases blocks <;> rfl

/-- A file that is no document fails with the first thing that is wrong with it. -/
theorem failure?_compile : failure? file.compile = file.faults.head? := by
  have hblocks := file.failure?_blocks
  have hdirectives := file.failure?_directives
  rw [faults, List.append_assoc, List.head?_append, List.head?_append, ← hblocks, ← hdirectives]
  unfold compile
  cases hb : (checkPart Block.ofEntries file.blocks).mapError FileError.render with
  | error e => rfl
  | ok blocks =>
    cases hd : checkPart (fun entries => entries.mapM DirectiveEntry.compile) file.directives with
    | error e => rfl
    | ok directives =>
      have hparts := failure?_ofParts directives blocks
      rw [isNone_of_checkPart hd, isNone_of_checkPart (ok_of_mapError_ok hb)] at hparts
      exact hparts

/-- The first thing that is wrong with a file is reported, and no render comes to the directives of
such a file. If nothing is wrong, all directives and all blocks are in the document, in their order,
and a directive has a condition exactly if its entry has one. -/
theorem first_fault_reported :
    (∀ e, file.compile = .error e ↔ file.faults.head? = some e) ∧
    (file.faults = [] → ∃ entries blockEntries document,
      file.directives = some entries ∧ file.blocks = some blockEntries ∧
      file.compile = .ok document ∧
      List.Forall₂ DirectiveEntry.Gives entries document.directives ∧
      (document.directives.map Directive.isConditional =
        entries.map fun entry => entry.condition.isSome) ∧
      document.blocks.map Block.entry = blockEntries) ∧
    ∀ json e, read? json = some file → file.faults.head? = some e →
      ∀ s state inserts, press s state inserts json = .error e := by
  have herror : ∀ e, file.compile = .error e ↔ file.faults.head? = some e := by
    intro e
    rw [← failure?_compile, failure?_eq_some_iff]
  refine ⟨herror, ?_, ?_⟩
  · intro hnone
    have hfailure : failure? file.compile = none := by
      rw [failure?_compile, hnone]
      rfl
    obtain ⟨document, hdocument⟩ := failure?_eq_none_iff.mp hfailure
    obtain ⟨entries, blockEntries, hentries, hblockEntries, hcompile, hofEntries⟩ :=
      compile_ok_iff.mp hdocument
    have hgives : List.Forall₂ DirectiveEntry.Gives entries document.directives :=
      (mapM_ok_iff.mp hcompile).imp fun _ _ => DirectiveEntry.gives_of_compile
    exact ⟨entries, blockEntries, document, hentries, hblockEntries, hdocument, hgives,
      DirectiveEntry.map_isConditional hgives, Block.map_entry_of_ofEntries hofEntries⟩
  · intro json e hread he s state inserts
    apply press_of_read_error
    rw [Document.read, hread]
    exact (herror e).mpr he

/-- A block of a misspelt type is reported before a condition that does not parse, and a file
without such things is a document. -/
theorem misspelt_type_reported :
    let json := "[[[\"rich\",true,\"gold >\"]],[[\"text\",\"Hello\"],[\"txt\",\"Bye\"]]]"
    let entries : List DirectiveEntry :=
      [⟨"gold", .number (.int 10), none⟩, ⟨"rich", .bool true, some "gold > 5"⟩]
    let blockEntries : List BlockEntry := [⟨"modifier", "note"⟩, ⟨"text", "Hello"⟩]
    (∃ file, read? json = some file ∧
      file.faults = [.render (.unknownBlockType "txt"), .condition "rich" .unexpectedEnd] ∧
      ∀ s state inserts,
        press s state inserts json = .error (.render (.unknownBlockType "txt"))) ∧
    faults ⟨some entries, some blockEntries⟩ = [] ∧
    ∃ document, compile ⟨some entries, some blockEntries⟩ = .ok document ∧
      document.directives.map Directive.isConditional = [false, true] ∧
      document.blocks.map Block.entry = blockEntries := by
  intro json entries blockEntries
  constructor
  · have hfaults : (read? json).map faults =
        some [.render (.unknownBlockType "txt"), .condition "rich" .unexpectedEnd] := by
      decide +kernel
    obtain ⟨file, hread, hfaults⟩ := Option.map_eq_some_iff.mp hfaults
    refine ⟨file, hread, hfaults, ?_⟩
    exact (first_fault_reported file).2.2 json _ hread (by rw [hfaults]; rfl)
  · have hnone : faults ⟨some entries, some blockEntries⟩ = [] := by decide +kernel
    obtain ⟨_, _, document, hentries, hblockEntries, hcompile, -, hconditional, hblocks⟩ :=
      (first_fault_reported ⟨some entries, some blockEntries⟩).2.1 hnone
    obtain rfl := Option.some.inj hentries
    obtain rfl := Option.some.inj hblockEntries
    exact ⟨hnone, document, hcompile, hconditional, hblocks⟩

end DocumentFile

end StoryPress.Story
