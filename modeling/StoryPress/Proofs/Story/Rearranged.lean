import StoryPress.Modifier.Builtin
import StoryPress.Proofs.Story.Turns
import Mathlib.Data.List.Forall2
import Mathlib.Logic.Equiv.Basic

/-! Slots and armed modifiers are told apart by places in the registry, but a render does not depend
on these places. A registry whose modifiers stand in another order, between others that accept
nothing in the document, gives a walk that mirrors the first one place by place: texts and failures
are the same, and the warnings name the same modifiers. -/
namespace StoryPress.Story.Piece

open StoryPress.Json (Lookup)
open StoryPress.Story (RenderError)
open StoryPress.Modifier (Armed Applied Passage Registry Slots Window applyAll)

/-- The modifiers of a registry in any order, with others anywhere between them that accept no
invocation of the blocks. -/
def Rearranges (blocks : List Block) (registry rearranged : Registry) : Prop :=
  ∃ others : Registry, rearranged.Perm (registry ++ others) ∧
    ∀ m ∈ others, ∀ invocation, .modifier invocation ∈ blocks → m.accepts invocation = false

variable {places : Nat → Nat} {registry rearranged : Registry} {invocation : String}

def shifted (places : Nat → Nat) : Nat → Nat
  | 0 => 0
  | n + 1 => places n + 1

theorem shifted_injective (h : Function.Injective places) :
    Function.Injective (shifted places) := by
  intro i j hij
  cases i with
  | zero =>
    cases j with
    | zero => rfl
    | succ j => simp [shifted] at hij
  | succ i =>
    cases j with
    | zero => simp [shifted] at hij
    | succ j =>
      simp only [shifted, Nat.add_right_cancel_iff] at hij
      rw [h hij]

/-- Where the entries of a list stand in another order of it. -/
theorem exists_places {xs ys : Registry} (h : xs.Perm ys) :
    ∃ places : Nat → Nat, Function.Injective places ∧
      ys.zipIdx.Perm (xs.zipIdx.map (Prod.map id places)) := by
  induction h with
  | nil => exact ⟨id, Function.injective_id, .refl _⟩
  | @cons x xs ys _ ih =>
    obtain ⟨places, hplaces, hperm⟩ := ih
    refine ⟨shifted places, shifted_injective hplaces, ?_⟩
    have htail : (ys.zipIdx 1).Perm ((xs.zipIdx 1).map (Prod.map id (shifted places))) := by
      have hnext := hperm.map (Prod.map id (· + 1))
      rw [List.map_map, List.map_snd_add_zipIdx_eq_zipIdx] at hnext
      rw [← List.map_snd_add_zipIdx_eq_zipIdx (l := xs) (n := 1) (k := 0), List.map_map]
      exact hnext
    exact htail.cons (x, 0)
  | swap x y rest =>
    refine ⟨Equiv.swap 0 1, (Equiv.swap 0 1).injective, ?_⟩
    have htail : (rest.zipIdx 2).map (Prod.map id (Equiv.swap 0 1)) = rest.zipIdx 2 := by
      rw [← List.map_snd_add_zipIdx_eq_zipIdx (n := 2) (k := 0), List.map_map]
      rfl
    simp only [List.zipIdx_cons, List.map_cons, Nat.reduceAdd, htail]
    exact .swap _ _ _
  | trans _ _ ih ih' =>
    obtain ⟨places, hplaces, hperm⟩ := ih
    obtain ⟨places', hplaces', hperm'⟩ := ih'
    refine ⟨places' ∘ places, hplaces'.comp hplaces, ?_⟩
    have hboth := hperm'.trans (hperm.map (Prod.map id places'))
    rwa [List.map_map] at hboth

/-- An armed modifier as it stands in the other registry. -/
def moved (places : Nat → Nat) (a : Armed) : Armed := { a with index := places a.index }

/-- The same modifiers accept an invocation, at other places. -/
def Agree (places : Nat → Nat) (registry rearranged : Registry) (invocation : String) : Prop :=
  (candidates rearranged invocation).Perm ((candidates registry invocation).map (moved places))

theorem filter_accepts_eq_nil {others : Registry} (start : Nat)
    (h : ∀ m ∈ others, m.accepts invocation = false) :
    ((others.zipIdx start).filter fun entry => entry.1.accepts invocation) = [] := by
  rw [List.filter_eq_nil_iff]
  rintro ⟨m, i⟩ hentry
  rw [h m (List.fst_mem_of_mem_zipIdx hentry)]
  exact Bool.false_ne_true

theorem Rearranges.agree {blocks : List Block} (h : Rearranges blocks registry rearranged) :
    ∃ places : Nat → Nat, Function.Injective places ∧
      ∀ invocation, .modifier invocation ∈ blocks →
        Agree places registry rearranged invocation := by
  obtain ⟨others, hperm, hothers⟩ := h
  obtain ⟨places, hplaces, hzip⟩ := exists_places hperm.symm
  refine ⟨places, hplaces, fun invocation hmem => ?_⟩
  have hnone := filter_accepts_eq_nil (0 + registry.length) fun m hm => hothers m hm invocation hmem
  have hsame : ((registry ++ others).zipIdx.filter fun entry => entry.1.accepts invocation) =
      registry.zipIdx.filter fun entry => entry.1.accepts invocation := by
    rw [List.zipIdx_append, List.filter_append, hnone, List.append_nil]
  have hkept := hzip.filter fun entry => entry.1.accepts invocation
  rw [List.filter_map] at hkept
  have harmed := hkept.map fun entry => (⟨entry.2, entry.1, invocation⟩ : Armed)
  unfold Agree candidates
  rw [← hsame, List.map_map]
  rw [List.map_map] at harmed
  exact harmed

/-- An invocation has as many candidates in both registries. -/
theorem Agree.cases (h : Agree places registry rearranged invocation) :
    (candidates registry invocation = [] ∧ candidates rearranged invocation = []) ∨
    (∃ a, candidates registry invocation = [a] ∧
      candidates rearranged invocation = [moved places a]) ∨
    ∃ a b more a' b' more', candidates registry invocation = a :: b :: more ∧
      candidates rearranged invocation = a' :: b' :: more' := by
  unfold Agree at h
  have hlength := h.length_eq
  rcases hc : candidates registry invocation with _ | ⟨a, _ | ⟨b, more⟩⟩
  · rw [hc, List.map_nil, List.perm_nil] at h
    exact .inl ⟨rfl, h⟩
  · rw [hc, List.map_singleton, List.perm_singleton] at h
    exact .inr (.inl ⟨a, rfl, h⟩)
  · rcases hr : candidates rearranged invocation with _ | ⟨a', _ | ⟨b', more'⟩⟩
    · simp [hc, hr] at hlength
    · simp [hc, hr] at hlength
    · exact .inr (.inr ⟨a, b, more, a', b', more', rfl, rfl⟩)

theorem Agree.arming (h : Agree places registry rearranged invocation) :
    arming rearranged invocation = (arming registry invocation).map (moved places) := by
  unfold Piece.arming
  obtain ⟨hc, hr⟩ | ⟨a, hc, hr⟩ | ⟨a, b, more, a', b', more', hc, hr⟩ := h.cases
  all_goals
    rw [hc, hr]
    rfl

/-- Warnings about one invocation that name the same modifiers in some order. -/
inductive SameWarning : String → String → Prop
  | intro (invocation : String) {names names' : List String} (h : names.Perm names') :
      SameWarning (Walk.ambiguity invocation names) (Walk.ambiguity invocation names')

theorem Agree.warnings (h : Agree places registry rearranged invocation) :
    List.Forall₂ SameWarning (warning? registry (.modifier invocation)).toList
      (warning? rearranged (.modifier invocation)).toList := by
  have hnames := (h.map fun a => a.modifier.name).symm
  rw [List.map_map] at hnames
  obtain ⟨hc, hr⟩ | ⟨a, hc, hr⟩ | ⟨a, b, more, a', b', more', hc, hr⟩ := h.cases
  · simp only [warning?, hc, hr]
    exact .nil
  · simp only [warning?, hc, hr]
    exact .nil
  · rw [hc, hr] at hnames
    simp only [warning?, hc, hr]
    exact .cons (.intro invocation hnames) .nil

/-- Every slot stands in the other table at the place of its modifier there. -/
def SameSlots (places : Nat → Nat) (slots slots' : Slots) : Prop :=
  ∀ index, slots'.get (places index) = slots.get index

theorem SameSlots.put (hplaces : Function.Injective places) {slots slots' : Slots}
    (h : SameSlots places slots slots') (index : Nat) (slot : Modifier.Slot) :
    SameSlots places (slots.put index slot) (slots'.put (places index) slot) := by
  intro other
  rw [Slots.get_put, Slots.get_put, h other]
  exact if_congr hplaces.eq_iff rfl rfl

theorem SameSlots.create {slots slots' : Slots} (h : SameSlots places slots slots')
    (index index' : Nat) : SameSlots places (slots.create index) (slots'.create index') := by
  intro other
  rw [Slots.get_create, Slots.get_create, h other]

/-- What armed modifiers make of a block does not depend on their places. -/
structure SameApplied (places : Nat → Nat) (applied applied' : Applied) : Prop where
  passage : applied'.passage = applied.passage
  slots : SameSlots places applied.slots applied'.slots
  error : applied'.error = applied.error

theorem applyAll_moved (hplaces : Function.Injective places) (armed : List Armed)
    (passage : Passage) {slots slots' : Slots} (h : SameSlots places slots slots') :
    SameApplied places (applyAll armed passage slots)
      (applyAll (armed.map (moved places)) passage slots') := by
  induction armed generalizing passage slots slots' with
  | nil => exact ⟨rfl, h, rfl⟩
  | cons a rest ih =>
    have hslot : slots'.get (moved places a).index = slots.get a.index := h a.index
    have hput := h.put hplaces a.index
      (a.modifier.handle passage (slots.get a.index) a.invocation).slot
    rw [List.map_cons, applyAll, applyAll, hslot]
    cases hf : (a.modifier.handle passage (slots.get a.index) a.invocation).fault with
    | some fault =>
      simp only [moved, hf]
      exact ⟨rfl, hput, rfl⟩
    | none =>
      have later := ih (a.modifier.handle passage (slots.get a.index) a.invocation).passage hput
      simp only [moved, hf]
      exact ⟨later.passage, later.slots, later.error⟩

/-- Two places among the blocks that differ only in where the modifiers stand. -/
structure Mirrors (places : Nat → Nat) (w w' : Walk) : Prop where
  armed : w'.window.armed = w.window.armed.map (moved places)
  slots : SameSlots places w.window.slots w'.window.slots
  markdown : w'.markdown = w.markdown
  warnings : List.Forall₂ SameWarning w.warnings w'.warnings

theorem mirrors_start : Mirrors places .start .start := ⟨rfl, fun _ => rfl, rfl, .nil⟩

theorem Mirrors.invoke {w w' : Walk} (h : Mirrors places w w')
    (hagree : Agree places registry rearranged invocation) :
    Mirrors places (w.invoke registry invocation) (w'.invoke rearranged invocation) := by
  rw [invoke_eq, invoke_eq, hagree.arming]
  cases arming registry invocation with
  | some a =>
    refine ⟨?_, h.slots.create _ _, h.markdown, h.warnings⟩
    simp [Window.activate, h.armed]
  | none =>
    refine ⟨h.armed, h.slots, ?_, List.rel_append h.warnings hagree.warnings⟩
    simp [h.markdown]

/-- Both ended the same way, with the same failure if there was one. -/
structure SameEnd (places : Nat → Nat) (ended ended' : Walk × Option RenderError) : Prop where
  mirrors : Mirrors places ended.1 ended'.1
  error : ended'.2 = ended.2

theorem Mirrors.text (hplaces : Function.Injective places) (substitute : String → String)
    (content : String) {w w' : Walk} (h : Mirrors places w w') :
    SameEnd places (w.step substitute registry (.text content))
      (w'.step substitute rearranged (.text content)) := by
  have happlied := applyAll_moved hplaces w.window.armed (.ofText (substitute content)) h.slots
  rw [← h.armed] at happlied
  simp only [Walk.step, Window.apply, happlied.error]
  split
  · exact ⟨⟨rfl, happlied.slots, h.markdown, h.warnings⟩, rfl⟩
  · refine ⟨⟨rfl, happlied.slots, ?_, h.warnings⟩, rfl⟩
    simp [h.markdown, happlied.passage]

theorem Mirrors.all (hplaces : Function.Injective places) (substitute : String → String)
    {blocks : List Block} (hagree : ∀ invocation, .modifier invocation ∈ blocks →
      Agree places registry rearranged invocation)
    {w w' : Walk} (h : Mirrors places w w') :
    SameEnd places (Walk.all substitute registry blocks w)
      (Walk.all substitute rearranged blocks w') := by
  induction blocks generalizing w w' with
  | nil => exact ⟨h, rfl⟩
  | cons block rest ih =>
    have hstep : SameEnd places (w.step substitute registry block)
        (w'.step substitute rearranged block) := by
      cases block with
      | text content => exact h.text hplaces substitute content
      | modifier invocation => exact ⟨h.invoke (hagree invocation List.mem_cons_self), rfl⟩
    have hrest : ∀ invocation, .modifier invocation ∈ rest →
        Agree places registry rearranged invocation :=
      fun invocation hmem => hagree invocation (List.mem_cons_of_mem block hmem)
    rw [Walk.all, Walk.all]
    generalize w.step substitute registry block = ended at hstep ⊢
    generalize w'.step substitute rearranged block = ended' at hstep ⊢
    obtain ⟨next, error⟩ := ended
    obtain ⟨next', error'⟩ := ended'
    obtain ⟨hmirrors, herror⟩ := hstep
    obtain rfl : error' = error := herror
    cases error' with
    | some e => exact ⟨hmirrors, rfl⟩
    | none => exact ih hrest hmirrors

/-- Both renders fail with one error, or their warnings differ in the order of names at most. -/
inductive SameResult : Except RenderError Rendering → Except RenderError Rendering → Prop
  | error (e : RenderError) : SameResult (.error e) (.error e)
  | ok (html markdown : String) {warnings warnings' : List String}
      (h : List.Forall₂ SameWarning warnings warnings') :
      SameResult (.ok ⟨html, markdown, warnings⟩) (.ok ⟨html, markdown, warnings'⟩)

/-- What a document becomes depends neither on the order of the modifiers nor on those that accept
none of its invocations. -/
theorem render_rearranged (r : Renderer) (rearranged : Lookup → Registry) (suppress : Bool)
    (document : Document) (store : Store)
    (h : ∀ lookup, Rearranges document.blocks (r.modifiers lookup) (rearranged lookup)) :
    SameResult (r.render suppress document store).result
      (({ r with modifiers := rearranged } : Renderer).render suppress document store).result := by
  simp only [Renderer.render]
  generalize dispatchUnless suppress document.directives store = dispatched
  cases dispatched.error with
  | some e => exact .error e
  | none =>
    let lookup := dispatched.store.get?
    obtain ⟨places, hplaces, hagree⟩ := (h lookup).agree
    have hend : SameEnd places (r.walk lookup document.blocks)
        (({ r with modifiers := rearranged } : Renderer).walk lookup document.blocks) :=
      mirrors_start.all hplaces (r.substitute lookup) hagree
    generalize r.walk lookup document.blocks = ended at hend ⊢
    generalize ({ r with modifiers := rearranged } : Renderer).walk lookup document.blocks = ended'
      at hend ⊢
    obtain ⟨w, error⟩ := ended
    obtain ⟨w', error'⟩ := ended'
    obtain ⟨hmirrors, herror⟩ := hend
    obtain rfl : error' = error := herror
    cases error' with
    | some e => exact .error e
    | none =>
      have hmarkdown : w'.markdown = w.markdown := hmirrors.markdown
      have hhtml : ({ r with modifiers := rearranged } : Renderer).html w.markdown =
          r.html w.markdown := rfl
      simp only [hmarkdown, hhtml]
      exact .ok _ _ hmirrors.warnings

/-- A second modifier for notes, which keeps them. -/
def keepNotes : Modifier where
  name := "keep notes"
  accepts invocation := invocation == "note"
  handle passage slot _ := .ok passage slot

/-- A renderer that leaves texts as they are. -/
def plainWith (registry : Registry) : Renderer where
  links := id
  inserts _ content := content
  modifiers _ := registry
  options := .default
  rules := .plain

/-- The warning names the modifiers in the order of the registry, and all else is the same. -/
theorem notes_rearranged :
    let registry := [Modifier.Builtin.note, keepNotes, Modifier.Builtin.append]
    let others := [Modifier.Builtin.css]
    let rearranged := (registry ++ others).reverse
    let document : Document := ⟨[], [.modifier "append", .modifier "note", .text "Aside"]⟩
    let first := ((plainWith registry).render true document (.ofFields [])).result
    let second := ((plainWith rearranged).render true document (.ofFields [])).result
    SameResult first second ∧
      first.toOption.map Rendering.warnings =
        some [Walk.ambiguity "note" ["note", "keep notes"]] ∧
      second.toOption.map Rendering.warnings =
        some [Walk.ambiguity "note" ["keep notes", "note"]] := by
  intro registry others rearranged document first second
  have hsame : Rearranges document.blocks registry rearranged := by
    refine ⟨others, List.reverse_perm (registry ++ others), ?_⟩
    intro m hm invocation hinvocation
    obtain rfl := List.mem_singleton.mp hm
    simp only [document, List.mem_cons, Block.modifier.injEq, reduceCtorEq, List.not_mem_nil,
      or_false] at hinvocation
    rcases hinvocation with rfl | rfl
    · decide +kernel
    · decide +kernel
  refine ⟨?_, by decide +kernel, by decide +kernel⟩
  exact render_rearranged (plainWith registry) (fun _ => rearranged) true document _ fun _ => hsame

end StoryPress.Story.Piece
