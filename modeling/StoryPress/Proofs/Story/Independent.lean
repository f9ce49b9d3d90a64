import StoryPress.Proofs.Story.Compiled
import StoryPress.Proofs.Story.Dispatch
import StoryPress.Proofs.Story.Phases
import StoryPress.Proofs.Story.SameVariable

/-! A condition depends on the variables that it mentions and on nothing else: on the whole name of
each and on the part of it before its first dot. So two adjacent directives of different names,
neither of which mentions the other's name, may change places. The values that are left are the
same, and the writes are the same but for the order of these two. -/
namespace StoryPress.Condition.Expr

open StoryPress.Json (Lookup)
open StoryPress.Story (lookupPath_eq)
open StoryPress.Story.Insert (resolve_eq rootOf)

mutual

/-- The names of the variables of an expression, and their roots. -/
def mentioned : Expr → List String
  | literal _ => []
  | var path => [path, rootOf path]
  | not inner => inner.mentioned
  | all terms => mentionedBy terms
  | any terms => mentionedBy terms
  | compare _ left right => left.mentioned ++ right.mentioned

def mentionedBy : List Expr → List String
  | [] => []
  | term :: rest => term.mentioned ++ mentionedBy rest

end

/-- Two lookups agree on some names. -/
def AgreeOn (names : List String) (lookup other : Lookup) : Prop :=
  ∀ name ∈ names, lookup name = other name

variable {lookup other : Lookup}

theorem agreeOn_append {xs ys : List String} :
    AgreeOn (xs ++ ys) lookup other ↔ AgreeOn xs lookup other ∧ AgreeOn ys lookup other :=
  List.forall_mem_append

theorem lookupPath_congr {path : String} (h : AgreeOn [path, rootOf path] lookup other) :
    lookupPath lookup path = lookupPath other path := by
  have hwhole : lookup path = other path := h path List.mem_cons_self
  have hroot : lookup (rootOf path) = other (rootOf path) :=
    h (rootOf path) (List.mem_cons_of_mem path List.mem_cons_self)
  rw [lookupPath_eq, lookupPath_eq, resolve_eq, resolve_eq, hwhole, hroot]

mutual

theorem eval_congr : (e : Expr) → AgreeOn e.mentioned lookup other → e.eval lookup = e.eval other
  | literal _, _ => rfl
  | var path, h => lookupPath_congr h
  | not inner, h => by rw [eval, eval, eval_congr inner h]
  | all terms, h => by rw [eval, eval, evalAll_congr terms h]
  | any terms, h => by rw [eval, eval, evalAny_congr terms h]
  | compare op left right, h => by
    obtain ⟨hleft, hright⟩ := agreeOn_append.mp h
    rw [eval, eval, eval_congr left hleft, eval_congr right hright]

theorem evalAll_congr : (terms : List Expr) → AgreeOn (mentionedBy terms) lookup other →
    evalAll lookup terms = evalAll other terms
  | [], _ => rfl
  | term :: rest, h => by
    obtain ⟨hterm, hrest⟩ := agreeOn_append.mp h
    rw [evalAll, evalAll, eval_congr term hterm, evalAll_congr rest hrest]

theorem evalAny_congr : (terms : List Expr) → AgreeOn (mentionedBy terms) lookup other →
    evalAny lookup terms = evalAny other terms
  | [], _ => rfl
  | term :: rest, h => by
    obtain ⟨hterm, hrest⟩ := agreeOn_append.mp h
    rw [evalAny, evalAny, eval_congr term hterm, evalAny_congr rest hrest]

end

theorem isTrue_congr {e : Expr} (h : AgreeOn e.mentioned lookup other) :
    e.isTrue lookup = e.isTrue other := by
  rw [isTrue, isTrue, eval_congr e h]

end StoryPress.Condition.Expr

namespace StoryPress.Story

open StoryPress.Json (Lookup)

/-- The names that the condition of an entry mentions. -/
def DirectiveEntry.mentioned (entry : DirectiveEntry) : List String :=
  match entry.condition.map Condition.parse with
  | some (.ok e) => e.mentioned
  | _ => []

/-- Entries of different names, neither of which mentions the other's name. -/
structure DirectiveEntry.Independent (a b : DirectiveEntry) : Prop where
  names : a.name ≠ b.name
  left : b.name ∉ a.mentioned
  right : a.name ∉ b.mentioned

namespace Directive

/-- A directive does the same whatever a name stands for. -/
def Ignores (d : Directive) (name : String) : Prop :=
  ∀ lookup other : Lookup, (∀ n, n ≠ name → lookup n = other n) → d.run lookup = d.run other

variable {a b d : Directive}

theorem IsSafe.run_eq (h : d.IsSafe) (store : Store) :
    d.run store.get? = (d.callsOn store, .ok (d.valueOn store)) := by
  obtain ⟨written, hwritten⟩ := h store.get?
  rw [Directive.run_eq] at hwritten ⊢
  cases hfailure : d.failureOn store with
  | none => rfl
  | some e =>
    rw [hfailure] at hwritten
    cases hwritten

theorem get?_after (d : Directive) (store : Store) (name : String) :
    (d.after store).get? name =
      if name = d.name then (d.valueOn store).or (store.get? name) else store.get? name := by
  unfold after writeOn
  cases d.valueOn store with
  | none => simp [Store.setAll]
  | some value => simp [Store.setAll, Store.get?_set]

theorem writes_after (d : Directive) (store : Store) :
    (d.after store).writes = store.writes ++ (d.writeOn store).toList :=
  Store.writes_setAll store (d.writeOn store).toList

theorem Ignores.valueOn_after (h : a.Ignores b.name) (ha : a.IsSafe) (store : Store) :
    a.valueOn (b.after store) = a.valueOn store := by
  have hagree : ∀ n, n ≠ b.name → (b.after store).get? n = store.get? n := by
    intro n hn
    rw [get?_after, if_neg hn]
  have hrun := h (b.after store).get? store.get? hagree
  rw [ha.run_eq, ha.run_eq] at hrun
  exact Except.ok.inj (Prod.ext_iff.mp hrun).2

theorem Ignores.writeOn_after (h : a.Ignores b.name) (ha : a.IsSafe) (store : Store) :
    a.writeOn (b.after store) = a.writeOn store := by
  rw [writeOn, writeOn, h.valueOn_after ha]

/-- Two safe directives of different names, neither of which sees the other's name. -/
structure Independent (a b : Directive) : Prop where
  names : a.name ≠ b.name
  leftSafe : a.IsSafe
  rightSafe : b.IsSafe
  left : a.Ignores b.name
  right : b.Ignores a.name

theorem Independent.sameValues_after (h : a.Independent b) (store : Store) :
    SameValues (b.after (a.after store)) (a.after (b.after store)) := by
  intro name
  rw [get?_after, get?_after, get?_after, get?_after, h.left.valueOn_after h.leftSafe,
    h.right.valueOn_after h.rightSafe]
  by_cases ha : name = a.name
  · have hb : name ≠ b.name := fun hb => h.names (ha.symm.trans hb)
    rw [if_neg hb, if_pos ha, if_pos ha, if_neg hb]
  · rw [if_neg ha, if_neg ha]

end Directive

namespace DirectiveEntry

variable {a b entry : DirectiveEntry} {c d : Directive}

theorem Gives.ignores (h : entry.Gives d) {name : String} (hname : name ∉ entry.mentioned) :
    d.Ignores name := by
  intro lookup other hagree
  cases hcondition : entry.condition with
  | none =>
    have hnone : d.condition = none := by
      have hconditional := h.isConditional
      rw [hcondition, Directive.isConditional] at hconditional
      simpa using hconditional
    simp only [Directive.run, hnone, h.value]
  | some source =>
    obtain ⟨e, hparse, he⟩ := h.condition source hcondition
    have hmentioned : entry.mentioned = e.mentioned := by
      rw [mentioned, hcondition, Option.map_some, hparse]
    have htruth : e.isTrue lookup = e.isTrue other := by
      refine Condition.Expr.isTrue_congr fun n hn => hagree n ?_
      rintro rfl
      exact hname (hmentioned ▸ hn)
    simp only [Directive.run, he, h.value, htruth]

theorem Independent.directives (h : a.Independent b) (hc : a.Gives c) (hd : b.Gives d) :
    c.Independent d where
  names := by
    rw [hc.name, hd.name]
    exact h.names
  leftSafe := hc.isSafe
  rightSafe := hd.isSafe
  left := hc.ignores (hd.name ▸ h.left)
  right := hd.ignores (hc.name ▸ h.right)

end DirectiveEntry

theorem storeAfter_sameValues {directives : List Directive} (hsafe : ∀ d ∈ directives, d.IsSafe)
    {store store' : Store} (h : SameValues store store') :
    SameEffect store store' (storeAfter directives store) (storeAfter directives store') := by
  rw [← store_dispatch (error_dispatch hsafe store), ← store_dispatch (error_dispatch hsafe store')]
  exact (dispatch_sameValues directives h).effect

/-- Two directives that do not depend on each other leave the same before others in either order,
but for the order of their own writes. -/
theorem Directive.Independent.swap {a b : Directive} (h : a.Independent b)
    {later : List Directive} (hsafe : ∀ d ∈ later, d.IsSafe) (store : Store) :
    let left := storeAfter (a :: b :: later) store
    let right := storeAfter (b :: a :: later) store
    SameValues left right ∧ ∃ writes,
      left.writes =
        store.writes ++ (a.writeOn store).toList ++ (b.writeOn store).toList ++ writes ∧
      right.writes =
        store.writes ++ (b.writeOn store).toList ++ (a.writeOn store).toList ++ writes := by
  obtain ⟨hvalues, writes, hleft, hright⟩ :=
    storeAfter_sameValues hsafe (h.sameValues_after store)
  simp only [storeAfter_cons]
  refine ⟨hvalues, writes, ?_, ?_⟩
  · rw [hleft, writes_after, writes_after, h.right.writeOn_after h.rightSafe]
  · rw [hright, writes_after, writes_after, h.left.writeOn_after h.leftSafe]

/-- A file with two adjacent entries in the other order. -/
theorem DocumentFile.exists_swapped {file : DocumentFile} {document : Document}
    {before after : List DirectiveEntry} {a b : DirectiveEntry}
    (hentries : file.directives = some (before ++ a :: b :: after))
    (hcompile : file.compile = .ok document) :
    ∃ earlier c d later, document.directives = earlier ++ c :: d :: later ∧
      before.mapM DirectiveEntry.compile = .ok earlier ∧ a.Gives c ∧ b.Gives d ∧
      compile ⟨some (before ++ b :: a :: after), file.blocks⟩ =
        .ok ⟨earlier ++ d :: c :: later, document.blocks⟩ := by
  obtain ⟨entries, blockEntries, hsome, hblockEntries, hdirectives, hblocks⟩ :=
    compile_ok_iff.mp hcompile
  obtain rfl : before ++ a :: b :: after = entries := Option.some.inj (hentries.symm.trans hsome)
  obtain ⟨earlier, _, hearlier, hboth, hsplit⟩ := mapM_append_ok_iff.mp hdirectives
  obtain ⟨c, _, hc, hsecond, rfl⟩ := mapM_cons_ok_iff.mp hboth
  obtain ⟨d, later, hd, hlater, rfl⟩ := mapM_cons_ok_iff.mp hsecond
  refine ⟨earlier, c, d, later, hsplit, hearlier, DirectiveEntry.gives_of_compile hc,
    DirectiveEntry.gives_of_compile hd, ?_⟩
  refine compile_ok_iff.mpr ⟨_, blockEntries, rfl, hblockEntries, ?_, hblocks⟩
  have hswapped : (b :: a :: after).mapM DirectiveEntry.compile = .ok (d :: c :: later) :=
    mapM_cons_ok_iff.mpr ⟨d, c :: later, hd,
      mapM_cons_ok_iff.mpr ⟨c, later, hc, hlater, rfl⟩, rfl⟩
  exact mapM_append_ok_iff.mpr ⟨earlier, d :: c :: later, hearlier, hswapped, rfl⟩

/-- Two adjacent entries of a document file that do not depend on each other may change places. The
file still compiles, to the same directives but for the order of these two and to the same blocks,
and from every store a dispatch leaves the same values. Both directives do what they do on the store
that the ones before them leave, and only the order of their writes in the log tells which of the
two came first. -/
theorem independent_directives_commute {file : DocumentFile} {document : Document}
    {before after : List DirectiveEntry} {a b : DirectiveEntry}
    (hentries : file.directives = some (before ++ a :: b :: after))
    (hcompile : file.compile = .ok document) (h : a.Independent b) :
    ∃ earlier c d later, document.directives = earlier ++ c :: d :: later ∧
      before.mapM DirectiveEntry.compile = .ok earlier ∧ a.Gives c ∧ b.Gives d ∧
      DocumentFile.compile ⟨some (before ++ b :: a :: after), file.blocks⟩ =
        .ok ⟨earlier ++ d :: c :: later, document.blocks⟩ ∧
      ∀ store,
        let reached := (dispatch earlier store).store
        let left := dispatch document.directives store
        let right := dispatch (earlier ++ d :: c :: later) store
        left.error = none ∧ right.error = none ∧ SameValues left.store right.store ∧
        ∃ writes,
          left.store.writes =
            reached.writes ++ (c.writeOn reached).toList ++ (d.writeOn reached).toList ++ writes ∧
          right.store.writes =
            reached.writes ++ (d.writeOn reached).toList ++ (c.writeOn reached).toList ++
              writes := by
  obtain ⟨earlier, c, d, later, hsplit, hearlier, hc, hd, hswapped⟩ :=
    DocumentFile.exists_swapped hentries hcompile
  refine ⟨earlier, c, d, later, hsplit, hearlier, hc, hd, hswapped, fun store => ?_⟩
  have hsafe : ∀ e ∈ document.directives, e.IsSafe := DocumentFile.isSafe_of_compile hcompile
  have hsafe' : ∀ e ∈ earlier ++ d :: c :: later, e.IsSafe :=
    DocumentFile.isSafe_of_compile hswapped
  have hbefore : ∀ e ∈ earlier, e.IsSafe := fun e he => hsafe' e (List.mem_append_left _ he)
  have hafter : ∀ e ∈ later, e.IsSafe := fun e he =>
    hsafe' e (List.mem_append_right _ (List.mem_cons_of_mem d (List.mem_cons_of_mem c he)))
  have hleft := error_dispatch hsafe store
  have hright := error_dispatch hsafe' store
  refine ⟨hleft, hright, ?_⟩
  rw [store_dispatch hleft, store_dispatch hright, store_dispatch (error_dispatch hbefore store),
    hsplit, storeAfter_append, storeAfter_append]
  exact (h.directives hc hd).swap hafter (storeAfter earlier store)

/-- A mood that depends on a field of the hero, which has the name of the other variable. -/
theorem rich_and_mood_commute :
    let before : List DirectiveEntry := [⟨"gold", .number (.int 3), none⟩]
    let rich : DirectiveEntry := ⟨"rich", .bool true, some "gold > 2"⟩
    let mood : DirectiveEntry := ⟨"mood", .text "glad", some "hero.name == \"Ada\" and !hero.rich"⟩
    let after : List DirectiveEntry := [⟨"done", .bool true, some "rich and mood"⟩]
    let store : Store := .ofFields [("hero", .object [("name", .text "Ada")])]
    rich.Independent mood ∧
      ∃ document swapped,
        DocumentFile.compile ⟨some (before ++ rich :: mood :: after), some []⟩ = .ok document ∧
        DocumentFile.compile ⟨some (before ++ mood :: rich :: after), some []⟩ = .ok swapped ∧
        SameValues (dispatch document.directives store).store
          (dispatch swapped.directives store).store ∧
        (dispatch document.directives store).store.writes =
          [("gold", .number (.int 3)), ("rich", .bool true), ("mood", .text "glad"),
            ("done", .bool true)] ∧
        (dispatch swapped.directives store).store.writes =
          [("gold", .number (.int 3)), ("mood", .text "glad"), ("rich", .bool true),
            ("done", .bool true)] := by
  intro before rich mood after store
  have hindependent : rich.Independent mood :=
    ⟨by decide, by decide +kernel, by decide +kernel⟩
  have hwrites : (DocumentFile.compile
      ⟨some (before ++ rich :: mood :: after), some []⟩).toOption.map
        (fun document => (dispatch document.directives store).store.writes) =
      some [("gold", .number (.int 3)), ("rich", .bool true), ("mood", .text "glad"),
        ("done", .bool true)] := by
    decide +kernel
  have hwrites' : (DocumentFile.compile
      ⟨some (before ++ mood :: rich :: after), some []⟩).toOption.map
        (fun document => (dispatch document.directives store).store.writes) =
      some [("gold", .number (.int 3)), ("mood", .text "glad"), ("rich", .bool true),
        ("done", .bool true)] := by
    decide +kernel
  obtain ⟨document, hcompile, hwrites⟩ := Option.map_eq_some_iff.mp hwrites
  obtain ⟨swapped, hswapped, hwrites'⟩ := Option.map_eq_some_iff.mp hwrites'
  have hcompile := ok_of_toOption hcompile
  have hswapped := ok_of_toOption hswapped
  have hentries : (DocumentFile.mk (some (before ++ rich :: mood :: after)) (some [])).directives =
      some (before ++ rich :: mood :: after) := rfl
  obtain ⟨earlier, c, d, later, -, -, -, -, hother, hsame⟩ :=
    independent_directives_commute hentries hcompile hindependent
  obtain rfl := Except.ok.inj (hother.symm.trans hswapped)
  exact ⟨hindependent, document, _, hcompile, hswapped, (hsame store).2.2.1, hwrites, hwrites'⟩

end StoryPress.Story
