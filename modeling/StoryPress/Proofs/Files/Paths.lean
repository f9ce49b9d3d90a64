import StoryPress.Proofs.Files.Write

/-! A path leads through its parts, one directory after another, so it may be cut at any slash: what
stands behind the slash is seen from the directory that the text before it names. The path of a file
without its last part names the directory of the file, and a path that is joined to it leads where
it leads from there. -/
namespace StoryPress.Files

open StoryPress.Text

namespace Path

theorem parts_append (p q : Path) : parts (p ++ "/" ++ q) = parts p ++ parts q := by
  simp [parts, split, splitChars_append]

theorem parts_of_not_mem {p : Path} (h : '/' ∉ p.toList) : parts p = [p] := by
  simp [parts, split, splitChars_of_not_mem h]

theorem not_mem_of_mem_parts {p part : Path} (h : part ∈ parts p) : '/' ∉ part.toList := by
  obtain ⟨cs, hcs, rfl⟩ := List.mem_map.mp h
  rw [String.toList_ofList]
  exact not_mem_of_mem_splitChars hcs

/-- The last part of a path, with what stands before its slash. -/
theorem exists_last (p : Path) :
    '/' ∉ p.toList ∨ ∃ above last : Path, p = above ++ "/" ++ last ∧ '/' ∉ last.toList := by
  by_cases h : '/' ∈ p.toList.reverse
  · obtain ⟨last, above, hsplit, hlast⟩ := List.eq_append_cons_of_mem h
    refine .inr ⟨String.ofList above.reverse, String.ofList last.reverse, ?_, by simpa using hlast⟩
    rw [← String.toList_inj]
    simpa using List.reverse_eq_iff.mp hsplit
  · exact .inl (by simpa using h)

/-- A part that names something in its directory, or the directory above. -/
def IsName (part : Path) : Prop := '/' ∉ part.toList ∧ part ≠ "" ∧ part ≠ "."

/-- A part that names an entry of its directory. -/
def IsEntryName (part : Path) : Prop := IsName part ∧ part ≠ ".."

theorem trim_eq_self {cs : List Char} (hslash : ∀ rest, cs ≠ '/' :: rest)
    (hdot : ∀ rest, cs ≠ '.' :: '/' :: rest) : trimEnd.trim cs = cs := by
  unfold trimEnd.trim
  split
  · next rest => exact absurd rfl (hslash rest)
  · next rest => exact absurd rfl (hdot rest)
  · rfl

theorem trim_name {name : Path} (h : IsName name) (above : List Char) :
    trimEnd.trim (name.toList.reverse ++ above) = name.toList.reverse ++ above := by
  obtain ⟨hslash, hempty, hdot⟩ := h
  have hmem : '/' ∉ name.toList.reverse := by simpa using hslash
  have hnil : name.toList.reverse ≠ [] := by simpa using hempty
  have hsingle : name.toList.reverse ≠ ['.'] := by
    intro hname
    refine hdot (String.toList_inj.mp ?_)
    simpa using List.reverse_eq_iff.mp hname
  generalize name.toList.reverse = cs at hmem hnil hsingle
  cases cs with
  | nil => exact absurd rfl hnil
  | cons c rest =>
    refine trim_eq_self (fun _ heq => hmem ?_) (fun _ heq => ?_)
    · rw [(List.cons.inj heq).1]
      exact List.mem_cons_self
    · obtain ⟨rfl, htail⟩ := List.cons.inj heq
      cases rest with
      | nil => exact hsingle rfl
      | cons d others =>
        rw [(List.cons.inj htail).1] at hmem
        exact hmem (List.mem_cons_of_mem _ List.mem_cons_self)

/-- Of the slash behind a name nothing is left. -/
theorem trimEnd_name {name : Path} (h : IsName name) (above : Path) :
    trimEnd (above ++ name ++ "/").toList = (above ++ name).toList := by
  have hrest : name.toList.reverse ++ above.toList.reverse ≠ [] := by
    simp [h.2.1]
  have hreverse : (above ++ name ++ "/").toList.reverse =
      '/' :: (name.toList.reverse ++ above.toList.reverse) := by
    simp
  rw [trimEnd, hreverse, trimEnd.trim, if_neg (by rwa [List.isEmpty_iff]), trim_name h]
  simp

theorem parent?_append {last : Path} (h : IsName last) (above : List Char)
    (habove : ∀ c ∈ above.getLast?, c = '/') :
    parent? (String.ofList above ++ last) = some (String.ofList (trimEnd above)) := by
  have htrim := trim_name h above.reverse
  obtain ⟨hslash, hempty, -⟩ := h
  have hdrop : (last.toList.reverse ++ above.reverse).dropWhile (· != '/') = above.reverse := by
    rw [List.dropWhile_append_of_pos]
    · cases hhead : above.reverse with
      | nil => rfl
      | cons c rest =>
        obtain rfl : c = '/' := habove c (by rw [← List.head?_reverse, hhead]; rfl)
        rfl
    · intro c hc
      rw [List.mem_reverse] at hc
      exact bne_iff_ne.mpr fun heq => hslash (heq ▸ hc)
  have hsome : last.toList ≠ [] := by simpa using hempty
  have hroot : above ++ last.toList ≠ ['/'] := by
    intro heq
    obtain ⟨-, hlast⟩ | ⟨-, hlast⟩ := List.append_eq_singleton_iff.mp heq
    · exact hslash (hlast ▸ List.mem_singleton_self _)
    · exact hsome hlast
  simp only [parent?, trimEnd, String.toList_append, String.toList_ofList, List.reverse_append,
    htrim, hdrop, List.reverse_reverse]
  simp [hsome, hroot]

theorem parent?_name {name : Path} (h : IsName name) : parent? name = some "" := by
  have hparent := parent?_append h [] (by simp)
  rwa [String.ofList_nil, String.empty_append] at hparent

theorem parent?_slash (above : Path) {last : Path} (h : IsName last) :
    parent? (above ++ "/" ++ last) = some (String.ofList (trimEnd (above ++ "/").toList)) := by
  have hparent := parent?_append h (above ++ "/").toList (by simp)
  rwa [String.ofList_toList] at hparent

/-- The parts of a path that lead away from where it stands. -/
def steps (p : Path) : List String := (parts p).filter fun part => part != "" && part != "."

theorem steps_append (p q : Path) : steps (p ++ "/" ++ q) = steps p ++ steps q := by
  rw [steps, parts_append, List.filter_append]
  rfl

theorem steps_slash (p : Path) : steps (p ++ "/") = steps p := by
  have h := steps_append p ""
  rw [String.append_empty] at h
  exact h.trans (List.append_nil _)

/-- What is cut off at the end of a path leads nowhere. -/
theorem steps_trim (cs : List Char) :
    steps (String.ofList (trimEnd.trim cs).reverse) = steps (String.ofList cs.reverse) := by
  fun_induction trimEnd.trim cs with
  | case1 rest hrest =>
    obtain rfl := List.isEmpty_iff.mp hrest
    rfl
  | case2 rest _ ih =>
    have hcut : String.ofList ('/' :: rest).reverse = String.ofList rest.reverse ++ "/" := by
      rw [← String.toList_inj]
      simp
    rw [ih, hcut, steps_slash]
  | case3 rest hrest =>
    obtain rfl := List.isEmpty_iff.mp hrest
    rfl
  | case4 rest _ ih =>
    have hcut : String.ofList ('.' :: '/' :: rest).reverse =
        String.ofList rest.reverse ++ "/" ++ "." := by
      rw [← String.toList_inj]
      simp
    rw [ih, hcut, steps_append]
    simp [steps, parts, split, splitChars]
  | case5 => rfl

theorem steps_trimEnd (cs : List Char) :
    steps (String.ofList (trimEnd cs)) = steps (String.ofList cs) := by
  rw [trimEnd, steps_trim, List.reverse_reverse]

theorem trim_ne_nil {cs : List Char} (h : cs ≠ []) : trimEnd.trim cs ≠ [] := by
  fun_induction trimEnd.trim cs with
  | case1 => exact List.cons_ne_nil _ _
  | case2 rest hrest ih => exact ih fun heq => hrest (List.isEmpty_iff.mpr heq)
  | case3 => exact List.cons_ne_nil _ _
  | case4 rest hrest ih => exact ih fun heq => hrest (List.isEmpty_iff.mpr heq)
  | case5 => exact h

theorem trimEnd_prefix (cs : List Char) : trimEnd cs <+: cs := by
  rw [← List.reverse_suffix, trimEnd, List.reverse_reverse]
  exact trim_suffix cs.reverse

theorem trimEnd_ne_nil {cs : List Char} (h : cs ≠ []) : trimEnd cs ≠ [] := by
  rw [trimEnd, ne_eq, List.reverse_eq_nil_iff]
  exact trim_ne_nil (by simpa using h)

theorem isAbsolute_of_prefix {p q : Path} (hbegins : p.toList <+: q.toList) (h : p ≠ "") :
    isAbsolute p = isAbsolute q := by
  obtain ⟨rest, hrest⟩ := hbegins
  obtain ⟨c, cs, hcs⟩ := List.exists_cons_of_ne_nil (fun heq => h (String.toList_eq_nil_iff.mp heq))
  rw [isAbsolute, isAbsolute, ← hrest, hcs]
  rfl

theorem isAbsolute_of_not_mem {p : Path} (h : '/' ∉ p.toList) : isAbsolute p = false := by
  rw [isAbsolute, beq_eq_false_iff_ne]
  exact fun heq => h (List.mem_of_head? heq)

/-- A relative path stands behind a slash in a joined path, and what stands before this slash is the
directory without a slash at its end. -/
theorem exists_join {directory p : Path} (hdirectory : directory ≠ "")
    (hp : isAbsolute p = false) :
    ∃ above, join directory p = above ++ "/" ++ p ∧ steps above = steps directory ∧
      above.toList <+: directory.toList ∧ directory.toList <+: (join directory p).toList := by
  unfold join
  rw [if_neg (by simpa [hp] using hdirectory)]
  split
  · next hlast =>
    obtain ⟨above, habove⟩ := List.getLast?_eq_some_iff.mp (beq_iff_eq.mp hlast)
    obtain rfl : directory = String.ofList above ++ "/" := by
      rw [← String.toList_inj, habove]
      simp
    exact ⟨String.ofList above, rfl, (steps_slash _).symm, by simp, by simp⟩
  · exact ⟨directory, rfl, rfl, List.prefix_rfl, by simp⟩

/-- A relative path is put behind a name with a slash between them. -/
theorem join_name {name p : Path} (h : IsName name) (above : Path) (hp : isAbsolute p = false) :
    join (above ++ name) p = above ++ name ++ "/" ++ p := by
  have hsome : above ++ name ≠ "" := by
    simp [h.2.1]
  have hlast : (above ++ name).toList.getLast? ≠ some '/' := by
    intro heq
    rw [String.toList_append, List.getLast?_append_of_ne_nil _ (by simp [h.2.1])] at heq
    exact h.1 (List.mem_of_getLast? heq)
  rw [join, if_neg (by simpa [hp] using hsome), if_neg (by simpa using hlast)]

end Path

namespace Tree

variable {t : Tree} {start middle place : Place} {entry : Entry}

/-- Where one part of a path leads from a directory, if something is there. -/
def next? (t : Tree) (start : Place) (part : String) : Option Place :=
  if part = "" || part = "." then some start
  else if part = ".." then some start.dropLast
  else if maxName < part.utf8ByteSize then none
  else if (t.entry? (start ++ [part])).isSome then some (start ++ [part])
  else none

theorem walk_cons {part : String} (hstart : t.entry? start = some .directory)
    (hnext : t.next? start part = some middle) (rest : List String) :
    t.walk start (part :: rest) = t.walk middle rest := by
  unfold next? at hnext
  rw [walk, if_neg (not_not.mpr hstart)]
  split_ifs at hnext ⊢
  all_goals
    obtain rfl := Option.some.inj hnext
    rfl

/-- What is found is found by one part after another. -/
theorem found_cons {part : String} {rest : List String}
    (h : t.walk start (part :: rest) = .ok (.found place entry)) :
    t.entry? start = some .directory ∧
      ∃ middle, t.next? start part = some middle ∧
        t.walk middle rest = .ok (.found place entry) := by
  have hstart : t.entry? start = some .directory := by
    by_contra hother
    rw [walk, if_pos hother] at h
    cases h
  refine ⟨hstart, ?_⟩
  rw [walk, if_neg (not_not.mpr hstart)] at h
  unfold next?
  split_ifs at h ⊢
  · exact ⟨start, rfl, h⟩
  · exact ⟨start.dropLast, rfl, h⟩
  · exact ⟨start ++ [part], rfl, h⟩
  · cases h
  · cases h

/-- The parts lead from one directory to another. -/
def Reaches (t : Tree) (start : Place) (parts : List String) (place : Place) : Prop :=
  t.walk start parts = .ok (.found place .directory)

theorem reaches_nil_iff :
    t.Reaches start [] place ↔ t.entry? start = some .directory ∧ start = place := by
  unfold Reaches walk
  cases h : t.entry? start <;> simp [and_comm]

theorem reaches_cons_iff {part : String} {rest : List String} :
    t.Reaches start (part :: rest) place ↔ t.entry? start = some .directory ∧
      ∃ middle, t.next? start part = some middle ∧ t.Reaches middle rest place := by
  refine ⟨found_cons, ?_⟩
  rintro ⟨hstart, middle, hnext, hrest⟩
  exact (walk_cons hstart hnext rest).trans hrest

theorem Reaches.entry?_start {parts : List String} (h : t.Reaches start parts place) :
    t.entry? start = some .directory := by
  cases parts with
  | nil => exact (reaches_nil_iff.mp h).1
  | cons part rest => exact (reaches_cons_iff.mp h).1

theorem Reaches.entry?_end {parts : List String} (h : t.Reaches start parts place) :
    t.entry? place = some .directory := fits_of_walk h

theorem Reaches.walk_append {parts : List String} (h : t.Reaches start parts middle)
    (others : List String) : t.walk start (parts ++ others) = t.walk middle others := by
  induction parts generalizing start with
  | nil =>
    obtain ⟨-, rfl⟩ := reaches_nil_iff.mp h
    rfl
  | cons part rest ih =>
    obtain ⟨hstart, next, hnext, hrest⟩ := reaches_cons_iff.mp h
    rw [List.cons_append, walk_cons hstart hnext, ih hrest]

/-- On the way to what is found, all parts but the last lead to directories. -/
theorem exists_reaches_of_append {parts others : List String} (hothers : others ≠ [])
    (h : t.walk start (parts ++ others) = .ok (.found place entry)) :
    ∃ middle, t.Reaches start parts middle ∧
      t.walk middle others = .ok (.found place entry) := by
  induction parts generalizing start with
  | nil =>
    obtain ⟨part, rest, rfl⟩ := List.exists_cons_of_ne_nil hothers
    exact ⟨start, reaches_nil_iff.mpr ⟨(found_cons h).1, rfl⟩, h⟩
  | cons part rest ih =>
    obtain ⟨hstart, next, hnext, hrest⟩ := found_cons h
    obtain ⟨middle, hreaches, hfound⟩ := ih hrest
    exact ⟨middle, reaches_cons_iff.mpr ⟨hstart, next, hnext, hreaches⟩, hfound⟩

/-- Only the parts that lead away matter. -/
theorem reaches_filter_iff {parts : List String} :
    t.Reaches start parts place ↔ t.entry? start = some .directory ∧
      t.Reaches start (parts.filter fun part => part != "" && part != ".") place := by
  induction parts generalizing start with
  | nil => exact ⟨fun h => ⟨h.entry?_start, h⟩, And.right⟩
  | cons part rest ih =>
    by_cases hstay : part = "" ∨ part = "."
    · have hnext : t.next? start part = some start := by simp [next?, hstay]
      have hskip : (part != "" && part != ".") = false := by
        rcases hstay with rfl | rfl <;> rfl
      rw [List.filter_cons, if_neg (by rw [hskip]; exact Bool.false_ne_true), reaches_cons_iff,
        hnext]
      simp only [Option.some.injEq, exists_eq_left', ih, and_self_left]
    · have hkeep : (part != "" && part != ".") = true := by simpa [not_or] using hstay
      rw [List.filter_cons, if_pos hkeep, reaches_cons_iff, reaches_cons_iff]
      simp only [and_self_left]
      refine and_congr_right fun _ => exists_congr fun middle => and_congr_right fun _ => ?_
      exact ih.trans ⟨And.right, fun h => ⟨h.entry?_start, h⟩⟩

theorem reaches_parts_iff {p : Path} :
    t.Reaches start (Path.parts p) place ↔
      t.entry? start = some .directory ∧ t.Reaches start (Path.steps p) place := reaches_filter_iff

theorem reaches_congr {p q : Path} (h : Path.steps p = Path.steps q) :
    t.Reaches start (Path.parts p) place ↔ t.Reaches start (Path.parts q) place := by
  rw [reaches_parts_iff, reaches_parts_iff, h]

/-- Where a path leads from a directory, be it the working one or not. -/
def resolveFrom (t : Tree) (directory : Place) (p : Path) : Except Fault Destination :=
  if p.toList.contains '\x00' then .error .nulInName
  else if p.isEmpty then .error .notFound
  else if pathLimit ≤ p.utf8ByteSize then .error .nameTooLong
  else t.walk (if Path.isAbsolute p then [] else directory) (Path.parts p)

theorem resolve_eq (t : Tree) (p : Path) : t.resolve p = t.resolveFrom t.current p := rfl

/-- The directory that a path names; the empty path names the working directory. -/
def IsDirectory (t : Tree) (directory : Path) (place : Place) : Prop :=
  if directory = "" then place = t.current
  else '\x00' ∉ directory.toList ∧
    t.Reaches (if Path.isAbsolute directory then [] else t.current) (Path.parts directory) place

/-- A path joined to the text of a directory leads where it leads from there. -/
theorem resolve_join {directory p : Path} (h : t.IsDirectory directory place) (hp : p ≠ "")
    (hsize : (Path.join directory p).utf8ByteSize < pathLimit) :
    t.resolve (Path.join directory p) = t.resolveFrom place p := by
  cases habsolute : Path.isAbsolute p with
  | true =>
    have hjoin : Path.join directory p = p := by simp [Path.join, habsolute]
    rw [hjoin, resolve_eq]
    simp only [resolveFrom, habsolute, if_true]
  | false =>
    by_cases hdirectory : directory = ""
    · have hjoin : Path.join directory p = p := by simp [Path.join, hdirectory]
      rw [IsDirectory, if_pos hdirectory] at h
      rw [hjoin, h, resolve_eq]
    · obtain ⟨above, hjoin, hsteps, habove, hbegins⟩ := Path.exists_join hdirectory habsolute
      rw [IsDirectory, if_neg hdirectory] at h
      obtain ⟨hnul, hreaches⟩ := h
      have hroot : Path.isAbsolute (Path.join directory p) = Path.isAbsolute directory :=
        (Path.isAbsolute_of_prefix hbegins hdirectory).symm
      have hcontains : (Path.join directory p).toList.contains '\x00' =
          p.toList.contains '\x00' := by
        have hnone : '\x00' ∉ above.toList := fun hmem => hnul (habove.subset hmem)
        rw [hjoin, Bool.eq_iff_iff]
        simp [hnone]
      have hshorter : p.utf8ByteSize < pathLimit := by
        refine lt_of_le_of_lt ?_ hsize
        rw [hjoin, String.utf8ByteSize_append]
        exact Nat.le_add_left _ _
      have hwalk := ((reaches_congr hsteps).mpr hreaches).walk_append (Path.parts p)
      rw [← Path.parts_append, ← hjoin, ← hroot] at hwalk
      have hsome : Path.join directory p ≠ "" := by
        intro heq
        rw [heq] at hbegins
        exact hdirectory (by simpa using hbegins)
      simp only [resolve, resolveFrom, hcontains, hwalk, habsolute, String.isEmpty_iff, hp, hsome,
        hsize.not_ge, hshorter.not_ge, if_false, Bool.false_eq_true]

/-- Only directories hold entries. -/
def IsSound (t : Tree) : Prop :=
  ∀ directory name, (t.entry? (directory ++ [name])).isSome = true →
    t.entry? directory = some .directory

/-- It is enough to look at what stands around the entries and around the working directory. -/
theorem isSound_of_inits (h : ∀ place ∈ t.current :: t.places, ∀ directory ∈ place.inits,
    directory ≠ place → t.entry? directory = some .directory) : t.IsSound := by
  intro directory name hsome
  have hstrict : ∀ place ∈ t.current :: t.places, directory ++ [name] <+: place →
      t.entry? directory = some .directory := by
    intro place hplace hbelow
    have haround := (List.prefix_append directory [name]).trans hbelow
    refine h place hplace directory ((List.mem_inits _ _).mpr haround) ?_
    rintro rfl
    exact absurd hbelow.length_le (by simp)
  rcases isSome_entry?_iff.mp hsome with hcurrent | ⟨place, hplace, hbelow⟩
  · exact hstrict t.current List.mem_cons_self hcurrent
  · exact hstrict place (List.mem_cons_of_mem _ hplace) hbelow

theorem IsSound.entry?_dropLast (ht : t.IsSound) (h : t.entry? place = some .directory) :
    t.entry? place.dropLast = some .directory := by
  rcases List.eq_nil_or_concat' place with rfl | ⟨above, name, rfl⟩
  · exact h
  · rw [List.dropLast_concat]
    exact ht above name (by rw [h]; rfl)

/-- The last part of a path to a file is its name. -/
theorem file_of_walk (ht : t.IsSound) {part : String} (hslash : '/' ∉ part.toList)
    (hfile : entry ≠ .directory) (h : t.walk middle [part] = .ok (.found place entry)) :
    Path.IsName part ∧ place.dropLast = middle := by
  obtain ⟨hmiddle, next, hnext, hfound⟩ := found_cons h
  have hentry : t.entry? next = some entry ∧ next = place := by
    have hplace : t.entry? place = some entry := fits_of_walk hfound
    unfold walk at hfound
    split at hfound
    · cases hfound
      exact ⟨hplace, rfl⟩
    · cases hfound
  obtain ⟨hentry, rfl⟩ := hentry
  unfold next? at hnext
  split_ifs at hnext with hstay hup hlong hsome
  · -- A part that stays where it is leads to a directory.
    obtain rfl := Option.some.inj hnext
    rw [hmiddle] at hentry
    exact absurd (Option.some.inj hentry).symm hfile
  · obtain rfl := Option.some.inj hnext
    rw [ht.entry?_dropLast hmiddle] at hentry
    exact absurd (Option.some.inj hentry).symm hfile
  · obtain rfl := Option.some.inj hnext
    have hname : part ≠ "" ∧ part ≠ "." := by simpa [not_or] using hstay
    exact ⟨⟨hslash, hname⟩, List.dropLast_concat⟩

/-- The path of a file without its last part names the directory of the file. -/
theorem isDirectory_parent (ht : t.IsSound) {p : Path} (hfile : entry ≠ .directory)
    (h : t.resolve p = .ok (.found place entry)) :
    ∃ directory, Path.parent? p = some directory ∧ t.IsDirectory directory place.dropLast := by
  have hnul : '\x00' ∉ p.toList := by
    intro hmem
    rw [resolve, if_pos (by simpa using hmem)] at h
    cases h
  have hwalk : t.walk (if Path.isAbsolute p then [] else t.current) (Path.parts p) =
      .ok (.found place entry) := by
    unfold resolve at h
    split_ifs at h ⊢
    all_goals exact h
  obtain hslash | ⟨above, last, rfl, hslash⟩ := Path.exists_last p
  · rw [Path.isAbsolute_of_not_mem hslash, Path.parts_of_not_mem hslash] at hwalk
    obtain ⟨hname, hplace⟩ := file_of_walk ht hslash hfile hwalk
    refine ⟨"", Path.parent?_name hname, ?_⟩
    rw [IsDirectory, if_pos rfl]
    exact hplace
  · rw [Path.parts_append, Path.parts_of_not_mem hslash] at hwalk
    obtain ⟨middle, hreaches, hlast⟩ := exists_reaches_of_append (List.cons_ne_nil _ _) hwalk
    obtain ⟨hname, rfl⟩ := file_of_walk ht hslash hfile hlast
    refine ⟨_, Path.parent?_slash above hname, ?_⟩
    have hbegins : Path.trimEnd (above ++ "/").toList <+: (above ++ "/" ++ last).toList := by
      refine (Path.trimEnd_prefix _).trans ?_
      rw [String.toList_append (s := above ++ "/")]
      exact List.prefix_append _ _
    have hsome : String.ofList (Path.trimEnd (above ++ "/").toList) ≠ "" := by
      rw [ne_eq, String.ofList_eq_empty_iff]
      exact Path.trimEnd_ne_nil (by simp)
    have hroot := Path.isAbsolute_of_prefix (q := above ++ "/" ++ last)
      (by rw [String.toList_ofList]; exact hbegins) hsome
    have hsteps : Path.steps (String.ofList (Path.trimEnd (above ++ "/").toList)) =
        Path.steps above := by
      rw [Path.steps_trimEnd, String.ofList_toList, Path.steps_slash]
    rw [IsDirectory, if_neg hsome, hroot, reaches_congr hsteps, String.toList_ofList]
    exact ⟨fun hmem => hnul (hbegins.subset hmem), hreaches⟩

theorem found_of_readText {p : Path} {content : String} (h : t.readText p = .ok content) :
    ∃ place, t.resolve p = .ok (.found place (.text content)) := by
  unfold readText at h
  split at h
  · cases h
  · next place found hresolve =>
    obtain rfl := Except.ok.inj h
    exact ⟨place, hresolve⟩
  · cases h
  · cases h
  · cases h

/-- A path joined to the directory of a file leads where it leads from there. -/
theorem resolve_beside (ht : t.IsSound) {file p : Path} (hfile : entry ≠ .directory)
    (h : t.resolve file = .ok (.found place entry)) (hp : p ≠ "")
    (hsize : (Path.join ((Path.parent? file).getD ".") p).utf8ByteSize < pathLimit) :
    t.resolve (Path.join ((Path.parent? file).getD ".") p) = t.resolveFrom place.dropLast p := by
  obtain ⟨directory, hparent, hdirectory⟩ := isDirectory_parent ht hfile h
  rw [hparent, Option.getD_some] at hsize ⊢
  exact resolve_join hdirectory hp hsize

theorem next?_name {name : String} (h : Path.IsEntryName name)
    (hnext : t.next? start name = some middle) : middle = start ++ [name] := by
  obtain ⟨⟨-, hempty, hdot⟩, hup⟩ := h
  simp only [next?, hempty, hdot, hup, decide_false, Bool.or_self, Bool.false_eq_true, if_false]
    at hnext
  split_ifs at hnext
  exact (Option.some.inj hnext).symm

/-- Names lead from a directory to the entry of these names. -/
theorem Reaches.eq_append {names : List String} (h : t.Reaches start names place)
    (hnames : ∀ name ∈ names, Path.IsEntryName name) : place = start ++ names := by
  induction names generalizing start with
  | nil =>
    obtain ⟨-, rfl⟩ := reaches_nil_iff.mp h
    exact (List.append_nil start).symm
  | cons name rest ih =>
    obtain ⟨-, next, hnext, hrest⟩ := reaches_cons_iff.mp h
    obtain ⟨hname, hlater⟩ := List.forall_mem_cons.mp hnames
    obtain rfl := next?_name hname hnext
    rw [ih hrest hlater, List.append_assoc, List.singleton_append]

/-- A path only leads to entries that have names. -/
theorem Reaches.names {parts : List String} (h : t.Reaches start parts place)
    (hparts : ∀ part ∈ parts, '/' ∉ part.toList)
    (hstart : ∀ name ∈ start, Path.IsEntryName name) : ∀ name ∈ place, Path.IsEntryName name := by
  induction parts generalizing start with
  | nil =>
    obtain ⟨-, rfl⟩ := reaches_nil_iff.mp h
    exact hstart
  | cons part rest ih =>
    obtain ⟨-, next, hnext, hrest⟩ := reaches_cons_iff.mp h
    obtain ⟨hslash, hlater⟩ := List.forall_mem_cons.mp hparts
    refine ih hrest hlater ?_
    unfold next? at hnext
    split_ifs at hnext with hstay hup hlong hsome
    · obtain rfl := Option.some.inj hnext
      exact hstart
    · obtain rfl := Option.some.inj hnext
      exact fun name hname => hstart name (List.mem_of_mem_dropLast hname)
    · obtain rfl := Option.some.inj hnext
      have hname : part ≠ "" ∧ part ≠ "." := by simpa [not_or] using hstay
      simp only [List.mem_append, List.mem_singleton]
      rintro name (hname | rfl)
      · exact hstart name hname
      · exact ⟨⟨hslash, hname⟩, hup⟩

/-- A directory has an entry of a name exactly if the name joined to its path leads to it. -/
theorem resolve_join_name {directory : Path} {name : String} (h : t.IsDirectory directory place)
    (hplace : t.entry? place = some .directory) (hname : Path.IsEntryName name)
    (hnul : '\x00' ∉ name.toList) (hlong : name.utf8ByteSize ≤ maxName)
    (hsize : (Path.join directory name).utf8ByteSize < pathLimit) :
    t.resolve (Path.join directory name) =
      .ok (match t.entry? (place ++ [name]) with
        | some entry => .found (place ++ [name]) entry
        | none => .free (place ++ [name])) := by
  obtain ⟨⟨hslash, hempty, hdot⟩, hup⟩ := hname
  have hshorter : name.utf8ByteSize < pathLimit := lt_of_le_of_lt hlong (by decide)
  rw [resolve_join h hempty hsize, resolveFrom, Path.isAbsolute_of_not_mem hslash,
    Path.parts_of_not_mem hslash]
  cases hentry : t.entry? (place ++ [name]) <;>
    simp [walk, hplace, hentry, hempty, hdot, hup, hnul, hshorter.not_ge, hlong.not_gt]

end Tree

end StoryPress.Files
