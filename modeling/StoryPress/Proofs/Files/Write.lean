import StoryPress.Files.Tree
import Mathlib.Data.List.Infix

/-! A text that is written stands where its path leads, and nothing else on the disk changes: a file
is made only in a directory that exists, so no directory appears with it. The path then leads to the
text. -/
namespace StoryPress.Files.Tree

variable {t written : Tree} {place other : Place} {content : String}

theorem lookup_replace (entries : List (Place × Entry)) (place other : Place) (entry : Entry) :
    (entries.map fun e => if e.1 = place then (place, entry) else e).lookup other =
      if other = place then (entries.lookup place).map fun _ => entry
      else entries.lookup other := by
  induction entries with
  | nil => simp
  | cons e rest ih =>
    obtain ⟨key, value⟩ := e
    by_cases hkey : key = place
    · subst hkey
      by_cases hother : other = key
      · simp [hother]
      · simpa [List.lookup_cons, beq_false_of_ne hother, hother] using ih
    · by_cases hother : other = place
      · subst hother
        simpa [List.lookup_cons, beq_false_of_ne (Ne.symm hkey), hkey] using ih
      · simp only [hother, if_false] at ih
        simp [List.lookup_cons, hkey, hother, ih]

theorem lookup_put (t : Tree) (place other : Place) (entry : Entry) :
    (t.put place entry).entries.lookup other =
      if other = place then some entry else t.entries.lookup other := by
  unfold put
  split
  · next h =>
    obtain ⟨old, hold⟩ := Option.isSome_iff_exists.mp h
    simp only [lookup_replace, hold, Option.map_some]
  · next h =>
    rw [Bool.not_eq_true, Option.isSome_eq_false_iff, Option.isNone_iff_eq_none] at h
    simp only [List.lookup_append]
    by_cases hother : other = place
    · simp [hother, h]
    · simp [hother, List.lookup_cons, beq_false_of_ne hother]

theorem current_put (t : Tree) (place : Place) (entry : Entry) :
    (t.put place entry).current = t.current := by
  unfold put
  split <;> rfl

/-- The places with an entry of their own. -/
def places (t : Tree) : List Place := t.entries.map Prod.fst

theorem mem_places_of_lookup {entry : Entry} (h : t.entries.lookup place = some entry) :
    place ∈ t.places := by
  obtain ⟨before, after, hentries, -⟩ := List.lookup_eq_some_iff.mp h
  rw [places, hentries]
  simp

theorem mem_places_put (t : Tree) (place other : Place) (entry : Entry) :
    other ∈ (t.put place entry).places ↔ other = place ∨ other ∈ t.places := by
  unfold put
  split
  · next h =>
    obtain ⟨old, hold⟩ := Option.isSome_iff_exists.mp h
    have hsame : (t.entries.map fun e => if e.1 = place then (place, entry) else e).map Prod.fst =
        t.entries.map Prod.fst := by
      rw [List.map_map]
      refine List.map_congr_left fun e _ => ?_
      by_cases he : e.1 = place <;> simp [he]
    simp only [places, hsame]
    refine ⟨.inr, ?_⟩
    rintro (rfl | hmem)
    · exact mem_places_of_lookup hold
    · exact hmem
  · simp only [places, List.map_append, List.map_cons, List.map_nil, List.mem_append,
      List.mem_singleton]
    exact or_comm

theorem entry?_of_lookup {entry : Entry} (h : t.entries.lookup place = some entry) :
    t.entry? place = some entry := by
  simp only [h, entry?]

theorem entry?_of_lookup_none (h : t.entries.lookup place = none) :
    t.entry? place =
      if place <+: t.current ∨ ∃ q ∈ t.places, place <+: q then some .directory else none := by
  simp only [h, entry?, places, Bool.or_eq_true, List.any_eq_true, List.isPrefixOf_iff_prefix,
    List.mem_map, exists_exists_and_eq_and]

/-- Something stands at every place on the way to an entry or to the working directory. -/
theorem isSome_entry?_iff :
    (t.entry? place).isSome = true ↔ place <+: t.current ∨ ∃ q ∈ t.places, place <+: q := by
  cases h : t.entries.lookup place with
  | some entry =>
    rw [entry?_of_lookup h]
    exact ⟨fun _ => .inr ⟨place, mem_places_of_lookup h, List.prefix_rfl⟩, fun _ => rfl⟩
  | none =>
    rw [entry?_of_lookup_none h]
    split <;> simp_all

theorem isSome_entry?_of_prefix {directory : Place} (h : (t.entry? directory).isSome = true)
    (hbelow : place <+: directory) : (t.entry? place).isSome = true := by
  rw [isSome_entry?_iff] at h ⊢
  rcases h with hcurrent | ⟨q, hq, hdirectory⟩
  · exact .inl (hbelow.trans hcurrent)
  · exact .inr ⟨q, hq, hbelow.trans hdirectory⟩

/-- Two disks differ in nothing but a text at one place. -/
structure WrittenAt (t : Tree) (place : Place) (content : String) (written : Tree) : Prop where
  current : written.current = t.current
  here : written.entry? place = some (.text content)
  elsewhere : ∀ other, other ≠ place → written.entry? other = t.entry? other

/-- Everything on the way to a place is there already. -/
def HasWayTo (t : Tree) (place : Place) : Prop :=
  ∀ other, other <+: place → other ≠ place → (t.entry? other).isSome = true

theorem writtenAt_put (hway : t.HasWayTo place) (content : String) :
    t.WrittenAt place content (t.put place (.text content)) where
  current := current_put t place _
  here := entry?_of_lookup (by rw [lookup_put, if_pos rfl])
  elsewhere := by
    intro other hother
    have hlookup : (t.put place (.text content)).entries.lookup other =
        t.entries.lookup other := by
      rw [lookup_put, if_neg hother]
    cases hentry : t.entries.lookup other with
    | some entry => rw [entry?_of_lookup (hlookup.trans hentry), entry?_of_lookup hentry]
    | none =>
      rw [entry?_of_lookup_none (hlookup.trans hentry), entry?_of_lookup_none hentry]
      have hsame : (other <+: t.current ∨ ∃ q ∈ (t.put place (.text content)).places, other <+: q) ↔
          other <+: t.current ∨ ∃ q ∈ t.places, other <+: q := by
        simp only [mem_places_put, or_and_right, exists_or, exists_eq_left]
        constructor
        · rintro (hcurrent | hbelow | hplaces)
          · exact .inl hcurrent
          · exact isSome_entry?_iff.mp (hway other hbelow hother)
          · exact .inr hplaces
        · rintro (hcurrent | hplaces)
          · exact .inl hcurrent
          · exact .inr (.inr hplaces)
      simp only [current_put, hsame]

def Destination.place? : Destination → Option Place
  | found place _ => some place
  | free place => some place
  | freeDirectory => none

/-- What a destination says of the disk. -/
def Destination.Fits (t : Tree) : Destination → Prop
  | found place entry => t.entry? place = some entry
  | free place =>
    t.entry? place = none ∧
      ∃ directory name, place = directory ++ [name] ∧ t.entry? directory = some .directory
  | freeDirectory => True

theorem fits_of_walk {parts : List String} {destination : Destination}
    (h : t.walk place parts = .ok destination) : destination.Fits t := by
  induction parts generalizing place with
  | nil =>
    unfold walk at h
    split at h
    · next entry hentry =>
      cases h
      exact hentry
    · cases h
  | cons part rest ih =>
    unfold walk at h
    split_ifs at h with hdirectory hdot hup hlong hsome hlast hslashes
    · exact ih h
    · exact ih h
    · exact ih h
    · cases h
      exact ⟨by simpa using hsome, place, part, rfl, not_not.mp hdirectory⟩
    · cases h
      trivial

theorem Destination.Fits.hasWayTo {destination : Destination} (h : destination.Fits t)
    (hplace : destination.place? = some place) : t.HasWayTo place := by
  intro other hbelow hother
  cases destination with
  | found found entry =>
    cases hplace
    have hentry : t.entry? place = some entry := h
    exact isSome_entry?_of_prefix (by rw [hentry]; rfl) hbelow
  | free free =>
    cases hplace
    obtain ⟨-, directory, name, rfl, hdirectory⟩ := h
    rcases List.prefix_concat_iff.mp hbelow with rfl | hbelow
    · exact absurd rfl hother
    · exact isSome_entry?_of_prefix (by rw [hdirectory]; rfl) hbelow
  | freeDirectory => cases hplace

/-- A path to the place of a new text leads to that text. -/
theorem walk_written (h : t.WrittenAt place content written)
    (hfile : t.entry? place ≠ some .directory) {start : Place} {parts : List String}
    {destination : Destination} (hwalk : t.walk start parts = .ok destination)
    (hplace : destination.place? = some place) :
    written.walk start parts = .ok (.found place (.text content)) := by
  induction parts generalizing start with
  | nil =>
    unfold walk at hwalk
    split at hwalk
    · cases hwalk
      cases hplace
      rw [walk, h.here]
    · cases hwalk
  | cons part rest ih =>
    unfold walk at hwalk
    split_ifs at hwalk with hdirectory hdot hup hlong hsome hlast hslashes
    all_goals
      have hstart : start ≠ place := by
        rintro rfl
        exact hfile (not_not.mp hdirectory)
      have hsame : written.entry? start = some .directory :=
        (h.elsewhere start hstart).trans (not_not.mp hdirectory)
      rw [walk, if_neg (not_not.mpr hsame)]
    · rw [if_pos hdot]
      exact ih hwalk
    · rw [if_neg hdot, if_pos hup]
      exact ih hwalk
    · have hnext : (written.entry? (start ++ [part])).isSome = true := by
        by_cases heq : start ++ [part] = place
        · rw [heq, h.here]
          rfl
        · rwa [h.elsewhere _ heq]
      rw [if_neg hdot, if_neg hup, if_neg hlong, if_pos hnext]
      exact ih hwalk
    · cases hwalk
      cases hplace
      have hnext : (written.entry? (start ++ [part])).isSome = true := by
        rw [h.here]
        rfl
      rw [if_neg hdot, if_neg hup, if_neg hlong, if_pos hnext, List.isEmpty_iff.mp hlast, walk,
        h.here]
    · cases hwalk
      cases hplace

/-- A path leads to a place, be it free or not. -/
def LeadsTo (t : Tree) (p : Path) (place : Place) : Prop :=
  ∃ destination, t.resolve p = .ok destination ∧ destination.place? = some place

theorem fits_of_resolve {p : Path} {destination : Destination}
    (h : t.resolve p = .ok destination) : destination.Fits t := by
  unfold resolve at h
  split_ifs at h
  all_goals exact fits_of_walk h

theorem resolve_written {p : Path} (h : t.WrittenAt place content written)
    (hfile : t.entry? place ≠ some .directory) (hleads : t.LeadsTo p place) :
    written.resolve p = .ok (.found place (.text content)) := by
  obtain ⟨destination, hresolve, hplace⟩ := hleads
  unfold resolve at hresolve ⊢
  rw [h.current]
  split_ifs at hresolve ⊢
  all_goals exact walk_written h hfile hresolve hplace

/-- A write that succeeds is one text at the place where its path leads. -/
theorem writeText_ok {p : Path} (h : t.writeText p content = .ok written) :
    ∃ place, t.LeadsTo p place ∧ t.entry? place ≠ some .directory ∧
      t.WrittenAt place content written := by
  unfold writeText at h
  split at h
  · cases h
  · cases h
  · next place entry hdirectory hresolve =>
    cases h
    have hentry : t.entry? place = some entry := fits_of_resolve hresolve
    refine ⟨place, ⟨_, hresolve, rfl⟩, ?_, writtenAt_put ?_ content⟩
    · rw [hentry]
      rintro ⟨⟩
      exact hdirectory rfl
    · exact (fits_of_resolve hresolve).hasWayTo rfl
  · next place hresolve =>
    cases h
    have hfree : t.entry? place = none := (fits_of_resolve hresolve).1
    refine ⟨place, ⟨_, hresolve, rfl⟩, ?_, writtenAt_put ?_ content⟩
    · rw [hfree]
      rintro ⟨⟩
    · exact (fits_of_resolve hresolve).hasWayTo rfl
  · cases h

theorem readText_of_found {p : Path} (h : t.resolve p = .ok (.found place (.text content))) :
    t.readText p = .ok content := by
  simp only [readText, h]

theorem readText_of_writeText {p : Path} (h : t.writeText p content = .ok written) :
    written.readText p = .ok content := by
  obtain ⟨place, hleads, hfile, hwritten⟩ := writeText_ok h
  exact readText_of_found (resolve_written hwritten hfile hleads)

theorem exists_of_readText {p : Path} (h : t.readText p = .ok content) : t.exists? p = true := by
  unfold readText at h
  unfold exists?
  split at h <;> simp_all

end StoryPress.Files.Tree
