import StoryPress.Condition.Scanner
import StoryPress.Proofs.Condition.Tokens

namespace StoryPress.Condition.Scanner

open StoryPress.Condition.Token (bytes bytes_append)

variable {c : Char} {cs before rest part : List Char} {n start stop : Nat}

theorem utf8_cons (c : Char) (cs : List Char) :
    utf8 (c :: cs) = String.utf8EncodeChar c ++ utf8 cs := rfl

theorem length_utf8 (cs : List Char) : (utf8 cs).length = bytes cs := by
  induction cs with
  | nil => rfl
  | cons c cs ih => rw [utf8_cons, List.length_append, String.length_utf8EncodeChar, ih, bytes]

theorem drop_utf8 (before rest : List Char) :
    (utf8 (before ++ rest)).drop (bytes before) = utf8 rest := by
  rw [utf8, List.flatMap_append, ← length_utf8 before]
  exact List.drop_left

theorem getElem?_utf8 (before rest : List Char) (i : Nat) :
    (utf8 (before ++ rest))[bytes before + i]? = (utf8 rest)[i]? := by
  rw [← List.getElem?_drop, drop_utf8]

theorem bytes_pos (c : Char) (cs : List Char) : 0 < bytes (c :: cs) := by
  have hpos := c.utf8Size_pos
  rw [bytes]
  omega

theorem eq_nil_of_bytes_eq_zero (h : bytes cs = 0) : cs = [] := by
  cases cs with
  | nil => rfl
  | cons c cs => exact absurd h (bytes_pos c cs).ne'

theorem utf8Size_of_ascii (h : c.toNat < 128) : c.utf8Size = 1 := by
  rw [Char.utf8Size_eq_one_iff, UInt32.le_iff_toNat_le]
  exact Nat.le_of_lt_succ h

theorem utf8EncodeChar_of_ascii (h : c.toNat < 128) :
    ∃ b, String.utf8EncodeChar c = [b] ∧ Char.ofUInt8 b = c := by
  refine ⟨c.val.toUInt8, String.utf8EncodeChar_eq_singleton (utf8Size_of_ascii h), ?_⟩
  apply Char.toNat_inj.mp
  have hbyte : (Char.ofUInt8 c.val.toUInt8).toNat = c.toNat % 256 := UInt32.toNat_toUInt8 c.val
  rw [hbyte, Nat.mod_eq_of_lt (by omega)]

/-- All bytes of other characters are beyond ASCII, the first one too. -/
theorem utf8EncodeChar_of_not_ascii (h : 128 ≤ c.toNat) :
    ∃ b more, String.utf8EncodeChar c = b :: more ∧ 128 ≤ (Char.ofUInt8 b).toNat := by
  have hbyte : ∀ n, (Char.ofUInt8 (UInt8.ofNat n)).toNat = n % 256 := fun n => UInt8.toNat_ofNat'
  have htoNat : c.val.toNat = c.toNat := rfl
  simp only [String.utf8EncodeChar, htoNat, if_neg (show ¬c.toNat ≤ 127 by omega)]
  split_ifs with htwo hthree
  all_goals
    refine ⟨_, _, rfl, ?_⟩
    rw [hbyte]
    omega

/-- Only ASCII characters pass. -/
def IsAsciiTest (p : Char → Bool) : Prop := ∀ c, p c = true → c.toNat < 128

theorem IsAsciiTest.eq_false {p : Char → Bool} (hp : IsAsciiTest p) (h : 128 ≤ c.toNat) :
    p c = false := by
  rw [Bool.eq_false_iff]
  intro hc
  exact absurd (hp c hc) (Nat.not_lt.mpr h)

theorem length_takeWhile_utf8 {p : Char → Bool} (hp : IsAsciiTest p) (cs : List Char) :
    ((utf8 cs).takeWhile fun b => p (Char.ofUInt8 b)).length = bytes (cs.takeWhile p) := by
  induction cs with
  | nil => rfl
  | cons c cs ih =>
    by_cases hascii : c.toNat < 128
    · obtain ⟨b, hb, hc⟩ := utf8EncodeChar_of_ascii hascii
      rw [utf8_cons, hb, List.singleton_append, List.takeWhile_cons, List.takeWhile_cons, hc]
      cases p c with
      | false => rfl
      | true =>
        simp only [if_true, List.length_cons, ih, bytes, utf8Size_of_ascii hascii]
        omega
    · obtain ⟨b, more, hb, hbyte⟩ := utf8EncodeChar_of_not_ascii (Nat.not_lt.mp hascii)
      have hc : p c = false := hp.eq_false (Nat.not_lt.mp hascii)
      have hfirst : p (Char.ofUInt8 b) = false := hp.eq_false hbyte
      rw [utf8_cons, hb, List.cons_append, List.takeWhile_cons_of_neg (by simp [hfirst]),
        List.takeWhile_cons_of_neg (by simp [hc])]
      rfl

theorem skip_eq {p : Char → Bool} (hp : IsAsciiTest p) (before rest : List Char) :
    skip p (before ++ rest) (bytes before) = bytes before + bytes (rest.takeWhile p) := by
  rw [skip, drop_utf8, length_takeWhile_utf8 hp]

theorem dropBytes?_cons (h : 0 < n) : dropBytes? n (c :: cs) =
    if c.utf8Size ≤ n then dropBytes? (n - c.utf8Size) cs else none := by
  obtain ⟨m, rfl⟩ := Nat.exists_eq_succ_of_ne_zero h.ne'
  rfl

theorem takeBytes?_cons (h : 0 < n) : takeBytes? n (c :: cs) =
    if c.utf8Size ≤ n then (takeBytes? (n - c.utf8Size) cs).map (c :: ·) else none := by
  obtain ⟨m, rfl⟩ := Nat.exists_eq_succ_of_ne_zero h.ne'
  rfl

theorem dropBytes?_append (before rest : List Char) :
    dropBytes? (bytes before) (before ++ rest) = some rest := by
  induction before with
  | nil => cases rest <;> rfl
  | cons c before ih =>
    rw [List.cons_append, dropBytes?_cons (bytes_pos c before), bytes,
      if_pos (Nat.le_add_right _ _), Nat.add_sub_cancel_left, ih]

theorem takeBytes?_append (part rest : List Char) :
    takeBytes? (bytes part) (part ++ rest) = some part := by
  induction part with
  | nil => cases rest <;> rfl
  | cons c part ih =>
    rw [List.cons_append, takeBytes?_cons (bytes_pos c part), bytes,
      if_pos (Nat.le_add_right _ _), Nat.add_sub_cancel_left, ih, Option.map_some]

theorem exists_of_dropBytes? (h : dropBytes? n cs = some rest) :
    ∃ before, cs = before ++ rest ∧ bytes before = n := by
  fun_induction dropBytes? n cs with
  | case1 =>
    cases h
    exact ⟨[], rfl, rfl⟩
  | case2 => cases h
  | case3 n c cs hle ih =>
    obtain ⟨before, rfl, hbefore⟩ := ih h
    refine ⟨c :: before, rfl, ?_⟩
    rw [bytes, hbefore]
    omega
  | case4 => cases h

theorem exists_of_takeBytes? (h : takeBytes? n cs = some part) :
    ∃ rest, cs = part ++ rest ∧ bytes part = n := by
  fun_induction takeBytes? n cs generalizing part with
  | case1 cs =>
    cases h
    exact ⟨cs, rfl, rfl⟩
  | case2 => cases h
  | case3 n c cs hle ih =>
    obtain ⟨more, hmore, rfl⟩ := Option.map_eq_some_iff.mp h
    obtain ⟨rest, rfl, hpart⟩ := ih hmore
    refine ⟨rest, rfl, ?_⟩
    rw [bytes, hpart]
    omega
  | case4 => cases h

theorem slice_append (before part rest : List Char) :
    slice (before ++ part ++ rest) (bytes before) (bytes before + bytes part) = .ok part := by
  rw [slice, if_pos (Nat.le_add_right _ _), List.append_assoc, dropBytes?_append,
    Nat.add_sub_cancel_left, Option.bind_some, takeBytes?_append]

theorem exists_of_slice (h : slice cs start stop = .ok part) :
    ∃ before rest, cs = before ++ part ++ rest ∧ bytes before = start ∧
      bytes before + bytes part = stop := by
  rw [slice] at h
  split_ifs at h with hle
  split at h
  · next found hfound =>
    cases h
    obtain ⟨rest, hdrop, htake⟩ := Option.bind_eq_some_iff.mp hfound
    obtain ⟨before, rfl, rfl⟩ := exists_of_dropBytes? hdrop
    obtain ⟨rest, rfl, hpart⟩ := exists_of_takeBytes? htake
    exact ⟨before, rest, (List.append_assoc _ _ _).symm, rfl, by omega⟩
  · cases h

theorem isValid_iff {source : String} {i : Nat} : String.Pos.Raw.IsValid source ⟨i⟩ ↔
    ∃ before rest, source.toList = before ++ rest ∧ bytes before = i := by
  rw [String.Pos.Raw.isValid_iff_exists_append]
  constructor
  · rintro ⟨before, rest, rfl, hi⟩
    refine ⟨before.toList, rest.toList, String.toList_append, ?_⟩
    rw [Token.bytes_eq, String.ofList_toList]
    exact (congrArg String.Pos.Raw.byteIdx hi).symm
  · rintro ⟨before, rest, hsource, rfl⟩
    refine ⟨String.ofList before, String.ofList rest, ?_, ?_⟩
    · rw [← String.ofList_append, ← hsource, String.ofList_toList]
    · rw [Token.bytes_eq]
      rfl

theorem prefix_of_bytes_le {xs ys : List Char} (hxs : xs <+: cs) (hys : ys <+: cs)
    (h : bytes xs ≤ bytes ys) : xs <+: ys := by
  rcases List.prefix_or_prefix_of_prefix hxs hys with hstarts | ⟨more, rfl⟩
  · exact hstarts
  · rw [bytes_append] at h
    obtain rfl := eq_nil_of_bytes_eq_zero (show bytes more = 0 by omega)
    exact (List.append_nil ys).symm ▸ List.prefix_rfl

/-- A slice exists exactly between two character boundaries. -/
theorem exists_slice_iff {source : String} :
    (∃ part, slice source.toList start stop = .ok part) ↔
      start ≤ stop ∧ String.Pos.Raw.IsValid source ⟨start⟩ ∧
        String.Pos.Raw.IsValid source ⟨stop⟩ := by
  constructor
  · rintro ⟨part, h⟩
    obtain ⟨before, rest, hsource, rfl, rfl⟩ := exists_of_slice h
    refine ⟨Nat.le_add_right _ _, isValid_iff.mpr ⟨before, part ++ rest, ?_, rfl⟩,
      isValid_iff.mpr ⟨before ++ part, rest, hsource, bytes_append before part⟩⟩
    rw [hsource, List.append_assoc]
  · rintro ⟨hle, hstart, hstop⟩
    obtain ⟨before, rest, hbefore, rfl⟩ := isValid_iff.mp hstart
    obtain ⟨upTo, after, hupTo, rfl⟩ := isValid_iff.mp hstop
    have hstarts : before <+: upTo := prefix_of_bytes_le (hbefore ▸ List.prefix_append before rest)
      (hupTo ▸ List.prefix_append upTo after) hle
    obtain ⟨part, rfl⟩ := hstarts
    exact ⟨part, by rw [hupTo, bytes_append, slice_append]⟩

end StoryPress.Condition.Scanner
