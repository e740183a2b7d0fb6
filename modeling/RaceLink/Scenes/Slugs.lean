import Mathlib.Data.List.Chain
import RaceLink.Scenes.Reload

/-! Keys of scenes. A slug is made of lower-case letters and digits with single underscores between
them; it is its own slug, and so is a key that was numbered to make it unique. -/
namespace RaceLink.Scenes
open Python Library

/-! ### Slugs -/

/-- No two underscores in a row. -/
def Single (a b : Char) : Prop := ¬ (a = '_' ∧ b = '_')

/-- What the pattern leaves: letters, digits and single underscores. -/
structure Squeezed (cs : List Char) : Prop where
  chars : ∀ c ∈ cs, isSlugChar c = true ∨ c = '_'
  single : cs.IsChain Single

structure Slug (cs : List Char) : Prop extends Squeezed cs where
  nonempty : cs ≠ []
  ends : TrimmedBy (· == '_') cs

theorem underscore_not_slugChar : isSlugChar '_' = false := by decide

theorem Squeezed.tail {c : Char} {rest : List Char} (h : Squeezed (c :: rest)) : Squeezed rest :=
  ⟨fun d hd => h.chars d (List.mem_cons_of_mem c hd), (List.isChain_cons.mp h.single).2⟩

/-- The pattern leaves such a text alone. -/
theorem slugChars_of_squeezed {cs : List Char} (h : Squeezed cs) (inRun : Bool)
    (hrun : inRun = true → ∀ c ∈ cs.head?, c ≠ '_') : slugChars inRun cs = cs := by
  induction cs generalizing inRun with
  | nil => rfl
  | cons c rest ih =>
    rw [slugChars]
    rcases h.chars c (List.mem_cons_self ..) with hc | rfl
    · rw [if_pos hc, ih h.tail false nofun]
    · have hnext : ∀ d ∈ rest.head?, d ≠ '_' := fun d hd heq =>
        (List.isChain_cons.mp h.single).1 d hd ⟨rfl, heq⟩
      have hout : inRun = false := Bool.eq_false_iff.mpr fun hin => hrun hin '_' rfl rfl
      rw [if_neg (by rw [underscore_not_slugChar]; exact Bool.false_ne_true), hout, if_neg Bool.false_ne_true,
        ih h.tail true fun _ => hnext]

theorem slugChar_ne_underscore {c : Char} (h : isSlugChar c = true) : c ≠ '_' := fun heq => by
  rw [heq, underscore_not_slugChar] at h
  cases h

theorem single_of_slugChars {cs : List Char} (h : ∀ c ∈ cs, isSlugChar c = true) : cs.IsChain Single := by
  induction cs with
  | nil => exact .nil
  | cons c rest ih =>
    have hne := slugChar_ne_underscore (h c (List.mem_cons_self ..))
    exact List.isChain_cons.mpr ⟨fun d _ hboth => hne hboth.1, ih fun d hd => h d (List.mem_cons_of_mem c hd)⟩

/-- A run starts with one underscore and goes on without. -/
theorem slugChars_squeezed (inRun : Bool) (cs : List Char) :
    Squeezed (slugChars inRun cs) ∧ (inRun = true → ∀ c ∈ (slugChars inRun cs).head?, c ≠ '_') := by
  induction cs generalizing inRun with
  | nil => exact ⟨⟨nofun, .nil⟩, fun _ => nofun⟩
  | cons c rest ih =>
    rw [slugChars]
    by_cases hc : isSlugChar c = true
    · rw [if_pos hc]
      have hne := slugChar_ne_underscore hc
      refine ⟨⟨List.forall_mem_cons.mpr ⟨.inl hc, (ih false).1.chars⟩, ?_⟩, ?_⟩
      · exact List.isChain_cons.mpr ⟨fun d _ h => hne h.1, (ih false).1.single⟩
      · rintro - d hd
        obtain rfl := Option.some.inj hd
        exact hne
    · rw [if_neg hc]
      cases inRun with
      | true => exact ih true
      | false =>
        rw [if_neg Bool.false_ne_true]
        refine ⟨⟨List.forall_mem_cons.mpr ⟨.inr rfl, (ih true).1.chars⟩, ?_⟩, nofun⟩
        exact List.isChain_cons.mpr ⟨fun d hd h => (ih true).2 rfl d hd h.2, (ih true).1.single⟩

/-- The slug of a text without letters and digits. -/
theorem scene_slug : Slug "scene".toList := by
  have hchars : "scene".toList = ['s', 'c', 'e', 'n', 'e'] := rfl
  have hslug : ∀ c ∈ ['s', 'c', 'e', 'n', 'e'], isSlugChar c = true := by
    simp [isSlugChar]
  rw [hchars]
  refine ⟨⟨fun c hc => .inl (hslug c hc), single_of_slugChars hslug⟩, List.cons_ne_nil _ _, fun c hc => ?_, fun c hc => ?_⟩
  · exact beq_eq_false_iff_ne.mpr (slugChar_ne_underscore (hslug c (List.mem_of_mem_head? hc)))
  · exact beq_eq_false_iff_ne.mpr (slugChar_ne_underscore (hslug c (List.mem_of_mem_getLast? hc)))

theorem slugify_slug (text : String) : Slug (slugify text).toList := by
  have hsqueezed := (slugChars_squeezed false (lower (strip text)).toList).1
  have hpart := trimBy_contiguous (· == '_') (slugChars false (lower (strip text)).toList)
  have hends := trimBy_trimmed (· == '_') (slugChars false (lower (strip text)).toList)
  unfold slugify
  dsimp only
  split
  · exact scene_slug
  · next hne =>
    rw [String.toList_ofList]
    exact ⟨⟨fun c hc => hsqueezed.chars c (hpart.subset hc), hsqueezed.single.infix hpart⟩, hne, hends⟩

theorem slug_char_range {c : Char} (h : isSlugChar c = true ∨ c = '_') :
    (97 ≤ c.toNat ∧ c.toNat ≤ 122) ∨ (48 ≤ c.toNat ∧ c.toNat ≤ 57) ∨ c.toNat = 95 := by
  rcases h with h | rfl
  · simp only [isSlugChar, Bool.or_eq_true, Bool.and_eq_true, decide_eq_true_eq] at h
    rcases h with ⟨h1, h2⟩ | ⟨h1, h2⟩
    · exact .inl ⟨h1, h2⟩
    · exact .inr (.inl ⟨h1, h2⟩)
  · exact .inr (.inr rfl)

theorem lower_of_fixed {s : String} (h : ∀ c ∈ s.toList, lowerChar c = [c]) : lower s = s := by
  have hflat : s.toList.flatMap lowerChar = s.toList.flatMap fun c => [c] := List.flatMap_congr h
  rw [lower, hflat, List.flatMap_singleton', String.ofList_toList]

/-- **A slug is its own slug.** -/
theorem slugify_of_slug {key : String} (h : Slug key.toList) : slugify key = key := by
  have hstrip : strip key = key := strip_of_no_space fun c hc => by
    have hrange := slug_char_range (h.chars c hc)
    simp only [isSpace, Bool.or_eq_false_iff, Bool.and_eq_false_iff, decide_eq_false_iff_not, beq_eq_false_iff_ne]
    omega
  have hlower : lower key = key := lower_of_fixed fun c hc => by
    have hrange := slug_char_range (h.chars c hc)
    have hupper : ¬ ('A' ≤ c ∧ c ≤ 'Z') := fun hl => by
      have h1 : 65 ≤ c.toNat := hl.1
      have h2 : c.toNat ≤ 90 := hl.2
      omega
    rw [lowerChar, if_neg hupper, if_neg (by omega), if_neg (by omega)]
  have hbase : ((key.toList.dropWhile (· == '_')).reverse.dropWhile (· == '_')).reverse = key.toList :=
    trimBy_of_trimmed h.ends
  unfold slugify
  rw [hstrip, hlower, slugChars_of_squeezed h.toSqueezed false fun hpending => absurd hpending Bool.false_ne_true]
  dsimp only
  rw [hbase, if_neg h.nonempty, String.ofList_toList]

/-! ### Numbered keys -/

theorem digit_slugChar {n : Nat} {c : Char} (h : c ∈ Nat.toDigits 10 n) : isSlugChar c = true := by
  have hdigit := Char.isDigit_iff_toNat.mp (Nat.isDigit_of_mem_toDigits (by decide) (by decide) h)
  simp only [isSlugChar, Bool.or_eq_true, Bool.and_eq_true, decide_eq_true_eq]
  exact .inr hdigit

theorem numbered_toList (key : String) (n : Nat) :
    s!"{key}_{n}".toList = key.toList ++ '_' :: Nat.toDigits 10 n := by
  have hdigits : n.repr.toList = Nat.toDigits 10 n := by rw [Nat.repr_eq_ofList_toDigits, String.toList_ofList]
  show (key ++ "_" ++ n.repr).toList = _
  rw [String.toList_append, String.toList_append, hdigits, List.append_assoc]
  rfl

/-- A slug with a number after it is one. -/
theorem Slug.numbered {key : String} (h : Slug key.toList) (n : Nat) : Slug s!"{key}_{n}".toList := by
  have hdigits : ∀ c ∈ Nat.toDigits 10 n, isSlugChar c = true := fun c hc => digit_slugChar hc
  have hsome : Nat.toDigits 10 n ≠ [] := Nat.toDigits_ne_nil
  have hne : ∀ c ∈ Nat.toDigits 10 n, c ≠ '_' := fun c hc => slugChar_ne_underscore (hdigits c hc)
  have hnumber : ('_' :: Nat.toDigits 10 n).IsChain Single := by
    refine List.isChain_cons.mpr ⟨fun d hd hboth => hne d (List.mem_of_mem_head? hd) hboth.2, ?_⟩
    exact single_of_slugChars hdigits
  rw [numbered_toList]
  refine ⟨⟨fun c hc => ?_, ?_⟩, by simp, ?_, ?_⟩
  · rcases List.mem_append.mp hc with hc | hc
    · exact h.chars c hc
    · rcases List.mem_cons.mp hc with rfl | hc
      · exact .inr rfl
      · exact .inl (hdigits c hc)
  · refine h.single.append hnumber fun c hc d hd hboth => ?_
    have hlast := h.ends.2 c hc
    rw [hboth.1] at hlast
    cases hlast
  · rw [List.head?_append_of_ne_nil _ h.nonempty]
    exact h.ends.1
  · rw [List.getLast?_append_of_ne_nil _ (by simp), List.getLast?_cons_of_ne_nil hsome]
    exact fun c hc => beq_eq_false_iff_ne.mpr (hne c (List.mem_of_mem_getLast? hc))

theorem uniqueKey_slug {desired key : String} {taken : List String} (hdesired : Slug desired.toList)
    (h : uniqueKey desired taken = .ok key) : Slug key.toList := by
  unfold uniqueKey at h
  split at h
  · cases h
    exact hdesired
  · split at h
    · next candidate hfind =>
      cases h
      obtain ⟨n, -, rfl⟩ := List.mem_map.mp (List.mem_of_find?_eq_some hfind)
      exact hdesired.numbered n
    · cases h

end RaceLink.Scenes
