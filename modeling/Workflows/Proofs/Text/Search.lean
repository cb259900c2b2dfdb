/-
What is found in a text, what is replaced in it and what is cut off its ends: a pattern occurs if the text has it as a
part, the part before the first occurrence is the shortest one, a replacement leaves the segments between occurrences as
they are, and only blanks are trimmed.
-/
import Mathlib.Data.List.Infix
import Mathlib.Data.List.TakeWhile
import Workflows.Text.Search

namespace Workflows.Text

/-- What all characters of a text are is decided from these, and not from all characters that there are. -/
instance (priority := high) decidableForallMem (p : Char → Prop) [DecidablePred p] (cs : List Char) :
    Decidable (∀ c ∈ cs, p c) :=
  List.decidableBAll p cs

variable {pattern cs before after rest : List Char}

/-! ## Occurrences -/

/-- A text is cut at an occurrence. -/
theorem splitFirst_eq_some (h : splitFirst? pattern cs = some (before, after)) : cs = before ++ (pattern ++ after) := by
  induction cs generalizing before with
  | nil =>
    rw [splitFirst?] at h
    split at h
    · next hempty =>
      cases h
      rw [List.isEmpty_iff.1 hempty]
      rfl
    · cases h
  | cons c cs ih =>
    rw [splitFirst?] at h
    split at h
    · next left hleft =>
      cases h
      exact (List.isPrefixOf?_eq_some_iff_append_eq.1 hleft).symm
    · obtain ⟨⟨more, left⟩, hmore, h⟩ := Option.map_eq_some_iff.1 h
      cases h
      rw [ih hmore]
      rfl

theorem splitFirst_self : splitFirst? pattern (pattern ++ rest) = some ([], rest) := by
  cases h : pattern ++ rest with
  | nil =>
    obtain ⟨rfl, rfl⟩ := List.append_eq_nil_iff.1 h
    rfl
  | cons c cs => rw [splitFirst?, List.isPrefixOf?_eq_some_iff_append_eq.2 h]

/-- Every occurrence is the first one or behind its beginning. -/
theorem exists_splitFirst (pattern before rest : List Char) : ∃ first left,
    splitFirst? pattern (before ++ (pattern ++ rest)) = some (first, left) ∧ rest <:+ left := by
  induction before with
  | nil => exact ⟨[], rest, splitFirst_self, List.suffix_refl rest⟩
  | cons c before ih =>
    obtain ⟨first, left, hfirst, hrest⟩ := ih
    rw [List.cons_append, splitFirst?]
    cases hhead : pattern.isPrefixOf? (c :: (before ++ (pattern ++ rest))) with
    | none => exact ⟨c :: first, left, by rw [hfirst]; rfl, hrest⟩
    | some whole =>
      refine ⟨[], whole, rfl, ?_⟩
      have hwhole := List.isPrefixOf?_eq_some_iff_append_eq.1 hhead
      have hsuffix : rest <:+ pattern ++ whole := by
        rw [hwhole]
        exact ⟨c :: (before ++ pattern), by simp⟩
      refine List.suffix_of_suffix_length_le hsuffix (List.suffix_append pattern whole) ?_
      have hlength := congrArg List.length hwhole
      simp only [List.length_append, List.length_cons] at hlength
      omega

/-- Two patterns with a character behind them are found by first occurrences if they stand in this order anywhere. -/
theorem splitFirst_inOrder_iff {first second : List Char} {c : Char} :
    (∃ x behind, splitFirst? first cs = some (x, behind) ∧
        ∃ y left, splitFirst? second behind = some (y, left) ∧ c ∈ left) ↔
      ∃ x y z, cs = x ++ (first ++ (y ++ (second ++ z))) ∧ c ∈ z := by
  constructor
  · rintro ⟨x, behind, hfirst, y, left, hsecond, hc⟩
    refine ⟨x, y, left, ?_, hc⟩
    rw [splitFirst_eq_some hfirst, splitFirst_eq_some hsecond]
  · rintro ⟨x, y, z, rfl, hc⟩
    obtain ⟨x', behind, hfirst, u, hu⟩ := exists_splitFirst first x (y ++ (second ++ z))
    obtain ⟨y', left, hsecond, hz⟩ := exists_splitFirst second (u ++ y) z
    refine ⟨x', behind, hfirst, y', left, ?_, hz.subset hc⟩
    rw [← hu, ← List.append_assoc]
    exact hsecond

theorem splitFirst_eq_none_iff : splitFirst? pattern cs = none ↔ ¬ pattern <:+: cs := by
  constructor
  · rintro h ⟨before, rest, rfl⟩
    obtain ⟨first, left, hfirst, -⟩ := exists_splitFirst pattern before rest
    rw [List.append_assoc, hfirst] at h
    cases h
  · intro h
    cases hfirst : splitFirst? pattern cs with
    | none => rfl
    | some parts => exact absurd ⟨parts.1, parts.2, by rw [splitFirst_eq_some hfirst, List.append_assoc]⟩ h

/-- What stands behind a text changes nothing about the first occurrence in it. -/
theorem splitFirst_append (h : splitFirst? pattern cs = some (before, after)) (rest : List Char) :
    splitFirst? pattern (cs ++ rest) = some (before, after ++ rest) := by
  induction cs generalizing before with
  | nil =>
    obtain ⟨rfl, hempty⟩ := List.append_eq_nil_iff.1 (splitFirst_eq_some h).symm
    obtain ⟨rfl, rfl⟩ := List.append_eq_nil_iff.1 hempty
    exact splitFirst_self
  | cons c cs ih =>
    rw [splitFirst?] at h
    split at h
    · next left hleft =>
      cases h
      rw [← List.isPrefixOf?_eq_some_iff_append_eq.1 hleft, List.append_assoc]
      exact splitFirst_self
    · next hhead =>
      obtain ⟨⟨more, left⟩, hmore, h⟩ := Option.map_eq_some_iff.1 h
      cases h
      rw [List.cons_append, splitFirst?, ih hmore]
      cases hwhole : pattern.isPrefixOf? (c :: (cs ++ rest)) with
      | none => rfl
      | some whole =>
        -- the text is long enough to begin with the pattern itself
        have hlength := congrArg List.length (splitFirst_eq_some hmore)
        simp only [List.length_append] at hlength
        have hbegins : pattern <+: c :: cs := by
          refine List.prefix_of_prefix_length_le ⟨whole, List.isPrefixOf?_eq_some_iff_append_eq.1 hwhole⟩
            (List.prefix_append (c :: cs) rest) ?_
          rw [List.length_cons]
          omega
        obtain ⟨left, hleft⟩ := hbegins
        rw [List.isPrefixOf?_eq_some_iff_append_eq.2 hleft] at hhead
        cases hhead

/-- A text without a pattern is cut off in front of it, unless the pattern begins in the text already. -/
theorem splitFirst_of_apart (hbefore : ¬ pattern <:+: before)
    (hover : ∀ v w, v <:+ before → v ≠ [] → w ≠ [] → v ++ w = pattern → ¬ w <+: pattern) (rest : List Char) :
    splitFirst? pattern (before ++ (pattern ++ rest)) = some (before, rest) := by
  induction before with
  | nil => exact splitFirst_self
  | cons c before ih =>
    have hsuffix : ∀ {v}, v <:+ before → v <:+ c :: before := fun h => h.trans (List.suffix_cons c before)
    have hrest := ih (fun h => hbefore (List.infix_cons h)) fun v w hv => hover v w (hsuffix hv)
    rw [List.cons_append, splitFirst?, hrest]
    cases hhead : pattern.isPrefixOf? (c :: (before ++ (pattern ++ rest))) with
    | none => rfl
    | some whole =>
      have hwhole : pattern ++ whole = (c :: before) ++ (pattern ++ rest) :=
        List.isPrefixOf?_eq_some_iff_append_eq.1 hhead
      exfalso
      rcases List.append_eq_append_iff.1 hwhole with ⟨more, hmore, -⟩ | ⟨w, hw, hcross⟩
      · exact hbefore ⟨[], more, by rw [hmore]; rfl⟩
      · by_cases hempty : w = []
        · exact hbefore ⟨[], [], by simp [hw, hempty]⟩
        · refine hover (c :: before) w (List.suffix_refl _) (List.cons_ne_nil _ _) hempty hw.symm ?_
          refine List.prefix_of_prefix_length_le ⟨whole, hcross.symm⟩ (List.prefix_append pattern rest) ?_
          rw [hw, List.length_append]
          omega

theorem splitFirst_cons {c f : Char} (h : c ≠ f) (pattern cs : List Char) :
    splitFirst? (f :: pattern) (c :: cs) =
      (splitFirst? (f :: pattern) cs).map fun (before, after) => (c :: before, after) := by
  rw [splitFirst?]
  simp [List.isPrefixOf?, Ne.symm h]

/-- A pattern does not reach over what is not in it. -/
theorem infix_of_not_mem {α : Type} {pattern before rest : List α} {c : α} (hc : c ∉ pattern)
    (h : pattern <:+: before ++ c :: rest) : pattern <:+: before ∨ pattern <:+: rest := by
  have hhead : ∀ {left right}, c :: left = pattern ++ right → pattern = [] := fun {left right} h => by
    cases hpattern : pattern with
    | nil => rfl
    | cons d more =>
      rw [hpattern] at h
      exact absurd (by rw [hpattern, (List.cons.inj h).1]; exact List.mem_cons_self) hc
  obtain ⟨a, b, h⟩ := h
  rw [List.append_assoc] at h
  rcases List.append_eq_append_iff.1 h with ⟨more, hbefore, hpattern⟩ | ⟨more, ha, hrest⟩
  · rcases List.append_eq_append_iff.1 hpattern with ⟨left, hleft, -⟩ | ⟨left, hleft, hright⟩
    · exact .inl ⟨a, left, by rw [hbefore, hleft, List.append_assoc]⟩
    · cases left with
      | nil => exact .inl ⟨a, [], by rw [hbefore, hleft, List.append_nil, List.append_nil]⟩
      | cons d left =>
        refine absurd ?_ hc
        rw [hleft, (List.cons.inj hright).1]
        simp
  · cases more with
    | nil =>
      rw [hhead hrest]
      exact .inl List.nil_infix
    | cons d more => exact .inr ⟨more, b, (List.append_assoc _ _ _).trans (List.cons.inj hrest).2.symm⟩

/-- A pattern does not begin in what has none of its characters. -/
theorem infix_append_of_apart {α : Type} {pattern before : List α} (h : ∀ c ∈ before, c ∉ pattern) (rest : List α) :
    pattern <:+: before ++ rest ↔ pattern <:+: rest := by
  induction before with
  | nil => rfl
  | cons c before ih =>
    obtain ⟨hc, hbefore⟩ := List.forall_mem_cons.1 h
    rw [List.cons_append, List.infix_cons_iff, ih hbefore]
    refine or_iff_right_of_imp fun hbegins => ?_
    cases pattern with
    | nil => exact List.nil_infix
    | cons d pattern => exact absurd ((List.cons_prefix_cons.1 hbegins).1 ▸ List.mem_cons_self) hc

/-! ## Replacement -/

/-- What a replacement has taken is passed over. -/
theorem editText_skip (edit : List Char → Option (Nat × List Char)) (cs rest : List Char) :
    editText edit cs.length (cs ++ rest) = editText edit 0 rest := by
  induction cs with
  | nil => rfl
  | cons c cs ih => rw [List.cons_append, List.length_cons, editText, ih]

section

variable (w : List Char)

theorem replaceAll_cons {c : Char} (h : pattern.isPrefixOf? (c :: cs) = none) :
    replaceAll pattern w (c :: cs) = c :: replaceAll pattern w cs := by
  have hbegins : ¬ pattern.isPrefixOf (c :: cs) = true := fun hbegins => by
    obtain ⟨more, hmore⟩ := List.isPrefixOf_iff_prefix.1 hbegins
    rw [List.isPrefixOf?_eq_some_iff_append_eq.2 hmore] at h
    cases h
  rw [replaceAll, editText, if_neg hbegins]

theorem replaceAll_of_none (h : splitFirst? pattern cs = none) : replaceAll pattern w cs = cs := by
  induction cs with
  | nil => rfl
  | cons c cs ih =>
    rw [splitFirst?] at h
    split at h
    · cases h
    · next hhead => rw [replaceAll_cons w hhead, ih (Option.map_eq_none_iff.1 h)]

variable (hne : pattern ≠ [])

include hne

theorem replaceAll_self (rest : List Char) :
    replaceAll pattern w (pattern ++ rest) = w ++ replaceAll pattern w rest := by
  obtain ⟨c, more, rfl⟩ := List.exists_cons_of_ne_nil hne
  have hbegins : (c :: more).isPrefixOf (c :: (more ++ rest)) = true :=
    List.isPrefixOf_iff_prefix.2 (List.prefix_append (c :: more) rest)
  rw [replaceAll, List.cons_append, editText, if_pos hbegins]
  exact congrArg _ (editText_skip _ more rest)

omit w in
theorem ne_nil_of_splitFirst (h : splitFirst? pattern cs = some (before, after)) : cs ≠ [] := by
  rw [splitFirst_eq_some h]
  exact List.append_ne_nil_of_right_ne_nil before (List.append_ne_nil_of_left_ne_nil hne after)

/-- A text is replaced from its first occurrence on. -/
theorem replaceAll_of_splitFirst (h : splitFirst? pattern cs = some (before, after)) :
    replaceAll pattern w cs = before ++ (w ++ replaceAll pattern w after) := by
  induction cs generalizing before with
  | nil => exact absurd rfl (ne_nil_of_splitFirst hne h)
  | cons c cs ih =>
    rw [splitFirst?] at h
    split at h
    · next left hleft =>
      cases h
      rw [← List.isPrefixOf?_eq_some_iff_append_eq.1 hleft, replaceAll_self w hne]
      rfl
    · next hhead =>
      obtain ⟨⟨more, left⟩, hmore, h⟩ := Option.map_eq_some_iff.1 h
      cases h
      rw [replaceAll_cons w hhead, ih hmore]
      rfl

omit w in
/-- No occurrence is in front of the first one. -/
theorem not_infix_of_splitFirst (h : splitFirst? pattern cs = some (before, after)) : ¬ pattern <:+: before := by
  induction cs generalizing before with
  | nil => exact absurd rfl (ne_nil_of_splitFirst hne h)
  | cons c cs ih =>
    have hwhole := splitFirst_eq_some h
    rw [splitFirst?] at h
    split at h
    · cases h
      exact fun hinfix => hne (List.infix_nil.1 hinfix)
    · next hhead =>
      obtain ⟨⟨more, left⟩, hmore, h⟩ := Option.map_eq_some_iff.1 h
      cases h
      intro hinfix
      rcases List.infix_cons_iff.1 hinfix with hbegins | hinfix
      · obtain ⟨rest, hrest⟩ := hbegins.trans (List.prefix_append _ (pattern ++ after))
        rw [← hwhole] at hrest
        rw [List.isPrefixOf?_eq_some_iff_append_eq.2 hrest] at hhead
        cases hhead
      · exact ih hmore hinfix

omit w in
/-- A text is cut into segments at the occurrences of a pattern, and whatever replaces the pattern stands between
these segments. -/
theorem exists_segments (cs : List Char) : ∃ segments : List (List Char), segments ≠ [] ∧
    (∀ segment ∈ segments, ¬ pattern <:+: segment) ∧ List.intercalate pattern segments = cs ∧
    ∀ w, replaceAll pattern w cs = List.intercalate w segments := by
  induction hn : cs.length using Nat.strong_induction_on generalizing cs with
  | _ n ih =>
    cases hfirst : splitFirst? pattern cs with
    | none =>
      refine ⟨[cs], List.cons_ne_nil _ _, ?_, List.intercalate_singleton, fun w => ?_⟩
      · exact List.forall_mem_singleton.2 (splitFirst_eq_none_iff.1 hfirst)
      · rw [replaceAll_of_none w hfirst, List.intercalate_singleton]
    | some parts =>
      obtain ⟨before, after⟩ := parts
      have hcs := splitFirst_eq_some hfirst
      have hshorter : after.length < n := by
        have hpattern := List.length_pos_of_ne_nil hne
        rw [← hn, hcs, List.length_append, List.length_append]
        omega
      obtain ⟨segments, hsegments, hnone, hjoined, hreplaced⟩ := ih _ hshorter after rfl
      obtain ⟨segment, more, rfl⟩ := List.exists_cons_of_ne_nil hsegments
      refine ⟨before :: segment :: more, List.cons_ne_nil _ _, ?_, ?_, fun w => ?_⟩
      · exact List.forall_mem_cons.2 ⟨not_infix_of_splitFirst hne hfirst, hnone⟩
      · rw [List.intercalate_cons_cons, hjoined, hcs, List.append_assoc]
      · rw [List.intercalate_cons_cons, replaceAll_of_splitFirst w hne hfirst, hreplaced, List.append_assoc]

end

/-! ## Blanks at the ends -/

theorem trimEndWith_append (isCut : Char → Bool) (cs : List Char) :
    ∃ cut, cs = trimEndWith isCut cs ++ cut ∧ ∀ c ∈ cut, isCut c = true := by
  refine ⟨(cs.reverse.takeWhile isCut).reverse, ?_, fun c hc => ?_⟩
  · rw [trimEndWith, ← List.reverse_append, List.takeWhile_append_dropWhile, List.reverse_reverse]
  · exact List.mem_takeWhile_imp (List.mem_reverse.1 hc)

/-- What begins and ends without a blank is left of a text when the blanks around it are trimmed. -/
theorem trimChars_append {left core right : List Char} (hleft : ∀ c ∈ left, isBlank c = true)
    (hright : ∀ c ∈ right, isBlank c = true) {first last : Char} (hfirst : core.head? = some first)
    (hlast : core.getLast? = some last) (hends : isBlank first = false ∧ isBlank last = false) :
    trimChars (left ++ (core ++ right)) = core := by
  obtain ⟨more, rfl⟩ := List.head?_eq_some_iff.1 hfirst
  obtain ⟨begun, hbegun⟩ := List.getLast?_eq_some_iff.1 hlast
  rw [trimChars, trimWith, List.dropWhile_append_of_pos hleft, List.cons_append,
    List.dropWhile_cons_of_neg (by simp [hends.1]), ← List.cons_append, trimEndWith, List.reverse_append,
    List.dropWhile_append_of_pos (by simpa using hright), hbegun, List.reverse_append]
  simp [hends.2]

end Workflows.Text
