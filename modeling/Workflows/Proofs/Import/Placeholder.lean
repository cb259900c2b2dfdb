/-
What is taken for a placeholder. The scan for words in angle brackets goes on behind each word that it takes, and
still it finds every such word, as none reaches into another; so markup and stray brackets around a placeholder
never hide it. A value holds a placeholder if a text that is reached in it, names aside, is one.
-/
import Workflows.Import.Placeholder
import Workflows.Proofs.Text.Search

namespace Workflows.Import

open Workflows.Text

/-! ## Words in angle brackets -/

/-- A word that may stand in angle brackets: a letter of ASCII, and word characters and hyphens behind it. -/
def IsAngleWord (word : List Char) : Prop :=
  ∃ c cs, word = c :: cs ∧ c.isAlpha = true ∧ ∀ d ∈ cs, isWord d = true ∨ d = '-'

/-- A word stands in angle brackets somewhere in a text. -/
def Bracketed (word cs : List Char) : Prop :=
  IsAngleWord word ∧ ∃ before after, cs = before ++ '<' :: (word ++ '>' :: after)

variable {word cs : List Char}

theorem not_mem_angleWord {d : Char} (hword : IsAngleWord word) (hletter : d.isAlpha = false)
    (hother : isWord d = false) (hhyphen : d ≠ '-') : d ∉ word := by
  obtain ⟨c, cs, rfl, hc, hcs⟩ := hword
  intro hmem
  rcases List.mem_cons.1 hmem with rfl | hmem
  · rw [hletter] at hc
    cases hc
  · rcases hcs d hmem with h | h
    · rw [hother] at h
      cases h
    · exact hhyphen h

/-- No word begins inside of another one. -/
theorem opening_not_mem (hword : IsAngleWord word) : '<' ∉ word :=
  not_mem_angleWord hword (by decide) (by decide) (by decide)

theorem goesOn_iff {d : Char} : goesOn d = true ↔ isWord d = true ∨ d = '-' := by simp [goesOn]

theorem angleWord_eq_some :
    angleWord? cs = some word ↔ IsAngleWord word ∧ ∃ rest, cs = '<' :: (word ++ '>' :: rest) := by
  constructor
  · intro h
    unfold angleWord? at h
    split at h
    · next c cs =>
      split at h
      · next hletter =>
        split at h
        · next rest hrest =>
          cases h
          refine ⟨⟨c, _, rfl, hletter, fun d hd => goesOn_iff.1 (List.mem_takeWhile_imp hd)⟩, rest, ?_⟩
          rw [List.cons_append, ← hrest, List.takeWhile_append_dropWhile]
        · cases h
      · cases h
    · cases h
  · rintro ⟨⟨c, cs, rfl, hletter, hcs⟩, rest, rfl⟩
    have hcs : ∀ d ∈ cs, goesOn d = true := fun d hd => goesOn_iff.2 (hcs d hd)
    have hends : ¬ goesOn '>' = true := by decide
    have hword : (cs ++ '>' :: rest).takeWhile goesOn = cs := by
      rw [List.takeWhile_append_of_pos hcs, List.takeWhile_cons_of_neg hends, List.append_nil]
    have hrest : (cs ++ '>' :: rest).dropWhile goesOn = '>' :: rest := by
      rw [List.dropWhile_append_of_pos hcs, List.dropWhile_cons_of_neg hends]
    simp only [angleWord?, List.cons_append, hletter, if_true, hword, hrest]

/-! ## The scan -/

theorem angleWords_skip (taken rest : List Char) : angleWords taken.length (taken ++ rest) = angleWords 0 rest := by
  induction taken with
  | nil => rfl
  | cons c taken ih => rw [List.cons_append, List.length_cons, angleWords, ih]

theorem angleWords_of_word (hword : IsAngleWord word) (rest : List Char) :
    angleWords 0 ('<' :: (word ++ '>' :: rest)) = word :: angleWords 0 rest := by
  have hskip := angleWords_skip (word ++ ['>']) rest
  rw [List.length_append, List.length_singleton, List.append_assoc, List.singleton_append] at hskip
  rw [angleWords, angleWord_eq_some.2 ⟨hword, rest, rfl⟩]
  dsimp only
  rw [hskip]

theorem angleWords_of_none {c : Char} (h : angleWord? (c :: cs) = none) : angleWords 0 (c :: cs) = angleWords 0 cs := by
  rw [angleWords, h]

theorem bracketed_cons {c : Char} (h : Bracketed word cs) : Bracketed word (c :: cs) := by
  obtain ⟨hword, before, after, rfl⟩ := h
  exact ⟨hword, c :: before, after, rfl⟩

/-- Where no word stands, it may be looked for behind the first character. -/
theorem bracketed_of_none {c : Char} (hnone : angleWord? (c :: cs) = none) (h : Bracketed word (c :: cs)) :
    Bracketed word cs := by
  obtain ⟨hword, before, after, hsplit⟩ := h
  cases before with
  | nil =>
    rw [angleWord_eq_some.2 ⟨hword, after, hsplit⟩] at hnone
    cases hnone
  | cons b before => exact ⟨hword, before, after, (List.cons.inj hsplit).2⟩

/-- Where a word stands, any other one stands behind it. -/
theorem bracketed_word {first rest : List Char} (hfirst : IsAngleWord first)
    (h : Bracketed word ('<' :: (first ++ '>' :: rest))) : word = first ∨ Bracketed word rest := by
  obtain ⟨hword, before, after, hsplit⟩ := h
  cases before with
  | nil =>
    have hfound := angleWord_eq_some.2 ⟨hword, after, hsplit⟩
    rw [angleWord_eq_some.2 ⟨hfirst, rest, rfl⟩] at hfound
    exact .inl (Option.some.inj hfound).symm
  | cons b before =>
    -- the bracket that opens the word stands neither in the first one nor where that is closed
    rcases List.append_eq_append_iff.1 (List.cons.inj hsplit).2 with ⟨past, -, hrest⟩ | ⟨past, hover, hopen⟩
    · cases past with
      | nil => cases hrest
      | cons d past => exact .inr ⟨hword, past, after, (List.cons.inj hrest).2⟩
    · cases past with
      | nil => cases hopen
      | cons d past =>
        refine absurd ?_ (opening_not_mem hfirst)
        rw [hover, ← (List.cons.inj hopen).1]
        exact List.mem_append_right _ List.mem_cons_self

/-- The scan misses no word, and it finds nothing else. -/
theorem mem_angleWords : ∀ {cs : List Char}, word ∈ angleWords 0 cs ↔ Bracketed word cs := by
  intro cs
  -- on the length, for the scan goes on behind the word that it has taken
  induction hn : cs.length using Nat.strong_induction_on generalizing cs with
  | _ n ih =>
    cases cs with
    | nil => exact iff_of_false (by simp [angleWords]) fun ⟨_, before, after, h⟩ => by simp at h
    | cons c cs =>
      cases hfirst : angleWord? (c :: cs) with
      | none =>
        rw [angleWords_of_none hfirst, ih _ (by simp [← hn]) rfl]
        exact ⟨bracketed_cons, bracketed_of_none hfirst⟩
      | some first =>
        obtain ⟨hword, rest, hsplit⟩ := angleWord_eq_some.1 hfirst
        have hshorter : rest.length < n := by
          rw [← hn, hsplit]
          simp
          omega
        rw [hsplit, angleWords_of_word hword, List.mem_cons, ih _ hshorter rfl]
        constructor
        · rintro (rfl | ⟨hother, before, after, rfl⟩)
          · exact ⟨hword, [], rest, rfl⟩
          · exact ⟨hother, '<' :: (first ++ '>' :: before), after, by simp⟩
        · exact bracketed_word hword

/-! ## Texts -/

theorem holds_iff {text pattern : String} : holds text pattern = true ↔ pattern.toList <:+: text.toList := by
  unfold holds
  induction text.toList with
  | nil => simp [occurs]
  | cons c cs ih => rw [occurs, Bool.or_eq_true, List.isPrefixOf_iff_prefix, ih, List.infix_cons_iff]

/-- A text stands for something that is to be filled in: it has a marker as a part, or a word in angle brackets that
is no markup tag in any case of its letters. -/
def Unfilled (text : String) : Prop :=
  (∃ marker ∈ markers, marker.toList <:+: text.toList) ∨
    ∃ word, Bracketed word text.toList ∧ lower (String.ofList word) ∉ markupTags

theorem isPlaceholder_iff {text : String} : isPlaceholder text = true ↔ Unfilled text := by
  simp [isPlaceholder, Unfilled, holds_iff, mem_angleWords]

/-! ## Values -/

/-- A text is reached in a value: it is the value, or it is reached in an item of a list or in the value of a member
or of an entry. -/
inductive Reached (text : String) : Value → Prop
  | self : Reached text (.text text)
  | item {items : List Value} {v : Value} : v ∈ items → Reached text v → Reached text (.list items)
  | member {members : Object} {m : String × Value} :
      m ∈ members → Reached text m.2 → Reached text (.object members)
  | entry {entries : List (Value × Value)} {e : Value × Value} :
      e ∈ entries → Reached text e.2 → Reached text (.table entries)

/-- A text that is to be filled in is reached in a value. -/
def Awaits (v : Value) : Prop := ∃ text, Reached text v ∧ Unfilled text

theorem awaits_text {s : String} : Awaits (.text s) ↔ Unfilled s := by
  constructor
  · rintro ⟨_, ⟨⟩, h⟩
    exact h
  · exact fun h => ⟨s, .self, h⟩

theorem awaits_list {items : List Value} : Awaits (.list items) ↔ ∃ v ∈ items, Awaits v := by
  constructor
  · rintro ⟨text, hreached, h⟩
    cases hreached with
    | item hmem hreached => exact ⟨_, hmem, text, hreached, h⟩
  · rintro ⟨v, hmem, text, hreached, h⟩
    exact ⟨text, .item hmem hreached, h⟩

theorem awaits_object {members : Object} : Awaits (.object members) ↔ ∃ m ∈ members, Awaits m.2 := by
  constructor
  · rintro ⟨text, hreached, h⟩
    cases hreached with
    | member hmem hreached => exact ⟨_, hmem, text, hreached, h⟩
  · rintro ⟨m, hmem, text, hreached, h⟩
    exact ⟨text, .member hmem hreached, h⟩

theorem awaits_table {entries : List (Value × Value)} : Awaits (.table entries) ↔ ∃ e ∈ entries, Awaits e.2 := by
  constructor
  · rintro ⟨text, hreached, h⟩
    cases hreached with
    | entry hmem hreached => exact ⟨_, hmem, text, hreached, h⟩
  · rintro ⟨e, hmem, text, hreached, h⟩
    exact ⟨text, .entry hmem hreached, h⟩

-- On the value, with one theorem for each of the four functions.
mutual

theorem holdsPlaceholder_iff : ∀ {v : Value}, holdsPlaceholder v = true ↔ Awaits v
  | .text s => by rw [holdsPlaceholder, isPlaceholder_iff, awaits_text]
  | .list items => by rw [holdsPlaceholder, itemsHoldPlaceholder_iff, awaits_list]
  | .object members => by rw [holdsPlaceholder, membersHoldPlaceholder_iff, awaits_object]
  | .table entries => by rw [holdsPlaceholder, entriesHoldPlaceholder_iff, awaits_table]
  | .null | .bool _ | .int _ | .float _ => by
    refine iff_of_false (by simp [holdsPlaceholder]) ?_
    rintro ⟨_, ⟨⟩, -⟩

theorem itemsHoldPlaceholder_iff {items : List Value} :
    itemsHoldPlaceholder items = true ↔ ∃ v ∈ items, Awaits v := by
  cases items with
  | nil => simp [itemsHoldPlaceholder]
  | cons v vs =>
    rw [itemsHoldPlaceholder, Bool.or_eq_true, holdsPlaceholder_iff, itemsHoldPlaceholder_iff, List.exists_mem_cons_iff]

theorem membersHoldPlaceholder_iff {members : List (String × Value)} :
    membersHoldPlaceholder members = true ↔ ∃ m ∈ members, Awaits m.2 := by
  cases members with
  | nil => simp [membersHoldPlaceholder]
  | cons m rest =>
    cases m
    rw [membersHoldPlaceholder, Bool.or_eq_true, holdsPlaceholder_iff, membersHoldPlaceholder_iff,
      List.exists_mem_cons_iff]

theorem entriesHoldPlaceholder_iff {entries : List (Value × Value)} :
    entriesHoldPlaceholder entries = true ↔ ∃ e ∈ entries, Awaits e.2 := by
  cases entries with
  | nil => simp [entriesHoldPlaceholder]
  | cons e rest =>
    cases e
    rw [entriesHoldPlaceholder, Bool.or_eq_true, holdsPlaceholder_iff, entriesHoldPlaceholder_iff,
      List.exists_mem_cons_iff]

end

/-- A value holds a placeholder exactly if a text that is to be filled in is reached in it; and a word that is no
markup tag is to be filled in whatever stands in front of its brackets and behind them, be it markup or not. -/
theorem placeholders_found :
    (∀ v, holdsPlaceholder v = true ↔ ∃ text, Reached text v ∧ Unfilled text) ∧
      ∀ before word after, IsAngleWord word → lower (String.ofList word) ∉ markupTags →
        isPlaceholder (String.ofList (before ++ '<' :: (word ++ '>' :: after))) = true := by
  refine ⟨fun v => holdsPlaceholder_iff, fun before word after hword htag => ?_⟩
  refine isPlaceholder_iff.2 (.inr ⟨word, ?_, htag⟩)
  exact ⟨hword, before, after, String.toList_ofList⟩

theorem token_between_tags :
    IsAngleWord "Sheet-Id".toList ∧ lower (String.ofList "Sheet-Id".toList) ∉ markupTags ∧
      isPlaceholder (String.ofList ("<p>a < b <b>".toList ++ '<' :: ("Sheet-Id".toList ++ '>' :: "</b></p>".toList))) =
        true := by
  have hword : IsAngleWord "Sheet-Id".toList := ⟨'S', "heet-Id".toList, by decide, by decide, by decide⟩
  have htag : lower (String.ofList "Sheet-Id".toList) ∉ markupTags := by decide +kernel
  exact ⟨hword, htag, placeholders_found.2 _ _ _ hword htag⟩

example : isPlaceholder "<p>Hello <b>there</b></p><br>" = false := by decide +kernel

end Workflows.Import
