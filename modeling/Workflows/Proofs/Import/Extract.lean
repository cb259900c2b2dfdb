/-
An export that is found again in the text around it. In a fenced block it is found exactly if none of its texts holds
a fence, and in plain text exactly if its name is written before its nodes.
-/
import Workflows.Import.Extract
import Workflows.Proofs.Json.Spelling

namespace Workflows.Import

open Workflows.Json Workflows.Text

/-- What marks the beginning of a fenced block of JSON. -/
def blockMark : List Char := fence ++ "json".toList

/-- A text with a fenced block of JSON in it. -/
def withBlock (before written after : String) : String :=
  before ++ String.ofList blockMark ++ "\n" ++ written ++ "\n" ++ String.ofList fence ++ after

/-- A text has no braces and no fence. -/
structure Bare (text : String) : Prop where
  opening : '{' ∉ text.toList
  closing : '}' ∉ text.toList
  fence : ¬ fence <:+: text.toList

section

variable {J : Object} (hexact : isExact (.object J) = true)

/-! ## The writing of an object -/

theorem write_object (J : Object) : ∃ middle, write .plain 0 (.object J) = '{' :: (middle ++ ['}']) := by
  cases J with
  | nil => exact ⟨[], rfl⟩
  | cons member members =>
    obtain ⟨key, v⟩ := member
    have h := write_plain_object 0 [] key v members
    rw [List.append_nil] at h
    refine ⟨writeText true key ++ ':' :: ' ' :: (write .plain 1 v ++ writeMembers .plain 1 members), ?_⟩
    rw [h]
    simp

include hexact

/-- A fence stands in the writing of an object exactly if it stands in one of its texts. -/
theorem fence_infix_write :
    fence <:+: write .plain 0 (.object J) ↔ ∃ s ∈ texts (.object J), fence <:+: s.toList :=
  (spells_render hexact).accents_infix_iff

theorem fence_infix_between :
    fence <:+: '\n' :: (write .plain 0 (.object J) ++ ['\n']) ↔ ∃ s ∈ texts (.object J), fence <:+: s.toList := by
  have hbreak : Spells ['\n'] [] := .plain (by decide)
  have hspells := (spells_write (.object J) 0 hexact (parted_cons (by decide) []) hbreak).cons (c := '\n') (by decide)
  rw [List.append_nil] at hspells
  exact hspells.accents_infix_iff

theorem read_written : read (String.ofList (write .plain 0 (.object J))) = .ok (.object J) :=
  read_render Layout.readable_plain hexact

/-! ## Fenced blocks -/

omit hexact in
theorem splitFirst_blockMark {before : List Char} (h : ¬ blockMark <:+: before) (rest : List Char) :
    splitFirst? blockMark (before ++ (blockMark ++ rest)) = some (before, rest) := by
  -- no end of the mark is a beginning of it, as only its end is an n
  have hends : ∀ w ∈ blockMark.tails, w ≠ [] → w ≠ blockMark → ¬ w <+: blockMark := by decide
  refine splitFirst_of_apart h (fun v w _ hv hw hmark => hends w ?_ hw fun heq => hv ?_) rest
  · exact (List.mem_tails _ _).2 ⟨v, hmark⟩
  · rw [heq] at hmark
    exact List.append_left_eq_self.1 hmark

omit hexact in
theorem plain_of_isBlank {c : Char} (h : isBlank c = true) : Plain c := by
  constructor <;> rintro rfl <;> exact absurd h (by decide)

/-- What is cut off in front of a fence in an object ends inside of a text, and is not read. -/
theorem read_cut {p q : List Char} (hcut : write .plain 0 (.object J) = p ++ (fence ++ q)) (v : Value) :
    read (String.ofList (trimChars ('\n' :: p))) ≠ .ok v := by
  intro hread
  have hclosed := scan_of_read hread
  rw [String.toList_ofList] at hclosed
  have hinside : scan .outside p = some .inside := by
    have hscan : scan .outside (p ++ graveAccent :: (accents 2 ++ q)) ≠ none := by
      rw [show p ++ graveAccent :: (accents 2 ++ q) = write .plain 0 (.object J) from hcut.symm,
        (spells_render hexact).scan]
      exact Option.some_ne_none _
    exact inside_of_graveAccent hscan
  -- the blanks at its ends make no difference
  have htrim : trimChars ('\n' :: p) = trimEndWith isBlank p := by
    obtain ⟨middle, hmiddle⟩ := write_object J
    rw [hcut] at hmiddle
    cases p with
    | nil => exact absurd (List.cons.inj hmiddle).1 (by decide)
    | cons c p =>
      have hc : c = '{' := (List.cons.inj hmiddle).1
      rw [trimChars, trimWith, List.dropWhile_cons_of_pos (by decide), hc, List.dropWhile_cons_of_neg (by decide)]
  obtain ⟨blanks, hp, hblanks⟩ := trimEndWith_append isBlank p
  rw [htrim] at hclosed
  rw [hp, scan_of_scan hclosed, scan_plain fun c hc => plain_of_isBlank (hblanks c hc)] at hinside
  cases hinside

omit hexact in
/-- The candidate in a text with a fenced block is what stands in the block up to the first fence. -/
theorem candidate_withBlock {before : String} (hbefore : ¬ blockMark <:+: before.toList) (written after : String)
    {block rest : List Char}
    (h : splitFirst? fence ('\n' :: (written.toList ++ '\n' :: (fence ++ after.toList))) = some (block, rest)) :
    candidate? (withBlock before written after) = some (trimChars block) := by
  have htext : (withBlock before written after).toList =
      before.toList ++ (blockMark ++ '\n' :: (written.toList ++ '\n' :: (fence ++ after.toList))) := by
    simp [withBlock]
  have hmark := splitFirst_blockMark hbefore ('\n' :: (written.toList ++ '\n' :: (fence ++ after.toList)))
  rw [blockMark] at hmark htext
  simp only [candidate?, htext, fencedBlock?, Option.bind_eq_bind, hmark, h, Option.bind_some, Option.pure_def,
    Option.some_or]

/-- The block of an object without a fence is all of the object. -/
theorem splitFirst_whole (hfence : ∀ s ∈ texts (.object J), ¬ fence <:+: s.toList) (after : List Char) :
    splitFirst? fence ('\n' :: (write .plain 0 (.object J) ++ '\n' :: (fence ++ after))) =
      some ('\n' :: (write .plain 0 (.object J) ++ ['\n']), after) := by
  have hnone : ¬ fence <:+: '\n' :: (write .plain 0 (.object J) ++ ['\n']) := fun h => by
    obtain ⟨s, hs, hin⟩ := (fence_infix_between hexact).1 h
    exact hfence s hs hin
  have hsplit := splitFirst_of_apart hnone (fun v w hv hne _ hmark _ => ?_) after
  · simpa using hsplit
  · -- every end of the block has the line break, which is not in a fence
    have hlast : v.getLast hne = '\n' := by
      rw [hv.getLast hne]
      simp
    have hmem : '\n' ∈ fence := by
      rw [← hmark, ← hlast]
      exact List.mem_append_left _ (List.getLast_mem hne)
    exact absurd hmem (by decide)

omit hexact in
theorem trimChars_whole (J : Object) :
    trimChars ('\n' :: (write .plain 0 (.object J) ++ ['\n'])) = write .plain 0 (.object J) := by
  obtain ⟨middle, hmiddle⟩ := write_object J
  have hbreak : ∀ c ∈ ['\n'], isBlank c = true := List.forall_mem_singleton.2 (by decide)
  have hbraces : isBlank '{' = false ∧ isBlank '}' = false := by decide
  refine trimChars_append hbreak hbreak ?_ ?_ hbraces
  · rw [hmiddle]
    rfl
  · rw [hmiddle, List.getLast?_cons, List.getLast?_concat]
    rfl

/-- The block of an object with a fence is cut off in front of it. -/
theorem exists_cut (hfence : ∃ s ∈ texts (.object J), fence <:+: s.toList) (rest : List Char) :
    ∃ p q, write .plain 0 (.object J) = p ++ (fence ++ q) ∧
      splitFirst? fence ('\n' :: (write .plain 0 (.object J) ++ rest)) = some ('\n' :: p, q ++ rest) := by
  have hin := (fence_infix_write hexact).2 hfence
  cases hsplit : splitFirst? fence (write .plain 0 (.object J)) with
  | none => exact absurd hin (splitFirst_eq_none_iff.1 hsplit)
  | some parts =>
    obtain ⟨p, q⟩ := parts
    refine ⟨p, q, splitFirst_eq_some hsplit, ?_⟩
    refine (splitFirst_cons (by decide : '\n' ≠ graveAccent) (accents 2) _).trans ?_
    rw [show graveAccent :: accents 2 = fence from rfl, splitFirst_append hsplit]
    rfl

/-- An object in a fenced block is found exactly if it has no fence. -/
theorem extract_withBlock {before : String} (hbefore : ¬ blockMark <:+: before.toList) (after : String) :
    extract (withBlock before (render .plain (.object J)) after) = (.ok (some J), []) ↔
      ∀ s ∈ texts (.object J), ¬ fence <:+: s.toList := by
  by_cases hfence : ∀ s ∈ texts (.object J), ¬ fence <:+: s.toList
  · refine iff_of_true ?_ hfence
    have hcandidate := candidate_withBlock hbefore (render .plain (.object J)) after
      (by simpa [render] using splitFirst_whole hexact hfence after.toList)
    rw [trimChars_whole] at hcandidate
    simp only [extract, hcandidate, read_written hexact]
    rfl
  · refine iff_of_false (fun h => ?_) hfence
    push Not at hfence
    obtain ⟨p, q, hcut, hsplit⟩ := exists_cut hexact hfence ('\n' :: (fence ++ after.toList))
    have hcandidate := candidate_withBlock hbefore (render .plain (.object J)) after
      (by simpa [render] using hsplit)
    simp only [extract, hcandidate] at h
    split at h
    · next v hread => exact read_cut hexact hcut v hread
    · cases h  -- too many digits are a fault
    · cases h  -- and any other mistake leaves a warning

/-! ## Objects in plain text -/

/-- There is no fenced block where neither the object nor the text around it has a fence. -/
theorem fencedBlock_bare {before after : String} (hbefore : Bare before) (hafter : Bare after)
    (hfence : ∀ s ∈ texts (.object J), ¬ fence <:+: s.toList) :
    fencedBlock? (before.toList ++ (write .plain 0 (.object J) ++ after.toList)) = none := by
  have hnone : ¬ fence <:+: before.toList ++ (write .plain 0 (.object J) ++ after.toList) := by
    obtain ⟨middle, hmiddle⟩ := write_object J
    intro h
    rw [hmiddle, List.cons_append, List.append_assoc] at h
    rcases infix_of_not_mem (by decide) h with h | h
    · exact hbefore.fence h
    rcases infix_of_not_mem (by decide) h with h | h
    · have hwhole : fence <:+: write .plain 0 (.object J) := by
        rw [hmiddle]
        exact h.trans ⟨['{'], ['}'], by simp⟩
      obtain ⟨s, hs, hin⟩ := (fence_infix_write hexact).1 hwhole
      exact hfence s hs hin
    · exact hafter.fence h
  have hmark : splitFirst? blockMark (before.toList ++ (write .plain 0 (.object J) ++ after.toList)) = none :=
    splitFirst_eq_none_iff.2 fun h => hnone ((List.prefix_append fence "json".toList).isInfix.trans h)
  rw [blockMark] at hmark
  simp only [fencedBlock?, Option.bind_eq_bind, hmark, Option.bind_none]

omit hexact in
/-- What stands in front of the last closing brace is in front of a closing brace. -/
theorem infix_iff_before_brace {w middle after : List Char} (hafter : '}' ∉ after) :
    (∃ x z, middle ++ '}' :: after = x ++ (w ++ z) ∧ '}' ∈ z) ↔ w <:+: middle := by
  constructor
  · rintro ⟨x, z, h, hz⟩
    rw [← List.append_assoc] at h
    rcases List.append_eq_append_iff.1 h with ⟨more, hw, hmore⟩ | ⟨more, hmiddle, -⟩
    · -- what is behind the brace would hold another one
      cases more with
      | nil => exact ⟨x, [], by rw [hw]; simp⟩
      | cons d more =>
        refine absurd ?_ hafter
        rw [(List.cons.inj hmore).2]
        exact List.mem_append_right _ hz
    · exact ⟨x, more, hmiddle.symm⟩
  · rintro ⟨x, z, rfl⟩
    exact ⟨x, z ++ '}' :: after, by simp, by simp⟩

omit hexact in
/-- What is found between braces, and neither begins nor ends with them, is found without them. -/
theorem infix_braces_iff {w middle : List Char} (hhead : w.head? ≠ some '{') (hlast : w.getLast? ≠ some '}') :
    w <:+: '{' :: (middle ++ ['}']) ↔ w <:+: middle := by
  constructor
  · intro h
    rcases List.infix_cons_iff.1 h with h | h
    · rcases List.prefix_cons_iff.1 h with rfl | ⟨t, rfl, -⟩
      · exact List.nil_infix
      · exact absurd rfl hhead
    · rcases List.infix_concat_iff.1 h with h | h
      · rcases List.suffix_concat_iff.1 h with rfl | ⟨t, rfl, -⟩
        · exact List.nil_infix
        · exact absurd List.getLast?_concat hlast
      · exact h
  · exact fun h => h.trans ⟨['{'], ['}'], by simp⟩

omit hexact in
/-- What is taken from an object on is the object, if it is taken. -/
theorem upToLastBrace_object (J : Object) {after : List Char} (hafter : '}' ∉ after) :
    upToLastBrace (write .plain 0 (.object J) ++ after) = write .plain 0 (.object J) := by
  obtain ⟨middle, hmiddle⟩ := write_object J
  have hskip : ∀ c ∈ after.reverse, (c != '}') = true := fun c hc => by
    simpa using fun h : c = '}' => hafter (h ▸ List.mem_reverse.1 hc)
  rw [upToLastBrace, List.reverse_append, List.dropWhile_append_of_pos hskip, hmiddle]
  simp

omit hexact in
/-- From an object on everything is taken that stands from its brace to its brace, if it has a name in quotes and
nodes in quotes behind that. What follows the object has no brace, so that it cannot have the nodes. -/
theorem bracedPart_iff {before after c : List Char} (hbefore : '{' ∉ before) (hafter : '}' ∉ after) :
    bracedPart? (before ++ (write .plain 0 (.object J) ++ after)) = some c ↔ c = write .plain 0 (.object J) ∧
      ∃ between, inQuotes "name".toList ++ (between ++ inQuotes "nodes".toList) <:+: write .plain 0 (.object J) := by
  obtain ⟨middle, hmiddle⟩ := write_object J
  have hskip : ∀ c ∈ before, (c != '{') = true := fun c hc => by
    simpa using fun h : c = '{' => hbefore (h ▸ hc)
  have hstart : (before ++ (write .plain 0 (.object J) ++ after)).dropWhile (· != '{') =
      write .plain 0 (.object J) ++ after := by
    rw [List.dropWhile_append_of_pos hskip, hmiddle, List.cons_append, List.dropWhile_cons_of_neg (by decide)]
  have htail : (write .plain 0 (.object J) ++ after).drop 1 = middle ++ '}' :: after := by
    rw [hmiddle]
    simp
  have hwords : (∃ x y z, middle ++ '}' :: after =
        x ++ (inQuotes "name".toList ++ (y ++ (inQuotes "nodes".toList ++ z))) ∧ '}' ∈ z) ↔
      ∃ between, inQuotes "name".toList ++ (between ++ inQuotes "nodes".toList) <:+: '{' :: (middle ++ ['}']) := by
    rw [exists_comm]
    refine exists_congr fun between => ?_
    have hlast : (inQuotes "name".toList ++ (between ++ inQuotes "nodes".toList)).getLast? = some '"' := by
      rw [List.getLast?_append, List.getLast?_append, show (inQuotes "nodes".toList).getLast? = some '"' by decide]
      rfl
    rw [infix_braces_iff (by simp [inQuotes]) (by rw [hlast]; decide), ← infix_iff_before_brace hafter]
    simp only [List.append_assoc]
  have hname : "\"name\"".toList = inQuotes "name".toList := by decide
  have hnodes : "\"nodes\"".toList = inQuotes "nodes".toList := by decide
  rw [hmiddle, ← hwords, ← splitFirst_inOrder_iff, ← hmiddle]
  simp only [bracedPart?, hstart, htail, hname, hnodes, Option.bind_eq_bind, Option.bind_eq_some_iff, Prod.exists,
    upToLastBrace_object J hafter, List.contains_iff_mem, Option.pure_def, Option.ite_none_right_eq_some,
    Option.some.injEq]
  simp only [← and_assoc, exists_and_right]
  rw [and_comm, eq_comm (a := c)]

/-- An object in plain text is found exactly if its texts name it before they name its nodes. -/
theorem extract_between {before after : String} (hbefore : Bare before) (hafter : Bare after)
    (hfence : ∀ s ∈ texts (.object J), ¬ fence <:+: s.toList) :
    extract (before ++ render .plain (.object J) ++ after) = (.ok (some J), []) ↔
      InOrder "name".toList "nodes".toList (texts (.object J)) := by
  have htext : (before ++ render .plain (.object J) ++ after).toList =
      before.toList ++ (write .plain 0 (.object J) ++ after.toList) := by
    simp [render]
  have hcandidate : ∀ c, candidate? (before ++ render .plain (.object J) ++ after) = some c ↔
      c = write .plain 0 (.object J) ∧ InOrder "name".toList "nodes".toList (texts (.object J)) := fun c => by
    rw [candidate?, htext, fencedBlock_bare hexact hbefore hafter hfence, Option.none_or,
      bracedPart_iff hbefore.opening hafter.closing,
      (spells_render hexact).inOrder_iff (List.all_eq_true.1 (by decide)) (List.all_eq_true.1 (by decide)) (by decide)]
  constructor
  · intro h
    unfold extract at h
    split at h
    · cases h
    · next c hc => exact ((hcandidate c).1 hc).2
  · intro h
    simp only [extract, (hcandidate _).2 ⟨rfl, h⟩, read_written hexact]
    rfl

end

theorem textsOfMembers_append (members more : List (String × Value)) :
    textsOfMembers (members ++ more) = textsOfMembers members ++ textsOfMembers more := by
  induction members with
  | nil => rfl
  | cons member members ih =>
    rw [List.cons_append, textsOfMembers, textsOfMembers, ih, List.cons_append, List.append_assoc]

/-- An object whose name is in front of its nodes is found. -/
theorem inOrder_of_members {J before between after : Object} {name nodes : Value}
    (h : J = before ++ ("name", name) :: (between ++ ("nodes", nodes) :: after)) :
    InOrder "name".toList "nodes".toList (texts (.object J)) := by
  rw [texts, h, textsOfMembers_append, textsOfMembers, textsOfMembers_append, textsOfMembers]
  exact ⟨textsOfMembers before, "name", texts name ++ textsOfMembers between, "nodes", texts nodes ++ textsOfMembers after,
    by simp, .inl rfl, .inl rfl⟩

/-- An object is found in a fenced block exactly if none of its texts holds a fence. Where there are no fences and no
braces around it, it is found in plain text exactly if its texts name it before they name its nodes, as they do if its
name is in front of its nodes. -/
theorem embedded_export_found {J : Object} (hexact : isExact (.object J) = true) :
    (∀ before after : String, ¬ blockMark <:+: before.toList →
      (extract (withBlock before (render .plain (.object J)) after) = (.ok (some J), []) ↔
        ∀ s ∈ texts (.object J), ¬ fence <:+: s.toList)) ∧
      (∀ before after : String, Bare before → Bare after → (∀ s ∈ texts (.object J), ¬ fence <:+: s.toList) →
        (extract (before ++ render .plain (.object J) ++ after) = (.ok (some J), []) ↔
          InOrder "name".toList "nodes".toList (texts (.object J)))) ∧
      ∀ before between after name nodes, J = before ++ ("name", name) :: (between ++ ("nodes", nodes) :: after) →
        InOrder "name".toList "nodes".toList (texts (.object J)) :=
  ⟨fun _ after hbefore => extract_withBlock hexact hbefore after,
    fun _ _ hbefore hafter hfence => extract_between hexact hbefore hafter hfence,
    fun _ _ _ _ _ h => inOrder_of_members h⟩

/-- An export whose texts hold braces, quotes and a mark of two grave accents. -/
def chattyExport : Object :=
  [("id", .int 7), ("name", .text "Greeting"), ("nodes", .list [.object [("name", .text "say \"hi\" to \x7bname\x7d")]]),
    ("note", .text (String.ofList (accents 2)))]

theorem chatty_export_found :
    extract (withBlock "Here it is:\n" (render .plain (.object chattyExport)) "\nEnjoy!") = (.ok (some chattyExport), []) ∧
      extract ("Here it is: " ++ render .plain (.object chattyExport) ++ " Enjoy!") = (.ok (some chattyExport), []) := by
  have hexact : isExact (.object chattyExport) = true := by decide +kernel
  have hfence : ∀ s ∈ texts (.object chattyExport), ¬ fence <:+: s.toList := by decide +kernel
  obtain ⟨hblock, hplain, horder⟩ := embedded_export_found hexact
  exact ⟨(hblock _ _ (by decide +kernel)).2 hfence,
    (hplain _ _ ⟨by decide, by decide, by decide +kernel⟩ ⟨by decide, by decide, by decide +kernel⟩ hfence).2
      (horder [("id", .int 7)] [] _ _ _ rfl)⟩

/-- An export with a fence in a text. -/
def fencedNote : Object := [("name", .text "n"), ("nodes", .list []), ("note", .text (String.ofList fence))]

/-- An export with its nodes in front of its name. -/
def nodesFirst : Object := [("nodes", .list []), ("name", .text "n")]

/-- The first export is cut off at the fence in its text; in the second no nodes are found behind the name. -/
theorem fencedNote_nodesFirst_not_found :
    extract (withBlock "" (render .plain (.object fencedNote)) "") =
        (.ok none, [⟨.warning, "Failed to parse workflow JSON: Unterminated string starting at: line 1 column 36 (char 35)"⟩]) ∧
      extract ("" ++ render .plain (.object nodesFirst) ++ "") = (.ok none, []) ∧
      (¬ ∀ (J : Object) (before after : String), isExact (.object J) = true → J.has "name" = true → J.has "nodes" = true →
        ¬ blockMark <:+: before.toList →
          extract (withBlock before (render .plain (.object J)) after) = (.ok (some J), [])) ∧
      ¬ ∀ (J : Object) (before after : String), isExact (.object J) = true → J.has "name" = true → J.has "nodes" = true →
        Bare before → Bare after → (∀ s ∈ texts (.object J), ¬ fence <:+: s.toList) →
          extract (before ++ render .plain (.object J) ++ after) = (.ok (some J), []) := by
  have hblock : extract (withBlock "" (render .plain (.object fencedNote)) "") = (.ok none,
      [⟨.warning, "Failed to parse workflow JSON: Unterminated string starting at: line 1 column 36 (char 35)"⟩]) := by
    decide +kernel
  have hplain : extract ("" ++ render .plain (.object nodesFirst) ++ "") = (.ok none, []) := by decide +kernel
  have hbare : Bare "" := ⟨by decide, by decide, by decide⟩
  refine ⟨hblock, hplain, fun h => ?_, fun h => ?_⟩
  · have hfound := h fencedNote "" "" (by decide +kernel) (by decide) (by decide) (by decide)
    rw [hblock] at hfound
    cases hfound
  · have hfound := h nodesFirst "" "" (by decide +kernel) (by decide) (by decide) hbare hbare (by decide +kernel)
    rw [hplain] at hfound
    cases hfound

end Workflows.Import
