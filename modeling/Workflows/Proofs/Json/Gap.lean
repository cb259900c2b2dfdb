/-
Values with a gap in one of their texts, in a string or in the name of a member. What fills the gap is written character
by character, between two texts that do not depend on it.
-/
import Workflows.Proofs.Json.Spelling

namespace Workflows.Json

/-! ## Escaped characters -/

/-- Characters as they stand between the quotes of a text. -/
def escape (cs : List Char) : List Char := cs.flatMap (writeChar true)

theorem escape_append (xs ys : List Char) : escape (xs ++ ys) = escape xs ++ escape ys := List.flatMap_append

theorem escape_cons (c : Char) (cs : List Char) : escape (c :: cs) = writeChar true c ++ escape cs := rfl

theorem mem_escape {c : Char} {cs : List Char} (h : c ∈ escape cs) : c ∈ cs ∨ c ∈ escapeChars := by
  obtain ⟨d, hd, hc⟩ := List.mem_flatMap.1 h
  rcases mem_writeChar hc with rfl | hc
  · exact .inl hd
  · exact .inr hc

/-- Printable ASCII is written as it is, but for quotes and backslashes. -/
theorem writeChar_eq_self_iff {c : Char} :
    writeChar true c = [c] ↔ (c ≠ '"' ∧ c ≠ '\\') ∧ 32 ≤ c.toNat ∧ c.toNat < 127 := by
  constructor
  · intro h
    have hletter : ∀ e, ['\\', e] ≠ [c] := fun e he => by cases he
    have hnumeric : numericEscape c ≠ [c] := fun hself => by
      obtain ⟨more, hmore, escape⟩ := escape_numeric c
      rw [hmore] at hself
      obtain rfl : more = [] := (List.cons.inj hself).2
      exact absurd escape.scan (by decide)
    unfold writeChar at h
    simp only [ite_eq_iff, hletter, hnumeric, and_false, false_or, Bool.true_and, decide_eq_true_eq, and_true] at h
    obtain ⟨hquote, hslash, -, -, -, -, -, hlow, hhigh⟩ := h
    exact ⟨⟨hquote, hslash⟩, by omega, by omega⟩
  · rintro ⟨⟨hquote, hslash⟩, hlow, hhigh⟩
    have hne : ∀ d : Char, d.toNat < 32 → c ≠ d := fun d hd hcd => by
      rw [hcd] at hlow
      omega
    rw [writeChar, if_neg hquote, if_neg hslash, if_neg (hne _ (by decide)), if_neg (hne _ (by decide)),
      if_neg (hne _ (by decide)), if_neg (hne _ (by decide)), if_neg (hne _ (by decide)), if_neg (by omega),
      if_neg (by simpa using hhigh)]

theorem length_le_escape (cs : List Char) : cs.length ≤ (escape cs).length := by
  induction cs with
  | nil => exact Nat.le_refl _
  | cons c cs ih =>
    obtain ⟨d, more, hmore⟩ := exists_writeChar c
    rw [escape_cons, hmore, List.cons_append, List.length_cons, List.length_cons, List.length_append]
    omega

theorem escape_eq_self_iff {cs : List Char} : escape cs = cs ↔ ∀ c ∈ cs, writeChar true c = [c] := by
  induction cs with
  | nil => exact iff_of_true rfl (List.forall_mem_nil _)
  | cons c cs ih =>
    rw [List.forall_mem_cons, escape_cons]
    constructor
    · intro h
      -- nothing is written shorter than it is
      obtain ⟨d, more, hmore⟩ := exists_writeChar c
      rw [hmore, List.cons_append] at h
      obtain ⟨rfl, hrest⟩ := List.cons.inj h
      have hlength := congrArg List.length hrest
      have hle := length_le_escape cs
      rw [List.length_append] at hlength
      obtain rfl : more = [] := List.length_eq_zero_iff.1 (by omega)
      exact ⟨hmore, ih.1 hrest⟩
    · rintro ⟨hc, hcs⟩
      rw [hc, ih.2 hcs, List.singleton_append]

/-- What is not written as it is is written with a backslash. -/
theorem backslash_of_escape_ne {cs : List Char} (h : escape cs ≠ cs) : '\\' ∈ escape cs := by
  induction cs with
  | nil => exact absurd rfl h
  | cons c cs ih =>
    rw [escape_cons] at h ⊢
    rcases writeChar_cases c with ⟨hself, -, -⟩ | ⟨-, hescaped⟩ | ⟨more, hmore, -⟩
    · rw [hself] at h ⊢
      exact List.mem_cons_of_mem c (ih fun hcs => h (congrArg (List.cons c) hcs))
    · rw [hescaped]
      exact List.mem_cons_self
    · rw [hmore]
      exact List.mem_cons_self

theorem writeText_ofList (cs : List Char) : writeText true (String.ofList cs) = '"' :: (escape cs ++ ['"']) := by
  rw [writeText, String.toList_ofList, List.cons_append]
  rfl

/-! ## Gaps -/

/-- A value with a gap in one of its texts: in a text itself, in an item, in a member or in the name of a member. -/
inductive Gap
  | text (left right : List Char)
  | item (before : List Value) (gap : Gap) (after : List Value)
  | member (before : Object) (key : String) (gap : Gap) (after : Object)
  | name (before : Object) (left right : List Char) (v : Value) (after : Object)

namespace Gap

/-- The value with the gap filled. -/
def fill : Gap → List Char → Value
  | text left right, cs => .text (String.ofList (left ++ (cs ++ right)))
  | item before gap after, cs => .list (before ++ gap.fill cs :: after)
  | member before key gap after, cs => .object (before ++ (key, gap.fill cs) :: after)
  | name before left right v after, cs => .object (before ++ (String.ofList (left ++ (cs ++ right)), v) :: after)

/-- A gap in a text that is no part of another value. -/
def IsBare : Gap → Prop
  | text _ _ => True
  | _ => False

/-- Items in front of another one, as they are written. -/
def itemsBefore (level : Nat) : List Value → List Char
  | [] => []
  | v :: vs => write .plain level v ++ ',' :: ' ' :: itemsBefore level vs

/-- Members in front of another one, as they are written. -/
def membersBefore (level : Nat) : Object → List Char
  | [] => []
  | (key, v) :: rest => writeText true key ++ ':' :: ' ' :: (write .plain level v ++ ',' :: ' ' :: membersBefore level rest)

/-- What is written in front of what fills a gap. -/
def leading (level : Nat) : Gap → List Char
  | text left _ => '"' :: escape left
  | item before gap _ => '[' :: (itemsBefore (level + 1) before ++ gap.leading (level + 1))
  | member before key gap _ =>
    '{' :: (membersBefore (level + 1) before ++ (writeText true key ++ ':' :: ' ' :: gap.leading (level + 1)))
  | name before left _ _ _ => '{' :: (membersBefore (level + 1) before ++ '"' :: escape left)

/-- What is written behind what fills a gap. -/
def trailing (level : Nat) : Gap → List Char
  | text _ right => escape right ++ ['"']
  | item _ gap after => gap.trailing (level + 1) ++ (writeItems .plain (level + 1) after ++ [']'])
  | member _ _ gap after => gap.trailing (level + 1) ++ (writeMembers .plain (level + 1) after ++ ['}'])
  | name _ _ right v after =>
    escape right ++ '"' :: ':' :: ' ' :: (write .plain (level + 1) v ++ (writeMembers .plain (level + 1) after ++ ['}']))

end Gap

/-! ## Writing -/

section

variable (level : Nat)

theorem write_item (before : List Value) (v : Value) (after : List Value) :
    write .plain level (.list (before ++ v :: after)) =
      '[' :: (Gap.itemsBefore (level + 1) before ++
        (write .plain (level + 1) v ++ (writeItems .plain (level + 1) after ++ [']']))) := by
  have hitems : ∀ before w, write .plain (level + 1) w ++ (writeItems .plain (level + 1) (before ++ v :: after) ++ [']']) =
      Gap.itemsBefore (level + 1) (w :: before) ++
        (write .plain (level + 1) v ++ (writeItems .plain (level + 1) after ++ [']'])) := by
    intro before
    induction before with
    | nil =>
      intro w
      rw [List.nil_append, writeItems_plain_cons]
      simp [Gap.itemsBefore]
    | cons x before ih =>
      intro w
      rw [List.cons_append, writeItems_plain_cons, ih x]
      simp [Gap.itemsBefore]
  cases before with
  | nil =>
    rw [List.nil_append, ← List.append_nil (write _ _ _), write_plain_list]
    rfl
  | cons w before =>
    rw [List.cons_append, ← List.append_nil (write _ _ _), write_plain_list, hitems before w]

theorem write_member (before : Object) (key : String) (v : Value) (after : Object) :
    write .plain level (.object (before ++ (key, v) :: after)) =
      '{' :: (Gap.membersBefore (level + 1) before ++ (writeText true key ++
        ':' :: ' ' :: (write .plain (level + 1) v ++ (writeMembers .plain (level + 1) after ++ ['}'])))) := by
  have hmembers : ∀ before name w, writeText true name ++
      ':' :: ' ' :: (write .plain (level + 1) w ++
        (writeMembers .plain (level + 1) (before ++ (key, v) :: after) ++ ['}'])) =
        Gap.membersBefore (level + 1) ((name, w) :: before) ++ (writeText true key ++
          ':' :: ' ' :: (write .plain (level + 1) v ++ (writeMembers .plain (level + 1) after ++ ['}']))) := by
    intro before
    induction before with
    | nil =>
      intro name w
      rw [List.nil_append, writeMembers_plain_cons]
      simp [Gap.membersBefore]
    | cons x before ih =>
      intro name w
      rw [List.cons_append, writeMembers_plain_cons, ih x.1 x.2]
      simp [Gap.membersBefore]
  cases before with
  | nil =>
    rw [List.nil_append, ← List.append_nil (write _ _ _), write_plain_object]
    rfl
  | cons w before =>
    rw [List.cons_append, ← List.append_nil (write _ _ _), write_plain_object, hmembers before w.1 w.2]

/-- A value with a gap is written around what fills the gap. -/
theorem write_fill (gap : Gap) (cs : List Char) :
    write .plain level (gap.fill cs) = gap.leading level ++ (escape cs ++ gap.trailing level) := by
  induction gap generalizing level with
  | text left right =>
    rw [Gap.fill, write, show Layout.plain.ascii = true from rfl, writeText_ofList, escape_append, escape_append]
    simp [Gap.leading, Gap.trailing]
  | item before gap after ih =>
    rw [Gap.fill, write_item, ih]
    simp [Gap.leading, Gap.trailing]
  | member before key gap after ih =>
    rw [Gap.fill, write_member, ih]
    simp [Gap.leading, Gap.trailing]
  | name before left right v after =>
    rw [Gap.fill, write_member, writeText_ofList, escape_append, escape_append]
    simp [Gap.leading, Gap.trailing]

end

namespace Gap

theorem toList_render_fill (gap : Gap) (cs : List Char) :
    (render .plain (gap.fill cs)).toList = gap.leading 0 ++ (escape cs ++ gap.trailing 0) := by
  rw [render, String.toList_ofList, write_fill]

variable {gap : Gap} (h : ¬ gap.IsBare)

include h

/-- A value with a gap inside of it is written from a bracket or a brace on. -/
theorem leading_of_not_bare (level : Nat) : ∃ c cs, gap.leading level = c :: cs ∧ (c = '[' ∨ c = '{') := by
  cases gap with
  | text left right => exact absurd trivial h
  | item before gap after => exact ⟨_, _, rfl, .inl rfl⟩
  | member before key gap after => exact ⟨_, _, rfl, .inr rfl⟩
  | name before left right v after => exact ⟨_, _, rfl, .inr rfl⟩

theorem render_fill_ne (cs : List Char) : render .plain (gap.fill cs) ≠ "" := by
  obtain ⟨c, more, hleading, -⟩ := leading_of_not_bare h 0
  intro hempty
  have hnil := gap.toList_render_fill cs
  rw [hempty, hleading] at hnil
  cases hnil

/-- Such a value is no text, and it counts as true. -/
theorem fill_of_not_bare (cs : List Char) : (∀ s, gap.fill cs ≠ .text s) ∧ (gap.fill cs).isTrue = true := by
  cases gap with
  | text left right => exact absurd trivial h
  | _ => simp [fill, Value.isTrue]

end Gap

end Workflows.Json
