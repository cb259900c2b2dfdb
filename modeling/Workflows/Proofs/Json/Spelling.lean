/-
How a value is spelled in JSON: its texts in quotes, one after another, with marks between them that are no letters.
So what is looked for in the writing of a value is found in its texts.
-/
import Workflows.Proofs.Json.RoundTrip
import Workflows.Proofs.Json.Scan
import Workflows.Proofs.Text.Search

namespace Workflows.Json

open Workflows.Text

/-! ## The texts of a value -/

mutual

/-- The texts of a value without tables, as they are written: names of members before their values. -/
def texts : Value → List String
  | .text s => [s]
  | .list items => textsOfItems items
  | .object members => textsOfMembers members
  | _ => []

def textsOfItems : List Value → List String
  | [] => []
  | v :: vs => texts v ++ textsOfItems vs

def textsOfMembers : List (String × Value) → List String
  | [] => []
  | (key, v) :: rest => key :: (texts v ++ textsOfMembers rest)

end

/-- A text does not go on with a letter. -/
def Parted (cs : List Char) : Prop := ∀ c ∈ cs.head?, c.isAlpha = false

/-- Some characters are texts in quotes with plain characters around them. -/
inductive Spells : List Char → List String → Prop
  | plain {cs : List Char} : (∀ c ∈ cs, Plain c) → Spells cs []
  | text {gap cs : List Char} {s : String} {ts : List String} : (∀ c ∈ gap, Plain c) → Parted cs → Spells cs ts →
      Spells (gap ++ (writeText true s ++ cs)) (s :: ts)

namespace Spells

variable {gap cs : List Char} {ts : List String}

theorem append (h : ∀ c ∈ gap, Plain c) (spells : Spells cs ts) : Spells (gap ++ cs) ts := by
  cases spells with
  | plain hcs => exact .plain (List.forall_mem_append.2 ⟨h, hcs⟩)
  | text hgap hparted hrest =>
    rw [← List.append_assoc]
    exact .text (List.forall_mem_append.2 ⟨h, hgap⟩) hparted hrest

theorem cons {c : Char} (h : Plain c) (spells : Spells cs ts) : Spells (c :: cs) ts :=
  spells.append (List.forall_mem_singleton.2 h)

theorem quoted (s : String) (hparted : Parted cs) (spells : Spells cs ts) : Spells (writeText true s ++ cs) (s :: ts) :=
  .text (List.forall_mem_nil _) hparted spells

end Spells

theorem parted_cons {c : Char} (h : c.isAlpha = false) (cs : List Char) : Parted (c :: cs) := by
  simpa [Parted] using h

theorem plain_writeInt (n : Int) : ∀ c ∈ writeInt n, Plain c := by
  have hdigits : ∀ k, ∀ c ∈ Nat.toDigits 10 k, Plain c := fun k c hc =>
    plain_of_isDigit (Nat.isDigit_of_mem_toDigits (by decide) (by decide) hc)
  cases n with
  | ofNat k => exact hdigits k
  | negSucc k => exact List.forall_mem_cons.2 ⟨by decide, hdigits (k + 1)⟩

section

variable (level : Nat) (cs : List Char)

theorem lineBreak_plain : Layout.plain.lineBreak level = [] := rfl

theorem write_plain_list (v : Value) (vs : List Value) :
    write .plain level (.list (v :: vs)) ++ cs =
      '[' :: (write .plain (level + 1) v ++ (writeItems .plain (level + 1) vs ++ ']' :: cs)) := by
  rw [write, lineBreak_plain, lineBreak_plain]
  simp only [List.append_assoc, List.cons_append, List.nil_append]

theorem writeItems_plain_cons (v : Value) (vs : List Value) :
    writeItems .plain level (v :: vs) ++ cs =
      ',' :: ' ' :: (write .plain level v ++ (writeItems .plain level vs ++ cs)) := by
  rw [writeItems, lineBreak_plain, show Layout.plain.itemSeparator = [',', ' '] from rfl]
  simp only [List.append_assoc, List.cons_append, List.nil_append]

theorem write_plain_object (key : String) (v : Value) (members : List (String × Value)) :
    write .plain level (.object ((key, v) :: members)) ++ cs =
      '{' :: (writeText true key ++
        ':' :: ' ' :: (write .plain (level + 1) v ++ (writeMembers .plain (level + 1) members ++ '}' :: cs))) := by
  rw [write, lineBreak_plain, lineBreak_plain, show Layout.plain.keySeparator = [':', ' '] from rfl,
    show Layout.plain.ascii = true from rfl]
  simp only [List.append_assoc, List.cons_append, List.nil_append]

theorem writeMembers_plain_cons (key : String) (v : Value) (members : List (String × Value)) :
    writeMembers .plain level ((key, v) :: members) ++ cs =
      ',' :: ' ' :: (writeText true key ++
        ':' :: ' ' :: (write .plain level v ++ (writeMembers .plain level members ++ cs))) := by
  rw [writeMembers, lineBreak_plain, show Layout.plain.itemSeparator = [',', ' '] from rfl,
    show Layout.plain.keySeparator = [':', ' '] from rfl, show Layout.plain.ascii = true from rfl]
  simp only [List.append_assoc, List.cons_append, List.nil_append]

variable {level cs}

theorem parted_writeItems (vs : List Value) : Parted (writeItems .plain level vs ++ ']' :: cs) := by
  cases vs <;> exact parted_cons (by decide) _

theorem parted_writeMembers (members : List (String × Value)) :
    Parted (writeMembers .plain level members ++ '}' :: cs) := by
  cases members with
  | nil => exact parted_cons (by decide) _
  | cons member rest => exact parted_cons (c := ',') (by decide) _

-- Along the writer, with what follows in hand: a text in front of it must see that no letter does.
mutual

/-- An exact value is spelled by its texts, whatever follows that is no letter. -/
theorem spells_write : ∀ (v : Value) (level : Nat) {cs : List Char} {ts : List String}, isExact v = true → Parted cs →
    Spells cs ts → Spells (write .plain level v ++ cs) (texts v ++ ts)
  | .null, _, _, _, _, _, spells => by
    rw [write]
    exact spells.append (by decide)
  | .bool true, _, _, _, _, _, spells => by
    rw [write]
    exact spells.append (by decide)
  | .bool false, _, _, _, _, _, spells => by
    rw [write]
    exact spells.append (by decide)
  | .int n, _, _, _, _, _, spells => by
    rw [write]
    exact spells.append (plain_writeInt n)
  | .text s, _, _, _, _, hparted, spells => by
    rw [write]
    exact spells.quoted s hparted
  | .list [], _, _, _, _, _, spells => by
    rw [write]
    exact spells.append (by decide)
  | .list (v :: vs), level, cs, ts, h, _, spells => by
    simp only [isExact, exactItems, Bool.and_eq_true] at h
    have hitems := spells_writeItems vs (level + 1) h.2 (spells.cons (c := ']') (by decide))
    have hfirst := spells_write v (level + 1) h.1 (parted_writeItems vs) hitems
    rw [write_plain_list, texts, textsOfItems, List.append_assoc]
    exact hfirst.cons (by decide)
  | .object [], _, _, _, _, _, spells => by
    rw [write]
    exact spells.append (by decide)
  | .object ((key, v) :: rest), level, cs, ts, h, _, spells => by
    simp only [isExact, exactMembers, Bool.and_eq_true] at h
    have hrest := spells_writeMembers rest (level + 1) h.2 (spells.cons (c := '}') (by decide))
    have hfirst := spells_write v (level + 1) h.1.2 (parted_writeMembers rest) hrest
    have hvalue := (hfirst.cons (c := ' ') (by decide)).cons (c := ':') (by decide)
    have hmember := Spells.quoted key (parted_cons (by decide) _) hvalue
    rw [write_plain_object, texts, textsOfMembers, List.cons_append, List.append_assoc]
    exact hmember.cons (by decide)
  | .float _, _, _, _, h, _, _ => by simp [isExact] at h
  | .table _, _, _, _, h, _, _ => by simp [isExact] at h

theorem spells_writeItems : ∀ (vs : List Value) (level : Nat) {cs : List Char} {ts : List String}, exactItems vs = true →
    Spells (']' :: cs) ts → Spells (writeItems .plain level vs ++ ']' :: cs) (textsOfItems vs ++ ts)
  | [], _, _, _, _, spells => spells
  | v :: vs, level, cs, ts, h, spells => by
    rw [exactItems, Bool.and_eq_true] at h
    have hrest := spells_writeItems vs level h.2 spells
    have hfirst := spells_write v level h.1 (parted_writeItems vs) hrest
    rw [writeItems_plain_cons, textsOfItems, List.append_assoc]
    exact (hfirst.cons (c := ' ') (by decide)).cons (by decide)

theorem spells_writeMembers : ∀ (members : List (String × Value)) (level : Nat) {cs : List Char} {ts : List String},
    exactMembers members = true → Spells ('}' :: cs) ts →
    Spells (writeMembers .plain level members ++ '}' :: cs) (textsOfMembers members ++ ts)
  | [], _, _, _, _, spells => spells
  | (key, v) :: rest, level, cs, ts, h, spells => by
    simp only [exactMembers, Bool.and_eq_true] at h
    have hrest := spells_writeMembers rest level h.2 spells
    have hfirst := spells_write v level h.1.2 (parted_writeMembers rest) hrest
    have hvalue := (hfirst.cons (c := ' ') (by decide)).cons (c := ':') (by decide)
    have hmember := Spells.quoted key (parted_cons (by decide) _) hvalue
    rw [writeMembers_plain_cons, textsOfMembers, List.cons_append, List.append_assoc]
    exact (hmember.cons (c := ' ') (by decide)).cons (by decide)

end

end

/-- An exact value is spelled by its texts. -/
theorem spells_render {v : Value} (h : isExact v = true) : Spells (write .plain 0 v) (texts v) := by
  have hwhole := spells_write v 0 h (by simp [Parted]) (.plain (List.forall_mem_nil _))
  rwa [List.append_nil, List.append_nil] at hwhole

/-! ## The characters of a text -/

/-- What a backslash begins inside of a text: it has no quotes and ends inside of the text. -/
structure Escape (more : List Char) : Prop where
  quote : '"' ∉ more
  scan : Json.scan .behindSlash more = some .inside

theorem Escape.letter {e : Char} (hquote : e ≠ '"') (haccent : e ≠ graveAccent) : Escape [e] := by
  refine ⟨by simpa using hquote.symm, ?_⟩
  rw [scan_cons, Place.step, if_neg haccent]
  rfl

theorem mem_hexDigits {c : Char} {unit : Nat} (h : c ∈ hexDigits 4 unit) : ∃ n < 16, c = hexDigit n := by
  have hmod : ∀ m, m % 16 < 16 := fun m => Nat.mod_lt m (by decide)
  simp only [hexDigits, List.nil_append, List.mem_append, List.mem_singleton] at h
  rcases h with ((rfl | rfl) | rfl) | rfl <;> exact ⟨_, hmod _, rfl⟩

theorem scan_inside {cs : List Char} (h : ∀ c ∈ cs, c ≠ '"' ∧ c ≠ '\\') : scan .inside cs = some .inside := by
  induction cs with
  | nil => rfl
  | cons c cs ih =>
    obtain ⟨⟨hquote, hslash⟩, hcs⟩ := List.forall_mem_cons.1 h
    rw [scan_cons, Place.step, if_neg hquote, if_neg hslash]
    exact ih hcs

theorem escape_unit (unit : Nat) {more : List Char} (h : more = [] ∨ ∃ next, more = '\\' :: next ∧ Escape next) :
    Escape ('u' :: (hexDigits 4 unit ++ more)) := by
  have hdigits : ∀ n < 16, hexDigit n ≠ '"' ∧ hexDigit n ≠ '\\' := by decide
  have hunit : ∀ c ∈ hexDigits 4 unit, c ≠ '"' ∧ c ≠ '\\' := fun c hc => by
    obtain ⟨n, hn, rfl⟩ := mem_hexDigits hc
    exact hdigits n hn
  have hmore : '"' ∉ more ∧ scan .inside more = some .inside := by
    rcases h with rfl | ⟨next, rfl, hnext⟩
    · exact ⟨List.not_mem_nil, rfl⟩
    · exact ⟨List.not_mem_cons_of_ne_of_not_mem (by decide) hnext.quote, hnext.scan⟩
  refine ⟨?_, ?_⟩
  · simp only [List.mem_cons, List.mem_append, not_or]
    exact ⟨by decide, fun h => (hunit _ h).1 rfl, hmore.1⟩
  · show scan .inside (hexDigits 4 unit ++ more) = some .inside
    rw [scan_of_scan (scan_inside hunit), hmore.2]

theorem escape_numeric (c : Char) : ∃ more, numericEscape c = '\\' :: more ∧ Escape more := by
  unfold numericEscape units16
  split
  · exact ⟨_, rfl, escape_unit _ (.inl rfl)⟩
  · exact ⟨_, rfl, escape_unit _ (.inr ⟨_, rfl, escape_unit _ (.inl rfl)⟩)⟩

/-- The characters that stand in the writing of others. -/
def escapeChars : List Char := "\\\"/bfnrtu0123456789abcdef".toList

/-- A quote is written by a quote, and what is written by a letter is no letter. -/
theorem escaped_cases {e c : Char} (h : escaped? e = some c) :
    (e = '"' ∧ c = '"' ∨ e ≠ '"' ∧ e ≠ graveAccent) ∧ c.isAlpha = false ∧ e ∈ escapeChars := by
  unfold escaped? at h
  split at h
  · next hself =>
    cases h
    rcases hself with rfl | rfl | rfl <;> decide
  repeat'
    split at h
    · next he =>
      cases h
      rw [he]
      decide
  cases h

/-- A character of a text is written as itself, or behind a backslash; only a quote is written with a quote. -/
theorem writeChar_cases (c : Char) :
    (writeChar true c = [c] ∧ c ≠ '"' ∧ c ≠ '\\') ∨ (c = '"' ∧ writeChar true c = ['\\', '"']) ∨
      ∃ more, writeChar true c = '\\' :: more ∧ Escape more := by
  have hwrites := writes_writeChar true c
  generalize writeChar true c = cs at hwrites ⊢
  cases hwrites with
  | letter _ hletter =>
    rcases (escaped_cases hletter).1 with ⟨rfl, hquote⟩ | ⟨hquote, haccent⟩
    · exact .inr (.inl ⟨hquote, rfl⟩)
    · exact .inr (.inr ⟨_, rfl, .letter hquote haccent⟩)
  | units _ => exact .inr (.inr (escape_numeric c))
  | self hquote hslash _ => exact .inl ⟨rfl, hquote, hslash⟩

theorem exists_writeChar (c : Char) : ∃ d more, writeChar true c = d :: more := by
  rcases writeChar_cases c with ⟨hself, -, -⟩ | ⟨-, hescaped⟩ | ⟨more, hmore, -⟩
  · exact ⟨c, [], hself⟩
  · exact ⟨_, _, hescaped⟩
  · exact ⟨_, _, hmore⟩

theorem writeChar_letter {c : Char} (h : c.isAlpha = true) : writeChar true c = [c] := by
  have hwrites := writes_writeChar true c
  generalize writeChar true c = cs at hwrites ⊢
  cases hwrites with
  | letter _ hletter =>
    rw [(escaped_cases hletter).2.1] at h
    cases h
  | units hcode =>
    have hbounds : 65 ≤ c.toNat ∧ c.toNat ≤ 122 := by
      rcases (Bool.or_eq_true c.isUpper c.isLower).mp h with hupper | hlower
      · obtain ⟨hlow, hhigh⟩ : 65 ≤ c.val ∧ c.val ≤ 90 := of_decide_eq_true hupper
        rw [UInt32.le_iff_toNat_le] at hlow hhigh
        exact ⟨hlow, hhigh.trans (by decide)⟩
      · obtain ⟨hlow, hhigh⟩ : decide (97 ≤ c.val) = true ∧ decide (c.val ≤ 122) = true :=
          (Bool.and_eq_true _ _).mp hlower
        rw [decide_eq_true_iff, UInt32.le_iff_toNat_le] at hlow hhigh
        exact ⟨le_trans (by decide) hlow, hhigh⟩
    omega
  | self _ _ _ => rfl

theorem scan_writeChar (c : Char) : scan .inside (writeChar true c) = some .inside := by
  rcases writeChar_cases c with ⟨hself, hquote, hslash⟩ | ⟨-, hescaped⟩ | ⟨more, hmore, escape⟩
  · rw [hself, scan_cons, Place.step, if_neg hquote, if_neg hslash]
    rfl
  · rw [hescaped]
    decide
  · rw [hmore, scan_cons, Place.step, if_neg (by decide), if_pos rfl]
    exact escape.scan

theorem scan_chars (s : List Char) : scan .inside (s.flatMap (writeChar true)) = some .inside := by
  induction s with
  | nil => rfl
  | cons c s ih => rw [List.flatMap_cons, scan_of_scan (scan_writeChar c), ih]

theorem scan_writeText (s : String) : scan .outside (writeText true s) = some .outside := by
  show scan .inside (s.toList.flatMap (writeChar true) ++ ['"']) = _
  rw [scan_of_scan (scan_chars s.toList)]
  rfl

/-- What spells texts closes them all. -/
theorem Spells.scan {cs : List Char} {ts : List String} (spells : Spells cs ts) : scan .outside cs = some .outside := by
  induction spells with
  | plain hcs => exact scan_plain hcs
  | text hgap _ _ ih => rw [scan_of_scan (scan_plain hgap), scan_of_scan (scan_writeText _), ih]

/-! ## Marks -/

theorem mem_writeChar {c d : Char} (h : d ∈ writeChar true c) : d = c ∨ d ∈ escapeChars := by
  have hhex : ∀ n < 16, hexDigit n ∈ escapeChars := by decide
  have hwrites := writes_writeChar true c
  generalize writeChar true c = cs at hwrites h
  cases hwrites with
  | letter _ hletter =>
    rcases List.mem_pair.1 h with rfl | rfl
    · exact .inr (by decide)
    · exact .inr (escaped_cases hletter).2.2
  | units _ =>
    obtain ⟨unit, -, hunit⟩ := List.mem_flatMap.1 h
    refine .inr ?_
    rcases List.mem_cons.1 hunit with rfl | hunit
    · decide
    rcases List.mem_cons.1 hunit with rfl | hunit
    · decide
    · obtain ⟨n, hn, rfl⟩ := mem_hexDigits hunit
      exact hhex n hn
  | self _ _ _ => exact .inl (List.mem_singleton.1 h)

/-- A character that is written as itself and stands in the writing of no other one. -/
def Mark (c : Char) : Prop := writeChar true c = [c] ∧ c ∉ escapeChars

instance (c : Char) : Decidable (Mark c) := inferInstanceAs (Decidable (_ ∧ _))

theorem Mark.eq {c d : Char} (hc : Mark c) (h : c ∈ writeChar true d) : d = c :=
  ((mem_writeChar h).resolve_right hc.2).symm

section

variable {word : List Char} (hword : ∀ c ∈ word, Mark c)

include hword

/-- Marks begin the writing of a text exactly if they begin the text. -/
theorem marks_prefix_chars (s cs : List Char) : word <+: s.flatMap (writeChar true) ++ '"' :: cs ↔ word <+: s := by
  induction word generalizing s with
  | nil => exact iff_of_true List.nil_prefix List.nil_prefix
  | cons a word ih =>
    obtain ⟨ha, hrest⟩ := List.forall_mem_cons.1 hword
    cases s with
    | nil =>
      refine iff_of_false (fun h => ?_) (fun h => List.cons_ne_nil _ _ (List.prefix_nil.1 h))
      exact absurd ((List.cons_prefix_cons.1 h).1 ▸ ha) (by decide)
    | cons c s =>
      rw [List.flatMap_cons, List.append_assoc]
      by_cases hc : c = a
      · rw [hc, ha.1]
        exact List.cons_prefix_cons.trans ((and_congr_right fun _ => ih hrest s).trans List.cons_prefix_cons.symm)
      · -- the writing of another character does not begin with the mark
        refine iff_of_false (fun h => hc ?_) (fun h => hc (List.cons_prefix_cons.1 h).1.symm)
        obtain ⟨d, more, hmore⟩ := exists_writeChar c
        refine ha.eq ?_
        rw [hmore] at h ⊢
        rw [(List.cons_prefix_cons.1 h).1]
        exact List.mem_cons_self

/-- Marks stand in the writing of a text exactly if they stand in the text, or behind it. -/
theorem marks_infix_chars (hne : word ≠ []) (s cs : List Char) :
    word <:+: s.flatMap (writeChar true) ++ '"' :: cs ↔ word <:+: s ∨ word <:+: cs := by
  have hnil : ¬ word <:+: [] := fun h => hne (List.infix_nil.1 h)
  induction s with
  | nil =>
    have hquote : '"' ∉ word := fun h => absurd (hword _ h) (by decide)
    exact (infix_append_of_apart (List.forall_mem_singleton.2 hquote) cs).trans (or_iff_right hnil).symm
  | cons c s ih =>
    rw [List.flatMap_cons, List.append_assoc]
    by_cases hc : c ∈ word
    · have hbegins := marks_prefix_chars hword (c :: s) cs
      rw [List.flatMap_cons, List.append_assoc, (hword c hc).1, List.singleton_append] at hbegins
      rw [(hword c hc).1, List.singleton_append, List.infix_cons_iff, hbegins, List.infix_cons_iff, or_assoc]
      exact or_congr_right ih
    · have hapart : ∀ d ∈ writeChar true c, d ∉ word := fun d hd hmem => hc ((hword d hmem).eq hd ▸ hmem)
      have hhead : ¬ word <+: c :: s := fun h => by
        obtain ⟨d, more, rfl⟩ := List.exists_cons_of_ne_nil hne
        exact hc ((List.cons_prefix_cons.1 h).1 ▸ List.mem_cons_self)
      rw [infix_append_of_apart hapart, List.infix_cons_iff, or_iff_right hhead]
      exact ih

end

/-! ## Fences -/

/-- Some grave accents. -/
def accents (n : Nat) : List Char := List.replicate n graveAccent

theorem marks_accents (n : Nat) : ∀ c ∈ accents n, Mark c := fun c hc => by
  rw [List.eq_of_mem_replicate hc]
  decide

/-- Grave accents stand in what spells texts exactly if they stand in one of the texts. -/
theorem Spells.accents_infix_iff {n : Nat} {cs : List Char} {ts : List String} (spells : Spells cs ts) :
    accents (n + 1) <:+: cs ↔ ∃ s ∈ ts, accents (n + 1) <:+: s.toList := by
  have hplain : ∀ {gap : List Char}, (∀ c ∈ gap, Plain c) → ∀ c ∈ gap, c ∉ accents (n + 1) := fun h c hc hmem =>
    (h c hc).2 (List.eq_of_mem_replicate hmem)
  induction spells with
  | @plain cs hcs =>
    have hnone := infix_append_of_apart (hplain hcs) []
    rw [List.append_nil] at hnone
    rw [hnone]
    simp [accents]
  | @text gap cs s ts hgap _ _ ih =>
    have hquote : '"' ∉ accents (n + 1) := fun h => absurd (List.eq_of_mem_replicate h) (by decide)
    have hopen : accents (n + 1) <:+: writeText true s ++ cs ↔
        accents (n + 1) <:+: s.toList.flatMap (writeChar true) ++ '"' :: cs := by
      rw [writeText, List.append_assoc, List.singleton_append]
      exact infix_append_of_apart (List.forall_mem_singleton.2 hquote) _
    rw [infix_append_of_apart (hplain hgap), hopen,
      marks_infix_chars (marks_accents (n + 1)) (List.cons_ne_nil _ _)]
    simpa using or_congr_right ih

/-! ## Words in quotes -/

/-- A word between quotes. -/
def inQuotes (word : List Char) : List Char := '"' :: (word ++ ['"'])

/-- A text is a word, or ends in it behind a quote. -/
def Closes (word s : List Char) : Prop := s = word ∨ '"' :: word <:+ s

/-- A quote is behind what has none. -/
theorem behind_of_quote {u v x y : List Char} (h : u ++ v = x ++ '"' :: y) (hu : '"' ∉ u) :
    ∃ more, x = u ++ more ∧ v = more ++ '"' :: y := by
  rcases List.append_eq_append_iff.1 h with ⟨more, hx, hv⟩ | ⟨more, hu', hv⟩
  · exact ⟨more, hx, hv⟩
  · cases more with
    | nil => exact ⟨[], by simpa using hu'.symm, hv.symm⟩
    | cons d more =>
      refine absurd ?_ hu
      rw [hu', (List.cons.inj hv).1]
      simp

section

variable {word : List Char} (hword : ∀ c ∈ word, c.isAlpha = true)

include hword

/-- A word up to the next quote is all of a text. -/
theorem eq_of_chars {s cs rest : List Char} (h : s.flatMap (writeChar true) ++ '"' :: cs = word ++ '"' :: rest) :
    s = word ∧ cs = rest := by
  induction word generalizing s with
  | nil =>
    cases s with
    | nil => exact ⟨rfl, (List.cons.inj h).2⟩
    | cons c s =>
      rw [List.flatMap_cons, List.append_assoc] at h
      rcases writeChar_cases c with ⟨hself, hquote, -⟩ | ⟨-, hescaped⟩ | ⟨more, hmore, -⟩
      · rw [hself] at h
        exact absurd (List.cons.inj h).1 hquote
      · rw [hescaped] at h
        exact absurd (List.cons.inj h).1 (by decide)
      · rw [hmore] at h
        exact absurd (List.cons.inj h).1 (by decide)
  | cons a word ih =>
    obtain ⟨ha, hrest⟩ := List.forall_mem_cons.1 hword
    have hne : ∀ d, d.isAlpha = false → d ≠ a := fun d hd hda => by
      rw [hda, ha] at hd
      cases hd
    cases s with
    | nil => exact absurd (List.cons.inj h).1 (hne _ (by decide))
    | cons c s =>
      rw [List.flatMap_cons, List.append_assoc] at h
      rcases writeChar_cases c with ⟨hself, -, -⟩ | ⟨-, hescaped⟩ | ⟨more, hmore, -⟩
      · rw [hself] at h
        obtain ⟨hc, htail⟩ := List.cons.inj h
        obtain ⟨hs, hcs⟩ := ih hrest htail
        exact ⟨by rw [hc, hs], hcs⟩
      · rw [hescaped] at h
        exact absurd (List.cons.inj h).1 (hne _ (by decide))
      · rw [hmore] at h
        exact absurd (List.cons.inj h).1 (hne _ (by decide))

omit hword in
/-- A quote in the writing of a text is one of the text, or ends it, or is behind it. -/
theorem quote_of_chars {s cs x y : List Char} (h : s.flatMap (writeChar true) ++ '"' :: cs = x ++ '"' :: y) :
    (∃ r t, s = r ++ '"' :: t ∧ y = t.flatMap (writeChar true) ++ '"' :: cs) ∨ y = cs ∨
      ∃ more, cs = more ++ '"' :: y := by
  induction s generalizing x with
  | nil =>
    cases x with
    | nil => exact .inr (.inl (List.cons.inj h).2.symm)
    | cons d x => exact .inr (.inr ⟨x, (List.cons.inj h).2⟩)
  | cons c s ih =>
    have hrest : ∀ {x}, s.flatMap (writeChar true) ++ '"' :: cs = x ++ '"' :: y →
        (∃ r t, c :: s = r ++ '"' :: t ∧ y = t.flatMap (writeChar true) ++ '"' :: cs) ∨ y = cs ∨
          ∃ more, cs = more ++ '"' :: y := fun h => by
      rcases ih h with ⟨r, t, hs, hy⟩ | h
      · exact .inl ⟨c :: r, t, by rw [hs]; rfl, hy⟩
      · exact .inr h
    rw [List.flatMap_cons, List.append_assoc] at h
    -- the quote is behind the writing of this character, unless the character is a quote itself
    rcases writeChar_cases c with ⟨hself, hquote, -⟩ | ⟨hc, hescaped⟩ | ⟨more, hmore, escape⟩
    · obtain ⟨_, -, hbehind⟩ := behind_of_quote h (by simpa [hself] using hquote.symm)
      exact hrest hbehind
    · rw [hescaped] at h
      obtain ⟨left, -, hbehind⟩ := behind_of_quote (u := ['\\']) h (by decide)
      cases left with
      | nil => exact .inl ⟨[], s, by rw [hc]; rfl, (List.cons.inj hbehind).2.symm⟩
      | cons d left => exact hrest (List.cons.inj hbehind).2
    · obtain ⟨_, -, hbehind⟩ := behind_of_quote h (by
        rw [hmore]
        exact List.not_mem_cons_of_ne_of_not_mem (by decide) escape.quote)
      exact hrest hbehind

/-- A word in quotes closes a text. -/
theorem Spells.closes_of_inQuotes (hne : word ≠ []) {cs x rest : List Char} {ts : List String} (spells : Spells cs ts)
    (h : cs = x ++ (inQuotes word ++ rest)) :
    ∃ before s after, ts = before ++ s :: after ∧ Closes word s.toList ∧ Spells rest after := by
  have hquoted : inQuotes word ++ rest = '"' :: (word ++ '"' :: rest) := by simp [inQuotes]
  rw [hquoted] at h
  induction spells generalizing x with
  | plain hcs =>
    refine absurd rfl (hcs '"' ?_).1
    rw [h]
    simp
  | @text gap cs s ts hgap hparted spells ih =>
    obtain ⟨left, -, hleft⟩ := behind_of_quote h fun hmem => (hgap _ hmem).1 rfl
    have hwhole : '"' :: (s.toList.flatMap (writeChar true) ++ '"' :: cs) = left ++ '"' :: (word ++ '"' :: rest) := by
      rw [← hleft, writeText, List.append_assoc]
      rfl
    cases left with
    | nil =>
      obtain ⟨hs, hcs⟩ := eq_of_chars hword (List.cons.inj hwhole).2
      exact ⟨[], s, ts, rfl, .inl hs, hcs ▸ spells⟩
    | cons d left =>
      rcases quote_of_chars (List.cons.inj hwhole).2 with ⟨r, t, hs, hy⟩ | hy | ⟨more, hmore⟩
      · obtain ⟨ht, hcs⟩ := eq_of_chars hword hy.symm
        exact ⟨[], s, ts, rfl, .inr ⟨r, by rw [hs, ht]⟩, hcs ▸ spells⟩
      · -- no letter follows a closing quote
        obtain ⟨a, more, hcons⟩ := List.exists_cons_of_ne_nil hne
        have hletter : a.isAlpha = true := hword a (by rw [hcons]; exact List.mem_cons_self)
        have hnone := hparted a (by rw [← hy, hcons]; rfl)
        rw [hletter] at hnone
        cases hnone
      · obtain ⟨before, s', after, hts, hcloses, hafter⟩ := ih hmore
        exact ⟨s :: before, s', after, by rw [hts]; rfl, hcloses, hafter⟩

theorem chars_of_letters : word.flatMap (writeChar true) = word := by
  induction word with
  | nil => rfl
  | cons a word ih =>
    obtain ⟨ha, hrest⟩ := List.forall_mem_cons.1 hword
    rw [List.flatMap_cons, writeChar_letter ha, ih hrest]
    rfl

/-- A text that a word closes is written with the word in quotes. -/
theorem Spells.inQuotes_of_closes {before after : List String} {s : String} {cs : List Char}
    (spells : Spells cs (before ++ s :: after)) (h : Closes word s.toList) :
    ∃ x rest, cs = x ++ (inQuotes word ++ rest) ∧ Spells rest after := by
  induction before generalizing cs with
  | nil =>
    cases spells with
    | @text gap cs _ _ _ _ hrest =>
      rcases h with hs | ⟨r, hs⟩
      · refine ⟨gap, cs, ?_, hrest⟩
        rw [writeText, hs, chars_of_letters hword]
        rfl
      · refine ⟨gap ++ '"' :: (r.flatMap (writeChar true) ++ ['\\']), cs, ?_, hrest⟩
        have hquote : writeChar true '"' = ['\\', '"'] := by decide
        rw [writeText, ← hs, List.flatMap_append, List.flatMap_cons, hquote, chars_of_letters hword]
        simp [inQuotes]
  | cons other before ih =>
    cases spells with
    | @text gap cs _ _ _ _ hrest =>
      obtain ⟨x, rest, hcs, hspells⟩ := ih hrest
      exact ⟨gap ++ (writeText true other ++ x), rest, by simp [hcs], hspells⟩

end

/-- Of some texts one is closed by a word, and a later one by another. -/
def InOrder (first second : List Char) (ts : List String) : Prop :=
  ∃ before s between t after, ts = before ++ s :: (between ++ t :: after) ∧ Closes first s.toList ∧
    Closes second t.toList

/-- Two words stand in quotes one behind the other exactly if they close texts in this order. -/
theorem Spells.inOrder_iff {first second : List Char} (hfirst : ∀ c ∈ first, c.isAlpha = true)
    (hsecond : ∀ c ∈ second, c.isAlpha = true) (hne : first ≠ [] ∧ second ≠ []) {cs : List Char} {ts : List String}
    (spells : Spells cs ts) :
    InOrder first second ts ↔ ∃ between, inQuotes first ++ (between ++ inQuotes second) <:+: cs := by
  constructor
  · rintro ⟨before, s, between, t, after, rfl, hs, ht⟩
    obtain ⟨x, rest, rfl, hrest⟩ := spells.inQuotes_of_closes hfirst hs
    obtain ⟨y, z, rfl, -⟩ := hrest.inQuotes_of_closes hsecond ht
    exact ⟨y, x, z, by simp⟩
  · rintro ⟨y, x, z, h⟩
    have hcs : cs = x ++ (inQuotes first ++ (y ++ (inQuotes second ++ z))) := by
      rw [← h]
      simp
    obtain ⟨before, s, rest, rfl, hs, hrest⟩ := spells.closes_of_inQuotes hfirst hne.1 hcs
    obtain ⟨between, t, after, rfl, ht, -⟩ := hrest.closes_of_inQuotes hsecond hne.2 rfl
    exact ⟨before, s, between, t, after, rfl, hs, ht⟩

end Workflows.Json
