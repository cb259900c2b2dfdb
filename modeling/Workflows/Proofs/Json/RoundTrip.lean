/-
Values in JSON read back. A value is read from its text as it is published, in every layout, if it has no name
twice in an object, no integer with more digits than the reader takes, and no NaN but the one that is read; and
without tables and floating-point numbers it is read as it is.
-/
import Workflows.Proofs.Json.Float
import Workflows.Proofs.Json.Text
import Workflows.Proofs.Value.Object

namespace Workflows.Json

open Workflows.Text

-- A call of the writer or of the reader is taken for the equation of its case.
attribute [local simp] write readValue readItems readMembers

/-! ## Layouts and blanks -/

/-- Separators are a comma and a colon with blanks behind them. -/
structure Layout.Readable (layout : Layout) : Prop where
  item : ∃ blanks, layout.itemSeparator = ',' :: blanks ∧ ∀ c ∈ blanks, isSpace c = true
  key : ∃ blanks, layout.keySeparator = ':' :: blanks ∧ ∀ c ∈ blanks, isSpace c = true

theorem Layout.readable_plain : Layout.plain.Readable :=
  ⟨⟨[' '], rfl, by simp [isSpace]⟩, ⟨[' '], rfl, by simp [isSpace]⟩⟩

theorem Layout.readable_compact : Layout.compact.Readable := ⟨⟨[], rfl, by simp⟩, ⟨[], rfl, by simp⟩⟩

theorem Layout.readable_pretty : Layout.pretty.Readable := ⟨⟨[], rfl, by simp⟩, ⟨[' '], rfl, by simp [isSpace]⟩⟩

section

variable {layout : Layout} {level : Nat}

theorem isSpace_lineBreak : ∀ c ∈ layout.lineBreak level, isSpace c = true := by
  unfold Layout.lineBreak
  split
  · simp
  · intro c hc
    rcases List.mem_cons.1 hc with rfl | hc
    · rfl
    · rw [List.eq_of_mem_replicate hc]
      rfl

theorem skipSpace_append {blanks : List Char} (h : ∀ c ∈ blanks, isSpace c = true) (cs : List Char) :
    skipSpace (blanks ++ cs) = skipSpace cs :=
  List.dropWhile_append_of_pos h

theorem ends_lineBreak {c : Char} (cs : List Char) (h : Apart c) : Ends (layout.lineBreak level ++ c :: cs) := by
  unfold Layout.lineBreak
  split
  · exact ends_cons cs h
  · exact ends_cons _ (by decide)

theorem skipSpace_cons {c : Char} (hc : isSpace c = false) (cs : List Char) :
    skipSpace (c :: cs) = c :: cs := by
  simp [skipSpace, hc]

theorem skipSpace_lineBreak {c : Char} (hc : isSpace c = false) (cs : List Char) :
    skipSpace (layout.lineBreak level ++ c :: cs) = c :: cs := by
  rw [skipSpace_append isSpace_lineBreak, skipSpace_cons hc]

end

/-- A beginning that no blank is, no end of a list or of an object, and no byte order mark. -/
def Opens (cs : List Char) : Prop :=
  ∃ c rest, cs = c :: rest ∧ isSpace c = false ∧ c ≠ ']' ∧ c ≠ '}' ∧ c ≠ '\uFEFF'

theorem Opens.append {cs : List Char} (h : Opens cs) (rest : List Char) : Opens (cs ++ rest) := by
  obtain ⟨c, more, rfl, hc⟩ := h
  exact ⟨c, more ++ rest, rfl, hc⟩

theorem Opens.skipSpace {cs : List Char} (h : Opens cs) : skipSpace cs = cs := by
  obtain ⟨c, more, rfl, hc, -⟩ := h
  simp [Json.skipSpace, hc]

/-! ## Words and texts -/

/-- The text of a value is read as another at every level, if a character is left for every call. -/
def Reads (layout : Layout) (v w : Value) : Prop :=
  ∀ level, Opens (write layout level v) ∧
    ∀ fuel rest, Ends rest → (write layout level v).length ≤ fuel →
      readValue fuel (write layout level v ++ rest) = .ok (w, rest)

theorem exists_call {n fuel : Nat} (h : n < fuel) : ∃ left, fuel = left + 1 ∧ n ≤ left :=
  ⟨fuel - 1, by omega, by omega⟩

theorem reads_word {layout : Layout} {v : Value} {c : Char} {cs : List Char}
    (hw : ∀ level, write layout level v = c :: cs) (ho : Opens (c :: cs)) (hc : c ≠ '"' ∧ c ≠ '[' ∧ c ≠ '{')
    (h : ∀ rest, word? (c :: cs ++ rest) = some (v, rest)) : Reads layout v v := by
  refine fun level => ⟨hw level ▸ ho, fun fuel rest _ hf => ?_⟩
  rw [hw, List.length_cons] at hf
  rw [hw]
  obtain ⟨fuel, rfl, -⟩ := exists_call hf
  have h := h rest
  rw [List.cons_append] at h ⊢
  simp only [readValue, if_neg hc.1, if_neg hc.2.1, if_neg hc.2.2, h]

theorem reads_null (layout : Layout) : Reads layout .null .null :=
  reads_word (fun _ => by rw [write]; rfl) ⟨_, _, rfl, by decide⟩ (by decide) fun _ => rfl

theorem reads_bool (layout : Layout) : ∀ b, Reads layout (.bool b) (.bool b)
  | true => reads_word (fun _ => by rw [write]; rfl) ⟨_, _, rfl, by decide⟩ (by decide) fun _ => rfl
  | false => reads_word (fun _ => by rw [write]; rfl) ⟨_, _, rfl, by decide⟩ (by decide) fun _ => rfl

theorem opens_digit {d : Char} (h : d.isDigit = true) (cs : List Char) : Opens (d :: cs) := by
  have hd : ∀ c, c.isDigit = false → d ≠ c := fun c hc => isDigit_ne h hc
  refine ⟨d, cs, rfl, ?_, hd _ rfl, hd _ rfl, hd _ rfl⟩
  simp [isSpace, hd ' ' rfl, hd '\t' rfl, hd '\n' rfl, hd '\r' rfl]

theorem readValue_number {fuel : Nat} {c : Char} {cs : List Char} (hc : c ≠ '"' ∧ c ≠ '[' ∧ c ≠ '{')
    (h : word? (c :: cs) = none) : readValue (fuel + 1) (c :: cs) = readNumber (c :: cs) := by
  simp only [readValue, if_neg hc.1, if_neg hc.2.1, if_neg hc.2.2, h]

theorem reads_int (layout : Layout) {n : Int} (hn : (Nat.toDigits 10 n.natAbs).length ≤ Numeral.maxDigits) :
    Reads layout (.int n) (.int n) := by
  intro level
  rw [write]
  obtain ⟨c, cs, hw, ho, hc, hword⟩ : ∃ c cs, writeInt n = c :: cs ∧ Opens (c :: cs) ∧
      (c ≠ '"' ∧ c ≠ '[' ∧ c ≠ '{') ∧ ∀ rest, word? (c :: (cs ++ rest)) = none := by
    cases n with
    | ofNat n =>
      obtain ⟨d, ds, hcons, hd⟩ := toDigits_cons n
      have hne : ∀ c, c.isDigit = false → d ≠ c := fun _ => isDigit_ne hd
      exact ⟨d, ds, hcons, opens_digit hd ds, ⟨hne _ rfl, hne _ rfl, hne _ rfl⟩, fun _ => word_digit hd _⟩
    | negSucc n =>
      obtain ⟨d, ds, hcons, hd⟩ := toDigits_cons (n + 1)
      have hw : writeInt (.negSucc n) = '-' :: d :: ds := by rw [writeInt, hcons]
      exact ⟨_, _, hw, ⟨_, _, rfl, by decide⟩, by decide, fun _ => word_negative hd _⟩
  refine ⟨hw ▸ ho, fun fuel rest hr hf => ?_⟩
  rw [hw, List.length_cons] at hf
  obtain ⟨fuel, rfl, -⟩ := exists_call hf
  rw [← readNumber_writeInt n hr hn, hw]
  exact readValue_number hc (hword rest)

theorem reads_text (layout : Layout) (s : String) : Reads layout (.text s) (.text s) := by
  intro level
  rw [write, writeText]
  refine ⟨⟨_, _, rfl, by decide⟩, fun fuel rest _ hf => ?_⟩
  obtain ⟨fuel, rfl, -⟩ := exists_call hf
  simp [readText_writeText, Except.map]

theorem reads_float (layout : Layout) {x : Binary64} (hx : x.isNaN = false ∨ x = .nan) :
    Reads layout (.float x) (.float x) := by
  by_cases hfinite : x.isFinite = true
  · intro level
    rw [write]
    obtain ⟨d, ds, hcons, hd⟩ := magnitudeText_cons hfinite
    have hne : ∀ c, c.isDigit = false → d ≠ c := fun _ => isDigit_ne hd
    obtain ⟨c, cs, hw, ho, hc, hword⟩ : ∃ c cs, writeFloat x = c :: cs ∧ Opens (c :: cs) ∧
        (c ≠ '"' ∧ c ≠ '[' ∧ c ≠ '{') ∧ ∀ rest, word? (c :: (cs ++ rest)) = none := by
      rw [writeFloat_of_finite hfinite, hcons]
      cases x.negative with
      | false => exact ⟨d, ds, rfl, opens_digit hd ds, ⟨hne _ rfl, hne _ rfl, hne _ rfl⟩, fun _ => word_digit hd _⟩
      | true => exact ⟨_, _, rfl, ⟨_, _, rfl, by decide⟩, by decide, fun _ => word_negative hd _⟩
    refine ⟨hw ▸ ho, fun fuel rest hr hf => ?_⟩
    rw [hw, List.length_cons] at hf
    obtain ⟨fuel, rfl, -⟩ := exists_call hf
    rw [← readNumber_writeFloat hfinite hr, hw]
    exact readValue_number hc (hword rest)
  · rcases Binary64.infinity_or_nan hfinite hx with rfl | rfl | rfl
    · exact reads_word (fun _ => by rw [write]; rfl) ⟨_, _, rfl, by decide⟩ (by decide) fun _ => rfl
    · exact reads_word (fun _ => by rw [write]; rfl) ⟨_, _, rfl, by decide⟩ (by decide) fun _ => rfl
    · exact reads_word (fun _ => by rw [write]; rfl) ⟨_, _, rfl, by decide⟩ (by decide) fun _ => rfl

/-! ## Lists -/

/-- The items of a list are read up to its end. -/
theorem readItems_write {layout : Layout} (hl : layout.Readable) (level outer : Nat) :
    ∀ {v w : Value} {vs ws : List Value}, Reads layout v w → List.Forall₂ (Reads layout) vs ws → ∀ fuel rest,
      (write layout level v).length + (writeItems layout level vs).length < fuel →
      readItems fuel (write layout level v ++
        (writeItems layout level vs ++ (layout.lineBreak outer ++ ']' :: rest))) = .ok (w :: ws, rest)
  | v, w, _, _, hread, .nil, fuel, rest, hf => by
    obtain ⟨fuel, rfl, hf⟩ := exists_call hf
    have hv := (hread level).2 fuel (layout.lineBreak outer ++ ']' :: rest) (ends_lineBreak rest (by decide)) (by omega)
    simp only [readItems, writeItems, List.nil_append, hv, skipSpace_lineBreak (c := ']') rfl]
  | v, w, v' :: vs, w' :: ws, hread, .cons hread' hreads, fuel, rest, hf => by
    obtain ⟨blanks, hitem, hblanks⟩ := hl.item
    obtain ⟨fuel, rfl, hf⟩ := exists_call hf
    simp only [writeItems, hitem, List.length_append, List.length_cons] at hf
    -- The comma pays for the call that reads the items behind it.
    have hmore := readItems_write hl level outer hread' hreads fuel rest (by omega)
    have hskip : ∀ cs, skipSpace (blanks ++ (layout.lineBreak level ++ (write layout level v' ++ cs))) =
        write layout level v' ++ cs := fun cs => by
      rw [skipSpace_append hblanks, skipSpace_append isSpace_lineBreak, ((hread' level).1.append cs).skipSpace]
    simp only [readItems, writeItems, hitem, List.cons_append, List.append_assoc]
    rw [(hread level).2 fuel _ (ends_cons _ (by decide)) (by omega)]
    simp only [skipSpace_cons (c := ',') rfl, hskip, hmore, Except.map]

theorem readValue_items {fuel : Nat} {cs items : List Char} (hskip : skipSpace cs = items)
    (ho : Opens items) :
    readValue (fuel + 1) ('[' :: cs) =
      (readItems fuel items).map fun (items, rest) => (.list items, rest) := by
  obtain ⟨c, more, rfl, -, hc, -⟩ := ho
  rw [readValue, if_neg (by decide), if_pos rfl, hskip]
  split
  · next h => exact absurd (List.cons.inj h).1 hc
  · rfl

theorem reads_list {layout : Layout} (hl : layout.Readable) {items results : List Value}
    (hreads : List.Forall₂ (Reads layout) items results) : Reads layout (.list items) (.list results) := by
  intro level
  cases hreads with
  | nil =>
    rw [write]
    refine ⟨⟨_, _, rfl, by decide⟩, fun fuel rest _ hf => ?_⟩
    obtain ⟨fuel, rfl, -⟩ := exists_call hf
    simp [skipSpace_cons (c := ']') rfl]
  | @cons v w vs ws hread hreads =>
    rw [write]
    refine ⟨⟨_, _, rfl, by decide⟩, fun fuel rest _ hf => ?_⟩
    obtain ⟨fuel, rfl, hf⟩ := exists_call hf
    simp only [List.length_append, List.length_cons] at hf
    have ho := ((hread (level + 1)).1).append
      (writeItems layout (level + 1) vs ++ (layout.lineBreak level ++ ']' :: rest))
    simp only [List.cons_append, List.append_assoc, List.nil_append]
    rw [readValue_items ((skipSpace_append isSpace_lineBreak _).trans ho.skipSpace) ho,
      readItems_write hl (level + 1) level hread hreads fuel rest (by omega), Except.map]

/-! ## Objects -/

section

variable {fuel : Nat} {ascii : Bool} {key : String} {v : Value} {cs value rest after : List Char}

theorem readMembers_last (hskip : skipSpace cs = value) (hv : readValue fuel value = .ok (v, rest))
    (hrest : skipSpace rest = '}' :: after) :
    readMembers (fuel + 1) (writeText ascii key ++ ':' :: cs) = .ok ([(key, v)], after) := by
  simp only [writeText, List.cons_append, List.append_assoc, List.nil_append, readMembers, readText_writeText,
    skipSpace_cons (c := ':') rfl, hskip, hv, hrest]

theorem readMembers_more (hskip : skipSpace cs = value) (hv : readValue fuel value = .ok (v, ',' :: after)) :
    readMembers (fuel + 1) (writeText ascii key ++ ':' :: cs) =
      (readMembers fuel (skipSpace after)).map fun (pairs, left) => ((key, v) :: pairs, left) := by
  simp only [writeText, List.cons_append, List.append_assoc, List.nil_append, readMembers, readText_writeText,
    skipSpace_cons (c := ':') rfl, skipSpace_cons (c := ',') rfl, hskip, hv]

end

/-- Members that are read as others of the same names. -/
def ReadsMembers (layout : Layout) : Object → Object → Prop :=
  List.Forall₂ fun m p => m.1 = p.1 ∧ Reads layout m.2 p.2

/-- The members of an object are read up to its end. -/
theorem readMembers_write {layout : Layout} (hl : layout.Readable) (level outer : Nat) :
    ∀ (key : String) {v w : Value} {ms ps : Object}, Reads layout v w → ReadsMembers layout ms ps → ∀ fuel rest,
      (write layout level v).length + (writeMembers layout level ms).length < fuel →
      readMembers fuel (writeText layout.ascii key ++ (layout.keySeparator ++ (write layout level v ++
        (writeMembers layout level ms ++ (layout.lineBreak outer ++ '}' :: rest))))) = .ok ((key, w) :: ps, rest)
  | key, v, w, _, _, hread, .nil, fuel, rest, hf => by
    obtain ⟨keyBlanks, hkey, hkeyBlanks⟩ := hl.key
    obtain ⟨fuel, rfl, hf⟩ := exists_call hf
    obtain ⟨ho, hv⟩ := hread level
    have hlength : (write layout level v).length ≤ fuel := by omega
    rw [writeMembers, List.nil_append, hkey, List.cons_append]
    exact readMembers_last ((skipSpace_append hkeyBlanks _).trans (ho.append _).skipSpace)
      (hv fuel _ (ends_lineBreak rest (by decide)) hlength) (skipSpace_lineBreak rfl rest)
  | key, v, w, (name, v') :: ms, (name', w') :: ps, hread, .cons hread' hreads, fuel, rest, hf => by
    obtain ⟨blanks, hitem, hblanks⟩ := hl.item
    obtain ⟨keyBlanks, hkey, hkeyBlanks⟩ := hl.key
    obtain ⟨rfl, hread'⟩ : name = name' ∧ Reads layout v' w' := hread'
    obtain ⟨ho, hv⟩ := hread level
    obtain ⟨fuel, rfl, hf⟩ := exists_call hf
    simp only [writeMembers, hitem, List.length_append, List.length_cons] at hf
    have hlength : (write layout level v).length ≤ fuel := by omega
    have hmore := readMembers_write hl level outer name hread' hreads fuel rest (by omega)
    have hskip : ∀ cs, skipSpace (blanks ++ (layout.lineBreak level ++ (writeText layout.ascii name ++ cs))) =
        writeText layout.ascii name ++ cs := fun cs => by
      rw [skipSpace_append hblanks, skipSpace_append isSpace_lineBreak]
      exact skipSpace_cons rfl _
    have hfirst : ∀ cs, readValue fuel (write layout level v ++ ',' :: cs) = .ok (w, ',' :: cs) := fun cs =>
      hv fuel _ (ends_cons cs (by decide)) hlength
    simp only [writeMembers, hitem, hkey, List.cons_append, List.append_assoc] at hmore ⊢
    rw [readMembers_more ((skipSpace_append hkeyBlanks _).trans (ho.append _).skipSpace) (hfirst _), hskip,
      hmore, Except.map]

theorem readValue_members {fuel : Nat} {cs members : List Char} (hskip : skipSpace cs = members)
    (ho : Opens members) :
    readValue (fuel + 1) ('{' :: cs) =
      (readMembers fuel members).map fun (pairs, rest) => (.object (Object.ofPairs pairs), rest) := by
  obtain ⟨c, more, rfl, -, -, hc, -⟩ := ho
  rw [readValue, if_neg (by decide), if_neg (by decide), if_pos rfl, hskip]
  split
  · next h => exact absurd (List.cons.inj h).1 hc
  · rfl

theorem reads_object {layout : Layout} (hl : layout.Readable) {members pairs : Object}
    (hreads : ReadsMembers layout members pairs) : Reads layout (.object members) (.object (Object.ofPairs pairs)) := by
  intro level
  cases hreads with
  | nil =>
    rw [write]
    refine ⟨⟨_, _, rfl, by decide⟩, fun fuel rest _ hf => ?_⟩
    obtain ⟨fuel, rfl, -⟩ := exists_call hf
    simp [skipSpace_cons (c := '}') rfl, Object.ofPairs]
  | @cons m p ms ps hread hreads =>
    obtain ⟨key, v⟩ := m
    obtain ⟨key', w⟩ := p
    obtain ⟨rfl, hread⟩ : key = key' ∧ Reads layout v w := hread
    rw [write]
    refine ⟨⟨_, _, rfl, by decide⟩, fun fuel rest _ hf => ?_⟩
    obtain ⟨fuel, rfl, hf⟩ := exists_call hf
    simp only [List.length_append, List.length_cons] at hf
    have ho : ∀ cs, Opens (writeText layout.ascii key ++ cs) := fun cs => ⟨'"', _, rfl, by decide⟩
    simp only [List.cons_append, List.append_assoc, List.nil_append]
    rw [readValue_members ((skipSpace_append isSpace_lineBreak _).trans (ho _).skipSpace) (ho _),
      readMembers_write hl (level + 1) level key hread hreads fuel rest (by omega), Except.map]

/-- A table is written like an object that has its names as texts. -/
def namedMembers (entries : List (Value × Value)) : Object := entries.map fun (key, v) => (nameText key, v)

theorem writeEntries_eq (layout : Layout) (level : Nat) : ∀ entries : List (Value × Value),
    writeEntries layout level entries = writeMembers layout level (namedMembers entries)
  | [] => rfl
  | (key, v) :: rest => by
    rw [writeEntries, writeEntries_eq layout level rest,
      show namedMembers ((key, v) :: rest) = (nameText key, v) :: namedMembers rest from rfl, writeMembers]

theorem write_table (layout : Layout) (level : Nat) (entries : List (Value × Value)) :
    write layout level (.table entries) = write layout level (.object (namedMembers entries)) := by
  cases entries with
  | nil => rfl
  | cons entry rest =>
    obtain ⟨key, v⟩ := entry
    rw [write, writeEntries_eq, show namedMembers ((key, v) :: rest) = (nameText key, v) :: namedMembers rest from rfl, write]

/-! ## Exact values -/

mutual

/-- A value that its JSON text writes exactly: without numbers in floating point and tables, without a
name twice in an object, and with integers that are not too long. -/
def isExact : Value → Bool
  | .null | .bool _ | .text _ => true
  | .int n => (Nat.toDigits 10 n.natAbs).length ≤ Numeral.maxDigits
  | .float _ | .table _ => false
  | .list items => exactItems items
  | .object members => exactMembers members

def exactItems : List Value → Bool
  | [] => true
  | v :: vs => isExact v && exactItems vs

def exactMembers : List (String × Value) → Bool
  | [] => true
  | (key, v) :: rest => !Object.has rest key && isExact v && exactMembers rest

end

theorem exactItems_iff : ∀ {items : List Value}, exactItems items = true ↔ ∀ v ∈ items, isExact v = true
  | [] => by simp [exactItems]
  | v :: vs => by simp [exactItems, exactItems_iff]

theorem exactMembers_iff : ∀ {members : Object}, exactMembers members = true ↔
    members.Distinct ∧ ∀ m ∈ members, isExact m.2 = true
  | [] => by simp [exactMembers, Object.Distinct]
  | (key, v) :: rest => by
    have hkey : (!Object.has rest key) = true ↔ key ∉ rest.map (·.1) := by
      rw [← Object.has_iff]
      simp
    rw [exactMembers, Bool.and_eq_true, Bool.and_eq_true, hkey, exactMembers_iff, Object.Distinct,
      Object.Distinct, List.map_cons, List.nodup_cons, List.forall_mem_cons]
    tauto

/-! ## Writable values -/

mutual

/-- A value that JSON text can write: no name stands twice in an object, integers are not too long, and the
only NaN is the one that is read. -/
def isWritable : Value → Bool
  | .null | .bool _ | .text _ => true
  | .int n => (Nat.toDigits 10 n.natAbs).length ≤ Numeral.maxDigits
  | .float x => !x.isNaN || x == .nan
  | .list items => writableItems items
  | .object members => writableMembers members
  | .table entries => writableEntries entries

def writableItems : List Value → Bool
  | [] => true
  | v :: vs => isWritable v && writableItems vs

def writableMembers : List (String × Value) → Bool
  | [] => true
  | (key, v) :: rest => !Object.has rest key && isWritable v && writableMembers rest

def writableEntries : List (Value × Value) → Bool
  | [] => true
  | (key, v) :: rest => isWritable key && isWritable v && writableEntries rest

end

theorem writableItems_iff : ∀ {items : List Value}, writableItems items = true ↔ ∀ v ∈ items, isWritable v = true
  | [] => by simp [writableItems]
  | v :: vs => by simp [writableItems, writableItems_iff]

theorem writableMembers_iff : ∀ {members : Object}, writableMembers members = true ↔
    members.Distinct ∧ ∀ m ∈ members, isWritable m.2 = true
  | [] => by simp [writableMembers, Object.Distinct]
  | (key, v) :: rest => by
    have hkey : (!Object.has rest key) = true ↔ key ∉ rest.map (·.1) := by
      rw [← Object.has_iff]
      simp
    rw [writableMembers, Bool.and_eq_true, Bool.and_eq_true, hkey, writableMembers_iff, Object.Distinct,
      Object.Distinct, List.map_cons, List.nodup_cons, List.forall_mem_cons]
    tauto

theorem writableEntries_iff : ∀ {entries : List (Value × Value)}, writableEntries entries = true ↔
    ∀ e ∈ entries, isWritable e.1 = true ∧ isWritable e.2 = true
  | [] => by simp [writableEntries]
  | (key, v) :: rest => by
    rw [writableEntries, Bool.and_eq_true, Bool.and_eq_true, writableEntries_iff, List.forall_mem_cons]

theorem publishedItems_eq_map : ∀ items : List Value, publishedItems items = items.map published
  | [] => rfl
  | v :: vs => by rw [publishedItems, publishedItems_eq_map vs, List.map_cons]

theorem names_publishedMembers : ∀ members : Object, (publishedMembers members).map (·.1) = members.map (·.1)
  | [] => rfl
  | (key, v) :: rest => by rw [publishedMembers, List.map_cons, List.map_cons, names_publishedMembers rest]

mutual

/-- Every writable value is read as it is published. -/
theorem reads_of_writable {layout : Layout} (hl : layout.Readable) : ∀ v : Value, isWritable v = true →
    Reads layout v (published v)
  | .null, _ => reads_null layout
  | .bool b, _ => reads_bool layout b
  | .int _, h => reads_int layout (by simpa [isWritable] using h)
  | .float x, h => reads_float layout (by simpa [isWritable] using h)
  | .text s, _ => reads_text layout s
  | .list items, h => by
    rw [isWritable] at h
    rw [published]
    exact reads_list hl (readsItems_of_writable hl items h)
  | .object members, h => by
    rw [isWritable] at h
    have hdistinct : Object.Distinct (publishedMembers members) := by
      rw [Object.Distinct, names_publishedMembers]
      exact (writableMembers_iff.1 h).1
    have hreads := reads_object hl (readsMembers_of_writable hl members h)
    rwa [Object.ofPairs_of_distinct hdistinct, ← published] at hreads
  | .table entries, h => by
    rw [isWritable] at h
    have hreads := reads_object hl (readsEntries_of_writable hl entries h)
    unfold Reads at hreads ⊢
    simpa only [write_table, published] using hreads

theorem readsItems_of_writable {layout : Layout} (hl : layout.Readable) : ∀ items : List Value, writableItems items = true →
    List.Forall₂ (Reads layout) items (publishedItems items)
  | [], _ => .nil
  | v :: vs, h => by
    rw [writableItems, Bool.and_eq_true] at h
    exact .cons (reads_of_writable hl v h.1) (readsItems_of_writable hl vs h.2)

theorem readsMembers_of_writable {layout : Layout} (hl : layout.Readable) : ∀ members : Object,
    writableMembers members = true → ReadsMembers layout members (publishedMembers members)
  | [], _ => .nil
  | (key, v) :: rest, h => by
    rw [writableMembers, Bool.and_eq_true, Bool.and_eq_true] at h
    exact .cons ⟨rfl, reads_of_writable hl v h.1.2⟩ (readsMembers_of_writable hl rest h.2)

theorem readsEntries_of_writable {layout : Layout} (hl : layout.Readable) : ∀ entries : List (Value × Value),
    writableEntries entries = true → ReadsMembers layout (namedMembers entries) (publishedEntries entries)
  | [], _ => .nil
  | (key, v) :: rest, h => by
    rw [writableEntries, Bool.and_eq_true, Bool.and_eq_true] at h
    exact .cons ⟨rfl, reads_of_writable hl v h.1.2⟩ (readsEntries_of_writable hl rest h.2)

end

/-! ## Documents -/

/-- The one value of a document is that as which its text is read. -/
theorem read_of_reads {layout : Layout} {v w : Value} (h : Reads layout v w) : read (render layout v) = .ok w := by
  obtain ⟨ho, hread⟩ := h 0
  have hmark : (write layout 0 v).head? ≠ some '\uFEFF' := by
    obtain ⟨c, cs, hcs, -, -, -, hc⟩ := ho
    rw [hcs]
    simpa using hc
  have hvalue := hread (2 * (write layout 0 v).length + 2) [] (by simp [Ends]) (by omega)
  rw [List.append_nil] at hvalue
  have hdocument : readDocument (write layout 0 v) = .ok w := by
    rw [readDocument, if_neg hmark, ho.skipSpace, hvalue]
    rfl
  simp only [read, render, String.toList_ofList, hdocument]

/-- What is read from a text is the one value in it. -/
theorem readValue_of_read {text : String} {v : Value} (h : read text = .ok v) :
    ∃ fuel rest, readValue fuel (skipSpace text.toList) = .ok (v, rest) ∧ skipSpace rest = [] := by
  have hdocument : readDocument text.toList = .ok v := by
    unfold read at h
    split at h
    · next hdocument => exact hdocument.trans (congrArg _ (Except.ok.inj h))
    · cases h
    · cases h
  unfold readDocument at hdocument
  split at hdocument
  · cases hdocument
  · split at hdocument
    · cases hdocument
    · next hvalue =>
      split at hdocument
      · next hend =>
        cases hdocument
        exact ⟨_, _, hvalue, hend⟩
      · cases hdocument

/-- A writable value is read from its text as it is published. -/
theorem read_render_published {layout : Layout} (hl : layout.Readable) {v : Value} (h : isWritable v = true) :
    read (render layout v) = .ok (published v) :=
  read_of_reads (reads_of_writable hl v h)

mutual

/-- An exact value is writable. -/
theorem writable_of_exact : ∀ {v : Value}, isExact v = true → isWritable v = true
  | .null, _ | .bool _, _ | .text _, _ => rfl
  | .int _, h => by simpa [isExact, isWritable] using h
  | .list items, h => by
    rw [isExact] at h
    rw [isWritable, writableItems_of_exact h]
  | .object members, h => by
    rw [isExact] at h
    rw [isWritable, writableMembers_of_exact h]
  | .float _, h | .table _, h => by simp [isExact] at h

theorem writableItems_of_exact : ∀ {items : List Value}, exactItems items = true → writableItems items = true
  | [], _ => rfl
  | v :: vs, h => by
    rw [exactItems, Bool.and_eq_true] at h
    rw [writableItems, writable_of_exact h.1, writableItems_of_exact h.2, Bool.true_and]

theorem writableMembers_of_exact : ∀ {members : Object}, exactMembers members = true → writableMembers members = true
  | [], _ => rfl
  | (key, v) :: rest, h => by
    rw [exactMembers, Bool.and_eq_true, Bool.and_eq_true] at h
    rw [writableMembers, h.1.1, writable_of_exact h.1.2, writableMembers_of_exact h.2]
    rfl

end

mutual

/-- An exact value is published as it is. -/
theorem published_of_exact : ∀ {v : Value}, isExact v = true → published v = v
  | .null, _ | .bool _, _ | .int _, _ | .text _, _ => by simp only [published]
  | .list items, h => by
    rw [isExact] at h
    rw [published, publishedItems_of_exact h]
  | .object members, h => by
    rw [isExact] at h
    rw [published, publishedMembers_of_exact h]
  | .float _, h | .table _, h => by simp [isExact] at h

theorem publishedItems_of_exact : ∀ {items : List Value}, exactItems items = true → publishedItems items = items
  | [], _ => rfl
  | v :: vs, h => by
    rw [exactItems, Bool.and_eq_true] at h
    rw [publishedItems, published_of_exact h.1, publishedItems_of_exact h.2]

theorem publishedMembers_of_exact : ∀ {members : Object}, exactMembers members = true →
    publishedMembers members = members
  | [], _ => rfl
  | (key, v) :: rest, h => by
    rw [exactMembers, Bool.and_eq_true, Bool.and_eq_true] at h
    rw [publishedMembers, published_of_exact h.1.2, publishedMembers_of_exact h.2]

end

/-- An exact value is read from its text as it is. -/
theorem read_render {layout : Layout} (hl : layout.Readable) {v : Value} (h : isExact v = true) :
    read (render layout v) = .ok v := by
  rw [read_render_published hl (writable_of_exact h), published_of_exact h]

end Workflows.Json
