/-
Plain paths. A path in which no character needs an escape, begins one or ends the path is the whole address
that it writes; below a server it stays what it is, unless it has dot segments; its escapes undo to itself;
and it falls into the segments that it was put together from.
-/
import Mathlib.Data.List.TakeWhile
import Mathlib.Tactic
import Workflows.Api.Route

namespace Workflows

open Workflows.Text

/-! ## Escapes -/

namespace Text

theorem percentEncode_safe {isSafe : Char → Bool} {cs : List Char} (h : ∀ c ∈ cs, isSafe c = true) :
    percentEncode isSafe cs = cs := by
  induction cs with
  | nil => rfl
  | cons c cs ih =>
    obtain ⟨hc, hcs⟩ := List.forall_mem_cons.1 h
    simp only [percentEncode, List.flatMap_cons, hc, if_true, List.singleton_append]
    exact congrArg _ (ih hcs)

theorem percentOctets_cons {c : Char} (h : c ≠ '%') (cs : List Char) :
    percentOctets (c :: cs) = utf8Char c.toNat ++ percentOctets cs := by
  rw [percentOctets]
  exact fun _ _ _ h' _ => h h'

theorem decodeUtf8_cons {code : Nat} (h : code < 128) (octets : List Nat) :
    decodeUtf8 (code :: octets) = Char.ofNat code :: decodeUtf8 octets := by
  simp [decodeUtf8, decodeUtf8From, h]

/-- Text of ASCII without a percent sign has no escapes to undo. -/
theorem percentDecode_plain {cs : List Char} (h : ∀ c ∈ cs, c.toNat < 128 ∧ c ≠ '%') : percentDecode cs = cs := by
  induction cs with
  | nil => rfl
  | cons c cs ih =>
    obtain ⟨⟨hc, hne⟩, hcs⟩ := List.forall_mem_cons.1 h
    rw [percentDecode, percentOctets_cons hne, utf8Char, if_pos hc, List.singleton_append, decodeUtf8_cons hc,
      Char.ofNat_toNat]
    exact congrArg _ (ih hcs)

end Text

namespace Url

/-! ## Reading -/

/-- A character that stands for itself in a path. -/
def isOwn (c : Char) : Bool := isPathChar c && c != '%'

theorem isPathChar_of_isOwn {c : Char} (h : isOwn c = true) : isPathChar c = true := (Bool.and_eq_true_iff.1 h).1

theorem bounds_of_isPathChar {c : Char} (h : isPathChar c = true) :
    32 < c.toNat ∧ c.toNat < 127 ∧ c ≠ '#' ∧ c ≠ '?' := by
  simp only [isPathChar, isPlainExcept, Bool.and_eq_true, decide_eq_true_eq, Bool.not_eq_true'] at h
  obtain ⟨⟨⟨hlow, hhigh⟩, hothers⟩, -⟩ := h
  refine ⟨hlow, hhigh, ?_, ?_⟩ <;>
  · rintro rfl
    exact absurd hothers (by decide)

theorem findControl_eq_none {cs : List Char} (h : ∀ c ∈ cs, 32 < c.toNat ∧ c.toNat < 127) (place : Nat) :
    findControl place cs = none := by
  induction cs generalizing place with
  | nil => rfl
  | cons c cs ih =>
    obtain ⟨⟨hlow, hhigh⟩, hcs⟩ := List.forall_mem_cons.1 h
    have hc : (c.toNat < 32 || c.toNat == 127) = false := by
      simp only [Bool.or_eq_false_iff, decide_eq_false_iff_not, beq_eq_false_iff_ne]
      omega
    simp only [findControl, hc, Bool.false_eq_true, if_false]
    exact ih hcs _

/-- A path of one slash and plain characters is written as nothing but a path. -/
theorem ofText_path {cs : List Char} (h : ∀ c ∈ '/' :: cs, isPathChar c = true) (hhead : cs.head? ≠ some '/') :
    Written.ofText ('/' :: cs) = { path := '/' :: cs } := by
  have hscheme : splitScheme ('/' :: cs) = ([], '/' :: cs) := rfl
  have hauthority : splitAuthority ('/' :: cs) = ([], '/' :: cs) := by
    unfold splitAuthority
    split
    · next rest heq =>
      rw [List.cons.inj heq |>.2] at hhead
      exact absurd rfl hhead
    · rfl
  have hwhole : ('/' :: cs).takeWhile (· != '#') = '/' :: cs :=
    List.takeWhile_eq_self_iff.2 fun c hc => by simpa using (bounds_of_isPathChar (h c hc)).2.2.1
  have hpath : ('/' :: cs).takeWhile (· != '?') = '/' :: cs :=
    List.takeWhile_eq_self_iff.2 fun c hc => by simpa using (bounds_of_isPathChar (h c hc)).2.2.2
  have hquery : behind? '?' ('/' :: cs) = none := by
    refine if_neg ?_
    simpa using fun hmem => (bounds_of_isPathChar (h _ (List.mem_cons_of_mem _ hmem))).2.2.2 rfl
  have hfragment : behind? '#' ('/' :: cs) = none := by
    refine if_neg ?_
    simpa using fun hmem => (bounds_of_isPathChar (h _ (List.mem_cons_of_mem _ hmem))).2.2.1 rfl
  have hserver : splitServer [] = ([], [], []) := rfl
  simp only [Written.ofText, hscheme, hauthority, hserver, hwhole, hpath, hquery, hfragment]

/-- The address of a scheme, a host and a path that fits behind them. -/
theorem ofWritten_path {w : Written} (host : String) (huser : w.user = []) (hport : w.port = []) (hquery : w.query = none)
    (hfragment : w.fragment = none) (hhost : hostText w.host = .ok host)
    (hpath : pathError? (!w.scheme.isEmpty) (host != "") w.path = none) :
    ofWritten w = .ok {
      scheme := lower (String.ofList w.scheme)
      user := ""
      host
      port := none
      path := escaped isPathChar (if !w.scheme.isEmpty || host != "" then normalPath w.path else w.path)
      query := none
      fragment := none } := by
  have husers : escaped isUserChar [] = "" := rfl
  have hports : portOf (String.ofList w.scheme) (String.ofList []) = .ok none := rfl
  simp only [ofWritten, huser, hport, hquery, hfragment, hhost, husers, hports, bind, Except.bind, bne_self_eq_false,
    Bool.false_or, Option.isSome_none, Bool.or_false, hpath]
  rfl

theorem parse_path {cs : List Char} (h : ∀ c ∈ '/' :: cs, isPathChar c = true) (hhead : cs.head? ≠ some '/')
    (hlength : cs.length < 65536) : parse (String.ofList ('/' :: cs)) =
      .ok ⟨"", "", "", none, String.ofList ('/' :: cs), none, none⟩ := by
  have hshort : ¬65536 < ('/' :: cs).length := by
    rw [List.length_cons]
    omega
  have hcontrol : findControl 0 ('/' :: cs) = none :=
    findControl_eq_none (fun c hc => ⟨(bounds_of_isPathChar (h c hc)).1, (bounds_of_isPathChar (h c hc)).2.1⟩) 0
  have hslashes : ['/', '/'].isPrefixOf ('/' :: cs) = false := by
    cases cs with
    | nil => rfl
    | cons c cs => simpa [List.isPrefixOf] using fun hc : '/' = c => hhead (by rw [← hc]; rfl)
  have hwritten : ofWritten { path := '/' :: cs } = .ok ⟨"", "", "", none, String.ofList ('/' :: cs), none, none⟩ := by
    rw [ofWritten_path "" rfl rfl rfl rfl rfl (by simp [pathError?, hslashes])]
    simp only [List.isEmpty_nil, Bool.not_true, bne_self_eq_false, Bool.or_self, Bool.false_eq_true, if_false, escaped,
      percentEncode_safe h]
    rfl
  rw [parse, String.toList_ofList, if_neg hshort, hcontrol]
  dsimp only
  rw [ofText_path h hhead, hwritten]

/-! ## Segments -/

/-- A path of segments, with a slash before each. -/
def joined (segments : List (List Char)) : List Char := segments.flatMap ('/' :: ·)

theorem splitOn_joined {segment : List Char} {segments : List (List Char)} (h : '/' ∉ segment)
    (hs : ∀ s ∈ segments, '/' ∉ s) : (segment ++ joined segments).splitOn '/' = segment :: segments := by
  induction segments generalizing segment with
  | nil => rw [joined, List.flatMap_nil, List.append_nil, List.splitOn_eq_singleton h]
  | cons next segments ih =>
    obtain ⟨hnext, hrest⟩ := List.forall_mem_cons.1 hs
    rw [joined, List.flatMap_cons, List.cons_append, List.splitOn_append_cons_self_of_not_mem h]
    exact congrArg _ (ih hnext hrest)

theorem followDots_plain {segments : List (List Char)} (h : ∀ s ∈ segments, s ≠ ['.'] ∧ s ≠ ['.', '.'])
    (kept : List (List Char)) : followDots kept segments = kept.reverse ++ segments := by
  induction segments generalizing kept with
  | nil => simp [followDots]
  | cons segment segments ih =>
    obtain ⟨⟨hone, htwo⟩, hrest⟩ := List.forall_mem_cons.1 h
    rw [followDots, if_neg hone, if_neg htwo, ih hrest, List.reverse_cons, List.append_assoc, List.singleton_append]

theorem normalPath_plain {path : List Char} (h : ∀ s ∈ path.splitOn '/', s ≠ ['.'] ∧ s ≠ ['.', '.']) :
    normalPath path = path := by
  rw [normalPath, followDots_plain h, List.reverse_nil, List.nil_append, List.intercalate_splitOn]

/-- Below the server a path without dot segments is kept. -/
theorem below_path {cs : List Char} (h : ∀ c ∈ '/' :: cs, isPathChar c = true) (hhead : cs.head? ≠ some '/')
    (hdots : ∀ s ∈ ('/' :: cs).splitOn '/', s ≠ ['.'] ∧ s ≠ ['.', '.']) :
    below Api.server ⟨"", "", "", none, String.ofList ('/' :: cs), none, none⟩ =
      .ok ⟨"http", "", "testserver", none, String.ofList ('/' :: cs), none, none⟩ := by
  have hshown : shownPath ⟨"", "", "", none, String.ofList ('/' :: cs), none, none⟩ = String.ofList ('/' :: cs) := by
    simp [shownPath, ← String.toList_inj]
  have hdrop : ('/' :: cs).dropWhile (· == '/') = cs := by
    cases cs with
    | nil => rfl
    | cons c cs =>
      have hc : (c == '/') = false := beq_eq_false_iff_ne.2 fun hc => hhead (by rw [hc]; rfl)
      simp [hc]
  have hhost : hostText "testserver".toList = .ok "testserver" := by decide +kernel
  have hscheme : lower (String.ofList Api.server.scheme) = "http" := by decide +kernel
  rw [below, hshown, String.toList_ofList, hdrop, ofWritten_path "testserver" rfl rfl rfl rfl hhost rfl]
  simp only [normalPath_plain hdots, ite_self, escaped, percentEncode_safe h, hscheme]

/-- A segment that stands for itself: of plain characters, not empty, and no dot segment. -/
structure Plain (segment : List Char) : Prop where
  chars : ∀ c ∈ segment, isOwn c = true ∧ c ≠ '/'
  filled : segment ≠ []
  dotless : segment ≠ ['.'] ∧ segment ≠ ['.', '.']

-- Through the characters of the segment: to go through all characters, as is possible too, would take too long.
theorem plain_iff {segment : List Char} : Plain segment ↔ segment.all (fun c => isOwn c && c != '/') = true ∧
    segment ≠ [] ∧ segment ≠ ['.'] ∧ segment ≠ ['.', '.'] :=
  ⟨fun h => ⟨by simpa using h.chars, h.filled, h.dotless⟩, fun h => ⟨by simpa using h.1, h.2.1, h.2.2⟩⟩

instance (segment : List Char) : Decidable (Plain segment) := decidable_of_iff _ plain_iff.symm

section

variable {segment : List Char} {segments : List (List Char)}

theorem own_of_joined (h : ∀ s ∈ segments, Plain s) : ∀ c ∈ joined segments, isOwn c = true := by
  intro c hc
  obtain ⟨s, hs, hc⟩ := List.mem_flatMap.1 hc
  rcases List.mem_cons.1 hc with rfl | hc
  · decide
  · exact ((h s hs).chars c hc).1

theorem noSlash_of_plain (h : ∀ s ∈ segments, Plain s) : ∀ s ∈ segments, '/' ∉ s :=
  fun s hs hslash => ((h s hs).chars '/' hslash).2 rfl

/-- What stands behind the first slash of a path of plain segments begins with no other. -/
theorem head_of_plain (h : Plain segment) (rest : List Char) : (segment ++ rest).head? ≠ some '/' := by
  obtain ⟨c, cs, rfl⟩ := List.exists_cons_of_ne_nil h.filled
  intro hhead
  exact (h.chars c List.mem_cons_self).2 (Option.some.inj hhead)

/-- The address of a path of segments at the server. -/
def servedAt (segments : List (List Char)) : Url :=
  ⟨"http", "", "testserver", none, String.ofList (joined segments), none, none⟩

/-- Plain segments below the server are an address with their path. -/
theorem parse_below_joined (h : ∀ s ∈ segment :: segments, Plain s)
    (hlength : (joined (segment :: segments)).length ≤ 65536) :
    (parse (String.ofList (joined (segment :: segments)))).bind (below Api.server) =
      .ok (servedAt (segment :: segments)) := by
  have hcons : joined (segment :: segments) = '/' :: (segment ++ joined segments) := by
    rw [joined, List.flatMap_cons, List.cons_append]
    rfl
  have hchars : ∀ c ∈ '/' :: (segment ++ joined segments), isPathChar c = true :=
    hcons ▸ fun c hc => isPathChar_of_isOwn (own_of_joined h c hc)
  obtain ⟨hfirst, hrest⟩ := List.forall_mem_cons.1 h
  have hhead := head_of_plain hfirst (joined segments)
  have hdots : ∀ s ∈ ('/' :: (segment ++ joined segments)).splitOn '/', s ≠ ['.'] ∧ s ≠ ['.', '.'] := by
    rw [← hcons, ← List.nil_append (joined _), splitOn_joined (by simp) (noSlash_of_plain h)]
    exact List.forall_mem_cons.2 ⟨by simp, fun s hs => (h s hs).dotless⟩
  have hshort : (segment ++ joined segments).length < 65536 := by
    rw [hcons, List.length_cons] at hlength
    omega
  simp only [servedAt, hcons, parse_path hchars hhead hshort, Except.bind, below_path hchars hhead hdots]

end

end Url

namespace Api

open Url

variable {segments : List (List Char)}

/-- The path of plain segments has no escapes to undo. -/
theorem pathOf_joined (hne : segments ≠ []) (h : ∀ s ∈ segments, Plain s) :
    pathOf (servedAt segments) = joined segments := by
  have hplain : ∀ c ∈ joined segments, c.toNat < 128 ∧ c ≠ '%' := fun c hc => by
    have hown := own_of_joined h c hc
    have hbounds := bounds_of_isPathChar (isPathChar_of_isOwn hown)
    refine ⟨by omega, ?_⟩
    rintro rfl
    exact absurd hown (by decide)
  have hshown : shownPath (servedAt segments) = String.ofList (joined segments) := by
    obtain ⟨s, rest, rfl⟩ := List.exists_cons_of_ne_nil hne
    simp [shownPath, servedAt, joined, ← String.toList_inj]
  rw [pathOf, hshown, String.toList_ofList, percentDecode_plain hplain, percentDecode_plain hplain]

/-- A request below the root of all routes, whose path is of plain segments, goes where they lead. -/
theorem route_joined {method : String} {target : Route} (h : ∀ s ∈ segments, Plain s)
    (hlength : (joined segments).length ≤ 65500)
    (htarget : (routesAt (segments.map String.ofList)).find? (·.1 == method) = some (method, target)) :
    ∃ url, address (String.ofList (joined segments)) = .ok url ∧ route method url = .found target := by
  have hwhole : "/api/v1" ++ String.ofList (joined segments) =
      String.ofList (joined (['a', 'p', 'i'] :: ['v', '1'] :: segments)) := by
    simp [← String.toList_inj, joined]
  have hplain : ∀ s ∈ ['a', 'p', 'i'] :: ['v', '1'] :: segments, Plain s := by
    simp only [List.forall_mem_cons]
    exact ⟨by decide, by decide, h⟩
  have hroutes : routesFor (joined (['a', 'p', 'i'] :: ['v', '1'] :: segments)) = routesAt (segments.map String.ofList) := by
    rw [routesFor, ← List.nil_append (joined _), splitOn_joined (by simp) (noSlash_of_plain hplain)]
    rfl
  refine ⟨servedAt (['a', 'p', 'i'] :: ['v', '1'] :: segments), ?_, ?_⟩
  · have hlonger : (joined (['a', 'p', 'i'] :: ['v', '1'] :: segments)).length = 7 + (joined segments).length := by
      simp [joined]
      omega
    rw [address, hwhole]
    exact parse_below_joined hplain (by rw [hlonger]; omega)
  · obtain ⟨first, others, hfirst⟩ : ∃ first others, routesAt (segments.map String.ofList) = first :: others := by
      refine List.exists_cons_of_ne_nil fun hnil => ?_
      rw [hnil] at htarget
      cases htarget
    rw [hfirst] at htarget
    have hwithin : routesWithin mostTurns (servedAt (['a', 'p', 'i'] :: ['v', '1'] :: segments)) = first :: others := by
      rw [mostTurns, routesWithin, pathOf_joined (by simp) hplain, hroutes, hfirst]
    simp only [route, hwithin, htarget]

end Api

end Workflows
