import ActionDispatch.TypeName
import Mathlib.Data.List.Forall2

/-!
# What short names keep

A name with type arguments is cut into pieces, and its short form has the same cuts with the last part of
each piece between them (`short_keeps_structure`). No short form has a separator left, so that it is its own
short form. A name without type arguments counts as one path, and if a cut stands before its last separator,
as in a tuple of paths, the cut and all that precedes it are lost (`short_eq_piecewise_iff`).
-/

namespace ActionDispatch.TypeName

/-- What stands between the parts of a path. -/
def separator : List Char := [':', ':']

/-- A path and its last part: what follows the last separator, or the whole path if it has none. -/
inductive LastPart : List Char → List Char → Prop
  | whole {path} (plain : ¬separator <:+: path) : LastPart path path
  /-- No separator begins later, not even with the second colon of this one. -/
  | after (lead) {name} (last : ¬separator <:+: ':' :: name) : LastPart (lead ++ separator ++ name) name

variable {full path name lead before after : List Char} {c cut : Char}

theorem separator_infix_cons :
    separator <:+: c :: after ↔ (c = ':' ∧ ∃ tail, after = ':' :: tail) ∨ separator <:+: after := by
  rw [List.infix_cons_iff]
  refine or_congr_left ⟨?_, ?_⟩
  · rintro ⟨tail, same⟩
    cases same
    exact ⟨rfl, tail, rfl⟩
  · rintro ⟨rfl, tail, rfl⟩
    exact ⟨tail, rfl⟩

/-! ### One path -/

/-- Without a separator further on, one can only begin right here. -/
theorem afterLastSeparator_cons (h : afterLastSeparator after = none) :
    afterLastSeparator (c :: after) = if c = ':' ∧ after.head? = some ':' then some after.tail else none := by
  rw [afterLastSeparator.eq_def]
  dsimp only
  rw [h]
  rcases after with _ | ⟨d, tail⟩
  · simp
  · grind

theorem afterLastSeparator_cons_of_some (h : afterLastSeparator after = some name) :
    afterLastSeparator (c :: after) = some name := by
  rw [afterLastSeparator.eq_def]
  dsimp only
  rw [h]

theorem afterLastSeparator_eq_none_iff : afterLastSeparator path = none ↔ ¬separator <:+: path := by
  induction path with
  | nil => simp [afterLastSeparator, separator]
  | cons c rest ih =>
    rw [separator_infix_cons, not_or, ← ih]
    cases later : afterLastSeparator rest with
    | some tail => simp [afterLastSeparator_cons_of_some later]
    | none => cases rest <;> simp [afterLastSeparator_cons later]

theorem afterLastSeparator_eq_some (h : afterLastSeparator path = some name) :
    ∃ lead, path = lead ++ separator ++ name ∧ ¬separator <:+: ':' :: name := by
  induction path with
  | nil => cases h
  | cons c rest ih =>
    cases later : afterLastSeparator rest with
    | some tail =>
      cases (afterLastSeparator_cons_of_some later).symm.trans h
      obtain ⟨lead, rfl, last⟩ := ih later
      exact ⟨c :: lead, rfl, last⟩
    | none =>
      rw [afterLastSeparator_cons later] at h
      split at h
      · next here =>
        obtain ⟨rfl, colon⟩ := here
        obtain ⟨tail, rfl⟩ := List.head?_eq_some_iff.1 colon
        cases h
        exact ⟨[], rfl, afterLastSeparator_eq_none_iff.1 later⟩
      · cases h

theorem stripPath_lastPart (path : List Char) : LastPart path (stripPath path) := by
  rw [stripPath]
  cases found : afterLastSeparator path with
  | none => exact .whole (afterLastSeparator_eq_none_iff.1 found)
  | some name =>
    obtain ⟨lead, rfl, last⟩ := afterLastSeparator_eq_some found
    exact .after lead last

namespace LastPart

/-- The last part is one part only. -/
theorem plain (h : LastPart path name) : ¬separator <:+: name := by
  cases h with
  | whole plain => exact plain
  | after lead last => exact fun later => last (later.trans (List.suffix_cons ':' name).isInfix)

theorem suffix (h : LastPart path name) : name <:+ path := by
  cases h with
  | whole => exact List.suffix_rfl
  | after lead => exact List.suffix_append _ _

end LastPart

theorem stripPath_eq_self (plain : ¬separator <:+: path) : stripPath path = path := by
  rw [stripPath, afterLastSeparator_eq_none_iff.2 plain]
  rfl

/-! ### Pieces -/

/-- What stands between cuts has no cut. -/
structure Cutting (pieces : List Char × List (Char × List Char)) : Prop where
  first : ∀ c ∈ pieces.1, isCut c = false
  cuts : ∀ other ∈ pieces.2, isCut other.1 = true
  others : ∀ other ∈ pieces.2, ∀ c ∈ other.2, isCut c = false

theorem pieces_of_isCut (h : isCut c = true) (rest : List Char) :
    pieces (c :: rest) = ([], (c, (pieces rest).1) :: (pieces rest).2) := by
  rw [pieces]
  exact if_pos h

theorem pieces_of_not_isCut (h : isCut c = false) (rest : List Char) :
    pieces (c :: rest) = (c :: (pieces rest).1, (pieces rest).2) := by
  rw [pieces]
  exact if_neg (Bool.eq_false_iff.1 h)

theorem pieces_cutting (full : List Char) : Cutting (pieces full) := by
  induction full with
  | nil => exact ⟨nofun, nofun, nofun⟩
  | cons c rest ih =>
    cases h : isCut c with
    | true =>
      rw [pieces_of_isCut h]
      exact ⟨nofun, List.forall_mem_cons.2 ⟨h, ih.cuts⟩, List.forall_mem_cons.2 ⟨ih.first, ih.others⟩⟩
    | false =>
      rw [pieces_of_not_isCut h]
      exact ⟨List.forall_mem_cons.2 ⟨h, ih.first⟩, ih.cuts, ih.others⟩

/-- The pieces are what the cuts leave between them. -/
theorem pieces_splitOnP (full : List Char) :
    (pieces full).1 :: (pieces full).2.map Prod.snd = full.splitOnP isCut := by
  induction full with
  | nil => rfl
  | cons c rest ih =>
    rw [List.splitOnP_cons_eq_if_modifyHead, ← ih]
    cases h : isCut c with
    | true => rw [pieces_of_isCut h, if_pos rfl, List.map_cons]
    | false => rw [pieces_of_not_isCut h, if_neg Bool.false_ne_true, List.modifyHead_cons]

theorem pieces_cuts (full : List Char) : (pieces full).2.map Prod.fst = full.filter isCut := by
  induction full with
  | nil => rfl
  | cons c rest ih =>
    cases h : isCut c with
    | true => rw [pieces_of_isCut h, List.map_cons, ih, List.filter_cons_of_pos h]
    | false => rw [pieces_of_not_isCut h, ih, List.filter_cons_of_neg (Bool.eq_false_iff.1 h)]

theorem pieces_append_cut (before after : List Char) (h : isCut cut = true) :
    pieces (before ++ cut :: after) =
      ((pieces before).1, (pieces before).2 ++ (cut, (pieces after).1) :: (pieces after).2) := by
  induction before with
  | nil => exact pieces_of_isCut h after
  | cons c rest ih =>
    rw [List.cons_append]
    cases hc : isCut c with
    | true => rw [pieces_of_isCut hc, pieces_of_isCut hc, ih, List.cons_append]
    | false => rw [pieces_of_not_isCut hc, pieces_of_not_isCut hc, ih]

theorem pieces_of_uncut (h : ∀ c ∈ full, isCut c = false) : pieces full = (full, []) := by
  induction full with
  | nil => rfl
  | cons c rest ih =>
    obtain ⟨hc, hrest⟩ := List.forall_mem_cons.1 h
    rw [pieces_of_not_isCut hc, ih hrest]

/-- Pieces that are put together are cut apart again. -/
theorem Cutting.pieces_ofPieces {parts : List Char × List (Char × List Char)} (h : Cutting parts) :
    pieces (ofPieces parts) = parts := by
  obtain ⟨first, others⟩ := parts
  induction others generalizing first with
  | nil =>
    rw [ofPieces, List.flatMap_nil, List.append_nil]
    exact pieces_of_uncut h.first
  | cons other others ih =>
    obtain ⟨cut, piece⟩ := other
    obtain ⟨hcut, hcuts⟩ := List.forall_mem_cons.1 h.cuts
    obtain ⟨hpiece, hothers⟩ := List.forall_mem_cons.1 h.others
    have rest : pieces (ofPieces (piece, others)) = (piece, others) := ih piece ⟨hpiece, hcuts, hothers⟩
    rw [ofPieces] at rest
    rw [ofPieces, List.flatMap_cons, List.cons_append, pieces_append_cut _ _ hcut, pieces_of_uncut h.first,
      rest]
    rfl

/-! ### Names with type arguments -/

theorem pieces_stripPaths (full : List Char) :
    pieces (stripPaths full) =
      (stripPath (pieces full).1, (pieces full).2.map fun other => (other.1, stripPath other.2)) := by
  obtain ⟨first, cuts, others⟩ := pieces_cutting full
  have uncut {path : List Char} (h : ∀ c ∈ path, isCut c = false) : ∀ c ∈ stripPath path, isCut c = false :=
    fun c hc => h c ((stripPath_lastPart path).suffix.mem hc)
  refine Cutting.pieces_ofPieces ⟨uncut first, ?_, ?_⟩
  · exact List.forall_mem_map.2 cuts
  · exact List.forall_mem_map.2 fun other h => uncut (others other h)

theorem stripPaths_filter (full : List Char) : (stripPaths full).filter isCut = full.filter isCut := by
  rw [← pieces_cuts, ← pieces_cuts, pieces_stripPaths, List.map_map]
  rfl

theorem stripPaths_splitOnP (full : List Char) :
    (stripPaths full).splitOnP isCut = (full.splitOnP isCut).map stripPath := by
  rw [← pieces_splitOnP, ← pieces_splitOnP, pieces_stripPaths, List.map_cons, List.map_map, List.map_map]
  rfl

/-- A piece begins with a colon just if what it is cut from does. -/
theorem pieces_colon (full : List Char) :
    (∃ tail, (pieces full).1 = ':' :: tail) ↔ ∃ tail, full = ':' :: tail := by
  cases full with
  | nil => exact ⟨nofun, nofun⟩
  | cons c rest =>
    cases h : isCut c with
    | true =>
      rw [pieces_of_isCut h]
      refine ⟨nofun, ?_⟩
      rintro ⟨tail, same⟩
      cases same
      cases h
    | false =>
      rw [pieces_of_not_isCut h]
      constructor
      · rintro ⟨tail, same⟩
        cases same
        exact ⟨rest, rfl⟩
      · rintro ⟨tail, same⟩
        cases same
        exact ⟨_, rfl⟩

/-- A separator does not reach over a cut. -/
theorem separator_infix_iff (full : List Char) :
    separator <:+: full ↔ ∃ piece ∈ full.splitOnP isCut, separator <:+: piece := by
  rw [← pieces_splitOnP]
  induction full with
  | nil => simp [pieces]
  | cons c rest ih =>
    simp only [List.mem_cons, exists_eq_or_imp] at ih ⊢
    cases h : isCut c with
    | true =>
      have hc : c ≠ ':' := by
        rintro rfl
        cases h
      rw [pieces_of_isCut h, separator_infix_cons, ih]
      simp [hc, separator]
    | false =>
      rw [pieces_of_not_isCut h, separator_infix_cons, ih, separator_infix_cons, pieces_colon, or_assoc]

theorem stripPaths_plain (full : List Char) : ¬separator <:+: stripPaths full := by
  rw [separator_infix_iff, stripPaths_splitOnP]
  rintro ⟨_, hpiece, inside⟩
  obtain ⟨piece, -, rfl⟩ := List.mem_map.1 hpiece
  exact (stripPath_lastPart piece).plain inside

theorem stripPaths_eq_self (plain : ¬separator <:+: full) : stripPaths full = full := by
  have kept : ∀ piece ∈ full.splitOnP isCut, stripPath piece = piece := fun piece hpiece =>
    stripPath_eq_self fun inside => plain ((separator_infix_iff full).2 ⟨piece, hpiece, inside⟩)
  rw [← pieces_splitOnP, List.forall_mem_cons, List.forall_mem_map] at kept
  have same : pieces (stripPaths full) = pieces full := by
    rw [pieces_stripPaths]
    refine Prod.ext kept.1 ?_
    calc (pieces full).2.map (fun other => (other.1, stripPath other.2))
      _ = (pieces full).2.map id :=
        List.map_congr_left fun other h => congrArg (Prod.mk other.1) (kept.2 other h)
      _ = (pieces full).2 := List.map_id _
  rw [← ofPieces_pieces (stripPaths full), same, ofPieces_pieces]

/-- The paths on the two sides of a cut are stripped apart from each other. -/
theorem stripPaths_append_cut (before after : List Char) (h : isCut cut = true) :
    stripPaths (before ++ cut :: after) = stripPaths before ++ cut :: stripPaths after := by
  rw [stripPaths, pieces_append_cut _ _ h]
  simp [stripPaths, ofPieces]

theorem stripPaths_of_uncut (h : ∀ c ∈ full, isCut c = false) : stripPaths full = stripPath full := by
  rw [stripPaths, pieces_of_uncut h]
  exact List.append_nil _

/-! ### Short forms -/

theorem toList_short (full : String) : (short full).toList = shorten full.toList :=
  String.toList_ofList

theorem shorten_plain (full : List Char) : ¬separator <:+: shorten full := by
  rw [shorten]
  split
  · exact stripPaths_plain full
  · exact (stripPath_lastPart full).plain

theorem shorten_eq_self (plain : ¬separator <:+: full) : shorten full = full := by
  rw [shorten]
  split
  · exact stripPaths_eq_self plain
  · exact stripPath_eq_self plain

/-- The short form of a name with type arguments has the cuts of the name, in the same order, and between
them the last part of each piece. No short form has a separator, and every short form is its own. -/
theorem short_keeps_structure (full : String) :
    ('<' ∈ full.toList →
      (short full).toList.filter isCut = full.toList.filter isCut ∧
      List.Forall₂ LastPart (full.toList.splitOnP isCut) ((short full).toList.splitOnP isCut)) ∧
    ¬separator <:+: (short full).toList ∧
    short (short full) = short full := by
  rw [toList_short]
  refine ⟨fun generic => ?_, shorten_plain full.toList, ?_⟩
  · rw [shorten, if_pos generic]
    refine ⟨stripPaths_filter full.toList, ?_⟩
    rw [stripPaths_splitOnP, List.forall₂_map_right_iff, List.forall₂_same]
    exact fun piece _ => stripPath_lastPart piece
  · rw [short, toList_short, shorten_eq_self (shorten_plain full.toList)]
    rfl

/-- Pieces may be empty, a separator may be empty on both sides, and colons may come in threes. -/
theorem ragged_name_short :
    '<' ∈ "::<é::Ü:::a, [::]>::f::".toList ∧
    short "::<é::Ü:::a, [::]>::f::" = "<a, []>" ∧
    List.Forall₂ LastPart ("::<é::Ü:::a, [::]>::f::".toList.splitOnP isCut)
      ("<a, []>".toList.splitOnP isCut) := by
  have generic : '<' ∈ "::<é::Ü:::a, [::]>::f::".toList := by decide
  refine ⟨generic, by decide, ?_⟩
  exact ((short_keeps_structure "::<é::Ü:::a, [::]>::f::").1 generic).2

/-! ### Names without type arguments -/

theorem first_cut (path : List Char) :
    (∀ c ∈ path, isCut c = false) ∨ ∃ before cut after, path = before ++ cut :: after ∧
      isCut cut = true ∧ ∀ c ∈ before, isCut c = false := by
  cases found : path.find? isCut with
  | none => exact .inl fun c hc => Bool.eq_false_iff.2 (List.find?_eq_none.1 found c hc)
  | some cut =>
    obtain ⟨hcut, before, after, rfl, uncut⟩ := List.find?_eq_some_iff_append.1 found
    exact .inr ⟨before, cut, after, rfl, hcut, fun c hc => by simpa using uncut c hc⟩

theorem last_cut (path : List Char) :
    (∀ c ∈ path, isCut c = false) ∨ ∃ before cut after, path = before ++ cut :: after ∧
      isCut cut = true ∧ ∀ c ∈ after, isCut c = false := by
  rcases first_cut path.reverse with uncut | ⟨before, cut, after, split, hcut, uncut⟩
  · exact .inl fun c hc => uncut c (List.mem_reverse.2 hc)
  · refine .inr ⟨after.reverse, cut, before.reverse, ?_, hcut, fun c hc => uncut c (List.mem_reverse.1 hc)⟩
    rw [← List.reverse_reverse path, split]
    simp

theorem stripPath_of_separator (lead : List Char) (last : ¬separator <:+: ':' :: name) :
    stripPath (lead ++ separator ++ name) = name := by
  have found : afterLastSeparator (lead ++ separator ++ name) = some name := by
    induction lead with
    | nil => exact (afterLastSeparator_cons (afterLastSeparator_eq_none_iff.2 last)).trans (if_pos ⟨rfl, rfl⟩)
    | cons c lead ih => exact afterLastSeparator_cons_of_some ih
  rw [stripPath, found]
  rfl

/-- As long as the last separator is in the first piece, nothing else is stripped. -/
theorem stripPaths_of_separator (uncut : ∀ c ∈ lead, isCut c = false)
    (last : ¬separator <:+: ':' :: name) : stripPaths (lead ++ separator ++ name) = name := by
  have uncut_append {path : List Char} (h : ∀ c ∈ path, isCut c = false) :
      ∀ c ∈ lead ++ separator ++ path, isCut c = false := by
    intro c hc
    simp only [separator, List.mem_append, List.mem_cons, List.not_mem_nil, or_false, or_self] at hc
    rcases hc with (hc | rfl) | hc
    · exact uncut c hc
    · rfl
    · exact h c hc
  rcases first_cut name with h | ⟨first, cut, others, rfl, hcut, h⟩
  · rw [stripPaths_of_uncut (uncut_append h), stripPath_of_separator lead last]
  · have here : ¬separator <:+: ':' :: first := fun inside =>
      last (inside.trans (List.prefix_append (':' :: first) _).isInfix)
    have later : ¬separator <:+: others := fun inside =>
      last (inside.trans ⟨':' :: first ++ [cut], [], by simp⟩)
    rw [← List.append_assoc, stripPaths_append_cut _ _ hcut, stripPaths_of_uncut (uncut_append h),
      stripPath_of_separator lead here, stripPaths_eq_self later]

/-- No separator begins behind the last one. -/
theorem lead_prefix_of_last {other tail : List Char} (last : ¬separator <:+: ':' :: name)
    (same : lead ++ separator ++ name = other ++ separator ++ tail) : other <+: lead := by
  rw [List.append_assoc, List.append_assoc] at same
  rcases List.append_eq_append_iff.1 same with ⟨_ | ⟨colon, more⟩, rfl, split⟩ | ⟨more, rfl, -⟩
  · exact (List.append_nil lead).symm ▸ List.prefix_rfl
  · have second : ':' :: name = more ++ (separator ++ tail) := (List.cons.inj split).2
    exact (last ⟨more, tail, by rw [second, List.append_assoc]⟩).elim
  · exact List.prefix_append other more

/-- A name is shortened piece by piece if it has type arguments, or if no cut stands before its last
separator. Otherwise the short form begins behind the last of these cuts; the cut, and all that stands before
it, is what it has less than the name that is stripped piece by piece. -/
theorem short_eq_piecewise_iff (full : String) :
    ((short full).toList = stripPaths full.toList ↔
      '<' ∈ full.toList ∨
        ∀ lead name, full.toList = lead ++ separator ++ name → ∀ c ∈ lead, isCut c = false) ∧
    ((short full).toList ≠ stripPaths full.toList →
      ∃ before cut after, full.toList = before ++ cut :: after ∧ isCut cut = true ∧
        stripPaths full.toList = stripPaths before ++ cut :: (short full).toList) := by
  rw [toList_short]
  generalize full.toList = full
  have of_same {p q : Prop} (same : shorten full = stripPaths full) (h : p) :
      (shorten full = stripPaths full ↔ p) ∧ (shorten full ≠ stripPaths full → q) :=
    ⟨iff_of_true same h, fun differ => (differ same).elim⟩
  by_cases generic : '<' ∈ full
  · exact of_same (if_pos generic) (.inl generic)
  rw [or_iff_right generic]
  have whole : shorten full = stripPath full := if_neg generic
  cases found : afterLastSeparator full with
  | none =>
    have plain := afterLastSeparator_eq_none_iff.1 found
    refine of_same ((shorten_eq_self plain).trans (stripPaths_eq_self plain).symm) ?_
    rintro lead name rfl
    exact (plain (List.infix_append lead separator name)).elim
  | some name =>
    obtain ⟨lead, rfl, last⟩ := afterLastSeparator_eq_some found
    rw [stripPath_of_separator lead last] at whole
    rcases last_cut lead with uncut | ⟨before, cut, after, rfl, hcut, uncut⟩
    · refine of_same (whole.trans (stripPaths_of_separator uncut last).symm) fun other tail same c hc => ?_
      exact uncut c ((lead_prefix_of_last last same).mem hc)
    · have longer :
          stripPaths (before ++ cut :: after ++ separator ++ name) = stripPaths before ++ cut :: name := by
        rw [List.append_assoc, List.append_assoc, List.cons_append, stripPaths_append_cut _ _ hcut,
          ← List.append_assoc, stripPaths_of_separator uncut last]
      rw [whole, longer]
      refine ⟨iff_of_false (fun same => ?_) fun uncut => ?_, fun _ => ?_⟩
      · have lengths := congrArg List.length same
        rw [List.length_append, List.length_cons] at lengths
        omega
      · cases hcut.symm.trans (uncut _ name rfl cut (by simp))
      · exact ⟨before, cut, after ++ separator ++ name, by simp, hcut, rfl⟩

/-- A reference to a path loses its mark, and a tuple of paths its opening bracket, its first component and
the comma. -/
theorem tuple_short :
    short "&a::B" = "B" ∧ stripPaths "&a::B".toList = "&B".toList ∧
    short "(a::B, c::D)" = "D)" ∧ stripPaths "(a::B, c::D)".toList = "(B, D)".toList ∧
    ¬('<' ∈ "(a::B, c::D)".toList ∨
      ∀ lead name, "(a::B, c::D)".toList = lead ++ separator ++ name → ∀ c ∈ lead, isCut c = false) := by
  refine ⟨by decide, by decide, by decide, by decide, fun h => ?_⟩
  have same := (short_eq_piecewise_iff "(a::B, c::D)").1.2 h
  revert same
  decide

end ActionDispatch.TypeName
