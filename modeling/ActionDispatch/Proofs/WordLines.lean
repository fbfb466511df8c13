import ActionDispatch.Text.Blank
import ActionDispatch.Yaml.Node
import Mathlib.Data.List.Basic

/-!
# Lines of words

The tokens of a document of lines `key: value`, in which keys and values are words of lower-case letters
and underscores (`tokens_lines`). A key that is not marked as one has at most 1024 octets, so longer words
do not go through as keys.

A line takes the lexer three steps, from the start of a line to the start of the next one: the key is held
back (`Lexer.step_key`), the colon makes a key of it (`Lexer.step_colon`), and the value ends with the line
(`Lexer.step_word`). A run over all lines is put together from them by induction (`Lexer.run_lines`).
-/

namespace ActionDispatch.Yaml

/-! ### Words -/

/-- A lower-case letter or an underscore. -/
def isWordChar (c : Char) : Bool := c.isLower || c == '_'

/-- A word of lower-case letters and underscores. -/
structure IsWord (word : String) : Prop where
  nonempty : word ≠ ""
  chars : ∀ c ∈ word.toList, isWordChar c = true

def line (pair : String × String) : String := pair.1 ++ ": " ++ pair.2 ++ "\n"

/-- One line for each pair. -/
def lines (pairs : List (String × String)) : String := String.join (pairs.map line)

theorem toList_lines_cons (pair : String × String) (pairs : List (String × String)) :
    (lines (pair :: pairs)).toList =
      pair.1.toList ++ ':' :: ' ' :: (pair.2.toList ++ '\n' :: (lines pairs).toList) := by
  simp [lines, line, String.join_cons]

def AreWords (pairs : List (String × String)) : Prop := ∀ pair ∈ pairs, IsWord pair.1 ∧ IsWord pair.2

/-- The first words are short enough for keys that are not marked as such. -/
def KeysFit (pairs : List (String × String)) : Prop := ∀ pair ∈ pairs, pair.1.length ≤ 1024

instance (word : String) : Decidable (IsWord word) :=
  decidable_of_iff (word ≠ "" ∧ word.toList.all isWordChar = true)
    ⟨fun h => ⟨h.1, List.all_eq_true.1 h.2⟩, fun h => ⟨h.nonempty, List.all_eq_true.2 h.chars⟩⟩

instance (pairs : List (String × String)) : Decidable (AreWords pairs) :=
  inferInstanceAs (Decidable (∀ pair ∈ pairs, _))

instance (pairs : List (String × String)) : Decidable (KeysFit pairs) :=
  inferInstanceAs (Decidable (∀ pair ∈ pairs, _))

theorem IsWord.toList_ne_nil {word : String} (h : IsWord word) : word.toList ≠ [] :=
  fun empty => h.nonempty (String.toList_eq_nil_iff.1 empty)

section Characters

variable {c d : Char}

theorem ne_of_isWordChar (h : isWordChar c = true) (hd : isWordChar d = false) : c ≠ d := by
  rintro rfl
  cases h.symm.trans hd

theorem beq_of_isWordChar (h : isWordChar c = true) (hd : isWordChar d = false) : (c == d) = false :=
  beq_eq_false_iff_ne.2 (ne_of_isWordChar h hd)

theorem toNat_of_isWordChar (h : isWordChar c = true) : 95 ≤ c.toNat ∧ c.toNat ≤ 122 := by
  rw [isWordChar, Bool.or_eq_true, beq_iff_eq] at h
  rcases h with lower | rfl
  · unfold Char.isLower at lower
    rw [Bool.and_eq_true, decide_eq_true_iff, decide_eq_true_iff, ge_iff_le,
      UInt32.le_iff_toNat_le, UInt32.le_iff_toNat_le] at lower
    exact ⟨Nat.le_trans (by decide) lower.1, lower.2⟩
  · decide

theorem isBlank_of_isWordChar (h : isWordChar c = true) : isBlank c = false := by
  simp (disch := decide) [isBlank, ne_of_isWordChar h]

theorem isBreak_of_isWordChar (h : isWordChar c = true) : isBreak c = false := by
  simp (disch := decide) [isBreak, ne_of_isWordChar h]

theorem visible_of_isWordChar (h : isWordChar c = true) : Text.isBlank c = false := by
  have := toNat_of_isWordChar h
  simp only [Text.isBlank, Bool.or_eq_false_iff, Bool.and_eq_false_iff, decide_eq_false_iff_not,
    beq_eq_false_iff_ne]
  omega

theorem isPermitted_of_isWordChar (h : isWordChar c = true) : isPermitted c = true := by
  have := toNat_of_isWordChar h
  simp only [isPermitted, Bool.or_eq_true, Bool.and_eq_true, decide_eq_true_iff]
  omega

theorem utf8Size_of_isWordChar (h : isWordChar c = true) : c.utf8Size = 1 := by
  have := toNat_of_isWordChar h
  rw [Char.utf8Size_eq_one_iff, UInt32.le_iff_toNat_le]
  exact Nat.le_trans this.2 (by decide)

theorem octetCount_of_isWordChar {word : List Char} (h : ∀ c ∈ word, isWordChar c = true) :
    octetCount word = word.length := by
  have from_count (n : Nat) : word.foldl (· + ·.utf8Size) n = n + word.length := by
    induction word generalizing n with
    | nil => rfl
    | cons c word ih =>
      rw [List.foldl_cons, utf8Size_of_isWordChar (h c List.mem_cons_self),
        ih fun d hd => h d (List.mem_cons_of_mem _ hd), List.length_cons]
      omega
  rw [octetCount, from_count, Nat.zero_add]

end Characters

/-- A plain scalar gets no further here. -/
theorem plainWord_append {word tail : List Char} (h : ∀ c ∈ word, isWordChar c = true)
    (stops : plainWord false tail = some []) : plainWord false (word ++ tail) = some word := by
  induction word with
  | nil => exact stops
  | cons c word ih =>
    have hc := h c List.mem_cons_self
    rw [List.cons_append, plainWord, ih fun d hd => h d (List.mem_cons_of_mem _ hd)]
    simp (disch := decide) [isBlank_of_isWordChar hc, isBreak_of_isWordChar hc, ne_of_isWordChar hc]

/-! ### The whole text counts -/

theorem splitOctets_append (room : Nat) (cs : List Char) :
    (splitOctets room cs).1 ++ (splitOctets room cs).2 = cs := by
  induction cs generalizing room with
  | nil => rfl
  | cons c cs ih =>
    rw [splitOctets]
    split
    · exact congrArg (c :: ·) (ih _)
    · rfl

theorem checkedPortions_of_permitted {cs : List Char} (permitted : ∀ c ∈ cs, isPermitted c = true)
    {fuel : Nat} (enough : cs.length < fuel) : checkedPortions fuel cs = (cs, true) := by
  induction fuel generalizing cs with
  | zero => cases enough
  | succ fuel ih =>
    match cs with
    | [] => rfl
    | c :: cs =>
      have size : c.utf8Size ≤ 16384 := Nat.le_trans c.utf8Size_le_four (by decide)
      have whole : (splitOctets (16384 - c.utf8Size) cs).1 ++ (splitOctets (16384 - c.utf8Size) cs).2 = cs :=
        splitOctets_append _ cs
      rw [checkedPortions, splitOctets, if_pos size]
      case x_2 => exact nofun
      generalize splitOctets (16384 - c.utf8Size) cs = split at whole
      obtain ⟨portion, others⟩ := split
      subst whole
      have first : (c :: portion).all isPermitted = true :=
        List.all_eq_true.2 fun d hd => permitted d (by simp at hd ⊢; tauto)
      have rest : checkedPortions fuel others = (others, true) :=
        ih (fun d hd => permitted d (by simp [hd])) (by simp at enough; omega)
      simp [first, rest]

theorem checked_of_permitted {text : String} (permitted : ∀ c ∈ text.toList, isPermitted c = true) :
    checked text = (text.toList, true) :=
  checkedPortions_of_permitted permitted (by rw [String.length_toList]; exact Nat.lt_succ_self _)

/-! ### Steps over a line -/

/-- Nothing comes, or a word, or a colon. -/
def Stands (rest : List Char) : Prop := ∀ b, rest.head? = some b → isWordChar b = true ∨ b = ':'

theorem stands_of_word {b : Char} {rest : List Char} (h : isWordChar b = true) : Stands (b :: rest) :=
  fun _ hb => .inl (Option.some.inj hb ▸ h)

theorem stands_lines {pairs : List (String × String)} (words : AreWords pairs) :
    Stands (lines pairs).toList := by
  cases pairs with
  | nil => exact fun _ h => nomatch h
  | cons pair pairs =>
    obtain ⟨key, -⟩ := words pair List.mem_cons_self
    obtain ⟨b, others, split⟩ := List.exists_cons_of_ne_nil key.toList_ne_nil
    rw [toList_lines_cons, split]
    exact stands_of_word (key.chars b (split ▸ List.mem_cons_self))

theorem Stands.not {rest : List Char} (stands : Stands rest) {p : Char → Bool}
    (word : ∀ b, isWordChar b = true → p b = false) (colon : p ':' = false) {b : Char}
    (seen : rest.head? = some b) : p b = false := by
  rcases stands b seen with h | rfl
  · exact word b h
  · exact colon

namespace Cursor

@[simp] theorem skip_zero (c : Cursor) : c.skip 0 = c := rfl

theorem sees_of_stands {c : Cursor} (stands : Stands c.rest) {p : Char → Bool}
    (word : ∀ b, isWordChar b = true → p b = false) (colon : p ':' = false) : c.sees p = false := by
  unfold sees peek?
  cases seen : c.rest.head? with
  | none => rfl
  | some b => exact stands.not word colon seen

theorem atIndicator_eq_false {c : Cursor} {b : Char} {rest : List Char} (seen : c.rest = b :: rest)
    (mark : Char) (h : b ≠ mark) : c.atIndicator mark = false := by
  simp [atIndicator, seen, h]

theorem skip_word {word tail : List Char} (h : ∀ c ∈ word, isWordChar c = true) (mark : Mark) :
    (⟨word ++ tail, mark⟩ : Cursor).skip word.length =
      ⟨tail, ⟨mark.index + word.length, mark.line, mark.column + word.length⟩⟩ := by
  simp [skip, octetCount_of_isWordChar h]

end Cursor

/-! ### Scalars that are words -/

section Scalars

variable {word rest : List Char} (chars : ∀ c ∈ word, isWordChar c = true) (mark : Mark)

theorem takeGap_lineEnd (stands : Stands rest) (minColumn fuel : Nat) :
    takeGap minColumn (fuel + 2) .nothing ⟨'\n' :: rest, mark⟩ =
      some (.lines ['\n'] [], ⟨rest, ⟨mark.index + 1, mark.line + 1, 0⟩⟩) := by
  have turned : (⟨'\n' :: rest, mark⟩ : Cursor).takeBreak =
      (['\n'], ⟨rest, ⟨mark.index + 1, mark.line + 1, 0⟩⟩) := rfl
  have ends : takeGap minColumn (fuel + 1) (.lines ['\n'] []) ⟨rest, ⟨mark.index + 1, mark.line + 1, 0⟩⟩ =
      some (.lines ['\n'] [], ⟨rest, ⟨mark.index + 1, mark.line + 1, 0⟩⟩) := by
    cases rest with
    | nil => rfl
    | cons b rest =>
      have blank : isBlank b = false := stands.not (fun _ => isBlank_of_isWordChar) rfl rfl
      have onLine : isBreak b = false := stands.not (fun _ => isBreak_of_isWordChar) rfl rfl
      simp [takeGap, Cursor.peek?, blank, onLine]
  rw [takeGap]
  simp only [Cursor.peek?, List.head?_cons, turned]
  exact ends

include chars

variable (nonempty : word ≠ [])

include nonempty

/-- The first word is taken as it stands. -/
theorem plainWords_word {tail : List Char} (stops : plainWord false tail = some []) (indent fuel : Nat) :
    plainWords false indent (fuel + 1) [] .nothing ⟨word ++ tail, mark⟩ =
      let c : Cursor := ⟨tail, ⟨mark.index + word.length, mark.line, mark.column + word.length⟩⟩
      if c.sees fun b => isBlank b || isBreak b then do
        let (gap, c) ← takeGap indent (c.rest.length + 1) .nothing c
        if c.mark.column < indent then some (word, gap.isLines, c)
        else plainWords false indent fuel word gap c
      else some (word, false, c) := by
  obtain ⟨b, others, rfl⟩ := List.exists_cons_of_ne_nil nonempty
  have first : isWordChar b = true := chars b List.mem_cons_self
  have hyphens : (⟨b :: others ++ tail, mark⟩ : Cursor).atIndicator '-' = false :=
    Cursor.atIndicator_eq_false rfl _ (ne_of_isWordChar first rfl)
  have dots : (⟨b :: others ++ tail, mark⟩ : Cursor).atIndicator '.' = false :=
    Cursor.atIndicator_eq_false rfl _ (ne_of_isWordChar first rfl)
  have comment : (⟨b :: others ++ tail, mark⟩ : Cursor).sees (· == '#') = false :=
    beq_of_isWordChar first rfl
  rw [plainWords, Cursor.atDocumentIndicator, hyphens, dots, comment]
  simp only [Bool.or_false, Bool.false_eq_true, if_false, plainWord_append chars stops,
    Option.bind_eq_bind, Option.bind_some, Cursor.skip_word chars, List.isEmpty_cons, Gap.text,
    List.append_nil, List.nil_append, Bool.not_false, Bool.true_and, decide_eq_true_eq, Gap.isLines]

theorem plainScalar_of_colon (indent : Nat) (ends : wordEnds rest = true) :
    plainScalar false indent ⟨word ++ ':' :: rest, mark⟩ =
      some (word, false,
        ⟨':' :: rest, ⟨mark.index + word.length, mark.line, mark.column + word.length⟩⟩) := by
  have stops : plainWord false (':' :: rest) = some [] := by simp [plainWord, ends]
  rw [plainScalar, plainWords_word chars mark nonempty stops]
  rfl

theorem plainScalar_of_lineEnd (stands : Stands rest) :
    plainScalar false 1 ⟨word ++ '\n' :: rest, mark⟩ =
      some (word, true, ⟨rest, ⟨mark.index + word.length + 1, mark.line + 1, 0⟩⟩) := by
  have stops : plainWord false ('\n' :: rest) = some [] := rfl
  rw [plainScalar, plainWords_word chars mark nonempty stops]
  simp only [List.length_cons, takeGap_lineEnd _ stands]
  rfl

end Scalars

theorem insertIdxIfInBounds_append {α : Type} (first after : Array α) (a : α) :
    (first ++ after).insertIdxIfInBounds first.size a = first ++ #[a] ++ after := by
  have inserted (first : List α) :
      (first ++ after.toList).insertIdx first.length a = first ++ a :: after.toList := by
    induction first with
    | nil => rfl
    | cons b first ih => exact congrArg (b :: ·) ih
  rw [Array.insertIdxIfInBounds, dif_pos (by simp)]
  apply Array.ext'
  simpa [Array.toList_insertIdx] using inserted first.toList

theorem insertIdxIfInBounds_push {α : Type} (first : Array α) (a b : α) :
    (first.push b).insertIdxIfInBounds first.size a = (first.push a).push b :=
  insertIdxIfInBounds_append first #[b] a

theorem insertIdxIfInBounds_push_push {α : Type} (first : Array α) (a b c : α) :
    ((first.push b).push c).insertIdxIfInBounds first.size a = ((first.push a).push b).push c :=
  insertIdxIfInBounds_append first #[b, c] a

/-! ### The lexer at rest -/

namespace Lexer

variable {lx : Lexer} {rest tail : List Char} {b : Char}

/-- No more is skipped than the spaces that come first. -/
theorem skipSpace_eq {n : Nat} (gap : lx.cursor.rest = List.replicate n ' ' ++ tail) (stands : Stands tail)
    (fuel : Nat) : skipSpace (fuel + 1) lx = { lx with cursor := lx.cursor.skip n } := by
  have mark : lx.cursor.sees (· == '\ufeff') = false := by
    cases n with
    | zero => exact Cursor.sees_of_stands (gap ▸ stands) (fun b hb => beq_of_isWordChar hb (by decide)) rfl
    | succ n => simp [Cursor.sees, Cursor.peek?, gap, List.replicate_succ]
  have spaces (tabs : Bool) :
      (lx.cursor.rest.takeWhile fun b => b == ' ' || (tabs && b == '\t')).length = n := by
    rw [gap, List.takeWhile_append_of_pos fun b hb => by simp [List.eq_of_mem_replicate hb]]
    have none : (tail.takeWhile fun b => b == ' ' || (tabs && b == '\t')) = [] := by
      cases tail with
      | nil => rfl
      | cons b tail =>
        rw [List.takeWhile_cons, stands.not (p := fun b => b == ' ' || (tabs && b == '\t')) ?_ ?_ rfl]
        · rfl
        · intro b hb
          simp (disch := decide) [ne_of_isWordChar hb]
        · cases tabs <;> rfl
    simp [none]
  have ahead : Stands (lx.cursor.skip n).rest := by simpa [Cursor.skip, gap] using stands
  have comment : (lx.cursor.skip n).sees (· == '#') = false :=
    Cursor.sees_of_stands ahead (fun b hb => beq_of_isWordChar hb (by decide)) rfl
  have onLine : (lx.cursor.skip n).sees isBreak = false :=
    Cursor.sees_of_stands ahead (fun _ => isBreak_of_isWordChar) rfl
  simp only [skipSpace, mark, Bool.and_false, Bool.false_eq_true, if_false, Cursor.skipWhile,
    Cursor.takeWhile, spaces, comment, onLine]

theorem dropStale_of_none (h : lx.keys = [none]) : lx.dropStale = some lx := by
  obtain ⟨cursor, indent, outer, keys, keyAllowed, tokens, complete, done⟩ := lx
  cases h
  rfl

/-- A possible key stays as long as its line has not ended and it is not too long. -/
theorem dropStale_of_key {key : SimpleKey} (h : lx.keys = [some key]) (line : key.mark.line = lx.mark.line)
    (near : lx.mark.index ≤ key.mark.index + 1024) : lx.dropStale = some lx := by
  obtain ⟨cursor, indent, outer, keys, keyAllowed, tokens, complete, done⟩ := lx
  cases h
  have onLine : ¬key.mark.line < cursor.mark.line := Nat.not_lt.2 (Nat.le_of_eq line.symm)
  have short : ¬key.mark.index + 1024 < cursor.mark.index := Nat.not_lt.2 near
  simp [dropStale, mark, onLine, short]

theorem closeBlocks_of_le (block : lx.inFlow = false) {column : Int} (h : lx.indent ≤ column) :
    lx.closeBlocks column = lx := by
  rw [closeBlocks, if_neg (by simp [block])]
  obtain ⟨cursor, indent, outer, keys, keyAllowed, tokens, complete, done⟩ := lx
  cases outer with
  | nil => rfl
  | cons next outer => exact if_neg (Int.not_lt.2 h)

/-- The state past `n` spaces. -/
def past (lx : Lexer) (n : Nat) : Lexer := { lx with cursor := lx.cursor.skip n }

theorem past_zero (lx : Lexer) : lx.past 0 = lx := by
  rw [past, Cursor.skip_zero]

theorem rest_past {n : Nat} (gap : lx.cursor.rest = List.replicate n ' ' ++ tail) :
    (lx.past n).cursor.rest = tail := by
  simp [past, Cursor.skip, gap]

theorem closed_past {n : Nat} (block : lx.inFlow = false)
    (deep : lx.indent ≤ ((lx.cursor.mark.column + n : Nat) : Int)) :
    (lx.past n).closeBlocks (lx.past n).mark.column = lx.past n := by
  have block : (lx.past n).inFlow = false := block
  exact closeBlocks_of_le block deep

section Next

variable {n : Nat} (gap : lx.cursor.rest = List.replicate n ' ' ++ tail)
  (fresh : (lx.past n).dropStale = some (lx.past n)) (block : lx.inFlow = false)
  (deep : lx.indent ≤ ((lx.cursor.mark.column + n : Nat) : Int))

include gap fresh

theorem ready_past (stands : Stands tail) :
    (skipSpace (lx.cursor.rest.length + 1) lx).dropStale = some (lx.past n) := by
  rw [skipSpace_eq gap stands]
  exact fresh

include block deep

theorem next_of_nil (ends : tail = []) : lx.next = (lx.past n).streamEnd := by
  have ready := ready_past gap fresh (ends ▸ fun _ hb => nomatch hb)
  have closed := closed_past block deep
  have rest := (rest_past gap).trans ends
  generalize lx.past n = past at ready closed rest
  rw [next, ready]
  simp only [Option.bind_eq_bind, Option.bind_some, closed, rest]

theorem next_of_word (starts : tail = b :: rest) (word : isWordChar b = true) :
    lx.next = (lx.past n).plain := by
  have ready := ready_past gap fresh (starts ▸ stands_of_word word)
  have closed := closed_past block deep
  have seen := (rest_past gap).trans starts
  generalize lx.past n = past at ready closed seen
  have scalar : startsPlain past.inFlow b rest = true := by
    simp (disch := decide) [startsPlain, isBlank_of_isWordChar word, isBreak_of_isWordChar word,
      ne_of_isWordChar word]
  have ne (d : Char) (hd : isWordChar d = false) : (b == d) = false := beq_of_isWordChar word hd
  have hyphens := Cursor.atIndicator_eq_false seen '-' (ne_of_isWordChar word rfl)
  have dots := Cursor.atIndicator_eq_false seen '.' (ne_of_isWordChar word rfl)
  rw [next, ready]
  simp only [Option.bind_eq_bind, Option.bind_some, closed, seen, scalar, hyphens, dots, ne '%' rfl,
    ne '[' rfl, ne '{' rfl, ne ']' rfl, ne '}' rfl, ne ',' rfl, ne '-' rfl, ne '?' rfl, ne ':' rfl,
    ne '*' rfl, ne '&' rfl, ne '!' rfl, ne '|' rfl, ne '>' rfl, ne '\'' rfl, ne '"' rfl, Bool.and_false,
    Bool.false_and, Bool.false_eq_true, if_false, if_true]

theorem next_of_colon (starts : tail = ':' :: rest) (ends : wordEnds rest = true) :
    lx.next = (lx.past n).value := by
  have ready := ready_past gap fresh (starts ▸ fun _ hb => .inr (Option.some.inj hb).symm)
  have closed := closed_past block deep
  have seen := (rest_past gap).trans starts
  generalize lx.past n = past at ready closed seen
  have hyphens := Cursor.atIndicator_eq_false seen '-' (by decide)
  have dots := Cursor.atIndicator_eq_false seen '.' (by decide)
  rw [next, ready]
  simp only [Option.bind_eq_bind, Option.bind_some, closed, seen, ends, hyphens, dots, Char.reduceBEq,
    Bool.and_false, Bool.false_and, Bool.or_true, Bool.and_true, Bool.false_eq_true, if_false, if_true]

end Next

/-! ### The three steps of a line -/

/-- The start of a line, before the mapping or inside of it. -/
def atLine (inside : Bool) (tokens : Array (Placed Token)) (rest : List Char) (index line : Nat) : Lexer where
  cursor := ⟨rest, ⟨index, line, 0⟩⟩
  indent := if inside then 0 else -1
  outer := if inside then [-1] else []
  tokens

/-- Before the colon after a key. -/
def atColon (inside : Bool) (tokens : Array (Placed Token)) (key rest : List Char) (index line : Nat) :
    Lexer :=
  let start : Mark := ⟨index, line, 0⟩
  let stop : Mark := ⟨index + key.length, line, key.length⟩
  { atLine inside (tokens.push ⟨.scalar (String.ofList key) .plain, start, stop⟩) rest index line with
    cursor := ⟨rest, stop⟩
    keys := [some ⟨inside, tokens.size, start⟩]
    keyAllowed := false }

/-- Before the value of a line. -/
def atValue (tokens : Array (Placed Token)) (rest : List Char) (index line column : Nat) : Lexer :=
  { atLine true tokens rest index line with
    cursor := ⟨rest, ⟨index, line, column⟩⟩
    keyAllowed := false }

/-- The tokens with those of a key up to its colon. The first key opens the mapping. -/
def pushKey (inside : Bool) (tokens : Array (Placed Token)) (key : List Char) (index line : Nat) :
    Array (Placed Token) :=
  let start : Mark := ⟨index, line, 0⟩
  let stop : Mark := ⟨index + key.length, line, key.length⟩
  (((if inside then tokens else tokens.push ⟨.blockMappingStart, start, start⟩).push
    ⟨.key, start, start⟩).push ⟨.scalar (String.ofList key) .plain, start, stop⟩).push
      ⟨.value, stop, ⟨stop.index + 1, line, stop.column + 1⟩⟩

theorem indent_le (inside : Bool) (column : Nat) : (if inside then (0 : Int) else -1) ≤ column := by
  split <;> omega

theorem step_of_next {lx' : Lexer} (h : lx.next = some lx') (fresh : lx'.dropStale = some lx')
    (complete : lx'.complete = true) : lx.step = some lx' := by
  simp [step, h, fresh, complete]

section Line

variable {inside : Bool} {tokens : Array (Placed Token)} {word : List Char} {index line column : Nat}

theorem step_key (chars : ∀ c ∈ word, isWordChar c = true) (nonempty : word ≠ [])
    (short : word.length ≤ 1024) (ends : wordEnds rest = true) :
    (atLine inside tokens (word ++ ':' :: rest) index line).step =
      some (atColon inside tokens word (':' :: rest) index line) := by
  have next : (atLine inside tokens (word ++ ':' :: rest) index line).next =
      (atLine inside tokens (word ++ ':' :: rest) index line).plain := by
    obtain ⟨b, others, rfl⟩ := List.exists_cons_of_ne_nil nonempty
    exact next_of_word (n := 0) rfl (dropStale_of_none rfl) rfl (indent_le inside _) rfl
      (chars b List.mem_cons_self)
  refine step_of_next (next.trans ?_) (dropStale_of_key rfl rfl (Nat.add_le_add_left short index)) rfl
  have saved : (atLine inside tokens (word ++ ':' :: rest) index line).saveKey =
      some { atLine inside tokens (word ++ ':' :: rest) index line with
        keys := [some ⟨inside, tokens.size, ⟨index, line, 0⟩⟩] } := by
    cases inside <;> rfl
  rw [plain, saved]
  simp only [Option.bind_eq_bind, Option.bind_some]
  change (plainScalar false _ ⟨word ++ ':' :: rest, ⟨index, line, 0⟩⟩).bind _ = _
  rw [plainScalar_of_colon chars _ nonempty _ ends]
  simp [atColon, add, atLine, mark]

theorem step_colon (short : word.length ≤ 1024) :
    (atColon inside tokens word (':' :: ' ' :: rest) index line).step =
      some (atValue (pushKey inside tokens word index line) (' ' :: rest) (index + word.length + 1) line
        (word.length + 1)) := by
  have next : (atColon inside tokens word (':' :: ' ' :: rest) index line).next =
      (atColon inside tokens word (':' :: ' ' :: rest) index line).value :=
    next_of_colon (n := 0) rfl (dropStale_of_key rfl rfl (Nat.add_le_add_left short index)) rfl
      (indent_le inside _) rfl rfl
  refine step_of_next (next.trans ?_) (dropStale_of_none rfl) rfl
  have octet : octetCount [':'] = 1 := rfl
  cases inside with
  | true =>
    simp [value, atColon, insert, insertIdxIfInBounds_push, atLine, openBlock, inFlow, add, mark, atValue,
      pushKey, Cursor.skip, octet]
  | false =>
    simp [value, atColon, insert, insertIdxIfInBounds_push, insertIdxIfInBounds_push_push, atLine, openBlock,
      inFlow, add, mark, atValue, pushKey, Cursor.skip, octet]

theorem step_word (chars : ∀ c ∈ word, isWordChar c = true) (nonempty : word ≠ []) (stands : Stands rest) :
    (atValue tokens (' ' :: (word ++ '\n' :: rest)) index line column).step =
      some (atLine true (tokens.push ⟨.scalar (String.ofList word) .plain, ⟨index + 1, line, column + 1⟩,
        ⟨index + 1 + word.length + 1, line + 1, 0⟩⟩) rest (index + 1 + word.length + 1) (line + 1)) := by
  have next : (atValue tokens (' ' :: (word ++ '\n' :: rest)) index line column).next =
      ((atValue tokens (' ' :: (word ++ '\n' :: rest)) index line column).past 1).plain := by
    obtain ⟨b, others, rfl⟩ := List.exists_cons_of_ne_nil nonempty
    exact next_of_word (n := 1) rfl (dropStale_of_none rfl) rfl (indent_le true _) rfl
      (chars b List.mem_cons_self)
  refine step_of_next (next.trans ?_) (dropStale_of_none rfl) rfl
  have saved : ((atValue tokens (' ' :: (word ++ '\n' :: rest)) index line column).past 1).saveKey =
      some ((atValue tokens (' ' :: (word ++ '\n' :: rest)) index line column).past 1) := rfl
  rw [plain, saved]
  simp only [Option.bind_eq_bind, Option.bind_some]
  change (plainScalar false 1 ⟨word ++ '\n' :: rest, ⟨index + 1, line, column + 1⟩⟩).bind _ = _
  rw [plainScalar_of_lineEnd chars _ nonempty stands]
  have octet : octetCount [' '] = 1 := rfl
  simp [atValue, add, atLine, mark, past, Cursor.skip, octet]

end Line

/-! ### All lines -/

/-- The tokens for pairs and the end of the text, inside of the mapping or before it. -/
def lineItems : Bool → List (String × String) → List Token
  | true, [] => [.blockEnd, .streamEnd]
  | false, [] => [.streamEnd]
  | inside, (key, value) :: pairs =>
    (if inside then [] else [.blockMappingStart]) ++
      ([.key, .scalar key .plain, .value, .scalar value .plain] ++ lineItems true pairs)

theorem length_le_lineItems (inside : Bool) (pairs : List (String × String)) :
    pairs.length ≤ (lineItems inside pairs).length := by
  induction pairs generalizing inside with
  | nil => exact Nat.zero_le _
  | cons pair pairs ih =>
    obtain ⟨key, value⟩ := pair
    have := ih true
    simp only [lineItems, List.length_append, List.length_cons]
    omega

theorem step_end (inside : Bool) (tokens : Array (Placed Token)) (index line : Nat) :
    ∃ last, (atLine inside tokens [] index line).step = some last ∧ last.done = true ∧
      ∃ placed, last.tokens.toList = tokens.toList ++ placed ∧ placed.map (·.item) = lineItems inside [] := by
  have gap : (atLine inside tokens [] index line).cursor.rest = List.replicate 0 ' ' ++ [] := rfl
  have next := next_of_nil gap (dropStale_of_none rfl) rfl (indent_le inside _) rfl
  rw [past_zero] at next
  let here : Mark := ⟨index, line, 0⟩
  cases inside with
  | false =>
    exact ⟨_, step_of_next next (dropStale_of_none rfl) rfl, rfl, [⟨.streamEnd, here, here⟩],
      Array.toList_push, rfl⟩
  | true =>
    refine ⟨_, step_of_next next (dropStale_of_none rfl) rfl, rfl,
      [⟨.blockEnd, here, here⟩, ⟨.streamEnd, here, here⟩], ?_, rfl⟩
    change ((tokens.push ⟨.blockEnd, here, here⟩).push ⟨.streamEnd, here, here⟩).toList = _
    simp

theorem run_of_step {lx' : Lexer} (going : lx.done = false) (h : lx.step = some lx') (fuel : Nat) :
    run (fuel + 1) lx = run fuel lx' := by
  refine (if_neg (Bool.eq_false_iff.1 going)).trans ?_
  rw [h]

theorem run_of_done (ended : lx.done = true) (fuel : Nat) : run (fuel + 1) lx = lx.tokens.toList :=
  if_pos ended

/-- By induction on the pairs. After every line the lexer is again at the start of a line. -/
theorem run_lines {pairs : List (String × String)} (words : AreWords pairs) (fit : KeysFit pairs)
    (inside : Bool) (tokens : Array (Placed Token)) (index line fuel : Nat) :
    ∃ placed, placed.map (·.item) = lineItems inside pairs ∧
      run (fuel + (3 * pairs.length + 2)) (atLine inside tokens (lines pairs).toList index line) =
        tokens.toList ++ placed := by
  induction pairs generalizing inside tokens index line fuel with
  | nil =>
    obtain ⟨last, step, done, placed, found, items⟩ := step_end inside tokens index line
    refine ⟨placed, items, ?_⟩
    change run (fuel + 1 + 1) (atLine inside tokens [] index line) = _
    rw [← found, run_of_step rfl step, run_of_done done]
  | cons pair pairs ih =>
    obtain ⟨⟨key, value⟩, rest⟩ := List.forall_mem_cons.1 words
    obtain ⟨short, fits⟩ := List.forall_mem_cons.1 fit
    have turns : fuel + (3 * (pair :: pairs).length + 2) = fuel + (3 * pairs.length + 2) + 1 + 1 + 1 := by
      rw [List.length_cons]
      omega
    rw [turns, toList_lines_cons, run_of_step rfl (step_key key.chars key.toList_ne_nil short rfl),
      run_of_step rfl (step_colon short),
      run_of_step rfl (step_word value.chars value.toList_ne_nil (stands_lines rest))]
    obtain ⟨placed, items, ran⟩ := ih rest fits true _ _ _ fuel
    rw [ran]
    cases inside with
    | true =>
      simp only [pushKey, if_true, Array.toList_push, List.append_assoc]
      refine ⟨_, ?_, rfl⟩
      simp [lineItems, items]
    | false =>
      simp only [pushKey, Bool.false_eq_true, if_false, Array.toList_push, List.append_assoc]
      refine ⟨_, ?_, rfl⟩
      simp [lineItems, items]

end Lexer

theorem length_lines (pairs : List (String × String)) : 3 * pairs.length ≤ (lines pairs).toList.length := by
  induction pairs with
  | nil => exact Nat.zero_le _
  | cons pair pairs ih =>
    rw [toList_lines_cons]
    simp only [List.length_cons, List.length_append]
    omega

theorem permitted_lines {pairs : List (String × String)} (words : AreWords pairs) :
    ∀ c ∈ (lines pairs).toList, isPermitted c = true := by
  induction pairs with
  | nil => exact fun _ h => nomatch h
  | cons pair pairs ih =>
    obtain ⟨⟨key, value⟩, rest⟩ := List.forall_mem_cons.1 words
    intro c hc
    simp only [toList_lines_cons, List.mem_append, List.mem_cons] at hc
    rcases hc with hc | rfl | rfl | hc | rfl | hc
    · exact isPermitted_of_isWordChar (key.chars c hc)
    · rfl
    · rfl
    · exact isPermitted_of_isWordChar (value.chars c hc)
    · rfl
    · exact ih rest c hc

theorem tokens_lines {pairs : List (String × String)} (words : AreWords pairs) (fit : KeysFit pairs) :
    (tokens (lines pairs)).map (·.item) = Lexer.lineItems false pairs := by
  obtain ⟨fuel, enough⟩ := Nat.exists_eq_add_of_le' (length_lines pairs)
  obtain ⟨placed, items, ran⟩ := Lexer.run_lines words fit false #[] 0 0 fuel
  rw [tokens, checked_of_permitted (permitted_lines words)]
  dsimp only
  rw [enough]
  exact (congrArg (List.map (·.item)) ran).trans items

end ActionDispatch.Yaml
