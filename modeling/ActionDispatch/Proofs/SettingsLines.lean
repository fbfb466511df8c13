import ActionDispatch.Proofs.Pairs
import ActionDispatch.Proofs.WordLines
import ActionDispatch.Settings.Document

/-!
# Settings from lines

A document of lines `key: value` is read as one mapping from words to words, in order (`Document.read_lines`),
and of a document that hands out pairs in this way come the settings that come of the pairs
(`SettingsDocument.settings_tells`). `Settings.ofText_lines` puts this together with what settings come to.
-/

namespace ActionDispatch

namespace Yaml

/-! ### From tokens to parts -/

namespace Reader

/-- The parts for pairs of plain scalars, and the end of their mapping. -/
def pairParts (pairs : List (String × String)) : List Part :=
  pairs.flatMap (fun pair => [.scalar pair.1 .plain none, .scalar pair.2 .plain none]) ++ [.mappingEnd]

theorem length_pairParts (pairs : List (String × String)) :
    (pairParts pairs).length = 2 * pairs.length + 1 := by
  induction pairs with
  | nil => rfl
  | cons pair pairs ih =>
    change (pairParts pairs).length + 2 = _
    rw [ih, List.length_cons]
    omega

theorem bind_of_some {α β : Type} {x : Read α} {r r' : Reader} {a : α} (h : x r = (some a, r'))
    (f : α → Read β) : (x >>= f) r = f a r' := by
  dsimp only [bind]
  rw [h]

theorem peek_bind {β : Type} {r : Reader} {token : Placed Token} {rest : List (Placed Token)}
    (seen : r.tokens = token :: rest) (f : Placed Token → Read β) : (peek >>= f) r = f token r :=
  bind_of_some (by rw [peek, seen]; rfl) f

theorem advance_bind {β : Type} {r : Reader} {token : Placed Token} {rest : List (Placed Token)}
    (seen : r.tokens = token :: rest) (f : Unit → Read β) :
    (advance >>= f) r = f () { r with tokens := rest } :=
  bind_of_some (by rw [advance, seen]; rfl) f

theorem node_scalar {text : String} {start stop : Mark} {rest : List (Placed Token)} {r : Reader}
    (seen : r.tokens = ⟨.scalar text .plain, start, stop⟩ :: rest) (fuel : Nat) :
    node true true (fuel + 1) r =
      (some (), { r with tokens := rest, parts := r.parts.push (.scalar text .plain none, start) }) := by
  obtain ⟨tokens, parts, anchors, numbered, handles⟩ := r
  cases seen
  rw [node]
  rfl

theorem node_mapping {start stop : Mark} {rest : List (Placed Token)} {r : Reader}
    (seen : r.tokens = ⟨.blockMappingStart, start, stop⟩ :: rest) (indentless : Bool) (fuel : Nat) :
    node true indentless (fuel + 1) r =
      blockPairs fuel { r with tokens := rest, parts := r.parts.push (.mappingStart none, start) } := by
  obtain ⟨tokens, parts, anchors, numbered, handles⟩ := r
  cases seen
  rw [node]
  rfl

/-- A pair of plain scalars. -/
theorem blockPairs_cons {key value : String} {m₁ m₂ m₃ m₄ n₁ n₂ n₃ n₄ : Mark} {rest : List (Placed Token)}
    {r : Reader} (seen : r.tokens = ⟨.key, m₁, n₁⟩ :: ⟨.scalar key .plain, m₂, n₂⟩ :: ⟨.value, m₃, n₃⟩ ::
      ⟨.scalar value .plain, m₄, n₄⟩ :: rest) (fuel : Nat) :
    blockPairs (fuel + 3) r = blockPairs (fuel + 1) { r with
      tokens := rest
      parts := (r.parts.push (.scalar key .plain none, m₂)).push (.scalar value .plain none, m₄) } := by
  rw [blockPairs, peek_bind seen]
  dsimp only
  rw [advance_bind seen, peek_bind rfl]
  dsimp only
  rw [bind_of_some (node_scalar rfl _), blockValue, peek_bind rfl]
  dsimp only
  rw [advance_bind rfl, peek_bind rfl]
  dsimp only
  rw [bind_of_some (node_scalar rfl _)]

theorem blockPairs_lines (pairs : List (String × String)) {r : Reader}
    (items : r.tokens.map (·.item) = Lexer.lineItems true pairs) (fuel : Nat) :
    ∃ parts rest, parts.toList.map Prod.fst = pairParts pairs ∧ rest.map (·.item) = [Token.streamEnd] ∧
      blockPairs (fuel + (2 * pairs.length + 1)) r =
        (some (), { r with tokens := rest, parts := r.parts ++ parts }) := by
  induction pairs generalizing r with
  | nil =>
    obtain ⟨tokens, parts, anchors, numbered, handles⟩ := r
    obtain ⟨⟨item, start, stop⟩, rest, rfl, rfl, last⟩ := List.map_eq_cons_iff.1 items
    refine ⟨#[(.mappingEnd, start)], rest, rfl, last, ?_⟩
    change blockPairs (fuel + 1) _ = _
    rw [blockPairs]
    rfl
  | cons pair pairs ih =>
    obtain ⟨key, value⟩ := pair
    obtain ⟨⟨item₁, m₁, n₁⟩, rest₁, seen, rfl, items₁⟩ := List.map_eq_cons_iff.1 items
    obtain ⟨⟨item₂, m₂, n₂⟩, rest₂, rfl, rfl, items₂⟩ := List.map_eq_cons_iff.1 items₁
    obtain ⟨⟨item₃, m₃, n₃⟩, rest₃, rfl, rfl, items₃⟩ := List.map_eq_cons_iff.1 items₂
    obtain ⟨⟨item₄, m₄, n₄⟩, rest₄, rfl, rfl, items₄⟩ := List.map_eq_cons_iff.1 items₃
    have turns : fuel + (2 * ((key, value) :: pairs).length + 1) = fuel + 2 * pairs.length + 3 := by
      rw [List.length_cons]
      omega
    have ahead := ih (r := { r with
      tokens := rest₄
      parts := (r.parts.push (.scalar key .plain none, m₂)).push (.scalar value .plain none, m₄) }) items₄
    obtain ⟨parts, rest, here, last, read⟩ := ahead
    refine ⟨#[(.scalar key .plain none, m₂), (.scalar value .plain none, m₄)] ++ parts, rest, ?_, last, ?_⟩
    · simp [here, pairParts]
    · rw [turns, blockPairs_cons seen, Nat.add_assoc, read, ← Array.append_assoc]
      rfl

/-- The usual tags, where no directive says otherwise. -/
def usualHandles : List (String × Tag) := [("!", .ofText "!"), ("!!", .ofText "tag:yaml.org,2002:")]

theorem document_lines (pair : String × String) (pairs : List (String × String)) {r : Reader}
    (items : r.tokens.map (·.item) = Lexer.lineItems false (pair :: pairs)) (fuel : Nat) :
    ∃ parts rest mark, parts.toList.map Prod.fst = pairParts (pair :: pairs) ∧
      rest.map (·.item) = [Token.streamEnd] ∧
      document (fuel + (2 * (pair :: pairs).length + 1) + 1) r =
        (some true, { r with
          tokens := rest
          parts := r.parts.push (.mappingStart none, mark) ++ parts
          handles := usualHandles }) := by
  obtain ⟨⟨item, start, stop⟩, rest₁, seen, rfl, items₁⟩ := List.map_eq_cons_iff.1 items
  obtain ⟨parts, rest, here, last, read⟩ := blockPairs_lines (pair :: pairs) (r := { r with
    tokens := rest₁
    parts := r.parts.push (.mappingStart none, start)
    handles := usualHandles }) items₁ fuel
  refine ⟨parts, rest, start, here, last, ?_⟩
  have undirected : directives (fuel + (2 * (pair :: pairs).length + 1) + 1) false [] r =
      (some usualHandles, r) := by
    rw [directives, peek_bind seen]
    rfl
  have known (f : Unit → Read Bool) :
      ((fun r => (some (), { r with handles := usualHandles })) >>= f) r =
        f () { r with handles := usualHandles } :=
    bind_of_some rfl f
  have root := (node_mapping (r := { r with handles := usualHandles }) seen false _).trans read
  obtain ⟨final, ended, -⟩ := List.map_eq_singleton_iff.1 last
  rw [document, peek_bind seen]
  dsimp only
  rw [bind_of_some undirected, known, if_neg (by decide), bind_of_some root, peek_bind ended]
  rfl

end Reader

namespace Document

/-- The document hands out the pairs, in order and as texts, and nothing else. -/
structure Delivers (doc : Document) (pairs : List (String × String)) : Prop where
  whole : doc.broken = false
  alone : doc.followed = false
  content : doc.present = false ∧ pairs = [] ∨
    doc.present = true ∧ doc.parts.toList.map Prod.fst = .mappingStart none :: Reader.pairParts pairs

theorem read_lines {pairs : List (String × String)} (words : AreWords pairs) (fit : KeysFit pairs) :
    (read (lines pairs)).Delivers pairs := by
  have items := tokens_lines words fit
  unfold read
  generalize tokens (lines pairs) = tokens at items
  cases pairs with
  | nil =>
    obtain ⟨⟨item, start, stop⟩, rfl, rfl⟩ := List.map_eq_singleton_iff.1 items
    exact ⟨rfl, rfl, .inl ⟨rfl, rfl⟩⟩
  | cons pair pairs =>
    have enough : 2 * (pair :: pairs).length + 1 + 1 ≤ 4 * tokens.length + 8 := by
      have := Lexer.length_le_lineItems false (pair :: pairs)
      rw [← items, List.length_map] at this
      omega
    obtain ⟨fuel, turns⟩ := Nat.exists_eq_add_of_le' enough
    rw [← Nat.add_assoc] at turns
    obtain ⟨parts, rest, mark, here, last, document⟩ :=
      Reader.document_lines pair pairs (r := { tokens }) items fuel
    dsimp only
    rw [turns, document]
    obtain ⟨⟨item, start, stop⟩, rfl, rfl⟩ := List.map_eq_singleton_iff.1 last
    refine ⟨rfl, rfl, .inr ⟨rfl, ?_⟩⟩
    simp [here]

end Document

end Yaml

open Yaml

/-! ### From parts to settings -/

/-- What a document is at fault for, where its pairs are. -/
def PairFault.cause : PairFault → DocumentCause
  | .duplicate setting => .duplicate setting
  | .unknownWord setting word => .unknownWord setting word

/-- A document gives what the pairs give, and with a fault of theirs possibly the place. -/
inductive Tells {α : Type} : Except PairFault α → Except DocumentFault α → Prop
  | ok (a : α) : Tells (.ok a) (.ok a)
  | error (fault : PairFault) (place : Option DocumentPlace) :
      Tells (.error fault) (.error (.content fault.cause place))

namespace Tells

variable {α β : Type} {x : Except PairFault α} {y : Except DocumentFault α}

theorem orAt (h : Tells x y) (place : DocumentPlace) : Tells x (y.mapError (·.orAt place)) := by
  cases h with
  | ok a => exact .ok a
  | error fault place' => cases place' with
    | none => exact .error fault (some place)
    | some place' => exact .error fault (some place')

theorem bind (h : Tells x y) {f : α → Except PairFault β} {g : α → Except DocumentFault β}
    (next : ∀ a, Tells (f a) (g a)) : Tells (x >>= f) (y >>= g) := by
  cases h with
  | ok a => exact next a
  | error fault place => exact .error fault place

end Tells

namespace SettingsDocument

variable {doc : Yaml.Document}

theorem part_at (front : List Part) {back : List Part} {part : Part}
    (h : doc.parts.toList.map Prod.fst = front ++ part :: back) :
    ∃ mark, doc.parts[front.length]? = some (part, mark) := by
  have here : (doc.parts.toList.map Prod.fst)[front.length]? = some part := by
    rw [h, List.getElem?_append_right (Nat.le_refl _), Nat.sub_self]
    rfl
  rw [List.getElem?_map, Option.map_eq_some_iff] at here
  obtain ⟨⟨part, mark⟩, here, rfl⟩ := here
  exact ⟨mark, by rw [← Array.getElem?_toList, here]⟩

section Pair

variable {position : Nat} {key value : String} {at₁ at₂ : Mark}

theorem keyText_scalar (h : doc.parts[position]? = some (.scalar key .plain none, at₁)) :
    keyText doc position = .ok key := by
  have resolved : doc.resolved? position = some (.scalar key .plain none, at₁) := by
    rw [Yaml.Document.resolved?, h]
  rw [keyText, resolved]
  rfl

theorem afterNode_scalar (h : doc.parts[position]? = some (.scalar value .plain none, at₂)) :
    doc.afterNode? position = some (position + 1) := by
  rw [Yaml.Document.afterNode?, Yaml.Document.skipNodes?, h]
  rfl

/-- A value that is a word is filled in as it is in pairs. -/
theorem accept_tells (h : doc.parts[position]? = some (.scalar value .plain none, at₂)) (draft : Draft)
    (path : String) :
    Tells (draft.enter (key, value))
      (draft.accept key (fun setting => .content (.duplicate setting))
        fun setting => enterValue doc draft setting path position) := by
  unfold Draft.enter Draft.accept
  dsimp only
  cases Setting.ofKey? key with
  | none => exact .ok draft
  | some setting =>
    dsimp only
    split
    · exact .error (.duplicate setting) none
    · rw [enterValue, h]
      change Tells _ (enterNode draft setting (.scalar value .plain none) _)
      unfold enterNode
      dsimp only [ownTag?, Option.bind_none]
      refine Tells.orAt ?_ _
      cases draft.fill? setting value with
      | none => exact .error (.unknownWord setting value) none
      | some next => exact .ok next

end Pair

theorem enterPairs_tells (pairs : List (String × String)) (front : List Part)
    (parts : doc.parts.toList.map Prod.fst = front ++ Reader.pairParts pairs) (fuel : Nat) (draft : Draft) :
    Tells (pairs.foldlM Draft.enter draft) (enterPairs doc (fuel + pairs.length + 1) front.length draft) := by
  induction pairs generalizing front draft with
  | nil =>
    have parts : doc.parts.toList.map Prod.fst = front ++ .mappingEnd :: [] := parts
    obtain ⟨mark, here⟩ := part_at front parts
    rw [enterPairs, here]
    exact .ok draft
  | cons pair pairs ih =>
    obtain ⟨key, value⟩ := pair
    have parts : doc.parts.toList.map Prod.fst =
        front ++ .scalar key .plain none :: .scalar value .plain none :: Reader.pairParts pairs := parts
    have past : doc.parts.toList.map Prod.fst =
        (front ++ [.scalar key .plain none]) ++ .scalar value .plain none :: Reader.pairParts pairs := by
      rw [parts, List.append_assoc]
      rfl
    obtain ⟨at₁, first⟩ := part_at front parts
    obtain ⟨at₂, second⟩ := part_at _ past
    rw [List.length_append, List.length_singleton] at second
    rw [enterPairs, first]
    change Tells _ (keyText doc front.length >>= _)
    rw [keyText_scalar first, List.foldlM_cons]
    refine (accept_tells second draft key).bind fun next => ?_
    rw [afterNode_scalar second]
    have rest := ih (front ++ [.scalar key .plain none, .scalar value .plain none])
      (by rw [parts, List.append_assoc]; rfl) next
    rwa [List.length_append] at rest

theorem settings_tells {pairs : List (String × String)} (delivers : doc.Delivers pairs) :
    Tells (Settings.ofPairs pairs) (settings doc) := by
  obtain ⟨whole, alone, ⟨absent, rfl⟩ | ⟨present, parts⟩⟩ := delivers
  · rw [settings, if_neg (by simp [absent])]
    exact .ok _
  · have size : doc.parts.size + 1 = pairs.length + 2 + pairs.length + 1 := by
      have length := congrArg List.length parts
      rw [List.length_map, Array.length_toList, List.length_cons, Reader.length_pairParts] at length
      omega
    obtain ⟨mark, here⟩ : ∃ mark, doc.parts[0]? = some (.mappingStart none, mark) :=
      part_at [] parts
    have entered := enterPairs_tells pairs [.mappingStart none] parts (pairs.length + 2) {}
    have drafted : Tells (pairs.foldlM Draft.enter {}) (draft doc) := by
      rw [draft, here, size]
      exact entered.orAt _
    rw [settings, if_pos present, whole, alone]
    exact drafted.bind fun last => .ok _

end SettingsDocument

namespace Settings

variable {read : String → Yaml.Document} {pairs others : List (String × String)} {settings : Settings}

theorem allBlank_lines (words : AreWords pairs) (nonempty : pairs ≠ []) :
    Text.allBlank (lines pairs) = false := by
  obtain ⟨pair, pairs, rfl⟩ := List.exists_cons_of_ne_nil nonempty
  obtain ⟨⟨key, -⟩, -⟩ := List.forall_mem_cons.1 words
  obtain ⟨b, others, split⟩ := List.exists_cons_of_ne_nil key.toList_ne_nil
  have first : isWordChar b = true := key.chars b (split ▸ List.mem_cons_self)
  rw [Text.allBlank, toList_lines_cons, split, List.cons_append, List.all_cons, visible_of_isWordChar first,
    Bool.false_and]

/-- Lines give what their pairs give. What is wrong with a pair becomes a fault of the settings. -/
theorem ofTextBy_cases (words : AreWords pairs) (delivers : (read (lines pairs)).Delivers pairs) :
    (∃ settings, ofPairs pairs = .ok settings ∧ ofTextBy read (lines pairs) = .ok settings) ∨
    (∃ fault place, ofPairs pairs = .error fault ∧ ofTextBy read (lines pairs) =
      .error (.config ("Invalid YAML: " ++ (DocumentFault.content fault.cause place).message))) := by
  by_cases nonempty : pairs = []
  · subst nonempty
    exact .inl ⟨{}, rfl, rfl⟩
  · rw [ofTextBy, allBlank_lines words nonempty, if_neg Bool.false_ne_true]
    have tells := SettingsDocument.settings_tells delivers
    generalize SettingsDocument.settings (read (lines pairs)) = given at tells
    generalize ofPairs pairs = collected at tells
    cases tells with
    | ok settings => exact .inl ⟨settings, rfl, rfl⟩
    | error fault place => exact .inr ⟨fault, place, rfl, rfl⟩

theorem ofTextBy_eq_ok_iff (words : AreWords pairs) (delivers : (read (lines pairs)).Delivers pairs) :
    ofTextBy read (lines pairs) = .ok settings ↔ ofPairs pairs = .ok settings := by
  rcases ofTextBy_cases words delivers with ⟨settings', collected, given⟩ | ⟨fault, place, refused, given⟩
  · rw [collected, given, Except.ok.injEq, Except.ok.injEq]
  · rw [refused, given]
    exact iff_of_false nofun nofun

/-- If lines of words are handed out as they stand, by whatever reads them, settings come of them just if
every setting is given at most once and by one of its two words. They have these words and the defaults for
what is not given, and the order of the lines and all other keys make no difference. Otherwise the lines are
refused for what is wrong with a pair. `Document.read` hands them out so if their keys fit. -/
theorem ofText_lines (words : AreWords pairs) :
    (KeysFit pairs → (Document.read (lines pairs)).Delivers pairs) ∧
    ∀ read : String → Yaml.Document, (read (lines pairs)).Delivers pairs →
      ((∃ settings, ofTextBy read (lines pairs) = .ok settings) ↔ Proper pairs) ∧
      (∀ settings, ofTextBy read (lines pairs) = .ok settings → settings.Follow pairs) ∧
      (∀ error, ofTextBy read (lines pairs) = .error error → ∃ fault place, ofPairs pairs = .error fault ∧
        error = .config ("Invalid YAML: " ++ (DocumentFault.content fault.cause place).message)) ∧
      ∀ others, AreWords others → (read (lines others)).Delivers others →
        (known others).Perm (known pairs) → ∀ settings,
          ofTextBy read (lines others) = .ok settings ↔ ofTextBy read (lines pairs) = .ok settings := by
  refine ⟨Document.read_lines words, fun read delivers => ⟨?_, fun settings given => ?_,
    fun error given => ?_, fun others words' delivers' same settings => ?_⟩⟩
  · simp only [ofTextBy_eq_ok_iff words delivers]
    exact exists_ofPairs_iff
  · exact (ofPairs_eq_ok_iff.1 ((ofTextBy_eq_ok_iff words delivers).1 given)).2
  · rcases ofTextBy_cases words delivers with ⟨settings, -, given'⟩ | ⟨fault, place, refused, given'⟩
    · cases given.symm.trans given'
    · cases given.symm.trans given'
      exact ⟨fault, place, refused, rfl⟩
  · rw [ofTextBy_eq_ok_iff words' delivers', ofTextBy_eq_ok_iff words delivers]
    exact ofPairs_ok_iff_of_perm same

end Settings

/-! ### Colours -/

namespace Colours

/-- Two settings, and another key that is given twice. -/
def painted : List (String × String) :=
  [("validator_registry", "instance"), ("colour", "blue"), ("rollback", "stop_on_failure"), ("colour", "red")]

/-- The same settings in another order, without the other key. -/
def unpainted : List (String × String) :=
  [("rollback", "stop_on_failure"), ("validator_registry", "instance")]

/-- The rollback is given once more. -/
def repainted : List (String × String) := painted ++ [("rollback", "best_effort")]

/-- Both settings are read, wherever they stand, and a setting that is given twice is refused. -/
theorem painted_read :
    Yaml.lines painted =
      "validator_registry: instance\ncolour: blue\nrollback: stop_on_failure\ncolour: red\n" ∧
    AreWords painted ∧ KeysFit painted ∧ (Document.read (Yaml.lines painted)).Delivers painted ∧
    Settings.ofText (Yaml.lines painted) =
      .ok { rollback := .stopOnFailure, validatorRegistry := .upFront } ∧
    Settings.ofText (Yaml.lines unpainted) =
      .ok { rollback := .stopOnFailure, validatorRegistry := .upFront } ∧
    ∃ place, Settings.ofText (Yaml.lines repainted) =
      .error (.config ("Invalid YAML: " ++
        (DocumentFault.content (.duplicate .rollback) place).message)) := by
  have words : AreWords painted := by decide
  have fit : KeysFit painted := by decide
  have delivers := (Settings.ofText_lines words).1 fit
  obtain ⟨succeeds, follows, -, same⟩ := (Settings.ofText_lines words).2 Document.read delivers
  obtain ⟨settings, given⟩ := succeeds.2 fun setting => by cases setting <;> decide
  obtain rfl : settings = { rollback := .stopOnFailure, validatorRegistry := .upFront } :=
    (follows settings given).eq fun setting => by cases setting <;> rfl
  have words' : AreWords unpainted := by decide
  have given' := (same unpainted words' ((Settings.ofText_lines words').1 (by decide)) (by decide) _).2 given
  have words'' : AreWords repainted := by decide
  have delivers'' := (Settings.ofText_lines words'').1 (by decide)
  obtain ⟨succeeds'', -, fails, -⟩ := (Settings.ofText_lines words'').2 Document.read delivers''
  refine ⟨rfl, words, fit, delivers, given, given', ?_⟩
  cases given'' : Settings.ofText (Yaml.lines repainted) with
  | ok settings => exact absurd (succeeds''.1 ⟨settings, given''⟩ .rollback).1 (by decide)
  | error error =>
    obtain ⟨fault, place, refused, rfl⟩ := fails error given''
    cases refused
    exact ⟨place, rfl⟩

end Colours

end ActionDispatch
