import Mathlib.Data.List.Basic
import Mathlib.Data.Set.Operations
import SchemaPlan.Sql.Literal

/-!
# Escaped text

The text inside a literal is cut from left to right into pieces: pairs of characters that stand for
one, and characters that stand for themselves.  Escaping writes a piece for each character, and
reading takes each piece for what it means.

* `flatMap_text_pieces` and `unescapeChars_eq_map` say that the pieces are the whole text, and that
  reading is done piece by piece.
* `pieces_escapeChars_append` says that an escaped text is cut where its characters end, whatever
  stands behind it.
* `isEscaped_iff_mem_range` says which texts are escaped ones: those in which no character outside a
  pair is one that has to be escaped.
* `unescape_inverts_escape` puts this together for strings.
-/
namespace SchemaPlan.Sql

open SchemaPlan.Text

/-! ## Pairs -/

theorem escapeLetter?_eq_some_iff {c letter : Char} :
    escapeLetter? c = some letter ↔ (c, letter) ∈ backslashEscapes := by
  constructor
  · intro h
    obtain ⟨before, behind, hentries, -⟩ := List.lookup_eq_some_iff.mp h
    rw [hentries]
    exact List.mem_append_right before List.mem_cons_self
  · intro hmem
    have hall : ∀ entry ∈ backslashEscapes, escapeLetter? entry.1 = some entry.2 := by decide
    exact hall (c, letter) hmem

theorem unescapeLetter?_eq_some_iff {c letter : Char} :
    unescapeLetter? letter = some c ↔ (c, letter) ∈ backslashEscapes := by
  constructor
  · intro h
    obtain ⟨entry, hfound, rfl⟩ := Option.map_eq_some_iff.mp h
    have hletter : entry.2 = letter := by simpa using List.find?_some hfound
    rw [← hletter]
    exact List.mem_of_find?_eq_some hfound
  · intro hmem
    have hall : ∀ entry ∈ backslashEscapes, unescapeLetter? entry.2 = some entry.1 := by decide
    exact hall (c, letter) hmem

/-- The two characters that are written for one, if it has to be escaped. -/
def escapePair? (d : Dialect) (c : Char) : Option (Char × Char) :=
  match d with
  | .mysql => (escapeLetter? c).map fun letter => ('\\', letter)
  | .pgsql => if c = apostrophe then some (apostrophe, apostrophe) else none

/-- The character that two stand for, if they are an escape pair. -/
def pairMeaning? (d : Dialect) (first second : Char) : Option Char :=
  match d with
  | .mysql => if first = '\\' then unescapeLetter? second else none
  | .pgsql => if first = apostrophe ∧ second = apostrophe then some apostrophe else none

variable {d : Dialect}

/-- A pair stands for the one character that it is written for. -/
theorem pairMeaning?_eq_some_iff {first second c : Char} :
    pairMeaning? d first second = some c ↔ escapePair? d c = some (first, second) := by
  cases d with
  | mysql =>
    simp only [pairMeaning?, escapePair?, Option.ite_none_right_eq_some, Option.map_eq_some_iff,
      unescapeLetter?_eq_some_iff, escapeLetter?_eq_some_iff, Prod.mk.injEq]
    constructor
    · rintro ⟨rfl, hmem⟩
      exact ⟨second, hmem, rfl, rfl⟩
    · rintro ⟨letter, hmem, rfl, rfl⟩
      exact ⟨rfl, hmem⟩
  | pgsql =>
    simp only [pairMeaning?, escapePair?, Option.ite_none_right_eq_some, Option.some.injEq,
      Prod.mk.injEq]
    constructor
    · rintro ⟨⟨rfl, rfl⟩, rfl⟩
      exact ⟨rfl, rfl, rfl⟩
    · rintro ⟨rfl, rfl, rfl⟩
      exact ⟨⟨rfl, rfl⟩, rfl⟩

/-- What begins a pair has to be escaped itself. -/
theorem pairMeaning?_eq_none {c : Char} (h : escapePair? d c = none) (second : Char) :
    pairMeaning? d c second = none := by
  cases d with
  | mysql =>
    refine if_neg ?_
    rintro rfl
    cases h
  | pgsql =>
    refine if_neg ?_
    rintro ⟨rfl, -⟩
    cases h

theorem escapeChar_pair {first second c : Char} (h : escapePair? d c = some (first, second)) :
    escapeChar d c = [first, second] := by
  cases d with
  | mysql =>
    obtain ⟨letter, hletter, hpair⟩ := Option.map_eq_some_iff.mp h
    cases hpair
    rw [escapeChar, hletter]
  | pgsql =>
    rw [escapePair?, Option.ite_none_right_eq_some] at h
    obtain ⟨hc, hpair⟩ := h
    cases hpair
    exact if_pos hc

theorem escapeChar_single {c : Char} (h : escapePair? d c = none) : escapeChar d c = [c] := by
  cases d with
  | mysql =>
    rw [escapeChar, Option.map_eq_none_iff.mp h]
  | pgsql =>
    refine if_neg ?_
    rintro rfl
    cases h

/-! ## Pieces -/

/-- A piece of the text inside a literal. -/
inductive Piece (d : Dialect) where
  /-- Two characters that stand for one. -/
  | pair (first second c : Char) (means : pairMeaning? d first second = some c)
  /-- A character that stands for itself. -/
  | single (c : Char)

namespace Piece

/-- The characters of a piece. -/
def text : Piece d → List Char
  | pair first second _ _ => [first, second]
  | single c => [c]

/-- The character that a piece stands for. -/
def meaning : Piece d → Char
  | pair _ _ c _ => c
  | single c => c

/-- The piece that is written for a character. -/
def ofChar (d : Dialect) (c : Char) : Piece d :=
  match h : escapePair? d c with
  | some (first, second) => pair first second c (pairMeaning?_eq_some_iff.mpr h)
  | none => single c

theorem ofChar_pair {first second c : Char} (h : escapePair? d c = some (first, second)) :
    ofChar d c = pair first second c (pairMeaning?_eq_some_iff.mpr h) := by
  rw [ofChar]
  split
  case h_1 hpair =>
    cases h.symm.trans hpair
    rfl
  case h_2 hnone => cases h.symm.trans hnone

theorem ofChar_single {c : Char} (h : escapePair? d c = none) : ofChar d c = single c := by
  rw [ofChar]
  split
  case h_1 hpair => cases h.symm.trans hpair
  case h_2 => rfl

theorem meaning_ofChar (c : Char) : (ofChar d c).meaning = c := by
  rcases h : escapePair? d c with _ | ⟨first, second⟩
  · rw [ofChar_single h, meaning]
  · rw [ofChar_pair h, meaning]

/-- What is written as itself has no pair. -/
theorem escapePair?_of_ofChar {a c : Char} (hsingle : ofChar d a = single c) :
    escapePair? d c = none := by
  rcases h : escapePair? d a with _ | ⟨first, second⟩
  · rw [ofChar_single h] at hsingle
    cases hsingle
    exact h
  · rw [ofChar_pair h] at hsingle
    cases hsingle

end Piece

/-- The pieces of a text, from left to right: a pair wherever one begins behind the last piece. -/
def pieces (d : Dialect) : List Char → List (Piece d)
  | first :: second :: rest =>
    match means : pairMeaning? d first second with
    | some c => .pair first second c means :: pieces d rest
    | none => .single first :: pieces d (second :: rest)
  | [c] => [.single c]
  | [] => []

theorem pieces_pair {first second c : Char} (means : pairMeaning? d first second = some c)
    (rest : List Char) :
    pieces d (first :: second :: rest) = .pair first second c means :: pieces d rest := by
  rw [pieces]
  split
  case h_1 hmeans =>
    cases means.symm.trans hmeans
    rfl
  case h_2 hnone => cases means.symm.trans hnone

theorem pieces_single {first second : Char} (means : pairMeaning? d first second = none)
    (rest : List Char) :
    pieces d (first :: second :: rest) = .single first :: pieces d (second :: rest) := by
  rw [pieces]
  split
  case h_1 hmeans => cases means.symm.trans hmeans
  case h_2 => rfl

/-- The pieces are the whole text. -/
theorem flatMap_text_pieces (x : List Char) : (pieces d x).flatMap Piece.text = x := by
  -- The cases are those of the cut: a pair, a character in front of another, the last character.
  induction x using pieces.induct d with
  | case1 first second rest c means ih =>
    rw [pieces_pair means, List.flatMap_cons, ih]
    rfl
  | case2 first second rest means ih =>
    rw [pieces_single means, List.flatMap_cons, ih]
    rfl
  | case3 c => rfl
  | case4 => rfl

theorem unescapeChars_pair {first second c : Char} (means : pairMeaning? d first second = some c)
    (rest : List Char) :
    unescapeChars d (first :: second :: rest) = c :: unescapeChars d rest := by
  cases d with
  | mysql =>
    rw [pairMeaning?, Option.ite_none_right_eq_some] at means
    obtain ⟨rfl, hletter⟩ := means
    rw [unescapeChars, unescapeBackslashes, hletter]
  | pgsql =>
    rw [pairMeaning?, Option.ite_none_right_eq_some] at means
    obtain ⟨hquotes, hc⟩ := means
    cases hc
    rw [unescapeChars, unescapeDoubled, if_pos hquotes]

theorem unescapeChars_single {first second : Char} (means : pairMeaning? d first second = none)
    (rest : List Char) :
    unescapeChars d (first :: second :: rest) = first :: unescapeChars d (second :: rest) := by
  cases d with
  | mysql =>
    rw [unescapeChars]
    -- A backslash is kept because of what stands behind it, any other character anyway.
    by_cases hslash : first = '\\'
    · subst hslash
      have hletter : unescapeLetter? second = none := means
      rw [unescapeBackslashes, hletter]
    · rw [unescapeBackslashes]
      rintro _ _ rfl
      exact absurd rfl hslash
  | pgsql =>
    rw [pairMeaning?, ite_eq_right_iff] at means
    have hquotes : ¬(first = apostrophe ∧ second = apostrophe) :=
      fun h => Option.some_ne_none _ (means h)
    rw [unescapeChars, unescapeDoubled, if_neg hquotes]

theorem unescapeChars_last (c : Char) : unescapeChars d [c] = [c] := by
  cases d with
  | mysql =>
    rw [unescapeChars, unescapeBackslashes, unescapeBackslashes]
    nofun
  | pgsql => rfl

/-- Reading takes each piece for what it means. -/
theorem unescapeChars_eq_map (x : List Char) :
    unescapeChars d x = (pieces d x).map Piece.meaning := by
  induction x using pieces.induct d with
  | case1 first second rest c means ih =>
    rw [unescapeChars_pair means, pieces_pair means, List.map_cons, ih, Piece.meaning]
  | case2 first second rest means ih =>
    rw [unescapeChars_single means, pieces_single means, List.map_cons, ih, Piece.meaning]
  | case3 c => exact unescapeChars_last c
  | case4 => cases d <;> rfl

/-! ## Pieces of escaped text -/

/-- An escaped character is one piece, whatever stands behind it. -/
theorem pieces_escapeChar_append (c : Char) (x : List Char) :
    pieces d (escapeChar d c ++ x) = Piece.ofChar d c :: pieces d x := by
  rcases h : escapePair? d c with _ | ⟨first, second⟩
  · rw [escapeChar_single h, Piece.ofChar_single h]
    cases x with
    | nil => rfl
    | cons second x => exact pieces_single (pairMeaning?_eq_none h second) x
  · rw [escapeChar_pair h, Piece.ofChar_pair h]
    exact pieces_pair _ x

/-- An escaped text has a piece for each character, whatever stands behind it. -/
theorem pieces_escapeChars_append (s x : List Char) :
    pieces d (escapeChars d s ++ x) = s.map (Piece.ofChar d) ++ pieces d x := by
  induction s with
  | nil => rfl
  | cons c s ih =>
    rw [escapeChars] at ih
    rw [escapeChars, List.flatMap_cons, List.append_assoc, pieces_escapeChar_append, ih]
    rfl

theorem pieces_escapeChars (s : List Char) :
    pieces d (escapeChars d s) = s.map (Piece.ofChar d) := by
  have hpieces := pieces_escapeChars_append (d := d) s []
  rwa [List.append_nil, pieces, List.append_nil] at hpieces

/-- An escaped text is read back. -/
theorem unescapeChars_escapeChars (s : List Char) : unescapeChars d (escapeChars d s) = s := by
  rw [unescapeChars_eq_map, pieces_escapeChars, List.map_map]
  exact List.map_id'' Piece.meaning_ofChar s

theorem escapeChars_injective : Function.Injective (escapeChars d) :=
  Function.LeftInverse.injective unescapeChars_escapeChars

/-- No character outside a pair has to be escaped. -/
def IsEscaped (d : Dialect) (x : List Char) : Prop :=
  ∀ c, .single c ∈ pieces d x → escapePair? d c = none

theorem isEscaped_escapeChars (s : List Char) : IsEscaped d (escapeChars d s) := by
  intro c hmem
  rw [pieces_escapeChars] at hmem
  obtain ⟨a, -, hsingle⟩ := List.mem_map.mp hmem
  exact Piece.escapePair?_of_ofChar hsingle

/-- Such a text is the same again once it is read and escaped. -/
theorem escapeChars_unescapeChars {x : List Char} (h : IsEscaped d x) :
    escapeChars d (unescapeChars d x) = x := by
  have hpieces : ∀ piece ∈ pieces d x, escapeChar d piece.meaning = piece.text := by
    intro piece hmem
    cases piece with
    | pair first second c means => exact escapeChar_pair (pairMeaning?_eq_some_iff.mp means)
    | single c => exact escapeChar_single (h c hmem)
  rw [unescapeChars_eq_map, escapeChars, List.flatMap_map, List.flatMap_congr hpieces,
    flatMap_text_pieces]

/-- **The escaped texts** are those in which no character outside a pair has to be escaped. -/
theorem isEscaped_iff_mem_range {x : List Char} :
    IsEscaped d x ↔ x ∈ Set.range (escapeChars d) := by
  constructor
  · intro h
    exact ⟨unescapeChars d x, escapeChars_unescapeChars h⟩
  · rintro ⟨s, rfl⟩
    exact isEscaped_escapeChars s

/-- An apostrophe that stands alone is read as itself and written as a pair. -/
example : escapeChars .pgsql (unescapeChars .pgsql [apostrophe]) = [apostrophe, apostrophe] := by
  decide

/-! ## Strings -/

theorem toList_escape (s : String) : (escape d s).toList = escapeChars d s.toList :=
  String.toList_ofList

theorem toList_unescape (s : String) : (unescape d s).toList = unescapeChars d s.toList :=
  String.toList_ofList

theorem unescape_escape (s : String) : unescape d (escape d s) = s := by
  rw [← String.toList_inj, toList_unescape, toList_escape, unescapeChars_escapeChars]

/-- Different texts are different between apostrophes. -/
theorem textLiteral_inj {s t : String} (h : textLiteral d s = textLiteral d t) : s = t := by
  have hchars := congrArg String.toList h
  simp only [textLiteral, String.toList_append, toList_escape, List.append_assoc,
    List.append_cancel_left_eq, List.append_cancel_right_eq] at hchars
  exact String.toList_inj.mp (escapeChars_injective hchars)

/-- **Reading inverts escaping.** An escaped text is read back, so different texts are escaped
differently; reading and escaping again keeps exactly the escaped texts; and in an escaped text no
apostrophe stands outside a pair, nor a double quote where it is escaped. -/
theorem unescape_inverts_escape (d : Dialect) :
    (∀ s, unescape d (escape d s) = s) ∧ Function.Injective (escape d) ∧
      (∀ x, escape d (unescape d x) = x ↔ x ∈ Set.range (escape d)) ∧
      ∀ s, .single apostrophe ∉ pieces d (escape d s).toList ∧
        (d = .mysql → .single doubleQuote ∉ pieces d (escape d s).toList) := by
  refine ⟨unescape_escape, Function.LeftInverse.injective unescape_escape, ?_, ?_⟩
  · intro x
    constructor
    · intro h
      exact ⟨unescape d x, h⟩
    · rintro ⟨s, rfl⟩
      rw [unescape_escape]
  · intro s
    have hescaped : IsEscaped d (escape d s).toList := by
      rw [toList_escape]
      exact isEscaped_escapeChars s.toList
    constructor
    · intro hmem
      have hnone := hescaped apostrophe hmem
      cases d <;> cases hnone
    · rintro rfl hmem
      cases hescaped doubleQuote hmem

/-- A backslash and a letter that look like an escape are read back as they were. -/
theorem lookalike_is_read_back :
    escape .mysql "it's\\n" = "it\\'s\\\\n" ∧ unescape .mysql "it\\'s\\\\n" = "it's\\n" ∧
      "it\\'s\\\\n" ∈ Set.range (escape .mysql) ∧
      escape .mysql (unescape .mysql "it\\'s\\\\n") = "it\\'s\\\\n" ∧
      .single apostrophe ∉ pieces .mysql "it\\'s\\\\n".toList ∧
      .single doubleQuote ∉ pieces .mysql "it\\'s\\\\n".toList := by
  have hescape : escape .mysql "it's\\n" = "it\\'s\\\\n" := by decide
  obtain ⟨hread, -, hrange, hquotes⟩ := unescape_inverts_escape .mysql
  have hback := hread "it's\\n"
  have hfree := hquotes "it's\\n"
  rw [hescape] at hback hfree
  have hmem : "it\\'s\\\\n" ∈ Set.range (escape .mysql) := ⟨_, hescape⟩
  exact ⟨hescape, hback, hmem, (hrange _).mpr hmem, hfree.1, hfree.2 rfl⟩

end SchemaPlan.Sql
