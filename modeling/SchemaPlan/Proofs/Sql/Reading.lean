import Mathlib.Data.List.Basic
import Mathlib.Data.List.TakeWhile
import SchemaPlan.Proofs.Sql.Escape

/-!
# Reading literals

How the databases read a literal at the front of a text: between apostrophes up to the first
apostrophe that is not escaped, or as hexadecimal digits up to the first character that is none.
What is read are bytes, and the text behind the literal is left.

* `readQuoted_escapeChars` says that an escaped text is read back, whatever it holds.
* `readHex_append` and `readDecode_append` say the same of bytes that are written as digits.
* `literal_is_read_back` says that no content ends its literal early or late, and that contents with
  the same literal have the same bytes.
-/
namespace SchemaPlan.Sql

open SchemaPlan.Text

/-! ## Readers -/

/-- What a character after a backslash stands for.  Two wildcards keep the backslash, and a character
that is no escape stands for itself. -/
def backslashMeaning : Char → List Char
  | '0' => ['\x00']
  | 'b' => ['\x08']
  | 'n' => ['\n']
  | 'r' => ['\r']
  | 't' => ['\t']
  | 'Z' => ['\x1a']
  | '%' => ['\\', '%']
  | '_' => ['\\', '_']
  | c => [c]

/-- Whether a backslash begins an escape. -/
def readsBackslashes : Dialect → Bool
  | .mysql => true
  | .pgsql => false

/-- Reads up to the apostrophe that ends a text, from behind the one that begins it; the text and
what stands behind it.  Two apostrophes are one of the text. -/
def readQuoted (d : Dialect) : List Char → Option (List Char × List Char)
  | [] => none
  | c :: rest =>
    if c = apostrophe then
      match rest with
      | [] => some ([], [])
      | next :: more =>
        if next = apostrophe then
          (readQuoted d more).map fun read => (apostrophe :: read.1, read.2)
        else some ([], next :: more)
    else if readsBackslashes d && c == '\\' then
      match rest with
      | [] => none
      | letter :: more =>
        (readQuoted d more).map fun read => (backslashMeaning letter ++ read.1, read.2)
    else (readQuoted d rest).map fun read => (c :: read.1, read.2)

/-- Whether a character is a hexadecimal digit, small or capital. -/
def isHexDigit (c : Char) : Bool :=
  (hexValue? c.toLower).isSome

/-- Whether a character would go on a number or a name. -/
def continuesName (c : Char) : Bool :=
  c.isAlphanum || c == '_' || c == '$'

/-- Reads digits behind their mark; an odd number of them lacks a zero in front. -/
def readHex (s : List Char) : Option (List UInt8 × List Char) := do
  let behind ← s.dropPrefix? ['0', 'x']
  let digits := behind.takeWhile isHexDigit
  let rest := behind.drop digits.length
  if digits.isEmpty || rest.head?.any continuesName then none
  else
    let digits := digits.map Char.toLower
    let bytes ← unhex? (if digits.length % 2 = 0 then digits else '0' :: digits)
    return (bytes, rest)

/-- Reads one character, with blanks in front of it or not. -/
def readMark (c : Char) (s : List Char) : Option (List Char) :=
  (s.dropWhile Char.isWhitespace).dropPrefix? [c]

/-- Reads the call that turns digits into bytes. -/
def readDecode (s : List Char) : Option (List UInt8 × List Char) := do
  let s ← s.dropPrefix? ['d', 'e', 'c', 'o', 'd', 'e']
  let s ← readMark '(' s
  let s ← readMark apostrophe s
  let (digits, s) ← readQuoted .pgsql s
  let s ← readMark ',' s
  let s ← readMark apostrophe s
  let (format, s) ← readQuoted .pgsql s
  let s ← readMark ')' s
  if format = ['h', 'e', 'x'] then
    let bytes ← unhex? (digits.map Char.toLower)
    return (bytes, s)
  else none

/-- Reads the literal at the front; its bytes and what stands behind it. -/
def readLiteral (d : Dialect) (s : List Char) : Option (List UInt8 × List Char) :=
  if s.head? = some apostrophe then
    (readQuoted d s.tail).map fun read => (utf8 (String.ofList read.1), read.2)
  else
    match d with
    | .mysql => readHex s
    | .pgsql => readDecode s

/-- A text that does not go on the literal in front of it. -/
def Stops (rest : List Char) : Prop :=
  ∀ c, rest.head? = some c → c ≠ apostrophe ∧ continuesName c = false

/-! ## Escapes -/

/-- The letter of an escape stands for the character that is escaped. -/
theorem backslashMeaning_of_escapeLetter? {c letter : Char} (h : escapeLetter? c = some letter) :
    backslashMeaning letter = [c] := by
  have hall : ∀ entry ∈ backslashEscapes, backslashMeaning entry.2 = [entry.1] := by decide
  exact hall (c, letter) (escapeLetter?_eq_some_iff.mp h)

/-- A character without an escape neither ends a text nor begins an escape. -/
theorem ne_of_escapeLetter?_eq_none {c : Char} (h : escapeLetter? c = none) :
    c ≠ apostrophe ∧ c ≠ '\\' := by
  constructor
  · rintro rfl
    cases h
  · rintro rfl
    cases h

/-- An apostrophe with none behind it ends the text. -/
theorem readQuoted_end (d : Dialect) {rest : List Char} (hrest : rest.head? ≠ some apostrophe) :
    readQuoted d (apostrophe :: rest) = some ([], rest) := by
  rcases rest with _ | ⟨next, more⟩
  · rfl
  · rw [readQuoted, if_pos rfl, if_neg fun h => hrest (congrArg some h)]

theorem readQuoted_doubled (d : Dialect) (rest : List Char) :
    readQuoted d (apostrophe :: apostrophe :: rest) =
      (readQuoted d rest).map fun read => (apostrophe :: read.1, read.2) := by
  rw [readQuoted, if_pos rfl, if_pos rfl]

theorem readQuoted_backslash (letter : Char) (rest : List Char) :
    readQuoted .mysql ('\\' :: letter :: rest) =
      (readQuoted .mysql rest).map fun read => (backslashMeaning letter ++ read.1, read.2) := by
  rw [readQuoted, if_neg (by decide), if_pos (by decide)]

/-- A character that neither ends the text nor begins an escape stands for itself. -/
theorem readQuoted_plain {d : Dialect} {c : Char} (hquote : c ≠ apostrophe)
    (hslash : readsBackslashes d = true → c ≠ '\\') (rest : List Char) :
    readQuoted d (c :: rest) = (readQuoted d rest).map fun read => (c :: read.1, read.2) := by
  have hno : ¬(readsBackslashes d && c == '\\') = true := by
    rw [Bool.and_eq_true, beq_iff_eq]
    exact fun h => hslash h.1 h.2
  rcases rest with _ | ⟨next, more⟩
  · conv_lhs => rw [readQuoted, if_neg hquote, if_neg hno]
  · conv_lhs => rw [readQuoted, if_neg hquote, if_neg hno]

/-- An escaped character is read back, whatever stands behind it. -/
theorem readQuoted_escapeChar (d : Dialect) (c : Char) (s : List Char) :
    readQuoted d (escapeChar d c ++ s) =
      (readQuoted d s).map fun read => (c :: read.1, read.2) := by
  rcases d
  · rcases hletter : escapeLetter? c with _ | letter
    · obtain ⟨hquote, hslash⟩ := ne_of_escapeLetter?_eq_none hletter
      simp only [escapeChar, hletter, List.singleton_append]
      exact readQuoted_plain hquote (fun _ => hslash) s
    · simp only [escapeChar, hletter, List.cons_append, List.nil_append]
      rw [readQuoted_backslash, backslashMeaning_of_escapeLetter? hletter]
      rfl
  · by_cases hquote : c = apostrophe
    · subst hquote
      exact readQuoted_doubled .pgsql s
    · rw [escapeChar, if_neg hquote]
      exact readQuoted_plain hquote (fun h => absurd h (by decide)) s

/-- An escaped text is read back up to the apostrophe that ends it. -/
theorem readQuoted_escapeChars (d : Dialect) (s : List Char) {rest : List Char}
    (hrest : rest.head? ≠ some apostrophe) :
    readQuoted d (escapeChars d s ++ apostrophe :: rest) = some (s, rest) := by
  induction s with
  | nil => exact readQuoted_end d hrest
  | cons c s ih =>
    rw [escapeChars] at ih
    rw [escapeChars, List.flatMap_cons, List.append_assoc, readQuoted_escapeChar, ih]
    rfl

/-- Where an apostrophe is written twice, a text without one stands for itself. -/
theorem escapeChars_pgsql_of_not_mem {s : List Char} (h : apostrophe ∉ s) :
    escapeChars .pgsql s = s := by
  induction s with
  | nil => rfl
  | cons c s ih =>
    obtain ⟨hc, hs⟩ := not_or.mp fun hor => h (List.mem_cons.mpr hor)
    rw [escapeChars] at ih
    rw [escapeChars, List.flatMap_cons, ih hs, escapeChar, if_neg (Ne.symm hc),
      List.singleton_append]

/-! ## Digits -/

theorem mem_hexBytes {bytes : List UInt8} {c : Char} (h : c ∈ hexBytes bytes) :
    ∃ n < 16, c = Nat.digitChar n := by
  obtain ⟨b, -, hc⟩ := List.mem_flatMap.mp h
  have hlt (n : Nat) : n % 16 < 16 := Nat.mod_lt n (by decide)
  rw [hexByte, List.mem_cons, List.mem_singleton] at hc
  rcases hc with rfl | rfl
  · exact ⟨_, hlt _, rfl⟩
  · exact ⟨_, hlt _, rfl⟩

/-- What holds of the sixteen digits holds of all digits that are written. -/
theorem forall_mem_hexBytes {p : Char → Prop} (hdigits : ∀ n < 16, p (Nat.digitChar n))
    (bytes : List UInt8) : ∀ c ∈ hexBytes bytes, p c := by
  intro c hc
  obtain ⟨n, hn, rfl⟩ := mem_hexBytes hc
  exact hdigits n hn

theorem map_toLower_hexBytes (bytes : List UInt8) :
    (hexBytes bytes).map Char.toLower = hexBytes bytes := by
  have hlower : ∀ c ∈ hexBytes bytes, c.toLower = c := forall_mem_hexBytes (by decide) bytes
  exact (List.map_congr_left hlower).trans (List.map_id _)

theorem apostrophe_not_mem_hexBytes (bytes : List UInt8) : apostrophe ∉ hexBytes bytes := by
  intro hmem
  exact forall_mem_hexBytes (p := (· ≠ apostrophe)) (by decide) bytes apostrophe hmem rfl

theorem length_hexBytes (bytes : List UInt8) : (hexBytes bytes).length = 2 * bytes.length := by
  induction bytes with
  | nil => rfl
  | cons b bytes ih =>
    rw [hexBytes] at ih
    rw [hexBytes, List.flatMap_cons, List.length_append, ih, hexByte]
    simp only [List.length_cons, List.length_nil]
    omega

theorem toLower_of_not_isUpper {c : Char} (h : c.isUpper = false) : c.toLower = c :=
  dif_neg (of_decide_eq_false h)

/-- A digit would go on a name. -/
theorem isAlphanum_of_isHexDigit {c : Char} (h : isHexDigit c = true) : c.isAlphanum = true := by
  show (c.isUpper || c.isLower || c.isDigit) = true
  rcases hupper : c.isUpper
  · rw [isHexDigit, toLower_of_not_isUpper hupper, hexValue?] at h
    split_ifs at h with hdigit hletter
    · have hc : c.isDigit = true :=
        Bool.and_eq_true_iff.mpr ⟨decide_eq_true hdigit.1, decide_eq_true hdigit.2⟩
      rw [hc, Bool.or_true]
    · have hlast : c ≤ 'z' := Char.le_trans hletter.2 (by decide)
      have hc : c.isLower = true :=
        Bool.and_eq_true_iff.mpr ⟨decide_eq_true hletter.1, decide_eq_true hlast⟩
      rw [hc]
      rfl
    · cases h
  · rfl

theorem Stops.not_isHexDigit {c : Char} {rest : List Char} (h : Stops (c :: rest)) :
    isHexDigit c = false := by
  have hname := (h c rfl).2
  rw [continuesName, Bool.or_eq_false_iff, Bool.or_eq_false_iff] at hname
  rw [← Bool.not_eq_true]
  intro hdigit
  rw [isAlphanum_of_isHexDigit hdigit] at hname
  cases hname.1.1

theorem dropPrefix?_append (front s : List Char) : (front ++ s).dropPrefix? front = some s :=
  List.dropPrefix?_eq_some_iff.mpr ⟨front, rfl, beq_self_eq_true front⟩

/-- Digits are read up to a text that does not go on a name. -/
theorem readHex_append {bytes : List UInt8} (hne : bytes ≠ []) {rest : List Char}
    (hrest : Stops rest) : readHex (['0', 'x'] ++ (hexBytes bytes ++ rest)) = some (bytes, rest) := by
  have hdigits : ∀ c ∈ hexBytes bytes, isHexDigit c = true := forall_mem_hexBytes (by decide) bytes
  have htake : (hexBytes bytes ++ rest).takeWhile isHexDigit = hexBytes bytes := by
    rw [List.takeWhile_append_of_pos hdigits]
    rcases rest with _ | ⟨c, rest⟩
    · exact List.append_nil _
    · rw [List.takeWhile_cons_of_neg (Bool.eq_false_iff.mp hrest.not_isHexDigit), List.append_nil]
  have hgoesOn : rest.head?.any continuesName = false := by
    rcases rest with _ | ⟨c, rest⟩
    · rfl
    · exact (hrest c rfl).2
  have hsome : (hexBytes bytes).isEmpty = false := by
    have hpos := List.length_pos_iff.mpr hne
    rw [List.isEmpty_eq_false_iff, ← List.length_pos_iff, length_hexBytes]
    omega
  have heven : (hexBytes bytes).length % 2 = 0 := by
    rw [length_hexBytes]
    omega
  simp only [readHex, dropPrefix?_append, Option.bind_eq_bind, Option.bind_some, htake,
    List.drop_left, hsome, hgoesOn, Bool.or_self, Bool.false_eq_true, if_false,
    map_toLower_hexBytes, heven, if_true, unhex?_hexBytes]
  rfl

/-- A character is read behind blanks. -/
theorem readMark_append {c : Char} (hc : c.isWhitespace = false) (blanks : List Char)
    (hblanks : ∀ b ∈ blanks, b.isWhitespace = true) (s : List Char) :
    readMark c (blanks ++ c :: s) = some s := by
  rw [readMark, List.dropWhile_append_of_pos hblanks,
    List.dropWhile_cons_of_neg (Bool.eq_false_iff.mp hc)]
  exact dropPrefix?_append [c] s

/-- The call that turns digits into bytes is read up to its end. -/
theorem readDecode_append (bytes : List UInt8) (rest : List Char) :
    readDecode (['d', 'e', 'c', 'o', 'd', 'e'] ++ '(' :: apostrophe :: (hexBytes bytes ++
      apostrophe :: ',' :: ' ' :: apostrophe :: 'h' :: 'e' :: 'x' :: apostrophe :: ')' :: rest)) =
      some (bytes, rest) := by
  have hmark {c : Char} (hc : c.isWhitespace = false) (s : List Char) :
      readMark c (c :: s) = some s := readMark_append hc [] (fun _ h => nomatch h) s
  have hblank (s : List Char) : readMark apostrophe (' ' :: apostrophe :: s) = some s :=
    readMark_append (by decide) [' '] (List.forall_mem_singleton.mpr rfl) s
  have hdigits (s : List Char) :
      readQuoted .pgsql (hexBytes bytes ++ apostrophe :: ',' :: s) =
        some (hexBytes bytes, ',' :: s) := by
    have hcomma : (',' :: s).head? ≠ some apostrophe := by
      rw [List.head?_cons, ne_eq, Option.some.injEq]
      decide
    have hread := readQuoted_escapeChars .pgsql (hexBytes bytes) hcomma
    rwa [escapeChars_pgsql_of_not_mem (apostrophe_not_mem_hexBytes bytes)] at hread
  have hformat (s : List Char) :
      readQuoted .pgsql ('h' :: 'e' :: 'x' :: apostrophe :: ')' :: s) =
        some (['h', 'e', 'x'], ')' :: s) := rfl
  simp only [readDecode, dropPrefix?_append, Option.bind_eq_bind, Option.bind_some,
    hmark (c := '(') (by decide), hmark (c := apostrophe) (by decide), hdigits,
    hmark (c := ',') (by decide), hblank, hformat, hmark (c := ')') (by decide), if_true,
    map_toLower_hexBytes, unhex?_hexBytes]
  rfl

/-! ## Literals -/

/-- A byte of the seven-bit alphabet is the whole encoding of its character. -/
theorem utf8EncodeChar_ofNat {b : UInt8} (hb : b.toNat < 128) :
    String.utf8EncodeChar (Char.ofNat b.toNat) = [b] := by
  have hall : ∀ n < 128, String.utf8EncodeChar (Char.ofNat n) = [UInt8.ofNat n] := by decide
  rw [hall _ hb, UInt8.ofNat_toNat]

/-- Bytes of the seven-bit alphabet are those of the text that they are read as. -/
theorem utf8_ofBytewise {bytes : List UInt8} (h : ∀ b ∈ bytes, b.toNat < 128) :
    utf8 (ofBytewise bytes) = bytes := by
  rw [utf8, ofBytewise, String.toList_ofList]
  induction bytes with
  | nil => rfl
  | cons b bytes ih =>
    obtain ⟨hb, hbytes⟩ := List.forall_mem_cons.mp h
    rw [List.map_cons, List.flatMap_cons, utf8EncodeChar_ofNat hb, ih hbytes]
    rfl

/-- A content that is not binary has the bytes of its text. -/
theorem utf8_bytewise {c : Content} (h : isBinary c = false) : utf8 c.bytewise = c.toBytes := by
  rcases c with s | bytes
  · rfl
  · refine utf8_ofBytewise fun b hb => ?_
    have hplain := List.any_eq_false.mp h b hb
    rw [isBinaryByte, Bool.or_eq_true, decide_eq_true_iff, decide_eq_true_iff, not_or,
      UInt8.not_lt, UInt8.not_lt] at hplain
    exact Nat.lt_succ_of_le (le_trans hplain.2 (by decide))

theorem toBytes_ne_nil {c : Content} (h : isBinary c = true) : c.toBytes ≠ [] := by
  intro hnil
  rw [isBinary, hnil] at h
  cases h

theorem readLiteral_quoted (d : Dialect) (s : List Char) :
    readLiteral d (apostrophe :: s) =
      (readQuoted d s).map fun read => (utf8 (String.ofList read.1), read.2) := by
  unfold readLiteral
  exact if_pos rfl

/-- A text between apostrophes is read up to its end, whatever it holds. -/
theorem readLiteral_textLiteral (d : Dialect) (s : String) {rest : List Char} (hrest : Stops rest) :
    readLiteral d ((textLiteral d s).toList ++ rest) = some (utf8 s, rest) := by
  have hquote : rest.head? ≠ some apostrophe := fun h => (hrest _ h).1 rfl
  have hchars : (textLiteral d s).toList ++ rest =
      apostrophe :: (escapeChars d s.toList ++ apostrophe :: rest) := by
    simp only [textLiteral, escape, String.toList_append, String.toList_ofList, List.append_assoc]
    rfl
  rw [hchars, readLiteral_quoted, readQuoted_escapeChars d _ hquote, Option.map_some,
    String.ofList_toList]

/-- The literal of a content is read up to its end, as the bytes of the content. -/
theorem readLiteral_literal (d : Dialect) (c : Content) {rest : List Char} (hrest : Stops rest) :
    readLiteral d ((literal d c).toList ++ rest) = some (c.toBytes, rest) := by
  rw [literal]
  rcases hbinary : isBinary c
  · rw [if_neg Bool.false_ne_true, readLiteral_textLiteral d _ hrest, utf8_bytewise hbinary]
  · rw [if_pos rfl]
    rcases d
    · have hchars : (hexLiteral .mysql c).toList ++ rest =
          ['0', 'x'] ++ (hexBytes c.toBytes ++ rest) := by
        simp only [hexLiteral, String.toList_append, String.toList_ofList, List.append_assoc]
        rfl
      rw [hchars]
      exact readHex_append (toBytes_ne_nil hbinary) hrest
    · have hchars : (hexLiteral .pgsql c).toList ++ rest =
          ['d', 'e', 'c', 'o', 'd', 'e'] ++ '(' :: apostrophe :: (hexBytes c.toBytes ++
            apostrophe :: ',' :: ' ' :: apostrophe :: 'h' :: 'e' :: 'x' :: apostrophe :: ')' ::
              rest) := by
        simp only [hexLiteral, String.toList_append, String.toList_ofList, List.append_assoc]
        rfl
      rw [hchars]
      exact readDecode_append c.toBytes rest

/-- **A literal is read back, whatever it holds.** In front of a text that does not go on it, the
literal of a content is read up to its end and gives the bytes of the content; so contents with the
same literal have the same bytes. -/
theorem literal_is_read_back (d : Dialect) :
    (∀ c rest, Stops rest →
      readLiteral d ((literal d c).toList ++ rest) = some (c.toBytes, rest)) ∧
    ∀ a b, literal d a = literal d b → a.toBytes = b.toBytes := by
  constructor
  · intro c rest hrest
    exact readLiteral_literal d c hrest
  · intro a b hsame
    have hnothing : Stops [] := fun _ h => nomatch h
    have hread := readLiteral_literal d a hnothing
    rw [hsame, readLiteral_literal d b hnothing, Option.some.injEq, Prod.mk.injEq] at hread
    exact hread.1.symm

/-- An apostrophe and a backslash at the end of a text do not reach what stands behind it. -/
theorem awkward_text_is_read_back :
    literal .mysql (.text "it's\\") = "'it\\'s\\\\'" ∧
      readLiteral .mysql "'it\\'s\\\\', 1)".toList =
        some ([0x69, 0x74, 0x27, 0x73, 0x5c], ", 1)".toList) := by
  have hstops : Stops ", 1)".toList := by
    intro c hc
    obtain rfl : ',' = c := Option.some.inj hc
    decide
  have hliteral : literal .mysql (.text "it's\\") = "'it\\'s\\\\'" := by decide
  have hread := (literal_is_read_back .mysql).1 (.text "it's\\") ", 1)".toList hstops
  rw [hliteral] at hread
  exact ⟨hliteral, hread⟩

end SchemaPlan.Sql
