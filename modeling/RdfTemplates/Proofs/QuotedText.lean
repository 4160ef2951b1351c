import RdfTemplates.Term.Text

/-!
# Quoted lexical forms

Between the quotes of a literal every quote is escaped and no line end stands
for itself.  So the first quote that is not escaped ends the lexical form, which
can be read back from what is written.  What follows tells the language tag or
the datatype.  Only the datatype of a language-tagged string is not written.
-/

namespace RdfTemplates

/-! ## Reading -/

/-- What a letter after a backslash stands for. -/
def unescapeChar? : Char → Option Char
  | '\\' => some '\\'
  | '"' => some '"'
  | 'n' => some '\n'
  | 'r' => some '\r'
  | _ => none

/-- Whether a character may stand for itself between quotes. -/
def isPlain (char : Char) : Bool :=
  char != '\\' && char != '"' && char != '\n' && char != '\r'

/-- What stands between the quotes is read with four escapes.  Other escapes are
refused, and so is a character that has to be escaped and is not. -/
def unescapeChars? : List Char → Option (List Char)
  | [] => some []
  | '\\' :: letter :: rest =>
      (unescapeChar? letter).bind fun char =>
        (unescapeChars? rest).map (char :: ·)
  | char :: rest =>
      if isPlain char then (unescapeChars? rest).map (char :: ·) else none

def unescape? (written : String) : Option String :=
  (unescapeChars? written.toList).map String.ofList

/-! ## Escapes -/

section Escapes

variable {char letter : Char} {chars written : List Char}

theorem isPlain_iff :
    isPlain char = true ↔
      char ≠ '\\' ∧ char ≠ '"' ∧ char ≠ '\n' ∧ char ≠ '\r' := by
  simp only [isPlain, Bool.and_eq_true, bne_iff_ne, and_assoc]

theorem escapeChar_of_letter (stands : unescapeChar? letter = some char) :
    escapeChar char = ['\\', letter] := by
  unfold unescapeChar? at stands
  split at stands <;> cases stands <;> rfl

theorem escapeChar_of_isPlain (plain : isPlain char = true) :
    escapeChar char = [char] := by
  obtain ⟨notBackslash, notQuote, notFeed, notReturn⟩ := isPlain_iff.mp plain
  unfold escapeChar
  split
  · exact absurd rfl notBackslash
  · exact absurd rfl notQuote
  · exact absurd rfl notFeed
  · exact absurd rfl notReturn
  · rfl

/-- A character is written as a backslash with a letter that stands for it, or
as itself. -/
theorem escapeChar_cases (char : Char) :
    (∃ letter, unescapeChar? letter = some char ∧
      escapeChar char = ['\\', letter]) ∨
      (isPlain char = true ∧ escapeChar char = [char]) := by
  unfold escapeChar
  split
  · exact Or.inl ⟨'\\', rfl, rfl⟩
  · exact Or.inl ⟨'"', rfl, rfl⟩
  · exact Or.inl ⟨'n', rfl, rfl⟩
  · exact Or.inl ⟨'r', rfl, rfl⟩
  · rename_i notBackslash notQuote notFeed notReturn
    exact Or.inr
      ⟨isPlain_iff.mpr ⟨notBackslash, notQuote, notFeed, notReturn⟩, rfl⟩

theorem escapeChars_cons (char : Char) (chars : List Char) :
    escapeChars (char :: chars) = escapeChar char ++ escapeChars chars :=
  List.flatMap_cons

theorem unescapeChars?_letter (stands : unescapeChar? letter = some char) :
    unescapeChars? ('\\' :: letter :: written) =
      (unescapeChars? written).map (char :: ·) := by
  rw [unescapeChars?, stands, Option.bind_some]

theorem unescapeChars?_plain (plain : isPlain char = true) :
    unescapeChars? (char :: written) =
      (unescapeChars? written).map (char :: ·) := by
  rw [unescapeChars?, if_pos plain]
  intro letter rest isBackslash
  exact absurd isBackslash (isPlain_iff.mp plain).1

theorem unescapeChars?_escapeChars (chars : List Char) :
    unescapeChars? (escapeChars chars) = some chars := by
  induction chars with
  | nil => rfl
  | cons char chars induction =>
      rcases escapeChar_cases char with ⟨letter, stands, isWritten⟩ |
        ⟨plain, isWritten⟩
      · rw [escapeChars_cons, isWritten, List.cons_append,
          List.singleton_append,
          unescapeChars?_letter stands, induction, Option.map_some]
      · rw [escapeChars_cons, isWritten, List.singleton_append,
          unescapeChars?_plain plain, induction, Option.map_some]

theorem eq_escapeChars_of_unescapeChars?
    (isRead : unescapeChars? written = some chars) :
    written = escapeChars chars := by
  fun_induction unescapeChars? written generalizing chars with
  | case1 =>
      cases isRead
      rfl
  | case2 letter rest induction =>
      obtain ⟨char, stands, restRead⟩ := Option.bind_eq_some_iff.mp isRead
      obtain ⟨others, othersRead, whole⟩ := Option.map_eq_some_iff.mp restRead
      rw [← whole, escapeChars_cons, escapeChar_of_letter stands,
        ← induction othersRead]
      rfl
  | case3 char rest _ plain induction =>
      obtain ⟨others, othersRead, whole⟩ := Option.map_eq_some_iff.mp isRead
      rw [← whole, escapeChars_cons, escapeChar_of_isPlain plain,
        ← induction othersRead]
      rfl
  | case4 => cases isRead

/-- A text has one escaped form, and nothing else is read as it. -/
theorem unescape?_eq_some_iff {written text : String} :
    unescape? written = some text ↔ written = escape text := by
  rw [unescape?, Option.map_eq_some_iff]
  constructor
  · intro isRead
    obtain ⟨chars, charsRead, same⟩ := isRead
    rw [← same, escape, String.toList_ofList,
      ← eq_escapeChars_of_unescapeChars? charsRead, String.ofList_toList]
  · intro isWritten
    refine ⟨text.toList, ?_, String.ofList_toList⟩
    rw [isWritten, escape, String.toList_ofList]
    exact unescapeChars?_escapeChars text.toList

/-- A character that stands for itself is no line end, and neither is a letter
that stands for another. -/
theorem ne_lineEnd_of_mem_escapeChars (member : letter ∈ escapeChars chars) :
    letter ≠ '\n' ∧ letter ≠ '\r' := by
  obtain ⟨char, _, inChar⟩ := List.mem_flatMap.mp member
  rcases escapeChar_cases char with ⟨other, stands, isWritten⟩ |
    ⟨plain, isWritten⟩
  · rw [isWritten, List.mem_cons, List.mem_singleton] at inChar
    rcases inChar with isBackslash | isOther
    · subst isBackslash
      decide
    · subst isOther
      constructor
      · intro isFeed
        subst isFeed
        cases stands
      · intro isReturn
        subst isReturn
        cases stands
  · rw [isWritten, List.mem_singleton] at inChar
    subst inChar
    exact (isPlain_iff.mp plain).2.2

end Escapes

/-! ## Escaped quotes -/

/-- How many backslashes a text ends with. -/
def trailingBackslashes (chars : List Char) : Nat :=
  (chars.reverse.takeWhile (· == '\\')).length

/-- Whether the character that follows is escaped.  The backslashes before it
escape one another in pairs, and one is left for it if they are odd in
number. -/
def escapesNext (chars : List Char) : Bool :=
  trailingBackslashes chars % 2 == 1

section Quotes

variable {chars front : List Char}

theorem escapesNext_append (unescaped : escapesNext front = false)
    (back : List Char) : escapesNext (front ++ back) = escapesNext back := by
  have even : trailingBackslashes front % 2 = 0 := by
    have notOdd :
        trailingBackslashes front % 2 ≠ 1 := beq_eq_false_iff_ne.mp unescaped
    omega
  have sameParity : trailingBackslashes (front ++ back) % 2 =
      trailingBackslashes back % 2 := by
    unfold trailingBackslashes at even ⊢
    rw [List.reverse_append, List.takeWhile_append]
    -- The backslashes go on into the front only if the back has nothing else.
    split
    · rename_i onlyBackslashes
      rw [List.length_append, onlyBackslashes]
      omega
    · rfl
  rw [escapesNext, escapesNext, sameParity]

theorem escapesNext_escapeChar (char : Char) :
    escapesNext (escapeChar char) = false := by
  rcases escapeChar_cases char with ⟨letter, _, isWritten⟩ | ⟨plain, isWritten⟩
  · rw [isWritten]
    by_cases isBackslash : letter = '\\'
    · subst isBackslash
      rfl
    · simp [escapesNext, trailingBackslashes, isBackslash]
  · have notBackslash : char ≠ '\\' := (isPlain_iff.mp plain).1
    simp [isWritten, escapesNext, trailingBackslashes, notBackslash]

theorem escapesNext_escapeChars (chars : List Char) :
    escapesNext (escapeChars chars) = false := by
  induction chars with
  | nil => rfl
  | cons char chars induction =>
      rw [escapeChars_cons, escapesNext_append (escapesNext_escapeChar char),
        induction]

theorem escapesNext_of_quote_in_escapeChar {char : Char}
    {before after : List Char}
    (split : escapeChar char = before ++ '"' :: after) :
    escapesNext before = true := by
  rcases escapeChar_cases char with ⟨letter, _, isWritten⟩ | ⟨plain, isWritten⟩
  · rw [isWritten] at split
    cases before with
    | nil => exact absurd (List.cons.inj split).1 (by decide)
    | cons first before =>
        obtain ⟨isBackslash, isLetter⟩ := List.cons.inj split
        cases before with
        | nil =>
            rw [← isBackslash]
            rfl
        | cons second before => simp at isLetter
  · rw [isWritten] at split
    cases before with
    | nil => exact absurd (List.cons.inj split).1 (isPlain_iff.mp plain).2.1
    | cons first before => simp at split

theorem escapesNext_of_quote {before after : List Char}
    (split : escapeChars chars = before ++ '"' :: after) :
    escapesNext before = true := by
  induction chars generalizing before with
  | nil => simp [escapeChars] at split
  | cons char chars induction =>
      rw [escapeChars_cons, List.append_eq_append_iff] at split
      -- The quote comes later, or the first character is written with it.
      rcases split with ⟨further, isBefore, later⟩ | ⟨rest, inChar, later⟩
      · rw [isBefore, escapesNext_append (escapesNext_escapeChar char)]
        exact induction later
      · cases rest with
        | nil =>
            have atOnce : escapesNext [] = true := induction later.symm
            exact absurd atOnce (by decide)
        | cons quote rest =>
            rw [← (List.cons.inj later).1] at inChar
            exact escapesNext_of_quote_in_escapeChar inChar

end Quotes

/-! ## Literals -/

/-- What stands before and after the first quote of a text that is not
escaped. -/
structure ClosesAt (text before after : List Char) : Prop where
  whole : text = before ++ '"' :: after
  unescaped : escapesNext before = false
  first : ∀ earlier later, before = earlier ++ '"' :: later →
    escapesNext earlier = true

/-- No quote after the first one is another first one. -/
theorem ClosesAt.eq_nil_of_append {text before after between rest : List Char}
    (closes : ClosesAt text before after)
    (otherCloses : ClosesAt text (before ++ between) rest) : between = [] := by
  cases between with
  | nil => rfl
  | cons quote between =>
      have same := closes.whole.symm.trans otherCloses.whole
      rw [List.append_assoc, List.append_cancel_left_eq, List.cons_append]
        at same
      have escaped : escapesNext before = true := by
        apply otherCloses.first before between
        rw [(List.cons.inj same).1]
      rw [closes.unescaped] at escaped
      cases escaped

theorem ClosesAt.unique {text before after other rest : List Char}
    (closes : ClosesAt text before after)
    (otherCloses : ClosesAt text other rest) :
    before = other ∧ after = rest := by
  have same := closes.whole.symm.trans otherCloses.whole
  have sameBefore : before = other := by
    rcases List.append_eq_append_iff.mp same with ⟨between, isLonger, _⟩ |
      ⟨between, isLonger, _⟩
    · subst isLonger
      rw [closes.eq_nil_of_append otherCloses, List.append_nil]
    · subst isLonger
      rw [otherCloses.eq_nil_of_append closes, List.append_nil]
  subst sameBefore
  exact ⟨rfl, (List.cons.inj (List.append_cancel_left same)).2⟩

namespace Literal

/-- What a literal is written as after its quotes. -/
def ending (literal : Literal) : String :=
  match literal.language with
  | some tag => "@" ++ tag
  | none => "^^<" ++ literal.datatype ++ ">"

theorem toList_text (literal : Literal) :
    literal.text.toList =
      '"' ::
        (escapeChars literal.value.toList ++ '"' :: literal.ending.toList) := by
  have inQuotes : literal.text =
      "\"" ++ escape literal.value ++ "\"" ++ literal.ending := rfl
  rw [inQuotes]
  simp [escape]

theorem closesAt_iff (literal : Literal) {before after : List Char} :
    ClosesAt literal.text.toList.tail before after ↔
      before = escapeChars literal.value.toList ∧
        after = literal.ending.toList := by
  have closes : ClosesAt literal.text.toList.tail
      (escapeChars literal.value.toList) literal.ending.toList := by
    rw [toList_text]
    exact ⟨rfl, escapesNext_escapeChars _, fun _ _ => escapesNext_of_quote⟩
  constructor
  · intro otherCloses
    exact otherCloses.unique closes
  · intro same
    rw [same.1, same.2]
    exact closes

theorem language_eq_of_ending {left right : Literal}
    (same : left.ending = right.ending) : left.language = right.language ∧
      (left.language = none → left.datatype = right.datatype) := by
  have sameChars := congrArg String.toList same
  unfold ending at sameChars
  cases leftLanguage : left.language with
  | some tag =>
      cases rightLanguage : right.language with
      | some other =>
          simp only [leftLanguage, rightLanguage, String.toList_append,
            List.append_cancel_left_eq, String.toList_inj] at sameChars
          simp [sameChars]
      | none => simp [leftLanguage, rightLanguage] at sameChars
  | none =>
      cases rightLanguage : right.language with
      | some other => simp [leftLanguage, rightLanguage] at sameChars
      | none =>
          simp only [leftLanguage, rightLanguage, String.toList_append,
            List.append_cancel_left_eq, List.append_cancel_right_eq,
            String.toList_inj] at sameChars
          simp [sameChars]

theorem value_and_ending_eq_of_text {left right : Literal}
    (same : left.text = right.text) :
    left.value = right.value ∧ left.ending = right.ending := by
  have leftCloses := (closesAt_iff left).mpr ⟨rfl, rfl⟩
  rw [same] at leftCloses
  obtain ⟨sameEscaped, sameEnding⟩ := (closesAt_iff right).mp leftCloses
  have sameValue : some left.value.toList = some right.value.toList := by
    rw [← unescapeChars?_escapeChars, sameEscaped, unescapeChars?_escapeChars]
  exact ⟨String.toList_inj.mp (Option.some.inj sameValue),
    String.toList_inj.mp sameEnding⟩

/-- An escaped text has no line end in it and no quote that is not escaped, and
is the one text that is read as what was escaped.  So the first quote of a
literal that is not escaped ends its lexical form.  Literals with the same text
are equal if those with a language tag have the datatype of language-tagged
strings. -/
theorem text_unambiguous :
    (∀ text : String,
      '\n' ∉ (escape text).toList ∧ '\r' ∉ (escape text).toList ∧
        (∀ before after, (escape text).toList = before ++ '"' :: after →
          trailingBackslashes before % 2 = 1) ∧
        ∀ written, unescape? written = some text ↔ written = escape text) ∧
      (∀ literal : Literal, ∃ inside, literal.text.toList = '"' :: inside ∧
        ∀ before after, ClosesAt inside before after ↔
          before = (escape literal.value).toList ∧
            after = literal.ending.toList) ∧
      ∀ left right : Literal, (left.language.isSome = true →
        left.datatype = Vocabulary.rdfLangString) →
        (right.language.isSome = true →
          right.datatype = Vocabulary.rdfLangString) →
        left.text = right.text → left = right := by
  refine ⟨?_, ?_, ?_⟩
  · intro text
    rw [escape, String.toList_ofList]
    refine ⟨?_, ?_, ?_, ?_⟩
    · intro isRaw
      exact (ne_lineEnd_of_mem_escapeChars isRaw).1 rfl
    · intro isRaw
      exact (ne_lineEnd_of_mem_escapeChars isRaw).2 rfl
    · intro before after split
      exact beq_iff_eq.mp (escapesNext_of_quote split)
    · intro written
      exact unescape?_eq_some_iff
  · intro literal
    refine ⟨literal.text.toList.tail, ?_, ?_⟩
    · rw [toList_text, List.tail_cons]
    · intro before after
      rw [closesAt_iff, escape, String.toList_ofList]
  · intro left right leftTyped rightTyped same
    obtain ⟨sameValue, sameEnding⟩ := value_and_ending_eq_of_text same
    obtain ⟨sameLanguage, sameDatatype⟩ := language_eq_of_ending sameEnding
    have datatypes : left.datatype = right.datatype := by
      by_cases untagged : left.language = none
      · exact sameDatatype untagged
      · have tagged : left.language.isSome = true :=
          Option.isSome_iff_ne_none.mpr untagged
        rw [leftTyped tagged, rightTyped (sameLanguage ▸ tagged)]
    cases left
    cases right
    simp only [Literal.mk.injEq]
    exact ⟨sameValue, datatypes, sameLanguage⟩

/-- A value that looks as if it ended a literal, and one that does. -/
theorem text_unambiguous_lookalike :
    let value := "a\\\"@no"
    let written := "a\\\\\\\"@no"
    let tagged : Literal :=
      { value, datatype := Vocabulary.rdfLangString, language := some "no" }
    written.toList = "a\\\\\\".toList ++ '"' :: "@no".toList ∧
      trailingBackslashes "a\\\\\\".toList % 2 = 1 ∧
      unescape? written = some value ∧
      ClosesAt (written ++ "\"@no").toList written.toList "@no".toList ∧
      tagged.text = (Literal.tagged value "no").text ∧
      tagged = .tagged value "no" ∧
      (Literal.plain value).text ≠ (Literal.tagged "a\\" "no").text := by
  intro value written tagged
  obtain ⟨escaped, closes, injective⟩ := text_unambiguous
  obtain ⟨_, _, odd, isRead⟩ := escaped value
  have isWritten : written = escape value := by decide +kernel
  have split : written.toList = "a\\\\\\".toList ++ '"' :: "@no".toList := by
    decide +kernel
  obtain ⟨inside, whole, closing⟩ := closes tagged
  have isInside : (written ++ "\"@no").toList = inside := by
    have shown : tagged.text.toList = '"' :: (written ++ "\"@no").toList := by
      decide +kernel
    exact (List.cons.inj (shown.symm.trans whole)).2
  refine ⟨split, ?_, (isRead written).mpr isWritten, ?_, rfl, ?_, ?_⟩
  · rw [isWritten] at split
    exact odd _ _ split
  · rw [isInside]
    exact (closing _ _).mpr
      ⟨congrArg String.toList isWritten, by decide +kernel⟩
  · exact injective tagged (.tagged value "no") (fun _ => rfl)
      (fun _ => rfl) rfl
  · intro same
    have equal := injective (.plain value) (.tagged "a\\" "no")
      (fun isTagged => by cases isTagged) (fun _ => rfl) same
    cases congrArg Literal.language equal

end Literal

end RdfTemplates
