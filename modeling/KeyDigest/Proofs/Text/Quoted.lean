import KeyDigest.Proofs.Hex.Inverse

/-! # Quoted texts read back

What stands between quotes is read from the left, one character at a time, up to the quote that is
not escaped.  `readCharacter` does that without being told which characters were written by number,
so whichever they are, a quoted text ends where it seems to end and comes from one text only.
-/

namespace KeyDigest.Text

/-! ## Numbers in texts

A decimal numeral is made of digits, so it ends where anything else begins; a hexadecimal one stands
between braces.  Either way the number can be had back from its digits.
-/

/-! ### Decimal numerals -/

theorem toList_toString (n : Nat) : (toString n).toList = Nat.toDigits 10 n :=
  Nat.toList_repr

theorem toString_inj {m n : Nat} : toString m = toString n ↔ m = n := by
  refine ⟨fun h => ?_, congrArg toString⟩
  have hdigits : Nat.toDigits 10 m = Nat.toDigits 10 n := by
    rw [← toList_toString, h, toList_toString]
  have hread (k : Nat) : Nat.ofDigitChars 10 (Nat.toDigits 10 k) 0 = k :=
    Nat.ofDigitChars_toDigits (by decide) (by decide)
  rw [← hread m, hdigits, hread]

theorem toString_byte_inj {x y : UInt8} : toString x = toString y ↔ x = y := by
  rw [← UInt8.toNat_inj]
  exact toString_inj

theorem not_mem_toString {c : Char} (hc : c.isDigit = false) (n : Nat) :
    c ∉ (toString n).toList := by
  intro hmem
  rw [toList_toString] at hmem
  have hdigit := Nat.isDigit_of_mem_toDigits (by decide) (by decide) hmem
  rw [hc] at hdigit
  cases hdigit

/-! ### Hexadecimal numerals -/

/-- The number that hexadecimal digits write. -/
def hexNumber (numeral : List Char) : Nat :=
  numeral.foldl (fun number digit => 16 * number + Hex.weight digit.toUInt8) 0

theorem hexNumber_hexNumeral (n : Nat) : hexNumber (hexNumeral n) = n := by
  induction n using Nat.strongRecOn with
  | ind n ih =>
    rw [hexNumeral, Nat.toDigits_eq_if (by decide)]
    by_cases hsmall : n < 16
    · have hvalue := (Hex.weight_digitChar hsmall).2
      rw [if_pos hsmall, hexNumber, List.foldl_cons, List.foldl_nil, hvalue, Nat.mul_zero,
        Nat.zero_add]
    · -- All digits but the last are those of the sixteenth part.
      have hlast := (Hex.weight_digitChar (n := n % 16) (by omega)).2
      have hfirst := ih (n / 16) (by omega)
      rw [hexNumber, hexNumeral] at hfirst
      rw [if_neg hsmall, hexNumber, List.foldl_append, hfirst, List.foldl_cons, List.foldl_nil,
        hlast, Nat.div_add_mod]

theorem mem_lowercase_of_mem_hexNumeral {n : Nat} {c : Char} (h : c ∈ hexNumeral n) :
    c ∈ Hex.lowercase := by
  induction n using Nat.strongRecOn with
  | ind n ih =>
    rw [hexNumeral, Nat.toDigits_eq_if (by decide)] at h
    by_cases hsmall : n < 16
    · rw [if_pos hsmall, List.mem_singleton] at h
      exact h ▸ Hex.digitChar_mem_lowercase hsmall
    · rw [if_neg hsmall, List.mem_append, List.mem_singleton] at h
      obtain hfirst | rfl := h
      · exact ih (n / 16) (by omega) hfirst
      · exact Hex.digitChar_mem_lowercase (by omega)

theorem not_mem_hexNumeral {c : Char} (hc : c ∉ Hex.lowercase) (n : Nat) : c ∉ hexNumeral n :=
  fun hmem => hc (mem_lowercase_of_mem_hexNumeral hmem)

/-! ## Reading -/

variable {unseen : Char → Bool} {delimiter : Char}

/-! ### One character -/

/-- What a letter behind a backslash stands for, unless a number follows it. -/
def meaning (letter : Char) : Char :=
  if letter = '0' then '\x00'
  else if letter = 't' then '\t'
  else if letter = 'r' then '\r'
  else if letter = 'n' then '\n'
  else letter

/-- What follows a backslash: the character that it stands for, and the rest of the text. -/
def readEscape : List Char → Option (Char × List Char)
  | [] => none
  | letter :: rest =>
    if letter = 'u' then
      let numeral := rest.tail.takeWhile (· ≠ '\x7d')
      some (Char.ofNat (hexNumber numeral), (rest.tail.dropWhile (· ≠ '\x7d')).tail)
    else some (meaning letter, rest)

/-- The first character of what stands before a `delimiter`, or `none` if that comes first. -/
def readCharacter (delimiter : Char) : List Char → Option (Char × List Char)
  | [] => none
  | c :: rest =>
    if c = delimiter then none
    else if c = '\\' then readEscape rest
    else some (c, rest)

theorem readCharacter_backslash (hdelimiter : delimiter ≠ '\\') (rest : List Char) :
    readCharacter delimiter ('\\' :: rest) = readEscape rest := by
  rw [readCharacter, if_neg hdelimiter.symm, if_pos rfl]

theorem readEscape_numbered (c : Char) (rest : List Char) :
    readEscape ('u' :: '\x7b' :: (hexNumeral c.toNat ++ '\x7d' :: rest)) = some (c, rest) := by
  have hclosing : '\x7d' ∉ hexNumeral c.toNat := not_mem_hexNumeral (by simp [Hex.lowercase]) _
  have hbrace : ∀ digit ∈ hexNumeral c.toNat, decide (digit ≠ '\x7d') = true := by
    intro digit hdigit
    rw [decide_eq_true_iff]
    rintro rfl
    exact hclosing hdigit
  rw [readEscape, if_pos rfl]
  simp only [List.tail_cons]
  rw [List.takeWhile_append_of_pos hbrace, List.dropWhile_append_of_pos hbrace,
    List.takeWhile_cons_of_neg (by decide), List.dropWhile_cons_of_neg (by decide),
    List.append_nil, hexNumber_hexNumeral, Char.ofNat_toNat, List.tail_cons]

/-- The written form of a character is read as that character, whatever follows it. -/
theorem readCharacter_escape (hdelimiter : delimiter = '"' ∨ delimiter = '\'') (c : Char)
    (rest : List Char) :
    readCharacter delimiter (escape unseen delimiter c ++ rest) = some (c, rest) := by
  have hbackslash : delimiter ≠ '\\' := by
    rintro rfl
    simp at hdelimiter
  -- The cases of the writer, in its order.
  unfold escape
  by_cases hnul : c = '\x00'
  · subst hnul
    exact readCharacter_backslash hbackslash _
  by_cases htab : c = '\t'
  · subst htab
    exact readCharacter_backslash hbackslash _
  by_cases hreturn : c = '\r'
  · subst hreturn
    exact readCharacter_backslash hbackslash _
  by_cases hnewline : c = '\n'
  · subst hnewline
    exact readCharacter_backslash hbackslash _
  by_cases hself : c = '\\'
  · subst hself
    exact readCharacter_backslash hbackslash _
  rw [if_neg hnul, if_neg htab, if_neg hreturn, if_neg hnewline, if_neg hself]
  by_cases hquote : c = delimiter
  · subst hquote
    rw [if_pos rfl]
    obtain rfl | rfl := hdelimiter
    · exact readCharacter_backslash hbackslash _
    · exact readCharacter_backslash hbackslash _
  · rw [if_neg hquote]
    by_cases hunseen : unseen c
    · rw [if_pos hunseen, List.append_assoc, List.append_assoc]
      exact (readCharacter_backslash hbackslash _).trans (readEscape_numbered c rest)
    · rw [if_neg hunseen, List.singleton_append, readCharacter, if_neg hquote, if_neg hself]

/-! ### Quoted texts -/

/-- A quoted text says what it quotes and where it ends. -/
theorem enclose_append_inj (hdelimiter : delimiter = '"' ∨ delimiter = '\'')
    {s t r r' : List Char}
    (h : enclose unseen delimiter s ++ r = enclose unseen delimiter t ++ r') : s = t ∧ r = r' := by
  have hend (r : List Char) : readCharacter delimiter (delimiter :: r) = none := by
    rw [readCharacter, if_pos rfl]
  have hbody : s.flatMap (escape unseen delimiter) ++ delimiter :: r =
      t.flatMap (escape unseen delimiter) ++ delimiter :: r' := by
    simpa [enclose] using h
  clear h
  -- Both sides are read in step, so one text ends together with the other.
  induction s generalizing t with
  | nil =>
    cases t with
    | nil => exact ⟨rfl, (List.cons.inj hbody).2⟩
    | cons d t =>
      have hread := congrArg (readCharacter delimiter) hbody
      rw [List.flatMap_nil, List.nil_append, hend, List.flatMap_cons, List.append_assoc,
        readCharacter_escape hdelimiter] at hread
      cases hread
  | cons c s ih =>
    have hread := congrArg (readCharacter delimiter) hbody
    rw [List.flatMap_cons, List.append_assoc, readCharacter_escape hdelimiter] at hread
    cases t with
    | nil =>
      rw [List.flatMap_nil, List.nil_append, hend] at hread
      cases hread
    | cons d t =>
      rw [List.flatMap_cons, List.append_assoc, readCharacter_escape hdelimiter] at hread
      obtain ⟨rfl, hrest⟩ := Prod.mk.inj (Option.some.inj hread)
      obtain ⟨rfl, rfl⟩ := ih hrest
      exact ⟨rfl, rfl⟩

theorem quotedWith_inj {s t : String} : quotedWith unseen s = quotedWith unseen t ↔ s = t := by
  refine ⟨fun h => ?_, congrArg (quotedWith unseen)⟩
  have hlist := congrArg String.toList h
  rw [quotedWith, quotedWith, String.toList_ofList, String.toList_ofList] at hlist
  have htext := enclose_append_inj (.inl rfl) (congrArg (· ++ []) hlist)
  exact String.toList_inj.mp htext.1

theorem quotedChar_append_inj {c d : Char} {s t : String}
    (h : quotedChar c ++ s = quotedChar d ++ t) : c = d ∧ s = t := by
  have hlist := congrArg String.toList h
  rw [String.toList_append, String.toList_append, quotedChar, quotedChar, String.toList_ofList,
    String.toList_ofList] at hlist
  obtain ⟨hchar, hrest⟩ := enclose_append_inj (.inr rfl) hlist
  exact ⟨(List.cons.inj hchar).1, String.toList_inj.mp hrest⟩

/-! ### Line breaks -/

/-- A quoted text stands on one line. -/
theorem newline_not_mem_enclose (hdelimiter : delimiter ≠ '\n') (text : List Char) :
    '\n' ∉ enclose unseen delimiter text := by
  have hescape (c : Char) : '\n' ∉ escape unseen delimiter c := by
    have hnumeral : '\n' ∉ hexNumeral c.toNat := not_mem_hexNumeral (by simp [Hex.lowercase]) _
    unfold escape
    by_cases hnewline : c = '\n'
    · subst hnewline
      simp
    · repeat' split
      all_goals simp [hnumeral, Ne.symm hnewline]
  rw [enclose]
  simp only [List.mem_cons, List.mem_append, List.mem_flatMap, List.not_mem_nil, or_false]
  rintro (hstart | ⟨c, -, hc⟩ | hend)
  · exact hdelimiter hstart.symm
  · exact hescape c hc
  · exact hdelimiter hend.symm

end KeyDigest.Text
