import Mathlib.Data.List.TakeWhile
import KeyDigest.Json.Scan

/-! # Scanning a string literal

The grammar of string literals as relations that leave open how a reader finds out, and the scanners
against it.  A scanner succeeds just when the text begins with what the grammar allows there, and
then it leaves what follows, so both directions are one statement for each scanner, from the
hexadecimal digit up to the literal (`literal_eq_ok_iff`).  The scanner looks at a character only
when all before it are read, which is why what follows the literal never matters.
-/

/-! ## The grammar

Four digits write one UTF-16 unit (`HexUnit`), an escape one character (`Escape`), what stands
between the quotes a text (`Body`), and a literal the same (`Literal`).  A text has many literals,
and a literal has one text.
-/

namespace KeyDigest.Json.Grammar

/-- The characters that may stand around a value. -/
def Blanks (text : List Char) : Prop :=
  ∀ c ∈ text, c ∈ [' ', '\t', '\n', '\r']

/-- A digit of either case and its value. -/
def Digit (c : Char) (value : Nat) : Prop :=
  "0123456789abcdef".toList[value]? = some c ∨ "0123456789ABCDEF".toList[value]? = some c

inductive HexUnit : List Char → Nat → Prop where
  | digits {a b c d : Char} {w x y z : Nat} :
      Digit a w → Digit b x → Digit c y → Digit d z →
      HexUnit [a, b, c, d] (4096 * w + 256 * x + 16 * y + z)

/-- The letters after a backslash, each with the character that it stands for. -/
def letters : List (Char × Char) :=
  [('"', '"'), ('\\', '\\'), ('/', '/'), ('b', '\x08'), ('f', '\x0c'), ('n', '\n'), ('r', '\r'),
   ('t', '\t')]

/-- What follows a backslash and the character that it writes. -/
inductive Escape : List Char → Char → Prop where
  | letter {c stands : Char} :
      (c, stands) ∈ letters → Escape [c] stands
  | unit {digits : List Char} {value : Nat} :
      HexUnit digits value → value < 0xD800 ∨ 0xE000 ≤ value →
      Escape ('u' :: digits) (Char.ofNat value)
  | pair {first second : List Char} {leading trailing : Nat} :
      HexUnit first leading → 0xD800 ≤ leading → leading < 0xDC00 →
      HexUnit second trailing → 0xDC00 ≤ trailing → trailing < 0xE000 →
      Escape ('u' :: first ++ '\\' :: 'u' :: second)
        (Char.ofNat (0x10000 + 1024 * (leading - 0xD800) + (trailing - 0xDC00)))

/-- What stands between the quotes and the characters that it writes. -/
inductive Body : List Char → List Char → Prop where
  | nil : Body [] []
  | plain {c : Char} {written text : List Char} :
      c ≠ '"' → c ≠ '\\' → 0x20 ≤ c.toNat → Body written text → Body (c :: written) (c :: text)
  | escape {c : Char} {escape written text : List Char} :
      Escape escape c → Body written text → Body ('\\' :: escape ++ written) (c :: text)

def Literal (written : List Char) (text : String) : Prop :=
  ∃ body, Body body text.toList ∧ written = '"' :: body ++ ['"']

end KeyDigest.Json.Grammar

/-! ## The scanners -/

namespace KeyDigest.Json.Scan

open Grammar

/-! ### Blanks -/

theorem isBlank_iff {c : Char} : isBlank c ↔ c ∈ [' ', '\t', '\n', '\r'] := by
  simp [isBlank, or_assoc]

theorem skipBlanks_append {blanks : List Char} (h : Blanks blanks) (text : List Char) :
    skipBlanks (blanks ++ text) = skipBlanks text :=
  List.dropWhile_append_of_pos fun c hc => isBlank_iff.mpr (h c hc)

theorem exists_blanks (text : List Char) :
    ∃ blanks, Blanks blanks ∧ text = blanks ++ skipBlanks text := by
  refine ⟨text.takeWhile isBlank, fun c hc => ?_, List.takeWhile_append_dropWhile.symm⟩
  exact isBlank_iff.mp (List.mem_takeWhile_imp hc)

theorem finish_eq_ok_iff {text : List Char} : finish text = .ok () ↔ Blanks text := by
  have hskip : (skipBlanks text).isEmpty ↔ Blanks text := by
    rw [List.isEmpty_iff, skipBlanks, List.dropWhile_eq_nil_iff]
    exact forall₂_congr fun c _ => isBlank_iff
  rw [finish, ← hskip]
  split <;> simp_all

/-! ### Digits -/

instance (c : Char) (value : Nat) : Decidable (Digit c value) :=
  inferInstanceAs (Decidable (_ ∨ _))

theorem toNat_lt_of_hexValue? {c : Char} {value : Nat} (h : hexValue? c = some value) :
    c.toNat < 128 := by
  have hbound {last : Char} (hlast : c ≤ last) (hascii : last.toNat < 128) : c.toNat < 128 :=
    Nat.lt_of_le_of_lt hlast hascii
  unfold hexValue? at h
  split at h
  · rename_i hc
    exact hbound hc.2 (by decide)
  · split at h
    · rename_i hc
      exact hbound hc.2 (by decide)
    · split at h
      · rename_i hc
        exact hbound hc.2 (by decide)
      · cases h

theorem digit_of_hexValue?_ofNat :
    ∀ n : Fin 128, ∀ value ∈ hexValue? (Char.ofNat n), Digit (Char.ofNat n) value := by
  decide

theorem hexValue?_getElem :
    ∀ n : Fin 16, hexValue? "0123456789abcdef".toList[n] = some n.val ∧
      hexValue? "0123456789ABCDEF".toList[n] = some n.val := by
  decide

theorem hexValue?_eq_some_iff {c : Char} {value : Nat} :
    hexValue? c = some value ↔ Digit c value := by
  constructor
  · intro h
    have hdigit := digit_of_hexValue?_ofNat ⟨c.toNat, toNat_lt_of_hexValue? h⟩
    simp only [Char.ofNat_toNat] at hdigit
    exact hdigit value h
  · rintro (h | h)
    · obtain ⟨hvalue, rfl⟩ := List.getElem?_eq_some_iff.mp h
      exact (hexValue?_getElem ⟨value, hvalue⟩).1
    · obtain ⟨hvalue, rfl⟩ := List.getElem?_eq_some_iff.mp h
      exact (hexValue?_getElem ⟨value, hvalue⟩).2

/-! ### Units -/

theorem unitValue?_eq_some_iff {a b c d : Char} {value : Nat} :
    unitValue? a b c d = some value ↔ HexUnit [a, b, c, d] value := by
  have hsum (w x y z : Nat) :
      ((w * 16 + x) * 16 + y) * 16 + z = 4096 * w + 256 * x + 16 * y + z := by omega
  constructor
  · intro h
    simp only [unitValue?, Option.bind_eq_bind, Option.bind_eq_some_iff, Option.pure_def,
      Option.some.injEq, hexValue?_eq_some_iff] at h
    obtain ⟨w, ha, x, hb, y, hc, z, hd, rfl⟩ := h
    rw [hsum]
    exact .digits ha hb hc hd
  · rintro ⟨ha, hb, hc, hd⟩
    rw [← hexValue?_eq_some_iff] at ha hb hc hd
    rw [unitValue?, ha, hb, hc, hd, ← hsum]
    rfl

theorem unit_append {digits : List Char} {value : Nat} (h : HexUnit digits value)
    (rest : List Char) : unit (digits ++ rest) = .ok (value, rest) := by
  cases h with
  | digits ha hb hc hd =>
    have hvalue := HexUnit.digits ha hb hc hd
    rw [← unitValue?_eq_some_iff] at hvalue
    simp only [unit, List.cons_append, List.nil_append, hvalue]

theorem unit_eq_ok_iff {text rest : List Char} {value : Nat} :
    unit text = .ok (value, rest) ↔
      ∃ digits, HexUnit digits value ∧ text = digits ++ rest := by
  constructor
  · intro h
    unfold unit at h
    split at h
    · split at h
      · rename_i hvalue
        rw [unitValue?_eq_some_iff] at hvalue
        obtain ⟨rfl, rfl⟩ := Prod.mk.inj (Except.ok.inj h)
        exact ⟨_, hvalue, rfl⟩
      · cases h
    · cases h
  · rintro ⟨digits, hdigits, rfl⟩
    exact unit_append hdigits rest

theorem isTrailing_iff {value : Nat} : isTrailing value ↔ 0xDC00 ≤ value ∧ value < 0xE000 := by
  simp [isTrailing]

theorem isLeading_iff {value : Nat} : isLeading value ↔ 0xD800 ≤ value ∧ value < 0xDC00 := by
  simp [isLeading]

theorem trailingUnit_append {digits : List Char} {value : Nat} (h : HexUnit digits value)
    (hrange : 0xDC00 ≤ value ∧ value < 0xE000) (rest : List Char) :
    trailingUnit ('\\' :: 'u' :: (digits ++ rest)) = .ok (value, rest) := by
  rw [← isTrailing_iff] at hrange
  simp only [trailingUnit, unit_append h rest, hrange, if_true]

theorem trailingUnit_eq_ok_iff {text rest : List Char} {value : Nat} :
    trailingUnit text = .ok (value, rest) ↔
      ∃ digits, HexUnit digits value ∧ (0xDC00 ≤ value ∧ value < 0xE000) ∧
        text = '\\' :: 'u' :: digits ++ rest := by
  constructor
  · intro h
    unfold trailingUnit at h
    split at h
    · split at h
      · rename_i hunit
        split at h
        · rename_i htrailing
          rw [isTrailing_iff] at htrailing
          obtain ⟨rfl, rfl⟩ := Prod.mk.inj (Except.ok.inj h)
          rw [unit_eq_ok_iff] at hunit
          obtain ⟨digits, hdigits, rfl⟩ := hunit
          exact ⟨digits, hdigits, htrailing, rfl⟩
        · cases h
      · cases h
    all_goals cases h
  · rintro ⟨digits, hdigits, htrailing, rfl⟩
    exact trailingUnit_append hdigits htrailing rest

/-! ### Escapes -/

theorem escaped?_eq_some_iff {c stands : Char} :
    escaped? c = some stands ↔ (c, stands) ∈ letters := by
  constructor
  · intro h
    unfold escaped? at h
    split at h
    case h_9 => cases h
    all_goals
      cases h
      simp [letters]
  · intro h
    have hall : ∀ letter ∈ letters, escaped? letter.1 = some letter.2 := by decide
    exact hall _ h

theorem paired_eq (leading trailing : Nat) :
    paired leading trailing =
      Char.ofNat (0x10000 + 1024 * (leading - 0xD800) + (trailing - 0xDC00)) := by
  rw [paired, Nat.mul_comm]

theorem escape_of_numbered {text rest : List Char} {c : Char} (h : numbered text = .ok (c, rest)) :
    ∃ written, Escape ('u' :: written) c ∧ text = written ++ rest := by
  -- A trailing unit is refused, a leading one wants a trailing one behind it, and any other is a
  -- character by itself.
  unfold numbered at h
  split at h
  · cases h
  · rename_i hfirst
    rw [unit_eq_ok_iff] at hfirst
    obtain ⟨first, hunit, rfl⟩ := hfirst
    split at h
    · cases h
    · rename_i htrailing
      rw [isTrailing_iff] at htrailing
      split at h
      · rename_i hleading
        rw [isLeading_iff] at hleading
        obtain ⟨hlow, hhigh⟩ := hleading
        split at h
        · rename_i hsecond
          obtain ⟨rfl, rfl⟩ := Prod.mk.inj (Except.ok.inj h)
          rw [trailingUnit_eq_ok_iff] at hsecond
          obtain ⟨second, hpaired, hrange, rfl⟩ := hsecond
          refine ⟨first ++ '\\' :: 'u' :: second, ?_, by simp⟩
          rw [paired_eq]
          exact .pair hunit hlow hhigh hpaired hrange.1 hrange.2
        · cases h
      · rename_i hleading
        rw [isLeading_iff] at hleading
        obtain ⟨rfl, rfl⟩ := Prod.mk.inj (Except.ok.inj h)
        exact ⟨first, .unit hunit (by omega), rfl⟩

theorem numbered_of_unit {digits : List Char} {value : Nat} (hdigits : HexUnit digits value)
    (hvalue : value < 0xD800 ∨ 0xE000 ≤ value) (rest : List Char) :
    numbered (digits ++ rest) = .ok (Char.ofNat value, rest) := by
  have htrailing : ¬ isTrailing value := by
    rw [isTrailing_iff]
    omega
  have hleading : ¬ isLeading value := by
    rw [isLeading_iff]
    omega
  simp only [numbered, unit_append hdigits rest, if_neg htrailing, if_neg hleading]

theorem numbered_of_pair {first second : List Char} {leading trailing : Nat}
    (hfirst : HexUnit first leading) (hleading : 0xD800 ≤ leading ∧ leading < 0xDC00)
    (hsecond : HexUnit second trailing) (htrailing : 0xDC00 ≤ trailing ∧ trailing < 0xE000)
    (rest : List Char) :
    numbered (first ++ '\\' :: 'u' :: (second ++ rest)) =
      .ok (Char.ofNat (0x10000 + 1024 * (leading - 0xD800) + (trailing - 0xDC00)), rest) := by
  have hunit := unit_append hfirst ('\\' :: 'u' :: (second ++ rest))
  have hpair := trailingUnit_append hsecond htrailing rest
  have hfirstOnly : ¬ isTrailing leading := by
    rw [isTrailing_iff]
    omega
  rw [← isLeading_iff] at hleading
  simp only [numbered, hunit, if_neg hfirstOnly, if_pos hleading, hpair, paired_eq]

theorem escape_of_letter {letter stands : Char} (h : (letter, stands) ∈ letters)
    (rest : List Char) : escape (letter :: rest) = .ok (stands, rest) := by
  have hnumber : letter ≠ 'u' := by
    rintro rfl
    simp [letters] at h
  rw [← escaped?_eq_some_iff] at h
  rw [escape, h]
  rintro rfl
  exact hnumber rfl

theorem escape_append {written : List Char} {c : Char} (h : Escape written c) (rest : List Char) :
    escape (written ++ rest) = .ok (c, rest) := by
  cases h with
  | letter hmem => exact escape_of_letter hmem rest
  | unit hdigits hvalue => exact numbered_of_unit hdigits hvalue rest
  | pair hfirst hlow hhigh hsecond htlow hthigh =>
    rw [List.append_assoc]
    exact numbered_of_pair hfirst ⟨hlow, hhigh⟩ hsecond ⟨htlow, hthigh⟩ rest

theorem escape_eq_ok_iff {text rest : List Char} {c : Char} :
    escape text = .ok (c, rest) ↔ ∃ written, Escape written c ∧ text = written ++ rest := by
  constructor
  · intro h
    unfold escape at h
    split at h
    · cases h
    · obtain ⟨written, hescape, rfl⟩ := escape_of_numbered h
      exact ⟨'u' :: written, hescape, rfl⟩
    · split at h
      · rename_i hstands
        rw [escaped?_eq_some_iff] at hstands
        obtain ⟨rfl, rfl⟩ := Prod.mk.inj (Except.ok.inj h)
        exact ⟨_, .letter hstands, rfl⟩
      · cases h
  · rintro ⟨written, hescape, rfl⟩
    exact escape_append hescape rest

/-! ### Literals -/

theorem literalBody_of_body {body read : List Char} (h : Body body read) (done rest : List Char) :
    literalBody done (body ++ '"' :: rest) = .ok (done.reverse ++ read, rest) := by
  induction h generalizing done with
  | nil => simp [literalBody]
  | @plain c written text hquote hbackslash hseen _ ih =>
    rw [List.cons_append, literalBody, if_neg (by omega), ih, List.reverse_cons, List.append_assoc]
    · rfl
    · exact hquote
    · exact hbackslash
  | @escape c escape written text hescape _ ih =>
    -- The scanner takes the escape as a whole, and the induction goes on behind it.
    have hread := escape_append hescape (written ++ '"' :: rest)
    rw [List.append_assoc, List.cons_append, literalBody]
    split
    · rename_i heq
      rw [hread] at heq
      obtain ⟨rfl, rfl⟩ := Prod.mk.inj (Except.ok.inj heq)
      rw [ih, List.reverse_cons, List.append_assoc]
      rfl
    · rename_i heq
      rw [hread] at heq
      cases heq

theorem body_of_literalBody {done text chars rest : List Char}
    (h : literalBody done text = .ok (chars, rest)) :
    ∃ body read, Body body read ∧ text = body ++ '"' :: rest ∧ chars = done.reverse ++ read := by
  -- Of the scanner's cases only three succeed: the closing quote, an escape, a plain character.
  fun_induction literalBody done text with
  | case1 => cases h
  | case2 =>
    obtain ⟨rfl, rfl⟩ := Prod.mk.inj (Except.ok.inj h)
    exact ⟨[], [], .nil, rfl, by simp⟩
  | case3 done after c left hescape ih =>
    rw [escape_eq_ok_iff] at hescape
    obtain ⟨written, hwritten, rfl⟩ := hescape
    obtain ⟨body, read, hbody, rfl, rfl⟩ := ih h
    exact ⟨'\\' :: written ++ body, c :: read, .escape hwritten hbody, by simp, by simp⟩
  | case4 => cases h
  | case5 => cases h
  | case6 done c left hquote hbackslash hseen ih =>
    obtain ⟨body, read, hbody, rfl, rfl⟩ := ih h
    have hplain := Body.plain (c := c) hquote hbackslash (by omega) hbody
    exact ⟨c :: body, c :: read, hplain, rfl, by simp⟩

/-- The scanner reads the text of a literal and leaves what follows it, whatever that is. -/
theorem literal_eq_ok_iff {text rest : List Char} {read : String} :
    literal text = .ok (read, rest) ↔
      ∃ body, Body body read.toList ∧ text = body ++ '"' :: rest := by
  constructor
  · intro h
    unfold literal at h
    split at h
    · rename_i hbody
      obtain ⟨rfl, rfl⟩ := Prod.mk.inj (Except.ok.inj h)
      obtain ⟨body, read, hread, htext, rfl⟩ := body_of_literalBody hbody
      exact ⟨body, by simpa using hread, htext⟩
    · cases h
  · rintro ⟨body, hbody, rfl⟩
    rw [literal, literalBody_of_body hbody]
    simp

example : (literal "\\uD83D\\uDE00\\/\" x".toList).map Prod.fst = .ok "😀/" := by decide +kernel

end KeyDigest.Json.Scan
