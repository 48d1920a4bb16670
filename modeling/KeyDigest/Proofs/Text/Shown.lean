import KeyDigest.Proofs.Collection.Separated
import KeyDigest.Proofs.Text.Quoted
import KeyDigest.Text.Shown

/-! # What a shown value gives away

A value that is spread out is a list of lines, and the lines of its parts stand further in.  As long
as no line is broken, that is the same as writing the text of each part with blanks put in front of
whatever begins a line (`render_spread`).  Blanks put in that way can always be taken out again
(`indent_inj`), so a value spread out tells as much about its parts as one on a single line.
-/

namespace KeyDigest.Shown

open Text

/-- The value has a line, and none of its lines is broken. -/
structure Unbroken (shown : Shown) : Prop where
  lines_ne_nil : shown.lines ≠ []
  not_mem_line : ∀ line ∈ shown.lines, '\n' ∉ line.toList

/-! ## Unbroken lines -/

theorem unbroken_atom {text : String} (h : '\n' ∉ text.toList) : (atom text).Unbroken :=
  ⟨List.cons_ne_nil _ _, fun _ hline => List.mem_singleton.mp hline ▸ h⟩

theorem unbroken_field {name : String} (hname : '\n' ∉ name.toList) {value : Shown}
    (h : value.Unbroken) : (field name value).Unbroken := by
  obtain ⟨hne, hlines⟩ := h
  cases hvalue : value.lines with
  | nil => exact absurd hvalue hne
  | cons first rest =>
    rw [hvalue] at hlines
    obtain ⟨hfirst, hrest⟩ := List.forall_mem_cons.mp hlines
    have hfield : (field name value).lines = (name ++ ": " ++ first) :: rest := by
      simp only [field, hvalue]
    constructor
    · rw [hfield]
      exact List.cons_ne_nil _ _
    · rw [hfield]
      refine List.forall_mem_cons.mpr ⟨?_, hrest⟩
      simp [hname, hfirst]

theorem not_mem_partLines {lines : List String} (h : ∀ line ∈ lines, '\n' ∉ line.toList) :
    ∀ line ∈ partLines lines, '\n' ∉ line.toList := by
  fun_induction partLines lines with
  | case1 => exact h
  | case2 last =>
    have hlast := h last List.mem_cons_self
    simpa using hlast
  | case3 line rest _ ih =>
    obtain ⟨hline, hrest⟩ := List.forall_mem_cons.mp h
    refine List.forall_mem_cons.mpr ⟨?_, ih hrest⟩
    simpa using hline

section Spread

variable {opening closing : String} {parts : List Shown}

theorem spread_ne_nil : spread opening closing parts ≠ [] := by
  cases parts <;> exact List.cons_ne_nil _ _

theorem not_mem_spread (hopening : '\n' ∉ opening.toList) (hclosing : '\n' ∉ closing.toList)
    (hparts : ∀ part ∈ parts, part.Unbroken) :
    ∀ line ∈ spread opening closing parts, '\n' ∉ line.toList := by
  cases parts with
  | nil => simp [spread, hopening, hclosing]
  | cons part parts =>
    intro line hline
    simp only [spread, List.cons_append, List.mem_cons, List.mem_append, List.mem_flatMap,
      List.not_mem_nil, or_false] at hline
    obtain rfl | ⟨part', hpart, hmem⟩ | rfl := hline
    · exact hopening
    · have hunbroken := hparts part' (List.mem_cons.mpr hpart)
      exact not_mem_partLines hunbroken.not_mem_line line hmem
    · exact hclosing

end Spread

theorem unbroken_list {items : List Shown} (h : ∀ item ∈ items, item.Unbroken) :
    (list items).Unbroken :=
  ⟨spread_ne_nil, not_mem_spread (by decide) (by decide) h⟩

theorem unbroken_record {name : String} (hname : '\n' ∉ name.toList) {fields : List Shown}
    (h : ∀ field ∈ fields, field.Unbroken) : (record name fields).Unbroken :=
  ⟨spread_ne_nil, not_mem_spread (by simpa using hname) (by decide) h⟩

/-- Lines that stand under each other are known from the text that they make up. -/
theorem lines_eq_of_render {a b : Shown} (ha : a.Unbroken) (hb : b.Unbroken)
    (h : a.render true = b.render true) : a.lines = b.lines := by
  rw [render, render, if_pos rfl, if_pos rfl] at h
  have hnewline : "\n".toList = ['\n'] := rfl
  exact intercalate_text_inj hnewline ha.not_mem_line hb.not_mem_line
    ha.lines_ne_nil hb.lines_ne_nil h

/-! ## Indentation -/

/-- Four blanks in front of everything that begins a line, where `atStart` says whether the first
character does. -/
def indentFrom : Bool → List Char → List Char
  | _, [] => []
  | atStart, c :: text =>
    (if atStart then "    ".toList else []) ++ c :: indentFrom (c = '\n') text

def indent (text : String) : String :=
  String.ofList (indentFrom true text.toList)

theorem indentFrom_inj {atStart : Bool} {s t : List Char}
    (h : indentFrom atStart s = indentFrom atStart t) : s = t := by
  induction s generalizing atStart t with
  | nil =>
    cases t with
    | nil => rfl
    | cons d t => simp [indentFrom] at h
  | cons c s ih =>
    cases t with
    | nil => simp [indentFrom] at h
    | cons d t =>
      -- Both have the same blanks in front, and go on alike after the same character.
      rw [indentFrom, indentFrom] at h
      obtain ⟨rfl, hrest⟩ := List.cons.inj (List.append_cancel_left h)
      rw [ih hrest]

/-- Nothing is lost by indentation, whatever it is done to. -/
theorem indent_inj {s t : String} : indent s = indent t ↔ s = t := by
  refine ⟨fun h => ?_, congrArg indent⟩
  have hlist := congrArg String.toList h
  rw [indent, indent, String.toList_ofList, String.toList_ofList] at hlist
  exact String.toList_inj.mp (indentFrom_inj hlist)

theorem indentFrom_append_newline {line : List Char} (h : '\n' ∉ line) (atStart : Bool)
    (rest : List Char) :
    indentFrom atStart (line ++ '\n' :: rest) =
      (if atStart then "    ".toList else []) ++ line ++ '\n' :: indentFrom true rest := by
  induction line generalizing atStart with
  | nil => simp [indentFrom]
  | cons c line ih =>
    obtain ⟨hc, hline⟩ : '\n' ≠ c ∧ '\n' ∉ line := by simpa using h
    rw [List.cons_append, indentFrom, ih hline]
    simp [hc.symm]

theorem indent_line {line : String} (h : '\n' ∉ line.toList) (rest : String) :
    indent (line ++ "\n" ++ rest) = "    " ++ line ++ "\n" ++ indent rest := by
  apply String.toList_inj.mp
  have hindent := indentFrom_append_newline h true rest.toList
  simpa [indent] using hindent

/-- The lines of a part are its text, indented, with a comma put behind it. -/
theorem join_partLines {lines : List String} (hne : lines ≠ [])
    (h : ∀ line ∈ lines, '\n' ∉ line.toList) :
    String.join ((partLines lines).map (· ++ "\n")) = indent ("\n".intercalate lines ++ ",\n") := by
  fun_induction partLines lines with
  | case1 => exact absurd rfl hne
  | case2 last =>
    have hlast : '\n' ∉ (last ++ ",").toList := by
      have := h last List.mem_cons_self
      simpa using this
    have hindent := indent_line hlast ""
    simpa [String.append_assoc, indent, indentFrom] using hindent.symm
  | case3 line rest hrest ih =>
    obtain ⟨hline, hlines⟩ := List.forall_mem_cons.mp h
    have hindent := indent_line hline ("\n".intercalate rest ++ ",\n")
    rw [List.map_cons, String.join_cons, ih hrest hlines,
      String.intercalate_cons_of_ne_nil hrest]
    simpa only [String.append_assoc] using hindent.symm

theorem intercalate_framed (opening closing : String) (lines : List String) :
    "\n".intercalate (opening :: (lines ++ [closing])) =
      opening ++ "\n" ++ String.join (lines.map (· ++ "\n")) ++ closing := by
  induction lines generalizing opening with
  | nil => simp
  | cons line lines ih =>
    rw [List.cons_append, String.intercalate_cons_cons, ih]
    simp [String.append_assoc]

/-- A value that is spread out holds the indented texts of its parts, a comma behind each. -/
theorem render_spread (opening closing : String) {parts : List Shown} (hne : parts ≠ [])
    (hparts : ∀ part ∈ parts, part.Unbroken) :
    "\n".intercalate (spread opening closing parts) =
      opening ++ "\n" ++ String.join (parts.map fun part => indent (part.render true ++ ",\n")) ++
        closing := by
  have hjoin : String.join ((parts.flatMap fun part => partLines part.lines).map (· ++ "\n")) =
      String.join (parts.map fun part => indent (part.render true ++ ",\n")) := by
    clear hne
    induction parts with
    | nil => rfl
    | cons part parts ih =>
      obtain ⟨hpart, hrest⟩ := List.forall_mem_cons.mp hparts
      rw [List.flatMap_cons, List.map_append, String.join_append, ih hrest,
        join_partLines hpart.lines_ne_nil hpart.not_mem_line, List.map_cons, String.join_cons]
      rfl
  cases parts with
  | nil => exact absurd rfl hne
  | cons part parts =>
    rw [spread, List.cons_append, intercalate_framed, hjoin]
    exact List.cons_ne_nil _ _

/-! ## What is told about the parts -/

theorem render_applied (name : String) (part : Shown) (h : part.Unbroken) (spreadOut : Bool) :
    (applied name [part]).render spreadOut =
      if spreadOut then name ++ "(\n" ++ indent (part.render true ++ ",\n") ++ ")"
      else name ++ "(" ++ part.line ++ ")" := by
  cases spreadOut with
  | false => simp [render, applied, joined]
  | true =>
    have hspread := render_spread (name ++ "(") ")" (List.cons_ne_nil part []) (by simpa using h)
    simpa [render, applied, String.append_assoc] using hspread

/-- One part under a name is told from another in both forms. -/
theorem render_applied_inj {name : String} {p q : Shown} (hp : p.Unbroken) (hq : q.Unbroken)
    {spreadOut : Bool} :
    (applied name [p]).render spreadOut = (applied name [q]).render spreadOut ↔
      p.render spreadOut = q.render spreadOut := by
  rw [render_applied name p hp, render_applied name q hq]
  cases spreadOut with
  | false => simp [render]
  | true => simp [indent_inj]

theorem render_applied_ne {name name' : String} (h : Apart name name') {p q : Shown}
    (hp : p.Unbroken) (hq : q.Unbroken) (spreadOut : Bool) :
    (applied name [p]).render spreadOut ≠ (applied name' [q]).render spreadOut := by
  rw [render_applied name p hp, render_applied name' q hq]
  cases spreadOut with
  | false =>
    simp only [String.append_assoc]
    exact h.append_ne_append _ _
  | true =>
    simp only [String.append_assoc]
    exact h.append_ne_append _ _

theorem render_atom (text : String) (spreadOut : Bool) :
    (atom text).render spreadOut = text := by
  cases spreadOut with
  | false => rfl
  | true => simp [render, atom]

/-! ## Lists of numerals -/

/-- A text that can be told from its neighbours in a list. -/
structure Listable (text : String) : Prop where
  ne_empty : text ≠ ""
  comma_not_mem : ',' ∉ text.toList
  newline_not_mem : '\n' ∉ text.toList

theorem listable_toString (n : Nat) : Listable (toString n) where
  ne_empty h := by
    have hlist := congrArg String.toList h
    rw [toList_toString] at hlist
    exact Nat.toDigits_ne_nil hlist
  comma_not_mem := not_mem_toString (by decide) n
  newline_not_mem := not_mem_toString (by decide) n

theorem unbroken_atoms {texts : List String} (h : ∀ text ∈ texts, Listable text) :
    ∀ item ∈ texts.map atom, item.Unbroken := by
  intro item hitem
  obtain ⟨text, htext, rfl⟩ := List.mem_map.mp hitem
  exact unbroken_atom (h text htext).newline_not_mem

theorem unbroken_listed {texts : List String} (h : ∀ text ∈ texts, Listable text) :
    (list (texts.map atom)).Unbroken :=
  unbroken_list (unbroken_atoms h)

theorem joined_atoms (texts : List String) : joined (texts.map atom) = ", ".intercalate texts := by
  rw [joined, List.map_map]
  exact congrArg _ (List.map_id _)

theorem lines_listed (text : String) (texts : List String) :
    (list ((text :: texts).map atom)).lines =
      "[" :: (((text :: texts).map fun text => "    " ++ text ++ ",") ++ ["]"]) := by
  have hparts (texts : List String) : (texts.map atom).flatMap (fun part => partLines part.lines) =
      texts.map fun text => "    " ++ text ++ "," := by
    rw [List.flatMap_map, List.map_eq_flatMap]
    rfl
  rw [← hparts]
  rfl

/-- An empty list is not written as one that has an item. -/
theorem intercalate_ne_empty {text : String} (h : text ≠ "") (texts : List String) :
    ", ".intercalate (text :: texts) ≠ "" := by
  cases texts with
  | nil => simpa using h
  | cons => simp [String.intercalate_cons_cons]

theorem eq_of_line_listed {xs ys : List String} (hxs : ∀ x ∈ xs, Listable x)
    (hys : ∀ y ∈ ys, Listable y)
    (h : (list (xs.map atom)).line = (list (ys.map atom)).line) : xs = ys := by
  have htext : ", ".intercalate xs = ", ".intercalate ys := by
    simpa [list, joined_atoms] using h
  have hcomma : ", ".toList = [',', ' '] := rfl
  cases xs with
  | nil =>
    cases ys with
    | nil => rfl
    | cons y ys =>
      exact absurd htext.symm (intercalate_ne_empty (hys y List.mem_cons_self).ne_empty ys)
  | cons x xs =>
    cases ys with
    | nil => exact absurd htext (intercalate_ne_empty (hxs x List.mem_cons_self).ne_empty xs)
    | cons y ys =>
      exact intercalate_text_inj hcomma (fun x hx => (hxs x hx).comma_not_mem)
        (fun y hy => (hys y hy).comma_not_mem) (List.cons_ne_nil _ _) (List.cons_ne_nil _ _) htext

theorem eq_of_lines_listed {xs ys : List String}
    (h : (list (xs.map atom)).lines = (list (ys.map atom)).lines) : xs = ys := by
  -- An empty list stays on one line, so its first line has the closing bracket already.
  have hbracket : "[" ≠ "[]" := by decide
  cases xs with
  | nil =>
    cases ys with
    | nil => rfl
    | cons y ys =>
      rw [lines_listed] at h
      exact absurd (List.cons.inj h).1.symm hbracket
  | cons x xs =>
    rw [lines_listed] at h
    cases ys with
    | nil => exact absurd (List.cons.inj h).1 hbracket
    | cons y ys =>
      rw [lines_listed] at h
      have hlines := List.append_cancel_right (List.cons.inj h).2
      refine (List.map_inj_right fun s t hline => ?_).mp hlines
      rwa [String.append_left_inj, String.append_right_inj] at hline

theorem render_listed_inj (spreadOut : Bool) {xs ys : List String} (hxs : ∀ x ∈ xs, Listable x)
    (hys : ∀ y ∈ ys, Listable y) :
    (list (xs.map atom)).render spreadOut = (list (ys.map atom)).render spreadOut ↔ xs = ys := by
  refine ⟨fun h => ?_, fun h => h ▸ rfl⟩
  cases spreadOut with
  | false => exact eq_of_line_listed hxs hys h
  | true =>
    exact eq_of_lines_listed (lines_eq_of_render (unbroken_listed hxs) (unbroken_listed hys) h)

/-- A list with an item to a line. -/
def laidOutList : List String → String
  | [] => "[]"
  | items => "[\n" ++ String.join (items.map fun item => indent (item ++ ",\n")) ++ "]"

theorem render_listed {texts : List String} (h : ∀ text ∈ texts, Listable text) :
    (list (texts.map atom)).render true = laidOutList texts := by
  cases texts with
  | nil => rfl
  | cons text texts =>
    have hspread := render_spread "[" "]" (List.cons_ne_nil _ _) (unbroken_atoms h)
    simpa [render, list, laidOutList, Function.comp_def, atom] using hspread

end KeyDigest.Shown
